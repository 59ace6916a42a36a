/-
**The life of a session.**

A session is one authenticated transport to a jump host.  Dials ask for channels over it, and each
waits until the jump host answers.  A session ends by being closed or by losing its transport, and
it never comes back: what is still waiting then fails, and so does every later dial.  Adapters do
not keep a session alive, but a dial that is under way does.

A dial that waits takes notice of what has happened only when it is resumed.  If it then finds both
an acceptance and the end of the session, either may win.

Main definitions:

* `JumpHost.Session`, `JumpHost.Dial`, `JumpHost.Stage` — a session and its dials;
* `JumpHost.Session.dial`, `JumpHost.Session.requestChannel`, `JumpHost.Session.answer`,
  `JumpHost.Session.resume`, `JumpHost.Session.expire`, `JumpHost.Session.close`,
  `JumpHost.Session.lose`, `JumpHost.Session.drop` — what can happen;
* `JumpHost.Session.step` — the same as steps.

Main statements:

* `JumpHost.Session.isClosed_step` — a session that is closed stays closed;
* `JumpHost.Session.close_close` — closing again changes nothing.
-/

import JumpHost.Log
import JumpHost.Network.Endpoint

set_option autoImplicit false

namespace JumpHost

/-- Where a dial stands. -/
inductive Stage where
  /-- The jump host has not answered. -/
  | waiting
  /-- The jump host has accepted, or refused for a reason. -/
  | answered (refusal : Option String)
  | opened
  | failed (e : TunnelError)
  deriving DecidableEq

/-- A dial. -/
structure Dial where
  /-- The address as it was given. -/
  address : String
  /-- The channel that the jump host was asked for, if it was. -/
  asked : Option Endpoint
  stage : Stage
  deriving DecidableEq

/-- A dial that is under way. -/
def Dial.isPending (d : Dial) : Bool :=
  match d.stage with
  | .waiting => true
  | .answered _ => true
  | _ => false

/-- A session. -/
structure Session where
  /-- The address of the jump host. -/
  remote : String
  isClosed : Bool := false
  /-- The transport is gone. -/
  isLost : Bool := false
  /-- Nobody holds the session any more. -/
  isDropped : Bool := false
  /-- How often the jump host was told that the session ends. -/
  disconnects : Nat := 0
  /-- The dials in the order in which they began. -/
  dials : List Dial := []
  deriving DecidableEq

namespace Session

/-- The session has ended. -/
def isOver (s : Session) : Bool := s.isClosed || s.isLost

/-- The session is held by somebody or by a dial that is under way. -/
def isAlive (s : Session) : Bool := !s.isDropped || s.dials.any Dial.isPending

/-! ### What can happen -/

/-- Asks for a channel, unless the session has ended. -/
def requestChannel (s : Session) (address : String) (e : Endpoint) : Session :=
  let d : Dial :=
    if s.isOver then ⟨address, none, .failed .sessionClosed⟩ else ⟨address, some e, .waiting⟩
  { s with dials := s.dials ++ [d] }

/-- Dials an address. -/
def dial (s : Session) (address : String) : Session :=
  match Endpoint.ofAddress address with
  | .error e => { s with dials := s.dials ++ [⟨address, none, .failed e⟩] }
  | .ok e =>
    if s.isAlive then s.requestChannel address e
    else { s with dials := s.dials ++ [⟨address, none, .failed .sessionClosed⟩] }

/-- The stage of a dial to which an answer has come. -/
def answered (refusal : Option String) : Stage → Stage
  | .waiting => .answered refusal
  | stage => stage

/-- The answer of the jump host comes for a dial, unless the transport is gone. -/
def answer (s : Session) (n : Nat) (refusal : Option String) : Session :=
  if s.isLost then s
  else { s with dials := s.dials.modify n fun d => { d with stage := answered refusal d.stage } }

/-- How a channel is named in messages. -/
def channelName (d : Dial) : String :=
  match d.asked with
  | some e => s!"{e.host}:{e.port}"
  | none => d.address

/-- The stage of a dial that takes notice of what has happened. -/
def resumed (s : Session) (prefersEnd : Bool) (d : Dial) : Stage :=
  match d.stage with
  | .waiting => if s.isOver then .failed .sessionClosed else .waiting
  | .answered none => if s.isClosed && prefersEnd then .failed .sessionClosed else .opened
  | .answered (some reason) =>
    if s.isOver then .failed .sessionClosed
    else
      .failed (.channel s!"failed to open channel to {channelName d} via {s.remote}: {reason}")
  | stage => stage

/-- A dial takes notice of what has happened. -/
def resume (s : Session) (n : Nat) (prefersEnd : Bool) : Session :=
  { s with dials := s.dials.modify n fun d => { d with stage := s.resumed prefersEnd d } }

/-- The deadline of a dial passes. -/
def expire (s : Session) (n : Nat) (after : Duration) : Session :=
  let expired (d : Dial) : Dial :=
    if d.isPending then { d with stage := .failed (.timeout s!"dial {d.address}" after) } else d
  { s with dials := s.dials.modify n expired }

/-- Closes the session.  The jump host is told once, if it can be. -/
def close (s : Session) : Session :=
  if s.isClosed then s
  else { s with isClosed := true, disconnects := s.disconnects + if s.isLost then 0 else 1 }

/-- The report of closing the session. -/
def reportClose (s : Session) : List Event :=
  if s.isClosed then []
  else
    ⟨.info, s!"Closing SSH session to {s.remote}"⟩ ::
      if s.isLost then
        [⟨.debug, s!"SSH disconnect from {s.remote} failed: Channel send error"⟩]
      else []

/-- The transport is lost. -/
def lose (s : Session) : Session := { s with isLost := true }

/-- Whoever held the session lets go of it. -/
def drop (s : Session) : Session := { s with isDropped := true }

/-! ### Steps -/

/-- What can happen to a session. -/
inductive Step where
  | dial (address : String)
  | answer (n : Nat) (refusal : Option String)
  | resume (n : Nat) (prefersEnd : Bool)
  | expire (n : Nat) (after : Duration)
  | close
  | lose
  | drop
  deriving DecidableEq

/-- The session after a step. -/
def step (s : Session) : Step → Session
  | .dial address => s.dial address
  | .answer n refusal => s.answer n refusal
  | .resume n prefersEnd => s.resume n prefersEnd
  | .expire n after => s.expire n after
  | .close => s.close
  | .lose => s.lose
  | .drop => s.drop

/-- The session after several steps. -/
def run (s : Session) (steps : List Step) : Session := steps.foldl step s

/-- Closing again changes nothing. -/
theorem close_close (s : Session) : s.close.close = s.close := by
  unfold close
  by_cases h : s.isClosed <;> simp [h]

/-- A session that is closed stays closed. -/
theorem isClosed_step {s : Session} (h : s.isClosed) (e : Step) : (s.step e).isClosed := by
  cases e <;> simp only [step]
  case dial =>
    unfold dial requestChannel
    split
    · exact h
    · split <;> exact h
  case answer =>
    unfold answer
    split <;> exact h
  case resume => exact h
  case expire => exact h
  case close => simp [close, h]
  case lose => exact h
  case drop => exact h

end Session

end JumpHost

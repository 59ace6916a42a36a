/-
**Tunnels.**

A tunnel is an established session with an adapter that is registered under the identifier of its
engine.  Opening validates the whole configuration before anything is touched, and registers the
adapter last, so an attempt that fails leaves the registry as it was.  Closing takes two steps: the
binding goes first, unless a newer tunnel owns it, and then the session is closed.

Main definitions:

* `JumpHost.Adapter` — an adapter, told apart from all others by its number;
* `JumpHost.Switchboard` — a registry with the sessions and the adapters made so far;
* `JumpHost.Switchboard.bind` — makes and registers an adapter;
* `JumpHost.Tunnel`, `JumpHost.Tunnel.establish` — a tunnel and its opening;
* `JumpHost.Tunnel.unbind`, `JumpHost.Tunnel.hangUp` — the two steps of closing.

Main statements:

* `JumpHost.Tunnel.establish_of_validate` — a configuration that is refused changes nothing.
-/

import JumpHost.Registry
import JumpHost.Session.Establish

set_option autoImplicit false

namespace JumpHost

/-- A dial adapter. -/
structure Adapter where
  /-- No two adapters have the same number. -/
  number : Nat
  engine : Engine
  /-- The session that it dials through. -/
  session : Nat
  deriving DecidableEq

/-- A registry with the sessions and the adapters made so far. -/
structure Switchboard where
  registry : Registry Adapter := .empty
  /-- The sessions in the order in which they were established. -/
  sessions : List Session := []
  /-- How many adapters were made. -/
  adapters : Nat := 0

namespace Switchboard

/-- Adds a session, and gives its number. -/
def add (b : Switchboard) (s : Session) : Nat × Switchboard :=
  (b.sessions.length, { b with sessions := b.sessions ++ [s] })

/-- The adapter that is made next for an engine and a session. -/
def nextAdapter (b : Switchboard) (session : Nat) (engine : Engine) : Adapter :=
  ⟨b.adapters, engine, session⟩

/-- Makes an adapter for an engine and a session. -/
def adapt (b : Switchboard) (session : Nat) (engine : Engine) : Adapter × Switchboard :=
  (b.nextAdapter session engine, { b with adapters := b.adapters + 1 })

/-- Makes an adapter for an engine and a session, and registers it. -/
def bind (b : Switchboard) (session : Nat) (engine : Engine) : Adapter × Switchboard :=
  let (adapter, b) := b.adapt session engine
  (adapter, { b with registry := b.registry.register engine.identifier adapter })

/-- The report of registering an adapter. -/
def reportBind (b : Switchboard) (engine : Engine) (remote : String) : List Event :=
  b.registry.reportRegister engine.identifier ++
    [⟨.info,
      s!"Registered {engine} dial adapter as {engine.identifier} via {remote}"⟩]

/-- Applies a change to a session. -/
def onSession (b : Switchboard) (n : Nat) (f : Session → Session) : Switchboard :=
  { b with sessions := b.sessions.modify n f }

end Switchboard

/-- An established session with its registered adapter. -/
structure Tunnel where
  session : Nat
  remote : String
  engine : Engine
  adapter : Adapter
  deriving DecidableEq

namespace Tunnel

/-- The identifier under which the adapter is registered. -/
def identifier (t : Tunnel) : String := t.engine.identifier

/-- What comes of opening a tunnel. -/
structure Opening where
  attempt : Establishment Tunnel
  board : Switchboard

/-- Registers an adapter over a session that was established. -/
def register (b : Switchboard) (engine : Engine) (s : Session) (rest : Establishment Session) :
    Opening :=
  let (n, added) := b.add s
  let (adapter, bound) := added.bind n engine
  ⟨⟨.ok ⟨n, s.remote, engine, adapter⟩, rest.files,
    rest.events ++ b.reportBind engine s.remote, rest.acts⟩, bound⟩

/-- **Opens a tunnel.** -/
def establish (o : Outside) (c : Config) (t : FileTree) (b : Switchboard) : Opening :=
  match c.validate with
  | .error e => ⟨⟨.error (.config e), t, [], []⟩, b⟩
  | .ok (_, engine) =>
    let rest := Session.establish o c t
    match rest.result with
    | .error e => ⟨⟨.error e, rest.files, rest.events, rest.acts⟩, b⟩
    | .ok s => register b engine s rest

/-- A configuration that is refused changes nothing. -/
theorem establish_of_validate {c : Config} {e : ConfigError} (h : c.validate = .error e)
    (o : Outside) (t : FileTree) (b : Switchboard) :
    Tunnel.establish o c t b = ⟨⟨.error (.config e), t, [], []⟩, b⟩ := by
  simp [Tunnel.establish, h]

/-- The first step of closing: drops the binding, unless a newer tunnel owns it. -/
def unbind (t : Tunnel) (b : Switchboard) : Switchboard :=
  { b with registry := b.registry.release t.identifier t.adapter }

/-- The second step of closing: closes the session. -/
def hangUp (t : Tunnel) (b : Switchboard) : Switchboard := b.onSession t.session Session.close

/-- The report of closing a tunnel. -/
def reportClose (t : Tunnel) (b : Switchboard) : List Event :=
  match b.sessions[t.session]? with
  | some s => s.reportClose
  | none => []

end Tunnel

end JumpHost

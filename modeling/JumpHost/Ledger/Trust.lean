/-
**Trust on first use.**

Consulted once in every handshake.  An unknown host is learned and accepted, a known host must
present a key on file, and a known host that presents anything else is refused without a change to
the ledger.

Main definitions:

* `JumpHost.Acceptance` — why a host key was accepted;
* `JumpHost.Ledger.verdict` — what an outcome means for the endpoint that presented the key;
* `JumpHost.Ledger.verify` — the policy on the contents of a ledger;
* `JumpHost.Ledger.verifyAt` — the policy on the ledger at a path, with what is reported.
-/

import JumpHost.Ledger.File
import JumpHost.Log

set_option autoImplicit false

namespace JumpHost

/-- Why a host key was accepted. -/
inductive Acceptance where
  /-- First contact; the key is now in the ledger. -/
  | learned
  /-- The key is one of those on file. -/
  | trusted
  deriving DecidableEq

namespace Ledger

/-- What an outcome means for the endpoint, named by `pattern`, that presented the key. -/
def verdict (pattern : String) (presented : HostKey) : Outcome → Except LedgerError Acceptance
  | .learned => .ok .learned
  | .matched => .ok .trusted
  | .mismatched expected => .error (.hostKeyMismatch pattern expected.key.label presented.label)

/-- **The policy on the contents of a ledger.** -/
def verify (contents : List UInt8) (host : String) (port : UInt16) (presented : HostKey) :
    Except LedgerError Acceptance × List UInt8 :=
  let pattern := HostPattern.ofEndpoint host port
  let (outcome, contents) := consult contents pattern presented
  (verdict pattern presented outcome, contents)

/-- The report of an outcome. -/
def report (path pattern : String) (presented : HostKey) : Outcome → Event
  | .learned =>
    ⟨.warning,
      s!"Permanently added '{pattern}' ({presented.label}) to the host-key ledger {path}"⟩
  | .matched => ⟨.debug, s!"Host key for {pattern} matches the ledger"⟩
  | .mismatched expected =>
    ⟨.error, s!"@@@ REMOTE HOST IDENTIFICATION HAS CHANGED for {pattern} @@@ " ++
      s!"ledger {path} has {expected.key.label}, server presented {presented.label}"⟩

/-- What verifying a key against the ledger at a path gives. -/
structure Verified where
  result : Except LedgerError Acceptance
  files : FileTree
  events : List Event

/-- **The policy on the ledger at a path.** -/
def verifyAt (t : FileTree) (path host : String) (port : UInt16) (presented : HostKey) :
    Verified :=
  let pattern := HostPattern.ofEndpoint host port
  match consultAt t path pattern presented with
  | (.error e, t) => ⟨.error e, t, []⟩
  | (.ok outcome, t) =>
    ⟨verdict pattern presented outcome, t, [report path pattern presented outcome]⟩

end Ledger

end JumpHost

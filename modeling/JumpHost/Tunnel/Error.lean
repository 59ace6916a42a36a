/-
**Why a tunnel cannot be used.**

An error keeps its cause, and callers branch on its kind.  One kind is critical: a host that
presents another key than the one on file must never be ignored.

Main definitions:

* `JumpHost.SshError`, `JumpHost.SqlError` — what the transport and the database report;
* `JumpHost.TunnelError` — the causes, with `message`, `kind`, `isCritical` and `sources`;
* `JumpHost.TunnelError.ofLedger` — the error that a ledger error means for a tunnel.

Main statements:

* `JumpHost.TunnelError.isCritical_iff` — only a host-key mismatch is critical.
-/

import JumpHost.Config
import JumpHost.Database.Fault
import JumpHost.Duration
import JumpHost.Ledger.File

set_option autoImplicit false

namespace JumpHost

/-! ### What others report -/

/-- What the transport reports. -/
inductive SshError where
  | disconnected
  | closedByRemote
  | notAuthenticated
  | unknownKey
  | keepaliveTimeout
  /-- The stream ended within a message. -/
  | earlyEnd
  /-- Any other report of the transport, by its text. -/
  | other (text : String)
  deriving DecidableEq

/-- The wording of the transport. -/
def SshError.message : SshError → String
  | disconnected => "Disconnected"
  | closedByRemote => "Connection closed by the remote side"
  | notAuthenticated => "Not yet authenticated"
  | unknownKey => "Unknown server key"
  | keepaliveTimeout => "Keepalive timeout"
  | earlyEnd => "early eof"
  | other text => text

/-- What the database or its driver reports. -/
inductive SqlError where
  | noRows
  | poolTimedOut
  | poolClosed
  | noColumn (name : String)
  /-- The server cannot be spoken to. -/
  | communication (reason : String)
  /-- The server refuses. -/
  | server (text : String)
  /-- The driver refuses its URL. -/
  | setting (fault : SettingFault)
  /-- A column is of a type that has no value here. -/
  | column (name typeName : String)
  deriving DecidableEq

namespace SqlError

/-- The wording of an error, and below it those of its causes. -/
def chain : SqlError → List String
  | noRows => ["no rows returned by a query that expected to return at least one row"]
  | poolTimedOut => ["pool timed out while waiting for an open connection"]
  | poolClosed => ["attempted to acquire a connection on a closed pool"]
  | noColumn name => [s!"no column found for name: {name}"]
  | communication reason => [s!"error communicating with database: {reason}", reason]
  | server text => [s!"error returned from database: {text}", text]
  | setting fault => ("error with configuration: " ++ fault.chain.headD "") :: fault.chain
  | column name typeName =>
    let cause := "Any driver does not support the Postgres type PgTypeInfo(" ++ typeName ++ ")"
    let wrapped := "error in Any driver mapping: " ++ cause
    [s!"error occurred while decoding column {name}: {wrapped}", wrapped, cause]

/-- The wording of an error. -/
def message (e : SqlError) : String := e.chain.headD ""

end SqlError

/-! ### Errors of a tunnel -/

/-- Why a tunnel cannot be used. -/
inductive TunnelError where
  | config (e : ConfigError)
  /-- A database URL that cannot be read, as it may be shown. -/
  | invalidUrl (shown : String)
  | notRegistered (identifier : String)
  | keyParse (path reason : String)
  | network (address reason : String)
  | timeout (action : String) (after : Duration)
  | ssh (e : SshError)
  | authentication (user method : String)
  | hostKeyMismatch (host expected presented : String)
  | ledger (reason : String)
  | channel (reason : String)
  | sessionClosed
  | sql (e : SqlError)
  deriving DecidableEq

/-- What callers branch on. -/
inductive TunnelErrorKind where
  | configuration
  | keyParse
  | network
  | authentication
  | hostKeyMismatch
  | ledger
  | channel
  | database
  deriving DecidableEq

namespace TunnelError

/-- The wording of an error. -/
def message : TunnelError → String
  | config e => s!"configuration error: {e.message}"
  | invalidUrl shown => s!"invalid database URL '{shown}'"
  | notRegistered identifier => s!"no dial adapter registered under '{identifier}'"
  | keyParse path reason => s!"failed to load private key {path}: {reason}"
  | network address reason => s!"failed to connect to {address}: {reason}"
  | timeout action after => s!"{action} timed out after {after.text}"
  | ssh e => s!"ssh error: {e.message}"
  | authentication user method => s!"ssh authentication rejected for user '{user}' ({method})"
  | hostKeyMismatch host expected presented =>
    s!"HOST KEY MISMATCH for {host}: the ledger trusts {expected} " ++
      s!"but the server presented {presented}. " ++
      "Refusing to connect; remove the stale entry by hand only if the key change is expected."
  | ledger reason => s!"host-key ledger error: {reason}"
  | channel reason => s!"channel error: {reason}"
  | sessionClosed => "ssh session closed"
  | sql e => s!"sql error: {e.message}"

/-- The kind of an error. -/
def kind : TunnelError → TunnelErrorKind
  | config _ => .configuration
  | invalidUrl _ => .configuration
  | notRegistered _ => .configuration
  | keyParse _ _ => .keyParse
  | network _ _ => .network
  | timeout _ _ => .network
  | ssh _ => .network
  | authentication _ _ => .authentication
  | hostKeyMismatch _ _ _ => .hostKeyMismatch
  | ledger _ => .ledger
  | channel _ => .channel
  | sessionClosed => .channel
  | sql _ => .database

/-- An error that must never be ignored. -/
def isCritical (e : TunnelError) : Bool := e.kind = .hostKeyMismatch

/-- Only a host-key mismatch is critical. -/
theorem isCritical_iff {e : TunnelError} :
    e.isCritical ↔ ∃ host expected presented, e = hostKeyMismatch host expected presented := by
  cases e <;> simp [isCritical, kind]

/-- The wordings of the causes of an error, the nearest first. -/
def sources : TunnelError → List String
  | config e => [e.message]
  | network _ reason => [reason]
  | ssh e => [e.message]
  | sql e => e.chain
  | _ => []

/-- The error that a ledger error means for a tunnel. -/
def ofLedger : LedgerError → TunnelError
  | .hostKeyMismatch host expected presented => hostKeyMismatch host expected presented
  | .io reason => ledger reason

end TunnelError

end JumpHost

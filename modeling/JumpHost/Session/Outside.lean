/-
**What a session meets outside.**

Everything that a session cannot decide itself is a value: whether a connection comes about, how
the server at its other end behaves, and whether the task that checks its host key comes to an end.
A server presents at most one host key, and only if the key is accepted does it come to an end of
the handshake and to authentication.

Main definitions:

* `JumpHost.Credential` — a credential that is ready to be presented;
* `JumpHost.Server`, `JumpHost.ConnectError`, `JumpHost.TaskFault`, `JumpHost.Outside` — the
  behaviour of the outside;
* `JumpHost.Outside.unreachable` — an outside in which no connection comes about;
* `JumpHost.Act` — what a session does to the outside.
-/

import JumpHost.Network.Endpoint
import JumpHost.Network.Reach
import JumpHost.PrivateKey

set_option autoImplicit false

namespace JumpHost

/-- A credential that is ready to be presented. -/
inductive Credential where
  | password (password : String)
  | key (key : PrivateKey)
  deriving DecidableEq

/-- The name of the way in which a credential is presented. -/
def Credential.method : Credential → String
  | password _ => "password"
  | key _ => "publickey"

/-- How the server at the other end of a connection behaves. -/
structure Server where
  /-- The host key that it presents; nothing if it never comes to that. -/
  presented : Option HostKey
  /-- How the handshake ends if the key is accepted or none is presented. -/
  handshake : Except SshError Unit
  /-- What the transport reports if the key is refused. -/
  afterRefusal : SshError
  /-- How it answers a user with a credential. -/
  accepts : String → Credential → Except SshError Bool

/-- Why a connection does not come about. -/
inductive ConnectError where
  | refused (e : OsError)
  /-- Nobody answered within the time that was given. -/
  | expired
  deriving DecidableEq

/-- How the task that checks a host key is lost. -/
structure TaskFault where
  /-- Why it was lost. -/
  reason : String
  /-- It had consulted the ledger by then. -/
  isLate : Bool
  /-- The transport passes the failure on; else it reports what it does of a key that is refused. -/
  isPassedOn : Bool
  deriving DecidableEq

/-- The outside of a session. -/
structure Outside where
  /-- What comes of an attempt to connect. -/
  connect : Endpoint → Except ConnectError Server
  /-- How the task that checks the host key is lost, if it is. -/
  taskFault : Option TaskFault := none
  /-- Where the ledger lies when the configuration does not say. -/
  ledgerPath : String

/-- An outside in which no connection comes about. -/
def Outside.unreachable (ledgerPath : String) : Outside where
  connect e := .error (.refused (Destination.host e.host e.port).refusal)
  ledgerPath

/-- What a session does to the outside. -/
inductive Act where
  | readKey (path : String)
  | connect (e : Endpoint)
  /-- Hands a presented key to the check against the ledger. -/
  | verify (key : HostKey)
  | authenticate (user : String)
  deriving DecidableEq

end JumpHost

/-
**Establishing a session.**

A session is established in a fixed order: the configuration is checked, the credential is loaded,
a connection is opened, the host key is checked against the ledger within the handshake, and the
user is authenticated.  The first of these that fails is the error, and nothing behind it is tried.
A host key that is refused is the error whatever the transport makes of it.  The check runs in a
task of its own, and a task that is lost leaves the error to the transport.

Main definitions:

* `JumpHost.Establishment` — what comes of an attempt: a result, the files, what was reported and
  what was done;
* `JumpHost.Session.checkKey`, `JumpHost.Session.handshake` — the check of a host key, and the
  handshake around it;
* `JumpHost.Session.establish` — the attempt.
-/

import JumpHost.Ledger.Trust
import JumpHost.Session.Lifecycle
import JumpHost.Session.Outside

set_option autoImplicit false

namespace JumpHost

/-- What comes of an attempt to establish something. -/
structure Establishment (α : Type) where
  result : Except TunnelError α
  files : FileTree
  events : List Event := []
  /-- What was done, in order. -/
  acts : List Act := []

namespace Session

/-- The credential of a configuration, read from its file if it is a key. -/
def readCredential (t : FileTree) : CredentialSource → Except TunnelError Credential
  | .password password => .ok (.password password)
  | .privateKey path passphrase =>
    match PrivateKey.load t path passphrase with
    | .ok key => .ok (.key key)
    | .error e => .error (.keyParse path e.message)

/-- The files that loading a credential reads. -/
def credentialActs : CredentialSource → List Act
  | .password _ => []
  | .privateKey path _ => [.readKey path]

/-- The connection to the jump host. -/
def connect (o : Outside) (c : Config) : Except TunnelError Server :=
  match o.connect ⟨c.sshHost, c.sshPort⟩ with
  | .ok server => .ok server
  | .error (.refused e) => .error (.network c.remoteAddress e.message)
  | .error .expired =>
    .error (.timeout s!"tcp connect to {c.remoteAddress}" (.ofSeconds c.connectTimeout.toNat))

/-- The file of the ledger. -/
def ledgerPath (o : Outside) (c : Config) : String := c.ledgerPath.getD o.ledgerPath

/-- Authenticates the user at the end of the handshake. -/
def authenticate (c : Config) (credential : Credential) (server : Server) (t : FileTree) :
    Establishment Session :=
  let acts := [Act.authenticate c.sshUser]
  match server.accepts c.sshUser credential with
  | .error e => ⟨.error (.ssh e), t, [], acts⟩
  | .ok false => ⟨.error (.authentication c.sshUser credential.method), t, [], acts⟩
  | .ok true =>
    ⟨.ok { remote := c.remoteAddress }, t,
      [⟨.info, s!"SSH session established to {c.remoteAddress} as {c.sshUser}"⟩], acts⟩

/-- Ends the handshake and authenticates the user. -/
def finish (c : Config) (credential : Credential) (server : Server) (t : FileTree) :
    Establishment Session :=
  match server.handshake with
  | .error e => ⟨.error (.ssh e), t, [], []⟩
  | .ok _ => authenticate c credential server t

/-- What the transport reports of a handshake in which the check of the host key was lost. -/
def lostError (fault : TaskFault) (server : Server) : TunnelError :=
  if fault.isPassedOn then .ledger s!"host-key verification task failed: {fault.reason}"
  else .ssh server.afterRefusal

/-- The error of a handshake: a host key that was refused goes before what the transport reports. -/
def handshakeError (refusal : Option LedgerError) (reported : TunnelError) : TunnelError :=
  match refusal with
  | some e => .ofLedger e
  | none => reported

/-- The check of a host key against the ledger, in a task of its own. -/
def checkKey (o : Outside) (c : Config) (server : Server) (key : HostKey) (t : FileTree) :
    Establishment Unit :=
  let v := Ledger.verifyAt t (ledgerPath o c) c.sshHost c.sshPort key
  match o.taskFault with
  | some fault =>
    -- a task that is lost has refused nothing
    let error := handshakeError none (lostError fault server)
    if fault.isLate then ⟨.error error, v.files, v.events, [.verify key]⟩
    else ⟨.error error, t, [], [.verify key]⟩
  | none =>
    match v.result with
    | .error e =>
      ⟨.error (handshakeError (some e) (.ssh server.afterRefusal)), v.files, v.events,
        [.verify key]⟩
    | .ok _ => ⟨.ok (), v.files, v.events, [.verify key]⟩

/-- The handshake with a server. -/
def handshake (o : Outside) (c : Config) (credential : Credential) (server : Server)
    (t : FileTree) : Establishment Session :=
  match server.presented with
  | none => finish c credential server t
  | some key =>
    let check := checkKey o c server key t
    match check.result with
    | .error e => ⟨.error e, check.files, check.events, check.acts⟩
    | .ok _ =>
      let rest := finish c credential server check.files
      { rest with events := check.events ++ rest.events, acts := check.acts ++ rest.acts }

/-- Establishes a session with a credential of the configuration. -/
def establishWith (o : Outside) (c : Config) (auth : CredentialSource) (t : FileTree) :
    Establishment Session :=
  let acts := credentialActs auth
  match readCredential t auth with
  | .error e => ⟨.error e, t, [], acts⟩
  | .ok credential =>
    let acts := acts ++ [.connect ⟨c.sshHost, c.sshPort⟩]
    match connect o c with
    | .error e => ⟨.error e, t, [], acts⟩
    | .ok server =>
      let rest := handshake o c credential server t
      { rest with acts := acts ++ rest.acts }

/-- **Establishes a session.** -/
def establish (o : Outside) (c : Config) (t : FileTree) : Establishment Session :=
  match c.checkEndpoint with
  | .error e => ⟨.error (.config e), t, [], []⟩
  | .ok _ =>
    match c.source with
    | .error e => ⟨.error (.config e), t, [], []⟩
    | .ok auth => establishWith o c auth t

end Session

end JumpHost

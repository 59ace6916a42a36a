/-
**The configuration of a tunnel.**

A configuration names the jump host, the database and one credential.  Password and key path are
independent optional fields, because that is how a document spells them; `source` resolves them
into the one source of the credential and rejects anything but exactly one.

Main definitions:

* `JumpHost.Config` — the eleven fields and their defaults;
* `JumpHost.CredentialSource` — where the credential comes from;
* `JumpHost.ConfigError` — what can be wrong with a configuration, and its wording;
* `JumpHost.Config.source`, `JumpHost.Config.chosenEngine`, `JumpHost.Config.validate` — the checks
  that touch nothing outside.

Main statements:

* `JumpHost.Config.validate_eq_ok_iff` — a configuration is valid exactly when user and host are not
  blank and both the credential and the engine resolve.
-/

import JumpHost.Engine
import JumpHost.Text.Blank
import JumpHost.Text.Numeral

set_option autoImplicit false

namespace JumpHost

/-! ### Credentials and errors -/

/-- Where the single credential that is presented to the jump host comes from. -/
inductive CredentialSource where
  | password (password : String)
  | privateKey (path : String) (passphrase : Option String)
  deriving DecidableEq

/-- What can be wrong with a configuration. -/
inductive ConfigError where
  | noCredential
  | twoCredentials
  | passphraseWithoutKey
  | missingField (field : String)
  | unknownEngine (url : String)
  deriving DecidableEq

/-- The wording of a configuration error. -/
def ConfigError.message : ConfigError → String
  | noCredential =>
    "no SSH authentication method configured (set a password or a private key path)"
  | twoCredentials =>
    "ambiguous SSH authentication: both a password and a private key path are set"
  | passphraseWithoutKey => "a key passphrase was given without a private key path"
  | missingField field => s!"missing required field: {field}"
  | unknownEngine url => s!"cannot determine database engine from URL '{url}'"

/-! ### The configuration -/

/-- The configuration of a tunnel. -/
structure Config where
  /-- The user on the jump host. -/
  sshUser : String
  /-- The name or address of the jump host. -/
  sshHost : String
  /-- The port of the jump host. -/
  sshPort : UInt16 := 22
  /-- The password of the user. -/
  password : Option String := none
  /-- The file of a private key. -/
  privateKeyPath : Option String := none
  /-- The passphrase of the private key. -/
  passphrase : Option String := none
  /-- The engine, if it is not left to the scheme of the URL. -/
  engine : Option Engine := none
  /-- The URL of the database as the jump host sees it. -/
  dbUrl : String
  /-- The file of the host-key ledger. -/
  ledgerPath : Option String := none
  /-- Seconds to wait for the connection to the jump host; zero waits for ever. -/
  connectTimeout : UInt64 := 10
  /-- Seconds between signs of life; zero sends none. -/
  keepalive : UInt64 := 30
  deriving DecidableEq

namespace Config

/-- Sets the key file and, with it, the passphrase. -/
def withKeyFile (c : Config) (path : String) (passphrase : Option String) : Config :=
  { c with privateKeyPath := some path, passphrase }

/-- The address of the jump host: `host:port`, with brackets around a host that holds a colon. -/
def remoteAddress (c : Config) : String :=
  let port := String.ofList (Text.numeral c.sshPort.toNat)
  if ':' ∈ c.sshHost.toList then "[" ++ c.sshHost ++ "]:" ++ port else c.sshHost ++ ":" ++ port

/-- The configured credential: exactly one of password and key, a passphrase only with a key. -/
def source (c : Config) : Except ConfigError CredentialSource :=
  match c.password, c.privateKeyPath with
  | some _, some _ => .error .twoCredentials
  | none, none => .error (if c.passphrase.isSome then .passphraseWithoutKey else .noCredential)
  | some password, none =>
    if c.passphrase.isSome then .error .passphraseWithoutKey else .ok (.password password)
  | none, some path => .ok (.privateKey path c.passphrase)

/-- The engine: the configured one, else the one that the scheme of the URL names. -/
def chosenEngine (c : Config) : Except ConfigError Engine :=
  match c.engine with
  | some engine => .ok engine
  | none =>
    match (schemeOf? c.dbUrl).bind Engine.ofScheme? with
    | some engine => .ok engine
    | none => .error (.unknownEngine c.dbUrl)

/-- User and host must not be blank. -/
def checkEndpoint (c : Config) : Except ConfigError Unit :=
  if c.sshUser.toList.all Text.isBlank then .error (.missingField "ssh_user")
  else if c.sshHost.toList.all Text.isBlank then .error (.missingField "ssh_host")
  else .ok ()

/-- Everything that can be checked without touching anything outside. -/
def validate (c : Config) : Except ConfigError (CredentialSource × Engine) := do
  c.checkEndpoint
  let auth ← c.source
  let engine ← c.chosenEngine
  return (auth, engine)

/-- A configuration is valid exactly when user and host are not blank and both the credential and
the engine resolve. -/
theorem validate_eq_ok_iff {c : Config} {auth : CredentialSource} {engine : Engine} :
    c.validate = .ok (auth, engine) ↔
      c.checkEndpoint = .ok () ∧ c.source = .ok auth ∧ c.chosenEngine = .ok engine := by
  unfold validate
  cases h₁ : c.checkEndpoint <;> cases h₂ : c.source <;> cases h₃ : c.chosenEngine <;>
    simp [bind, Except.bind, pure, Except.pure]

end Config

end JumpHost

/-
**The fields of a configuration document, and what can be wrong with one.**

A document names the fields of a configuration, or lists their values in the order of their
declaration.  Three of them must be given.  A document is refused for the first thing that is wrong
with it, which is either its form or a field.

Main definitions:

* `JumpHost.Field` — the fields in declaration order, with `name` and `isRequired`;
* `JumpHost.Field.ofName?` — the field of a name;
* `JumpHost.DocumentError`, `JumpHost.DocumentError.message` — what can be wrong.

Main statements:

* `JumpHost.Field.ofName?_name` — a field is found under its name.
-/

import JumpHost.Json.Token

set_option autoImplicit false

namespace JumpHost

/-- A field of a configuration. -/
inductive Field where
  | sshUser
  | sshHost
  | sshPort
  | password
  | privateKeyPath
  | passphrase
  | engine
  | dbUrl
  | ledgerPath
  | connectTimeout
  | keepalive
  deriving DecidableEq

namespace Field

/-- The name of a field in a document. -/
def name : Field → String
  | sshUser => "ssh_user"
  | sshHost => "ssh_host"
  | sshPort => "ssh_port"
  | password => "password"
  | privateKeyPath => "private_key_path"
  | passphrase => "passphrase"
  | engine => "db_engine"
  | dbUrl => "db_url"
  | ledgerPath => "ledger_path"
  | connectTimeout => "connect_timeout_secs"
  | keepalive => "keepalive_secs"

/-- The fields in declaration order. -/
def all : List Field :=
  [sshUser, sshHost, sshPort, password, privateKeyPath, passphrase, engine, dbUrl, ledgerPath,
    connectTimeout, keepalive]

/-- The fields that must be given. -/
def isRequired : Field → Bool
  | sshUser => true
  | sshHost => true
  | dbUrl => true
  | _ => false

/-- The field of a name. -/
def ofName? (name : String) : Option Field := all.find? fun f => f.name = name

theorem mem_all (f : Field) : f ∈ all := by cases f <;> decide

@[simp] theorem ofName?_name (f : Field) : ofName? f.name = some f := by
  cases f <;> decide +kernel

end Field

/-- What can be wrong with a document. -/
inductive DocumentError where
  | fault (fault : Json.Fault)
  | wrongType (found expected : String)
  | outOfRange (found expected : String)
  | unknownEngine (name : String)
  | duplicateField (field : Field)
  | missingField (field : Field)
  /-- A list of values ends where this many have been given, before a required one. -/
  | tooShort (length : Nat)
  deriving DecidableEq

namespace DocumentError

/-- The document is no document. -/
def malformed : DocumentError := fault .malformed

/-- The wording of what is wrong. -/
def message : DocumentError → String
  | fault .malformed => "malformed document"
  | fault .ended => "the document ends early"
  | wrongType found expected => s!"invalid type: {found}, expected {expected}"
  | outOfRange found expected => s!"invalid value: {found}, expected {expected}"
  | unknownEngine name =>
    "unknown variant `" ++ name ++
      "`, expected one of `postgres`, `postgresql`, `mariadb`, `mysql`"
  | duplicateField field => "duplicate field `" ++ field.name ++ "`"
  | missingField field => "missing field `" ++ field.name ++ "`"
  | tooShort length =>
    s!"invalid length {length}, expected struct TunnelConfig with {Field.all.length} elements"

end DocumentError

end JumpHost

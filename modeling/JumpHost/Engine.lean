/-
**Database engines.**

Two wire protocols can be carried through a jump host.  Each has a plain URL scheme, which its own
driver understands, and an identifier, under which the adapter that dials through the jump host is
registered; a URL may name the engine by either, or by the other common name of the product.

Main definitions:

* `JumpHost.Engine` — the engines, with `scheme`, `identifier` and `defaultPort`;
* `JumpHost.Engine.ofScheme?` — the engine that a URL scheme names;
* `JumpHost.Engine.ofName?` — the engine that a configuration names;
* `JumpHost.schemeOf?` — the scheme of a URL.

Main statements:

* `JumpHost.Engine.ofScheme?_scheme`, `JumpHost.Engine.ofScheme?_identifier` — an engine is found
  under its scheme and under its identifier.
-/

import JumpHost.Text.Ascii
import JumpHost.Text.Cut

set_option autoImplicit false

namespace JumpHost

/-- A database engine. -/
inductive Engine where
  | postgres
  | mysql
  deriving DecidableEq

namespace Engine

/-- The plain URL scheme of the engine, which is also its name in messages. -/
def scheme : Engine → String
  | postgres => "postgres"
  | mysql => "mysql"

/-- The identifier under which the engine's dial adapter is registered. -/
def identifier : Engine → String
  | postgres => "postgres+ssh"
  | mysql => "mysql+tcp"

/-- The port of a server whose address names none. -/
def defaultPort : Engine → UInt16
  | postgres => 5432
  | mysql => 3306

instance : ToString Engine := ⟨scheme⟩

/-- The engine that a URL scheme names, in any case: a plain scheme or an identifier. -/
def ofScheme? (scheme : String) : Option Engine :=
  let name := String.ofList (Text.lower scheme.toList)
  if name = "postgres" ∨ name = "postgresql" ∨ name = "postgres+ssh" then some postgres
  else if name = "mysql" ∨ name = "mariadb" ∨ name = "mysql+tcp" then some mysql
  else none

/-- The engine that a configuration names, in this spelling only. -/
def ofName? (name : String) : Option Engine :=
  if name = "postgres" ∨ name = "postgresql" then some postgres
  else if name = "mysql" ∨ name = "mariadb" then some mysql
  else none

@[simp] theorem ofScheme?_scheme (e : Engine) : ofScheme? e.scheme = some e := by
  cases e <;> decide +kernel

@[simp] theorem ofScheme?_identifier (e : Engine) : ofScheme? e.identifier = some e := by
  cases e <;> decide +kernel

end Engine

/-- The mark between the scheme and the rest of a URL. -/
def schemeMark : List Char := [':', '/', '/']

/-- The scheme of a URL: the text before the first `://`, which must not be empty. -/
def schemeOf? (url : String) : Option String :=
  match Text.cut schemeMark url.toList with
  | some (scheme, _) => if scheme = [] then none else some (String.ofList scheme)
  | none => none

end JumpHost

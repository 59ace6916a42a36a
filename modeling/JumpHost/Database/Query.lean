/-
**The result of a query.**

A result has columns with names and types, and rows of cells.  The types fall into a few kinds, and
a cell becomes a value by its kind: booleans, integers, doubles and texts have values, short reals
and binary data have none and become null.  A column of any other type spoils the result as soon as
there is a row.  A result without rows shows no columns.

Main definitions:

* `JumpHost.ColumnKind`, `JumpHost.ColumnKind.ofType?` — the kinds of types;
* `JumpHost.Cell`, `JumpHost.ResultSet` — what a database gives;
* `JumpHost.QueryOutput`, `JumpHost.QueryOutput.ofResult` — what is shown of it.
-/

import JumpHost.Json.Printer
import JumpHost.Tunnel.Error

set_option autoImplicit false

namespace JumpHost

/-- A kind of column types. -/
inductive ColumnKind where
  | bool
  | integer
  /-- Reals of short precision. -/
  | real
  | double
  | text
  | binary
  | void
  deriving DecidableEq

/-- The kind of a type by its name. -/
def ColumnKind.ofType? (name : String) : Option ColumnKind :=
  match name with
  | "bool" => some .bool
  | "int2" => some .integer
  | "int4" => some .integer
  | "int8" => some .integer
  | "float4" => some .real
  | "float8" => some .double
  | "text" => some .text
  | "varchar" => some .text
  | "bytea" => some .binary
  | "void" => some .void
  | _ => none

/-- What a database gives for one column of one row. -/
inductive Cell where
  | null
  | bool (b : Bool)
  | integer (n : Int)
  | double (x : Float)
  | text (s : String)
  /-- What has no value here. -/
  | other

/-- The value of a cell. -/
def Cell.value : Cell → Json.Value
  | null => .null
  | bool b => .bool b
  | integer n => .integer n
  | double x => .real x
  | text s => .text s
  | other => .null

/-- A column of a result. -/
structure Column where
  name : String
  /-- The name of its type. -/
  type : String
  deriving DecidableEq

/-- What a database gives for a query. -/
structure ResultSet where
  columns : List Column
  rows : List (List Cell)

/-- What is shown of a result. -/
structure QueryOutput where
  columns : List String
  rows : List (List Json.Value)

namespace QueryOutput

/-- The name under which a type is reported. -/
def typeName (type : String) : String :=
  match type.toList with
  | [] => ""
  | c :: rest => String.ofList (c.toUpper :: rest)

/-- What is shown of a result. -/
def ofResult (r : ResultSet) : Except SqlError QueryOutput :=
  if r.rows.isEmpty then .ok ⟨[], []⟩
  else
    match r.columns.find? fun c => (ColumnKind.ofType? c.type).isNone with
    | some c => .error (.column c.name (typeName c.type))
    | none => .ok ⟨r.columns.map (·.name), r.rows.map (·.map Cell.value)⟩

/-- The value that is printed for a result. -/
def value (q : QueryOutput) : Json.Value :=
  .object [("columns", .array (q.columns.map .text)), ("rows", .array (q.rows.map .array))]

end QueryOutput

end JumpHost

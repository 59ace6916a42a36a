/-
**Configuration documents.**

A document is an object whose members are fields, in any order, or an array of the values in the
order of their declaration.  Members of other names are skipped, a field must not be given twice,
and a field that need not be given keeps its default.  The document is read once from left to
right, and the first error that is found is the one that is reported: a repeated field at its name,
a wrong value where it stands, and a missing field at the end.

Main definitions:

* `JumpHost.Draft` — what has been read of a configuration;
* `JumpHost.Reading`, `JumpHost.Reading.step` — a document that is being read;
* `JumpHost.Config.ofTokens`, `JumpHost.Config.ofDocument` — the configuration that a
  document denotes.
-/

import JumpHost.Config
import JumpHost.Config.Value
import JumpHost.Json.Skip

set_option autoImplicit false

namespace JumpHost

/-! ### Drafts -/

/-- What has been read of a configuration: the values so far, and the fields that were given. -/
structure Draft where
  config : Config
  given : List Field
  deriving DecidableEq

namespace Draft

/-- Nothing has been read. -/
def blank : Draft := ⟨{ sshUser := "", sshHost := "", dbUrl := "" }, []⟩

/-- The draft with a field marked as given, which must not have been. -/
def enter (d : Draft) (field : Field) : Except DocumentError Draft :=
  if field ∈ d.given then .error (.duplicateField field)
  else .ok { d with given := field :: d.given }

/-- The configuration of a draft, to which no required field is missing. -/
def finish (d : Draft) : Except DocumentError Config :=
  match Field.all.find? fun f => f.isRequired && f ∉ d.given with
  | some field => .error (.missingField field)
  | none => .ok d.config

end Draft

/-! ### Reading -/

/-- How a document lays out its fields. -/
inductive Layout where
  | object
  /-- An array, of which the values of these fields are still to come. -/
  | array (remaining : List Field)
  deriving DecidableEq

/-- A document that is being read. -/
inductive Reading where
  | start
  /-- At a name, or, at the first one, at the end of the object. -/
  | atName (isFirst : Bool) (d : Draft)
  /-- Behind the name of a field, or of what is no field. -/
  | atColon (d : Draft) (field : Option Field)
  | atValue (d : Draft) (layout : Layout) (field : Field)
  | inEngine (d : Draft) (layout : Layout) (spelling : EngineSpelling)
  | inSkipped (d : Draft) (skip : Json.Skip)
  /-- At a value of an array, or, at the first one, at the end. -/
  | atElement (isFirst : Bool) (d : Draft) (remaining : List Field)
  | afterValue (d : Draft) (layout : Layout)
  | done (c : Config)

namespace Reading

/-- Takes a token of an engine. -/
def stepEngine (d : Draft) (layout : Layout) (spelling : EngineSpelling) (t : Json.Token) :
    Except DocumentError Reading :=
  match spelling.step t with
  | .error e => .error e
  | .ok (.inl spelling) => .ok (.inEngine d layout spelling)
  | .ok (.inr engine) =>
    .ok (.afterValue { d with config := { d.config with engine := some engine } } layout)

/-- Takes the first token of the value of a field.  Every value but an engine is a single token. -/
def stepValue (d : Draft) (layout : Layout) (field : Field) (t : Json.Token) :
    Except DocumentError Reading :=
  let c := d.config
  let text := Json.Token.text? "a string"
  let path := Json.Token.text? "path string"
  let seconds := Json.Token.natural? "u64" (UInt64.size - 1)
  let next (config : Config) : Reading := .afterValue { d with config } layout
  match field with
  | .sshUser => (text t).map fun v => next { c with sshUser := v }
  | .sshHost => (text t).map fun v => next { c with sshHost := v }
  | .sshPort =>
    (t.natural? "u16" (UInt16.size - 1)).map fun v => next { c with sshPort := UInt16.ofNat v }
  | .password => (t.orNull? text).map fun v => next { c with password := v }
  | .privateKeyPath => (t.orNull? path).map fun v => next { c with privateKeyPath := v }
  | .passphrase => (t.orNull? text).map fun v => next { c with passphrase := v }
  | .engine =>
    match t with
    | .null => .ok (next { c with engine := none })
    | .broken .null read _ => .error (.fault read)
    | t => stepEngine d layout .start t
  | .dbUrl => (text t).map fun v => next { c with dbUrl := v }
  | .ledgerPath => (t.orNull? path).map fun v => next { c with ledgerPath := v }
  | .connectTimeout => (seconds t).map fun v => next { c with connectTimeout := UInt64.ofNat v }
  | .keepalive => (seconds t).map fun v => next { c with keepalive := UInt64.ofNat v }

/-- Takes the name of a member.  A field is refused at its name if it was given before. -/
def stepName (d : Draft) : Json.Token → Except DocumentError Reading
  | .text (some name) =>
    match Field.ofName? (String.ofList name) with
    | some field => (d.enter field).map (.atColon · (some field))
    | none => .ok (.atColon d none)
  | .broken .text read _ => .error (.fault read)
  | _ => .error .malformed

/-- Takes a token of what is skipped. -/
def stepSkipped (d : Draft) (skip : Json.Skip) (t : Json.Token) : Except DocumentError Reading :=
  match skip.step t with
  | .error fault => .error (.fault fault)
  | .ok (some skip) => .ok (.inSkipped d skip)
  | .ok none => .ok (.afterValue d .object)

/-- Takes the first token of the next value of an array. -/
def stepElement (d : Draft) (t : Json.Token) : List Field → Except DocumentError Reading
  | [] => .error .malformed
  | field :: remaining => stepValue d (.array remaining) field t

/-- Takes the end of an array, before which the values of the remaining fields have not come. -/
def closeArray (d : Draft) (remaining : List Field) : Except DocumentError Reading :=
  match remaining.dropWhile fun field => !field.isRequired with
  | [] => .ok (.done d.config)
  | missing => .error (.tooShort (Field.all.length - missing.length))

/-- Takes the next token. -/
def step (r : Reading) (t : Json.Token) : Except DocumentError Reading :=
  match r, t with
  | .start, .openObject => .ok (.atName true .blank)
  | .start, .openArray => .ok (.atElement true .blank Field.all)
  | .start, t => .error (t.unexpected "struct TunnelConfig")
  | .atName true d, .closeObject => d.finish.map .done
  | .atName _ d, t => stepName d t
  | .atColon d (some field), .colon => .ok (.atValue d .object field)
  | .atColon d none, .colon => .ok (.inSkipped d .start)
  | .atValue d layout field, t => stepValue d layout field t
  | .inEngine d layout spelling, t => stepEngine d layout spelling t
  | .inSkipped d skip, t => stepSkipped d skip t
  | .atElement true d remaining, .closeArray => closeArray d remaining
  | .atElement _ d remaining, t => stepElement d t remaining
  | .afterValue d .object, .comma => .ok (.atName false d)
  | .afterValue d .object, .closeObject => d.finish.map .done
  | .afterValue d (.array (field :: remaining)), .comma =>
    .ok (.atElement false d (field :: remaining))
  | .afterValue d (.array remaining), .closeArray => closeArray d remaining
  | _, _ => .error .malformed

end Reading

/-- The configuration that tokens denote. -/
def Config.ofTokens (tokens : List Json.Token) : Except DocumentError Config :=
  match tokens.foldlM Reading.step .start with
  | .error e => .error e
  | .ok (.done c) => .ok c
  | .ok _ => .error (.fault .ended)

/-- **The configuration that a document denotes.** -/
def Config.ofDocument (document : String) : Except DocumentError Config :=
  ofTokens (Json.tokens document.toList)

end JumpHost

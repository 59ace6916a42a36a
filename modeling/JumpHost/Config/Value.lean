/-
**The values of a configuration document.**

A value is a text, a number that fits, or an engine, and some of them may be null instead.  An
engine is spelled as a text or as an object with one member whose value is null, so it is read from
several tokens; every other value is a single one.

Main definitions:

* `JumpHost.Json.Token.text?`, `JumpHost.Json.Token.natural?`, `JumpHost.Json.Token.orNull?` —
  values of one token;
* `JumpHost.EngineSpelling`, `JumpHost.EngineSpelling.step` — an engine that is being read;
* `JumpHost.Engine.ofDocument` — the engine that a document spells.
-/

import JumpHost.Config.Field
import JumpHost.Decimal.FloatText
import JumpHost.Engine
import JumpHost.Json.Document
import JumpHost.Text.Shown

set_option autoImplicit false

namespace JumpHost

/-! ### Values of one token -/

namespace Json

/-- How messages name a number. -/
def Number.described : Number → String
  | natural n => "integer `" ++ String.ofList (Text.numeral n) ++ "`"
  | negative n => "integer `-" ++ String.ofList (Text.numeral n) ++ "`"
  | real x => "floating point `" ++ Decimal.floatText x ++ "`"

namespace Token

/-- Why a token is not the value that is expected.  A value of another type is named, and what is
no value at all is a fault of the document. -/
def unexpected (expected : String) : Token → DocumentError
  | null => .wrongType "null" expected
  | bool true => .wrongType "boolean `true`" expected
  | bool false => .wrongType "boolean `false`" expected
  | number (some n) => .wrongType n.described expected
  | text (some s) => .wrongType ("string " ++ String.ofList (Text.shown s)) expected
  | openArray => .wrongType "sequence" expected
  | openObject => .wrongType "map" expected
  | broken _ read _ => .fault read
  | _ => .malformed

/-- The text of a token. -/
def text? (expected : String) : Token → Except DocumentError String
  | text (some s) => .ok (String.ofList s)
  | t => .error (t.unexpected expected)

/-- The natural number of a token, which must be at most `limit`. -/
def natural? (expected : String) (limit : Nat) : Token → Except DocumentError Nat
  | number (some (.natural n)) =>
    if n ≤ limit then .ok n else .error (.outOfRange (Number.natural n).described expected)
  | number (some (.negative n)) => .error (.outOfRange (Number.negative n).described expected)
  | t => .error (t.unexpected expected)

/-- The value of a token that may be null. -/
def orNull? {α : Type} (read : Token → Except DocumentError α) :
    Token → Except DocumentError (Option α)
  | null => .ok none
  | t => (read t).map some

end Token

end Json

/-! ### Engines -/

/-- An engine that is being read. -/
inductive EngineSpelling where
  | start
  /-- At the name in an object. -/
  | member
  | colon (engine : Engine)
  /-- At the value of the member. -/
  | unit (engine : Engine)
  | close (engine : Engine)
  deriving DecidableEq

namespace EngineSpelling

/-- The engine of a name. -/
def named (name : String) : Except DocumentError Engine :=
  match Engine.ofName? name with
  | some engine => .ok engine
  | none => .error (.unknownEngine name)

/-- Takes the next token.  Gives the engine when it has been read. -/
def step (s : EngineSpelling) (t : Json.Token) :
    Except DocumentError (EngineSpelling ⊕ Engine) :=
  match s, t with
  | start, .text (some name) => (named (String.ofList name)).map .inr
  | start, .openObject => .ok (.inl member)
  | start, .broken .text read _ => .error (.fault read)
  | member, t => do return .inl (colon (← named (← t.text? "variant identifier")))
  | colon engine, .colon => .ok (.inl (unit engine))
  | unit engine, .null => .ok (.inl (close engine))
  | unit _, t => .error (t.unexpected "unit")
  | close engine, .closeObject => .ok (.inr engine)
  | _, _ => .error .malformed

/-- Reads an engine from all of the given tokens. -/
def ofTokens (s : EngineSpelling) : List Json.Token → Except DocumentError Engine
  | [] => .error (.fault .ended)
  | t :: tokens =>
    match s.step t with
    | .error e => .error e
    | .ok (.inl s) => ofTokens s tokens
    | .ok (.inr engine) => if tokens.isEmpty then .ok engine else .error .malformed

end EngineSpelling

/-- The engine that a document spells. -/
def Engine.ofDocument (document : String) : Except DocumentError Engine :=
  EngineSpelling.start.ofTokens (Json.tokens document.toList)

end JumpHost

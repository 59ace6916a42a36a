/-
**Skipping a value.**

A value that nobody asks for is skipped to any depth.  All that has to be remembered is which
brackets are open and what may come next inside the innermost one.

Main definitions:

* `JumpHost.Json.Skip` — a value that is being skipped;
* `JumpHost.Json.Skip.step` — takes the next token.
-/

import JumpHost.Json.Token

set_option autoImplicit false

namespace JumpHost.Json

/-- An open bracket. -/
inductive Bracket where
  | array
  | object
  deriving DecidableEq

/-- What may come next in a value that is being skipped. -/
inductive Expected where
  | value
  /-- A value, or the end of an array. -/
  | firstElement
  /-- A comma, or the end of an array. -/
  | afterElement
  | key
  /-- A key, or the end of an object. -/
  | firstKey
  | colon
  /-- A comma, or the end of an object. -/
  | afterMember
  deriving DecidableEq

/-- A value that is being skipped: what may come next, and the open brackets from the innermost
outwards. -/
structure Skip where
  expected : Expected
  brackets : List Bracket
  deriving DecidableEq

namespace Skip

/-- Nothing of the value has been seen. -/
def start : Skip := ⟨.value, []⟩

/-- A value inside the given brackets has ended; nothing is left if there are none. -/
def close : List Bracket → Option Skip
  | [] => none
  | .array :: outer => some ⟨.afterElement, .array :: outer⟩
  | .object :: outer => some ⟨.afterMember, .object :: outer⟩

/-- Takes the token that begins a value. -/
def begin (brackets : List Bracket) : Token → Except Fault (Option Skip)
  | .openArray => .ok (some ⟨.firstElement, .array :: brackets⟩)
  | .openObject => .ok (some ⟨.firstKey, .object :: brackets⟩)
  | .null => .ok (close brackets)
  | .bool _ => .ok (close brackets)
  | .number _ => .ok (close brackets)
  | .text _ => .ok (close brackets)
  | .broken _ _ skip => .error skip
  | _ => .error .malformed

/-- Takes a key. -/
def key (brackets : List Bracket) : Token → Except Fault (Option Skip)
  | .text _ => .ok (some ⟨.colon, brackets⟩)
  | .broken .text _ skip => .error skip
  | _ => .error .malformed

/-- Takes the next token.  Nothing is left when the value has ended. -/
def step (s : Skip) (t : Token) : Except Fault (Option Skip) :=
  match s.expected, t with
  | .value, t => begin s.brackets t
  | .firstElement, .closeArray => .ok (close (s.brackets.drop 1))
  | .firstElement, t => begin s.brackets t
  | .afterElement, .comma => .ok (some ⟨.value, s.brackets⟩)
  | .afterElement, .closeArray => .ok (close (s.brackets.drop 1))
  | .firstKey, .closeObject => .ok (close (s.brackets.drop 1))
  | .firstKey, t => key s.brackets t
  | .key, t => key s.brackets t
  | .colon, .colon => .ok (some ⟨.value, s.brackets⟩)
  | .afterMember, .comma => .ok (some ⟨.key, s.brackets⟩)
  | .afterMember, .closeObject => .ok (close (s.brackets.drop 1))
  | _, _ => .error .malformed

end Skip

end JumpHost.Json

/-
**The tokens of a JSON document.**

A document is read as a list of tokens.  What is not a token stays in the list as what it set out
to be, so that a reader meets the first error of the document where it stands and never before an
earlier one.  A value can be *read* or *skipped*: a skipped text or number need not denote anything,
and a few broken tokens are refused for different causes by the two.

Main definitions:

* `JumpHost.Json.Fault` — what is wrong with a text that is no document;
* `JumpHost.Json.Number` — the value of a number;
* `JumpHost.Json.Token` — the tokens.
-/

set_option autoImplicit false

namespace JumpHost.Json

/-- What is wrong with a text that is no document. -/
inductive Fault where
  /-- A character stands where none that continues a document does. -/
  | malformed
  /-- The text ends before the document does. -/
  | ended
  deriving DecidableEq

/-- The value of a number.  An integer that fits into 64 bits is exact, and everything else is the
nearest floating-point number. -/
inductive Number where
  | natural (n : Nat)
  /-- The number below zero of this magnitude. -/
  | negative (n : Nat)
  | real (x : Float)

/-- What a broken token set out to be. -/
inductive Shape where
  | text
  | number
  | null
  | bool
  deriving DecidableEq

/-- A token of a document. -/
inductive Token where
  | openObject
  | closeObject
  | openArray
  | closeArray
  | comma
  | colon
  | null
  | bool (b : Bool)
  /-- A number; nothing if it is beyond all floating-point numbers. -/
  | number (n : Option Number)
  /-- A text; nothing if it holds one half of a surrogate pair alone. -/
  | text (s : Option (List Char))
  /-- What begins like a token and is none, with the faults met by reading and by skipping it. -/
  | broken (shape : Shape) (read skip : Fault)
  /-- A character that begins no token. -/
  | stray

/-- Nothing is read behind this token. -/
def Token.isLast : Token → Bool
  | broken _ _ _ => true
  | stray => true
  | _ => false

end JumpHost.Json

/-
**Printing values.**

A value is printed over several lines: every element and every member on a line of its own, two
blanks further in than the brackets around it, and empty brackets without a line break.

Main definitions:

* `JumpHost.Json.Value` — values;
* `JumpHost.Json.quote` — a text with its quotation marks and escapes;
* `JumpHost.Json.Value.print` — a value over several lines.
-/

import JumpHost.Decimal.FloatText
import JumpHost.Text.Hex

set_option autoImplicit false

namespace JumpHost.Json

/-- A value.  The members of an object are kept in order. -/
inductive Value where
  | null
  | bool (b : Bool)
  | integer (n : Int)
  | real (x : Float)
  | text (s : String)
  | array (elements : List Value)
  | object (members : List (String × Value))

/-! ### Texts -/

/-- The escape of a character, or the character itself. -/
def escapeChar (c : Char) : List Char :=
  if c = '"' ∨ c = '\\' then ['\\', c]
  else if c = '\x08' then ['\\', 'b']
  else if c = '\x0c' then ['\\', 'f']
  else if c = '\n' then ['\\', 'n']
  else if c = '\r' then ['\\', 'r']
  else if c = '\t' then ['\\', 't']
  else if c.toNat < 32 then
    ['\\', 'u', '0', '0', Text.hexDigit (c.toNat / 16), Text.hexDigit (c.toNat % 16)]
  else [c]

/-- A text with its quotation marks and escapes. -/
def quote (s : List Char) : List Char := '"' :: s.flatMap escapeChar ++ ['"']

/-! ### Values -/

/-- A line break and the blanks of a line at the given depth. -/
def newLine (depth : Nat) : List Char := '\n' :: List.replicate (2 * depth) ' '

/-- Brackets around items, each of which is on a line of its own. -/
def block (opening closing : Char) (depth : Nat) : List (List Char) → List Char
  | [] => [opening, closing]
  | items =>
    opening :: List.intercalate [','] (items.map (newLine (depth + 1) ++ ·)) ++
      newLine depth ++ [closing]

namespace Value

/-- The text of a floating-point number; what is not finite is no number of a document. -/
def realText (x : Float) : List Char :=
  if x.isNaN || x.isInf then ['n', 'u', 'l', 'l'] else (Decimal.floatText x).toList

/-- The text of an integer. -/
def integerText (n : Int) : List Char :=
  (if n < 0 then ['-'] else []) ++ Text.numeral n.natAbs

mutual

/-- A value at the given depth. -/
def printAt (depth : Nat) : Value → List Char
  | null => ['n', 'u', 'l', 'l']
  | bool true => ['t', 'r', 'u', 'e']
  | bool false => ['f', 'a', 'l', 's', 'e']
  | integer n => integerText n
  | real x => realText x
  | text s => quote s.toList
  | array elements => block '[' ']' depth (printElements (depth + 1) elements)
  | object members => block '\x7b' '\x7d' depth (printMembers (depth + 1) members)

/-- The elements of an array. -/
def printElements (depth : Nat) : List Value → List (List Char)
  | [] => []
  | v :: rest => printAt depth v :: printElements depth rest

/-- The members of an object. -/
def printMembers (depth : Nat) : List (String × Value) → List (List Char)
  | [] => []
  | (name, v) :: rest =>
    (quote name.toList ++ [':', ' '] ++ printAt depth v) :: printMembers depth rest

end

/-- A value over several lines. -/
def print (v : Value) : String := String.ofList (printAt 0 v)

end Value

end JumpHost.Json

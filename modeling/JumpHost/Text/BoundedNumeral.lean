/-
**Numerals with a bound.**

A number that is stored in a fixed width is read from its digits, behind a plus sign if there is
one.  What is wrong with a text is told apart: there is nothing, there is something that is no
digit, or the number is too large.  The text is read from the left and the first of these that shows
is the fault; a sign alone is no digit.

Main definitions:

* `JumpHost.Text.NumeralFault`, `JumpHost.Text.NumeralFault.message` — what is wrong with a numeral;
* `JumpHost.Text.boundedNatural` — the number below a bound that a text denotes.
-/

import JumpHost.Text.Numeral

set_option autoImplicit false

namespace JumpHost.Text

/-- What is wrong with a numeral. -/
inductive NumeralFault where
  | missing
  | notADigit
  | tooLarge
  deriving DecidableEq

/-- The wording of what is wrong with a numeral. -/
def NumeralFault.message : NumeralFault → String
  | missing => "cannot parse integer from empty string"
  | notADigit => "invalid digit found in string"
  | tooLarge => "number too large to fit in target type"

/-- The value of a run of digits read behind a number already read. -/
def readBounded (bound : Nat) (n : Nat) : List Char → Except NumeralFault Nat
  | [] => .ok n
  | c :: s =>
    match digitValue? c with
    | none => .error .notADigit
    | some d => if 10 * n + d < bound then readBounded bound (10 * n + d) s else .error .tooLarge

/-- The number below a bound that a text denotes. -/
def boundedNatural (bound : Nat) : List Char → Except NumeralFault Nat
  | [] => .error .missing
  | ['+'] => .error .notADigit
  | '+' :: s => readBounded bound 0 s
  | s => readBounded bound 0 s

end JumpHost.Text

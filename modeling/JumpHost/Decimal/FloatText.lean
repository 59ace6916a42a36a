/-
**The text of a floating-point number.**

A floating-point number is shown by its shortest decimal.  From one hundred-thousandth up to below
ten to the sixteenth it is written with a point, and always with a digit on each side of it;
outside this range one digit stands before the point and an exponent behind.

Main definitions:

* `JumpHost.Decimal.floatText` — the text.
-/

import JumpHost.Decimal.Shortest
import JumpHost.Text.Numeral

set_option autoImplicit false

namespace JumpHost.Decimal

/-! ### Reading the bits -/

/-- The number of fractions of one exponent. -/
def fractions : Nat := 0x10000000000000

/-- The number of exponents. -/
def exponents : Nat := 2048

/-- The magnitude of the finite number with the given bits; nothing if it is zero. -/
def magnitude? (bits : Nat) : Option Binary :=
  let fraction : Nat := bits % fractions
  let exponent : Nat := bits / fractions % exponents
  if exponent = 0 then if fraction = 0 then none else some ⟨fraction, -1074, false⟩
  else
    some ⟨fractions + fraction, (exponent : Int) - 1075, fraction = 0 && exponent ≠ 1⟩

/-- The bits have the sign of a negative number. -/
def isNegative (bits : Nat) : Bool := bits / (fractions * exponents) % 2 = 1

/-! ### Writing decimals -/

/-- The exponent of the first digit of the smallest numbers that are written with a point. -/
def leastPositional : Int := -5

/-- The exponent of the first digit of the greatest numbers that are written with a point. -/
def greatestPositional : Int := 15

/-- Digits with a point behind the first `places` of them, and a zero on a side without digits. -/
def withPoint (digits : List Char) (places : Nat) : List Char :=
  let whole := digits.take places ++ List.replicate (places - digits.length) '0'
  let fraction := digits.drop places
  whole ++ '.' :: (if fraction = [] then ['0'] else fraction)

/-- Writes digits of which the first has the given exponent. -/
def write (digits : List Char) (exponent : Int) : List Char :=
  if exponent < leastPositional ∨ greatestPositional < exponent then
    let tail := digits.drop 1
    digits.take 1 ++ (if tail = [] then [] else '.' :: tail) ++
      'e' :: (if exponent < 0 then '-' else '+') :: Text.numeral exponent.natAbs
  else if exponent < 0 then
    withPoint ('0' :: List.replicate (exponent.natAbs - 1) '0' ++ digits) 1
  else withPoint digits (exponent.natAbs + 1)

/-- The text of a decimal, which must not be zero. -/
def Scientific.text (s : Scientific) : List Char :=
  let digits := Text.numeral s.digits
  let significant := (digits.reverse.dropWhile (· == '0')).reverse
  write significant (s.exponent + (digits.length - 1))

/-- The text of a finite number. -/
def floatText (x : Float) : String :=
  let bits := x.toBits.toNat
  let sign := if isNegative bits then ['-'] else []
  match magnitude? bits with
  | none => String.ofList (sign ++ ['0', '.', '0'])
  | some b => String.ofList (sign ++ b.shortest.text)

end JumpHost.Decimal

/-
**The numbers of a JSON document.**

A number is an optional minus sign, a whole part without a leading zero, and an optional fraction
and exponent.  Its digits are collected into a significand of 64 bits: a whole number that fits is
kept exactly, and of anything else as many digits as fit are taken and scaled by the power of ten
that remains.  The result need not be the floating-point number nearest to the numeral, so the
order of the scaling steps matters.

Main definitions:

* `JumpHost.Json.Numeral` — the parts of a numeral;
* `JumpHost.Json.Numeral.value` — the number that it denotes, if it is within range;
* `JumpHost.Json.Numeral.readUnsigned` — reading the numeral at the front of a text.

Main statements:

* `JumpHost.Json.Numeral.length_readUnsigned_le` — reading takes at least the leading digits.
-/

import JumpHost.Json.Token
import JumpHost.Text.Numeral

set_option autoImplicit false

namespace JumpHost.Json

/-- The parts of a numeral, the digits as their values. -/
structure Numeral where
  isNegative : Bool
  whole : List Nat
  /-- The digits behind the point, if there is a point. -/
  fraction : Option (List Nat)
  /-- The sign and the digits of the exponent, if there is one. -/
  exponent : Option (Bool × List Nat)
  deriving DecidableEq

namespace Numeral

/-! ### The value -/

/-- The greatest significand. -/
def significandLimit : Nat := UInt64.size - 1

/-- The greatest magnitude of an exponent. -/
def exponentLimit : Nat := 0x7FFFFFFF

/-- Takes digits into a significand while it stays within its limit.  Returns the significand and
the number of digits taken. -/
def absorb (significand : Nat) : List Nat → Nat × Nat
  | [] => (significand, 0)
  | d :: digits =>
    if significand * 10 + d ≤ significandLimit then
      let (s, taken) := absorb (significand * 10 + d) digits
      (s, taken + 1)
    else (significand, 0)

/-- The value of a run of digits. -/
def ofDigits (digits : List Nat) : Nat := digits.foldl (fun n d => 10 * n + d) 0

/-- The greatest power of ten that is used as a factor. -/
def powerLimit : Nat := 308

/-- The floating-point number nearest to a power of ten. -/
def power (n : Nat) : Float := Float.ofScientific 1 false n

/-- Divides by powers of ten until `10 ^ n` is used up, the greatest power first. -/
def scaleDown (x : Float) (n : Nat) : Float :=
  if _h : n ≤ powerLimit then x / power n
  else if x == 0 then x
  else scaleDown (x / power powerLimit) (n - powerLimit)
termination_by n
decreasing_by exact Nat.sub_lt (Nat.lt_of_le_of_lt (Nat.zero_le _) (Nat.not_le.1 _h)) (by decide)

/-- Multiplies by `10 ^ n`; nothing if the product is beyond all floating-point numbers. -/
def scaleUp (x : Float) (n : Nat) : Option Float :=
  if n ≤ powerLimit then
    let y := x * power n
    if y.isInf then none else some y
  else if x == 0 then some x
  else none

/-- The floating-point number `significand * 10 ^ exponent`, if it is within range. -/
def scaled (significand : Nat) (exponent : Int) : Option Float :=
  if exponent < 0 then some (scaleDown (Float.ofNat significand) exponent.natAbs)
  else scaleUp (Float.ofNat significand) exponent.natAbs

/-- A number with its sign. -/
def signed (isNegative : Bool) (x : Float) : Number := .real (if isNegative then -x else x)

/-- The number of a significand and an exponent, where the numeral gives a further exponent. -/
def scaledBy (isNegative : Bool) (significand : Nat) (exponent : Int) :
    Option (Bool × List Nat) → Option Number
  | none => (scaled significand exponent).map (signed isNegative)
  | some (downwards, digits) =>
    let further := ofDigits digits
    if further > exponentLimit then
      if significand ≠ 0 ∧ downwards = false then none else some (signed isNegative 0)
    else
      let exponent := if downwards then exponent - further else exponent + further
      (scaled significand exponent).map (signed isNegative)

/-- The number of a whole numeral.  A minus sign before zero is kept, which only a floating-point
number can do. -/
def wholeNumber (isNegative : Bool) (n : Nat) : Number :=
  if isNegative then
    if n = 0 then .real (-0.0)
    else if n ≤ 0x8000000000000000 then .negative n
    else .real (-(Float.ofNat n))
  else .natural n

/-- The number that a numeral denotes, if it is within range. -/
def value (n : Numeral) : Option Number :=
  let (significand, taken) := absorb 0 n.whole
  let dropped : Nat := n.whole.length - taken
  match n.fraction, n.exponent with
  | none, none =>
    if dropped = 0 then some (wholeNumber n.isNegative significand)
    else (scaled significand dropped).map (signed n.isNegative)
  | fraction, exponent =>
    let (significand, places) := absorb significand (fraction.getD [])
    scaledBy n.isNegative significand (dropped - places) exponent

/-! ### Reading -/

/-- The digits at the front of a text and what follows them. -/
def digits (s : List Char) : List Nat × List Char :=
  match s with
  | [] => ([], [])
  | c :: rest =>
    match Text.digitValue? c with
    | some d => (digits rest).map (d :: ·) id
    | none => ([], c :: rest)

theorem length_digits_le (s : List Char) : (digits s).2.length ≤ s.length := by
  induction s with
  | nil => simp [digits]
  | cons c s ih =>
    simp only [digits]
    split
    · exact Nat.le_succ_of_le ih
    · simp

theorem length_digits_cons_le {c : Char} {d : Nat} (s : List Char)
    (h : Text.digitValue? c = some d) : (digits (c :: s)).2.length ≤ s.length := by
  simpa [digits, h] using length_digits_le s

/-- The faults of a numeral that stops where a digit must stand. -/
def missingDigit (rest : List Char) : Token :=
  .broken .number (if rest = [] then .ended else .malformed) .malformed

/-- Reads the digits of an exponent behind its sign. -/
def readExponentDigits (n : Numeral) (downwards : Bool) (s : List Char) : Token × List Char :=
  let (ds, rest) := digits s
  if ds = [] then (missingDigit rest, rest)
  else (.number { n with exponent := some (downwards, ds) }.value, rest)

/-- Reads the exponent at the front of a text, if there is one. -/
def readExponent (n : Numeral) : List Char → Token × List Char
  | [] => (.number n.value, [])
  | c :: s =>
    if c = 'e' ∨ c = 'E' then
      match s with
      | '+' :: digits => readExponentDigits n false digits
      | '-' :: digits => readExponentDigits n true digits
      | digits => readExponentDigits n false digits
    else (.number n.value, c :: s)

/-- Reads the fraction and the exponent at the front of a text, if there are any. -/
def readFraction (n : Numeral) : List Char → Token × List Char
  | '.' :: s =>
    let (ds, rest) := digits s
    if ds = [] then (missingDigit rest, rest)
    else readExponent { n with fraction := some ds } rest
  | s => readExponent n s

/-- Reads the numeral at the front of a text, of which the sign has been taken. -/
def readUnsigned (isNegative : Bool) (s : List Char) : Token × List Char :=
  let (ds, rest) := digits s
  match ds with
  | [] => (missingDigit rest, rest)
  | 0 :: _ :: _ => (.broken .number .malformed .malformed, rest)
  | ds => readFraction ⟨isNegative, ds, none, none⟩ rest

theorem length_readExponentDigits_le (n : Numeral) (downwards : Bool) (s : List Char) :
    (readExponentDigits n downwards s).2.length ≤ s.length := by
  unfold readExponentDigits
  simp only
  split <;> exact length_digits_le s

theorem length_readExponent_le (n : Numeral) (s : List Char) :
    (readExponent n s).2.length ≤ s.length := by
  unfold readExponent
  split
  · simp
  · rename_i c s
    split
    · refine Nat.le_succ_of_le ?_
      split
      · exact Nat.le_succ_of_le (length_readExponentDigits_le n false _)
      · exact Nat.le_succ_of_le (length_readExponentDigits_le n true _)
      · exact length_readExponentDigits_le n false s
    · simp

theorem length_readFraction_le (n : Numeral) (s : List Char) :
    (readFraction n s).2.length ≤ s.length := by
  unfold readFraction
  split
  · rename_i s
    have h := length_digits_le s
    simp only
    split
    · simp only [List.length_cons]
      omega
    · have := length_readExponent_le { n with fraction := some (digits s).1 } (digits s).2
      simp only [List.length_cons]
      omega
  · exact length_readExponent_le n s

theorem length_readUnsigned_le (isNegative : Bool) (s : List Char) :
    (readUnsigned isNegative s).2.length ≤ (digits s).2.length := by
  unfold readUnsigned
  simp only
  split
  · exact Nat.le_refl _
  · exact Nat.le_refl _
  · exact length_readFraction_le _ _

end Numeral

end JumpHost.Json

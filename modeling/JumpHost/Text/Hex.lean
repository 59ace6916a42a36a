/-
**Hexadecimal numerals.**

Digits beyond nine are written as small letters and read in either case.

Main definitions:

* `JumpHost.Text.hexDigit`, `JumpHost.Text.hexValue?` — writing and reading a digit;
* `JumpHost.Text.hexNumeral` — the digits of a number without leading zeros;
* `JumpHost.Text.hexNatural?` — the number that a non-empty run of digits denotes.

Main statements:

* `JumpHost.Text.hexValue?_hexDigit` — a digit that is written reads back.
-/

set_option autoImplicit false

namespace JumpHost.Text

/-- The character of a digit below sixteen. -/
def hexDigit (d : Nat) : Char := if d < 10 then Char.ofNat (48 + d) else Char.ofNat (87 + d)

/-- The value of a hexadecimal digit. -/
def hexValue? (c : Char) : Option Nat :=
  let n := c.toNat
  if 48 ≤ n ∧ n ≤ 57 then some (n - 48)
  else if 97 ≤ n ∧ n ≤ 102 then some (n - 87)
  else if 65 ≤ n ∧ n ≤ 70 then some (n - 55)
  else none

theorem hexValue?_hexDigit {d : Nat} (h : d < 16) : hexValue? (hexDigit d) = some d := by
  have all : ∀ d : Fin 16, hexValue? (hexDigit d) = some d.1 := by decide
  exact all ⟨d, h⟩

/-- The hexadecimal digits of a number, the most significant first. -/
def hexNumeral (n : Nat) : List Char :=
  if n < 16 then [hexDigit n] else hexNumeral (n / 16) ++ [hexDigit (n % 16)]

/-- The value of a run of digits read behind a number already read. -/
def readHexDigits (n : Nat) : List Char → Option Nat
  | [] => some n
  | c :: s => (hexValue? c).bind fun d => readHexDigits (16 * n + d) s

/-- The number denoted by a non-empty run of digits. -/
def hexNatural? (s : List Char) : Option Nat := if s = [] then none else readHexDigits 0 s

end JumpHost.Text

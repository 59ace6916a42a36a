/-
**Decimal numerals.**

Natural numbers are written in decimal without leading zeros.  They are read more generously: any
number of leading zeros is allowed, and a port may carry a plus sign.

Main definitions:

* `JumpHost.Text.numeral` — the decimal digits of a number;
* `JumpHost.Text.natural?` — the number that a non-empty run of digits denotes;
* `JumpHost.Text.port?` — the port that a text denotes: an optional plus sign and digits whose
  value fits into sixteen bits.

Main statements:

* `JumpHost.Text.natural?_numeral` — what is written reads back;
* `JumpHost.Text.port?_numeral` — so does a port.
-/

set_option autoImplicit false

namespace JumpHost.Text

/-- The character of a digit below ten. -/
def digit (d : Nat) : Char := Char.ofNat (48 + d)

/-- The value of a decimal digit. -/
def digitValue? (c : Char) : Option Nat :=
  if 48 ≤ c.toNat ∧ c.toNat ≤ 57 then some (c.toNat - 48) else none

theorem digitValue?_digit {d : Nat} (h : d < 10) : digitValue? (digit d) = some d := by
  have : ∀ d : Fin 10, digitValue? (digit d) = some d.1 := by decide
  exact this ⟨d, h⟩

/-- The decimal digits of a number, the most significant first. -/
def numeral (n : Nat) : List Char :=
  if n < 10 then [digit n] else numeral (n / 10) ++ [digit (n % 10)]

/-- The value of a run of digits read behind a number already read. -/
def readDigits (n : Nat) : List Char → Option Nat
  | [] => some n
  | c :: s => (digitValue? c).bind fun d => readDigits (10 * n + d) s

/-- The number denoted by a non-empty run of digits; leading zeros are allowed. -/
def natural? (s : List Char) : Option Nat := if s = [] then none else readDigits 0 s

/-- The port denoted by a text: an optional plus sign, then digits of a value below `2 ^ 16`. -/
def port? (s : List Char) : Option UInt16 :=
  let digits := match s with
    | '+' :: rest => rest
    | _ => s
  (natural? digits).bind fun n => if n < 65536 then some (UInt16.ofNat n) else none

theorem readDigits_append (n : Nat) (s t : List Char) :
    readDigits n (s ++ t) = (readDigits n s).bind fun m => readDigits m t := by
  induction s generalizing n with
  | nil => rfl
  | cons c s ih =>
    simp only [List.cons_append, readDigits, Option.bind_assoc]
    congr 1
    funext d
    exact ih _

theorem numeral_ne_nil (n : Nat) : numeral n ≠ [] := by
  rw [numeral]
  split <;> simp

theorem readDigits_numeral (n : Nat) : readDigits 0 (numeral n) = some n := by
  induction n using Nat.strongRecOn with
  | ind n ih =>
    rw [numeral]
    split
    · rename_i h
      simp [readDigits, digitValue?_digit h]
    · rename_i h
      rw [readDigits_append, ih (n / 10) (by omega)]
      simp only [Option.bind_some, readDigits, digitValue?_digit (Nat.mod_lt n (by decide)),
        Option.some.injEq]
      omega

@[simp] theorem natural?_numeral (n : Nat) : natural? (numeral n) = some n := by
  simp [natural?, numeral_ne_nil, readDigits_numeral]

theorem head?_numeral (n : Nat) : ∃ d < 10, (numeral n).head? = some (digit d) := by
  induction n using Nat.strongRecOn with
  | ind n ih =>
    rw [numeral]
    split
    · rename_i h
      exact ⟨n, h, rfl⟩
    · rename_i h
      obtain ⟨d, hd, hh⟩ := ih (n / 10) (by omega)
      refine ⟨d, hd, ?_⟩
      rw [List.head?_append, hh]
      rfl

@[simp] theorem port?_numeral (p : UInt16) : port? (numeral p.toNat) = some p := by
  have hp : p.toNat < 65536 := p.toNat_lt
  have hplus : ∀ rest, numeral p.toNat ≠ '+' :: rest := by
    intro rest h
    obtain ⟨d, hd, hh⟩ := head?_numeral p.toNat
    rw [h] at hh
    have : ∀ d : Fin 10, digit d ≠ '+' := by decide
    exact this ⟨d, hd⟩ (by simpa using hh.symm)
  unfold port?
  split
  · rename_i rest h
    exact absurd h (hplus rest)
  · simp [hp]

end JumpHost.Text

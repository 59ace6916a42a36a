/-
**Reading well-formed numbers.**

Only a number needs to know what follows it, since a digit, a point or an exponent would continue
it; `Ends` says that none does.  The digits of a number of 64 bits are all taken into its
significand, so that they denote that number exactly.

Main definitions:

* `JumpHost.Json.Ends` — nothing that could continue a number follows.

Main results:

* `JumpHost.Json.Numeral.readUnsigned_isDigits`, `JumpHost.Json.Numeral.readFraction_isFraction` —
  the parts of a well-formed number are read to their end;
* `JumpHost.Json.Numeral.value_of_numeral` — the digits of a number of 64 bits denote it.
-/

import JumpHost.Proofs.Json.Grammar
import JumpHost.Proofs.Text.Numeral

set_option autoImplicit false

namespace JumpHost.Json

/-! ### What ends a number -/

/-- Nothing that could continue a number follows: nothing at all, white space, a comma or the end
of an array or an object. -/
def Ends (s : List Char) : Prop :=
  ∀ c ∈ s.head?, isSpace c = true ∨ c = ',' ∨ c = ']' ∨ c = '}'

/-- No digit follows. -/
def NoDigit (s : List Char) : Prop := ∀ c ∈ s.head?, Text.digitValue? c = none

theorem ends_cons {c : Char} (h : isSpace c = true ∨ c = ',' ∨ c = ']' ∨ c = '}')
    (s : List Char) : Ends (c :: s) := by simpa [Ends] using h

theorem Ends.isBlank_append {w s : List Char} (hw : IsBlank w) (h : Ends s) : Ends (w ++ s) := by
  cases w with
  | nil => exact h
  | cons c w => exact ends_cons (.inl (hw c List.mem_cons_self)) _

/-- What ends a number is no digit, no point and no sign of an exponent. -/
theorem Ends.head_ne {s : List Char} (h : Ends s) {c : Char} (hc : c ∈ s.head?) :
    Text.digitValue? c = none ∧ c ≠ '.' ∧ c ≠ 'e' ∧ c ≠ 'E' := by
  have marks := h c hc
  simp only [isSpace, Bool.or_eq_true, decide_eq_true_eq] at marks
  rcases marks with (((rfl | rfl) | rfl) | rfl) | rfl | rfl | rfl <;> decide

theorem Ends.noDigit {s : List Char} (h : Ends s) : NoDigit s := fun _ hc => (h.head_ne hc).1

/-! ### Reading the parts -/

namespace Numeral

/-- Digits are read up to the first character that is none. -/
theorem digits_isDigits_append {s rest : List Char} (h : ∀ c ∈ s, ∃ d < 10, c = Text.digit d)
    (hrest : NoDigit rest) :
    ∃ ds, digits (s ++ rest) = (ds, rest) ∧ s = ds.map Text.digit ∧ ∀ d ∈ ds, d < 10 := by
  induction s with
  | nil =>
    refine ⟨[], ?_, rfl, by simp⟩
    cases rest with
    | nil => rfl
    | cons c rest => simp [digits, hrest c rfl]
  | cons c s ih =>
    obtain ⟨d, hd, rfl⟩ := h c List.mem_cons_self
    obtain ⟨ds, hds, rfl, hlt⟩ := ih fun c hc => h c (List.mem_cons_of_mem _ hc)
    refine ⟨d :: ds, ?_, rfl, ?_⟩
    · simp [digits, Text.digitValue?_digit hd, hds]
    · intro e he
      obtain rfl | he := List.mem_cons.1 he
      · exact hd
      · exact hlt e he

theorem digits_of_isDigits {s rest : List Char} (h : IsDigits s) (hrest : NoDigit rest) :
    ∃ ds, digits (s ++ rest) = (ds, rest) ∧ s = ds.map Text.digit ∧ ds ≠ [] ∧
      ∀ d ∈ ds, d < 10 := by
  obtain ⟨ds, hds, rfl, hlt⟩ := digits_isDigits_append h.2 hrest
  exact ⟨ds, hds, rfl, by rintro rfl; exact h.1 rfl, hlt⟩

theorem digit_ne {d : Nat} (h : d < 10) :
    Text.digit d ≠ '+' ∧ Text.digit d ≠ '-' ∧ Text.digit d ≠ '"' ∧
      isSpace (Text.digit d) = false ∧ mark? (Text.digit d) = none := by
  have all : ∀ d : Fin 10, Text.digit d.1 ≠ '+' ∧ Text.digit d.1 ≠ '-' ∧ Text.digit d.1 ≠ '"' ∧
      isSpace (Text.digit d.1) = false ∧ mark? (Text.digit d.1) = none := by decide
  exact all ⟨d, h⟩

theorem readExponent_of_ends (n : Numeral) {rest : List Char} (h : Ends rest) :
    readExponent n rest = (.number n.value, rest) := by
  cases rest with
  | nil => rfl
  | cons c rest =>
    have hc : c ∈ (c :: rest).head? := rfl
    obtain ⟨-, -, he, hE⟩ := h.head_ne hc
    simp [readExponent, he, hE]

theorem readExponent_isExponent (n : Numeral) {e rest : List Char} (h : IsExponent e)
    (hrest : Ends rest) : ∃ x, readExponent n (e ++ rest) = (.number x, rest) := by
  cases h with
  | none => exact ⟨n.value, readExponent_of_ends n hrest⟩
  | @some e sign s he hsign hs =>
    obtain ⟨ds, hds, rfl, hne, hlt⟩ := digits_of_isDigits hs hrest.noDigit
    have read : ∀ downwards, readExponentDigits n downwards (ds.map Text.digit ++ rest) =
        (.number { n with exponent := Option.some (downwards, ds) }.value, rest) := by
      intro downwards
      simp [readExponentDigits, hds, hne]
    rcases hsign with rfl | rfl | rfl
    · -- No digit is taken for a sign.
      obtain ⟨d, ds, rfl⟩ := List.exists_cons_of_ne_nil hne
      obtain ⟨hplus, hminus, -⟩ := digit_ne (hlt d List.mem_cons_self)
      refine ⟨_, Eq.trans ?_ (read false)⟩
      simp [readExponent, he, hplus, hminus]
    · exact ⟨_, Eq.trans (by simp [readExponent, he]) (read false)⟩
    · exact ⟨_, Eq.trans (by simp [readExponent, he]) (read true)⟩

/-- The head of an exponent, or of what follows if there is none, continues neither digits nor a
point. -/
theorem head_exponent_ne {e rest : List Char} (h : IsExponent e) (hrest : Ends rest) {c : Char}
    (hc : c ∈ (e ++ rest).head?) : Text.digitValue? c = none ∧ c ≠ '.' := by
  cases h with
  | none => exact ⟨(hrest.head_ne hc).1, (hrest.head_ne hc).2.1⟩
  | some he =>
    obtain rfl : _ = c := by simpa using hc
    rcases he with rfl | rfl <;> decide

theorem readFraction_of_head_ne (n : Numeral) {s : List Char} (h : ∀ c ∈ s.head?, c ≠ '.') :
    readFraction n s = readExponent n s := by
  unfold readFraction
  split
  · exact absurd rfl (h '.' rfl)
  · rfl

theorem readFraction_isFraction (n : Numeral) {f e rest : List Char} (hf : IsFraction f)
    (he : IsExponent e) (hrest : Ends rest) :
    ∃ x, readFraction n (f ++ (e ++ rest)) = (.number x, rest) := by
  have after := @head_exponent_ne e rest he hrest
  cases hf with
  | none =>
    obtain ⟨x, hx⟩ := readExponent_isExponent n he hrest
    exact ⟨x, by rw [List.nil_append, readFraction_of_head_ne n fun c hc => (after hc).2, hx]⟩
  | @point s hs =>
    obtain ⟨ds, hds, rfl, hne, -⟩ := digits_of_isDigits hs fun c hc => (after hc).1
    obtain ⟨x, hx⟩ := readExponent_isExponent { n with fraction := some ds } he hrest
    exact ⟨x, by simp [readFraction, hds, hne, hx]⟩

theorem readUnsigned_isDigits (isNegative : Bool) {s rest : List Char} (h : IsDigits s)
    (hzero : s.head? = some '0' → s = ['0']) (hrest : NoDigit rest) :
    ∃ ds, s = ds.map Text.digit ∧ (∀ d ∈ ds, d < 10) ∧
      readUnsigned isNegative (s ++ rest) = readFraction ⟨isNegative, ds, none, none⟩ rest := by
  obtain ⟨ds, hds, rfl, hne, hlt⟩ := digits_of_isDigits h hrest
  refine ⟨ds, rfl, hlt, ?_⟩
  unfold readUnsigned
  rw [hds]
  simp only
  split
  · exact absurd rfl hne
  · exact absurd (hzero rfl) (by simp)
  · rfl

theorem le_foldl (n : Nat) (ds : List Nat) : n ≤ ds.foldl (fun n d => 10 * n + d) n := by
  induction ds generalizing n with
  | nil => exact Nat.le_refl n
  | cons d ds ih =>
    have step : n ≤ 10 * n + d := by omega
    exact Nat.le_trans step (ih _)

/-- A significand takes all digits of a number that is within its limit. -/
theorem absorb_of_le {n : Nat} {ds : List Nat}
    (h : ds.foldl (fun n d => 10 * n + d) n ≤ significandLimit) :
    absorb n ds = (ds.foldl (fun n d => 10 * n + d) n, ds.length) := by
  induction ds generalizing n with
  | nil => rfl
  | cons d ds ih =>
    have first : n * 10 + d ≤ significandLimit := by
      rw [Nat.mul_comm]
      exact Nat.le_trans (le_foldl _ ds) h
    rw [absorb, if_pos first, Nat.mul_comm n 10, ih h]
    rfl

/-- The digits of a number of 64 bits denote that number. -/
theorem value_of_numeral {n : Nat} {ds : List Nat} (hn : n ≤ significandLimit)
    (h : Text.numeral n = ds.map Text.digit) (hlt : ∀ d ∈ ds, d < 10) :
    value ⟨false, ds, none, none⟩ = some (.natural n) := by
  have hfold : ds.foldl (fun n d => 10 * n + d) 0 = n := by
    have hread := Text.readDigits_map_digit 0 hlt
    rw [← h, Text.readDigits_numeral] at hread
    exact (Option.some.inj hread).symm
  have taken := absorb_of_le (n := 0) (hfold ▸ hn)
  rw [hfold] at taken
  simp [value, taken, wholeNumber]

end Numeral

end JumpHost.Json

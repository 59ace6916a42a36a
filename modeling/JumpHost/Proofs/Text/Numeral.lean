/-
**Reading numerals.**

A numeral is one or more decimal digits, and it may begin with zeros that do not count; in front of
a port there may be a plus sign.  A text is read as a number exactly if it spells one, so every
text that is no numeral, is empty, or is too large for a port is refused.

Main definitions:

* `JumpHost.Text.IsNumeral` — **a text spells a number**;
* `JumpHost.Text.IsPort` — **a text spells a port**.

Main results:

* `JumpHost.Text.natural?_eq_some_iff`, `JumpHost.Text.port?_eq_some_iff` — the readers accept the
  texts that spell a number, or a port, and give its value;
* `JumpHost.Text.IsPort.colon_notMem` — a port is spelt without colons.
-/

import JumpHost.Text.Numeral
import Mathlib.Data.Nat.Digits.Defs

set_option autoImplicit false

namespace JumpHost.Text

/-! ### Digits -/

theorem digitValue?_eq_some_iff {c : Char} {d : Nat} :
    digitValue? c = some d ↔ d < 10 ∧ c = digit d := by
  constructor
  · intro h
    obtain ⟨hc, hd⟩ := by simpa [digitValue?] using h
    refine ⟨by omega, ?_⟩
    rw [digit, ← hd, Nat.add_sub_cancel' hc.1, Char.ofNat_toNat]
  · rintro ⟨hd, rfl⟩
    exact digitValue?_digit hd

theorem readDigits_map_digit (n : Nat) {ds : List Nat} (h : ∀ d ∈ ds, d < 10) :
    readDigits n (ds.map digit) = some (ds.foldl (fun n d => 10 * n + d) n) := by
  induction ds generalizing n with
  | nil => rfl
  | cons d ds ih =>
    simp only [List.map_cons, readDigits, digitValue?_digit (h d List.mem_cons_self),
      Option.bind_some, List.foldl_cons]
    exact ih _ fun d hd => h d (List.mem_cons_of_mem _ hd)

/-- What is read as a number is digits and nothing else. -/
theorem exists_of_readDigits {n m : Nat} {s : List Char} (h : readDigits n s = some m) :
    ∃ ds : List Nat, (∀ d ∈ ds, d < 10) ∧ s = ds.map digit := by
  induction s generalizing n with
  | nil => exact ⟨[], by simp, rfl⟩
  | cons c s ih =>
    obtain ⟨d, hc, hs⟩ := Option.bind_eq_some_iff.1 h
    obtain ⟨hd, rfl⟩ := digitValue?_eq_some_iff.1 hc
    obtain ⟨ds, hds, rfl⟩ := ih hs
    exact ⟨d :: ds, by simpa using ⟨hd, hds⟩, rfl⟩

/-! ### Numbers -/

/-- **A text spells a number**: one or more decimal digits of its value, the most significant
first.  Leading zeros are allowed. -/
def IsNumeral (n : Nat) (s : List Char) : Prop :=
  ∃ ds : List Nat, ds ≠ [] ∧ (∀ d ∈ ds, d < 10) ∧ s = ds.map digit ∧
    Nat.ofDigits 10 ds.reverse = n

theorem ofDigits_reverse (ds : List Nat) :
    Nat.ofDigits 10 ds.reverse = ds.foldl (fun n d => 10 * n + d) 0 := by
  rw [Nat.ofDigits_eq_foldr, List.foldr_reverse]
  congr 1
  funext n d
  exact Nat.add_comm _ _

theorem natural?_eq_some_iff {s : List Char} {n : Nat} :
    natural? s = some n ↔ IsNumeral n s := by
  constructor
  · intro h
    obtain ⟨hne, hread⟩ := by simpa [natural?] using h
    obtain ⟨ds, hds, rfl⟩ := exists_of_readDigits hread
    rw [readDigits_map_digit 0 hds, Option.some.injEq] at hread
    exact ⟨ds, by simpa using hne, hds, rfl, by rw [ofDigits_reverse, hread]⟩
  · rintro ⟨ds, hne, hds, rfl, rfl⟩
    rw [natural?, if_neg (by simpa using hne), readDigits_map_digit 0 hds, ofDigits_reverse]

/-! ### Ports -/

/-- **A text spells a port**: an optional plus sign, and digits of its value. -/
def IsPort (p : UInt16) (s : List Char) : Prop :=
  ∃ digits, IsNumeral p.toNat digits ∧ (s = digits ∨ s = '+' :: digits)

theorem IsNumeral.notMem {n : Nat} {s : List Char} (h : IsNumeral n s) {c : Char}
    (hc : digitValue? c = none) : c ∉ s := by
  obtain ⟨ds, -, hds, rfl, -⟩ := h
  intro hm
  obtain ⟨d, hd, rfl⟩ := List.mem_map.1 hm
  rw [digitValue?_digit (hds d hd)] at hc
  cases hc

theorem IsPort.colon_notMem {p : UInt16} {s : List Char} (h : IsPort p s) : ':' ∉ s := by
  obtain ⟨digits, hdigits, rfl | rfl⟩ := h
  · exact hdigits.notMem rfl
  · simpa using hdigits.notMem rfl

/-- The digits of a port are those of a number below `2 ^ 16`. -/
theorem natural?_bind_eq_some_iff {s : List Char} {p : UInt16} :
    ((natural? s).bind fun n => if n < 65536 then some (UInt16.ofNat n) else none) = some p ↔
      IsNumeral p.toNat s := by
  rw [← natural?_eq_some_iff, Option.bind_eq_some_iff]
  constructor
  · rintro ⟨n, hn, hp⟩
    obtain ⟨hlt, rfl⟩ := by simpa using hp
    rw [hn, UInt16.toNat_ofNat_of_lt' hlt]
  · intro h
    exact ⟨p.toNat, h, by simp [p.toNat_lt]⟩

/-- **The texts that are read as ports are those that spell one.** -/
theorem port?_eq_some_iff {s : List Char} {p : UInt16} : port? s = some p ↔ IsPort p s := by
  unfold port?
  dsimp only
  split
  · rename_i digits
    rw [natural?_bind_eq_some_iff]
    constructor
    · exact fun h => ⟨digits, h, Or.inr rfl⟩
    · rintro ⟨found, h, rfl | he⟩
      · -- a plus sign is no digit
        exact absurd List.mem_cons_self (h.notMem rfl)
      · obtain ⟨-, rfl⟩ := List.cons.inj he
        exact h
  · rename_i hplus
    rw [natural?_bind_eq_some_iff]
    constructor
    · exact fun h => ⟨s, h, Or.inl rfl⟩
    · rintro ⟨found, h, rfl | rfl⟩
      · exact h
      · exact absurd rfl (hplus found)

theorem isPort_numeral (p : UInt16) : IsPort p (numeral p.toNat) :=
  port?_eq_some_iff.1 (port?_numeral p)

end JumpHost.Text

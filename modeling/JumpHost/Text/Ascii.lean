/-
**Case folding in ASCII.**

Host names, patterns and URL schemes are compared without regard to the case of the 26 letters of
ASCII; no other letter is folded, so a name in another script is compared as it is written.

Main definitions:

* `JumpHost.Text.lower` — a text with the letters `A` to `Z` made small.

Main statements:

* `JumpHost.Text.lower_lower` — folding twice is folding once.
-/

set_option autoImplicit false

namespace JumpHost.Text

/-- The text with the letters `A` to `Z` replaced by `a` to `z`. -/
def lower (s : List Char) : List Char := s.map Char.toLower

theorem toLower_of_not {c : Char} (h : ¬(65 ≤ c.val ∧ c.val ≤ 90)) : c.toLower = c := dif_neg h

@[simp] theorem toLower_toLower (c : Char) : c.toLower.toLower = c.toLower := by
  by_cases h : 65 ≤ c.val ∧ c.val ≤ 90
  · have hc : c.toNat ≤ 90 := by simpa [UInt32.le_iff_toNat_le] using h.2
    have fold : ∀ n : Fin 91, (Char.ofNat n).toLower.toLower = (Char.ofNat n).toLower := by decide
    have h := fold ⟨c.toNat, Nat.lt_succ_of_le hc⟩
    rwa [Char.ofNat_toNat] at h
  · rw [toLower_of_not h, toLower_of_not h]

@[simp] theorem lower_lower (s : List Char) : lower (lower s) = lower s := by
  simp [lower, Function.comp_def]

end JumpHost.Text

/-
**What a wildcard pattern means.**

A pattern means a relation, which says nothing about how a match is found: a star stands for any run
of bytes, a question mark for one byte, every other byte for itself.  The matcher decides it without
ever going back behind the last star.  Nothing is missed by that: the part of the pattern between
two stars has been found where it first occurs, and wherever else it may stand, the star behind it
can take up the bytes in between.

The argument is about bytes of the text that are no stars.  A star in the text is first taken for
the star of the pattern, which then takes up nothing else, so a text with a star can be missed.  It
is never matched in error.

Main definitions:

* `JumpHost.Glob.Fits` — **a text fits a pattern**.

Main results:

* `JumpHost.Glob.fits_of_matches?` — a text that is matched fits, whatever bytes it holds;
* `JumpHost.Glob.matches?_of_fits` — **the last star is enough**: a text without stars that fits is
  matched;
* `JumpHost.Glob.matches?_literal` — a pattern without wildcards matches itself only.
-/

import JumpHost.HostKey.Glob
import Mathlib.Data.List.Basic

set_option autoImplicit false

namespace JumpHost.Glob

/-- **A text fits a pattern.** -/
inductive Fits : List UInt8 → List UInt8 → Prop
  /-- The empty pattern stands for the empty text. -/
  | nil : Fits [] []
  /-- A star stands for any run of bytes. -/
  | run (bytes : List UInt8) {pattern text : List UInt8} (h : Fits pattern text) :
      Fits (star :: pattern) (bytes ++ text)
  /-- A question mark stands for one byte. -/
  | any (b : UInt8) {pattern text : List UInt8} (h : Fits pattern text) :
      Fits (anyByte :: pattern) (b :: text)
  /-- Every other byte stands for itself. -/
  | byte {b : UInt8} {pattern text : List UInt8} (hstar : b ≠ star) (hany : b ≠ anyByte)
      (h : Fits pattern text) : Fits (b :: pattern) (b :: text)

/-! ### Fitting, one byte of the pattern at a time -/

section Fits

variable {p b : UInt8} {pattern text : List UInt8}

/-- A star takes up the bytes before a suffix. -/
theorem fits_star_iff :
    Fits (star :: pattern) text ↔ ∃ rest, rest <:+ text ∧ Fits pattern rest := by
  constructor
  · generalize hq : star :: pattern = q
    rintro (_ | ⟨bytes, h⟩ | ⟨c, h⟩ | ⟨hstar, hany, h⟩)
    · cases hq
    · cases hq
      exact ⟨_, List.suffix_append _ _, h⟩
    · exact absurd (List.cons.inj hq).1 (by decide)
    · exact absurd (List.cons.inj hq).1.symm hstar
  · rintro ⟨rest, ⟨bytes, rfl⟩, h⟩
    exact Fits.run bytes h

theorem Fits.of_suffix {rest : List UInt8} (h : Fits (star :: pattern) rest)
    (hrest : rest <:+ text) : Fits (star :: pattern) text := by
  obtain ⟨rest', hsuffix, hfits⟩ := fits_star_iff.1 h
  exact fits_star_iff.2 ⟨rest', hsuffix.trans hrest, hfits⟩

/-- What stands for a byte takes up one that it fits. -/
theorem fits_cons_iff (hp : p ≠ star) :
    Fits (p :: pattern) text ↔ ∃ b rest, text = b :: rest ∧ (p = anyByte ∨ p = b) ∧
      Fits pattern rest := by
  constructor
  · generalize hq : p :: pattern = q
    rintro (_ | ⟨bytes, h⟩ | ⟨c, h⟩ | ⟨hstar, hany, h⟩)
    · cases hq
    · exact absurd (List.cons.inj hq).1 hp
    · obtain ⟨he, rfl⟩ := List.cons.inj hq
      exact ⟨c, _, rfl, Or.inl he, h⟩
    · obtain ⟨he, rfl⟩ := List.cons.inj hq
      exact ⟨_, _, rfl, Or.inr he, h⟩
  · rintro ⟨b, rest, rfl, hfit, h⟩
    by_cases hany : p = anyByte
    · rw [hany]
      exact Fits.any b h
    · rw [← hfit.resolve_left hany]
      exact Fits.byte hp hany h

/-- A byte of the text that the matcher takes up is one that fits, also if it is a star. -/
theorem Fits.cons (hp : p = anyByte ∨ p = b) (h : Fits pattern text) :
    Fits (p :: pattern) (b :: text) := by
  by_cases hstar : p = star
  · have hb : star = b := (hstar ▸ hp).resolve_left (by decide)
    rw [hstar]
    exact Fits.run [b] h
  · exact (fits_cons_iff hstar).2 ⟨b, text, rfl, hp, h⟩

theorem Fits.append_left (s : List UInt8) (h : Fits pattern text) :
    Fits (s ++ pattern) (s ++ text) := by
  induction s with
  | nil => exact h
  | cons c s ih => exact Fits.cons (Or.inr rfl) ih

theorem fits_nil_iff : Fits pattern [] ↔ onlyStars pattern = true := by
  induction pattern with
  | nil => exact ⟨fun _ => rfl, fun _ => Fits.nil⟩
  | cons p pattern ih =>
    have hall : onlyStars (p :: pattern) = (p == star && onlyStars pattern) := rfl
    by_cases hp : p = star
    · subst hp
      simp [fits_star_iff, hall, ih]
    · simp [fits_cons_iff hp, hall, hp]

end Fits

/-! ### What is matched fits -/

section Sound

variable {pattern text pattern' text' rest : List UInt8}

theorem fits_of_scan_ended (h : scan pattern text = .ended rest) (hrest : Fits rest []) :
    Fits pattern text := by
  fun_induction scan pattern text with
  | case1 pattern =>
    cases h
    exact hrest
  | case2 => cases h
  | case3 p pattern b text hp ih => exact Fits.cons hp (ih h)
  | case4 => cases h
  | case5 => cases h

theorem fits_of_scan_star (h : scan pattern text = .star pattern' text')
    (hrest : Fits (star :: pattern') text') : Fits pattern text := by
  fun_induction scan pattern text with
  | case1 => cases h
  | case2 => cases h
  | case3 p pattern b text hp ih => exact Fits.cons hp (ih h)
  | case4 pattern b text hp =>
    cases h
    exact hrest
  | case5 => cases h

/-- What is matched behind a star fits with the star. -/
theorem fits_of_resume (h : resume pattern text = true) : Fits (star :: pattern) text := by
  fun_induction resume pattern text with
  | case1 pattern text rest hscan =>
    have hfits := fits_of_scan_ended hscan (fits_nil_iff.2 h)
    exact Fits.run [] hfits
  | case2 pattern text pattern' text' hscan ih =>
    have hfits := fits_of_scan_star hscan (ih h)
    exact Fits.run [] hfits
  | case3 => cases h
  | case4 pattern b text hscan ih => exact (ih h).of_suffix (List.suffix_cons b text)

/-- **What is matched fits**, whatever bytes the text holds. -/
theorem fits_of_matches? (h : matches? pattern text = true) : Fits pattern text := by
  unfold matches? at h
  split at h
  · rename_i rest hscan
    exact fits_of_scan_ended hscan (fits_nil_iff.2 h)
  · rename_i pattern' text' hscan
    exact fits_of_scan_star hscan (fits_of_resume h)
  · cases h

end Sound

/-! ### What fits is matched -/

section Complete

variable {pattern text pattern' text' rest left : List UInt8}

theorem suffix_of_scan_star (h : scan pattern text = .star pattern' text') : text' <:+ text := by
  fun_induction scan pattern text with
  | case1 => cases h
  | case2 => cases h
  | case3 p pattern b text hp ih => exact (ih h).trans (List.suffix_cons b text)
  | case4 pattern b text hp =>
    cases h
    exact List.suffix_refl _
  | case5 => cases h

/-- A byte of the pattern that is taken up in the text takes up a byte of every suffix that fits. -/
theorem suffix_of_fits_cons {p b : UInt8} (hp : p = anyByte ∨ p = b) (hb : b ≠ star)
    (hrest : rest <:+ b :: text) (h : Fits (p :: pattern) rest) :
    ∃ rest', rest' <:+ text ∧ Fits pattern rest' := by
  have hstar : p ≠ star := by
    rcases hp with rfl | rfl
    · decide
    · exact hb
  obtain ⟨c, rest', rfl, -, hfits⟩ := (fits_cons_iff hstar).1 h
  rcases List.suffix_cons_iff.1 hrest with he | hsuffix
  · rw [(List.cons.inj he).2] at hfits
    exact ⟨text, List.suffix_refl text, hfits⟩
  · exact ⟨rest', (List.suffix_cons c rest').trans hsuffix, hfits⟩

/-- A text that is scanned to its end leaves a pattern that may end there, if any suffix of the text
fits. -/
theorem fits_nil_of_scan_ended (h : scan pattern text = .ended left) (hs : star ∉ text)
    (hrest : rest <:+ text) (hfits : Fits pattern rest) : Fits left [] := by
  fun_induction scan pattern text generalizing rest with
  | case1 pattern =>
    cases h
    rwa [List.suffix_nil.1 hrest] at hfits
  | case2 => cases h
  | case3 p pattern b text hp ih =>
    simp only [List.mem_cons, not_or] at hs
    obtain ⟨rest', hrest', hfits'⟩ := suffix_of_fits_cons hp (Ne.symm hs.1) hrest hfits
    exact ih h hs.2 hrest' hfits'
  | case4 => cases h
  | case5 => cases h

/-- **A scan finds the first occurrence**: if any suffix of the text fits, then so does what the
scan leaves for the star that it comes upon. -/
theorem fits_of_scan_star_of_suffix (h : scan pattern text = .star pattern' text')
    (hs : star ∉ text) (hrest : rest <:+ text) (hfits : Fits pattern rest) :
    Fits (star :: pattern') text' := by
  fun_induction scan pattern text generalizing rest with
  | case1 => cases h
  | case2 => cases h
  | case3 p pattern b text hp ih =>
    simp only [List.mem_cons, not_or] at hs
    obtain ⟨rest', hrest', hfits'⟩ := suffix_of_fits_cons hp (Ne.symm hs.1) hrest hfits
    exact ih h hs.2 hrest' hfits'
  | case4 pattern b text hp =>
    cases h
    exact hfits.of_suffix hrest
  | case5 => cases h

/-- A text without stars that is scanned to a misfit does not fit. -/
theorem not_fits_of_scan_misfit (h : scan pattern text = .misfit) (hs : star ∉ text) :
    ¬Fits pattern text := by
  intro hfits
  fun_induction scan pattern text with
  | case1 => cases h
  | case2 => cases hfits
  | case3 p pattern b text hp ih =>
    simp only [List.mem_cons, not_or] at hs
    have hstar : p ≠ star := by
      rcases hp with rfl | rfl
      · decide
      · exact Ne.symm hs.1
    obtain ⟨_, _, he, -, hfits'⟩ := (fits_cons_iff hstar).1 hfits
    cases he
    exact ih h hs.2 hfits'
  | case4 => cases h
  | case5 p pattern b text hp hstar =>
    obtain ⟨_, _, he, hfit, -⟩ := (fits_cons_iff hstar).1 hfits
    cases he
    exact hp hfit

theorem resume_of_fits (hs : star ∉ text) (h : Fits (star :: pattern) text) :
    resume pattern text = true := by
  fun_induction resume pattern text with
  | case1 pattern text left hscan =>
    obtain ⟨rest, hrest, hfits⟩ := fits_star_iff.1 h
    exact fits_nil_iff.1 (fits_nil_of_scan_ended hscan hs hrest hfits)
  | case2 pattern text pattern' text' hscan ih =>
    obtain ⟨rest, hrest, hfits⟩ := fits_star_iff.1 h
    have hs' : star ∉ text' := fun hm => hs ((suffix_of_scan_star hscan).subset hm)
    exact ih hs' (fits_of_scan_star_of_suffix hscan hs hrest hfits)
  | case3 pattern hscan =>
    obtain ⟨rest, hrest, hfits⟩ := fits_star_iff.1 h
    rw [List.suffix_nil.1 hrest] at hfits
    exact absurd hfits (not_fits_of_scan_misfit hscan hs)
  | case4 pattern b text hscan ih =>
    obtain ⟨rest, hrest, hfits⟩ := fits_star_iff.1 h
    rcases List.suffix_cons_iff.1 hrest with rfl | hsuffix
    · exact absurd hfits (not_fits_of_scan_misfit hscan hs)
    · exact ih (fun hm => hs (List.mem_cons_of_mem b hm)) (fits_star_iff.2 ⟨rest, hsuffix, hfits⟩)

/-- **The last star is enough**: a text without stars that fits is matched. -/
theorem matches?_of_fits (hs : star ∉ text) (h : Fits pattern text) :
    matches? pattern text = true := by
  unfold matches?
  split
  · rename_i left hscan
    exact fits_nil_iff.1 (fits_nil_of_scan_ended hscan hs (List.suffix_refl text) h)
  · rename_i pattern' text' hscan
    have hs' : star ∉ text' := fun hm => hs ((suffix_of_scan_star hscan).subset hm)
    exact resume_of_fits hs'
      (fits_of_scan_star_of_suffix hscan hs (List.suffix_refl text) h)
  · rename_i hscan
    exact absurd h (not_fits_of_scan_misfit hscan hs)

theorem matches?_iff_fits (hs : star ∉ text) : matches? pattern text = true ↔ Fits pattern text :=
  ⟨fits_of_matches?, matches?_of_fits hs⟩

/-- A star in the text is taken for the star of the pattern, and a match is missed. -/
example : Fits [star, 97] [star, 98, 97] ∧ matches? [star, 97] [star, 98, 97] = false :=
  ⟨Fits.run [star, 98] (Fits.byte (by decide) (by decide) Fits.nil), by decide⟩

end Complete

/-! ### Patterns without wildcards -/

section Literal

variable {pattern text : List UInt8}

theorem eq_of_fits_literal (hs : star ∉ pattern) (ha : anyByte ∉ pattern)
    (h : Fits pattern text) : pattern = text := by
  induction h with
  | nil => rfl
  | run => exact absurd List.mem_cons_self hs
  | any => exact absurd List.mem_cons_self ha
  | byte _ _ _ ih =>
    simp only [List.mem_cons, not_or] at hs ha
    rw [ih hs.2 ha.2]

/-- **A pattern without wildcards matches itself only**, whatever bytes the text holds. -/
theorem matches?_literal (hs : star ∉ pattern) (ha : anyByte ∉ pattern) :
    matches? pattern text = true ↔ pattern = text := by
  constructor
  · exact fun h => eq_of_fits_literal hs ha (fits_of_matches? h)
  · rintro rfl
    exact matches?_self pattern

end Literal

end JumpHost.Glob

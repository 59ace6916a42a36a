/-
**Wildcards.**

A wildcard pattern is matched byte by byte: `*` spans any run of bytes, `?` exactly one, and every
other byte stands for itself.  The matcher reads pattern and text once from left to right.  It
remembers the last star only: when a later byte does not fit, the star takes up one byte more and
the part of the pattern behind it starts again.  Earlier stars need never be reconsidered.

A byte of the text equal to the byte of the pattern is consumed before the pattern is looked at as
a wildcard, so a star in the text is first taken for the star of the pattern itself.

Main definitions:

* `JumpHost.Glob.scan` — matches up to the next star, the end of the text or the first misfit;
* `JumpHost.Glob.resume` — matches behind a star, which takes up bytes as needed;
* `JumpHost.Glob.matches?` — the matcher.

Main statements:

* `JumpHost.Glob.length_of_scan_star` — scanning up to a star uses up pattern;
* `JumpHost.Glob.resume_of_ended`, `JumpHost.Glob.resume_of_star`, `JumpHost.Glob.resume_of_misfit` —
  what follows a scan behind a star;
* `JumpHost.Glob.matches?_self` — every text matches itself as a pattern.
-/

set_option autoImplicit false

namespace JumpHost.Glob

/-- The byte `*`. -/
def star : UInt8 := 42

/-- The byte `?`. -/
def anyByte : UInt8 := 63

/-- What a scan meets: the end of the text with some pattern left, a star with the pattern behind
it and the text before it, or a byte that does not fit. -/
inductive Scan where
  | ended (pattern : List UInt8)
  | star (pattern text : List UInt8)
  | misfit

/-- Matches up to the next star, the end of the text or the first byte that does not fit. -/
def scan : List UInt8 → List UInt8 → Scan
  | pattern, [] => .ended pattern
  | [], _ :: _ => .misfit
  | p :: pattern, b :: text =>
    if p = anyByte ∨ p = b then scan pattern text
    else if p = star then .star pattern (b :: text)
    else .misfit

theorem scan_nil (pattern : List UInt8) : scan pattern [] = .ended pattern := by
  cases pattern <;> rfl

theorem length_of_scan_star {pattern text pattern' text' : List UInt8}
    (h : scan pattern text = .star pattern' text') : pattern'.length < pattern.length := by
  induction pattern generalizing text with
  | nil => cases text <;> simp [scan] at h
  | cons p pattern ih =>
    cases text with
    | nil => simp [scan] at h
    | cons b text =>
      simp only [scan] at h
      split at h
      · exact Nat.lt_succ_of_lt (ih h)
      · split at h
        · simp only [Scan.star.injEq] at h
          simp [h.1]
        · cases h

/-- Pattern that is left at the end of the text fits if it is stars alone. -/
def onlyStars (pattern : List UInt8) : Bool := pattern.all (· == star)

/-- Matches the pattern behind a star, which takes up one byte of the text after another until the
rest fits. -/
def resume (pattern text : List UInt8) : Bool :=
  match _h : scan pattern text with
  | .ended rest => onlyStars rest
  | .star pattern' text' => resume pattern' text'
  | .misfit =>
    match text with
    | [] => false
    | _ :: text => resume pattern text
termination_by (pattern.length, text.length)
decreasing_by
  · exact Prod.Lex.left _ _ (length_of_scan_star _h)
  · exact Prod.Lex.right _ (Nat.lt_succ_self _)

theorem resume_of_ended {pattern text rest : List UInt8} (h : scan pattern text = .ended rest) :
    resume pattern text = onlyStars rest := by
  rw [resume]
  split <;> simp_all

theorem resume_of_star {pattern text pattern' text' : List UInt8}
    (h : scan pattern text = .star pattern' text') :
    resume pattern text = resume pattern' text' := by
  rw [resume]
  split <;> simp_all

theorem resume_of_misfit {pattern text : List UInt8} {b : UInt8}
    (h : scan pattern (b :: text) = .misfit) :
    resume pattern (b :: text) = resume pattern text := by
  rw [resume]
  split <;> simp_all

/-- **The wildcard matcher.** -/
def matches? (pattern text : List UInt8) : Bool :=
  match scan pattern text with
  | .ended rest => onlyStars rest
  | .star pattern text => resume pattern text
  | .misfit => false

theorem scan_self (text : List UInt8) : scan text text = .ended [] := by
  induction text with
  | nil => rfl
  | cons b text ih => simp [scan, ih]

/-- Every text matches itself as a pattern, whatever bytes it holds. -/
theorem matches?_self (text : List UInt8) : matches? text text = true := by
  simp [matches?, scan_self, onlyStars]

end JumpHost.Glob

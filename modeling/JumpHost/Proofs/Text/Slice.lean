/-
**Slices of texts.**

A text is kept as bytes, and a place in it is given by the number of bytes before it.  A slice is
taken at such a place, and there is none where the place lies behind the end or within a character.
The places at which a character of some kind stands, or behind a piece of the text, are never such:
whatever characters the text holds, a slice at them is what a search for the character finds.

Main definitions:

* `JumpHost.Text.width` — the bytes that a text takes;
* `JumpHost.Text.splitBytes?` — **the two slices at a place**, none if a character is cut;
* `JumpHost.Text.find?`, `JumpHost.Text.findLast?` — the place of the first character of a kind, and
  that of the last occurrence of a character.

Main results:

* `JumpHost.Text.splitBytes?_eq_some_iff` — the slices at a place are the text in two pieces, the
  first of which takes the bytes before the place;
* `JumpHost.Text.splitBytes?_find?` — **a slice at a character that was found is in range**;
* `JumpHost.Text.findLast?_eq` — the last occurrence of a character stands behind a piece of the
  text, so that a slice there is in range as well.
-/

import JumpHost.Text.Cut
import JumpHost.Text.Utf8

set_option autoImplicit false

namespace JumpHost.Text

/-! ### Places and slices -/

/-- The bytes that a text takes. -/
def width (s : List Char) : Nat := (utf8 s).length

@[simp] theorem width_nil : width [] = 0 := rfl

@[simp] theorem width_append (s t : List Char) : width (s ++ t) = width s + width t := by
  simp [width]

theorem width_cons (c : Char) (s : List Char) : width (c :: s) = c.utf8Size + width s := by
  simp [width, utf8]

/-- **The two slices at a place**: what stands before so many bytes, and what stands behind them.
There are none if the place lies behind the end or within a character. -/
def splitBytes? : Nat → List Char → Option (List Char × List Char)
  | 0, s => some ([], s)
  | _ + 1, [] => none
  | n + 1, c :: s =>
    if c.utf8Size ≤ n + 1 then
      (splitBytes? (n + 1 - c.utf8Size) s).map fun (before, behind) => (c :: before, behind)
    else none

/-- The slices behind a piece of a text are the piece and the rest. -/
theorem splitBytes?_width (before behind : List Char) :
    splitBytes? (width before) (before ++ behind) = some (before, behind) := by
  induction before with
  | nil => cases behind <;> rfl
  | cons c before ih =>
    have hpos := c.utf8Size_pos
    obtain ⟨n, hn⟩ : ∃ n, width (c :: before) = n + 1 :=
      ⟨c.utf8Size + width before - 1, by rw [width_cons]; omega⟩
    have hwidth := width_cons c before
    have hrest : n + 1 - c.utf8Size = width before := by omega
    rw [hn, List.cons_append, splitBytes?, if_pos (by omega), hrest, ih]
    rfl

/-- **The slices at a place are the text in two pieces**, and the first takes the bytes before the
place. -/
theorem splitBytes?_eq_some_iff {n : Nat} {s before behind : List Char} :
    splitBytes? n s = some (before, behind) ↔ s = before ++ behind ∧ width before = n := by
  constructor
  · intro h
    induction s generalizing n before with
    | nil =>
      cases n with
      | zero =>
        cases h
        exact ⟨rfl, rfl⟩
      | succ n => cases h
    | cons c s ih =>
      cases n with
      | zero =>
        cases h
        exact ⟨rfl, rfl⟩
      | succ n =>
        rw [splitBytes?] at h
        split at h
        · rename_i hle
          obtain ⟨⟨b, rest⟩, hb, he⟩ := Option.map_eq_some_iff.1 h
          cases he
          obtain ⟨rfl, hwidth⟩ := ih hb
          refine ⟨rfl, ?_⟩
          rw [width_cons, hwidth]
          omega
        · cases h
  · rintro ⟨rfl, rfl⟩
    exact splitBytes?_width before behind

/-! ### Searches -/

/-- The place of the first character of a kind. -/
def find? (p : Char → Bool) : List Char → Option Nat
  | [] => none
  | c :: s => if p c then some 0 else (find? p s).map (c.utf8Size + ·)

/-- The place of the last occurrence of a character. -/
def findLast? (a : Char) : List Char → Option Nat
  | [] => none
  | c :: s =>
    match findLast? a s with
    | some n => some (c.utf8Size + n)
    | none => if c = a then some 0 else none

/-- The place of the first character of a kind, or of the end, is behind all before it. -/
theorem getD_find? (p : Char → Bool) (s : List Char) :
    (find? p s).getD (width s) = width (s.takeWhile (!p ·)) := by
  induction s with
  | nil => rfl
  | cons c s ih =>
    rw [find?, List.takeWhile_cons]
    cases hc : p c with
    | true => rfl
    | false =>
      simp only [Bool.false_eq_true, if_false, Bool.not_false, if_true, width_cons, ← ih]
      cases find? p s <;> rfl

/-- **The slices at the first character of a kind**, or at the end, are in range. -/
theorem splitBytes?_find? (p : Char → Bool) (s : List Char) :
    splitBytes? ((find? p s).getD (width s)) s =
      some (s.takeWhile (!p ·), s.dropWhile (!p ·)) := by
  rw [getD_find?]
  exact splitBytes?_eq_some_iff.2 ⟨List.takeWhile_append_dropWhile.symm, rfl⟩

/-- The last occurrence of a character is behind all before it. -/
theorem findLast?_eq (a : Char) (s : List Char) :
    findLast? a s = (cutLast a s).map fun (before, _) => width before := by
  induction s with
  | nil => rfl
  | cons c s ih =>
    rw [findLast?, cutLast, ih]
    cases cutLast a s with
    | some parts => exact congrArg some (width_cons c parts.1).symm
    | none => by_cases hc : c = a <;> simp [hc]

end JumpHost.Text

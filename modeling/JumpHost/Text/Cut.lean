/-
**Cutting a list in two at a separator.**

Addresses and URLs are taken apart by one cut at a time: at the first occurrence of a separator of
several characters, or at the last occurrence of a single one.  A cut loses nothing but the
separator, and the part on the far side of the cut holds no further occurrence.

Main definitions:

* `JumpHost.Text.cut` — the parts before and after the first occurrence of a separator;
* `JumpHost.Text.cutLast` — the parts before and after the last occurrence of an element.

Main statements:

* `JumpHost.Text.eq_append_of_cut`, `JumpHost.Text.eq_append_of_cutLast` — the two parts with the
  separator between them are the text;
* `JumpHost.Text.not_mem_of_cutLast` — nothing is left to cut behind the last occurrence.
-/

set_option autoImplicit false

namespace JumpHost.Text

variable {α : Type} [DecidableEq α]

/-- The parts before and after the first occurrence of `sep`, if there is one. -/
def cut (sep : List α) : List α → Option (List α × List α)
  | [] => if sep = [] then some ([], []) else none
  | a :: s =>
    if sep.isPrefixOf (a :: s) then some ([], (a :: s).drop sep.length)
    else (cut sep s).map fun (before, after) => (a :: before, after)

/-- The parts before and after the last occurrence of `sep`, if there is one. -/
def cutLast (sep : α) : List α → Option (List α × List α)
  | [] => none
  | a :: s =>
    match cutLast sep s with
    | some (before, after) => some (a :: before, after)
    | none => if a = sep then some ([], s) else none

theorem eq_append_of_cut {sep s before after : List α} (h : cut sep s = some (before, after)) :
    s = before ++ sep ++ after := by
  induction s generalizing before with
  | nil =>
    simp only [cut] at h
    split at h <;> simp_all
  | cons a s ih =>
    simp only [cut] at h
    split at h
    · rename_i hsep
      simp only [Option.some.injEq, Prod.mk.injEq] at h
      obtain ⟨rfl, rfl⟩ := h
      simpa using (List.prefix_iff_eq_append.1 (List.isPrefixOf_iff_prefix.1 hsep)).symm
    · obtain ⟨⟨b, c⟩, hb, hc⟩ := Option.map_eq_some_iff.1 h
      simp only [Prod.mk.injEq] at hc
      obtain ⟨rfl, rfl⟩ := hc
      simp [ih hb]

theorem eq_append_of_cutLast {sep : α} {s before after : List α}
    (h : cutLast sep s = some (before, after)) : s = before ++ sep :: after := by
  induction s generalizing before with
  | nil => simp [cutLast] at h
  | cons a s ih =>
    simp only [cutLast] at h
    split at h
    · rename_i b c hb
      simp only [Option.some.injEq, Prod.mk.injEq] at h
      obtain ⟨rfl, rfl⟩ := h
      simp [ih hb]
    · split at h
      · rename_i ha
        simp only [Option.some.injEq, Prod.mk.injEq] at h
        obtain ⟨rfl, rfl⟩ := h
        simp [ha]
      · cases h

theorem cutLast_eq_none_iff {sep : α} {s : List α} : cutLast sep s = none ↔ sep ∉ s := by
  induction s with
  | nil => simp [cutLast]
  | cons a s ih =>
    simp only [cutLast]
    split
    · rename_i b c hb
      have : sep ∈ s := by
        by_cases hs : sep ∈ s
        · exact hs
        · rw [ih.2 hs] at hb
          cases hb
      simp [this]
    · rename_i hn
      have hs := ih.1 hn
      by_cases ha : a = sep
      · simp [ha]
      · simp [ha, hs, Ne.symm ha]

theorem not_mem_of_cutLast {sep : α} {s before after : List α}
    (h : cutLast sep s = some (before, after)) : sep ∉ after := by
  induction s generalizing before with
  | nil => simp [cutLast] at h
  | cons a s ih =>
    simp only [cutLast] at h
    split at h
    · rename_i b c hb
      simp only [Option.some.injEq, Prod.mk.injEq] at h
      obtain ⟨rfl, rfl⟩ := h
      exact ih hb
    · rename_i hn
      split at h
      · simp only [Option.some.injEq, Prod.mk.injEq] at h
        obtain ⟨rfl, rfl⟩ := h
        exact cutLast_eq_none_iff.1 hn
      · cases h

end JumpHost.Text

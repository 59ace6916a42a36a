/-
**Registries that share their bindings.**

A name stands for a table of bindings, and the name of a clone stands for the table of the registry
that it was made from.  What is done through a name changes what is read through the names that
share its table, and nothing that is read through any other name.  A name gets a table when it is
first used; until then it is like a name whose table is empty, and it shares it with nobody.

Main definitions:

* `JumpHost.Registries.HasTables` — every name stands for a table that is there;
* `JumpHost.Registries.Shares` — **two names stand for the same bindings**.

Main results:

* `JumpHost.Registries.shares_update`, `JumpHost.Registries.shares_clone` — who shares with whom
  afterwards;
* `JumpHost.Registries.get_update_of_shares`, `JumpHost.Registries.get_update_of_not_shares`,
  `JumpHost.Registries.get_clone` — **what is read through every name afterwards**.
-/

import JumpHost.Registry
import Mathlib.Logic.Basic

set_option autoImplicit false

namespace JumpHost.Registries

variable {α : Type} {w : Registries α} {name other copy : String}

/-- Every name stands for a table that is there. -/
def HasTables (w : Registries α) : Prop :=
  ∀ name i, w.names.lookup name = some i → i < w.tables.length

/-- Two names stand for the same bindings. -/
def Shares (w : Registries α) (name other : String) : Prop :=
  name = other ∨ ∃ i, w.names.lookup name = some i ∧ w.names.lookup other = some i

/-! ### Names that get a table -/

/-- A new table is empty, like one that is not there. -/
theorem getD_touch (w : Registries α) (name : String) (i : Nat) :
    (w.touch name).tables.getD i .empty = w.tables.getD i .empty := by
  unfold touch
  split
  · rfl
  · simp only [List.getD_eq_getElem?_getD, List.getElem?_append]
    split
    · rfl
    · rename_i hi
      rw [List.getElem?_eq_none (Nat.le_of_not_lt hi), List.getElem?_singleton]
      split <;> rfl

/-- A registry that is made gets a table behind the others. -/
theorem touch_spec (h : w.HasTables) (name : String) :
    w.tables.length ≤ (w.touch name).tables.length ∧ (w.touch name).HasTables := by
  unfold touch
  split
  · exact ⟨Nat.le_refl _, h⟩
  · refine ⟨by simp, fun other i hi => ?_⟩
    simp only [List.length_append, List.length_singleton]
    rw [List.lookup_cons] at hi
    split at hi
    · -- the new name stands for the last table
      cases hi
      exact Nat.lt_succ_self _
    · exact Nat.lt_succ_of_lt (h other i hi)

/-- A name that has no table gets the next one, and the other names keep theirs. -/
theorem lookup_touch_of_none (h : w.names.lookup name = none) (other : String) :
    (w.touch name).names.lookup other =
      if other = name then some w.tables.length else w.names.lookup other := by
  simp only [touch, h]
  by_cases he : other = name
  · simp [he]
  · have hb : (other == name) = false := by simp [he]
    rw [List.lookup_cons, hb, if_neg he]

theorem touch_of_some {i : Nat} (h : w.names.lookup name = some i) : w.touch name = w := by
  simp only [touch, h]

theorem exists_lookup_touch (w : Registries α) (name : String) :
    ∃ i, (w.touch name).names.lookup name = some i := by
  cases h : w.names.lookup name with
  | some i => exact ⟨i, by rw [touch_of_some h, h]⟩
  | none => exact ⟨w.tables.length, by rw [lookup_touch_of_none h, if_pos rfl]⟩

theorem get_of_lookup {i : Nat} (h : w.names.lookup name = some i) :
    w.get name = w.tables.getD i .empty := by
  simp only [get, h]

theorem get_of_lookup_eq_none (h : w.names.lookup name = none) : w.get name = .empty := by
  simp only [get, h]

theorem get_touch (w : Registries α) (name other : String) :
    (w.touch name).get other = w.get other := by
  cases hname : w.names.lookup name with
  | some i => rw [touch_of_some hname]
  | none =>
    have hlookup := lookup_touch_of_none hname other
    by_cases he : other = name
    · -- the table that the name got is empty
      subst he
      rw [if_pos rfl] at hlookup
      rw [get_of_lookup hlookup, get_of_lookup_eq_none hname, getD_touch,
        List.getD_eq_getElem?_getD, List.getElem?_eq_none (Nat.le_refl _), Option.getD_none]
    · rw [if_neg he] at hlookup
      cases hother : w.names.lookup other with
      | none => rw [get_of_lookup_eq_none (hlookup.trans hother), get_of_lookup_eq_none hother]
      | some i =>
        rw [get_of_lookup (hlookup.trans hother), get_of_lookup hother, getD_touch]

theorem shares_touch (h : w.HasTables) (name a b : String) :
    (w.touch name).Shares a b ↔ w.Shares a b := by
  cases hname : w.names.lookup name with
  | some i => rw [touch_of_some hname]
  | none =>
    have hnew (c : String) (i : Nat) : (w.touch name).names.lookup c = some i ↔
        (c = name ∧ i = w.tables.length) ∨ w.names.lookup c = some i := by
      rw [lookup_touch_of_none hname]
      split
      · rename_i he
        subst he
        simp [hname, eq_comm]
      · rename_i he
        simp [he]
    unfold Shares
    refine or_congr_right' fun hne => exists_congr fun i => ?_
    rw [hnew, hnew]
    constructor
    · rintro ⟨⟨rfl, hi⟩ | ha, ⟨rfl, hi'⟩ | hb⟩
      · exact absurd rfl hne
      · exact absurd (hi ▸ h b i hb) (Nat.lt_irrefl _)
      · exact absurd (hi' ▸ h a i ha) (Nat.lt_irrefl _)
      · exact ⟨ha, hb⟩
    · rintro ⟨ha, hb⟩
      exact ⟨Or.inr ha, Or.inr hb⟩

/-- To share with a name that has a table is to stand for this table. -/
theorem shares_iff_lookup {i : Nat} (h : w.names.lookup name = some i) (other : String) :
    w.Shares name other ↔ w.names.lookup other = some i := by
  constructor
  · rintro (rfl | ⟨j, hj, hother⟩)
    · exact h
    · cases h.symm.trans hj
      exact hother
  · exact fun hother => Or.inr ⟨i, h, hother⟩

/-- What is read through a name is read through those that share its bindings. -/
theorem get_of_shares {w : Registries α} (h : w.Shares name other) : w.get other = w.get name := by
  rcases h with rfl | ⟨i, hi, hother⟩
  · rfl
  · rw [get_of_lookup hi, get_of_lookup hother]

/-! ### Changes -/

section Update

variable (h : w.HasTables) (f : Registry α → Registry α)
include h

/-- A change takes place in one of the tables. -/
theorem update_eq (name : String) :
    ∃ i, (w.touch name).names.lookup name = some i ∧ i < (w.touch name).tables.length ∧
      w.update name f = ⟨(w.touch name).names, (w.touch name).tables.modify i f⟩ := by
  obtain ⟨i, hi⟩ := exists_lookup_touch w name
  refine ⟨i, hi, (touch_spec h name).2 name i hi, ?_⟩
  simp only [update, hi]

theorem hasTables_update (name : String) : (w.update name f).HasTables := by
  obtain ⟨i, -, -, hupdate⟩ := update_eq h f name
  intro c j hc
  rw [hupdate] at hc ⊢
  simpa using (touch_spec h name).2 c j hc

/-- A change does not alter who shares with whom. -/
theorem shares_update (name a b : String) : (w.update name f).Shares a b ↔ w.Shares a b := by
  obtain ⟨i, -, -, hupdate⟩ := update_eq h f name
  rw [← shares_touch h name, hupdate]
  rfl

/-- **A change is read through every name that shares the bindings.** -/
theorem get_update_of_shares (hshares : w.Shares name other) :
    (w.update name f).get other = f (w.get name) := by
  obtain ⟨i, hi, hlt, hupdate⟩ := update_eq h f name
  have hother := (shares_iff_lookup hi other).1 ((shares_touch h name name other).2 hshares)
  have hchanged : (w.update name f).names.lookup other = some i := by rw [hupdate]; exact hother
  rw [get_of_lookup hchanged, hupdate, ← get_touch w name name, get_of_lookup hi]
  simp [List.getD_eq_getElem?_getD, hlt]

/-- **It is read through no other name.** -/
theorem get_update_of_not_shares (hshares : ¬w.Shares name other) :
    (w.update name f).get other = w.get other := by
  obtain ⟨i, hi, hlt, hupdate⟩ := update_eq h f name
  have hother : (w.touch name).names.lookup other ≠ some i := by
    rw [Ne, ← shares_iff_lookup hi, shares_touch h]
    exact hshares
  rw [← get_touch w name other]
  cases hj : (w.touch name).names.lookup other with
  | none =>
    have hchanged : (w.update name f).names.lookup other = none := by rw [hupdate]; exact hj
    rw [get_of_lookup_eq_none hchanged, get_of_lookup_eq_none hj]
  | some j =>
    have hchanged : (w.update name f).names.lookup other = some j := by rw [hupdate]; exact hj
    have hne : i ≠ j := fun e => hother (e ▸ hj)
    rw [get_of_lookup hchanged, get_of_lookup hj, hupdate]
    simp [List.getD_eq_getElem?_getD, hne]

end Update

/-! ### Clones -/

theorem getD_clone (w : Registries α) (name copy : String) (i : Nat) :
    (w.clone name copy).tables.getD i .empty = w.tables.getD i .empty := by
  unfold clone
  dsimp only
  split <;> exact getD_touch w name i

theorem clone_spec (h : w.HasTables) (name copy : String) :
    w.tables.length ≤ (w.clone name copy).tables.length ∧ (w.clone name copy).HasTables := by
  obtain ⟨hle, hlt⟩ := touch_spec h name
  unfold clone
  dsimp only
  split
  · rename_i i hi
    refine ⟨hle, fun other j hj => ?_⟩
    rw [List.lookup_cons] at hj
    split at hj
    · cases hj
      exact hlt name i hi
    · exact hlt other j hj
  · exact ⟨hle, hlt⟩

theorem lookup_clone (w : Registries α) (name copy other : String) :
    (w.clone name copy).names.lookup other =
      (w.touch name).names.lookup (if other = copy then name else other) := by
  obtain ⟨i, hi⟩ := exists_lookup_touch w name
  simp only [clone, hi]
  by_cases he : other = copy
  · simp [he, hi]
  · have hb : (other == copy) = false := by simp [he]
    rw [List.lookup_cons, hb, if_neg he]

/-- **What is read through a clone is what is read through its source.** -/
theorem get_clone (w : Registries α) (name copy other : String) :
    (w.clone name copy).get other = w.get (if other = copy then name else other) := by
  have hlookup := lookup_clone w name copy other
  rw [← get_touch w name]
  cases hi : (w.touch name).names.lookup (if other = copy then name else other) with
  | none => rw [get_of_lookup_eq_none (hlookup.trans hi), get_of_lookup_eq_none hi]
  | some i => rw [get_of_lookup (hlookup.trans hi), get_of_lookup hi, getD_clone, getD_touch]

theorem shares_clone (h : w.HasTables) (name copy a b : String) :
    (w.clone name copy).Shares a b ↔
      w.Shares (if a = copy then name else a) (if b = copy then name else b) := by
  obtain ⟨i, hi⟩ := exists_lookup_touch w name
  rw [← shares_touch h name]
  unfold Shares
  simp only [lookup_clone]
  constructor
  · rintro (rfl | hshared)
    · exact Or.inl rfl
    · exact Or.inr hshared
  · rintro (hsame | hshared)
    · by_cases hab : a = b
      · exact Or.inl hab
      · -- one of the two is the clone, so both stand for the table of the source
        refine Or.inr ⟨i, ?_⟩
        have hname : (if a = copy then name else a) = name := by
          by_cases ha : a = copy
          · exact if_pos ha
          · by_cases hb : b = copy
            · rw [hsame, if_pos hb]
            · rw [if_neg ha, if_neg hb] at hsame
              exact absurd hsame hab
        rw [← hsame, hname]
        exact ⟨hi, hi⟩
    · exact Or.inr hshared

end JumpHost.Registries

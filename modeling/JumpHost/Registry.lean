/-
**The registry of dial adapters.**

A driver knows a tunnel by an identifier, and the registry says which adapter dials for it.  An
identifier has one adapter: registering it again replaces the binding, so the latest tunnel wins.
An adapter that was replaced must not remove the binding of its successor, so a binding can also be
removed on condition that it is still the same adapter.  Equality of adapters is their identity.

Registries can share their bindings.  A `Registries` is a world of named registries, where a clone
stands for the same bindings as the registry that it was made from.

Main definitions:

* `JumpHost.Registry` — the bindings in ascending order, with `resolve`, `register`, `unregister`,
  `release` and `identifiers`;
* `JumpHost.Request`, `JumpHost.Answer`, `JumpHost.Registry.serve` — what is asked of a registry;
* `JumpHost.Registries` — named registries, with `clone`, `update` and `ask`.

Main statements:

* `JumpHost.Registry.resolve_register`, `JumpHost.Registry.resolve_unregister`,
  `JumpHost.Registry.resolve_release` — what is resolved after a step;
* `JumpHost.Registry.pairwise_identifiers` — identifiers ascend strictly.
-/

import JumpHost.Log

set_option autoImplicit false

namespace JumpHost

variable {α : Type}

/-! ### Sorted bindings -/

namespace Bindings

/-- Binds an identifier, at its place in the order. -/
def insert (id : String) (a : α) : List (String × α) → List (String × α)
  | [] => [(id, a)]
  | (key, b) :: rest =>
    if id < key then (id, a) :: (key, b) :: rest
    else if id = key then (id, a) :: rest
    else (key, b) :: insert id a rest

/-- Drops the binding of an identifier. -/
def erase (id : String) (l : List (String × α)) : List (String × α) := l.filter (·.1 ≠ id)

theorem mem_insert {id : String} {a : α} {l : List (String × α)} {p : String × α}
    (h : p ∈ insert id a l) : p = (id, a) ∨ p ∈ l := by
  induction l with
  | nil => simpa [insert] using h
  | cons q l ih =>
    obtain ⟨key, b⟩ := q
    simp only [insert] at h
    split at h
    · simpa using h
    · split at h
      · rcases List.mem_cons.1 h with h | h
        · exact Or.inl h
        · exact Or.inr (List.mem_cons_of_mem _ h)
      · rcases List.mem_cons.1 h with h | h
        · exact Or.inr (by simp [h])
        · rcases ih h with h | h
          · exact Or.inl h
          · exact Or.inr (List.mem_cons_of_mem _ h)

theorem pairwise_insert (id : String) (a : α) {l : List (String × α)}
    (h : l.Pairwise (·.1 < ·.1)) : (insert id a l).Pairwise (·.1 < ·.1) := by
  induction l with
  | nil => simp [insert]
  | cons q l ih =>
    obtain ⟨key, b⟩ := q
    obtain ⟨hkey, hl⟩ := List.pairwise_cons.1 h
    simp only [insert]
    split
    · rename_i hlt
      refine List.pairwise_cons.2 ⟨?_, h⟩
      intro p hp
      rcases List.mem_cons.1 hp with rfl | hp
      · exact hlt
      · exact String.lt_trans hlt (hkey p hp)
    · split
      · rename_i heq
        subst heq
        exact List.pairwise_cons.2 ⟨hkey, hl⟩
      · rename_i hle hne
        refine List.pairwise_cons.2 ⟨?_, ih hl⟩
        intro p hp
        rcases mem_insert hp with rfl | hp
        · exact String.not_le.1 fun hge =>
            hne (String.le_antisymm hge (String.not_lt.1 hle))
        · exact hkey p hp

theorem pairwise_erase (id : String) {l : List (String × α)} (h : l.Pairwise (·.1 < ·.1)) :
    (erase id l).Pairwise (·.1 < ·.1) := h.filter _

theorem lookup_insert (id other : String) (a : α) {l : List (String × α)}
    (h : l.Pairwise (·.1 < ·.1)) :
    (insert id a l).lookup other = if other = id then some a else l.lookup other := by
  induction l with
  | nil =>
    by_cases ho : other = id
    · simp [insert, ho]
    · have hb : (other == id) = false := by simp [ho]
      simp [insert, List.lookup_cons, hb, ho]
  | cons q l ih =>
    obtain ⟨key, b⟩ := q
    obtain ⟨hkey, hl⟩ := List.pairwise_cons.1 h
    simp only [insert]
    by_cases ho : other = id
    · subst ho
      split
      · simp
      · split
        · simp
        · rename_i hne
          have hb : (other == key) = false := by simp [hne]
          rw [List.lookup_cons, hb, if_pos rfl]
          simpa using ih hl
    · rw [if_neg ho]
      have hb : (other == id) = false := by simp [ho]
      split
      · simp [List.lookup_cons, hb]
      · split
        · rename_i heq
          subst heq
          simp [List.lookup_cons, hb]
        · rw [List.lookup_cons, List.lookup_cons, ih hl, if_neg ho]

theorem lookup_erase (id other : String) (l : List (String × α)) :
    (erase id l).lookup other = if other = id then none else l.lookup other := by
  induction l with
  | nil => simp [erase]
  | cons q l ih =>
    obtain ⟨key, b⟩ := q
    unfold erase at ih ⊢
    by_cases hk : key = id
    · rw [List.filter_cons_of_neg (by simpa using hk), ih]
      split
      · rfl
      · rename_i ho
        have hb : (other == key) = false := by simp [hk, ho]
        rw [List.lookup_cons, hb]
    · rw [List.filter_cons_of_pos (by simpa using hk), List.lookup_cons, List.lookup_cons, ih]
      by_cases ho : other = id
      · subst ho
        have hb : (other == key) = false := by simpa using Ne.symm hk
        simp [hb]
      · simp [ho]

end Bindings

/-! ### Registries -/

/-- The bindings of identifiers, in ascending order. -/
structure Registry (α : Type) where
  bindings : List (String × α) := []
  ascending : bindings.Pairwise (·.1 < ·.1) := by simp

namespace Registry

/-- Nothing is bound. -/
def empty : Registry α := {}

/-- The adapter that is bound to an identifier. -/
def resolve (r : Registry α) (id : String) : Option α := r.bindings.lookup id

/-- The identifiers that are bound, in ascending order. -/
def identifiers (r : Registry α) : List String := r.bindings.map (·.1)

/-- Something is bound to the identifier. -/
def contains (r : Registry α) (id : String) : Bool := (r.resolve id).isSome

/-- Binds an identifier to an adapter. -/
def register (r : Registry α) (id : String) (a : α) : Registry α :=
  ⟨Bindings.insert id a r.bindings, Bindings.pairwise_insert id a r.ascending⟩

/-- The report of a binding to an identifier: only a replacement is reported. -/
def reportRegister (r : Registry α) (id : String) : List Event :=
  if r.contains id then [⟨.debug, s!"Replaced dial adapter registered as {id}"⟩] else []

/-- Drops the binding of an identifier. -/
def unregister (r : Registry α) (id : String) : Registry α :=
  ⟨Bindings.erase id r.bindings, Bindings.pairwise_erase id r.ascending⟩

/-- The identifier is bound to this very adapter. -/
def isBoundTo [DecidableEq α] (r : Registry α) (id : String) (a : α) : Bool :=
  r.resolve id = some a

/-- Drops the binding of an identifier if it is still the given adapter. -/
def release [DecidableEq α] (r : Registry α) (id : String) (a : α) : Registry α :=
  if r.isBoundTo id a then r.unregister id else r

@[simp] theorem resolve_empty (id : String) : (empty : Registry α).resolve id = none := rfl

theorem resolve_register (r : Registry α) (id other : String) (a : α) :
    (r.register id a).resolve other = if other = id then some a else r.resolve other :=
  Bindings.lookup_insert id other a r.ascending

theorem resolve_unregister (r : Registry α) (id other : String) :
    (r.unregister id).resolve other = if other = id then none else r.resolve other :=
  Bindings.lookup_erase id other r.bindings

/-- What is resolved after a release: only the binding to that very adapter is dropped. -/
theorem resolve_release [DecidableEq α] (r : Registry α) (id other : String) (a : α) :
    (r.release id a).resolve other =
      if other = id ∧ r.resolve id = some a then none else r.resolve other := by
  unfold release isBoundTo
  by_cases h : r.resolve id = some a
  · simp [h, resolve_unregister]
  · simp [h]

theorem pairwise_identifiers (r : Registry α) : r.identifiers.Pairwise (· < ·) := by
  simpa [identifiers, List.pairwise_map] using r.ascending

end Registry

/-! ### Requests -/

/-- What can be asked of a registry. -/
inductive Request (α : Type) where
  | register (id : String) (a : α)
  | unregister (id : String)
  | release (id : String) (a : α)
  | resolve (id : String)
  | contains (id : String)
  | identifiers

/-- What a registry answers. -/
inductive Answer (α : Type) where
  /-- The adapter that is bound, or the one that was bound until now. -/
  | adapter (a : Option α)
  | flag (b : Bool)
  | names (ids : List String)

/-- Serves a request: the answer, and the registry from then on. -/
def Registry.serve [DecidableEq α] (r : Registry α) : Request α → Answer α × Registry α
  | .register id a => (.adapter (r.resolve id), r.register id a)
  | .unregister id => (.adapter (r.resolve id), r.unregister id)
  | .release id a => (.flag (r.isBoundTo id a), r.release id a)
  | .resolve id => (.adapter (r.resolve id), r)
  | .contains id => (.flag (r.contains id), r)
  | .identifiers => (.names r.identifiers, r)

/-! ### Shared registries -/

/-- Named registries.  A name stands for one of the tables of bindings, and the names of clones
stand for the same one. -/
structure Registries (α : Type) where
  names : List (String × Nat) := []
  tables : List (Registry α) := []

namespace Registries

/-- The registry of a name; a name that is new stands for an empty one. -/
def get (w : Registries α) (name : String) : Registry α :=
  match w.names.lookup name with
  | some i => w.tables.getD i .empty
  | none => .empty

/-- Makes an empty registry for a name that is new. -/
def touch (w : Registries α) (name : String) : Registries α :=
  match w.names.lookup name with
  | some _ => w
  | none => ⟨(name, w.tables.length) :: w.names, w.tables ++ [.empty]⟩

/-- Makes `clone` stand for the same bindings as `name`. -/
def clone (w : Registries α) (name clone : String) : Registries α :=
  let w := w.touch name
  match w.names.lookup name with
  | some i => { w with names := (clone, i) :: w.names }
  | none => w

/-- Replaces the registry of a name, and with it that of its clones. -/
def update (w : Registries α) (name : String) (f : Registry α → Registry α) : Registries α :=
  let w := w.touch name
  match w.names.lookup name with
  | some i => { w with tables := w.tables.modify i f }
  | none => w

/-- Asks the registry of a name. -/
def ask [DecidableEq α] (w : Registries α) (name : String) (q : Request α) :
    Answer α × Registries α :=
  (((w.get name).serve q).1, w.update name fun r => (r.serve q).2)

end Registries

end JumpHost

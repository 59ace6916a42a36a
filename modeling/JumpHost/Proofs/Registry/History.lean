/-
**The last writer of a binding wins.**

Registries are asked and cloned in any order.  What is bound to an identifier is told by the actions
alone: it is the adapter of the last registration, if nothing behind it dropped the binding.  The
actions that count are those through any name that stood for the registry when they were taken, so
clones are followed back to the name under which the registry was made.  A release counts only if it
names the very adapter that is bound; another adapter is another element of the type, however much
the two are alike.

Main definitions:

* `JumpHost.Registries.Action`, `JumpHost.Registries.run` — actions, and registries after some;
* `JumpHost.Registries.root` — the name under which a registry was made;
* `JumpHost.Registries.Writes`, `JumpHost.Registries.IsLastWritten` — **an action writes a binding,
  and an adapter is the last that was written**.

Main results:

* `JumpHost.Registry.resolve_serve_iff` — what is bound behind one request;
* `JumpHost.Registries.shares_run_iff` — who shares bindings, told by the actions;
* `JumpHost.Registries.resolve_run_iff` — what is bound behind any actions;
* `JumpHost.Registries.last_writer_wins` — **registries are maps in which the last writer wins**.
-/

import JumpHost.Proofs.Registry.Sharing
import Mathlib.Data.List.Induction

set_option autoImplicit false

namespace JumpHost

variable {α : Type}

/-! ### One request -/

/-- A request writes the binding of an identifier: it binds it, or drops what is bound to it. -/
def Request.Writes (r : Registry α) (id : String) : Request α → Prop
  | register key _ => key = id
  | unregister key => key = id
  | release key a => key = id ∧ r.resolve key = some a
  | _ => False

namespace Registry

theorem mem_identifiers_iff {r : Registry α} {id : String} :
    id ∈ r.identifiers ↔ ∃ a, r.resolve id = some a := by
  have hnone : r.resolve id = none ↔ id ∉ r.identifiers := by
    unfold resolve identifiers
    rw [List.lookup_eq_none_iff]
    constructor
    · intro h hid
      obtain ⟨p, hp, rfl⟩ := List.mem_map.1 hid
      exact absurd (h p hp) (by simp)
    · intro h p hp
      have hne : id ≠ p.1 := fun e => h (e ▸ List.mem_map_of_mem hp)
      simpa using hne
  rw [← Option.ne_none_iff_exists', Ne, hnone, not_not]

variable [DecidableEq α] {r : Registry α}

/-- An adapter is bound behind a request if the request binds it, or if it was bound before and the
request does not write the binding. -/
theorem resolve_serve_iff {q : Request α} {id : String} {a : α} :
    ((r.serve q).2).resolve id = some a ↔
      q = .register id a ∨ (¬q.Writes r id ∧ r.resolve id = some a) := by
  cases q with
  | register key b =>
    simp only [serve, resolve_register, Request.Writes, Request.register.injEq]
    by_cases h : id = key
    · subst h
      simp
    · simp [h, Ne.symm h]
  | unregister key =>
    simp only [serve, resolve_unregister, Request.Writes, reduceCtorEq, false_or]
    by_cases h : id = key
    · simp [h]
    · simp [h, Ne.symm h]
  | release key b =>
    simp only [serve, resolve_release, Request.Writes, reduceCtorEq, false_or]
    by_cases h : id = key
    · subst h
      by_cases hb : r.resolve id = some b
      · simp [hb]
      · simp [hb]
    · simp [h, Ne.symm h]
  | resolve key => simp [serve, Request.Writes]
  | contains key => simp [serve, Request.Writes]
  | identifiers => simp [serve, Request.Writes]

theorem serve_release_of_ne {id : String} {a : α} (h : r.resolve id ≠ some a) :
    (r.serve (.release id a)).2 = r := by
  simp [serve, release, isBoundTo, h]

end Registry

namespace Registries

/-! ### Actions -/

/-- What can be done with named registries. -/
inductive Action (α : Type) where
  | ask (name : String) (q : Request α)
  | clone (name copy : String)

/-- Where names lead behind an action, if `root` is where they led before: a clone leads where its
source led. -/
def Action.follow (root : String → String) : Action α → String → String
  | ask _ _ => root
  | clone name copy => fun other => root (if other = copy then name else other)

/-- The name under which the registry was made that a name stands for behind some actions. -/
def root (actions : List (Action α)) : String → String := actions.foldl Action.follow id

theorem root_append_ask (actions : List (Action α)) (name : String) (q : Request α) :
    root (actions ++ [.ask name q]) = root actions := by
  simp [root, Action.follow]

theorem root_append_clone (actions : List (Action α)) (name copy other : String) :
    root (actions ++ [.clone name copy]) other =
      root actions (if other = copy then name else other) := by
  simp [root, Action.follow]

variable [DecidableEq α]

/-- The registries after an action. -/
def act (w : Registries α) : Action α → Registries α
  | .ask name q => (w.ask name q).2
  | .clone name copy => w.clone name copy

/-- The registries after several actions, from none. -/
def run (actions : List (Action α)) : Registries α := actions.foldl act {}

theorem run_append (actions : List (Action α)) (x : Action α) :
    run (actions ++ [x]) = (run actions).act x := by
  simp [run]

/-- **An action writes a binding** of the registry that was made under the name `made`, if some
actions were taken before. -/
def Writes (past : List (Action α)) (made id : String) : Action α → Prop
  | .ask name q => root past name = made ∧ q.Writes ((run past).get name) id
  | .clone _ _ => False

/-- **An adapter is the last that was written**: it was registered, and no later action writes the
binding. -/
def IsLastWritten (actions : List (Action α)) (made id : String) (a : α) : Prop :=
  ∃ past name future, actions = past ++ .ask name (.register id a) :: future ∧
    root past name = made ∧
    ∀ between x rest, future = between ++ x :: rest →
      ¬Writes (past ++ .ask name (.register id a) :: between) made id x

variable {actions : List (Action α)} {name other id made : String} {a : α}

theorem concat_eq_append_cons_iff {β : Type} {l past future : List β} {x y : β} :
    l ++ [x] = past ++ y :: future ↔
      (past = l ∧ y = x ∧ future = []) ∨
        ∃ between, future = between ++ [x] ∧ l = past ++ y :: between := by
  constructor
  · intro h
    rcases List.eq_nil_or_concat future with rfl | ⟨between, z, rfl⟩
    · obtain ⟨hl, hx⟩ := List.append_inj' h rfl
      exact Or.inl ⟨hl.symm, (List.singleton_inj.1 hx).symm, rfl⟩
    · have hsplit : l ++ [x] = (past ++ y :: between) ++ [z] := by simpa using h
      obtain ⟨hl, hx⟩ := List.append_inj' hsplit rfl
      exact Or.inr ⟨between, by rw [List.singleton_inj.1 hx, List.concat_eq_append], hl⟩
  · rintro (⟨rfl, rfl, rfl⟩ | ⟨between, rfl, rfl⟩)
    · rfl
    · simp

/-- Of several actions either the last one registers the adapter, or it does not write the binding
and the adapter was the last to be written before. -/
theorem isLastWritten_append_iff {x : Action α} :
    IsLastWritten (actions ++ [x]) made id a ↔
      (∃ name, x = .ask name (.register id a) ∧ root actions name = made) ∨
        (¬Writes actions made id x ∧ IsLastWritten actions made id a) := by
  constructor
  · rintro ⟨past, name, future, hactions, hmade, hfuture⟩
    rcases concat_eq_append_cons_iff.1 hactions with ⟨rfl, hx, -⟩ | ⟨between, rfl, rfl⟩
    · exact Or.inl ⟨name, hx.symm, hmade⟩
    · refine Or.inr ⟨hfuture between x [] rfl, past, name, between, rfl, hmade, ?_⟩
      intro earlier z rest hz
      exact hfuture earlier z (rest ++ [x]) (by simp [hz])
  · rintro (⟨name, rfl, hmade⟩ | ⟨hx, past, name, future, rfl, hmade, hfuture⟩)
    · refine ⟨actions, name, [], rfl, hmade, fun between z rest hz => ?_⟩
      simp at hz
    · refine ⟨past, name, future ++ [x], by simp, hmade, fun between z rest hz => ?_⟩
      rcases concat_eq_append_cons_iff.1 hz with ⟨rfl, rfl, -⟩ | ⟨rest, -, rfl⟩
      · exact hx
      · exact hfuture between z rest rfl

/-! ### Runs -/

theorem hasTables_run (actions : List (Action α)) : (run actions).HasTables := by
  induction actions using List.reverseRecOn with
  | nil => exact fun _ _ h => by cases h
  | append_singleton actions x ih =>
    rw [run_append]
    cases x with
    | ask name q => exact hasTables_update ih _ name
    | clone name copy => exact (clone_spec ih name copy).2

/-- **Who shares bindings is told by the actions**: the names that lead to one registry. -/
theorem shares_run_iff (actions : List (Action α)) (name other : String) :
    (run actions).Shares name other ↔ root actions name = root actions other := by
  induction actions using List.reverseRecOn generalizing name other with
  | nil => simp [run, root, Shares]
  | append_singleton actions x ih =>
    rw [run_append]
    cases x with
    | ask asked q =>
      rw [root_append_ask, ← ih]
      exact shares_update (hasTables_run actions) _ asked name other
    | clone source copy =>
      rw [root_append_clone, root_append_clone, ← ih]
      exact shares_clone (hasTables_run actions) source copy name other

/-- What an action leaves bound: what it registers, and what was bound before if it does not write
the binding. -/
theorem resolve_ask_iff (actions : List (Action α)) (asked : String) (q : Request α) :
    (((run actions).act (.ask asked q)).get name).resolve id = some a ↔
      (q = .register id a ∧ root actions asked = root actions name) ∨
        (¬Writes actions (root actions name) id (.ask asked q) ∧
          ((run actions).get name).resolve id = some a) := by
  have htables := hasTables_run actions
  have hshares := shares_run_iff actions asked name
  by_cases h : root actions asked = root actions name
  · have hget : ((run actions).act (.ask asked q)).get name =
        (((run actions).get asked).serve q).2 :=
      get_update_of_shares htables _ (hshares.2 h)
    rw [hget, Registry.resolve_serve_iff, get_of_shares (hshares.2 h)]
    simp [Writes, h]
  · have hget : ((run actions).act (.ask asked q)).get name = (run actions).get name :=
      get_update_of_not_shares htables _ (mt hshares.1 h)
    rw [hget]
    simp [Writes, h]

/-- **What is bound behind any actions is what was written last.** -/
theorem resolve_run_iff (actions : List (Action α)) (name id : String) (a : α) :
    ((run actions).get name).resolve id = some a ↔
      IsLastWritten actions (root actions name) id a := by
  induction actions using List.reverseRecOn generalizing name with
  | nil =>
    refine iff_of_false (fun h => ?_) ?_
    · simp [run, get] at h
    · rintro ⟨past, asked, future, hactions, -⟩
      simp at hactions
  | append_singleton actions x ih =>
    rw [run_append, isLastWritten_append_iff]
    cases x with
    | ask asked q =>
      rw [root_append_ask, resolve_ask_iff, ih]
      simp
    | clone source copy =>
      -- a clone resolves what its source does
      have hget := get_clone (run actions) source copy name
      rw [root_append_clone, ← ih]
      simp [act, hget, Writes]

/-- **Registries are maps in which the last writer wins.**  After any actions a name resolves an
identifier to the adapter that was written last through the names that led to the same registry.  A
request that binds or drops answers with what was resolved just before; a release answers whether
this very adapter was bound, and changes nothing if it was not.  The identifiers ascend strictly and
are those that are resolved.  An action that does not write a binding leaves it as it was under
every name, but for the name of a clone, which stands for what its source stands for. -/
theorem last_writer_wins (actions : List (Action α)) :
    let w := run actions
    (∀ name id a, (w.get name).resolve id = some a ↔
      IsLastWritten actions (root actions name) id a) ∧
    (∀ name id a, (w.ask name (.register id a)).1 = .adapter ((w.get name).resolve id) ∧
      (w.ask name (.unregister id)).1 = .adapter ((w.get name).resolve id) ∧
      (w.ask name (.resolve id)).1 = .adapter ((w.get name).resolve id)) ∧
    (∀ name id a, ((w.ask name (.release id a)).1 = .flag true ↔
        (w.get name).resolve id = some a) ∧
      ((w.get name).resolve id ≠ some a → (w.ask name (.release id a)).1 = .flag false ∧
        ∀ other, (w.ask name (.release id a)).2.get other = w.get other)) ∧
    (∀ name, (w.ask name .identifiers).1 = .names (w.get name).identifiers ∧
      (w.get name).identifiers.Pairwise (· < ·) ∧
      ∀ id, (id ∈ (w.get name).identifiers ↔ ∃ a, (w.get name).resolve id = some a) ∧
        ((w.ask name (.contains id)).1 = .flag true ↔ ∃ a, (w.get name).resolve id = some a)) ∧
    (∀ name asked q id, ¬Writes actions (root actions name) id (.ask asked q) →
      ((w.act (.ask asked q)).get name).resolve id = (w.get name).resolve id) ∧
    ∀ source copy name,
      (w.act (.clone source copy)).get name = w.get (if name = copy then source else name) := by
  intro w
  refine ⟨resolve_run_iff actions, fun _ _ _ => ⟨rfl, rfl, rfl⟩, ?_, ?_, ?_, get_clone w⟩
  · intro name id a
    have hanswer : (w.ask name (.release id a)).1 = .flag ((w.get name).isBoundTo id a) := rfl
    refine ⟨by simp [hanswer, Registry.isBoundTo], fun h => ⟨?_, fun other => ?_⟩⟩
    · simp [hanswer, Registry.isBoundTo, h]
    · by_cases hshares : w.Shares name other
      · rw [get_of_shares hshares]
        exact (get_update_of_shares (hasTables_run actions) _ hshares).trans
          (Registry.serve_release_of_ne h)
      · exact get_update_of_not_shares (hasTables_run actions) _ hshares
  · intro name
    refine ⟨rfl, Registry.pairwise_identifiers _, fun id => ⟨Registry.mem_identifiers_iff, ?_⟩⟩
    have hanswer : (w.ask name (.contains id)).1 = .flag ((w.get name).contains id) := rfl
    simp [hanswer, Registry.contains, Option.isSome_iff_exists]
  · intro name asked q id hwrites
    refine Option.ext fun a => ?_
    rw [resolve_ask_iff]
    constructor
    · rintro (⟨rfl, hroot⟩ | ⟨-, ha⟩)
      · exact absurd ⟨hroot, rfl⟩ hwrites
      · exact ha
    · exact fun ha => Or.inr ⟨hwrites, ha⟩

/-- An adapter that a clone's user replaced does not release the binding of its successor, which is
an adapter of the same engine with another number. -/
example :
    let w := run (α := Nat × String)
      [.ask "a" (.register "db" (0, "mysql")), .clone "a" "b",
        .ask "b" (.register "db" (1, "mysql")), .ask "a" (.release "db" (0, "mysql")),
        .ask "c" (.unregister "db")]
    (w.get "a").resolve "db" = some (1, "mysql") ∧ (w.get "c").resolve "db" = none := by
  decide +kernel

end Registries

end JumpHost

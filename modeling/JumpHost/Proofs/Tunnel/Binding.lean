/-
**The newest tunnel owns the binding.**

Any number of tunnels are opened through the clones of a registry, and closed, in any order and
several times over.  A close takes its two steps at different moments, and whatever else happens
may come in between.  An opening touches what others see in its last act only, so it counts as one
move at the moment at which it binds; what happens while it waits for the outside are moves before
it.

The registries are told apart by the tables behind their names, and a tunnel holds on to the table
of the registry that it was opened with, whatever becomes of the name.

Main definitions:

* `JumpHost.Exchange`, `JumpHost.Exchange.step`, `JumpHost.Exchange.run` — registries with the
  tunnels that were opened through them, and what can happen;
* `JumpHost.IsNewest` — a tunnel is the last of its engine that was bound at a table;
* `JumpHost.Exchange.IsSound` — **the invariant**.

Main results:

* `JumpHost.Exchange.IsSound.step`, `JumpHost.Exchange.IsSound.run` — every move keeps the
  invariant, and so do any moves;
* `JumpHost.Exchange.newest_owns_binding` — **the newest tunnel of an engine owns the binding until
  its close begins, and nobody owns it from then on**.
-/

import JumpHost.Proofs.Registry.Sharing
import JumpHost.Proofs.Tunnel.Opening

set_option autoImplicit false

namespace JumpHost

/-! ### Moves -/

/-- Registries with the tunnels that were opened through them. -/
structure Exchange where
  registries : Registries Adapter := {}
  sessions : List Session := []
  /-- How many adapters were made. -/
  adapters : Nat := 0
  /-- The tunnels in the order in which they were bound, each with its table. -/
  tunnels : List (Nat × Tunnel) := []
  /-- The tunnels whose close has begun. -/
  closing : List Nat := []

/-- What can happen to an exchange. -/
inductive Move where
  /-- Makes an empty registry. -/
  | create (name : String)
  | clone (name copy : String)
  /-- Opens a tunnel through a registry, in an outside and in a tree of files. -/
  | establish (name : String) (o : Outside) (c : Config) (t : FileTree)
  /-- The first step of closing a tunnel. -/
  | unbind (n : Nat)
  /-- The second step of closing a tunnel. -/
  | hangUp (n : Nat)

namespace Exchange

/-- The bindings of a table. -/
def table (x : Exchange) (i : Nat) : Registry Adapter := x.registries.tables.getD i .empty

/-- What an opening through a table sees. -/
def board (x : Exchange) (i : Nat) : Switchboard := ⟨x.table i, x.sessions, x.adapters⟩

/-- The exchange with a table and the sessions as a switchboard has them. -/
def put (x : Exchange) (i : Nat) (b : Switchboard) : Exchange :=
  { x with
    registries := { x.registries with tables := x.registries.tables.set i b.registry }
    sessions := b.sessions
    adapters := b.adapters }

/-- Opens a tunnel through a table. -/
def establishAt (x : Exchange) (i : Nat) (o : Outside) (c : Config) (t : FileTree) : Exchange :=
  let opening := Tunnel.establish o c t (x.board i)
  match opening.attempt.result with
  | .error _ => x.put i opening.board
  | .ok tunnel => { x.put i opening.board with tunnels := x.tunnels ++ [(i, tunnel)] }

/-- The exchange after a move.  A registry or a tunnel that is not there makes it idle, and a second
step of closing comes behind a first one. -/
def step (x : Exchange) : Move → Exchange
  | .create name => { x with registries := x.registries.touch name }
  | .clone name copy => { x with registries := x.registries.clone name copy }
  | .establish name o c t =>
    match x.registries.names.lookup name with
    | none => x
    | some i => x.establishAt i o c t
  | .unbind n =>
    match x.tunnels[n]? with
    | none => x
    | some (i, tunnel) =>
      { x.put i (tunnel.unbind (x.board i)) with closing := n :: x.closing }
  | .hangUp n =>
    match x.tunnels[n]? with
    | none => x
    | some (i, tunnel) => if n ∈ x.closing then x.put i (tunnel.hangUp (x.board i)) else x

/-- The exchange after several moves, from one without registries. -/
def run (moves : List Move) : Exchange := moves.foldl step {}

end Exchange

/-! ### The newest tunnel -/

/-- A tunnel is the last of its engine that was bound at a table. -/
def IsNewest (tunnels : List (Nat × Tunnel)) (i n : Nat) (t : Tunnel) : Prop :=
  tunnels[n]? = some (i, t) ∧
    ∀ m u, n < m → tunnels[m]? = some (i, u) → u.engine ≠ t.engine

theorem getElem?_concat_eq_some_iff {α : Type} {l : List α} {a b : α} {n : Nat} :
    (l ++ [a])[n]? = some b ↔ l[n]? = some b ∨ (n = l.length ∧ a = b) := by
  rcases Nat.lt_trichotomy n l.length with hlt | rfl | hgt
  · rw [List.getElem?_append_left hlt]
    simp [Nat.ne_of_lt hlt]
  · simp
  · rw [List.getElem?_eq_none (by simpa using Nat.succ_le_of_lt hgt),
      List.getElem?_eq_none (Nat.le_of_lt hgt)]
    simp [Nat.ne_of_gt hgt]

/-- A tunnel that is bound is the newest, in front of those of its engine at its table. -/
theorem isNewest_append {tunnels : List (Nat × Tunnel)} {i j n : Nat} {t u : Tunnel} :
    IsNewest (tunnels ++ [(i, t)]) j n u ↔
      (j = i ∧ n = tunnels.length ∧ u = t) ∨
        (IsNewest tunnels j n u ∧ ¬(j = i ∧ u.engine = t.engine)) := by
  unfold IsNewest
  simp only [getElem?_concat_eq_some_iff]
  constructor
  · rintro ⟨hn | ⟨rfl, he⟩, hnone⟩
    · -- it was bound before, so the last one must not be of its engine
      have hlt := (List.getElem?_eq_some_iff.1 hn).1
      refine Or.inr ⟨⟨hn, fun m w hm hw => hnone m w hm (Or.inl hw)⟩, ?_⟩
      rintro ⟨rfl, he⟩
      exact hnone _ t hlt (Or.inr ⟨rfl, rfl⟩) he.symm
    · cases he
      exact Or.inl ⟨rfl, rfl, rfl⟩
  · rintro (⟨rfl, rfl, rfl⟩ | ⟨⟨hn, hnone⟩, hother⟩)
    · refine ⟨Or.inr ⟨rfl, rfl⟩, fun m w hm hw => ?_⟩
      rcases hw with hw | ⟨rfl, -⟩
      · exact absurd (List.getElem?_eq_some_iff.1 hw).1 (Nat.lt_asymm hm)
      · exact absurd hm (Nat.lt_irrefl _)
    · refine ⟨Or.inl hn, fun m w hm hw he => ?_⟩
      rcases hw with hw | ⟨-, hw⟩
      · exact hnone m w hm hw he
      · cases hw
        exact hother ⟨rfl, he.symm⟩

theorem Engine.identifier_inj {e f : Engine} : e.identifier = f.identifier ↔ e = f := by
  cases e <;> cases f <;> decide

/-! ### Tables -/

namespace Exchange

variable {x : Exchange} {i j n : Nat} {tunnel : Tunnel}

/-- Putting a switchboard back changes its table and no other. -/
theorem table_put (hi : i < x.registries.tables.length) (b : Switchboard) (j : Nat) :
    (x.put i b).table j = if j = i then b.registry else x.table j := by
  unfold table put
  rw [List.getD_eq_getElem?_getD, List.getElem?_set, List.getD_eq_getElem?_getD]
  by_cases hj : j = i
  · subst hj
    simp [hi]
  · simp [hj, Ne.symm hj]

theorem put_board (x : Exchange) (i : Nat) : x.put i (x.board i) = x := by
  have hset : x.registries.tables.set i (x.table i) = x.registries.tables := by
    refine List.ext_getElem? fun j => ?_
    rw [List.getElem?_set]
    split
    · rename_i hij
      subst hij
      split
      · rename_i hi
        simp [table, List.getD_eq_getElem?_getD, hi]
      · rename_i hi
        rw [List.getElem?_eq_none (Nat.le_of_not_lt hi)]
    · rfl
  unfold put board
  dsimp only
  rw [hset]

/-! ### The invariant -/

/-- **The invariant**: the tunnels are numbered like their sessions and their adapters, a session is
open until the close of its tunnel has begun, and what is bound at a table is the newest tunnel of
its engine, unless its close has begun. -/
structure IsSound (x : Exchange) : Prop where
  names : x.registries.HasTables
  sessions : x.sessions.length = x.tunnels.length
  adapters : x.adapters = x.tunnels.length
  tunnel : ∀ n i (t : Tunnel), x.tunnels[n]? = some (i, t) →
    i < x.registries.tables.length ∧ t.session = n ∧ t.adapter = ⟨n, t.engine, n⟩
  closing : ∀ n ∈ x.closing, n < x.tunnels.length
  isOpen : ∀ n s, x.sessions[n]? = some s → n ∉ x.closing → s.isClosed = false
  bound : ∀ i id a, (x.table i).resolve id = some a ↔
    ∃ n t, IsNewest x.tunnels i n t ∧ n ∉ x.closing ∧ t.identifier = id ∧ t.adapter = a

theorem isSound_nil : IsSound {} where
  names _ _ h := by cases h
  sessions := rfl
  adapters := rfl
  tunnel _ _ _ h := by simp at h
  closing _ h := by simp at h
  isOpen _ _ h := by simp at h
  bound i id a := by
    refine iff_of_false (fun h => ?_) ?_
    · simp [table] at h
    · rintro ⟨n, t, ⟨hn, -⟩, -⟩
      simp at hn

/-- A change of the registries that keeps the tables keeps the invariant. -/
theorem IsSound.of_tables {w : Registries Adapter} (h : IsSound x) (hnames : w.HasTables)
    (hle : x.registries.tables.length ≤ w.tables.length)
    (htable : ∀ i, w.tables.getD i .empty = x.table i) : IsSound { x with registries := w } where
  names := hnames
  sessions := h.sessions
  adapters := h.adapters
  tunnel n i t hn := by
    obtain ⟨hi, ht⟩ := h.tunnel n i t hn
    exact ⟨Nat.lt_of_lt_of_le hi hle, ht⟩
  closing := h.closing
  isOpen := h.isOpen
  bound i id a := by
    rw [← h.bound i id a, table, htable i]

/-- A tunnel that is bound owns the binding of its engine at its table, and the other bindings
there keep their owners. -/
theorem IsSound.resolve_bind (h : IsSound x) (i : Nat) (tunnel : Tunnel) (id : String)
    (a : Adapter) :
    ((x.table i).register tunnel.identifier tunnel.adapter).resolve id = some a ↔
      ∃ n u, IsNewest (x.tunnels ++ [(i, tunnel)]) i n u ∧ n ∉ x.closing ∧
        u.identifier = id ∧ u.adapter = a := by
  have hfresh : x.tunnels.length ∉ x.closing := fun hc => Nat.lt_irrefl _ (h.closing _ hc)
  rw [Registry.resolve_register]
  simp only [isNewest_append, true_and]
  split
  · rename_i hid
    constructor
    · intro ha
      exact ⟨_, tunnel, Or.inl ⟨rfl, rfl⟩, hfresh, hid.symm, Option.some.inj ha⟩
    · rintro ⟨n, u, (⟨rfl, rfl⟩ | ⟨-, hother⟩), -, hu, rfl⟩
      · rfl
      · -- an older tunnel of the engine is not the newest any more
        exact absurd (Engine.identifier_inj.1 (hu.trans hid)) hother
  · rename_i hid
    rw [h.bound]
    constructor
    · rintro ⟨n, u, hu, hn, rfl, rfl⟩
      refine ⟨n, u, Or.inr ⟨hu, fun he => hid ?_⟩, hn, rfl, rfl⟩
      exact congrArg Engine.identifier he
    · rintro ⟨n, u, (⟨rfl, rfl⟩ | ⟨hu, -⟩), hn, rfl, rfl⟩
      · exact absurd rfl hid
      · exact ⟨n, u, hu, hn, rfl, rfl⟩

theorem IsSound.bind (h : IsSound x) (hi : i < x.registries.tables.length) (tunnel : Tunnel)
    {s : Session} (hsession : tunnel.session = x.tunnels.length)
    (hadapter : tunnel.adapter = ⟨x.tunnels.length, tunnel.engine, x.tunnels.length⟩)
    (hs : s.isClosed = false) :
    IsSound { x.put i ⟨(x.table i).register tunnel.identifier tunnel.adapter,
      x.sessions ++ [s], x.adapters + 1⟩ with tunnels := x.tunnels ++ [(i, tunnel)] } where
  names name j hj := by simpa [put] using h.names name j hj
  sessions := by simp [put, h.sessions]
  adapters := by simp [put, h.adapters]
  tunnel n j u hn := by
    simp only [put, List.length_set]
    rcases getElem?_concat_eq_some_iff.1 hn with hn | ⟨rfl, he⟩
    · exact h.tunnel n j u hn
    · cases he
      exact ⟨hi, hsession, hadapter⟩
  closing n hn := by
    have hlt := h.closing n hn
    simp only [List.length_append, List.length_singleton]
    omega
  isOpen n u hu hn := by
    rcases getElem?_concat_eq_some_iff.1 hu with hu | ⟨-, rfl⟩
    · exact h.isOpen n u hu hn
    · exact hs
  bound j id a := by
    change ((x.put i _).table j).resolve id = some a ↔ _
    rw [table_put hi]
    by_cases hj : j = i
    · subst hj
      rw [if_pos rfl]
      exact h.resolve_bind j tunnel id a
    · -- at another table the newest tunnels are the same
      rw [if_neg hj, h.bound]
      simp [isNewest_append, hj, put]

theorem IsSound.establishAt (h : IsSound x) (hi : i < x.registries.tables.length) (o : Outside)
    (c : Config) (t : FileTree) : IsSound (x.establishAt i o c t) := by
  rcases Tunnel.establish_cases o c t (x.board i) with ⟨e, he, hb⟩ | ⟨auth, engine, -, hok, hb⟩
  · have hsame : x.establishAt i o c t = x := by
      simp only [Exchange.establishAt, he, hb, put_board]
    rwa [hsame]
  · simp only [Exchange.establishAt, hok, hb]
    refine h.bind hi (Tunnel.next (x.board i) c.remoteAddress engine) ?_ ?_ rfl
    · exact h.sessions
    · simp only [Tunnel.next, board, h.sessions, h.adapters]

/-- The first step of a close drops the binding of this tunnel and no other. -/
theorem IsSound.resolve_unbind (h : IsSound x) (hn : x.tunnels[n]? = some (i, tunnel)) (id : String)
    (a : Adapter) :
    (tunnel.unbind (x.board i)).registry.resolve id = some a ↔
      ∃ m u, IsNewest x.tunnels i m u ∧ m ∉ n :: x.closing ∧ u.identifier = id ∧
        u.adapter = a := by
  obtain ⟨-, -, hadapter⟩ := h.tunnel n i tunnel hn
  change ((x.table i).release tunnel.identifier tunnel.adapter).resolve id = some a ↔ _
  rw [Registry.resolve_release]
  split
  · -- it is bound, so every newest tunnel of its engine is this one
    rename_i hown
    obtain ⟨rfl, hown⟩ := hown
    refine iff_of_false nofun ?_
    rintro ⟨m, u, hu, hm, hid, rfl⟩
    have hm' : m ∉ x.closing := fun hc => hm (List.mem_cons_of_mem n hc)
    have hbound := (h.bound i u.identifier u.adapter).2 ⟨m, u, hu, hm', rfl, rfl⟩
    rw [hid, hown, (h.tunnel m i u hu.1).2.2, hadapter] at hbound
    have hnumber : n = m := congrArg Adapter.number (Option.some.inj hbound)
    exact hm (hnumber ▸ List.mem_cons_self)
  · rename_i hother
    rw [h.bound]
    constructor
    · rintro ⟨m, u, hu, hm, rfl, rfl⟩
      refine ⟨m, u, hu, fun hc => ?_, rfl, rfl⟩
      rcases List.mem_cons.1 hc with rfl | hc
      · -- this tunnel is bound then, so it would have been dropped
        cases hn.symm.trans hu.1
        exact hother ⟨rfl, (h.bound i _ _).2 ⟨m, tunnel, hu, hm, rfl, rfl⟩⟩
      · exact hm hc
    · rintro ⟨m, u, hu, hm, hid, ha⟩
      exact ⟨m, u, hu, fun hc => hm (List.mem_cons_of_mem n hc), hid, ha⟩

theorem IsSound.unbind (h : IsSound x) (hn : x.tunnels[n]? = some (i, tunnel)) :
    IsSound { x.put i (tunnel.unbind (x.board i)) with closing := n :: x.closing } where
  names name j hj := by simpa [put] using h.names name j hj
  sessions := h.sessions
  adapters := h.adapters
  tunnel m j u hm := by simpa [put] using h.tunnel m j u hm
  closing m hm := by
    rcases List.mem_cons.1 hm with rfl | hm
    · exact (List.getElem?_eq_some_iff.1 hn).1
    · exact h.closing m hm
  isOpen m s hs hm := h.isOpen m s hs fun hc => hm (List.mem_cons_of_mem n hc)
  bound j id a := by
    change ((x.put i _).table j).resolve id = some a ↔
      ∃ m u, IsNewest x.tunnels j m u ∧ m ∉ n :: x.closing ∧ _
    rw [table_put (h.tunnel n i tunnel hn).1]
    by_cases hj : j = i
    · subst hj
      rw [if_pos rfl]
      exact h.resolve_unbind hn id a
    · rw [if_neg hj, h.bound]
      constructor
      · rintro ⟨m, u, hu, hm, hid, ha⟩
        refine ⟨m, u, hu, fun hc => ?_, hid, ha⟩
        rcases List.mem_cons.1 hc with rfl | hc
        · cases hn.symm.trans hu.1
          exact hj rfl
        · exact hm hc
      · rintro ⟨m, u, hu, hm, hid, ha⟩
        exact ⟨m, u, hu, fun hc => hm (List.mem_cons_of_mem n hc), hid, ha⟩

/-- The second step of a close keeps the invariant: the session that it closes is that of a tunnel
whose close has begun. -/
theorem IsSound.hangUp (h : IsSound x) (hn : x.tunnels[n]? = some (i, tunnel))
    (hclosing : n ∈ x.closing) : IsSound (x.put i (tunnel.hangUp (x.board i))) where
  names name j hj := by simpa [put] using h.names name j hj
  sessions := by
    simpa [put, Tunnel.hangUp, Switchboard.onSession, board] using h.sessions
  adapters := h.adapters
  tunnel m j u hm := by simpa [put] using h.tunnel m j u hm
  closing := h.closing
  isOpen m s hs hm := by
    have hne : tunnel.session ≠ m := by
      rw [(h.tunnel n i tunnel hn).2.1]
      rintro rfl
      exact hm hclosing
    refine h.isOpen m s ?_ hm
    rw [← hs]
    simp [put, Tunnel.hangUp, Switchboard.onSession, board, hne]
  bound j id a := by
    have htable : (x.put i (tunnel.hangUp (x.board i))).table j = x.table j := by
      rw [table_put (h.tunnel n i tunnel hn).1]
      split
      · rename_i hj
        rw [hj]
        rfl
      · rfl
    rw [htable]
    exact h.bound j id a

/-- **Every move keeps the invariant.** -/
theorem IsSound.step (h : IsSound x) (move : Move) : IsSound (x.step move) := by
  cases move with
  | create name =>
    obtain ⟨hle, hnames⟩ := Registries.touch_spec h.names name
    exact h.of_tables hnames hle (Registries.getD_touch x.registries name)
  | clone name copy =>
    obtain ⟨hle, hnames⟩ := Registries.clone_spec h.names name copy
    exact h.of_tables hnames hle (Registries.getD_clone x.registries name copy)
  | establish name o c t =>
    simp only [Exchange.step]
    cases hname : x.registries.names.lookup name with
    | none => exact h
    | some i => exact h.establishAt (h.names name i hname) o c t
  | unbind n =>
    simp only [Exchange.step]
    cases hn : x.tunnels[n]? with
    | none => exact h
    | some held => exact h.unbind hn
  | hangUp n =>
    simp only [Exchange.step]
    cases hn : x.tunnels[n]? with
    | none => exact h
    | some held =>
      dsimp only
      split
      · rename_i hclosing
        exact h.hangUp hn hclosing
      · exact h

theorem IsSound.run (h : IsSound x) (moves : List Move) : IsSound (moves.foldl Exchange.step x) := by
  induction moves generalizing x with
  | nil => exact h
  | cons move moves ih => exact ih (h.step move)

/-! ### The owner of a binding -/

theorem IsSound.isOpen_of_resolve {id : String} {a : Adapter} (h : IsSound x)
    (ha : (x.table i).resolve id = some a) :
    ∃ s, x.sessions[a.session]? = some s ∧ s.isClosed = false := by
  obtain ⟨n, t, ht, hn, -, rfl⟩ := (h.bound i id a).1 ha
  have hlt : n < x.sessions.length := by
    rw [h.sessions]
    exact (List.getElem?_eq_some_iff.1 ht.1).1
  have hs := List.getElem?_eq_getElem hlt
  rw [(h.tunnel n i t ht.1).2.2]
  exact ⟨_, hs, h.isOpen n _ hs hn⟩

/-- A tunnel that is not the newest has nothing to drop, nor has one whose close has begun. -/
theorem IsSound.unbind_board (h : IsSound x) (hn : x.tunnels[n]? = some (i, tunnel))
    (hnewest : IsNewest x.tunnels i n tunnel → n ∈ x.closing) :
    tunnel.unbind (x.board i) = x.board i := by
  have hfree : (x.table i).isBoundTo tunnel.identifier tunnel.adapter = false := by
    rw [Registry.isBoundTo, decide_eq_false_iff_not]
    intro hbound
    obtain ⟨m, u, hu, hm, -, ha⟩ := (h.bound i _ _).1 hbound
    -- the owner has the same adapter, so it is the same tunnel
    have hnumber : m = n := by
      rw [(h.tunnel m i u hu.1).2.2, (h.tunnel n i tunnel hn).2.2] at ha
      exact congrArg Adapter.number ha
    subst hnumber
    cases hn.symm.trans hu.1
    exact hm (hnewest hu)
  simp [Tunnel.unbind, board, Registry.release, hfree]

/-- **The newest tunnel of an engine owns the binding until its close begins.**  After any moves,
what a name resolves for an identifier is the adapter of the tunnel that was bound last through a
clone of its registry, unless the close of that tunnel has begun; its session is open.  An opening
that fails changes nothing, and neither does the first step of a close of a tunnel that is not the
newest, or that is closed once more. -/
theorem newest_owns_binding (moves : List Move) :
    let x := run moves
    (∀ name i, x.registries.names.lookup name = some i → ∀ id a,
      (x.registries.get name).resolve id = some a ↔
        ∃ n t, IsNewest x.tunnels i n t ∧ n ∉ x.closing ∧ t.identifier = id ∧ t.adapter = a) ∧
    (∀ name id a, (x.registries.get name).resolve id = some a →
      ∃ s, x.sessions[a.session]? = some s ∧ s.isClosed = false) ∧
    (∀ name i o c t e, x.registries.names.lookup name = some i →
      (Tunnel.establish o c t (x.board i)).attempt.result = .error e →
      x.step (.establish name o c t) = x) ∧
    ∀ n i t, x.tunnels[n]? = some (i, t) → (IsNewest x.tunnels i n t → n ∈ x.closing) →
      (x.step (.unbind n)).registries = x.registries := by
  intro x
  have h : IsSound x := isSound_nil.run moves
  have hget {name : String} {i : Nat} (hname : x.registries.names.lookup name = some i) :
      x.registries.get name = x.table i := by
    simp only [Registries.get, hname, table]
  refine ⟨?_, ?_, ?_, ?_⟩
  · intro name i hname id a
    rw [hget hname]
    exact h.bound i id a
  · intro name id a ha
    cases hname : x.registries.names.lookup name with
    | none => simp [Registries.get, hname] at ha
    | some i =>
      rw [hget hname] at ha
      exact h.isOpen_of_resolve ha
  · intro name i o c t e hname he
    simp only [step, hname, establishAt, he, Tunnel.board_of_error he, put_board]
  · intro n i t hn hnewest
    simp only [step, hn, h.unbind_board hn hnewest, put_board]

/-- An older tunnel is closed behind a newer one, which was opened through a clone. -/
example :
    let server : Server := ⟨none, .ok (), .disconnected, fun _ _ => .ok true⟩
    let o : Outside := { connect _ := .ok server, ledgerPath := "" }
    let c : Config :=
      { sshUser := "u", sshHost := "h", password := some "p", dbUrl := "postgres://db" }
    let x := run [.create "a", .clone "a" "b", .establish "a" o c ⟨[]⟩, .establish "b" o c ⟨[]⟩,
      .unbind 0, .hangUp 0]
    (x.registries.get "a").resolve "postgres+ssh" = some ⟨1, .postgres, 1⟩ := by
  decide +kernel

end Exchange

end JumpHost

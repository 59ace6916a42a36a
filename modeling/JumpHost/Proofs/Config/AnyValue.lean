/-
**Any value at a field.**

A value need not be written for what a field holds.  Then it is refused, or it is read into the
draft and left behind, so that a document never goes on in the middle of a value.  Every value but
one is refused or read at its first token; an engine may also be spelled as an object with a single
member, the name of the engine, of which the value is null.

Main definitions:

* `JumpHost.Reading.SettlesAtOnce`, `JumpHost.Reading.Settles` — what a token and a value come to
  at a field.

Main results:

* `JumpHost.Reading.settles_inEngine` — an object at the engine is refused or read to its end;
* `JumpHost.Reading.settles_atValue` — so is every value at every field.
-/

import JumpHost.Proofs.Config.Skipping

set_option autoImplicit false

namespace JumpHost.Reading

open Json

variable {d : Draft} {f : Field} {layout : Layout} {v rest : List Char} {t : Token}

/-! ### Values of one token -/

/-- What the only token of a value comes to: it is refused, or it is read into the draft. -/
def SettlesAtOnce (d : Draft) (layout : Layout) (x : Except DocumentError Reading) : Prop :=
  (∃ e, x = .error e) ∨ ∃ config, x = .ok (.afterValue { d with config } layout)

/-- What a value comes to: it is refused, or it is read into the draft and `rest` is read behind
it. -/
def Settles (d : Draft) (layout : Layout) (rest : List Char) (x : Except DocumentError Reading) :
    Prop :=
  (∃ e, x = .error e) ∨ ∃ config, x = (afterValue { d with config } layout).scan rest

/-- A token that settles a value leaves what follows it to be read. -/
theorem SettlesAtOnce.settles {s : List Char} (h : tokens s = t :: tokens rest)
    (ht : SettlesAtOnce d layout (stepValue d layout f t)) :
    Settles d layout rest ((atValue d layout f).scan s) := by
  obtain ⟨e, he⟩ | ⟨config, hc⟩ := ht
  · exact .inl ⟨e, scan_of_error h he⟩
  · exact .inr ⟨config, scan_of_step h hc⟩

/-- What is read from one token settles at once. -/
theorem settlesAtOnce_map {α : Type} (x : Except DocumentError α) (g : α → Config) (d : Draft)
    (layout : Layout) :
    SettlesAtOnce d layout (x.map fun v => afterValue { d with config := g v } layout) := by
  cases x with
  | error e => exact .inl ⟨e, rfl⟩
  | ok v => exact .inr ⟨g v, rfl⟩

/-- An engine is refused, or named by a text. -/
theorem settlesAtOnce_engine (d : Draft) (layout : Layout) (h : t.isScalar = true) :
    SettlesAtOnce d layout (stepValue d layout .engine t) := by
  cases t with
  | null => exact .inr ⟨_, rfl⟩
  | bool b => exact .inl ⟨_, rfl⟩
  | number x => exact .inl ⟨_, rfl⟩
  | text x =>
    cases x with
    | none => exact .inl ⟨_, rfl⟩
    | some name =>
      cases he : EngineSpelling.named (String.ofList name) with
      | error e =>
        exact .inl ⟨e, by simp [stepValue, stepEngine, EngineSpelling.step, he, Except.map]⟩
      | ok engine =>
        exact .inr ⟨{ d.config with engine := some engine },
          by simp [stepValue, stepEngine, EngineSpelling.step, he, Except.map]⟩
  | _ => cases h

/-- A scalar settles at once, at every field. -/
theorem settlesAtOnce_stepValue (d : Draft) (layout : Layout) (f : Field)
    (h : t.isScalar = true) : SettlesAtOnce d layout (stepValue d layout f t) := by
  cases f
  case engine => exact settlesAtOnce_engine d layout h
  all_goals exact settlesAtOnce_map _ _ d layout

/-- No field is an array. -/
theorem stepValue_openArray (d : Draft) (layout : Layout) (f : Field) :
    ∃ e, stepValue d layout f .openArray = .error e := by
  cases f <;> exact ⟨_, rfl⟩

/-- No field but the engine is an object. -/
theorem stepValue_openObject (d : Draft) (layout : Layout) (f : Field) :
    (∃ e, stepValue d layout f .openObject = .error e) ∨
      stepValue d layout f .openObject = .ok (.inEngine d layout .member) := by
  cases f
  case engine => exact .inr rfl
  all_goals exact .inl ⟨_, rfl⟩

/-! ### An engine that is spelled as an object -/

theorem scan_inEngine_error {s : List Char} {spelling : EngineSpelling} {ts : List Token}
    {e : DocumentError} (h : tokens s = t :: ts) (ht : spelling.step t = .error e) :
    (inEngine d layout spelling).scan s = .error e :=
  scan_of_error h (by simp [step, stepEngine, ht])

theorem scan_inEngine_step {s : List Char} {spelling spelling' : EngineSpelling}
    (h : tokens s = t :: tokens rest) (ht : spelling.step t = .ok (.inl spelling')) :
    (inEngine d layout spelling).scan s = (inEngine d layout spelling').scan rest :=
  scan_of_step h (by simp [step, stepEngine, ht])

/-- The member of an engine has no value but null. -/
theorem scan_inEngine_value (d : Draft) (layout : Layout) (engine : Engine)
    (h : Derives .value v) (hrest : Ends rest) :
    (∃ e, (inEngine d layout (.unit engine)).scan (v ++ rest) = .error e) ∨
      (inEngine d layout (.unit engine)).scan (v ++ rest) =
        (inEngine d layout (.close engine)).scan rest := by
  obtain ⟨t, ht, htokens⟩ | ⟨s, rfl⟩ | ⟨s, -, rfl⟩ := tokens_value h hrest
  · cases t with
    | null => exact .inr (scan_inEngine_step htokens rfl)
    | bool b => exact .inl ⟨_, scan_inEngine_error htokens rfl⟩
    | number x => exact .inl ⟨_, scan_inEngine_error htokens rfl⟩
    | text x => exact .inl ⟨_, scan_inEngine_error htokens rfl⟩
    | _ => cases ht
  · exact .inl ⟨_, scan_inEngine_error (tokens_openArray _) rfl⟩
  · exact .inl ⟨_, scan_inEngine_error (tokens_openObject _) rfl⟩

/-- The name of the member is the name of an engine. -/
theorem scan_inEngine_name (d : Draft) (layout : Layout) {s : List Char} {x : Option (List Char)}
    (h : tokens s = .text x :: tokens rest) :
    (∃ e, (inEngine d layout .member).scan s = .error e) ∨
      ∃ engine, (inEngine d layout .member).scan s =
        (inEngine d layout (.colon engine)).scan rest := by
  cases x with
  | none => exact .inl ⟨_, scan_inEngine_error h rfl⟩
  | some name =>
    cases he : EngineSpelling.named (String.ofList name) with
    | error e =>
      refine .inl ⟨e, scan_inEngine_error h ?_⟩
      simp [EngineSpelling.step, Token.text?, he, bind, Except.bind]
    | ok engine =>
      refine .inr ⟨engine, scan_inEngine_step h ?_⟩
      simp [EngineSpelling.step, Token.text?, he, bind, Except.bind, pure, Except.pure]

/-- A member of an engine is refused or read to its end. -/
theorem scan_inEngine_member (d : Draft) (layout : Layout) {s : List Char}
    (h : Derives .member s) (hrest : Ends rest) :
    (∃ e, (inEngine d layout .member).scan (s ++ rest) = .error e) ∨
      ∃ engine, (inEngine d layout .member).scan (s ++ rest) =
        (inEngine d layout (.close engine)).scan rest := by
  cases h with
  | @member w b w₁ _ hw hb hw₁ hv =>
    cases hv with
    | @element w₂ v w₃ hw₂ hv hw₃ =>
      simp only [List.append_assoc, List.cons_append]
      rw [scan_isBlank_append hw]
      obtain ⟨x, hx⟩ := tokens_isBody hb (w₁ ++ ':' :: (w₂ ++ (v ++ (w₃ ++ rest))))
      obtain ⟨e, he⟩ | ⟨engine, he⟩ := scan_inEngine_name d layout hx
      · exact .inl ⟨e, he⟩
      · have colon : (inEngine d layout (.colon engine)).scan
            (w₁ ++ ':' :: (w₂ ++ (v ++ (w₃ ++ rest)))) =
              (inEngine d layout (.unit engine)).scan (v ++ (w₃ ++ rest)) := by
          rw [scan_isBlank_append hw₁, scan_inEngine_step (tokens_colon _) rfl,
            scan_isBlank_append hw₂]
        obtain ⟨e, hvalue⟩ | hvalue :=
          scan_inEngine_value d layout engine hv (hrest.isBlank_append hw₃)
        · exact .inl ⟨e, by rw [he, colon, hvalue]⟩
        · exact .inr ⟨engine, by rw [he, colon, hvalue, scan_isBlank_append hw₃]⟩

/-- An object at the engine is refused or read: it has one member, of which the value is null. -/
theorem settles_inEngine (d : Draft) (layout : Layout) {s : List Char}
    (h : IsBlank s ∨ Derives .members s) (rest : List Char) :
    Settles d layout rest ((inEngine d layout .member).scan (s ++ '}' :: rest)) := by
  obtain hblank | hmembers := h
  · rw [scan_isBlank_append hblank]
    exact .inl ⟨_, scan_inEngine_error (tokens_closeObject rest) rfl⟩
  · cases hmembers with
    | lastMember hm =>
      obtain ⟨e, he⟩ | ⟨engine, he⟩ :=
        scan_inEngine_member d layout hm (ends_cons (c := '}') (by simp) rest)
      · exact .inl ⟨e, he⟩
      · exact .inr ⟨_, he.trans (scan_of_step (tokens_closeObject rest) rfl)⟩
    | @members m t hm _ =>
      -- A second member is refused at the comma before it, whatever it is.
      rw [List.append_assoc, List.cons_append]
      obtain ⟨e, he⟩ | ⟨engine, he⟩ :=
        scan_inEngine_member d layout hm (ends_cons (c := ',') (by simp) _)
      · exact .inl ⟨e, he⟩
      · exact .inl ⟨_, he.trans (scan_inEngine_error (tokens_comma _) rfl)⟩

/-- **Every value is refused or read to its end.** -/
theorem settles_atValue (d : Draft) (layout : Layout) (f : Field) (h : Derives .value v)
    (hrest : Ends rest) : Settles d layout rest ((atValue d layout f).scan (v ++ rest)) := by
  obtain ⟨t, ht, htokens⟩ | ⟨s, rfl⟩ | ⟨s, hs, rfl⟩ := tokens_value h hrest
  · exact SettlesAtOnce.settles htokens (settlesAtOnce_stepValue d layout f ht)
  · obtain ⟨e, he⟩ := stepValue_openArray d layout f
    exact .inl ⟨e, scan_of_error (tokens_openArray _) he⟩
  · rw [List.append_assoc, List.cons_append]
    obtain ⟨e, he⟩ | he := stepValue_openObject d layout f
    · exact .inl ⟨e, scan_of_error (tokens_openObject _) he⟩
    · have entered : (atValue d layout f).scan ('{' :: (s ++ (['}'] ++ rest))) =
          (inEngine d layout .member).scan (s ++ '}' :: rest) :=
        scan_of_step (tokens_openObject _) he
      rw [entered]
      exact settles_inEngine d layout hs rest

end JumpHost.Reading

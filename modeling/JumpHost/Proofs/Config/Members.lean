/-
**The members of a configuration document.**

Members make up a configuration in many ways: in any order, with what is implied left out, and with
members of other names between them.  Read one after the other, they fill a draft with the fields of
the configuration, and no field is given again until the object ends.  Members that do give a field
again are refused on the way, whatever their values are.

Main definitions:

* `JumpHost.Config.IsListed` — members that make up a configuration;
* `JumpHost.Draft.IsPartOf` — a draft of which the given fields are those of a configuration;
* `JumpHost.Draft.Continues`, `JumpHost.Draft.Repeats` — members that go on with a draft, and
  members that give a field again.

Main results:

* `JumpHost.Reading.scan_member_listed`, `JumpHost.Reading.scan_members_listed` — one member of a
  configuration, and all of them, are read into the draft;
* `JumpHost.Reading.scan_members_repeated` — members that repeat a field are refused.
-/

import JumpHost.Proofs.Config.AnyValue
import JumpHost.Proofs.Config.Content

set_option autoImplicit false

namespace JumpHost

/-! ### Members that make up a configuration -/

/-- The names of members. -/
def Json.names (ms : List Json.Member) : List String := ms.map Json.Member.name

/-- The members make up a configuration: each field is given at most once and with what it holds,
and a field that is left out holds what is implied.  Members of other names have any values. -/
structure Config.IsListed (c : Config) (ms : List Json.Member) : Prop where
  written : ∀ m ∈ ms, ∀ f : Field, m.name = f.name → (c.content f).Written m.value
  derives : ∀ m ∈ ms, (∀ f : Field, m.name ≠ f.name) → Json.Derives .value m.value
  once : ∀ f : Field, (Json.names ms).count f.name ≤ 1
  implied : ∀ f : Field, f.name ∉ Json.names ms → f.implied = some (c.content f)

namespace Field

theorem name_injective : Function.Injective name := by
  intro f g h
  have found := ofName?_name f
  rw [h, ofName?_name] at found
  exact (Option.some.inj found).symm

theorem ofName?_eq_none {name : String} (h : ∀ f : Field, name ≠ f.name) : ofName? name = none :=
  List.find?_eq_none.2 fun f _ => by simpa using (h f).symm

end Field

/-! ### Drafts of a configuration -/

namespace Draft

/-- The given fields are those of `c`, and the others are blank. -/
def IsPartOf (d : Draft) (c : Config) : Prop :=
  ∀ f, d.config.content f = if f ∈ d.given then c.content f else blank.config.content f

theorem blank_isPartOf (c : Config) : blank.IsPartOf c := by
  intro f
  simp [blank]

theorem IsPartOf.taking {d : Draft} {c : Config} (h : d.IsPartOf c) (f : Field) :
    IsPartOf ⟨d.config.taking c f, f :: d.given⟩ c := by
  intro g
  by_cases hg : g = f
  · subst hg
    simp
  · rw [Config.content_taking_of_ne _ _ hg, h g]
    simp [hg]

/-- The members go on where the draft `d` of `c` has come to: they give none of its fields again. -/
structure Continues (c : Config) (d : Draft) (ms : List Json.Member) : Prop where
  part : d.IsPartOf c
  written : ∀ m ∈ ms, ∀ f : Field, m.name = f.name → (c.content f).Written m.value
  derives : ∀ m ∈ ms, (∀ f : Field, m.name ≠ f.name) → Json.Derives .value m.value
  once : ∀ f : Field, (Json.names ms).count f.name ≤ 1
  fresh : ∀ f ∈ d.given, f.name ∉ Json.names ms

/-- The members of a configuration go on from the beginning. -/
theorem continues_of_isListed {c : Config} {ms : List Json.Member} (h : c.IsListed ms) :
    Continues c blank ms where
  part := blank_isPartOf c
  written := h.written
  derives := h.derives
  once := h.once
  fresh := by simp [blank]

theorem Continues.tail {c : Config} {d d' : Draft} {m : Json.Member} {ms : List Json.Member}
    (h : Continues c d (m :: ms)) (hpart : d'.IsPartOf c)
    (hgiven : ∀ f, f ∈ d'.given ↔ f ∈ d.given ∨ m.name = f.name) : Continues c d' ms where
  part := hpart
  written := fun m' hm' => h.written m' (List.mem_cons_of_mem m hm')
  derives := fun m' hm' => h.derives m' (List.mem_cons_of_mem m hm')
  once := fun f => Nat.le_trans List.count_le_count_cons (h.once f)
  fresh := by
    intro f hf hlater
    obtain hbefore | hname := (hgiven f).1 hf
    · exact h.fresh f hbefore (List.mem_cons_of_mem _ hlater)
    · -- The field would be named by the first member and by a later one.
      have honce := h.once f
      have hcount : 0 < (Json.names ms).count f.name := List.count_pos_iff.2 hlater
      simp only [Json.names, List.map_cons, hname, List.count_cons_self] at honce hcount
      omega

/-- The members give the field again: one of them does though it was given, or two of them do. -/
def Repeats (d : Draft) (f : Field) (ms : List Json.Member) : Prop :=
  (f ∈ d.given ∧ f.name ∈ Json.names ms) ∨ 1 < (Json.names ms).count f.name

theorem not_repeats_nil (d : Draft) (f : Field) : ¬ d.Repeats f [] := by
  simp [Repeats, Json.names]

/-- Behind a first member that is taken, the others still give the field again. -/
theorem Repeats.tail {d d' : Draft} {f : Field} {m : Json.Member} {ms : List Json.Member}
    (h : d.Repeats f (m :: ms)) (hnew : ∀ f ∈ d.given, m.name ≠ f.name)
    (hgiven : ∀ f, f ∈ d'.given ↔ f ∈ d.given ∨ m.name = f.name) : d'.Repeats f ms := by
  obtain ⟨hbefore, hname⟩ | hcount := h
  · obtain hfirst | hlater := List.mem_cons.1 hname
    · exact absurd hfirst.symm (hnew f hbefore)
    · exact .inl ⟨(hgiven f).2 (.inl hbefore), hlater⟩
  · simp only [Json.names, List.map_cons] at hcount
    by_cases hfirst : m.name = f.name
    · rw [hfirst, List.count_cons_self] at hcount
      have hlater : f.name ∈ Json.names ms := List.count_pos_iff.1 (Nat.lt_of_succ_lt_succ hcount)
      exact .inl ⟨(hgiven f).2 (.inr hfirst), hlater⟩
    · rw [List.count_cons_of_ne hfirst] at hcount
      exact .inr hcount

/-- A part to which only what is implied is missing is the whole configuration. -/
theorem IsPartOf.finish {d : Draft} {c : Config} (h : d.IsPartOf c)
    (himplied : ∀ f, f ∉ d.given → f.implied = some (c.content f)) : d.finish = .ok c := by
  have whole : d.config = c := by
    refine Config.ext_content fun f => ?_
    rw [h f]
    split
    · rfl
    · rename_i hf
      exact Field.implied_eq (himplied f hf)
  have nothing : Field.all.find? (fun f => f.isRequired && f ∉ d.given) = none := by
    refine List.find?_eq_none.2 fun f _ hf => ?_
    obtain ⟨hrequired, hgiven⟩ : f.isRequired = true ∧ f ∉ d.given := by simpa using hf
    have hnone := (Field.isRequired_iff f).1 hrequired
    rw [himplied f hgiven] at hnone
    cases hnone
  rw [Draft.finish, nothing, whole]

end Draft

namespace Reading

open Json

variable {c : Config} {d d' : Draft} {f : Field} {m : Member} {s rest : List Char}

/-! ### One member -/

theorem stepName_of_notMem (h : f ∉ d.given) :
    stepName d (.text (some f.name.toList)) =
      .ok (.atColon { d with given := f :: d.given } (some f)) := by
  simp [stepName, Draft.enter, h, Except.map]

theorem stepName_of_mem (h : f ∈ d.given) :
    stepName d (.text (some f.name.toList)) = .error (.duplicateField f) := by
  simp [stepName, Draft.enter, h, Except.map]

theorem stepName_of_unknown {name : String} (h : ∀ f : Field, name ≠ f.name) :
    stepName d (.text (some name.toList)) = .ok (.atColon d none) := by
  simp [stepName, Field.ofName?_eq_none h]

theorem mem_given_cons (hf : m.name = f.name) (given : List Field) (g : Field) :
    g ∈ f :: given ↔ g ∈ given ∨ m.name = g.name := by
  simp [hf, Field.name_injective.eq_iff, or_comm, eq_comm]

/-- What is read behind the name of a member and its colon. -/
def behindColon (d : Draft) : Option Field → Reading
  | some f => .atValue d .object f
  | none => .inSkipped d .start

theorem scan_member_error (hm : m.Written s) {e : DocumentError}
    (h : stepName d (.text (some m.name.toList)) = .error e) (isFirst : Bool) (rest : List Char) :
    (atName isFirst d).scan (s ++ rest) = .error e := by
  obtain ⟨hw, hb, hw₁, hw₂, hw₃⟩ := hm
  rw [List.append_assoc, scan_isBlank_append hw, List.append_assoc]
  refine scan_of_error (tokens_textBody hb _) ?_
  cases isFirst <;> exact h

theorem scan_member_ok (hm : m.Written s) {field : Option Field}
    (h : stepName d (.text (some m.name.toList)) = .ok (.atColon d' field)) (isFirst : Bool)
    (rest : List Char) : ∃ w, IsBlank w ∧
      (atName isFirst d).scan (s ++ rest) =
        (behindColon d' field).scan (m.value ++ (w ++ rest)) := by
  obtain ⟨hw, hb, hw₁, hw₂, hw₃⟩ := hm
  rename_i w b w₁ w₂ w₃
  refine ⟨w₃, hw₃, ?_⟩
  have named : step (.atName isFirst d) (.text (some m.name.toList)) = .ok (.atColon d' field) := by
    cases isFirst <;> exact h
  have colon : step (.atColon d' field) .colon = .ok (behindColon d' field) := by
    cases field <;> rfl
  simp only [List.append_assoc, List.cons_append]
  rw [scan_isBlank_append hw, scan_of_step (tokens_textBody hb _) named, scan_isBlank_append hw₁,
    scan_of_step (tokens_colon _) colon, scan_isBlank_append hw₂]

/-- **One member of a configuration** is read into its field or skipped, and the others go on. -/
theorem scan_member_listed {ms : List Member} (h : d.Continues c (m :: ms)) (hm : m.Written s)
    (isFirst : Bool) (hrest : Ends rest) : ∃ d', Draft.Continues c d' ms ∧
      (∀ f, f ∈ d'.given ↔ f ∈ d.given ∨ m.name = f.name) ∧
      (atName isFirst d).scan (s ++ rest) = (afterValue d' .object).scan rest := by
  by_cases known : ∃ f : Field, m.name = f.name
  · obtain ⟨f, hf⟩ := known
    have hwritten := h.written m List.mem_cons_self f hf
    have hnew : f ∉ d.given := fun hg => h.fresh f hg (by simp [names, hf])
    obtain ⟨w, hw, hscan⟩ := scan_member_ok hm (hf ▸ stepName_of_notMem hnew) isFirst rest
    have hgiven := mem_given_cons hf d.given
    refine ⟨_, h.tail (h.part.taking f) hgiven, hgiven, ?_⟩
    rw [hscan, behindColon, scan_atValue_written _ _ hwritten (hrest.isBlank_append hw),
      scan_isBlank_append hw]
  · have unknown : ∀ f : Field, m.name ≠ f.name := fun f hf => known ⟨f, hf⟩
    have hvalue := h.derives m List.mem_cons_self unknown
    obtain ⟨w, hw, hscan⟩ := scan_member_ok hm (stepName_of_unknown unknown) isFirst rest
    have hgiven : ∀ f, f ∈ d.given ↔ f ∈ d.given ∨ m.name = f.name := fun f => by simp [unknown f]
    refine ⟨d, h.tail h.part hgiven, hgiven, ?_⟩
    rw [hscan, behindColon, scan_inSkipped_value hvalue (hrest.isBlank_append hw),
      scan_isBlank_append hw]

/-- A member with any value is refused or read to its end, and refused if its field was given. -/
theorem scan_member_derives (hm : m.Written s) (hv : Derives .value m.value) (d : Draft)
    (isFirst : Bool) (hrest : Ends rest) :
    (∃ e, (atName isFirst d).scan (s ++ rest) = .error e) ∨
      ∃ d', (∀ f ∈ d.given, m.name ≠ f.name) ∧
        (∀ f, f ∈ d'.given ↔ f ∈ d.given ∨ m.name = f.name) ∧
        (atName isFirst d).scan (s ++ rest) = (afterValue d' .object).scan rest := by
  by_cases known : ∃ f : Field, m.name = f.name
  · obtain ⟨f, hf⟩ := known
    by_cases hgiven : f ∈ d.given
    · exact .inl ⟨_, scan_member_error hm (hf ▸ stepName_of_mem hgiven) isFirst rest⟩
    · obtain ⟨w, hw, hscan⟩ := scan_member_ok hm (hf ▸ stepName_of_notMem hgiven) isFirst rest
      obtain ⟨e, he⟩ | ⟨config, hc⟩ :=
        settles_atValue { d with given := f :: d.given } .object f hv (hrest.isBlank_append hw)
      · exact .inl ⟨e, hscan.trans he⟩
      · refine .inr ⟨⟨config, f :: d.given⟩, ?_, mem_given_cons hf d.given, ?_⟩
        · rintro g hg hname
          exact hgiven (Field.name_injective (hf.symm.trans hname) ▸ hg)
        · rw [hscan, behindColon, hc, scan_isBlank_append hw]
  · have unknown : ∀ f : Field, m.name ≠ f.name := fun f hf => known ⟨f, hf⟩
    obtain ⟨w, hw, hscan⟩ := scan_member_ok hm (stepName_of_unknown unknown) isFirst rest
    refine .inr ⟨d, fun f _ => unknown f, fun f => by simp [unknown f], ?_⟩
    rw [hscan, behindColon, scan_inSkipped_value hv (hrest.isBlank_append hw),
      scan_isBlank_append hw]

/-! ### All members -/

theorem scan_closeObject (d : Draft) (rest : List Char) :
    (afterValue d .object).scan ('}' :: rest) = (d.finish.map done).bind (·.scan rest) := by
  rw [scan, tokens_closeObject, List.foldlM_cons]
  rfl

/-- **The members of a configuration** are read into the draft, and the object ends. -/
theorem scan_members_listed {ms : List Member} (hs : Separated Member.Written ms s)
    (h : d.Continues c ms) (isFirst : Bool) (hfirst : ms = [] → isFirst = true)
    (rest : List Char) : ∃ d' : Draft, d'.IsPartOf c ∧
      (∀ f, f ∈ d'.given ↔ f ∈ d.given ∨ f.name ∈ names ms) ∧
      (atName isFirst d).scan (s ++ '}' :: rest) = (d'.finish.map done).bind (·.scan rest) := by
  induction hs generalizing d isFirst with
  | none hw =>
    obtain rfl := hfirst rfl
    refine ⟨d, h.part, by simp [names], ?_⟩
    rw [scan_isBlank_append hw, scan, tokens_closeObject, List.foldlM_cons]
    rfl
  | @one m s hm =>
    obtain ⟨d', h', hgiven, hscan⟩ :=
      scan_member_listed h hm isFirst (ends_cons (c := '}') (by simp) rest)
    refine ⟨d', h'.part, fun f => ?_, hscan.trans (scan_closeObject d' rest)⟩
    simp [hgiven f, names, eq_comm]
  | @more m m' ms s t hm ht ih =>
    obtain ⟨d', h', hgiven, hscan⟩ :=
      scan_member_listed h hm isFirst (ends_cons (c := ',') (by simp) (t ++ '}' :: rest))
    obtain ⟨d'', hpart, hgiven', hscan'⟩ := ih h' false (by simp)
    refine ⟨d'', hpart, fun f => ?_, ?_⟩
    · rw [hgiven', hgiven, or_assoc]
      simp [names, eq_comm]
    · rw [List.append_assoc, List.cons_append, hscan, scan_of_step (tokens_comma _) rfl, hscan']

/-- **Members that repeat a field** are refused, with whatever values. -/
theorem scan_members_repeated {ms : List Member} (hs : Separated Member.Written ms s)
    (hv : ∀ m ∈ ms, Derives .value m.value) (h : d.Repeats f ms) (isFirst : Bool)
    (rest : List Char) : ∃ e, (atName isFirst d).scan (s ++ '}' :: rest) = .error e := by
  induction hs generalizing d isFirst with
  | none => exact absurd h (Draft.not_repeats_nil d f)
  | @one m s hm =>
    obtain ⟨e, he⟩ | ⟨d', hnew, hgiven, -⟩ := scan_member_derives hm (hv m List.mem_cons_self) d
      isFirst (ends_cons (c := '}') (by simp) rest)
    · exact ⟨e, he⟩
    · -- A member that is taken would leave the field to be given again by none.
      exact absurd (h.tail hnew hgiven) (Draft.not_repeats_nil d' f)
  | @more m m' ms s t hm ht ih =>
    rw [List.append_assoc, List.cons_append]
    obtain ⟨e, he⟩ | ⟨d', hnew, hgiven, hscan⟩ := scan_member_derives hm (hv m List.mem_cons_self) d
      isFirst (ends_cons (c := ',') (by simp) (t ++ '}' :: rest))
    · exact ⟨e, he⟩
    · obtain ⟨e, he⟩ := ih (fun m hm => hv m (List.mem_cons_of_mem _ hm)) (h.tail hnew hgiven) false
      exact ⟨e, by rw [hscan, scan_of_step (tokens_comma _) rfl, he]⟩

end Reading

end JumpHost

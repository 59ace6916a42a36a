/-
**What configuration documents denote.**

A configuration can be written as a document in many ways, with white space and escapes at will: as
an object with its members in any order, or as the array of its values.  All of them denote it.  An
object that gives a field twice denotes nothing.

Main results:

* `JumpHost.Reading.scan_elements_listed` — the values of a configuration are read into it;
* `JumpHost.Config.ofDocument_of_isObject`, `JumpHost.Config.ofDocument_of_isArray` — the objects
  and the arrays that denote a configuration;
* `JumpHost.Config.ofDocument_of_repeated` — an object that gives a field twice denotes nothing;
* `JumpHost.Config.ofDocument_denotes` — **a document denotes its configuration whatever its
  layout**.
-/

import JumpHost.Proofs.Config.Members
import Mathlib.Data.List.Forall2

set_option autoImplicit false

namespace JumpHost

namespace Reading

open Json

variable {c : Config} {d : Draft} {f : Field} {s rest : List Char}

/-! ### The values of an array -/

theorem scan_element_written {v : List Char} (hs : Padded v s) (h : (c.content f).Written v)
    (isFirst : Bool) (d : Draft) (remaining : List Field) (hrest : Ends rest) :
    (atElement isFirst d (f :: remaining)).scan (s ++ rest) =
      (afterValue { d with config := d.config.taking c f } (.array remaining)).scan rest := by
  obtain ⟨hw, hw'⟩ := hs
  rw [List.append_assoc, scan_isBlank_append hw, List.append_assoc,
    scan_atElement_written isFirst d remaining h (hrest.isBlank_append hw'),
    scan_isBlank_append hw']

/-- Once a field has been read, one field fewer may differ from the configuration. -/
theorem content_taking_of_notMem {config : Config} {remaining : List Field}
    (h : ∀ g ∉ f :: remaining, config.content g = c.content g) :
    ∀ g ∉ remaining, (config.taking c f).content g = c.content g := by
  intro g hg
  by_cases hf : g = f
  · rw [hf, Config.content_taking_self]
  · rw [Config.content_taking_of_ne _ _ hf]
    exact h g (by simp [hf, hg])

/-- **The values of a configuration** are read in the order of the fields, and the array ends. -/
theorem scan_elements_listed {vs : List (List Char)} (hs : Separated Padded vs s)
    {remaining : List Field}
    (h : List.Forall₂ (fun f v => (c.content f).Written v) remaining vs) (hvs : vs ≠ [])
    (hd : ∀ g ∉ remaining, d.config.content g = c.content g) (isFirst : Bool) (rest : List Char) :
    (atElement isFirst d remaining).scan (s ++ ']' :: rest) = (done c).scan rest := by
  induction hs generalizing d remaining isFirst with
  | none => exact absurd rfl hvs
  | @one v s hpadded =>
    obtain _ | ⟨hv, hfs⟩ := h
    cases hfs
    rename_i f
    rw [scan_element_written hpadded hv isFirst d [] (ends_cons (by simp) rest)]
    have whole : d.config.taking c f = c :=
      Config.ext_content fun g => content_taking_of_notMem hd g List.not_mem_nil
    rw [whole]
    exact scan_of_step (tokens_closeArray rest) rfl
  | @more v v' vs s t hpadded ht ih =>
    obtain _ | ⟨hv, hfs⟩ := h
    rename_i f remaining
    rw [List.append_assoc, List.cons_append, scan_element_written hpadded hv isFirst d remaining
      (ends_cons (by simp) (t ++ ']' :: rest))]
    have later := ih (d := { d with config := d.config.taking c f }) hfs (by simp)
      (content_taking_of_notMem hd) false
    -- Values are left, so fields are, and a comma leads to the next one.
    obtain _ | ⟨hv', hfs⟩ := hfs
    exact (scan_of_step (tokens_comma _) rfl).trans later

end Reading

/-! ### Whole documents -/

namespace Config

open Json

variable {c : Config} {ms : List Member} {doc : List Char}

theorem ofDocument_of_scan (h : Reading.start.scan doc = .ok (.done c)) :
    ofDocument (String.ofList doc) = .ok c := by
  simp only [ofDocument, String.toList_ofList, ofTokens]
  rw [← Reading.scan, h]

theorem ofDocument_of_error {e : DocumentError} (h : Reading.start.scan doc = .error e) :
    ofDocument (String.ofList doc) = .error e := by
  simp only [ofDocument, String.toList_ofList, ofTokens]
  rw [← Reading.scan, h]

theorem ofDocument_of_isObject (h : c.IsListed ms) (hdoc : IsObject ms doc) :
    ofDocument (String.ofList doc) = .ok c := by
  obtain ⟨hw, hs, hw'⟩ := hdoc
  rename_i w s w'
  obtain ⟨d, hpart, hgiven, hscan⟩ := Reading.scan_members_listed hs
    (Draft.continues_of_isListed h) true (fun _ => rfl) w'
  have finished : d.finish = .ok c := by
    refine hpart.finish fun f hf => h.implied f fun hname => hf ?_
    exact (hgiven f).2 (.inr hname)
  refine ofDocument_of_scan ?_
  rw [Reading.scan_isBlank_append hw, Reading.scan_of_step (tokens_openObject _) rfl, hscan,
    finished]
  exact Reading.scan_isBlank hw'

theorem ofDocument_of_isArray {vs : List (List Char)}
    (h : List.Forall₂ (fun f v => (c.content f).Written v) Field.all vs) (hdoc : IsArray vs doc) :
    ofDocument (String.ofList doc) = .ok c := by
  obtain ⟨hw, hs, hw'⟩ := hdoc
  have hvs : vs ≠ [] := by
    rintro rfl
    cases h
  refine ofDocument_of_scan ?_
  rw [Reading.scan_isBlank_append hw, Reading.scan_of_step (tokens_openArray _) rfl,
    Reading.scan_elements_listed hs h hvs (fun g hg => absurd (Field.mem_all g) hg)]
  exact Reading.scan_isBlank hw'

theorem ofDocument_of_repeated {f : Field} (hdoc : IsObject ms doc)
    (hv : ∀ m ∈ ms, Derives .value m.value) (h : 1 < (names ms).count f.name) :
    ∃ e, ofDocument (String.ofList doc) = .error e := by
  obtain ⟨hw, hs, hw'⟩ := hdoc
  rename_i w s w'
  obtain ⟨e, he⟩ :=
    Reading.scan_members_repeated (d := .blank) hs hv (.inr h) true w'
  refine ⟨e, ofDocument_of_error ?_⟩
  rw [Reading.scan_isBlank_append hw, Reading.scan_of_step (tokens_openObject _) rfl, he]

theorem IsListed.derives_value (h : c.IsListed ms) {m : Member} (hm : m ∈ ms) :
    Derives .value m.value := by
  by_cases known : ∃ f : Field, m.name = f.name
  · obtain ⟨f, hf⟩ := known
    exact (h.written m hm f hf).derives
  · exact h.derives m hm fun f hf => known ⟨f, hf⟩

/-- A member that is added for a field that is given gives it twice. -/
theorem ofDocument_of_added {before after : List Member} {m : Member} {f : Field}
    (h : c.IsListed (before ++ after)) (hf : m.name = f.name)
    (hgiven : f.name ∈ names (before ++ after)) (hv : Derives .value m.value)
    (hdoc : IsObject (before ++ m :: after) doc) :
    ∃ e, ofDocument (String.ofList doc) = .error e := by
  refine ofDocument_of_repeated (f := f) hdoc ?_ ?_
  · intro m' hm'
    obtain rfl | hm' := List.mem_cons.1 (List.perm_middle.mem_iff.1 hm')
    · exact hv
    · exact h.derives_value hm'
  · have hperm : (names (before ++ m :: after)).Perm (f.name :: names (before ++ after)) := by
      simp [names, hf]
    rw [hperm.count_eq, List.count_cons_self]
    exact Nat.succ_lt_succ (List.count_pos_iff.2 hgiven)

/-- **A document denotes its configuration whatever its layout.**  Every object of which the members
make up the configuration denotes it, and so does every array of its values in the order of the
fields; a member that is added anywhere in the object and gives a field again, with whatever value,
makes it denote nothing. -/
theorem ofDocument_denotes (c : Config) :
    (∀ ms doc, c.IsListed ms → IsObject ms doc → ofDocument (String.ofList doc) = .ok c) ∧
    (∀ vs doc, List.Forall₂ (fun f v => (c.content f).Written v) Field.all vs → IsArray vs doc →
      ofDocument (String.ofList doc) = .ok c) ∧
    ∀ before m after (f : Field) doc, c.IsListed (before ++ after) → m.name = f.name →
      f.name ∈ names (before ++ after) → Derives .value m.value →
      IsObject (before ++ m :: after) doc → ∃ e, ofDocument (String.ofList doc) = .error e := by
  refine ⟨?_, ?_, ?_⟩
  · intro ms doc hlisted hdoc
    exact ofDocument_of_isObject hlisted hdoc
  · intro vs doc hwritten hdoc
    exact ofDocument_of_isArray hwritten hdoc
  · intro before m after f doc hlisted hname hgiven hvalue hdoc
    exact ofDocument_of_added hlisted hname hgiven hvalue hdoc

/-- Two fields before the user, one of them with an escape, and something unknown between them. -/
theorem ofDocument_denotes_reordered :
    ofDocument
      "\x7b\"db_url\":\"d\",\"x\":[\x7b\x7d],\"ssh_host\":\"\\u0068\",\"ssh_user\":\"u\"\x7d" =
      .ok { sshUser := "u", sshHost := "h", dbUrl := "d" } := by
  have blank : IsBlank [] := by decide
  have unit : UnitText 104 ['0', '0', '6', '8'] :=
    @UnitText.digits 0 0 6 8 _ _ _ _ (by decide) (by decide) (by decide) (by decide)
  have letter : CharText 'h' ['\\', 'u', '0', '0', '6', '8'] := .unit unit
  have hobject := IsObject.braces blank
    (.more (Member.written_of_plain (m := ⟨"db_url", inQuotes ['d']⟩) (by decide))
      (.more (Member.written_of_plain (m := ⟨"x", '[' :: ['{', '}'] ++ [']']⟩) (by decide))
        (.more (Member.written_of_plain
          (m := ⟨"ssh_host", inQuotes ['\\', 'u', '0', '0', '6', '8']⟩) (by decide))
          (.one (Member.written_of_plain (m := ⟨"ssh_user", inQuotes ['u']⟩) (by decide))))))
    blank
  refine (ofDocument_denotes { sshUser := "u", sshHost := "h", dbUrl := "d" }).1 _ _
    ⟨?_, ?_, ?_, ?_⟩ hobject
  · intro m hm f hf
    simp only [List.mem_cons, List.not_mem_nil, or_false] at hm
    obtain rfl | rfl | rfl | rfl := hm
    · obtain rfl : Field.dbUrl = f := Field.name_injective hf
      exact .text (s := "d") (textBody_of_plain (by decide))
    · cases f <;> exact absurd hf (by decide)
    · obtain rfl : Field.sshHost = f := Field.name_injective hf
      exact .text (s := "h") (.cons letter .nil)
    · obtain rfl : Field.sshUser = f := Field.name_injective hf
      exact .text (s := "u") (textBody_of_plain (by decide))
  · intro m hm hother
    simp only [List.mem_cons, List.not_mem_nil, or_false] at hm
    obtain rfl | rfl | rfl | rfl := hm
    · exact absurd rfl (hother .dbUrl)
    · exact .array (.lastElement (.element blank (.emptyObject blank) blank))
    · exact absurd rfl (hother .sshHost)
    · exact absurd rfl (hother .sshUser)
  · intro f
    cases f <;> decide
  · intro f hf
    cases f <;> first | rfl | exact absurd hf (by decide)

end Config

end JumpHost

/-
**Skipping what no field asks for.**

A document is read token by token, so what happens behind a part of it is a reading of its own.
A value of a member that is no field is skipped, whatever the grammar allows it to be: the reading
comes out behind it with the same draft, and nothing that the value holds has been looked at.

Main definitions:

* `JumpHost.Reading.scan` — reading on over a text;
* `JumpHost.Reading.skipped` — the reading in which a skipped part is left;
* `JumpHost.Reading.Passes` — a part of a document that is skipped to its end.

Main results:

* `JumpHost.Reading.passes_of_derives` — every part that the grammar derives is skipped to its end;
* `JumpHost.Reading.scan_inSkipped_value` — a value inside no brackets is skipped to its end.
-/

import JumpHost.Config.Document
import JumpHost.Proofs.Json.Lexing

set_option autoImplicit false

namespace JumpHost

namespace Reading

open Json

variable {r r' : Reading} {d : Draft} {s rest : List Char} {t : Token}

/-! ### Reading on -/

/-- Reads on over the tokens of a text. -/
def scan (r : Reading) (s : List Char) : Except DocumentError Reading :=
  (tokens s).foldlM step r

/-- White space changes nothing. -/
theorem scan_isBlank_append {w : List Char} (h : IsBlank w) : r.scan (w ++ s) = r.scan s := by
  rw [scan, tokens_isBlank_append h, scan]

theorem scan_isBlank {w : List Char} (h : IsBlank w) : r.scan w = .ok r := by
  rw [scan, tokens_isBlank h]
  rfl

theorem scan_of_step (h : tokens s = t :: tokens rest) (ht : r.step t = .ok r') :
    r.scan s = r'.scan rest := by
  rw [scan, h, List.foldlM_cons, ht]
  rfl

theorem scan_of_error {ts : List Token} {e : DocumentError} (h : tokens s = t :: ts)
    (ht : r.step t = .error e) : r.scan s = .error e := by
  rw [scan, h, List.foldlM_cons, ht]
  rfl

/-! ### One token of what is skipped -/

/-- The reading in which a skipped part is left: inside the brackets that are still open, or behind
the value. -/
def skipped (d : Draft) : Option Skip → Reading
  | some skip => .inSkipped d skip
  | none => .afterValue d .object

theorem scan_inSkipped {skip : Skip} {next : Option Skip} (h : tokens s = t :: tokens rest)
    (ht : skip.step t = .ok next) : (inSkipped d skip).scan s = (skipped d next).scan rest := by
  refine scan_of_step h ?_
  simp only [step, stepSkipped, ht]
  cases next <;> rfl

/-- A value may begin here. -/
def BeginsValue (e : Expected) : Prop := e = .value ∨ e = .firstElement

/-- A member may begin here. -/
def BeginsMember (e : Expected) : Prop := e = .key ∨ e = .firstKey

theorem step_of_beginsValue {e : Expected} (he : BeginsValue e) (brackets : List Bracket)
    (ht : t ≠ .closeArray) : Skip.step ⟨e, brackets⟩ t = Skip.begin brackets t := by
  obtain rfl | rfl := he
  · rfl
  · cases t <;> first | rfl | exact absurd rfl ht

theorem step_of_beginsMember {e : Expected} (he : BeginsMember e) (brackets : List Bracket)
    (x : Option (List Char)) :
    Skip.step ⟨e, brackets⟩ (.text x) = .ok (some ⟨.colon, brackets⟩) := by
  obtain rfl | rfl := he <;> rfl

/-- A scalar is a value that ends with its token. -/
theorem scan_inSkipped_scalar {e : Expected} (he : BeginsValue e) (brackets : List Bracket)
    (h : tokens s = t :: tokens rest) (ht : t.isScalar = true) :
    (inSkipped d ⟨e, brackets⟩).scan s = (skipped d (Skip.close brackets)).scan rest := by
  refine scan_inSkipped h ?_
  cases t <;> first | exact step_of_beginsValue he brackets (by simp) | cases ht

/-- An opening bracket is followed by what may come first between the brackets. -/
theorem scan_inSkipped_openArray {e : Expected} (he : BeginsValue e) (brackets : List Bracket)
    (s : List Char) : (inSkipped d ⟨e, brackets⟩).scan ('[' :: s) =
      (inSkipped d ⟨.firstElement, .array :: brackets⟩).scan s :=
  scan_inSkipped (tokens_openArray s) (step_of_beginsValue he brackets (by simp))

theorem scan_inSkipped_openObject {e : Expected} (he : BeginsValue e) (brackets : List Bracket)
    (s : List Char) : (inSkipped d ⟨e, brackets⟩).scan ('{' :: s) =
      (inSkipped d ⟨.firstKey, .object :: brackets⟩).scan s :=
  scan_inSkipped (tokens_openObject s) (step_of_beginsValue he brackets (by simp))

/-! ### Whole parts -/

/-- A part of a document that is skipped to its end.  Elements and members are skipped with the
bracket that closes them. -/
def Passes (d : Draft) : Nonterminal → List Char → Prop
  | .value, s | .element, s => ∀ e brackets rest, BeginsValue e → Ends rest →
      (inSkipped d ⟨e, brackets⟩).scan (s ++ rest) = (skipped d (Skip.close brackets)).scan rest
  | .elements, s => ∀ e brackets rest, BeginsValue e →
      (inSkipped d ⟨e, .array :: brackets⟩).scan (s ++ ']' :: rest) =
        (skipped d (Skip.close brackets)).scan rest
  | .member, s => ∀ e brackets rest, BeginsMember e → Ends rest →
      (inSkipped d ⟨e, .object :: brackets⟩).scan (s ++ rest) =
        (inSkipped d ⟨.afterMember, .object :: brackets⟩).scan rest
  | .members, s => ∀ e brackets rest, BeginsMember e →
      (inSkipped d ⟨e, .object :: brackets⟩).scan (s ++ '}' :: rest) =
        (skipped d (Skip.close brackets)).scan rest

/-- **Every part that the grammar derives is skipped to its end.**  The open brackets are whatever
they are, so the induction on the derivation needs no bound on the depth. -/
theorem passes_of_derives (d : Draft) {n : Nonterminal} (h : Derives n s) : Passes d n s := by
  induction h with
  | null =>
    intro e brackets rest he _
    exact scan_inSkipped_scalar he brackets (tokens_nullWord rest) rfl
  | bool b =>
    intro e brackets rest he _
    exact scan_inSkipped_scalar he brackets (tokens_boolWord b rest) rfl
  | number h =>
    intro e brackets rest he hrest
    obtain ⟨x, hx⟩ := tokens_isNumber h hrest
    exact scan_inSkipped_scalar he brackets hx rfl
  | text h =>
    intro e brackets rest he _
    obtain ⟨x, hx⟩ := tokens_isBody h rest
    exact scan_inSkipped_scalar he brackets hx rfl
  | @emptyArray w hw =>
    intro e brackets rest he _
    rw [List.append_assoc, List.cons_append, scan_inSkipped_openArray he, scan_isBlank_append hw]
    exact scan_inSkipped (tokens_closeArray rest) rfl
  | @array s _ ih =>
    intro e brackets rest he _
    rw [List.append_assoc, List.cons_append, scan_inSkipped_openArray he]
    exact ih _ brackets rest (.inr rfl)
  | @emptyObject w hw =>
    intro e brackets rest he _
    rw [List.append_assoc, List.cons_append, scan_inSkipped_openObject he, scan_isBlank_append hw]
    exact scan_inSkipped (tokens_closeObject rest) rfl
  | @object s _ ih =>
    intro e brackets rest he _
    rw [List.append_assoc, List.cons_append, scan_inSkipped_openObject he]
    exact ih _ brackets rest (.inr rfl)
  | element hw _ hw' ih =>
    intro e brackets rest he hrest
    rw [List.append_assoc, scan_isBlank_append hw, List.append_assoc,
      ih e brackets _ he (hrest.isBlank_append hw'), scan_isBlank_append hw']
  | lastElement _ ih =>
    intro e brackets rest he
    rw [ih e _ _ he (ends_cons (by simp) rest)]
    exact scan_inSkipped (tokens_closeArray rest) rfl
  | elements _ _ ih iht =>
    intro e brackets rest he
    rw [List.append_assoc, List.cons_append, ih e _ _ he (ends_cons (by simp) _)]
    refine (scan_inSkipped (tokens_comma _) rfl).trans ?_
    exact iht _ brackets rest (.inl rfl)
  | member hw hb hw' _ ih =>
    intro e brackets rest he hrest
    obtain ⟨x, hx⟩ := tokens_isBody hb _
    rw [List.append_assoc, scan_isBlank_append hw, List.append_assoc,
      scan_inSkipped hx (step_of_beginsMember he _ x)]
    rw [List.append_assoc]
    refine (scan_isBlank_append hw').trans ?_
    refine (scan_inSkipped (tokens_colon _) rfl).trans ?_
    exact ih _ _ rest (.inl rfl) hrest
  | lastMember _ ih =>
    intro e brackets rest he
    rw [ih e _ _ he (ends_cons (by simp) rest)]
    exact scan_inSkipped (tokens_closeObject rest) rfl
  | members _ _ ih iht =>
    intro e brackets rest he
    rw [List.append_assoc, List.cons_append, ih e _ _ he (ends_cons (by simp) _)]
    refine (scan_inSkipped (tokens_comma _) rfl).trans ?_
    exact iht _ brackets rest (.inl rfl)

theorem scan_inSkipped_value (h : Derives .value s) (hrest : Ends rest) :
    (inSkipped d Skip.start).scan (s ++ rest) = (afterValue d .object).scan rest :=
  passes_of_derives d h .value [] rest (.inl rfl) hrest

end Reading

end JumpHost

/-
**Verdicts and lines.**

A verdict looks at the set of a host's records and at nothing else: neither the order of the lines
counts, nor how often a line stands there, nor what lines without a record stand between.  And it
only grows with that set.  A line that is added can make an unknown host known or a refused key
trusted, but never the other way round, because an exclusion in a host field speaks for its own
line alone.

Main definitions:

* `JumpHost.Ledger.Line`, `JumpHost.Ledger.ofLines` — lines, and the ledger that they make up;
* `JumpHost.Ledger.Outcome.rank` — the order of the verdicts.

Main results:

* `JumpHost.Ledger.exists_ofLines` — every ledger is made up of lines;
* `JumpHost.Ledger.rank_consult_le` — more records never lower a verdict;
* `JumpHost.Ledger.rank_consult_ofLines` — **verdicts are monotone in the lines and blind to their
  order**.
-/

import JumpHost.Proofs.Ledger.Judgement

set_option autoImplicit false

namespace JumpHost.Ledger

/-! ### Ledgers from lines -/

/-- A line, which holds any bytes but a line break. -/
structure Line where
  bytes : List UInt8
  isLine : lineBreak ∉ bytes

/-- The record of a line, if the line carries one. -/
def Line.record? (l : Line) : Option HostRecord := recordOf? l.bytes

/-- The ledger that lines make up, with line breaks between them. -/
def ofLines (ls : List Line) : List UInt8 := [lineBreak].intercalate (ls.map Line.bytes)

/-- Every ledger is made up of lines. -/
theorem exists_ofLines (bytes : List UInt8) : ∃ ls : List Line, ofLines ls = bytes := by
  have hline : ∀ l ∈ bytes.splitOn lineBreak, lineBreak ∉ l := by
    intro l hl hmem
    have hsep := Text.not_of_mem_splitOnP hl hmem
    simp at hsep
  refine ⟨(bytes.splitOn lineBreak).pmap Line.mk hline, ?_⟩
  rw [ofLines, List.map_pmap, List.pmap_eq_map, List.map_id', List.intercalate_splitOn]

theorem records_ofLines (ls : List Line) : records (ofLines ls) = ls.filterMap Line.record? := by
  have hsplit : records (ofLines ls) = ((ofLines ls).splitOn lineBreak).filterMap recordOf? := rfl
  rw [hsplit]
  cases ls with
  | nil => simp [ofLines, recordOf?_nil]
  | cons l ls =>
    have hline : ∀ m ∈ (l :: ls).map Line.bytes, lineBreak ∉ m := by
      intro m hm
      obtain ⟨n, -, rfl⟩ := List.mem_map.1 hm
      exact n.isLine
    rw [ofLines, List.splitOn_intercalate lineBreak hline (by simp), List.filterMap_map]
    rfl

/-! ### The order of verdicts -/

/-- How far an outcome trusts the host: not known, known with another key, known with this key. -/
def Outcome.rank : Outcome → Nat
  | learned => 0
  | mismatched _ => 1
  | matched => 2

/-- More records never lower a verdict. -/
theorem rank_judge_le {known more : List HostRecord} (h : known ⊆ more) (presented : HostKey) :
    (judge known presented).rank ≤ (judge more presented).rank := by
  cases hk : judge known presented with
  | learned => exact Nat.zero_le _
  | matched =>
    obtain ⟨r, hr, he⟩ := judge_eq_matched_iff.1 hk
    have hm : judge more presented = .matched := judge_eq_matched_iff.2 ⟨r, h hr, he⟩
    exact Nat.le_of_eq (congrArg Outcome.rank hm.symm)
  | mismatched r =>
    cases hm : judge more presented with
    | matched => exact Nat.le_succ 1
    | mismatched s => exact Nat.le_refl 1
    | learned =>
      rw [judge_eq_learned_iff] at hm
      have hnone : known = [] := List.subset_nil.1 (hm ▸ h)
      rw [judge_eq_learned_iff.2 hnone] at hk
      cases hk

/-- A ledger whose record lines are all in another is outranked by it. -/
theorem rank_consult_le {a b : List Line} (h : ∀ l ∈ a, l.record?.isSome → l ∈ b) (host : String)
    (presented : HostKey) :
    (consult (ofLines a) host presented).1.rank ≤ (consult (ofLines b) host presented).1.rank := by
  rw [consult_fst, consult_fst]
  refine rank_judge_le ?_ presented
  unfold recordsOf
  rw [records_ofLines, records_ofLines]
  refine List.filter_subset _ fun r hr => ?_
  obtain ⟨l, hl, hr⟩ := List.mem_filterMap.1 hr
  exact List.mem_filterMap.2 ⟨l, h l hl (by rw [hr]; rfl), hr⟩

/-- **Verdicts are monotone in the lines and blind to their order.**  Every ledger is made up of
lines.  Neither their order counts, nor how often one of them stands there, nor any line without a
record; and no line that is added lowers a verdict. -/
theorem rank_consult_ofLines (host : String) (presented : HostKey) :
    let rank (ls : List Line) := (consult (ofLines ls) host presented).1.rank
    (∀ bytes, ∃ ls, ofLines ls = bytes) ∧
      (∀ a b : List Line, a.Perm b → rank a = rank b) ∧
      (∀ a b : List Line, (∀ l, l ∈ a ↔ l ∈ b) → rank a = rank b) ∧
      (∀ (a b : List Line) (l : Line), l.record? = none → rank (a ++ l :: b) = rank (a ++ b)) ∧
      (∀ a b : List Line, (∀ l, l.record?.isSome → (l ∈ a ↔ l ∈ b)) → rank a = rank b) ∧
      ∀ (a b : List Line) (l : Line), rank (a ++ b) ≤ rank (a ++ l :: b) := by
  intro rank
  have hle {a b : List Line} (h : ∀ l ∈ a, l.record?.isSome → l ∈ b) : rank a ≤ rank b :=
    rank_consult_le h host presented
  have heq {a b : List Line} (h : ∀ l, l.record?.isSome → (l ∈ a ↔ l ∈ b)) : rank a = rank b :=
    Nat.le_antisymm (hle fun l hl hr => (h l hr).1 hl) (hle fun l hl hr => (h l hr).2 hl)
  refine ⟨exists_ofLines, ?_, ?_, ?_, fun a b h => heq h, ?_⟩
  · intro a b h
    exact heq fun l _ => h.mem_iff
  · intro a b h
    exact heq fun l _ => h l
  · intro a b l hl
    refine heq fun m hm => ?_
    have hne : m ≠ l := by
      rintro rfl
      rw [hl] at hm
      cases hm
    simp [hne]
  · intro a b l
    refine hle fun m hm _ => ?_
    rcases List.mem_append.1 hm with hm | hm
    · exact List.mem_append_left _ hm
    · exact List.mem_append_right _ (List.mem_cons_of_mem l hm)

end JumpHost.Ledger

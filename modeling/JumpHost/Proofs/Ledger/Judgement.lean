/-
**What a ledger says about a key.**

The verdict on a presented key depends on the records of the host alone.  A host without records is
learned, a key among the records matches, and any other key is held against one of the records: the
first of its own type, or else the first of all.  Only learning writes.

Main definitions:

* `JumpHost.Ledger.IsExpected` — the record that a refused key is held against.

Main results:

* `JumpHost.Ledger.judge_eq_learned_iff`, `JumpHost.Ledger.judge_eq_matched_iff`,
  `JumpHost.Ledger.judge_eq_mismatched_iff` — when each verdict is given;
* `JumpHost.Ledger.consultAt_spec` — **consulting a ledger decides by the records that a reader
  finds**, and writes in one case only.
-/

import JumpHost.Proofs.Ledger.History

set_option autoImplicit false

namespace JumpHost.Ledger

variable {known : List HostRecord} {presented : HostKey}

/-- The record that a refused key is held against: the first record of its type, or the first of
all if no record has its type. -/
def IsExpected (known : List HostRecord) (presented : HostKey) (r : HostRecord) : Prop :=
  ∃ before after, known = before ++ r :: after ∧
    (∀ x ∈ before, x.key.keyType ≠ presented.keyType) ∧
      (r.key.keyType = presented.keyType ∨
        before = [] ∧ ∀ x ∈ known, x.key.keyType ≠ presented.keyType)

theorem IsExpected.mem {r : HostRecord} (h : IsExpected known presented r) : r ∈ known := by
  obtain ⟨before, after, rfl, -⟩ := h
  exact List.mem_append_right _ List.mem_cons_self

/-- The record that a key is held against has the type of the key, if any of the records has. -/
theorem IsExpected.keyType_eq {r x : HostRecord} (h : IsExpected known presented r)
    (hx : x ∈ known) (ht : x.key.keyType = presented.keyType) :
    r.key.keyType = presented.keyType := by
  obtain ⟨before, after, -, -, hr | ⟨-, hall⟩⟩ := h
  · exact hr
  · exact absurd ht (hall x hx)

/-! ### Verdicts -/

theorem expectedOf_eq_some_iff {r : HostRecord} :
    expectedOf known presented = some r ↔ IsExpected known presented r := by
  unfold expectedOf IsExpected
  cases hf : known.find? fun r => r.key.keyType = presented.keyType with
  | none =>
    have hall : ∀ x ∈ known, x.key.keyType ≠ presented.keyType := by
      simpa using List.find?_eq_none.1 hf
    rw [Option.none_or]
    constructor
    · intro h
      obtain ⟨after, rfl⟩ := List.head?_eq_some_iff.1 h
      exact ⟨[], after, rfl, by simp, Or.inr ⟨rfl, hall⟩⟩
    · rintro ⟨before, after, rfl, -, ht | ⟨rfl, -⟩⟩
      · exact absurd ht (hall r (by simp))
      · rfl
  | some s =>
    obtain ⟨hs, as, bs, hk, has⟩ := List.find?_eq_some_iff_append.1 hf
    simp only [decide_eq_true_eq] at hs
    have has' : ∀ x ∈ as, x.key.keyType ≠ presented.keyType := by simpa using has
    rw [Option.some_or, Option.some.injEq]
    constructor
    · rintro rfl
      exact ⟨as, bs, hk, has', Or.inl hs⟩
    · rintro ⟨before, after, rfl, hb, ht | ⟨-, hall⟩⟩
      · -- both are the first record of the type
        have hfirst : (before ++ r :: after).find?
            (fun r => r.key.keyType = presented.keyType) = some r :=
          List.find?_eq_some_iff_append.2
            ⟨by simpa using ht, before, after, rfl, by simpa using hb⟩
        rw [hfirst] at hf
        exact (Option.some.inj hf).symm
      · exact absurd hs (hall s (hk ▸ by simp))

theorem judge_eq_matched_iff :
    judge known presented = .matched ↔ ∃ r ∈ known, r.key = presented := by
  unfold judge
  split
  · rename_i h
    simpa using h
  · rename_i h
    split <;> simpa using h

theorem judge_eq_learned_iff : judge known presented = .learned ↔ known = [] := by
  unfold judge expectedOf
  cases known with
  | nil => simp
  | cons r known =>
    split
    · simp
    · split
      · simp
      · rename_i h
        simp at h

/-- A key is held against the expected record if the host has records and none holds the key. -/
theorem judge_eq_mismatched_iff {r : HostRecord} :
    judge known presented = .mismatched r ↔
      (∀ x ∈ known, x.key ≠ presented) ∧ IsExpected known presented r := by
  rw [← expectedOf_eq_some_iff]
  unfold judge
  split
  · rename_i h
    obtain ⟨x, hx, hk⟩ := by simpa using h
    simp only [reduceCtorEq, false_iff, not_and]
    exact fun hall => absurd hk (hall x hx)
  · rename_i h
    have hall : ∀ x ∈ known, x.key ≠ presented := by simpa using h
    split
    · rename_i s hs
      rw [hs, Option.some.injEq, Outcome.mismatched.injEq]
      exact ⟨fun e => ⟨hall, e⟩, fun e => e.2⟩
    · rename_i hn
      simp [hn]

/-! ### Consulting -/

theorem consult_fst (bytes : List UInt8) (host : String) (presented : HostKey) :
    (consult bytes host presented).1 = judge (recordsOf bytes host) presented := by
  unfold consult
  split
  · rename_i h
    exact h.symm
  · rfl

theorem consult_snd_of_ne {bytes : List UInt8} {host : String}
    (h : (consult bytes host presented).1 ≠ .learned) :
    (consult bytes host presented).2 = bytes := by
  unfold consult at h ⊢
  split
  · rename_i hj
    simp [hj] at h
  · rfl

/-- What learning writes: a line break if the last line lacks one, and the line of the record. -/
theorem appended_eq (bytes : List UInt8) (host : String) (presented : HostKey) :
    appended bytes ⟨host, presented⟩ =
      bytes ++ (if bytes = [] ∨ bytes.getLast? = some lineBreak then [] else [lineBreak]) ++
        Text.bytesOf (host ++ " " ++ presented.keyType ++ " " ++
          String.ofList (Base64.encode presented.blob) ++ "\n") := by
  have hstart : atLineStart bytes = true ↔ bytes = [] ∨ bytes.getLast? = some lineBreak := by
    cases hl : bytes.getLast? with
    | none => simp [atLineStart, List.getLast?_eq_none_iff.1 hl]
    | some b =>
      have hne : bytes ≠ [] := by
        rintro rfl
        cases hl
      simp [atLineStart, hl, hne]
  have hentry : Text.bytesOf (HostRecord.line ⟨host, presented⟩) ++ [lineBreak] =
      Text.bytesOf (host ++ " " ++ presented.keyType ++ " " ++
          String.ofList (Base64.encode presented.blob) ++ "\n") := by
    rw [Text.bytesOf, Text.bytesOf, String.toList_append, Text.utf8_append]
    rfl
  rw [appended, hentry]
  congr 2
  by_cases h : atLineStart bytes = true
  · rw [if_pos h, if_pos (hstart.1 h)]
  · rw [if_neg h, if_neg (mt hstart.2 h)]

variable {t : FileTree} {path : String} {file? : Option (List UInt8)}

/-- A consultation leaves the bytes as they are, or it appends the record that it learned. -/
theorem Stands.bytesAt_consultAt (h : Stands t path file?) (host : String)
    (presented : HostKey) :
    Ledger.bytesAt (Ledger.consultAt t path host presented).2 path = Ledger.bytesAt t path ∨
      (Ledger.consultAt t path host presented).1 = .ok .learned ∧
        Ledger.bytesAt (Ledger.consultAt t path host presented).2 path =
          appended (Ledger.bytesAt t path) ⟨host, presented⟩ := by
  obtain ⟨u, hu, hs⟩ := h.consultAt host presented
  rw [hu, hs.bytesAt, h.bytesAt, Option.getD_some]
  by_cases hlearned : (consult (file?.getD []) host presented).1 = .learned
  · exact Or.inr ⟨congrArg Except.ok hlearned, consult_of_learned hlearned⟩
  · exact Or.inl (consult_snd_of_ne hlearned)

/-- **Consulting a ledger decides by the records that a reader finds**, and writes only what it
learns. -/
theorem consultAt_spec (h : Stands t path file?) (host : String) (presented : HostKey) :
    let old := file?.getD []
    ∃ found outcome u,
      findAll t path host = .ok found ∧
      found = (records old).filter (fun r => HostPattern.covers r.pattern host) ∧
      find t path host = .ok found.head? ∧
      consultAt t path host presented = (.ok outcome, u) ∧
      (outcome = .matched ↔ ∃ r ∈ found, r.key = presented) ∧
      (∀ r, outcome = .mismatched r ↔
        found ≠ [] ∧ (∀ x ∈ found, x.key ≠ presented) ∧ IsExpected found presented r) ∧
      (outcome = .learned ↔ found = []) ∧
      (outcome ≠ .learned → u.open? path = t.open? path) ∧
      (outcome = .learned → u.open? path = .ok (.ok
        (old ++ (if old = [] ∨ old.getLast? = some lineBreak then [] else [lineBreak]) ++
          Text.bytesOf (host ++ " " ++ presented.keyType ++ " " ++
            String.ofList (Base64.encode presented.blob) ++ "\n")))) := by
  intro old
  obtain ⟨u, hu, hs⟩ := h.consultAt host presented
  have hlearned : (consult old host presented).1 = .learned ↔ recordsOf old host = [] := by
    rw [consult_fst, judge_eq_learned_iff]
  refine ⟨recordsOf old host, _, u, h.findAll host, rfl, h.find host, hu, ?_, ?_, hlearned, ?_, ?_⟩
  · rw [consult_fst, judge_eq_matched_iff]
  · intro r
    rw [consult_fst, judge_eq_mismatched_iff]
    constructor
    · rintro ⟨hall, hexp⟩
      refine ⟨?_, hall, hexp⟩
      obtain ⟨before, after, hk, -⟩ := hexp
      rw [hk]
      simp
    · exact fun hr => hr.2
  · intro hne
    rw [hs.read, consult_snd_of_ne hne, h.read]
    cases file? with
    | none =>
      -- a missing file has no records, so its hosts are learned
      refine absurd (hlearned.2 ?_) hne
      change (records []).filter _ = []
      rw [records_nil]
      rfl
    | some bytes => rfl
  · intro he
    rw [hs.read, consult_of_learned he, appended_eq]
    rfl

/-- A key is held against the record of its type, behind a record of another type. -/
theorem consultAt_spec_second :
    let bytes := Text.bytesOf "b.example.?rg ssh-rsa AQ==\r\n!a.*,B.Example.org ssh-ed25519 Ag=="
    ∃ u, consultAt (home bytes) ".ssh/known_hosts" "b.example.org" ⟨"ssh-ed25519", [9]⟩ =
        (.ok (.mismatched ⟨"!a.*,B.Example.org", ⟨"ssh-ed25519", [2]⟩⟩), u) ∧
      u.open? ".ssh/known_hosts" = .ok (.ok bytes) := by
  have hrecords :
      recordsOf (Text.bytesOf "b.example.?rg ssh-rsa AQ==\r\n!a.*,B.Example.org ssh-ed25519 Ag==")
          "b.example.org" =
        [⟨"b.example.?rg", ⟨"ssh-rsa", [1]⟩⟩, ⟨"!a.*,B.Example.org", ⟨"ssh-ed25519", [2]⟩⟩] := by
    decide +kernel
  intro bytes
  change recordsOf bytes _ = _ at hrecords
  clear_value bytes
  obtain ⟨found, outcome, u, hfound, -, -, hu, -, hmismatched, -, hkept, -⟩ :=
    consultAt_spec (stands_home bytes) "b.example.org" ⟨"ssh-ed25519", [9]⟩
  have he := Except.ok.inj (hfound.symm.trans ((stands_home bytes).findAll _))
  rw [Option.getD_some, hrecords] at he
  have ho : outcome = .mismatched ⟨"!a.*,B.Example.org", ⟨"ssh-ed25519", [2]⟩⟩ := by
    rw [hmismatched, he]
    exact ⟨by simp, by simp, [⟨"b.example.?rg", ⟨"ssh-rsa", [1]⟩⟩], [], rfl, by simp, Or.inl rfl⟩
  refine ⟨u, ho ▸ hu, ?_⟩
  rw [hkept (by simp [ho]), (stands_home bytes).read]
  rfl

end JumpHost.Ledger

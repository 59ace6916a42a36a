/-
**Trust on first use over whole runs.**

Endpoints are contacted again and again, in any order and by any number of callers, and every
contact goes through the ledger.  What the ledger holds about an endpoint is decided once: an
endpoint with records keeps them, and one without gets the record of its first contact.  This is
so because the record of a contact is read back as it was written, covers the endpoint of the
contact, and covers no other.

Main definitions:

* `JumpHost.Ledger.Contact` — an endpoint with the key that it presents;
* `JumpHost.Ledger.Contact.Same` — contacts with one endpoint;
* `JumpHost.Ledger.visited` — the tree of files after some contacts.

Main results:

* `JumpHost.Ledger.recordsOf_met` — what one contact adds to the records of an endpoint;
* `JumpHost.Ledger.recordsOf_foldl_met` — what a run of contacts adds to them;
* `JumpHost.Ledger.trust_on_first_use` — **the first contact decides**, unless the ledger knew the
  endpoint before.
-/

import JumpHost.Ledger.Trust
import JumpHost.Proofs.HostKey.Name
import JumpHost.Proofs.Ledger.Judgement

set_option autoImplicit false

namespace JumpHost.Ledger

/-- An endpoint with the key that it presents. -/
structure Contact where
  host : String
  port : UInt16
  key : HostKey

namespace Contact

/-- The name of the endpoint in a ledger. -/
def name (c : Contact) : String := HostPattern.ofEndpoint c.host c.port

/-- The record of a contact that is learned. -/
def record (c : Contact) : HostRecord := ⟨c.name, c.key⟩

/-- Contacts with one endpoint: on one port, and with one host up to blanks around it, brackets
around it and the case of ASCII. -/
def Same (c d : Contact) : Prop :=
  c.port = d.port ∧ HostPattern.canonicalHost c.host = HostPattern.canonicalHost d.host

instance (c d : Contact) : Decidable (c.Same d) :=
  inferInstanceAs (Decidable (_ ∧ _))

/-- A contact whose name and key can be written as a line and say nothing but themselves. -/
structure IsPlain (c : Contact) : Prop where
  name : HostPattern.IsPlain c.name
  key : c.key.IsPlain

instance (c : Contact) : Decidable c.IsPlain :=
  decidable_of_iff (HostPattern.IsPlain c.name ∧ c.key.IsPlain)
    ⟨fun h => ⟨h.1, h.2⟩, fun h => ⟨h.name, h.key⟩⟩

variable {c d : Contact}

theorem same_iff : c.Same d ↔ c.name = d.name := HostPattern.ofEndpoint_eq_iff.symm

theorem IsPlain.record (h : c.IsPlain) : c.record.IsPlain :=
  ⟨h.name.word, h.name.notRemark, h.key⟩

/-- The record of a plain contact covers the endpoint of the contact and no other. -/
theorem IsPlain.covers_iff (h : c.IsPlain) :
    HostPattern.covers c.record.pattern d.name = true ↔ c.Same d :=
  HostPattern.covers_ofEndpoint h.name.isLiteral

end Contact

open Contact

/-! ### One contact -/

/-- The bytes of a ledger after a contact. -/
def met (bytes : List UInt8) (c : Contact) : List UInt8 := (verify bytes c.host c.port c.key).2

/-- The tree of files after a contact that went through the ledger at a path. -/
def visit (path : String) (t : FileTree) (c : Contact) : FileTree :=
  (verifyAt t path c.host c.port c.key).files

/-- The tree of files after some contacts. -/
def visited (path : String) (t : FileTree) (contacts : List Contact) : FileTree :=
  contacts.foldl (visit path) t

/-- A contact writes its record if the ledger has none of its endpoint. -/
theorem met_eq (bytes : List UInt8) (c : Contact) :
    met bytes c = if recordsOf bytes c.name = [] then appended bytes c.record else bytes := by
  have hmet : met bytes c = (consult bytes c.name c.key).2 := rfl
  have hlearned : (consult bytes c.name c.key).1 = .learned ↔ recordsOf bytes c.name = [] := by
    rw [consult_fst, judge_eq_learned_iff]
  rw [hmet]
  by_cases h : recordsOf bytes c.name = []
  · rw [if_pos h, consult_of_learned (hlearned.2 h)]
    rfl
  · rw [if_neg h, consult_snd_of_ne (mt hlearned.1 h)]

/-- A record that is read back is one more record of the endpoints that it covers. -/
theorem recordsOf_appended {c : Contact} (h : c.record.IsPlain) (bytes : List UInt8)
    (name : String) :
    recordsOf (appended bytes c.record) name =
      recordsOf bytes name ++
        if HostPattern.covers c.name name = true then [c.record] else [] := by
  rw [recordsOf, records_appended h, List.filter_append, List.filter_singleton, Bool.cond_eq_ite]
  rfl

/-- What a plain contact adds to the records of an endpoint: its own record, if it is the contact
of that endpoint and the endpoint had no records. -/
theorem recordsOf_met {c : Contact} (h : c.IsPlain) (bytes : List UInt8) (d : Contact) :
    recordsOf (met bytes c) d.name =
      if c.Same d ∧ recordsOf bytes d.name = [] then [c.record] else recordsOf bytes d.name := by
  rw [met_eq]
  by_cases hc : recordsOf bytes c.name = []
  · -- the contact is learned, and its record is the last one of the ledger
    have hcovers : HostPattern.covers c.name d.name = true ↔ c.Same d := h.covers_iff
    rw [if_pos hc, recordsOf_appended h.record]
    by_cases hs : c.Same d
    · have hd : recordsOf bytes d.name = [] := same_iff.1 hs ▸ hc
      rw [if_pos (hcovers.2 hs), if_pos ⟨hs, hd⟩, hd]
      rfl
    · rw [if_neg (mt hcovers.1 hs), if_neg fun hsd => hs hsd.1, List.append_nil]
  · -- nothing is written, and an endpoint without records is not the one of the contact
    have hd : ¬(c.Same d ∧ recordsOf bytes d.name = []) := by
      rintro ⟨hs, hn⟩
      rw [same_iff.1 hs] at hc
      exact hc hn
    rw [if_neg hc, if_neg hd]

/-! ### Runs -/

/-- What plain contacts add to the records of an endpoint: the record of the first contact of that
endpoint, if the endpoint had no records. -/
theorem recordsOf_foldl_met {contacts : List Contact} (h : ∀ c ∈ contacts, c.IsPlain)
    (bytes : List UInt8) (d : Contact) :
    recordsOf (contacts.foldl met bytes) d.name =
      if recordsOf bytes d.name = [] then
        ((contacts.find? fun c => c.Same d).map Contact.record).toList
      else recordsOf bytes d.name := by
  induction contacts generalizing bytes with
  | nil =>
    split
    · assumption
    · rfl
  | cons c contacts ih =>
    obtain ⟨hc, hrest⟩ := List.forall_mem_cons.1 h
    rw [List.foldl_cons, ih hrest, recordsOf_met hc]
    by_cases hn : recordsOf bytes d.name = []
    · by_cases hs : c.Same d
      · -- the endpoint has a record from here on
        simp [hn, hs]
      · simp [hn, hs]
    · simp [hn]

variable {t : FileTree} {path : String} {file? : Option (List UInt8)}

theorem Stands.verifyAt (h : Stands t path file?) (host : String) (port : UInt16)
    (presented : HostKey) :
    (Ledger.verifyAt t path host port presented).result =
        (verify (file?.getD []) host port presented).1 ∧
      Stands (Ledger.verifyAt t path host port presented).files path
        (some (verify (file?.getD []) host port presented).2) := by
  obtain ⟨u, hu, hs⟩ := h.consultAt (HostPattern.ofEndpoint host port) presented
  simp only [Ledger.verifyAt, hu]
  exact ⟨rfl, hs⟩

theorem Stands.visited (h : Stands t path file?) (contacts : List Contact) :
    ∃ file'?, Stands (visited path t contacts) path file'? ∧
      file'?.getD [] = contacts.foldl met (file?.getD []) := by
  induction contacts generalizing t file? with
  | nil => exact ⟨file?, h, rfl⟩
  | cons c contacts ih => exact ih (h.verifyAt c.host c.port c.key).2

/-! ### Verdicts -/

theorem verify_fst (bytes : List UInt8) (c : Contact) :
    (verify bytes c.host c.port c.key).1 =
      verdict c.name c.key (judge (recordsOf bytes c.name) c.key) := by
  rw [← consult_fst]
  rfl

/-- An endpoint with one record is trusted with the key of that record and refused with any
other. -/
theorem verdict_judge_singleton (pattern : String) (presented : HostKey) (r : HostRecord) :
    verdict pattern presented (judge [r] presented) =
      if presented = r.key then .ok .trusted
      else .error (.hostKeyMismatch pattern r.key.label presented.label) := by
  split
  · rename_i h
    rw [judge_eq_matched_iff.2 ⟨r, List.mem_singleton_self r, h.symm⟩]
    rfl
  · rename_i h
    have hj : judge [r] presented = .mismatched r := by
      refine judge_eq_mismatched_iff.2 ⟨?_, [], [], rfl, by simp, ?_⟩
      · simpa using Ne.symm h
      · simpa using em _
    rw [hj]
    rfl

/-- An endpoint with records is never learned: it is trusted with the keys of its records and
refused with any other. -/
theorem verdict_judge_of_ne_nil (pattern : String) (presented : HostKey)
    {known : List HostRecord} (h : known ≠ []) :
    let result := verdict pattern presented (judge known presented)
    result ≠ .ok .learned ∧
      (result = .ok .trusted ↔ ∃ r ∈ known, r.key = presented) ∧
      ((∀ r ∈ known, r.key ≠ presented) → ∃ r, IsExpected known presented r ∧
        result = .error (.hostKeyMismatch pattern r.key.label presented.label)) := by
  intro result
  cases hj : judge known presented with
  | learned => exact absurd (judge_eq_learned_iff.1 hj) h
  | matched =>
    have hr : result = .ok .trusted := congrArg (verdict pattern presented) hj
    obtain ⟨r, hmem, hk⟩ := judge_eq_matched_iff.1 hj
    rw [hr]
    refine ⟨by simp, ⟨fun _ => ⟨r, hmem, hk⟩, fun _ => rfl⟩, fun hall => ?_⟩
    exact absurd hk (hall r hmem)
  | mismatched r =>
    have hr : result = .error (.hostKeyMismatch pattern r.key.label presented.label) :=
      congrArg (verdict pattern presented) hj
    obtain ⟨hall, hexp⟩ := judge_eq_mismatched_iff.1 hj
    rw [hr]
    refine ⟨by simp, ⟨fun he => ?_, ?_⟩, fun _ => ⟨r, hexp, rfl⟩⟩
    · cases he
    · rintro ⟨x, hx, hk⟩
      exact absurd hk (hall x hx)

/-- **The first contact decides.**  An endpoint that the ledger did not know is learned at its
first contact, and from then on trusted with the key of that contact and refused with any other.
An endpoint that the ledger knew is never learned: it is trusted with the keys that the ledger
held, and refused with any other. -/
theorem trust_on_first_use (h : Stands t path file?) {contacts : List Contact}
    (hp : ∀ c ∈ contacts, c.IsPlain) (d : Contact) :
    ∃ initial, findAll t path d.name = .ok initial ∧
      let result := (verifyAt (visited path t contacts) path d.host d.port d.key).result
      (initial = [] → result =
        match contacts.find? fun c => c.Same d with
        | none => .ok .learned
        | some first =>
          if d.key = first.key then .ok .trusted
          else .error (.hostKeyMismatch d.name first.key.label d.key.label)) ∧
      (initial ≠ [] → result ≠ .ok .learned ∧
        (result = .ok .trusted ↔ ∃ r ∈ initial, r.key = d.key) ∧
        ((∀ r ∈ initial, r.key ≠ d.key) → ∃ r, IsExpected initial d.key r ∧
          result = .error (.hostKeyMismatch d.name r.key.label d.key.label))) := by
  refine ⟨_, h.findAll d.name, ?_⟩
  intro result
  obtain ⟨file'?, hs, hfile⟩ := h.visited contacts
  have hresult : result =
      verdict d.name d.key
        (judge (recordsOf (contacts.foldl met (file?.getD [])) d.name) d.key) := by
    rw [← hfile, ← verify_fst]
    exact (hs.verifyAt d.host d.port d.key).1
  rw [recordsOf_foldl_met hp] at hresult
  constructor
  · intro hn
    rw [if_pos hn] at hresult
    rw [hresult]
    cases contacts.find? fun c => c.Same d with
    | none => rfl
    | some first => exact verdict_judge_singleton d.name d.key first.record
  · intro hn
    rw [if_neg hn] at hresult
    rw [hresult]
    exact verdict_judge_of_ne_nil d.name d.key hn

/-- A host that is spelt in another way is known by its first contact. -/
theorem trust_on_first_use_respelt :
    let other : Contact := ⟨"example.org", 22, ⟨"ssh-rsa", [4]⟩⟩
    let first : Contact := ⟨"[DB.example.org]", 2222, ⟨"ssh-ed25519", [1, 2, 3]⟩⟩
    let later : Contact := ⟨" db.example.ORG ", 2222, ⟨"ssh-ed25519", [9]⟩⟩
    let t := visited ".ssh/known_hosts" (home [0x61, 0x20, 0x62, 0x0D, 0xE2, 0x82]) [other, first]
    (verifyAt t ".ssh/known_hosts" later.host later.port later.key).result =
      .error (.hostKeyMismatch later.name first.key.label later.key.label) := by
  intro other first later t
  have hstands := stands_home [0x61, 0x20, 0x62, 0x0D, 0xE2, 0x82]
  have hplain : ∀ c ∈ [other, first], c.IsPlain := by
    have hname : first.name = "[db.example.org]:2222" := by decide +kernel
    have hfirst : first.IsPlain := ⟨by rw [hname]; decide +kernel, by decide +kernel⟩
    have hother : other.IsPlain := by decide +kernel
    simpa using ⟨hother, hfirst⟩
  obtain ⟨initial, hinitial, hlearned, -⟩ := trust_on_first_use hstands hplain later
  have hnone : initial = [] := by
    have hrecords : records [0x61, 0x20, 0x62, 0x0D, 0xE2, 0x82] = [] := by decide +kernel
    rw [Except.ok.inj (hinitial.symm.trans (hstands.findAll _)), recordsOf, Option.getD_some,
      hrecords]
    rfl
  have hother : ¬other.Same later := by decide
  have hfirst : first.Same later := by decide
  have hkey : later.key ≠ first.key := by decide
  rw [hlearned hnone, List.find?_cons_of_neg (by simpa using hother),
    List.find?_cons_of_pos (by simpa using hfirst)]
  exact if_neg hkey

end JumpHost.Ledger

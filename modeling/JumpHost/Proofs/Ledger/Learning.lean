/-
**What learning one endpoint touches.**

Learning writes one line, and what the line says is up to the name of the endpoint.  A name that
says itself adds one record to its own endpoint and none to any other.  A name with a wildcard or a
comma is learned all the same, but its record is that of other endpoints as well, or not of its own,
so that this endpoint is learned at every contact; and a name with white space in it, or one that
begins as a comment does, is not read back at all.

Main results:

* `JumpHost.Ledger.recordsOf_appended_iff` — what a record that is appended adds to each endpoint;
* `JumpHost.Ledger.learning_is_confined_iff` — **learning touches its own endpoint only, if the name
  says itself**.
-/

import JumpHost.Proofs.HostKey.Metacharacter
import JumpHost.Proofs.Ledger.FirstUse

set_option autoImplicit false

namespace JumpHost.Ledger

open Contact

variable {bytes : List UInt8} {c : Contact}

/-- **What a record that is appended adds**: one record to its own endpoint and none to any other
exactly if its name says itself. -/
theorem recordsOf_appended_iff (hkey : c.key.IsPlain) (hnone : recordsOf bytes c.name = []) :
    (recordsOf (appended bytes c.record) c.name = [c.record] ∧ ∀ d : Contact, d.name ≠ c.name →
        recordsOf (appended bytes c.record) d.name = recordsOf bytes d.name) ↔
      HostPattern.SaysItself c.name := by
  constructor
  · rintro ⟨hown, hothers⟩
    -- the record is among the records, so it was read back as it was written
    have hmem : c.record ∈ recordsOf (appended bytes c.record) c.name := by
      rw [hown]
      exact List.mem_singleton_self _
    obtain ⟨hrecord, hself⟩ := List.mem_filter.1 hmem
    have hplain : c.record.IsPlain := isPlain_of_mem_records hrecord
    refine ⟨hplain.pattern, hplain.notRemark, fun host port =>
      ⟨fun hcovers => ?_, fun hname => ?_⟩⟩
    · by_contra hne
      have hother := hothers ⟨host, port, c.key⟩ hne
      have hcovers' : HostPattern.covers c.name (Contact.mk host port c.key).name = true := hcovers
      rw [recordsOf_appended hplain, if_pos hcovers'] at hother
      simp at hother
    · rw [hname]
      exact hself
  · intro h
    have hplain : c.record.IsPlain := ⟨h.word, h.notRemark, hkey⟩
    have hcovers (d : Contact) : HostPattern.covers c.name d.name = true ↔ d.name = c.name :=
      h.covers_iff d.host d.port
    constructor
    · rw [recordsOf_appended hplain, hnone, if_pos ((hcovers c).2 rfl)]
      rfl
    · intro d hd
      rw [recordsOf_appended hplain, if_neg (mt (hcovers d).1 hd), List.append_nil]

variable {t : FileTree} {path : String} {file? : Option (List UInt8)}

theorem Stands.visit_of_learned (h : Stands t path file?)
    (hlearned : (Ledger.verifyAt t path c.host c.port c.key).result = .ok .learned) :
    recordsOf (file?.getD []) c.name = [] ∧
      Stands (visit path t c) path (some (appended (file?.getD []) c.record)) := by
  obtain ⟨hresult, hstands⟩ := h.verifyAt c.host c.port c.key
  have hjudge : judge (recordsOf (file?.getD []) c.name) c.key = .learned := by
    rw [hresult, verify_fst] at hlearned
    cases hj : judge (recordsOf (file?.getD []) c.name) c.key with
    | learned => rfl
    | matched =>
      rw [hj] at hlearned
      cases hlearned
    | mismatched r =>
      rw [hj] at hlearned
      cases hlearned
  have hnone := judge_eq_learned_iff.1 hjudge
  have hmet := met_eq (file?.getD []) c
  rw [if_pos hnone] at hmet
  refine ⟨hnone, ?_⟩
  rw [← hmet]
  exact hstands

/-- **Learning touches its own endpoint only, if the name says itself.**  After an endpoint was
learned it has the one record of this contact, and every other endpoint has the records that it had,
exactly if the name of the endpoint says itself.  A name that is no hashed one says itself exactly
if it is plain.  An endpoint whose name says itself is trusted from then on with the key that was
learned, and refused with any other. -/
theorem learning_is_confined_iff (h : Stands t path file?) (c : Contact) (hkey : c.key.IsPlain)
    (hlearned : (verifyAt t path c.host c.port c.key).result = .ok .learned) :
    let u := visit path t c
    ((findAll u path c.name = .ok [c.record] ∧
        ∀ d : Contact, d.name ≠ c.name → findAll u path d.name = findAll t path d.name) ↔
      HostPattern.SaysItself c.name) ∧
    (¬HostPattern.hashMark <+: c.name.toList →
      (HostPattern.SaysItself c.name ↔ HostPattern.IsPlain c.name)) ∧
    (HostPattern.SaysItself c.name → ∀ presented,
      (verifyAt u path c.host c.port presented).result =
        if presented = c.key then .ok .trusted
        else .error (.hostKeyMismatch c.name c.key.label presented.label)) := by
  intro u
  obtain ⟨hnone, hstands⟩ := h.visit_of_learned hlearned
  have hiff := recordsOf_appended_iff hkey hnone
  refine ⟨?_, fun hhash => HostPattern.saysItself_iff_isPlain hhash, ?_⟩
  · have hbefore (d : Contact) := h.findAll d.name
    have hafter (d : Contact) := hstands.findAll d.name
    simp only [u, hbefore, hafter, Option.getD_some, Except.ok.injEq]
    exact hiff
  · intro hname presented
    have hverdict : (verify (appended (file?.getD []) c.record) c.host c.port presented).1 =
        verdict c.name presented
          (judge (recordsOf (appended (file?.getD []) c.record) c.name) presented) :=
      verify_fst _ ⟨c.host, c.port, presented⟩
    rw [(hstands.verifyAt c.host c.port presented).1, Option.getD_some, hverdict, (hiff.2 hname).1]
    exact verdict_judge_singleton c.name presented c.record

/-- Learning a host on one port touches neither the same host on another port nor anything else. -/
theorem learning_is_confined_port :
    let path := ".ssh/known_hosts"
    let t := home [0x61, 0x20, 0x62, 0x0D, 0xE2, 0x82]
    let c : Contact := ⟨"[DB.example.org]", 2222, ⟨"ssh-ed25519", [1, 2, 3]⟩⟩
    let other : HostKey := ⟨"ssh-rsa", [9]⟩
    findAll (visit path t c) path "[db.example.org]:2222" = .ok [c.record] ∧
      findAll (visit path t c) path "db.example.org" = findAll t path "db.example.org" ∧
      (verifyAt (visit path t c) path c.host c.port other).result =
        .error (.hostKeyMismatch c.name c.key.label other.label) := by
  intro path t c other
  have hname : c.name = "[db.example.org]:2222" := by decide +kernel
  have hneighbour : (Contact.mk "db.example.org" 22 other).name = "db.example.org" := by
    decide +kernel
  have hlearned : (verifyAt t path c.host c.port c.key).result = .ok .learned := by decide +kernel
  obtain ⟨hconfined, hplain, hrefused⟩ :=
    learning_is_confined_iff (stands_home [0x61, 0x20, 0x62, 0x0D, 0xE2, 0x82]) c
      (by decide +kernel) hlearned
  have hsays : HostPattern.SaysItself c.name := by
    rw [hplain (by decide +kernel), hname]
    decide +kernel
  obtain ⟨hown, hothers⟩ := hconfined.2 hsays
  rw [hname] at hown
  have hother := hothers ⟨"db.example.org", 22, other⟩ (by rw [hneighbour, hname]; decide +kernel)
  rw [hneighbour] at hother
  have hkey : other ≠ c.key := by decide +kernel
  exact ⟨hown, hother, (hrefused hsays other).trans (if_neg hkey)⟩

/-- A host with a comma in it is learned at every contact, and its keys are those of another host
from then on. -/
theorem learning_escapes :
    let first : Contact := ⟨"a,b", 22, ⟨"ssh-ed25519", [1, 2, 3]⟩⟩
    let second : Contact := ⟨"a,b", 22, ⟨"ssh-ed25519", [4, 5, 6]⟩⟩
    let path := ".ssh/known_hosts"
    let t := visit path (home []) first
    (verifyAt (home []) path "a,b" 22 first.key).result = .ok .learned ∧
      findAll t path first.name = .ok [] ∧
      findAll (home []) path "a" = .ok [] ∧ findAll t path "a" = .ok [first.record] ∧
      (verifyAt t path "a,b" 22 second.key).result = .ok .learned := by
  decide +kernel

end JumpHost.Ledger

/-
**What a refusal shows of two keys.**

When a known host presents another key, all that a person gets to judge by is two labels: that of a
key on file and that of the key presented.  Both are what they claim to be.  A label holds its last
blank before the fingerprint, whatever blanks stand in the type of the key, and a fingerprint is the
digest of a blob to the last bit; so the two labels are told apart unless one type of key has two
blobs with one digest.

Main results:

* `JumpHost.HostKey.label_eq_iff` — **when two keys have one label**;
* `JumpHost.Ledger.verifyAt_eq_mismatch` — what a refused verification has found;
* `JumpHost.Ledger.mismatch_is_truthful` — **a refusal shows a key on file and the key presented**,
  and does not show one label twice.
-/

import JumpHost.Proofs.Base64
import JumpHost.Proofs.Ledger.FirstUse

set_option autoImplicit false

namespace JumpHost

/-! ### Labels -/

namespace HostKey

theorem blank_notMem_fingerprint (k : HostKey) : ' ' ∉ k.fingerprint.toList := by
  intro h
  simp only [fingerprint, String.toList_append, String.toList_ofList] at h
  rcases List.mem_append.1 h with h | h
  · revert h
    decide
  · have hblank := Base64.isBlank_of_mem_encode (List.mem_filter.1 h).1
    revert hblank
    decide

theorem fingerprint_eq_iff {k k' : HostKey} :
    k.fingerprint = k'.fingerprint ↔ Digest.sha256 k.blob = Digest.sha256 k'.blob := by
  constructor
  · intro h
    have htext := congrArg String.toList h
    simp only [fingerprint, String.toList_append, String.toList_ofList,
      List.append_cancel_left_eq] at htext
    exact Base64.encodeUnpadded_injective htext
  · intro h
    rw [fingerprint, fingerprint, h]

/-- **Two keys have one label** if they have one type and their blobs have one digest. -/
theorem label_eq_iff {k k' : HostKey} :
    k.label = k'.label ↔
      k.keyType = k'.keyType ∧ Digest.sha256 k.blob = Digest.sha256 k'.blob := by
  have htoList (k : HostKey) :
      k.label.toList = k.keyType.toList ++ ' ' :: k.fingerprint.toList := by
    simp [label_eq]
  constructor
  · intro h
    -- both labels are cut at their last blank
    have hcut (k : HostKey) :
        Text.cutLast ' ' k.label.toList = some (k.keyType.toList, k.fingerprint.toList) :=
      Text.cutLast_eq_some_iff.2 ⟨htoList k, k.blank_notMem_fingerprint⟩
    have hparts := hcut k
    rw [h, hcut k', Option.some.injEq, Prod.mk.injEq] at hparts
    obtain ⟨htype, hprint⟩ := hparts
    exact ⟨(String.toList_injective htype).symm,
      fingerprint_eq_iff.1 (String.toList_injective hprint).symm⟩
  · rintro ⟨htype, hdigest⟩
    rw [label_eq, label_eq, htype, fingerprint_eq_iff.2 hdigest]

end HostKey

namespace Ledger

variable {t : FileTree} {path host : String} {port : UInt16} {presented : HostKey}
  {name expected shown : String}

/-! ### Refusals -/

/-- A verification that refuses a key has found the name of the endpoint, and the record that the
key is held against, in the bytes of the ledger, which it left as they were. -/
theorem verifyAt_eq_mismatch
    (h : (verifyAt t path host port presented).result =
      .error (.hostKeyMismatch name expected shown)) :
    ∃ bytes r, name = HostPattern.ofEndpoint host port ∧
      judge (recordsOf bytes name) presented = .mismatched r ∧
      expected = r.key.label ∧ shown = presented.label ∧
      (verifyAt t path host port presented).files.open? path = .ok (.ok bytes) ∧
      ∀ file?, Stands t path file? → bytes = file?.getD [] := by
  unfold verifyAt at h ⊢
  dsimp only at h ⊢
  split at h
  · -- the ledger could not be read or written
    rename_i e u hu
    obtain ⟨reason, rfl⟩ := exists_io_of_update hu
    cases h
  · rename_i outcome u hu
    obtain ⟨bytes, houtcome, hread, hstands⟩ := exists_of_update hu
    cases outcome with
    | learned => cases h
    | matched => cases h
    | mismatched r =>
      cases h
      have hkept : (consult bytes (HostPattern.ofEndpoint host port) presented).2 = bytes := by
        refine consult_snd_of_ne ?_
        rw [houtcome]
        nofun
      rw [hkept] at hread
      rw [consult_fst] at houtcome
      exact ⟨bytes, r, rfl, houtcome, rfl, rfl, hread, hstands⟩

/-- **A refusal shows a key on file and the key presented.**  It names the endpoint; it shows the
label of a record in the ledger that covers the endpoint, one with the type of the presented key if
there is any, and the label of the presented key, which none of the endpoint's records holds.  The
two labels differ, unless the blobs of the two keys do and have one digest. -/
theorem mismatch_is_truthful
    (h : (verifyAt t path host port presented).result =
      .error (.hostKeyMismatch name expected shown)) :
    ∃ bytes r,
      (verifyAt t path host port presented).files.open? path = .ok (.ok bytes) ∧
      (∀ file?, Stands t path file? → file? = some bytes) ∧
      name = HostPattern.ofEndpoint host port ∧
      r ∈ records bytes ∧ HostPattern.covers r.pattern name = true ∧
      expected = r.key.keyType ++ " " ++ r.key.fingerprint ∧
      ((∃ x ∈ records bytes, HostPattern.covers x.pattern name = true ∧
          x.key.keyType = presented.keyType) → r.key.keyType = presented.keyType) ∧
      shown = presented.keyType ++ " " ++ presented.fingerprint ∧
      (∀ x ∈ records bytes, HostPattern.covers x.pattern name = true → x.key ≠ presented) ∧
      ((Digest.sha256 r.key.blob = Digest.sha256 presented.blob →
          r.key.blob = presented.blob) → expected ≠ shown) := by
  obtain ⟨bytes, r, hname, hjudge, rfl, rfl, hread, hstands⟩ := verifyAt_eq_mismatch h
  obtain ⟨hall, hexp⟩ := judge_eq_mismatched_iff.1 hjudge
  have hmem (x : HostRecord) :
      x ∈ recordsOf bytes name ↔ x ∈ records bytes ∧ HostPattern.covers x.pattern name = true :=
    List.mem_filter
  obtain ⟨hr, hcovers⟩ := (hmem r).1 hexp.mem
  refine ⟨bytes, r, hread, fun file? hs => ?_, hname, hr, hcovers, r.key.label_eq, ?_,
    presented.label_eq, fun x hx hc => hall x ((hmem x).2 ⟨hx, hc⟩), fun hcollide he => ?_⟩
  · -- a missing file would have no records
    cases file? with
    | some b => rw [hstands _ hs, Option.getD_some]
    | none =>
      rw [hstands _ hs, Option.getD_none, records_nil] at hr
      cases hr
  · rintro ⟨x, hx, hc, ht⟩
    exact hexp.keyType_eq ((hmem x).2 ⟨hx, hc⟩) ht
  · -- one label would make one key of the two
    obtain ⟨htype, hdigest⟩ := HostKey.label_eq_iff.1 he
    have hblob := hcollide hdigest
    have hkey : r.key = presented :=
      calc r.key = ⟨r.key.keyType, r.key.blob⟩ := rfl
        _ = ⟨presented.keyType, presented.blob⟩ := by rw [htype, hblob]
    exact hall r hexp.mem hkey

/-- A key is refused for the one on file of its type, and the two labels are told apart. -/
theorem mismatch_is_truthful_second :
    let bytes := Text.bytesOf "db.example.?rg ssh-rsa AQ==\n!a.*,DB.Example.org ssh-ed25519 Ag=="
    let onFile : HostKey := ⟨"ssh-ed25519", [2]⟩
    let presented : HostKey := ⟨"ssh-ed25519", [9]⟩
    (verifyAt (home bytes) ".ssh/known_hosts" "DB.example.org" 22 presented).result =
        .error (.hostKeyMismatch "db.example.org" onFile.label presented.label) ∧
      onFile.label ≠ presented.label := by
  intro bytes onFile presented
  have hname : HostPattern.ofEndpoint "DB.example.org" 22 = "db.example.org" := by decide +kernel
  have hrecords : recordsOf bytes "db.example.org" =
      [⟨"db.example.?rg", ⟨"ssh-rsa", [1]⟩⟩, ⟨"!a.*,DB.Example.org", onFile⟩] := by decide +kernel
  have hjudge : judge (recordsOf bytes "db.example.org") presented =
      .mismatched ⟨"!a.*,DB.Example.org", onFile⟩ := by
    rw [hrecords]
    decide
  have hresult : (verifyAt (home bytes) ".ssh/known_hosts" "DB.example.org" 22 presented).result =
      .error (.hostKeyMismatch "db.example.org" onFile.label presented.label) := by
    rw [((stands_home bytes).verifyAt _ _ _).1, verify_fst _ ⟨"DB.example.org", 22, presented⟩,
      Contact.name, hname, Option.getD_some, hjudge]
    rfl
  obtain ⟨bytes', r, -, -, -, -, -, hlabel, -, -, -, hne⟩ := mismatch_is_truthful hresult
  -- the digests of the two blobs are computed
  have hdigest : Digest.sha256 r.key.blob = Digest.sha256 [2] :=
    (HostKey.label_eq_iff.1 (r.key.label_eq.trans hlabel.symm)).2
  have hapart : Digest.sha256 [2] ≠ Digest.sha256 [9] := by decide +kernel
  exact ⟨hresult, hne fun he => absurd (hdigest.symm.trans he) hapart⟩

end Ledger

end JumpHost

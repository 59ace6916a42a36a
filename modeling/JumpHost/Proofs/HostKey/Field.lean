/-
**What a host field says.**

A host field is a hashed name or a list.  A hashed name says one host, as it is written: it is the
only field of its salt that covers the host, and commas, wildcards and exclusions mean nothing in
it.  A list says the hosts that one of its patterns fits and none of its exclusions does.  So
neither the order of its elements counts, although it is read from left to right and left at the
first exclusion that fits, nor the case of ASCII on either side.

Main results:

* `JumpHost.HostPattern.hashedCovers_iff` — a hashed name covers the hosts of its code;
* `JumpHost.HostPattern.listCovers_iff_fits` — a list covers what one of its patterns fits and none
  of its exclusions does;
* `JumpHost.HostPattern.listCovers_of_perm`, `JumpHost.HostPattern.listCovers_of_lower` — order and
  case do not count;
* `JumpHost.HostPattern.covers_decides` — **what a host field says**.
-/

import JumpHost.HostKey.Pattern
import JumpHost.Proofs.Base64
import JumpHost.Proofs.HostKey.Wildcard
import JumpHost.Proofs.Text.Pieces
import JumpHost.Proofs.Text.Utf8

set_option autoImplicit false

namespace JumpHost.HostPattern

/-! ### The two kinds of field -/

theorem eq_append_of_isPrefixOf? {α : Type} [BEq α] [LawfulBEq α] {mark s rest : List α}
    (h : mark.isPrefixOf? s = some rest) : s = mark ++ rest := by
  induction mark generalizing s with
  | nil =>
    cases s <;> exact Option.some.inj h
  | cons a mark ih =>
    cases s with
    | nil => cases h
    | cons b s =>
      simp only [List.isPrefixOf?] at h
      split at h
      · rename_i hab
        rw [← eq_of_beq hab, ih h]
        rfl
      · cases h

theorem covers_of_not_hashed {field : String} (h : ¬hashMark <+: field.toList) (host : String) :
    covers field host = listCovers field.toList host := by
  unfold covers
  split
  · rename_i rest hr
    exact absurd ⟨rest, (eq_append_of_isPrefixOf? hr).symm⟩ h
  · rfl

theorem covers_of_hashed {field : String} {hashed : List Char}
    (h : field.toList = hashMark ++ hashed) (host : String) :
    covers field host = hashedCovers hashed host := by
  have hmark : hashMark.isPrefixOf? (hashMark ++ hashed) = some hashed := rfl
  unfold covers
  rw [h, hmark]

/-! ### Hashed names -/

theorem bar_notMem_encode (bytes : List UInt8) : '|' ∉ Base64.encode bytes := by
  intro h
  rcases Base64.mem_encode h with he | ⟨v, hv, he⟩
  · exact absurd he (by decide)
  · have hsymbol : ∀ v : Fin 64, '|' ≠ Base64.symbol v := by decide
    exact hsymbol ⟨v, hv⟩ he

/-- **A hashed name covers the hosts of its code**: it is a salt and the code of the host under it,
both in base64. -/
theorem hashedCovers_iff {hashed : List Char} {host : String} :
    hashedCovers hashed host = true ↔
      ∃ salt, hashed = Base64.encode salt ++
        '|' :: Base64.encode (Digest.hmacSha1 salt (Text.bytesOf host)) := by
  constructor
  · intro h
    unfold hashedCovers at h
    split at h
    · cases h
    · rename_i salt code hcut
      split at h
      · rename_i saltBytes codeBytes hsalt hcode
        refine ⟨saltBytes, ?_⟩
        rw [← eq_of_beq h, Base64.encode_of_decode? hsalt, Base64.encode_of_decode? hcode,
          Text.eq_append_of_cut hcut]
        simp
      · cases h
  · rintro ⟨salt, rfl⟩
    unfold hashedCovers
    rw [Text.cut_singleton_append (bar_notMem_encode salt)]
    simp

/-! ### Lists of patterns -/

/-- Folding makes no byte of ASCII before the letters. -/
theorem notMem_folded {a : Char} (ha : a.toNat < 65) {s : List Char} (h : a ∉ s) :
    UInt8.ofNat a.toNat ∉ folded s :=
  fun hm => Text.notMem_lower (by omega) h (Text.mem_of_mem_utf8 (by omega) hm)

/-- A pattern fits a host, up to the case of ASCII. -/
def FitsHost (pattern : List Char) (host : String) : Prop :=
  Glob.Fits (folded pattern) (folded host.toList)

section List

variable {field field' element : List Char} {host host' : String}

theorem matches?_iff_fitsHost (hstar : '*' ∉ host.toList) (pattern : List Char) :
    Glob.matches? (folded pattern) (folded host.toList) = true ↔ FitsHost pattern host :=
  Glob.matches?_iff_fits (notMem_folded (by decide) hstar)

/-- **A list covers what one of its patterns fits and none of its exclusions does.** -/
theorem listCovers_iff_fits (hstar : '*' ∉ host.toList) :
    listCovers field host = true ↔
      (∃ e ∈ field.splitOn ',', e.head? ≠ some '!' ∧ FitsHost e host) ∧
        ∀ p, '!' :: p ∈ field.splitOn ',' → ¬FitsHost p host := by
  rw [listCovers_iff, and_comm]
  refine and_congr (exists_congr fun e => and_congr_right fun _ => ?_) ?_
  · simp only [includes, Bool.and_eq_true, bne_iff_ne, matches?_iff_fitsHost hstar]
  · constructor
    · intro h p hp hfits
      have hexcludes := h _ hp
      simp [excludes, (matches?_iff_fitsHost hstar p).2 hfits] at hexcludes
    · intro h e he
      by_contra hexcludes
      simp only [excludes, Bool.not_eq_false, Bool.and_eq_true, beq_iff_eq,
        matches?_iff_fitsHost hstar] at hexcludes
      obtain ⟨hmark, hfits⟩ := hexcludes
      obtain ⟨p, rfl⟩ := List.head?_eq_some_iff.1 hmark
      exact h p he hfits

/-- The order of the elements of a list does not count. -/
theorem listCovers_of_perm (h : (field.splitOn ',').Perm (field'.splitOn ',')) (host : String) :
    listCovers field host = listCovers field' host := by
  simp only [listCovers, h.any_eq]

theorem folded_of_lower {s t : List Char} (h : Text.lower s = Text.lower t) :
    folded s = folded t := congrArg Text.utf8 h

/-- The mark of an exclusion is no letter. -/
theorem head?_lower_eq_mark_iff (s : List Char) :
    (Text.lower s).head? = some '!' ↔ s.head? = some '!' := by
  cases s with
  | nil => rfl
  | cons c s => simpa [Text.lower] using Text.toLower_eq_iff (c := c) (w := '!') (by decide)

theorem includes_lower (h : Text.lower host.toList = Text.lower host'.toList)
    (element : List Char) : includes host (Text.lower element) = includes host' element := by
  have hfolded : folded (Text.lower element) = folded element := folded_of_lower (by simp)
  rw [Bool.eq_iff_iff]
  simp only [includes, Bool.and_eq_true, bne_iff_ne, hfolded, folded_of_lower h, ne_eq,
    head?_lower_eq_mark_iff]

theorem excludes_lower (h : Text.lower host.toList = Text.lower host'.toList)
    (element : List Char) : excludes host (Text.lower element) = excludes host' element := by
  have htail : (Text.lower element).tail = Text.lower element.tail := List.map_tail.symm
  have hfolded : folded (Text.lower element.tail) = folded element.tail :=
    folded_of_lower (by simp)
  rw [Bool.eq_iff_iff]
  simp only [excludes, Bool.and_eq_true, beq_iff_eq, htail, hfolded, folded_of_lower h,
    head?_lower_eq_mark_iff]

/-- The case of ASCII does not count, neither in the list nor in the host. -/
theorem listCovers_of_lower (hfield : Text.lower field = Text.lower field')
    (hhost : Text.lower host.toList = Text.lower host'.toList) :
    listCovers field host = listCovers field' host' := by
  have hfolded (f : List Char) (h : String) (hh : Text.lower host.toList = Text.lower h.toList) :
      listCovers (Text.lower f) host = listCovers f h := by
    have hin : includes host ∘ Text.lower = includes h := funext (includes_lower hh)
    have hex : excludes host ∘ Text.lower = excludes h := funext (excludes_lower hh)
    simp only [listCovers, Text.splitOn_lower (show (',' : Char).isAlpha = false by decide),
      List.any_map, hin, hex]
  rw [← hfolded field host rfl, hfield, hfolded field' host' hhost]

end List

/-! ### All fields -/

/-- **What a host field says.**  A hashed name covers the host whose code it holds, as the host is
written.  Any other field is a list: of the hosts without a star it covers those that one of its
patterns fits and none of its exclusions does, whatever the order of its elements and the case of
ASCII on either side. -/
theorem covers_decides (field host : String) :
    (hashMark <+: field.toList →
      (covers field host = true ↔ ∃ salt, field.toList = hashMark ++ (Base64.encode salt ++
        '|' :: Base64.encode (Digest.hmacSha1 salt (Text.bytesOf host))))) ∧
    (¬hashMark <+: field.toList →
      ('*' ∉ host.toList →
        (covers field host = true ↔
          (∃ e ∈ field.toList.splitOn ',', e.head? ≠ some '!' ∧ FitsHost e host) ∧
            ∀ p, '!' :: p ∈ field.toList.splitOn ',' → ¬FitsHost p host)) ∧
      (∀ field' : String, ¬hashMark <+: field'.toList →
        (field.toList.splitOn ',').Perm (field'.toList.splitOn ',') →
          covers field' host = covers field host) ∧
      ∀ field' host' : String, Text.lower field'.toList = Text.lower field.toList →
        Text.lower host'.toList = Text.lower host.toList →
          covers field' host' = covers field host) := by
  constructor
  · rintro ⟨hashed, hfield⟩
    rw [covers_of_hashed hfield.symm, hashedCovers_iff]
    simp only [← hfield, List.append_cancel_left_eq]
  · intro hlist
    refine ⟨fun hstar => ?_, fun field' hlist' hperm => ?_, fun field' host' hfield hhost => ?_⟩
    · rw [covers_of_not_hashed hlist, listCovers_iff_fits hstar]
    · rw [covers_of_not_hashed hlist, covers_of_not_hashed hlist', listCovers_of_perm hperm]
    · have hmark : ∀ c ∈ hashMark, c.isAlpha = false := by simp [hashMark]
      have hlist' : ¬hashMark <+: field'.toList := by
        rwa [← Text.prefix_lower_iff hmark, hfield, Text.prefix_lower_iff hmark]
      rw [covers_of_not_hashed hlist, covers_of_not_hashed hlist',
        listCovers_of_lower hfield hhost]

/-- An exclusion counts wherever it stands and however it is spelt, but only for what it fits; and a
hashed name is that of one host as it is written. -/
theorem covers_decides_exclusions :
    let list := "*.Corp.example,!VAULT.*"
    let hashed := "|1|AQIDBAUGBwgJCgsMDQ4PEBESExQ=|5M2EcqVipHc15iLYNqxcQNAMJZQ="
    covers list "vault.corp.example" = false ∧
      covers "!VAULT.*,*.Corp.example" "vault.corp.example" = false ∧
      covers "*.corp.EXAMPLE,!vault.*" "Vault.Corp.Example" = false ∧
      covers list "jump.corp.example" = true ∧ covers hashed "bastion" = true := by
  intro list hashed
  obtain ⟨-, hvault⟩ := covers_decides list "vault.corp.example"
  obtain ⟨hiff, hperm, hcase⟩ := hvault (by decide)
  have hexcluded : covers list "vault.corp.example" = false := by
    rw [Bool.eq_false_iff, ne_eq, hiff (by decide)]
    rintro ⟨-, hnone⟩
    refine hnone "VAULT.*".toList (by decide +kernel) ?_
    have hrest : Glob.Fits [Glob.star] (folded "corp.example".toList) :=
      List.append_nil (folded "corp.example".toList) ▸ Glob.Fits.run _ Glob.Fits.nil
    exact hrest.append_left (folded "vault.".toList)
  refine ⟨hexcluded, ?_, ?_, ?_, ?_⟩
  · rw [hperm _ (by decide +kernel) (by decide +kernel), hexcluded]
  · rw [hcase _ _ (by decide +kernel) (by decide +kernel), hexcluded]
  · obtain ⟨-, hjump⟩ := covers_decides list "jump.corp.example"
    obtain ⟨hiff, -, -⟩ := hjump (by decide)
    refine (hiff (by decide)).2 ⟨⟨"*.Corp.example".toList, by decide +kernel, by decide, ?_⟩, ?_⟩
    · have hrest := Glob.Fits.nil.append_left (folded ".corp.example".toList)
      exact Glob.Fits.run (folded "jump".toList) hrest
    · intro p hp hfits
      have hvault : p = "VAULT.*".toList := by
        have helements : list.toList.splitOn ',' = ["*.Corp.example".toList, "!VAULT.*".toList] := by
          decide +kernel
        rw [helements] at hp
        simpa using hp
      subst hvault
      exact Glob.not_fits_of_scan_misfit rfl (by decide) hfits
  · obtain ⟨hcode, -⟩ := covers_decides hashed "bastion"
    refine (hcode (by decide)).2 ⟨(List.range 20).map fun n => UInt8.ofNat (n + 1), ?_⟩
    decide +kernel

end JumpHost.HostPattern

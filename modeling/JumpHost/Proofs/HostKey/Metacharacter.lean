/-
**Names that say more than themselves.**

The name of an endpoint is written into a ledger as it is, and read there in the language of host
fields.  Any host can be contacted, so its name may hold commas, wildcards and marks, or begin as a
comment does.  Such a name says something else than itself.  With a blank in place of its commas, or
of its stars, or of its question marks, it is the name of another endpoint; a wildcard covers that
one too, and a comma lets the name cover both or neither.  So a name that is no hashed one says
itself exactly if it is plain.

Main definitions:

* `JumpHost.Text.replaced` — a text with one character put in place of another;
* `JumpHost.HostPattern.SaysItself` — **a name says itself**.

Main results:

* `JumpHost.Glob.matches?_replaced` — a pattern does not tell bytes apart that it does not hold;
* `JumpHost.Glob.matches?_replaced_star`, `JumpHost.Glob.matches?_replaced_anyByte` — a wildcard
  matches other texts than itself;
* `JumpHost.HostPattern.ofEndpoint_replaced` — a blank in the host makes the name of another
  endpoint;
* `JumpHost.HostPattern.saysItself_iff_isPlain` — **a name that says itself is plain**.
-/

import JumpHost.Proofs.HostKey.Name

set_option autoImplicit false

namespace JumpHost

/-! ### Characters in place of others -/

namespace Text

section Replaced

variable {α : Type} [DecidableEq α] {a b : α} {s : List α}

/-- The text with `b` in place of every `a`. -/
def replaced (a b : α) (s : List α) : List α := s.map fun c => if c = a then b else c

@[simp] theorem replaced_nil : replaced a b [] = [] := rfl

theorem replaced_cons (c : α) :
    replaced a b (c :: s) = (if c = a then b else c) :: replaced a b s := rfl

@[simp] theorem replaced_append (t : List α) :
    replaced a b (s ++ t) = replaced a b s ++ replaced a b t := List.map_append

theorem replaced_of_notMem (h : a ∉ s) : replaced a b s = s := by
  refine (List.map_congr_left fun c hc => ?_).trans (List.map_id s)
  have hne : c ≠ a := fun e => h (e ▸ hc)
  exact if_neg hne

theorem notMem_replaced (h : a ≠ b) : a ∉ replaced a b s := by
  intro hm
  obtain ⟨c, -, hc⟩ := List.mem_map.1 hm
  split at hc
  · exact h hc.symm
  · rename_i hne
    exact hne hc

end Replaced

/-- A character of ASCII is replaced in a text as its byte is in the bytes of the text. -/
theorem utf8_replaced {a b : Char} (ha : a.toNat < 128) (hb : b.toNat < 128) (s : List Char) :
    utf8 (replaced a b s) = replaced (UInt8.ofNat a.toNat) (UInt8.ofNat b.toNat) (utf8 s) := by
  have hbytes {c : Char} (hc : c.toNat < 128) :
      String.utf8EncodeChar c = [UInt8.ofNat c.toNat] := by
    rw [utf8EncodeChar_eq, charBytes, if_pos (Nat.le_of_lt_succ hc)]
  induction s with
  | nil => rfl
  | cons c s ih =>
    have hcons (c : Char) (s : List Char) : utf8 (c :: s) = String.utf8EncodeChar c ++ utf8 s := rfl
    rw [replaced_cons, hcons, hcons, replaced_append, ih]
    congr 1
    by_cases h : c = a
    · rw [if_pos h, h, hbytes ha, hbytes hb]
      simp [replaced]
    · have hnone : UInt8.ofNat a.toNat ∉ String.utf8EncodeChar c := by
        intro hm
        have : a ∈ [c] := mem_of_mem_utf8 ha (by simpa [utf8] using hm)
        exact h (List.mem_singleton.1 this).symm
      rw [if_neg h, replaced_of_notMem hnone]

end Text

/-! ### Bytes that a pattern does not hold -/

namespace Glob

open Text (replaced replaced_cons)

section Replaced

variable {pattern : List UInt8} {a b : UInt8}

/-- A pattern is scanned in the same way with one byte that it does not hold in place of another. -/
theorem scan_replaced (ha : a ∉ pattern) (hb : b ∉ pattern) (text : List UInt8) :
    (∃ rest, scan pattern text = .ended rest ∧ scan pattern (replaced a b text) = .ended rest) ∨
      (∃ pattern' text', pattern' <:+ pattern ∧ scan pattern text = .star pattern' text' ∧
        scan pattern (replaced a b text) = .star pattern' (replaced a b text')) ∨
      scan pattern text = .misfit ∧ scan pattern (replaced a b text) = .misfit := by
  induction pattern generalizing text with
  | nil =>
    cases text with
    | nil => exact Or.inl ⟨[], rfl, rfl⟩
    | cons c text => exact Or.inr (Or.inr ⟨rfl, rfl⟩)
  | cons p pattern ih =>
    simp only [List.mem_cons, not_or] at ha hb
    cases text with
    | nil => exact Or.inl ⟨_, rfl, rfl⟩
    | cons c text =>
      have hfits : p = (if c = a then b else c) ↔ p = c := by
        by_cases hc : c = a
        · simp [hc, Ne.symm ha.1, Ne.symm hb.1]
        · simp [hc]
      rw [replaced_cons]
      simp only [scan, hfits]
      by_cases hp : p = anyByte ∨ p = c
      · simp only [if_pos hp]
        rcases ih ha.2 hb.2 text with hended | ⟨pattern', text', hsuffix, hstar⟩ | hmisfit
        · exact Or.inl hended
        · exact Or.inr (Or.inl ⟨pattern', text', hsuffix.trans (List.suffix_cons _ _), hstar⟩)
        · exact Or.inr (Or.inr hmisfit)
      · by_cases hs : p = star
        · simp only [if_neg hp, if_pos hs]
          exact Or.inr (Or.inl ⟨pattern, c :: text, List.suffix_cons _ _, rfl, rfl⟩)
        · simp only [if_neg hp, if_neg hs]
          exact Or.inr (Or.inr ⟨trivial, trivial⟩)

theorem resume_replaced (ha : a ∉ pattern) (hb : b ∉ pattern) (text : List UInt8) :
    resume pattern (replaced a b text) = resume pattern text := by
  -- the induction follows the matcher, which moves on in the pattern or in the text
  induction pattern, text using resume.induct with
  | case1 pattern text rest h =>
    rcases scan_replaced ha hb text with ⟨rest', h', hr⟩ | ⟨_, _, -, h', -⟩ | ⟨h', -⟩
    · cases h.symm.trans h'
      rw [resume_of_ended hr, resume_of_ended h]
    · cases h.symm.trans h'
    · cases h.symm.trans h'
  | case2 pattern text pattern' text' h ih =>
    rcases scan_replaced ha hb text with ⟨_, h', -⟩ | ⟨_, _, hsuffix, h', hr⟩ | ⟨h', -⟩
    · cases h.symm.trans h'
    · cases h.symm.trans h'
      rw [resume_of_star hr, resume_of_star h]
      exact ih (fun hm => ha (hsuffix.subset hm)) fun hm => hb (hsuffix.subset hm)
    · cases h.symm.trans h'
  | case3 pattern h => rfl
  | case4 pattern c text h ih =>
    rcases scan_replaced ha hb (c :: text) with ⟨_, h', -⟩ | ⟨_, _, -, h', -⟩ | ⟨-, hr⟩
    · cases h.symm.trans h'
    · cases h.symm.trans h'
    · rw [replaced_cons] at hr ⊢
      rw [resume_of_misfit hr, resume_of_misfit h, ih ha hb]

/-- **A pattern does not tell bytes apart that it does not hold.** -/
theorem matches?_replaced (ha : a ∉ pattern) (hb : b ∉ pattern) (text : List UInt8) :
    matches? pattern (replaced a b text) = matches? pattern text := by
  unfold matches?
  rcases scan_replaced ha hb text with ⟨_, h, hr⟩ | ⟨_, _, hsuffix, h, hr⟩ | ⟨h, hr⟩
  · rw [h, hr]
  · rw [h, hr]
    exact resume_replaced (fun hm => ha (hsuffix.subset hm)) (fun hm => hb (hsuffix.subset hm)) _
  · rw [h, hr]

end Replaced

/-! ### Wildcards -/

/-- **A byte that may be any matches another than itself.** -/
theorem matches?_replaced_anyByte (b : UInt8) (pattern : List UInt8) :
    matches? pattern (replaced anyByte b pattern) = true := by
  have hscan : scan pattern (replaced anyByte b pattern) = .ended [] := by
    induction pattern with
    | nil => rfl
    | cons p pattern ih =>
      rw [replaced_cons, scan]
      by_cases hp : p = anyByte
      · rw [if_pos (Or.inl hp), ih]
      · rw [if_neg hp, if_pos (Or.inr rfl), ih]
  simp [matches?, hscan, onlyStars]

/-- A pattern with other bytes in place of its stars fits the pattern. -/
theorem fits_replaced_star (blank : UInt8) (pattern : List UInt8) :
    Fits pattern (replaced star blank pattern) := by
  induction pattern with
  | nil => exact Fits.nil
  | cons p pattern ih =>
    rw [replaced_cons]
    by_cases hp : p = star
    · rw [if_pos hp, hp]
      exact Fits.run [blank] ih
    · rw [if_neg hp]
      exact Fits.cons (Or.inr rfl) ih

/-- **A star matches another byte than itself.** -/
theorem matches?_replaced_star {blank : UInt8} (hblank : blank ≠ star) (pattern : List UInt8) :
    matches? pattern (replaced star blank pattern) = true :=
  matches?_of_fits (Text.notMem_replaced hblank.symm) (fits_replaced_star blank pattern)

end Glob

/-! ### Names with a blank in place of another character -/

namespace Text

theorem lower_replaced {a b : Char} (ha : a.toNat < 65) (hb : b.toNat < 65) (s : List Char) :
    lower (replaced a b s) = replaced a b (lower s) := by
  have hself {c : Char} (hc : c.toNat < 65) : c.toLower = c := by
    refine toLower_of_not fun h => ?_
    have := UInt32.le_iff_toNat_le.1 h.1
    exact absurd hc (Nat.not_lt.2 this)
  simp only [lower, replaced, List.map_map]
  refine List.map_congr_left fun c _ => ?_
  simp only [Function.comp_apply]
  by_cases hc : c = a
  · rw [if_pos hc, hc, hself ha, hself hb, if_pos rfl]
  · have hne : c.toLower ≠ a := fun h => hc (eq_of_toLower_eq (by omega) h)
    rw [if_neg hc, if_neg hne]

end Text

namespace HostPattern

open Text (replaced)

theorem folded_replaced {a : Char} (ha : a.toNat < 65) (s : List Char) :
    folded (replaced a ' ' s) = replaced (UInt8.ofNat a.toNat) 32 (folded s) := by
  rw [folded, Text.lower_replaced ha (by decide), Text.utf8_replaced (by omega) (by decide)]
  rfl

theorem getLast?_canonicalHost (host : String) :
    (canonicalHost host).toList.getLast? ≠ some ']' := by
  obtain ⟨opened, -, hc⟩ := toList_canonicalHost host
  intro h
  rw [hc, Text.lower, List.getLast?_map, List.getLast?_reverse] at h
  obtain ⟨c, hcc, hl⟩ := Option.map_eq_some_iff.1 h
  have hb : c = ']' := Text.eq_of_toLower_eq (by decide) hl
  have := List.head?_dropWhile_not (· == ']') opened.reverse
  rw [hcc, hb] at this
  simp at this

/-- Every text in small letters without brackets around it is the canonical form of a host. -/
theorem exists_canonicalHost {s : List Char} (hlower : Text.lower s = s)
    (hhead : s.head? ≠ some '[') (hlast : s.getLast? ≠ some ']') :
    ∃ host, canonicalHost host = String.ofList s := by
  refine ⟨String.ofList ('[' :: (s ++ [']'])), ?_⟩
  have htrim : Text.trim ('[' :: (s ++ [']'])) = '[' :: (s ++ [']']) := by
    have hclose : Text.isBlank ']' = false := by decide
    rw [Text.trim, List.dropWhile_cons_of_neg (by decide), Text.trimRight]
    simp [List.dropWhile_cons_of_neg, hclose]
  have hopen : ('[' :: (s ++ [']'])).dropWhile (· == '[') = s ++ [']'] := by
    rw [List.dropWhile_cons_of_pos (by decide)]
    cases s with
    | nil => rfl
    | cons c s =>
      have hc : ¬(c == '[') = true := by simpa using hhead
      exact List.dropWhile_cons_of_neg hc
  have hclose : (s ++ [']']).reverse.dropWhile (· == ']') = s.reverse := by
    rw [List.reverse_append, List.reverse_singleton, List.singleton_append,
      List.dropWhile_cons_of_pos (by decide)]
    rw [← List.head?_reverse] at hlast
    cases hs : s.reverse with
    | nil => rfl
    | cons c t =>
      rw [hs] at hlast
      have hc : ¬(c == ']') = true := by simpa using hlast
      exact List.dropWhile_cons_of_neg hc
  unfold canonicalHost
  rw [String.toList_ofList, htrim]
  dsimp only
  rw [hopen, hclose, List.reverse_reverse, hlower]

/-- **A blank in the host makes the name of another endpoint**: a comma or a wildcard in the name of
an endpoint stands in its host, and any other host can have a blank there. -/
theorem ofEndpoint_replaced {w : Char} (hw : w ∈ [',', '*', '?']) (host : String) (port : UInt16) :
    ∃ host', (ofEndpoint host' port).toList = replaced w ' ' (ofEndpoint host port).toList := by
  have hsmall : w.toNat < 65 ∧ w ≠ '[' ∧ w ≠ ']' ∧ w ≠ ':' ∧ ∀ d : Fin 10, w ≠ Text.digit d := by
    simp only [List.mem_cons, List.not_mem_nil, or_false] at hw
    rcases hw with rfl | rfl | rfl <;> decide
  obtain ⟨hsmall, hopen, hclose, hcolon, hdigit⟩ := hsmall
  have hkept {c : Char} (hc : c ≠ ' ') {x : Option Char} (hx : x ≠ some c) :
      x.map (fun a => if a = w then ' ' else a) ≠ some c := by
    intro h
    obtain ⟨a, ha, he⟩ := Option.map_eq_some_iff.1 h
    split at he
    · exact hc he.symm
    · exact hx (he ▸ ha)
  obtain ⟨host', hhost⟩ := exists_canonicalHost
    (s := replaced w ' ' (canonicalHost host).toList)
    (by rw [Text.lower_replaced hsmall (by decide), lower_canonicalHost])
    (by
      rw [replaced, List.head?_map]
      exact hkept (by decide) (head?_canonicalHost host))
    (by
      rw [replaced, List.getLast?_map]
      exact hkept (by decide) (getLast?_canonicalHost host))
  refine ⟨host', ?_⟩
  by_cases hport : port = 22
  · rw [hport, ofEndpoint_22, ofEndpoint_22, hhost, String.toList_ofList]
  · have hnumeral : replaced w ' ' (Text.numeral port.toNat) = Text.numeral port.toNat := by
      refine Text.replaced_of_notMem fun hm => ?_
      obtain ⟨d, hd, he⟩ := Text.mem_numeral hm
      exact hdigit ⟨d, hd⟩ he
    rw [toList_ofEndpoint_of_ne hport, toList_ofEndpoint_of_ne hport, hhost, String.toList_ofList]
    simp only [Text.replaced_cons, Text.replaced_append, Text.replaced_nil, hnumeral,
      if_neg hopen.symm, if_neg hclose.symm, if_neg hcolon.symm]

/-! ### Names that say themselves -/

/-- **A name says itself**: it is read in a line as it was written, and of the names of endpoints it
covers itself and no other. -/
structure SaysItself (name : String) : Prop where
  word : Text.IsWord name.toList
  notRemark : HostRecord.isRemark name.toList = false
  covers_iff : ∀ host port, covers name (ofEndpoint host port) = true ↔ ofEndpoint host port = name

section Name

variable {host : String} {port : UInt16}

theorem IsPlain.saysItself (h : IsPlain (ofEndpoint host port)) :
    SaysItself (ofEndpoint host port) where
  word := h.word
  notRemark := h.notRemark
  covers_iff host' port' := by
    rw [covers_of_isPlain h, lower_ofEndpoint, lower_ofEndpoint, String.toList_inj, eq_comm]

/-- A name that says itself holds no character that may as well be a blank. -/
theorem SaysItself.notMem {w : Char} (h : SaysItself (ofEndpoint host port))
    (hw : w ∈ [',', '*', '?'])
    (hcovers : ∀ other : String, other.toList = replaced w ' ' (ofEndpoint host port).toList →
      covers (ofEndpoint host port) other = true) :
    w ∉ (ofEndpoint host port).toList := by
  obtain ⟨host', hhost⟩ := ofEndpoint_replaced hw host port
  have hsame := (h.covers_iff host' port).1 (hcovers _ hhost)
  rw [hsame] at hhost
  rw [hhost]
  have hne : w ≠ ' ' := by
    rintro rfl
    revert hw
    decide
  exact Text.notMem_replaced hne

/-- A list does not tell its commas from blanks in the text that it is matched with. -/
theorem listCovers_replaced {field : List Char} {name other : String} (hblank : ' ' ∉ field)
    (hother : other.toList = replaced ',' ' ' name.toList) :
    listCovers field other = listCovers field name := by
  have hmatches {e : List Char} (hcomma : ',' ∉ e) (hblank : ' ' ∉ e) :
      Glob.matches? (folded e) (folded other.toList) =
        Glob.matches? (folded e) (folded name.toList) := by
    rw [hother, folded_replaced (by decide)]
    exact Glob.matches?_replaced (notMem_folded (by decide) hcomma)
      (notMem_folded (by decide) hblank) _
  have helement {e : List Char} (he : e ∈ field.splitOn ',') : ',' ∉ e ∧ ' ' ∉ e := by
    refine ⟨fun hm => ?_, fun hm => hblank (Text.subset_of_mem_splitOn he hm)⟩
    have := Text.not_of_mem_splitOnP he hm
    simp at this
  have hincludes : ∀ e ∈ field.splitOn ',', includes other e = includes name e := by
    intro e he
    rw [includes, includes, hmatches (helement he).1 (helement he).2]
  have hexcludes : ∀ e ∈ field.splitOn ',', excludes other e = excludes name e := by
    intro e he
    rw [excludes, excludes, hmatches (fun hm => (helement he).1 (List.mem_of_mem_tail hm))
      (fun hm => (helement he).2 (List.mem_of_mem_tail hm))]
  refine Bool.eq_iff_iff.2 ?_
  rw [listCovers_iff, listCovers_iff]
  refine and_congr (forall₂_congr fun e he => ?_)
    (exists_congr fun e => and_congr_right fun he => ?_)
  · rw [hexcludes e he]
  · rw [hincludes e he]

/-- A single pattern that is no exclusion covers what it matches. -/
theorem listCovers_of_comma {field : List Char} (hcomma : ',' ∉ field) (name : String) :
    listCovers field name = true ↔
      field.head? ≠ some '!' ∧ Glob.matches? (folded field) (folded name.toList) = true := by
  rw [listCovers_iff, List.splitOn_eq_singleton hcomma]
  simp only [List.mem_singleton, forall_eq, exists_eq_left, includes, excludes]
  by_cases h : field.head? = some '!' <;> simp [h]

/-- **A name that says itself is plain**, unless it is a hashed one. -/
theorem saysItself_iff_isPlain (hhash : ¬hashMark <+: (ofEndpoint host port).toList) :
    SaysItself (ofEndpoint host port) ↔ IsPlain (ofEndpoint host port) := by
  refine ⟨fun h => ?_, IsPlain.saysItself⟩
  have hself : listCovers (ofEndpoint host port).toList (ofEndpoint host port) = true := by
    rw [← covers_of_not_hashed hhash]
    exact (h.covers_iff host port).2 rfl
  have hblank : ' ' ∉ (ofEndpoint host port).toList := fun hm =>
    absurd (h.word.2 _ hm) (by decide)
  have hcomma : ',' ∉ (ofEndpoint host port).toList := by
    refine h.notMem (by decide) fun other hother => ?_
    rw [covers_of_not_hashed hhash, listCovers_replaced hblank hother, hself]
  obtain ⟨hexclusion, -⟩ := (listCovers_of_comma hcomma _).1 hself
  have hany : '?' ∉ (ofEndpoint host port).toList := by
    refine h.notMem (by decide) fun other hother => ?_
    rw [covers_of_not_hashed hhash, listCovers_of_comma hcomma, hother,
      folded_replaced (by decide)]
    exact ⟨hexclusion, Glob.matches?_replaced_anyByte 32 _⟩
  have hstar : '*' ∉ (ofEndpoint host port).toList := by
    refine h.notMem (by decide) fun other hother => ?_
    rw [covers_of_not_hashed hhash, listCovers_of_comma hcomma, hother,
      folded_replaced (by decide)]
    exact ⟨hexclusion, Glob.matches?_replaced_star (by decide) _⟩
  exact ⟨h.word, hcomma, hstar, hany, hexclusion, h.notRemark, hhash⟩

end Name

end HostPattern

end JumpHost

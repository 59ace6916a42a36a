/-
**The pieces of a text.**

Texts are glued together from pieces that hold no separator: words with white space between them,
or a host and the digits of a port with a colon between.  Here is what brings the pieces back, and
what the fold to small letters does to them.

Main definitions:

* `JumpHost.Text.IsWord` — a text that is not empty and holds no white space.

Main results:

* `JumpHost.Text.takeWhile_dropWhile_iff`, `JumpHost.Text.append_inj_of_run` — a text begins with
  one run of a kind;
* `JumpHost.Text.words_append_cons`, `JumpHost.Text.words_of_isWord` — words split at white space,
  and a word is its only word;
* `JumpHost.Text.exists_of_words_eq_cons` — the first word of a text, and what stands around it;
* `JumpHost.Text.mem_intercalate`, `JumpHost.Text.subset_of_mem_splitOn` — the characters of a text
  are those of its pieces and the separator;
* `JumpHost.Text.cutLast_eq_some_iff`, `JumpHost.Text.cut_eq_some_iff` — the last and the first
  separator, and what stands around them;
* `JumpHost.Text.numeral_injective` — different numbers have different digits;
* `JumpHost.Text.toLower_eq_iff`, `JumpHost.Text.splitOn_lower` — folding touches letters only, and
  leaves the separators where they are.
-/

import JumpHost.Text.Ascii
import JumpHost.Text.Blank
import JumpHost.Text.Cut
import JumpHost.Text.Numeral
import Mathlib.Data.List.TakeWhile
import Mathlib.Logic.Function.Defs

set_option autoImplicit false

namespace JumpHost.Text

/-! ### Runs of one kind -/

/-- **The longest beginning of a text of one kind**, and what stands behind it. -/
theorem takeWhile_dropWhile_iff {α : Type} {p : α → Bool} {text before behind : List α} :
    (text.takeWhile p = before ∧ text.dropWhile p = behind) ↔
      text = before ++ behind ∧ (∀ c ∈ before, p c = true) ∧
        ∀ c, behind.head? = some c → p c = false := by
  constructor
  · rintro ⟨rfl, rfl⟩
    refine ⟨List.takeWhile_append_dropWhile.symm, ?_, ?_⟩
    · exact fun c hc => List.mem_takeWhile_imp hc
    · intro c hc
      have hhead := List.head?_dropWhile_not p text
      rw [hc] at hhead
      exact hhead
  · rintro ⟨rfl, hbefore, hbehind⟩
    rw [List.takeWhile_append_of_pos hbefore, List.dropWhile_append_of_pos hbefore]
    cases behind with
    | nil => simp
    | cons c behind => simp [hbehind c rfl]

/-- A text begins with one run of a kind, so two ways to cut it behind one are the same. -/
theorem append_inj_of_run {α : Type} {p : α → Bool} {kind : Bool} {a b s t : List α}
    (h : a ++ s = b ++ t) (ha : ∀ c ∈ a, p c = kind) (hb : ∀ c ∈ b, p c = kind)
    (hs : ∀ c, s.head? = some c → p c = !kind) (ht : ∀ c, t.head? = some c → p c = !kind) :
    a = b ∧ s = t := by
  have hrun {a s : List α} (ha : ∀ c ∈ a, p c = kind) (hs : ∀ c, s.head? = some c → p c = !kind) :
      (a ++ s).takeWhile (p · == kind) = a ∧ (a ++ s).dropWhile (p · == kind) = s :=
    takeWhile_dropWhile_iff.2
      ⟨rfl, fun c hc => by simp [ha c hc], fun c hc => by simp [hs c hc]⟩
  obtain ⟨htakeₐ, hdropₐ⟩ := hrun ha hs
  obtain ⟨htake, hdrop⟩ := hrun hb ht
  rw [h] at htakeₐ hdropₐ
  exact ⟨htakeₐ.symm.trans htake, hdropₐ.symm.trans hdrop⟩

/-! ### Words -/

/-- A text that is not empty and holds no white space. -/
def IsWord (s : List Char) : Prop := s ≠ [] ∧ ∀ c ∈ s, isBlank c = false

instance (s : List Char) : Decidable (IsWord s) :=
  @instDecidableAnd _ _ _ (List.decidableBAll (fun c => isBlank c = false) s)

/-- White space separates the words before it from those behind it. -/
theorem words_append_cons (s t : List Char) {c : Char} (h : isBlank c = true) :
    words (s ++ c :: t) = words s ++ words t := by
  unfold words
  rw [List.splitOnP_append_cons _ _ h, List.filter_append]

theorem words_of_isWord {s : List Char} (h : IsWord s) : words s = [s] := by
  unfold words
  rw [List.splitOnP_eq_singleton h.2]
  simp [h.1]

theorem isWord_of_mem_words {s w : List Char} (h : w ∈ words s) : IsWord w :=
  ⟨ne_nil_of_mem_words h, fun _ => not_isBlank_of_mem_words h⟩

theorem words_append_of_blank {w : List Char} (h : ∀ c ∈ w, isBlank c = true) (s : List Char) :
    words (w ++ s) = words s := by
  induction w with
  | nil => rfl
  | cons c w ih =>
    obtain ⟨hc, hw⟩ := List.forall_mem_cons.1 h
    exact (words_append_cons [] (w ++ s) hc).trans (ih hw)

/-- A word is the first one of a text that goes on with white space or not at all. -/
theorem words_append_of_isWord {w s : List Char} (hw : IsWord w)
    (hs : ∀ c, s.head? = some c → isBlank c = true) : words (w ++ s) = w :: words s := by
  cases s with
  | nil => simpa [words] using words_of_isWord hw
  | cons c s =>
    have hc := hs c rfl
    have hrest : words (c :: s) = words s := words_append_cons [] s hc
    rw [words_append_cons w s hc, words_of_isWord hw, hrest]
    rfl

/-- **The first word of a text**: white space before it, and behind it white space or nothing. -/
theorem exists_of_words_eq_cons {s w : List Char} {ws : List (List Char)}
    (h : words s = w :: ws) :
    ∃ indent rest, s = indent ++ (w ++ rest) ∧ (∀ c ∈ indent, isBlank c = true) ∧
      (∀ c, rest.head? = some c → isBlank c = true) ∧ words rest = ws := by
  obtain ⟨hs, hindent, hbehind⟩ := takeWhile_dropWhile_iff.1
    (show s.takeWhile isBlank = _ ∧ s.dropWhile isBlank = _ from ⟨rfl, rfl⟩)
  generalize s.takeWhile isBlank = indent at hs hindent
  generalize s.dropWhile isBlank = behind at hs hbehind
  obtain ⟨hword, hall, hrest⟩ := takeWhile_dropWhile_iff.1
    (show behind.takeWhile (!isBlank ·) = _ ∧ behind.dropWhile (!isBlank ·) = _ from ⟨rfl, rfl⟩)
  generalize behind.takeWhile (!isBlank ·) = word at hword hall
  generalize behind.dropWhile (!isBlank ·) = rest at hword hrest
  simp only [Bool.not_eq_true', Bool.not_eq_false'] at hall hrest
  subst hword hs
  rw [words_append_of_blank hindent] at h
  cases word with
  | nil =>
    cases rest with
    | nil => cases h
    | cons c rest =>
      -- behind the white space stands no more of it
      have hblank := hrest c rfl
      rw [hbehind c rfl] at hblank
      cases hblank
  | cons c word =>
    rw [words_append_of_isWord ⟨List.cons_ne_nil _ _, hall⟩ hrest] at h
    cases h
    exact ⟨indent, rest, rfl, hindent, hrest, rfl⟩

/-! ### Separators between pieces -/

theorem mem_intercalate {α : Type} {sep : List α} {pieces : List (List α)} {a : α}
    (h : a ∈ sep.intercalate pieces) : a ∈ sep ∨ ∃ piece ∈ pieces, a ∈ piece := by
  induction pieces with
  | nil => simp at h
  | cons piece pieces ih =>
    by_cases hne : pieces = []
    · subst hne
      exact Or.inr ⟨piece, List.mem_cons_self, by simpa using h⟩
    · rw [List.intercalate_cons_of_ne_nil hne, List.mem_append, List.mem_append] at h
      rcases h with (h | h) | h
      · exact Or.inr ⟨piece, List.mem_cons_self, h⟩
      · exact Or.inl h
      · exact (ih h).imp_right fun ⟨p, hp, ha⟩ => ⟨p, List.mem_cons_of_mem _ hp, ha⟩

theorem subset_of_mem_splitOn {α : Type} [DecidableEq α] {sep : α} {s piece : List α}
    (h : piece ∈ s.splitOn sep) : piece ⊆ s := by
  have hsubset {pieces : List (List α)} (h : piece ∈ pieces) :
      piece ⊆ [sep].intercalate pieces := by
    induction pieces with
    | nil => cases h
    | cons other pieces ih =>
      intro a ha
      by_cases hne : pieces = []
      · subst hne
        simpa [List.mem_singleton.1 h] using ha
      · rw [List.intercalate_cons_of_ne_nil hne, List.mem_append]
        rcases List.mem_cons.1 h with rfl | h
        · exact Or.inl (List.mem_append_left _ ha)
        · exact Or.inr (ih h ha)
  have hwhole := hsubset h
  rwa [List.intercalate_splitOn] at hwhole

/-! ### Small letters -/

/-- A character that is no small letter is folded from itself only. -/
theorem eq_of_toLower_eq_of_not {c w : Char} (hw : ¬(97 ≤ w.toNat ∧ w.toNat ≤ 122))
    (h : c.toLower = w) : c = w := by
  by_cases hc : 65 ≤ c.val ∧ c.val ≤ 90
  · have h₁ : 65 ≤ c.toNat := by simpa [UInt32.le_iff_toNat_le] using hc.1
    have h₂ : c.toNat ≤ 90 := by simpa [UInt32.le_iff_toNat_le] using hc.2
    have capital : ∀ n : Fin 91, 65 ≤ n.1 →
        97 ≤ (Char.ofNat n).toLower.toNat ∧ (Char.ofNat n).toLower.toNat ≤ 122 := by
      decide
    have hl := capital ⟨c.toNat, Nat.lt_succ_of_le h₂⟩ h₁
    rw [Char.ofNat_toNat, h] at hl
    exact absurd hl hw
  · rwa [toLower_of_not hc] at h

theorem eq_of_toLower_eq {c w : Char} (hw : w.toNat < 97) (h : c.toLower = w) : c = w :=
  eq_of_toLower_eq_of_not (by omega) h

/-- A character that is no letter is folded to itself, and from itself only. -/
theorem toLower_eq_iff {c w : Char} (hw : w.isAlpha = false) : c.toLower = w ↔ c = w := by
  obtain ⟨hcapital, hsmall⟩ := Bool.or_eq_false_iff.1 hw
  constructor
  · refine eq_of_toLower_eq_of_not fun h => Bool.eq_false_iff.1 hsmall ?_
    exact Bool.and_eq_true_iff.2 ⟨decide_eq_true (UInt32.le_iff_toNat_le.2 h.1),
      decide_eq_true (UInt32.le_iff_toNat_le.2 h.2)⟩
  · rintro rfl
    exact toLower_of_not (of_decide_eq_false hcapital)

theorem notMem_lower {s : List Char} {w : Char} (hw : w.toNat < 97) (h : w ∉ s) : w ∉ lower s := by
  intro hm
  obtain ⟨c, hc, he⟩ := List.mem_map.1 hm
  exact h (eq_of_toLower_eq hw he ▸ hc)

/-- A mark without letters is that of a text and of its fold. -/
theorem prefix_lower_iff {mark s : List Char} (h : ∀ c ∈ mark, c.isAlpha = false) :
    mark <+: lower s ↔ mark <+: s := by
  induction mark generalizing s with
  | nil => simp
  | cons a mark ih =>
    obtain ⟨ha, hmark⟩ := List.forall_mem_cons.1 h
    cases s with
    | nil => simp [lower]
    | cons c s =>
      have hlower : lower (c :: s) = c.toLower :: lower s := rfl
      rw [hlower, List.cons_prefix_cons, List.cons_prefix_cons, ih hmark, eq_comm,
        toLower_eq_iff ha, eq_comm]

/-- Folding leaves a separator that is no letter where it is. -/
theorem splitOn_lower {w : Char} (hw : w.isAlpha = false) (s : List Char) :
    (lower s).splitOn w = (s.splitOn w).map lower := by
  induction s with
  | nil => simp [lower]
  | cons c s ih =>
    have hsame : (c.toLower == w) = (c == w) := by
      rw [Bool.eq_iff_iff, beq_iff_eq, beq_iff_eq, toLower_eq_iff hw]
    have hlower : lower (c :: s) = c.toLower :: lower s := rfl
    unfold List.splitOn at ih ⊢
    rw [hlower, List.splitOnP_cons_eq_if_modifyHead, List.splitOnP_cons_eq_if_modifyHead, ih, hsame]
    split
    · rfl
    · cases s.splitOnP (· == w) <;> rfl

/-! ### Numerals and cuts -/

theorem toLower_digit {d : Nat} (h : d < 10) : (digit d).toLower = digit d := by
  have : ∀ d : Fin 10, (digit d).toLower = digit d := by decide
  exact this ⟨d, h⟩

theorem mem_numeral {n : Nat} {c : Char} (h : c ∈ numeral n) : ∃ d < 10, c = digit d := by
  induction n using Nat.strongRecOn with
  | ind n ih =>
    rw [numeral] at h
    split at h
    · rename_i hn
      exact ⟨n, hn, by simpa using h⟩
    · rename_i hn
      rcases List.mem_append.1 h with h | h
      · exact ih (n / 10) (by omega) h
      · exact ⟨n % 10, by omega, by simpa using h⟩

theorem lower_numeral (n : Nat) : lower (numeral n) = numeral n := by
  refine (List.map_congr_left fun c hc => ?_).trans (List.map_id _)
  obtain ⟨d, hd, rfl⟩ := mem_numeral hc
  exact toLower_digit hd

theorem colon_notMem_numeral (n : Nat) : ':' ∉ numeral n := by
  intro h
  obtain ⟨d, hd, he⟩ := mem_numeral h
  have : ∀ d : Fin 10, ':' ≠ digit d := by decide
  exact this ⟨d, hd⟩ he

theorem numeral_injective : Function.Injective numeral := by
  intro m n h
  have hm := natural?_numeral m
  rw [h, natural?_numeral] at hm
  exact (Option.some.inj hm).symm

/-- The last separator is found where nothing behind it is one. -/
theorem cutLast_append_cons {α : Type} [DecidableEq α] {sep : α} {after : List α}
    (h : sep ∉ after) (before : List α) :
    cutLast sep (before ++ sep :: after) = some (before, after) := by
  induction before with
  | nil => simp [cutLast, cutLast_eq_none_iff.2 h]
  | cons a before ih => simp [cutLast, ih]

/-- **The last separator, and what stands around it.** -/
theorem cutLast_eq_some_iff {α : Type} [DecidableEq α] {sep : α} {s before after : List α} :
    cutLast sep s = some (before, after) ↔ s = before ++ sep :: after ∧ sep ∉ after := by
  constructor
  · exact fun h => ⟨eq_append_of_cutLast h, not_mem_of_cutLast h⟩
  · rintro ⟨rfl, h⟩
    exact cutLast_append_cons h before

/-! ### The first separator -/

section Cut

variable {α : Type} [DecidableEq α] {a : α} {s before after : List α}

theorem cut_append (h : a ∉ before) (sep after : List α) :
    cut (a :: sep) (before ++ (a :: sep ++ after)) = some (before, after) := by
  induction before with
  | nil =>
    have hprefix : (a :: sep).isPrefixOf (a :: sep ++ after) = true :=
      List.isPrefixOf_iff_prefix.2 (List.prefix_append _ _)
    simp only [List.nil_append, List.cons_append] at hprefix ⊢
    rw [cut, if_pos hprefix]
    simp
  | cons b before ih =>
    have hne : a ≠ b := fun e => h (e ▸ List.mem_cons_self)
    have hprefix : (a :: sep).isPrefixOf (b :: (before ++ (a :: sep ++ after))) = false := by
      rw [List.isPrefixOf, beq_false_of_ne hne, Bool.false_and]
    rw [List.cons_append, cut, hprefix, ih fun hm => h (List.mem_cons_of_mem b hm)]
    rfl

theorem cut_singleton_append (h : a ∉ before) (after : List α) :
    cut [a] (before ++ a :: after) = some (before, after) :=
  cut_append h [] after

theorem cut_singleton_cons (a b : α) (s : List α) :
    cut [a] (b :: s) =
      if a = b then some ([], s)
      else (cut [a] s).map fun (before, after) => (b :: before, after) := by
  rw [cut]
  by_cases h : a = b <;> simp [h]

theorem cut_singleton_eq_none_iff : cut [a] s = none ↔ a ∉ s := by
  induction s with
  | nil => simp [cut]
  | cons b s ih =>
    rw [cut_singleton_cons]
    by_cases h : a = b
    · simp [h]
    · simp [h, ih]

theorem notMem_of_cut_singleton (h : cut [a] s = some (before, after)) : a ∉ before := by
  induction s generalizing before with
  | nil => simp [cut] at h
  | cons b s ih =>
    rw [cut_singleton_cons] at h
    split at h
    · cases h
      simp
    · rename_i hne
      obtain ⟨⟨c, d⟩, hc, he⟩ := Option.map_eq_some_iff.1 h
      cases he
      simp [hne, ih hc]

/-- The first separator is found where none stands before it, if what begins it does not stand in
the rest of it: then no separator is made up where the text before meets it. -/
theorem cut_append_of_not_infix {sep : List α} (hsep : a ∉ sep) (h : ¬(a :: sep) <:+: before) (after : List α) :
    cut (a :: sep) (before ++ (a :: sep ++ after)) = some (before, after) := by
  induction before with
  | nil => exact cut_append List.not_mem_nil sep after
  | cons b before ih =>
    have hrest : ¬(a :: sep) <:+: before :=
      fun hi => h (hi.trans (List.suffix_cons b before).isInfix)
    have hprefix : ¬(a :: sep) <+: b :: before ++ (a :: sep ++ after) := by
      intro hp
      rcases List.prefix_or_prefix_of_prefix hp (List.prefix_append (b :: before) _) with
        hin | ⟨later, hlater⟩
      · exact h hin.isInfix
      · -- a separator that begins in the text before would go on with its own beginning
        have hnext : later <+: a :: sep ++ after := by
          refine (List.prefix_append_right_inj (b :: before)).1 ?_
          rw [hlater]
          exact hp
        cases later with
        | nil =>
          rw [List.append_nil] at hlater
          exact h (hlater ▸ List.infix_refl _)
        | cons c later =>
          obtain ⟨rfl, -⟩ := List.cons_prefix_cons.1 hnext
          obtain ⟨-, rfl⟩ := List.cons.inj hlater
          exact hsep (by simp)
    rw [List.cons_append] at hprefix
    rw [List.cons_append, cut, if_neg (mt List.isPrefixOf_iff_prefix.1 hprefix), ih hrest]
    rfl

theorem not_infix_of_cut {sep : List α} (hsep : sep ≠ []) (h : cut sep s = some (before, after)) :
    ¬sep <:+: before := by
  induction s generalizing before with
  | nil => simp [cut, hsep] at h
  | cons b s ih =>
    have htext := eq_append_of_cut h
    rw [cut] at h
    split at h
    · cases h
      simpa using hsep
    · rename_i hprefix
      obtain ⟨⟨c, d⟩, hc, he⟩ := Option.map_eq_some_iff.1 h
      cases he
      intro hinfix
      rcases List.infix_cons_iff.1 hinfix with hp | hi
      · refine hprefix (List.isPrefixOf_iff_prefix.2 ?_)
        rw [htext, List.append_assoc]
        exact hp.trans (List.prefix_append _ _)
      · exact ih hc hi

/-- **The first separator, and what stands around it.** -/
theorem cut_eq_some_iff {sep : List α} (hsep : a ∉ sep) :
    cut (a :: sep) s = some (before, after) ↔
      s = before ++ (a :: sep ++ after) ∧ ¬(a :: sep) <:+: before := by
  constructor
  · intro h
    refine ⟨?_, not_infix_of_cut (List.cons_ne_nil a sep) h⟩
    rw [eq_append_of_cut h, List.append_assoc]
  · rintro ⟨rfl, h⟩
    exact cut_append_of_not_infix hsep h after
end Cut

end JumpHost.Text

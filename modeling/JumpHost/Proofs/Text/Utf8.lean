/-
**Reading UTF-8.**

The lossy reading is a left inverse of writing, and it commutes with cutting bytes at line breaks:
no character but the line break contains its byte, and no ill-formed piece swallows one.  So a file
may be cut into lines before it is read or after, whatever bytes it holds.

Main results:

* `JumpHost.Text.ofUtf8Lossy_utf8` — what is written reads back;
* `JumpHost.Text.utf8_injective` — different texts have different bytes;
* `JumpHost.Text.mem_of_mem_utf8` — a byte of ASCII is written for its own character only;
* `JumpHost.Text.ofUtf8Lossy_append_lineBreak` — **a line break separates any bytes**, even where
  those before it end within a character;
* `JumpHost.Text.splitOn_ofUtf8Lossy` — the lines of the text are the texts of the lines.
-/

import JumpHost.Text.Blank
import JumpHost.Text.Utf8
import Mathlib.Data.List.Basic

set_option autoImplicit false

namespace JumpHost.Text

/-! ### One character or piece at a time -/

/-- Reading takes one character or one ill-formed piece at a time. -/
theorem ofUtf8Lossy_cons (b : UInt8) (s : List UInt8) :
    ofUtf8Lossy (b :: s) =
      (takeChar b s).1.getD '\uFFFD' :: ofUtf8Lossy (takeChar b s).2 := by
  rw [ofUtf8Lossy]
  split
  · rename_i c rest h
    rw [h]
    rfl
  · rename_i rest h
    rw [h]
    rfl

/-! ### Writing and reading a character -/

/-- The byte of six bits that continue a character. -/
def tailByte (x : Nat) : UInt8 := UInt8.ofNat (x % 64 + 128)

theorem toNat_tailByte (x : Nat) : (tailByte x).toNat = x % 64 + 128 := by
  rw [tailByte, UInt8.toNat_ofNat']
  omega

/-- Six more bits are taken up. -/
theorem takeTails_tailByte (code n x : Nat) (s : List UInt8) :
    takeTails code (n + 1) (tailByte x :: s) = takeTails (64 * code + x % 64) n s := by
  have ht : isTail (tailByte x) = true := by
    simp only [isTail, Bool.and_eq_true, decide_eq_true_eq, UInt8.le_iff_toNat_le,
      toNat_tailByte, UInt8.reduceToNat]
    omega
  rw [takeTails, if_pos ht, toNat_tailByte]
  congr 2
  omega

/-- The lead bytes, by the number of bytes that follow them. -/
theorem tails?_ofNat {n k : Nat}
    (h : n < 128 ∧ k = 0 ∨ 194 ≤ n ∧ n ≤ 223 ∧ k = 1 ∨ 224 ≤ n ∧ n ≤ 239 ∧ k = 2 ∨
      240 ≤ n ∧ n ≤ 244 ∧ k = 3) : tails? (UInt8.ofNat n) = some k := by
  have hn : n % 256 = n := by omega
  simp only [tails?, UInt8.le_iff_toNat_le, UInt8.lt_iff_toNat_lt, UInt8.toNat_ofNat',
    UInt8.reduceToNat, Nat.reducePow, hn]
  split_ifs
  · exact congrArg some (by omega)
  · exact congrArg some (by omega)
  · exact congrArg some (by omega)
  · exact congrArg some (by omega)
  · omega

theorem mayFollow_tailByte {lead x : Nat} (hlead : lead < 256)
    (hE0 : lead = 0xE0 → 32 ≤ x % 64) (hED : lead = 0xED → x % 64 < 32)
    (hF0 : lead = 0xF0 → 16 ≤ x % 64) (hF4 : lead = 0xF4 → x % 64 < 16) :
    mayFollow (UInt8.ofNat lead) (tailByte x) = true := by
  have hl : lead % 256 = lead := by omega
  simp only [mayFollow, isTail, ← UInt8.toNat_inj, UInt8.le_iff_toNat_le, UInt8.toNat_ofNat',
    UInt8.reduceToNat, Nat.reducePow, hl, toNat_tailByte]
  split_ifs <;> simp only [Bool.and_eq_true, decide_eq_true_eq] <;> omega

/-- A lead byte and the byte behind it are taken up. -/
theorem takeChar_tailByte {lead n x : Nat} {s : List UInt8}
    (ht : tails? (UInt8.ofNat lead) = some (n + 1))
    (hf : mayFollow (UInt8.ofNat lead) (tailByte x) = true) :
    takeChar (UInt8.ofNat lead) (tailByte x :: s) =
      takeTails (64 * leadBits (UInt8.ofNat lead) (n + 1) + x % 64) n s := by
  simp only [takeChar, ht, hf, if_true, toNat_tailByte]
  congr 2
  omega

/-- The bytes of the character with a number, by the ranges that have one to four of them. -/
def charBytes (v : Nat) : List UInt8 :=
  if v ≤ 0x7F then [UInt8.ofNat v]
  else if v ≤ 0x7FF then [UInt8.ofNat (v / 64 % 32 + 192), tailByte v]
  else if v ≤ 0xFFFF then [UInt8.ofNat (v / 4096 % 16 + 224), tailByte (v / 64), tailByte v]
  else
    [UInt8.ofNat (v / 262144 % 8 + 240), tailByte (v / 4096), tailByte (v / 64), tailByte v]

theorem utf8EncodeChar_eq (c : Char) : String.utf8EncodeChar c = charBytes c.toNat := rfl

theorem takeChar_charBytes {v : Nat} (hv : v < 0xD800 ∨ 0xDFFF < v ∧ v < 0x110000)
    (rest : List UInt8) :
    ∃ b s, charBytes v = b :: s ∧ takeChar b (s ++ rest) = (some (Char.ofNat v), rest) := by
  unfold charBytes
  split_ifs with h₁ h₂ h₃
  · refine ⟨_, _, rfl, ?_⟩
    have ht := tails?_ofNat (n := v) (k := 0) (by omega)
    have hn : (UInt8.ofNat v).toNat = v := UInt8.toNat_ofNat_of_lt' (show _ < 256 by omega)
    simp only [takeChar, ht, hn, List.nil_append]
  · refine ⟨_, _, rfl, ?_⟩
    have ht := tails?_ofNat (n := v / 64 % 32 + 192) (k := 1) (by omega)
    have hf : mayFollow (UInt8.ofNat (v / 64 % 32 + 192)) (tailByte v) = true :=
      mayFollow_tailByte (by omega) (by omega) (by omega) (by omega) (by omega)
    have hn : (UInt8.ofNat (v / 64 % 32 + 192)).toNat = v / 64 % 32 + 192 :=
      UInt8.toNat_ofNat_of_lt' (show _ < 256 by omega)
    rw [List.cons_append, takeChar_tailByte ht hf]
    simp only [takeTails, leadBits, hn, List.nil_append]
    congr 3
    omega
  · refine ⟨_, _, rfl, ?_⟩
    have ht := tails?_ofNat (n := v / 4096 % 16 + 224) (k := 2) (by omega)
    have hf : mayFollow (UInt8.ofNat (v / 4096 % 16 + 224)) (tailByte (v / 64)) = true :=
      mayFollow_tailByte (by omega) (by omega) (by omega) (by omega) (by omega)
    have hn : (UInt8.ofNat (v / 4096 % 16 + 224)).toNat = v / 4096 % 16 + 224 :=
      UInt8.toNat_ofNat_of_lt' (show _ < 256 by omega)
    rw [List.cons_append, takeChar_tailByte ht hf, List.cons_append, takeTails_tailByte]
    simp only [takeTails, leadBits, hn, List.nil_append]
    congr 3
    omega
  · refine ⟨_, _, rfl, ?_⟩
    have ht := tails?_ofNat (n := v / 262144 % 8 + 240) (k := 3) (by omega)
    have hf : mayFollow (UInt8.ofNat (v / 262144 % 8 + 240)) (tailByte (v / 4096)) = true :=
      mayFollow_tailByte (by omega) (by omega) (by omega) (by omega) (by omega)
    have hn : (UInt8.ofNat (v / 262144 % 8 + 240)).toNat = v / 262144 % 8 + 240 :=
      UInt8.toNat_ofNat_of_lt' (show _ < 256 by omega)
    rw [List.cons_append, takeChar_tailByte ht hf, List.cons_append, takeTails_tailByte,
      List.cons_append, takeTails_tailByte]
    simp only [takeTails, leadBits, hn, List.nil_append]
    congr 3
    omega

/-! ### Reading a text -/

/-- Reading what was written, with any bytes behind it. -/
theorem ofUtf8Lossy_utf8_append (s : List Char) (rest : List UInt8) :
    ofUtf8Lossy (utf8 s ++ rest) = s ++ ofUtf8Lossy rest := by
  induction s with
  | nil => rfl
  | cons c s ih =>
    obtain ⟨b, t, hb, ht⟩ := takeChar_charBytes (v := c.toNat) c.valid (utf8 s ++ rest)
    have hc : utf8 (c :: s) ++ rest = b :: (t ++ (utf8 s ++ rest)) := by
      simp [utf8, utf8EncodeChar_eq, hb]
    rw [hc, ofUtf8Lossy_cons, ht, ih]
    simp

@[simp] theorem ofUtf8Lossy_utf8 (s : List Char) : ofUtf8Lossy (utf8 s) = s := by
  have h := ofUtf8Lossy_utf8_append s []
  simpa [ofUtf8Lossy] using h

theorem utf8_injective : Function.Injective utf8 := by
  intro s t h
  rw [← ofUtf8Lossy_utf8 s, h, ofUtf8Lossy_utf8]

/-! ### Line breaks and other bytes of ASCII -/

theorem mayFollow_lineBreak (lead : UInt8) : mayFollow lead 10 = false := by
  unfold mayFollow
  split_ifs <;> decide

/-- The tail bytes of a character are not looked for beyond a line break. -/
theorem takeTails_append_lineBreak (code n : Nat) (s t : List UInt8) :
    takeTails code n (s ++ 10 :: t) =
      ((takeTails code n s).1, (takeTails code n s).2 ++ 10 :: t) := by
  induction n generalizing code s with
  | zero => rfl
  | succ n ih =>
    cases s with
    | nil => rfl
    | cons b s =>
      simp only [List.cons_append, takeTails]
      split_ifs
      · exact ih _ s
      · rfl

/-- Neither a character nor an ill-formed piece reaches beyond a line break. -/
theorem takeChar_append_lineBreak (lead : UInt8) (s t : List UInt8) :
    takeChar lead (s ++ 10 :: t) = ((takeChar lead s).1, (takeChar lead s).2 ++ 10 :: t) := by
  unfold takeChar
  cases tails? lead with
  | none => rfl
  | some n =>
    cases n with
    | zero => rfl
    | succ n =>
      cases s with
      | nil => simp only [List.nil_append, mayFollow_lineBreak, Bool.false_eq_true, if_false]
      | cons b s =>
        simp only [List.cons_append]
        split_ifs
        · exact takeTails_append_lineBreak _ _ _ _
        · rfl

/-- **A line break separates any bytes**, even where those before it end within a character. -/
theorem ofUtf8Lossy_append_lineBreak (s t : List UInt8) :
    ofUtf8Lossy (s ++ 10 :: t) = ofUtf8Lossy s ++ '\n' :: ofUtf8Lossy t := by
  -- the induction follows the reading, which takes up several bytes at once
  induction s using ofUtf8Lossy.induct with
  | case1 =>
    rw [List.nil_append, ofUtf8Lossy_cons, ofUtf8Lossy]
    rfl
  | case2 b s c rest h ih =>
    rw [List.cons_append, ofUtf8Lossy_cons, ofUtf8Lossy_cons, takeChar_append_lineBreak, h]
    rw [ih, List.cons_append]
  | case3 b s rest h ih =>
    rw [List.cons_append, ofUtf8Lossy_cons, ofUtf8Lossy_cons, takeChar_append_lineBreak, h]
    rw [ih, List.cons_append]

theorem ascii_mem_charBytes {a v : Nat} (ha : a < 128) (hv : v < 0x110000)
    (h : UInt8.ofNat a ∈ charBytes v) : v = a := by
  have hn : (UInt8.ofNat a).toNat = a := UInt8.toNat_ofNat_of_lt' (show _ < 256 by omega)
  have high (x : Nat) : UInt8.ofNat a ≠ tailByte x := by
    intro e
    have hx := congrArg UInt8.toNat e
    rw [toNat_tailByte, hn] at hx
    omega
  have lead {n : Nat} (h₁ : n ≠ a) (h₂ : n < 256) : UInt8.ofNat a ≠ UInt8.ofNat n := by
    intro e
    have hx := congrArg UInt8.toNat e
    rw [UInt8.toNat_ofNat_of_lt' h₂, hn] at hx
    omega
  by_contra hne
  unfold charBytes at h
  split_ifs at h with h₁ h₂ h₃
  · exact lead hne (by omega) (by simpa using h)
  all_goals
    simp only [List.mem_cons, high, or_false, List.not_mem_nil] at h
    exact lead (by omega) (by omega) h

theorem mem_of_mem_utf8 {c : Char} (hc : c.toNat < 128) {s : List Char}
    (h : UInt8.ofNat c.toNat ∈ utf8 s) : c ∈ s := by
  obtain ⟨d, hd, hb⟩ := List.mem_flatMap.1 h
  have hv : d.toNat < 0x110000 := by
    rcases d.valid with hv | hv
    · exact Nat.lt_trans hv (by decide)
    · exact hv.2
  have hn := ascii_mem_charBytes hc hv hb
  have hcd : d = c := by rw [← Char.ofNat_toNat d, hn, Char.ofNat_toNat]
  rwa [← hcd]

theorem ofNat_ne_lineBreak {n : Nat} (h : n ≠ 10) : Char.ofNat n ≠ '\n' := by
  intro e
  have hn := congrArg Char.toNat e
  by_cases hv : n.isValidChar
  · have hof : (Char.ofNat n).toNat = n := by
      rw [Char.ofNat, dif_pos hv]
      rfl
    rw [hof] at hn
    exact h hn
  · have hof : (Char.ofNat n).toNat = 0 := by
      rw [Char.ofNat, dif_neg hv]
      rfl
    rw [hof] at hn
    exact absurd hn (by decide)

/-- Bits that are too many for the line break stay too many when more are taken up. -/
theorem ne_lineBreak_of_takeTails {code n : Nat} {s rest : List UInt8} {c : Char}
    (hcode : 10 < code) (h : takeTails code n s = (some c, rest)) : c ≠ '\n' := by
  induction n generalizing code s with
  | zero =>
    simp only [takeTails, Prod.mk.injEq, Option.some.injEq] at h
    obtain ⟨rfl, -⟩ := h
    exact ofNat_ne_lineBreak (by omega)
  | succ n ih =>
    cases s with
    | nil => simp [takeTails] at h
    | cons b s =>
      simp only [takeTails] at h
      split_ifs at h
      · exact ih (by omega) h
      · simp at h

/-- The bits of a lead byte and of the byte that may follow it are too many for the line break:
overlong forms are not read. -/
theorem lineBreak_lt_of_mayFollow {lead b : UInt8} {n : Nat} (ht : tails? lead = some (n + 1))
    (hf : mayFollow lead b = true) : 10 < 64 * leadBits lead (n + 1) + b.toNat % 64 := by
  have hl := lead.toNat_lt
  simp only [tails?, UInt8.le_iff_toNat_le, UInt8.lt_iff_toNat_lt, UInt8.reduceToNat] at ht
  simp only [mayFollow, isTail, ← UInt8.toNat_inj, UInt8.le_iff_toNat_le, UInt8.reduceToNat] at hf
  -- one case for each length, and in it one for each bound on the second byte
  split_ifs at ht <;> simp only [Option.some.injEq, reduceCtorEq] at ht
  · obtain rfl : n = 0 := by omega
    simp only [leadBits]
    omega
  · obtain rfl : n = 1 := by omega
    simp only [leadBits]
    split_ifs at hf <;> simp only [Bool.and_eq_true, decide_eq_true_eq] at hf <;> omega
  · obtain rfl : n = 2 := by omega
    simp only [leadBits]
    split_ifs at hf <;> simp only [Bool.and_eq_true, decide_eq_true_eq] at hf <;> omega

/-- Only the byte of the line break reads as the line break. -/
theorem eq_lineBreak_of_takeChar {lead : UInt8} {s rest : List UInt8}
    (h : takeChar lead s = (some '\n', rest)) : lead = 10 := by
  unfold takeChar at h
  split at h
  · simp at h
  · by_contra hne
    simp only [Prod.mk.injEq, Option.some.injEq] at h
    refine ofNat_ne_lineBreak (fun e => hne ?_) h.1
    rwa [← UInt8.toNat_inj]
  · rename_i n ht
    split at h
    · simp at h
    · split_ifs at h with hf
      · exact absurd rfl (ne_lineBreak_of_takeTails (lineBreak_lt_of_mayFollow ht hf) h)
      · simp at h

theorem takeTails_suffix (code n : Nat) (s : List UInt8) : (takeTails code n s).2 <:+ s := by
  induction n generalizing code s with
  | zero => exact List.suffix_refl s
  | succ n ih =>
    cases s with
    | nil => exact List.suffix_refl []
    | cons b s =>
      simp only [takeTails]
      split_ifs
      · exact (ih _ s).trans (List.suffix_cons b s)
      · exact List.suffix_refl _

theorem takeChar_suffix (lead : UInt8) (s : List UInt8) : (takeChar lead s).2 <:+ s := by
  unfold takeChar
  split
  · exact List.suffix_refl s
  · exact List.suffix_refl s
  · split
    · exact List.suffix_refl []
    · split_ifs
      · exact (takeTails_suffix _ _ _).trans (List.suffix_cons _ _)
      · exact List.suffix_refl _

theorem lineBreak_mem_of_mem_ofUtf8Lossy {s : List UInt8} (h : '\n' ∈ ofUtf8Lossy s) :
    10 ∈ s := by
  induction s using ofUtf8Lossy.induct with
  | case1 => simp [ofUtf8Lossy] at h
  | case2 b s c rest ht ih =>
    rw [ofUtf8Lossy_cons, ht] at h
    rcases List.mem_cons.1 h with hc | h
    · rw [← show '\n' = c from hc] at ht
      rw [eq_lineBreak_of_takeChar ht]
      exact List.mem_cons_self
    · have hrest := takeChar_suffix b s
      rw [ht] at hrest
      exact List.mem_cons_of_mem b (hrest.subset (ih h))
  | case3 b s rest ht ih =>
    rw [ofUtf8Lossy_cons, ht] at h
    rcases List.mem_cons.1 h with hc | h
    · rw [Option.getD_none] at hc
      exact absurd hc (by decide)
    · have hrest := takeChar_suffix b s
      rw [ht] at hrest
      exact List.mem_cons_of_mem b (hrest.subset (ih h))

theorem ofUtf8Lossy_intercalate {lines : List (List UInt8)} (h : lines ≠ []) :
    ofUtf8Lossy ([10].intercalate lines) = ['\n'].intercalate (lines.map ofUtf8Lossy) := by
  induction lines with
  | nil => exact absurd rfl h
  | cons l lines ih =>
    cases lines with
    | nil => simp
    | cons m lines =>
      have hm : (m :: lines).map ofUtf8Lossy ≠ [] := by simp
      rw [List.map_cons, List.intercalate_cons_of_ne_nil (by simp),
        List.intercalate_cons_of_ne_nil hm, List.append_assoc, List.append_assoc,
        List.singleton_append, List.singleton_append, ofUtf8Lossy_append_lineBreak, ih (by simp)]

/-- **The lines of the text are the texts of the lines**, for any bytes. -/
theorem splitOn_ofUtf8Lossy (s : List UInt8) :
    (ofUtf8Lossy s).splitOn '\n' = (s.splitOn 10).map ofUtf8Lossy := by
  have hbreak : ∀ l ∈ (s.splitOn 10).map ofUtf8Lossy, '\n' ∉ l := by
    intro l hl hmem
    obtain ⟨m, hm, rfl⟩ := List.mem_map.1 hl
    have hsep := not_of_mem_splitOnP hm (lineBreak_mem_of_mem_ofUtf8Lossy hmem)
    simp at hsep
  calc (ofUtf8Lossy s).splitOn '\n'
      = (ofUtf8Lossy ([10].intercalate (s.splitOn 10))).splitOn '\n' := by
        rw [List.intercalate_splitOn]
    _ = (['\n'].intercalate ((s.splitOn 10).map ofUtf8Lossy)).splitOn '\n' := by
        rw [ofUtf8Lossy_intercalate (List.splitOn_ne_nil 10 s)]
    _ = (s.splitOn 10).map ofUtf8Lossy := List.splitOn_intercalate _ hbreak (by simp)

end JumpHost.Text

/-
**Reading well-formed texts.**

Every way of writing a character is read as that character, and a well-formed text is read to its
closing quotation mark whatever it means.  The two halves of a surrogate pair are read at once, so
reading a text does not follow its grammar piece by piece.

Main results:

* `JumpHost.Json.Piece.take_charText` — a character reads back from each of its spellings;
* `JumpHost.Json.quoted_textBody` — so do the characters of a text;
* `JumpHost.Json.quoted_isBody` — a well-formed text is read to its end.
-/

import JumpHost.Proofs.Json.Grammar

set_option autoImplicit false

namespace JumpHost.Json

/-! ### Code units -/

theorem hexValue?_of_isHexDigit {d : Nat} {c : Char} (h : IsHexDigit d c) :
    Text.hexValue? c = some d := by
  obtain ⟨hd, rfl | rfl⟩ := h
  · exact Text.hexValue?_hexDigit hd
  · have capitals : ∀ d : Fin 16, Text.hexValue? (Text.hexDigit d.1).toUpper = some d.1 := by decide
    exact capitals ⟨d, hd⟩

theorem unit?_of_unitText {n : Nat} {u : List Char} (h : UnitText n u) :
    ∃ a b c d, u = [a, b, c, d] ∧ unit? a b c d = some n := by
  obtain ⟨h₁, h₂, h₃, h₄⟩ := h
  refine ⟨_, _, _, _, rfl, ?_⟩
  simp only [unit?, Text.hexNatural?, Text.readHexDigits, hexValue?_of_isHexDigit h₁,
    hexValue?_of_isHexDigit h₂, hexValue?_of_isHexDigit h₃, hexValue?_of_isHexDigit h₄,
    Option.bind_some, List.cons_ne_nil, if_false]
  congr 1
  omega

namespace Piece

/-- A code unit that is no half of a pair is a character, and a second half alone is none. -/
theorem take_unitText {n : Nat} {u : List Char} (h : UnitText n u) (s : List Char) :
    take ('\\' :: 'u' :: u ++ s) =
      if isHigh n then takeLow n s
      else if isLow n then half s
      else char (Char.ofNat n) s := by
  obtain ⟨a, b, c, d, rfl, hn⟩ := unit?_of_unitText h
  simp [take, takeEscape, takeUnit, hn]

/-- Behind a first half, a code unit is the second half or is taken again. -/
theorem takeLow_unitText (high : Nat) {n : Nat} {u : List Char} (h : UnitText n u)
    (s : List Char) :
    takeLow high ('\\' :: 'u' :: u ++ s) =
      if isLow n then char (ofPair high n) s else half ('\\' :: 'u' :: u ++ s) := by
  obtain ⟨a, b, c, d, rfl, hn⟩ := unit?_of_unitText h
  simp [takeLow, hn]

theorem take_plain {c : Char} (h : IsPlain c) (s : List Char) : take (c :: s) = char c s := by
  obtain ⟨hcontrol, hquote, hsolidus⟩ := h
  unfold take
  split
  · simp_all
  · simp_all
  · simp_all
  · rename_i h
    cases h
    rw [if_neg (by omega)]

theorem escaped?_of_mem {letter c : Char} (h : (letter, c) ∈ shortEscapes) :
    letter ≠ 'u' ∧ escaped? letter = some c := by
  have all : ∀ e ∈ shortEscapes, e.1 ≠ 'u' ∧ escaped? e.1 = some e.2 := by decide
  exact all _ h

theorem take_short {letter c : Char} (h : (letter, c) ∈ shortEscapes) (s : List Char) :
    take ('\\' :: letter :: s) = char c s := by
  obtain ⟨hu, he⟩ := escaped?_of_mem h
  simp only [take]
  unfold takeEscape
  split <;> simp_all

theorem ofPair_halves {c : Char} (h : 0x10000 ≤ c.toNat) :
    ofPair (0xD800 + (c.toNat - 0x10000) / 0x400) (0xDC00 + (c.toNat - 0x10000) % 0x400) = c := by
  have whole : 0x10000 + 0x400 * (0xD800 + (c.toNat - 0x10000) / 0x400 - 0xD800) +
      (0xDC00 + (c.toNat - 0x10000) % 0x400 - 0xDC00) = c.toNat := by omega
  rw [ofPair, whole, Char.ofNat_toNat]

/-- **Every way of writing a character is read as that character.** -/
theorem take_charText {c : Char} {u : List Char} (h : CharText c u) (s : List Char) :
    take (u ++ s) = char c s := by
  cases h with
  | plain h => exact take_plain h s
  | short h => exact take_short h s
  | unit h =>
    -- No character is half of a pair.
    have valid : c.toNat < 0xD800 ∨ 0xDFFF < c.toNat ∧ c.toNat < 0x110000 := c.valid
    have hhigh : ¬ isHigh c.toNat = true := by
      simp only [isHigh, Bool.and_eq_true, decide_eq_true_eq]
      omega
    have hlow : ¬ isLow c.toNat = true := by
      simp only [isLow, Bool.and_eq_true, decide_eq_true_eq]
      omega
    rw [take_unitText h, if_neg hhigh, if_neg hlow, Char.ofNat_toNat]
  | @pair _ u v h high low =>
    have valid : c.toNat < 0xD800 ∨ 0xDFFF < c.toNat ∧ c.toNat < 0x110000 := c.valid
    have hhigh : isHigh (0xD800 + (c.toNat - 0x10000) / 0x400) = true := by
      simp only [isHigh, Bool.and_eq_true, decide_eq_true_eq]
      omega
    have hlow : isLow (0xDC00 + (c.toNat - 0x10000) % 0x400) = true := by
      simp only [isLow, Bool.and_eq_true, decide_eq_true_eq]
      omega
    rw [List.append_assoc, take_unitText high, if_pos hhigh, takeLow_unitText _ low, if_pos hlow,
      ofPair_halves h]

/-- Behind a first half, what continues a well-formed text is taken with it or left whole. -/
theorem takeLow_isBody (high : Nat) {b : List Char} (h : IsBody b) (s : List Char) :
    takeLow high (b ++ '"' :: s) = half (b ++ '"' :: s) ∨
      ∃ c b', IsBody b' ∧ b'.length < b.length ∧
        takeLow high (b ++ '"' :: s) = char c (b' ++ '"' :: s) := by
  cases h with
  | nil => exact .inl (by simp [takeLow])
  | @plain c b h hb =>
    refine .inl ?_
    unfold takeLow
    split <;> simp_all [IsPlain]
  | @short letter c b h hb =>
    -- An escape that is no code unit ends the pair before it.
    refine .inl ?_
    have hu := (escaped?_of_mem h).1
    unfold takeLow
    split <;> simp_all
  | @unit n u b h hb =>
    rw [List.append_assoc, takeLow_unitText high h]
    split
    · exact .inr ⟨_, b, hb, by simp only [List.length_append, List.length_cons]; omega, rfl⟩
    · exact .inl rfl

/-- The piece at the front of a well-formed text leaves a well-formed text. -/
theorem take_isBody {b : List Char} (h : IsBody b) (hne : b ≠ []) (s : List Char) :
    ∃ b', IsBody b' ∧ b'.length < b.length ∧
      ((∃ c, take (b ++ '"' :: s) = char c (b' ++ '"' :: s)) ∨
        take (b ++ '"' :: s) = half (b' ++ '"' :: s)) := by
  cases h with
  | nil => exact absurd rfl hne
  | @plain c b h hb => exact ⟨b, hb, by simp, .inl ⟨c, take_plain h _⟩⟩
  | @short letter c b h hb =>
    exact ⟨b, hb, by simp only [List.length_cons]; omega, .inl ⟨c, take_short h _⟩⟩
  | @unit n u b h hb =>
    have shorter : b.length < ('\\' :: 'u' :: u ++ b).length := by
      simp only [List.length_append, List.length_cons]
      omega
    rw [List.append_assoc, take_unitText h]
    split
    · -- A first half may take a second one with it.
      obtain hleft | ⟨c, b', hb', hlt, htaken⟩ := takeLow_isBody n hb s
      · exact ⟨b, hb, shorter, .inr hleft⟩
      · exact ⟨b', hb', Nat.lt_trans hlt shorter, .inl ⟨c, htaken⟩⟩
    · split
      · exact ⟨b, hb, shorter, .inr rfl⟩
      · exact ⟨b, hb, shorter, .inl ⟨_, rfl⟩⟩

end Piece

/-! ### Texts -/

theorem quoted_quote (s : List Char) : quoted ('"' :: s) = (.text (some []), s) := by
  rw [quoted]
  rfl

/-- A text is read past the piece at its front. -/
theorem quoted_of_char {s rest : List Char} {c : Char} (h : Piece.take s = .char c rest) :
    quoted s = (quoted rest).map (.pushChar c) id := by
  cases s with
  | nil => cases h
  | cons d s =>
    rw [quoted]
    split <;> rename_i h' <;> rw [h] at h' <;> cases h'
    rfl

theorem quoted_of_half {s rest : List Char} (h : Piece.take s = .half rest) :
    quoted s = (quoted rest).map .pushHalf id := by
  cases s with
  | nil => cases h
  | cons d s =>
    rw [quoted]
    split <;> rename_i h' <;> rw [h] at h' <;> cases h'
    rfl

theorem quoted_textBody {s b : List Char} (h : TextBody s b) (rest : List Char) :
    quoted (b ++ '"' :: rest) = (.text (some s), rest) := by
  induction h with
  | nil => exact quoted_quote rest
  | cons h _ ih =>
    rw [List.append_assoc, quoted_of_char (Piece.take_charText h _), ih]
    rfl

theorem quoted_isBody {b : List Char} (h : IsBody b) (rest : List Char) :
    ∃ x, quoted (b ++ '"' :: rest) = (.text x, rest) := by
  -- The two halves of a pair are taken at once, so the induction is on the length.
  induction hn : b.length using Nat.strongRecOn generalizing b with
  | ind n ih =>
    by_cases hb : b = []
    · subst hb
      exact ⟨_, quoted_quote rest⟩
    · obtain ⟨b', hb', hlt, ⟨c, htake⟩ | htake⟩ := Piece.take_isBody h hb rest
      · obtain ⟨x, hx⟩ := ih _ (hn ▸ hlt) hb' rfl
        exact ⟨x.map (c :: ·), by rw [quoted_of_char htake, hx]; rfl⟩
      · obtain ⟨x, hx⟩ := ih _ (hn ▸ hlt) hb' rfl
        exact ⟨none, by rw [quoted_of_half htake, hx]; rfl⟩

end JumpHost.Json

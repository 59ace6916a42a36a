/-
**The tokens of well-formed texts.**

A text that the grammar describes is read into the token it was meant to be, and what follows it is
read as if it stood alone.

Main definitions:

* `JumpHost.Json.Token.isScalar` — a token that is a value by itself.

Main results:

* `JumpHost.Json.tokens_isBlank_append` — white space is no token;
* `JumpHost.Json.tokens_textBody` — a text is read as the characters it is a way of writing;
* `JumpHost.Json.tokens_isBody`, `JumpHost.Json.tokens_isNumber` — well-formed texts and numbers
  are read as texts and numbers;
* `JumpHost.Json.tokens_numeral` — the digits of a number of 64 bits are read as that number;
* `JumpHost.Json.tokens_value` — a value is a token of its own, or it is an array or an object.
-/

import JumpHost.Proofs.Json.Numeral
import JumpHost.Proofs.Json.Quoted

set_option autoImplicit false

namespace JumpHost.Json

/-! ### One token at the front -/

theorem tokens_isBlank_append {w : List Char} (h : IsBlank w) (s : List Char) :
    tokens (w ++ s) = tokens s := by
  induction w with
  | nil => rfl
  | cons c w ih =>
    rw [List.cons_append, tokens_cons_of_isSpace (h c List.mem_cons_self),
      ih fun d hd => h d (List.mem_cons_of_mem c hd)]

theorem tokens_nil : tokens [] = [] := by rw [tokens]

theorem tokens_isBlank {w : List Char} (h : IsBlank w) : tokens w = [] := by
  simpa [tokens_nil] using tokens_isBlank_append h []

theorem tokens_of_lexeme {c : Char} {s rest : List Char} {t : Token} (hc : isSpace c = false)
    (h : lexeme c s = (t, rest)) (ht : t.isLast = false) : tokens (c :: s) = t :: tokens rest := by
  rw [tokens, if_neg (by simp [hc])]
  split
  rename_i h'
  obtain ⟨rfl, rfl⟩ := Prod.mk.inj (h.symm.trans h')
  simp [ht]

theorem tokens_mark {c : Char} {t : Token} (hc : isSpace c = false) (h : mark? c = some t)
    (ht : t.isLast = false) (s : List Char) : tokens (c :: s) = t :: tokens s :=
  tokens_of_lexeme hc (by simp [lexeme, h]) ht

@[simp] theorem tokens_openObject (s : List Char) : tokens ('{' :: s) = .openObject :: tokens s :=
  tokens_mark rfl rfl rfl s

@[simp] theorem tokens_closeObject (s : List Char) :
    tokens ('}' :: s) = .closeObject :: tokens s :=
  tokens_mark rfl rfl rfl s

@[simp] theorem tokens_openArray (s : List Char) : tokens ('[' :: s) = .openArray :: tokens s :=
  tokens_mark rfl rfl rfl s

@[simp] theorem tokens_closeArray (s : List Char) : tokens (']' :: s) = .closeArray :: tokens s :=
  tokens_mark rfl rfl rfl s

@[simp] theorem tokens_comma (s : List Char) : tokens (',' :: s) = .comma :: tokens s :=
  tokens_mark rfl rfl rfl s

@[simp] theorem tokens_colon (s : List Char) : tokens (':' :: s) = .colon :: tokens s :=
  tokens_mark rfl rfl rfl s

theorem tokens_nullWord (s : List Char) : tokens (nullWord ++ s) = .null :: tokens s :=
  tokens_of_lexeme rfl (by simp [lexeme, mark?, Text.digitValue?, wordAt, word]) rfl

theorem tokens_boolWord (b : Bool) (s : List Char) :
    tokens (boolWord b ++ s) = .bool b :: tokens s := by
  cases b <;>
    exact tokens_of_lexeme rfl (by simp [lexeme, mark?, Text.digitValue?, wordAt, word]) rfl

/-! ### Texts -/

theorem inQuotes_append (b s : List Char) : inQuotes b ++ s = '"' :: (b ++ '"' :: s) := by
  simp [inQuotes]

/-- **A text is read as the characters it is a way of writing.** -/
theorem tokens_textBody {s b : List Char} (h : TextBody s b) (rest : List Char) :
    tokens (inQuotes b ++ rest) = .text (some s) :: tokens rest := by
  rw [inQuotes_append]
  exact tokens_of_lexeme rfl (by simp [lexeme, mark?, quoted_textBody h]) rfl

theorem tokens_isBody {b : List Char} (h : IsBody b) (rest : List Char) :
    ∃ x, tokens (inQuotes b ++ rest) = .text x :: tokens rest := by
  obtain ⟨x, hx⟩ := quoted_isBody h rest
  rw [inQuotes_append]
  exact ⟨x, tokens_of_lexeme rfl (by simp [lexeme, mark?, hx]) rfl⟩

/-! ### Numbers -/

theorem tokens_unsigned {s t rest : List Char} {x : Option Number} (hs : IsDigits s)
    (h : Numeral.readUnsigned false (s ++ t) = (.number x, rest)) :
    tokens (s ++ t) = .number x :: tokens rest := by
  obtain ⟨c, s, rfl⟩ := List.exists_cons_of_ne_nil hs.1
  obtain ⟨d, hd, rfl⟩ := hs.2 c List.mem_cons_self
  obtain ⟨-, hminus, hquote, hspace, hmark⟩ := Numeral.digit_ne hd
  refine tokens_of_lexeme hspace ?_ rfl
  rw [← h]
  simp [lexeme, hmark, hquote, hminus, Text.digitValue?_digit hd]

theorem tokens_minus {s rest : List Char} {x : Option Number}
    (h : Numeral.readUnsigned true s = (.number x, rest)) :
    tokens ('-' :: s) = .number x :: tokens rest :=
  tokens_of_lexeme rfl (by simp [lexeme, mark?, h]) rfl

/-- **A well-formed number is read as a number.** -/
theorem tokens_isNumber {s rest : List Char} (h : IsNumber s) (hrest : Ends rest) :
    ∃ x, tokens (s ++ rest) = .number x :: tokens rest := by
  obtain ⟨hsign, hwhole, hzero, hf, he⟩ := h
  rename_i sign whole f e
  have behind : NoDigit (f ++ (e ++ rest)) := by
    intro c hc
    cases hf with
    | none => exact (Numeral.head_exponent_ne he hrest hc).1
    | point =>
      obtain rfl : _ = c := by simpa using hc
      decide
  have read : ∀ isNegative, ∃ x,
      Numeral.readUnsigned isNegative (whole ++ (f ++ (e ++ rest))) = (.number x, rest) := by
    intro isNegative
    obtain ⟨ds, -, -, hds⟩ := Numeral.readUnsigned_isDigits isNegative hwhole hzero behind
    rw [hds]
    exact Numeral.readFraction_isFraction _ hf he hrest
  rcases hsign with rfl | rfl
  · obtain ⟨x, hx⟩ := read false
    exact ⟨x, by simpa using tokens_unsigned hwhole hx⟩
  · obtain ⟨x, hx⟩ := read true
    exact ⟨x, by simpa using tokens_minus hx⟩

/-- **The digits of a number of 64 bits are read as that number.** -/
theorem tokens_numeral {n : Nat} {rest : List Char} (h : n ≤ Numeral.significandLimit)
    (hrest : Ends rest) :
    tokens (Text.numeral n ++ rest) = .number (some (.natural n)) :: tokens rest := by
  obtain ⟨ds, hds, hlt, hread⟩ := Numeral.readUnsigned_isDigits false (isDigits_numeral n)
    numeral_of_head?_zero hrest.noDigit
  have hpoint : ∀ c ∈ rest.head?, c ≠ '.' := fun c hc => (hrest.head_ne hc).2.1
  rw [Numeral.readFraction_of_head_ne _ hpoint, Numeral.readExponent_of_ends _ hrest,
    Numeral.value_of_numeral h hds hlt] at hread
  exact tokens_unsigned (isDigits_numeral n) hread

/-! ### Values -/

/-- A token that is a value by itself. -/
def Token.isScalar : Token → Bool
  | null => true
  | bool _ => true
  | number _ => true
  | text _ => true
  | _ => false

/-- A value is a token of its own, or it is an array or an object. -/
theorem tokens_value {v rest : List Char} (h : Derives .value v) (hrest : Ends rest) :
    (∃ t, t.isScalar = true ∧ tokens (v ++ rest) = t :: tokens rest) ∨
      (∃ s, v = '[' :: s) ∨
      ∃ s, (IsBlank s ∨ Derives .members s) ∧ v = '{' :: s ++ ['}'] := by
  cases h with
  | null => exact .inl ⟨_, rfl, tokens_nullWord rest⟩
  | bool b => exact .inl ⟨_, rfl, tokens_boolWord b rest⟩
  | number h =>
    obtain ⟨x, hx⟩ := tokens_isNumber h hrest
    exact .inl ⟨_, rfl, hx⟩
  | text h =>
    obtain ⟨x, hx⟩ := tokens_isBody h rest
    exact .inl ⟨_, rfl, hx⟩
  | emptyArray => exact .inr (.inl ⟨_, rfl⟩)
  | array => exact .inr (.inl ⟨_, rfl⟩)
  | emptyObject h => exact .inr (.inr ⟨_, .inl h, rfl⟩)
  | object h => exact .inr (.inr ⟨_, .inr h, rfl⟩)

end JumpHost.Json

/-
**Documents as lists of tokens.**

Four characters of white space separate tokens and mean nothing else.  Of every other character it
is plain what kind of token it begins, so a document is read into its tokens from the front, up to
the first place where no token stands.

Main definitions:

* `JumpHost.Json.lexeme` — the token at the front of a text;
* `JumpHost.Json.tokens` — the tokens of a text.

Main statements:

* `JumpHost.Json.length_lexeme_le` — reading a token never lengthens the rest;
* `JumpHost.Json.tokens_cons_of_isSpace` — white space before a token means nothing.
-/

import JumpHost.Json.Numeral
import JumpHost.Json.Quoted

set_option autoImplicit false

namespace JumpHost.Json

/-- The white space of documents. -/
def isSpace (c : Char) : Bool := c = ' ' || c = '\n' || c = '\t' || c = '\r'

/-- Reads the letters that must follow the first one of a word. -/
def word (token : Token) (shape : Shape) : List Char → List Char → Token × List Char
  | [], s => (token, s)
  | _ :: _, [] => (.broken shape .ended .ended, [])
  | w :: letters, c :: s =>
    if c = w then word token shape letters s else (.broken shape .malformed .malformed, s)

/-- The token that is a single character. -/
def mark? (c : Char) : Option Token :=
  match c with
  | '{' => some .openObject
  | '}' => some .closeObject
  | '[' => some .openArray
  | ']' => some .closeArray
  | ',' => some .comma
  | ':' => some .colon
  | _ => none

/-- Reads the word that begins with `c`, or nothing. -/
def wordAt (c : Char) (s : List Char) : Token × List Char :=
  match c with
  | 'n' => word .null .null ['u', 'l', 'l'] s
  | 't' => word (.bool true) .bool ['r', 'u', 'e'] s
  | 'f' => word (.bool false) .bool ['a', 'l', 's', 'e'] s
  | _ => (.stray, s)

/-- Reads the token that begins with `c`. -/
def lexeme (c : Char) (s : List Char) : Token × List Char :=
  match mark? c with
  | some token => (token, s)
  | none =>
    if c = '"' then quoted s
    else if c = '-' then Numeral.readUnsigned true s
    else if (Text.digitValue? c).isSome then Numeral.readUnsigned false (c :: s)
    else wordAt c s

theorem length_word_le (token : Token) (shape : Shape) (letters s : List Char) :
    (word token shape letters s).2.length ≤ s.length := by
  induction letters generalizing s with
  | nil => simp [word]
  | cons w letters ih =>
    cases s with
    | nil => simp [word]
    | cons c s =>
      simp only [word]
      split
      · exact Nat.le_succ_of_le (ih s)
      · simp

theorem length_wordAt_le (c : Char) (s : List Char) : (wordAt c s).2.length ≤ s.length := by
  unfold wordAt
  split
  · exact length_word_le _ _ _ s
  · exact length_word_le _ _ _ s
  · exact length_word_le _ _ _ s
  · exact Nat.le_refl _

theorem length_lexeme_le (c : Char) (s : List Char) : (lexeme c s).2.length ≤ s.length := by
  unfold lexeme
  split
  · exact Nat.le_refl _
  · split
    · exact length_quoted_le s
    · split
      · exact Nat.le_trans (Numeral.length_readUnsigned_le _ _) (Numeral.length_digits_le s)
      · split
        · rename_i h
          obtain ⟨d, hd⟩ := Option.isSome_iff_exists.1 h
          exact Nat.le_trans (Numeral.length_readUnsigned_le _ _)
            (Numeral.length_digits_cons_le s hd)
        · exact length_wordAt_le c s

/-- The tokens of a text, up to the first that is none. -/
def tokens : List Char → List Token
  | [] => []
  | c :: s =>
    if isSpace c then tokens s
    else
      match _h : lexeme c s with
      | (token, rest) => if token.isLast then [token] else token :: tokens rest
termination_by s => s.length
decreasing_by
  · simp
  · have shorter := length_lexeme_le c s
    simp only [_h] at shorter
    simp only [List.length_cons]
    omega

/-- White space before a token means nothing. -/
theorem tokens_cons_of_isSpace {c : Char} (h : isSpace c) (s : List Char) :
    tokens (c :: s) = tokens s := by
  rw [tokens, if_pos h]

end JumpHost.Json

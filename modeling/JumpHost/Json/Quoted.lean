/-
**The texts of a JSON document.**

A text stands between quotation marks.  A reverse solidus escapes one character, and `\u` with four
hexadecimal digits stands for a code unit; a character beyond the first plane is written as the two
halves of a surrogate pair.  A half alone denotes no character, which spoils a text that is read
and does not matter in one that is skipped.

Main definitions:

* `JumpHost.Json.Piece`, `JumpHost.Json.Piece.take` — the character or the escape at the front;
* `JumpHost.Json.quoted` — the text up to its closing quotation mark.

Main statements:

* `JumpHost.Json.length_quoted_le` — reading never lengthens the rest.
-/

import JumpHost.Json.Token
import JumpHost.Text.Hex
import JumpHost.Text.Utf8

set_option autoImplicit false

namespace JumpHost.Json

/-! ### Code units -/

/-- The code unit of four hexadecimal digits. -/
def unit? (a b c d : Char) : Option Nat := Text.hexNatural? [a, b, c, d]

/-- The first half of a surrogate pair. -/
def isHigh (unit : Nat) : Bool := 0xD800 ≤ unit && unit ≤ 0xDBFF

/-- The second half of a surrogate pair. -/
def isLow (unit : Nat) : Bool := 0xDC00 ≤ unit && unit ≤ 0xDFFF

/-- The character of a surrogate pair. -/
def ofPair (high low : Nat) : Char :=
  Char.ofNat (0x10000 + 0x400 * (high - 0xD800) + (low - 0xDC00))

/-! ### Pieces -/

/-- What stands at the front of a text, and what follows it. -/
inductive Piece where
  /-- The closing quotation mark. -/
  | close (rest : List Char)
  | char (c : Char) (rest : List Char)
  /-- Half of a surrogate pair. -/
  | half (rest : List Char)
  | broken (fault : Fault)

namespace Piece

/-- The fault of code-unit digits that are missing or none: a code unit takes four bytes. -/
def unitFault (s : List Char) : Fault := if (Text.utf8 s).length < 4 then .ended else .malformed

/-- Takes the second half of a surrogate pair.  Whatever else stands there is taken again, as a
piece of its own, unless the text ends before that can be told. -/
def takeLow (high : Nat) : List Char → Piece
  | [] => broken .ended
  | ['\\'] => broken .ended
  | '\\' :: 'u' :: s =>
    match s with
    | a :: b :: c :: d :: rest =>
      match unit? a b c d with
      | some low => if isLow low then char (ofPair high low) rest else half ('\\' :: 'u' :: s)
      | none => broken (unitFault s)
    | _ => broken (unitFault s)
  | s => half s

/-- Takes a code unit behind `\u`. -/
def takeUnit : List Char → Piece
  | a :: b :: c :: d :: rest =>
    match unit? a b c d with
    | some unit =>
      if isHigh unit then takeLow unit rest
      else if isLow unit then half rest
      else char (Char.ofNat unit) rest
    | none => broken (unitFault (a :: b :: c :: d :: rest))
  | s => broken (unitFault s)

/-- The character that a reverse solidus and `c` stand for. -/
def escaped? (c : Char) : Option Char :=
  if c = '"' ∨ c = '\\' ∨ c = '/' then some c
  else if c = 'b' then some '\x08'
  else if c = 'f' then some '\x0c'
  else if c = 'n' then some '\n'
  else if c = 'r' then some '\r'
  else if c = 't' then some '\t'
  else none

/-- Takes an escape behind its reverse solidus. -/
def takeEscape : List Char → Piece
  | [] => broken .ended
  | 'u' :: rest => takeUnit rest
  | c :: rest =>
    match escaped? c with
    | some d => char d rest
    | none => broken .malformed

/-- Takes the piece at the front of a text.  A control character must be escaped. -/
def take : List Char → Piece
  | [] => broken .ended
  | '"' :: rest => close rest
  | '\\' :: rest => takeEscape rest
  | c :: rest => if c.toNat < 32 then broken .malformed else char c rest

/-- What follows a piece; nothing follows a broken one. -/
def rest : Piece → List Char
  | close rest => rest
  | char _ rest => rest
  | half rest => rest
  | broken _ => []

theorem length_takeLow_le (high : Nat) (s : List Char) :
    (takeLow high s).rest.length ≤ s.length := by
  unfold takeLow
  split
  · simp [rest]
  · simp [rest]
  · split
    · split
      · split
        · simp only [rest, List.length_cons]
          omega
        · simp [rest]
      · simp [rest]
    · simp [rest]
  · simp [rest]

theorem length_takeUnit_le (s : List Char) : (takeUnit s).rest.length ≤ s.length := by
  unfold takeUnit
  split
  · split
    · split
      · refine Nat.le_trans (length_takeLow_le _ _) ?_
        simp only [List.length_cons]
        omega
      · split <;> simp [rest] <;> omega
    · simp [rest]
  · simp [rest]

theorem length_take_lt (c : Char) (s : List Char) :
    (take (c :: s)).rest.length < (c :: s).length := by
  simp only [List.length_cons, Nat.lt_succ_iff]
  unfold take
  split
  · simp_all
  · simp_all [rest]
  · rename_i h
    cases h
    unfold takeEscape
    split
    · simp [rest]
    · exact Nat.le_succ_of_le (length_takeUnit_le _)
    · split <;> simp [rest]
  · rename_i h
    cases h
    split <;> simp [rest]

end Piece

/-! ### Whole texts -/

/-- A text with a character put before it. -/
def Token.pushChar (c : Char) : Token → Token
  | .text s => .text (s.map (c :: ·))
  | t => t

/-- A text with half of a surrogate pair put before it. -/
def Token.pushHalf : Token → Token
  | .text _ => .text none
  | .broken .text _ skip => .broken .text .malformed skip
  | t => t

/-- Reads a text behind its opening quotation mark. -/
def quoted (s : List Char) : Token × List Char :=
  match s with
  | [] => (.broken .text .ended .ended, [])
  | c :: s =>
    match _h : Piece.take (c :: s) with
    | .close rest => (.text (some []), rest)
    | .char d rest => (quoted rest).map (.pushChar d) id
    | .half rest => (quoted rest).map .pushHalf id
    | .broken fault => (.broken .text fault fault, [])
termination_by s.length
decreasing_by
  all_goals
    have shorter := Piece.length_take_lt c s
    simpa [_h, Piece.rest] using shorter

theorem length_quoted_le (s : List Char) : (quoted s).2.length ≤ s.length := by
  induction hn : s.length using Nat.strongRecOn generalizing s with
  | ind n ih =>
    subst hn
    cases s with
    | nil => simp [quoted]
    | cons c s =>
      have shorter := Piece.length_take_lt c s
      rw [quoted]
      split <;> rename_i h <;> rw [h] at shorter <;> simp only [Piece.rest] at shorter
      · exact Nat.le_of_lt shorter
      · exact Nat.le_trans (ih _ shorter _ rfl) (Nat.le_of_lt shorter)
      · exact Nat.le_trans (ih _ shorter _ rfl) (Nat.le_of_lt shorter)
      · simp

end JumpHost.Json

/-
**UTF-8.**

Files hold bytes and everything that is read from them is text.  Two readings are needed: a strict
one, which refuses bytes that are no UTF-8, and a lossy one, which puts a replacement character in
place of every maximal ill-formed piece and so reads any bytes at all.  Both take one character at
a time from the front.

Main definitions:

* `JumpHost.Text.utf8` — the bytes of a text;
* `JumpHost.Text.takeChar` — the first character of some bytes, or nothing if they begin with an
  ill-formed piece, and the bytes behind it;
* `JumpHost.Text.ofUtf8?` — the text of well-formed bytes;
* `JumpHost.Text.ofUtf8Lossy` — the text of any bytes.

Main statements:

* `JumpHost.Text.utf8_append` — the bytes of two texts in a row;
* `JumpHost.Text.length_takeChar_le` — taking a character never lengthens the rest.
-/

set_option autoImplicit false

namespace JumpHost.Text

/-- The bytes of a text in UTF-8. -/
def utf8 (s : List Char) : List UInt8 := s.flatMap String.utf8EncodeChar

@[simp] theorem utf8_nil : utf8 [] = [] := rfl

@[simp] theorem utf8_append (s t : List Char) : utf8 (s ++ t) = utf8 s ++ utf8 t := by
  simp [utf8]

/-- The bytes of a string in UTF-8. -/
def bytesOf (s : String) : List UInt8 := utf8 s.toList

/-- A byte that can only continue a character. -/
def isTail (b : UInt8) : Bool := 0x80 ≤ b && b ≤ 0xBF

/-- The bytes that may follow a lead byte.  The bounds leave out overlong forms, surrogates and
numbers beyond the last character. -/
def mayFollow (lead b : UInt8) : Bool :=
  if lead = 0xE0 then 0xA0 ≤ b && b ≤ 0xBF
  else if lead = 0xED then 0x80 ≤ b && b ≤ 0x9F
  else if lead = 0xF0 then 0x90 ≤ b && b ≤ 0xBF
  else if lead = 0xF4 then 0x80 ≤ b && b ≤ 0x8F
  else isTail b

/-- The number of bytes that must follow a lead byte, if it is one. -/
def tails? (lead : UInt8) : Option Nat :=
  if lead < 0x80 then some 0
  else if 0xC2 ≤ lead ∧ lead ≤ 0xDF then some 1
  else if 0xE0 ≤ lead ∧ lead ≤ 0xEF then some 2
  else if 0xF0 ≤ lead ∧ lead ≤ 0xF4 then some 3
  else none

/-- Takes the tail bytes of a character whose bits so far are `code`.  An ill-formed piece ends
before the first byte that cannot continue it. -/
def takeTails (code : Nat) : Nat → List UInt8 → Option Char × List UInt8
  | 0, s => (some (Char.ofNat code), s)
  | _ + 1, [] => (none, [])
  | n + 1, b :: s => if isTail b then takeTails (64 * code + b.toNat % 64) n s else (none, b :: s)

/-- The bits that a lead byte contributes when `n` tail bytes follow it. -/
def leadBits (lead : UInt8) : Nat → Nat
  | 0 => lead.toNat
  | 1 => lead.toNat % 32
  | 2 => lead.toNat % 16
  | _ => lead.toNat % 8

/-- The character that begins with `lead`, or nothing if the bytes begin with an ill-formed piece,
and the bytes behind the character or the piece. -/
def takeChar (lead : UInt8) (s : List UInt8) : Option Char × List UInt8 :=
  match tails? lead with
  | none => (none, s)
  | some 0 => (some (Char.ofNat lead.toNat), s)
  | some (n + 1) =>
    match s with
    | [] => (none, [])
    | b :: rest =>
      if mayFollow lead b then takeTails (64 * leadBits lead (n + 1) + b.toNat % 64) n rest
      else (none, s)

theorem length_takeTails_le (code n : Nat) (s : List UInt8) :
    (takeTails code n s).2.length ≤ s.length := by
  induction n generalizing code s with
  | zero => simp [takeTails]
  | succ n ih =>
    cases s with
    | nil => simp [takeTails]
    | cons b s =>
      simp only [takeTails]
      split
      · exact Nat.le_succ_of_le (ih _ s)
      · simp

theorem length_takeChar_le (lead : UInt8) (s : List UInt8) :
    (takeChar lead s).2.length ≤ s.length := by
  unfold takeChar
  split
  · simp
  · simp
  · split
    · simp
    · split
      · exact Nat.le_succ_of_le (length_takeTails_le _ _ _)
      · simp

/-- The text of well-formed bytes. -/
def ofUtf8? : List UInt8 → Option (List Char)
  | [] => some []
  | b :: s =>
    match _h : takeChar b s with
    | (some c, rest) => (ofUtf8? rest).map (c :: ·)
    | (none, _) => none
termination_by s => s.length
decreasing_by
  have shorter := length_takeChar_le b s
  simp only [_h] at shorter
  simp only [List.length_cons]
  omega

/-- The text of any bytes: every maximal ill-formed piece reads as the replacement character. -/
def ofUtf8Lossy : List UInt8 → List Char
  | [] => []
  | b :: s =>
    match _h : takeChar b s with
    | (some c, rest) => c :: ofUtf8Lossy rest
    | (none, rest) => '\uFFFD' :: ofUtf8Lossy rest
termination_by s => s.length
decreasing_by
  all_goals
    have shorter := length_takeChar_le b s
    simp only [_h] at shorter
    simp only [List.length_cons]
    omega

end JumpHost.Text

/-
**Bytes that are no text.**

Where bytes must be UTF-8, a refusal tells where they stop being so: after how many good bytes, and
whether the rest of a character is missing or a piece of a few bytes is ill-formed.

Main definitions:

* `JumpHost.Text.Malformed`, `JumpHost.Text.Malformed.message` — where bytes stop being text;
* `JumpHost.Text.decodeUtf8` — the text of some bytes, or where they stop being one.

Main statements:

* `JumpHost.Text.decodeUtf8_eq_ok_iff` — it accepts what the strict reading accepts.
-/

import JumpHost.Text.Utf8

set_option autoImplicit false

namespace JumpHost.Text

/-- Where bytes stop being text. -/
inductive Malformed where
  /-- The bytes end within the character that starts at a place. -/
  | unfinished (place : Nat)
  /-- A piece of some bytes at a place is ill-formed. -/
  | piece (length place : Nat)
  deriving DecidableEq

/-- The wording of where bytes stop being text. -/
def Malformed.message : Malformed → String
  | unfinished place => s!"incomplete utf-8 byte sequence from index {place}"
  | piece length place => s!"invalid utf-8 sequence of {length} bytes from index {place}"

/-- What is wrong with an ill-formed piece at a place that begins with `lead`, where `s` is behind
the lead and `rest` behind the piece. -/
def Malformed.ofPiece (place : Nat) (lead : UInt8) (s rest : List UInt8) : Malformed :=
  if rest = [] ∧ (tails? lead).isSome then unfinished place
  else piece (1 + s.length - rest.length) place

/-- The text of bytes of which the first is at a place. -/
def decodeUtf8From (place : Nat) : List UInt8 → Except Malformed (List Char)
  | [] => .ok []
  | b :: s =>
    match _h : takeChar b s with
    | (some c, rest) => (decodeUtf8From (place + 1 + s.length - rest.length) rest).map (c :: ·)
    | (none, rest) => .error (.ofPiece place b s rest)
termination_by s => s.length
decreasing_by
  have shorter := length_takeChar_le b s
  simp only [_h] at shorter
  simp only [List.length_cons]
  omega

/-- The text of some bytes, or where they stop being one. -/
def decodeUtf8 (s : List UInt8) : Except Malformed (List Char) := decodeUtf8From 0 s

theorem toOption_decodeUtf8From (place : Nat) (s : List UInt8) :
    (decodeUtf8From place s).toOption = ofUtf8? s := by
  fun_induction decodeUtf8From place s with
  | case1 => simp [ofUtf8?, Except.toOption]
  | case2 place b s c rest h ih =>
    unfold ofUtf8?
    rw [h]
    simp only [← ih]
    cases decodeUtf8From (place + 1 + s.length - rest.length) rest <;> rfl
  | case3 place b s rest h =>
    unfold ofUtf8?
    rw [h]
    rfl

/-- It accepts what the strict reading accepts. -/
theorem decodeUtf8_eq_ok_iff {s : List UInt8} {text : List Char} :
    decodeUtf8 s = .ok text ↔ ofUtf8? s = some text := by
  rw [← toOption_decodeUtf8From 0 s]
  unfold decodeUtf8
  cases decodeUtf8From 0 s <;> simp [Except.toOption]

end JumpHost.Text

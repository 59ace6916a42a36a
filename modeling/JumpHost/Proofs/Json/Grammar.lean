/-
**The grammar of JSON documents.**

What a document is, said without a reader: white space, texts with their escapes, numbers, and
values nested to any depth.  A text is described twice.  As a part of a value it only has to be
well formed, and half of a surrogate pair may stand in it alone; where it means something, it is a
way of writing given characters, each of them plainly, by a short escape, or by code units.

Main definitions:

* `JumpHost.Json.CharText`, `JumpHost.Json.TextBody` — the ways of writing a character, and given
  characters;
* `JumpHost.Json.IsBody`, `JumpHost.Json.IsNumber` — well-formed texts and numbers;
* `JumpHost.Json.Derives` — the values, and the lists of elements and of members;
* `JumpHost.Json.Separated` — pieces with commas between them;
* `JumpHost.Json.Member`, `JumpHost.Json.IsObject`, `JumpHost.Json.IsArray` — documents by their
  members and by their values.

Main results:

* `JumpHost.Json.TextBody.isBody` — a way of writing characters is a well-formed text;
* `JumpHost.Json.isNumber_numeral` — the digits of a natural number are a number.
-/

import JumpHost.Json.Document
import JumpHost.Proofs.Text.Pieces

set_option autoImplicit false

namespace JumpHost.Json

/-! ### White space -/

/-- White space only, or nothing. -/
def IsBlank (s : List Char) : Prop := ∀ c ∈ s, isSpace c = true

instance (s : List Char) : Decidable (IsBlank s) :=
  List.decidableBAll (fun c => isSpace c = true) s

/-! ### Texts -/

/-- The character is a hexadecimal digit of the given value, as a small or as a capital letter. -/
def IsHexDigit (d : Nat) (c : Char) : Prop :=
  d < 16 ∧ (c = Text.hexDigit d ∨ c = (Text.hexDigit d).toUpper)

instance (d : Nat) (c : Char) : Decidable (IsHexDigit d c) := instDecidableAnd

/-- Four hexadecimal digits of the given value. -/
inductive UnitText : Nat → List Char → Prop
  | digits {d₁ d₂ d₃ d₄ : Nat} {c₁ c₂ c₃ c₄ : Char} (h₁ : IsHexDigit d₁ c₁)
      (h₂ : IsHexDigit d₂ c₂) (h₃ : IsHexDigit d₃ c₃) (h₄ : IsHexDigit d₄ c₄) :
      UnitText (((d₁ * 16 + d₂) * 16 + d₃) * 16 + d₄) [c₁, c₂, c₃, c₄]

/-- The letters that may stand behind a reverse solidus, and what they stand for. -/
def shortEscapes : List (Char × Char) :=
  [('"', '"'), ('\\', '\\'), ('/', '/'), ('b', '\x08'), ('f', '\x0c'), ('n', '\n'), ('r', '\r'),
    ('t', '\t')]

/-- A character that may stand for itself. -/
def IsPlain (c : Char) : Prop := 32 ≤ c.toNat ∧ c ≠ '"' ∧ c ≠ '\\'

instance (c : Char) : Decidable (IsPlain c) := instDecidableAnd

/-- A text of which every character may stand for itself. -/
def IsPlainText (s : List Char) : Prop := ∀ c ∈ s, IsPlain c

instance (s : List Char) : Decidable (IsPlainText s) := List.decidableBAll IsPlain s

/-- The ways of writing a character. -/
inductive CharText : Char → List Char → Prop
  | plain {c : Char} (h : IsPlain c) : CharText c [c]
  | short {letter c : Char} (h : (letter, c) ∈ shortEscapes) : CharText c ['\\', letter]
  | unit {c : Char} {u : List Char} (h : UnitText c.toNat u) : CharText c ('\\' :: 'u' :: u)
  /-- The two halves of a surrogate pair, for a character beyond the first plane. -/
  | pair {c : Char} {u v : List Char} (h : 0x10000 ≤ c.toNat)
      (high : UnitText (0xD800 + (c.toNat - 0x10000) / 0x400) u)
      (low : UnitText (0xDC00 + (c.toNat - 0x10000) % 0x400) v) :
      CharText c ('\\' :: 'u' :: u ++ '\\' :: 'u' :: v)

/-- The ways of writing given characters, without the quotation marks. -/
inductive TextBody : List Char → List Char → Prop
  | nil : TextBody [] []
  | cons {c : Char} {s u t : List Char} (h : CharText c u) (ht : TextBody s t) :
      TextBody (c :: s) (u ++ t)

/-- A well-formed text, without the quotation marks. -/
inductive IsBody : List Char → Prop
  | nil : IsBody []
  | plain {c : Char} {s : List Char} (h : IsPlain c) (hs : IsBody s) : IsBody (c :: s)
  | short {letter c : Char} {s : List Char} (h : (letter, c) ∈ shortEscapes) (hs : IsBody s) :
      IsBody ('\\' :: letter :: s)
  | unit {n : Nat} {u s : List Char} (h : UnitText n u) (hs : IsBody s) :
      IsBody ('\\' :: 'u' :: u ++ s)

/-- A text with its quotation marks. -/
def inQuotes (body : List Char) : List Char := '"' :: body ++ ['"']

theorem CharText.isBody_append {c : Char} {u s : List Char} (h : CharText c u) (hs : IsBody s) :
    IsBody (u ++ s) := by
  cases h with
  | plain h => exact .plain h hs
  | short h => exact .short h hs
  | unit h => exact .unit h hs
  | @pair _ u v _ high low =>
    have := IsBody.unit high (.unit low hs)
    simpa using this

theorem TextBody.isBody {s b : List Char} (h : TextBody s b) : IsBody b := by
  induction h with
  | nil => exact .nil
  | cons h _ ih => exact h.isBody_append ih

/-- Plain characters are a way of writing themselves. -/
theorem textBody_of_plain {s : List Char} (h : IsPlainText s) : TextBody s s := by
  induction s with
  | nil => exact .nil
  | cons c s ih =>
    exact .cons (.plain (h c List.mem_cons_self)) (ih fun d hd => h d (List.mem_cons_of_mem c hd))

/-! ### Numbers -/

/-- Decimal digits, at least one. -/
def IsDigits (s : List Char) : Prop := s ≠ [] ∧ ∀ c ∈ s, ∃ d < 10, c = Text.digit d

/-- A fraction, or nothing. -/
inductive IsFraction : List Char → Prop
  | none : IsFraction []
  | point {s : List Char} (h : IsDigits s) : IsFraction ('.' :: s)

/-- An exponent, or nothing. -/
inductive IsExponent : List Char → Prop
  | none : IsExponent []
  | some {e : Char} {sign s : List Char} (he : e = 'e' ∨ e = 'E')
      (hsign : sign = [] ∨ sign = ['+'] ∨ sign = ['-']) (h : IsDigits s) :
      IsExponent (e :: (sign ++ s))

/-- A number.  A zero that leads is the whole of the whole part. -/
inductive IsNumber : List Char → Prop
  | parts {sign whole fraction exponent : List Char} (hsign : sign = [] ∨ sign = ['-'])
      (hwhole : IsDigits whole) (hzero : whole.head? = some '0' → whole = ['0'])
      (hfraction : IsFraction fraction) (hexponent : IsExponent exponent) :
      IsNumber (sign ++ (whole ++ (fraction ++ exponent)))

theorem isDigits_numeral (n : Nat) : IsDigits (Text.numeral n) :=
  ⟨Text.numeral_ne_nil n, fun _ h => Text.mem_numeral h⟩

theorem head?_numeral_ne_zero {n : Nat} (h : 0 < n) : (Text.numeral n).head? ≠ some '0' := by
  induction n using Nat.strongRecOn with
  | ind n ih =>
    rw [Text.numeral]
    split
    · rename_i small
      have digits : ∀ d : Fin 10, 0 < d.1 → Text.digit d.1 ≠ '0' := by decide
      simpa using digits ⟨n, small⟩ h
    · -- The leading digit is that of a tenth, which is not zero either.
      have tenth := ih (n / 10) (by omega) (by omega)
      intro hhead
      rw [List.head?_append] at hhead
      cases hlead : (Text.numeral (n / 10)).head? with
      | none => exact Text.numeral_ne_nil _ (List.head?_eq_none_iff.1 hlead)
      | some c => exact tenth (by simpa [hlead] using hhead)

theorem numeral_of_head?_zero {n : Nat} (h : (Text.numeral n).head? = some '0') :
    Text.numeral n = ['0'] := by
  obtain rfl | hpos := Nat.eq_zero_or_pos n
  · rw [Text.numeral]
    rfl
  · exact absurd h (head?_numeral_ne_zero hpos)

theorem isNumber_numeral (n : Nat) : IsNumber (Text.numeral n) := by
  have := IsNumber.parts (.inl rfl) (isDigits_numeral n) numeral_of_head?_zero .none .none
  simpa using this

/-! ### Values -/

/-- The word for nothing. -/
def nullWord : List Char := ['n', 'u', 'l', 'l']

/-- The words for the truth values. -/
def boolWord : Bool → List Char
  | true => ['t', 'r', 'u', 'e']
  | false => ['f', 'a', 'l', 's', 'e']

/-- What the grammar describes: a value, a value with white space around it, and the insides of
arrays and objects. -/
inductive Nonterminal where
  | value
  | element
  | elements
  | member
  | members
  deriving DecidableEq

/-- The texts of values and of their parts. -/
inductive Derives : Nonterminal → List Char → Prop
  | null : Derives .value nullWord
  | bool (b : Bool) : Derives .value (boolWord b)
  | number {s : List Char} (h : IsNumber s) : Derives .value s
  | text {b : List Char} (h : IsBody b) : Derives .value (inQuotes b)
  | emptyArray {w : List Char} (h : IsBlank w) : Derives .value ('[' :: w ++ [']'])
  | array {s : List Char} (h : Derives .elements s) : Derives .value ('[' :: s ++ [']'])
  | emptyObject {w : List Char} (h : IsBlank w) : Derives .value ('{' :: w ++ ['}'])
  | object {s : List Char} (h : Derives .members s) : Derives .value ('{' :: s ++ ['}'])
  | element {w s w' : List Char} (hw : IsBlank w) (h : Derives .value s) (hw' : IsBlank w') :
      Derives .element (w ++ (s ++ w'))
  | lastElement {s : List Char} (h : Derives .element s) : Derives .elements s
  | elements {s t : List Char} (h : Derives .element s) (ht : Derives .elements t) :
      Derives .elements (s ++ ',' :: t)
  | member {w b w' v : List Char} (hw : IsBlank w) (hb : IsBody b) (hw' : IsBlank w')
      (hv : Derives .element v) : Derives .member (w ++ (inQuotes b ++ (w' ++ ':' :: v)))
  | lastMember {s : List Char} (h : Derives .member s) : Derives .members s
  | members {s t : List Char} (h : Derives .member s) (ht : Derives .members t) :
      Derives .members (s ++ ',' :: t)

/-! ### Documents -/

/-- Pieces for the given things with commas between them; white space if there are none. -/
inductive Separated {α : Type} (Piece : α → List Char → Prop) : List α → List Char → Prop
  | none {w : List Char} (h : IsBlank w) : Separated Piece [] w
  | one {x : α} {s : List Char} (h : Piece x s) : Separated Piece [x] s
  | more {x y : α} {xs : List α} {s t : List Char} (h : Piece x s)
      (ht : Separated Piece (y :: xs) t) : Separated Piece (x :: y :: xs) (s ++ ',' :: t)

/-- A member of an object: its name, and the text of its value. -/
structure Member where
  name : String
  value : List Char

/-- The ways of writing a member: escapes in its name, and white space around name and value. -/
inductive Member.Written : Member → List Char → Prop
  | parts {m : Member} {w b w₁ w₂ w₃ : List Char} (hw : IsBlank w) (hb : TextBody m.name.toList b)
      (hw₁ : IsBlank w₁) (hw₂ : IsBlank w₂) (hw₃ : IsBlank w₃) :
      Written m (w ++ (inQuotes b ++ (w₁ ++ ':' :: (w₂ ++ (m.value ++ w₃)))))

/-- A member with a plain name may be written without white space. -/
theorem Member.written_of_plain {m : Member} (h : IsPlainText m.name.toList) :
    m.Written (inQuotes m.name.toList ++ ':' :: m.value) := by
  have blank : IsBlank [] := by simp [IsBlank]
  simpa using Member.Written.parts blank (textBody_of_plain h) blank blank blank

/-- A value with white space around it. -/
inductive Padded (v : List Char) : List Char → Prop
  | parts {w w' : List Char} (hw : IsBlank w) (hw' : IsBlank w') : Padded v (w ++ (v ++ w'))

/-- The document is an object with the given members, in this order. -/
inductive IsObject (ms : List Member) : List Char → Prop
  | braces {w s w' : List Char} (hw : IsBlank w) (h : Separated Member.Written ms s)
      (hw' : IsBlank w') : IsObject ms (w ++ '{' :: (s ++ '}' :: w'))

/-- The document is an array of the given values. -/
inductive IsArray (vs : List (List Char)) : List Char → Prop
  | brackets {w s w' : List Char} (hw : IsBlank w) (h : Separated Padded vs s)
      (hw' : IsBlank w') : IsArray vs (w ++ '[' :: (s ++ ']' :: w'))

end JumpHost.Json

/-
**Base64 with padding, one spelling for each byte string.**

Key blobs, salts and hashes stand in a ledger in standard base64.  Only the canonical spelling is
read: groups of four characters, padding in the last group alone and exactly where it is due, and
no stray bits behind the last byte.  So the code is a bijection between byte strings and the texts
that it accepts.

Main definitions:

* `JumpHost.Base64.encode` — the padded text of some bytes;
* `JumpHost.Base64.encodeUnpadded` — the same without the padding;
* `JumpHost.Base64.decode?` — the bytes of a padded text, nothing for any other text.

Main statements:

* `JumpHost.Base64.value?_symbol` — the two tables of the alphabet agree;
* `JumpHost.Base64.encode_eq_nil_iff` — only the empty byte string has the empty text.
-/

set_option autoImplicit false

namespace JumpHost.Base64

/-! ### The alphabet -/

/-- The character of a six-bit value. -/
def symbol (v : Nat) : Char :=
  if v < 26 then Char.ofNat (65 + v)
  else if v < 52 then Char.ofNat (71 + v)
  else if v < 62 then Char.ofNat (v - 4)
  else if v = 62 then '+' else '/'

/-- The six-bit value of a character of the alphabet. -/
def value? (c : Char) : Option Nat :=
  let n := c.toNat
  if 65 ≤ n ∧ n ≤ 90 then some (n - 65)
  else if 97 ≤ n ∧ n ≤ 122 then some (n - 71)
  else if 48 ≤ n ∧ n ≤ 57 then some (n + 4)
  else if n = 43 then some 62
  else if n = 47 then some 63
  else none

/-- The two tables of the alphabet agree. -/
theorem value?_symbol {v : Nat} (h : v < 64) : value? (symbol v) = some v := by
  have : ∀ v : Fin 64, value? (symbol v) = some v.1 := by decide
  exact this ⟨v, h⟩

/-! ### Writing -/

/-- The text of some bytes, with `=` in the places of the last group that carry no bits. -/
def encode : List UInt8 → List Char
  | [] => []
  | [x] => [symbol (x.toNat / 4), symbol (x.toNat % 4 * 16), '=', '=']
  | [x, y] =>
    [symbol (x.toNat / 4), symbol (x.toNat % 4 * 16 + y.toNat / 16), symbol (y.toNat % 16 * 4), '=']
  | x :: y :: z :: rest =>
    symbol (x.toNat / 4) :: symbol (x.toNat % 4 * 16 + y.toNat / 16) ::
      symbol (y.toNat % 16 * 4 + z.toNat / 64) :: symbol (z.toNat % 64) :: encode rest

/-- The text of some bytes without padding. -/
def encodeUnpadded (bytes : List UInt8) : List Char := (encode bytes).filter (· ≠ '=')

@[simp] theorem encode_eq_nil_iff {bytes : List UInt8} : encode bytes = [] ↔ bytes = [] := by
  fun_cases encode bytes <;> simp

/-! ### Reading -/

/-- The three bytes of a group without padding. -/
def fullGroup? (a b c d : Char) : Option (List UInt8) := do
  let a ← value? a
  let b ← value? b
  let c ← value? c
  let d ← value? d
  some [UInt8.ofNat (a * 4 + b / 16), UInt8.ofNat (b % 16 * 16 + c / 4),
    UInt8.ofNat (c % 4 * 64 + d)]

/-- The bytes of the last group: one byte before `==`, two before `=`, else three.  The bits that
the padding leaves over must be zero. -/
def lastGroup? (a b c d : Char) : Option (List UInt8) :=
  if d = '=' then
    if c = '=' then do
      let a ← value? a
      let b ← value? b
      if b % 16 = 0 then some [UInt8.ofNat (a * 4 + b / 16)] else none
    else do
      let a ← value? a
      let b ← value? b
      let c ← value? c
      if c % 4 = 0 then
        some [UInt8.ofNat (a * 4 + b / 16), UInt8.ofNat (b % 16 * 16 + c / 4)]
      else none
  else fullGroup? a b c d

/-- The bytes of a padded text, nothing for any other text. -/
def decode? : List Char → Option (List UInt8)
  | [] => some []
  | [a, b, c, d] => lastGroup? a b c d
  | a :: b :: c :: d :: rest => do
    let group ← fullGroup? a b c d
    let bytes ← decode? rest
    some (group ++ bytes)
  | _ => none

end JumpHost.Base64

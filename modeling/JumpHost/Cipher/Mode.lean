/-
**Modes of a block cipher.**

A block cipher takes messages of many blocks in one of three modes.  In the first, every block is
added to the cipher text before it.  In the second, the cipher of a running counter is added to the
message, so that both directions are the same.  The third counts likewise and has a tag: a
polynomial in a secret point of the field of 128 bits, of which the cipher text is the coefficients.

Main definitions:

* `JumpHost.Mode.chained` — the message of a cipher text whose blocks are chained;
* `JumpHost.Mode.filled?` — the message of such a text if its last block was filled up;
* `JumpHost.Mode.counted` — a message with the cipher of a counter added;
* `JumpHost.Mode.tag`, `JumpHost.Mode.authentic?` — the tag, and the message if the tag is right.
-/

import JumpHost.Bytes
import JumpHost.Digest.Blocks

set_option autoImplicit false

namespace JumpHost.Mode

/-! ### Chained blocks -/

/-- The message of chained blocks, with the cipher text before the first of them. -/
def chainedBlocks (decrypt : List UInt8 → List UInt8) (before : List UInt8) :
    List (List UInt8) → List UInt8
  | [] => []
  | block :: rest => Bytes.xor (decrypt block) before ++ chainedBlocks decrypt block rest

/-- The message of a cipher text of whole blocks. -/
def chained (decrypt : List UInt8 → List UInt8) (start text : List UInt8) : List UInt8 :=
  chainedBlocks decrypt start (Digest.pieces 15 text)

/-- A message without the bytes that fill up its last block: each of them is their number, which is
that of a block at most. -/
def unfilled? (message : List UInt8) : Option (List UInt8) :=
  match message.getLast? with
  | none => none
  | some last =>
    let n := last.toNat
    let kept := message.length - n
    if 0 < n ∧ n ≤ 16 ∧ n ≤ message.length ∧ (message.drop kept).all (· == last) then
      some (message.take kept)
    else none

/-- The message of chained blocks, the last of which was filled up. -/
def filled? (decrypt : List UInt8 → List UInt8) (start text : List UInt8) :
    Option (List UInt8) :=
  if text.length % 16 = 0 then unfilled? (chained decrypt start text) else none

/-! ### Counters -/

/-- The cipher of `n` blocks that count up from a number; the count is taken modulo the number of
blocks. -/
def keystream (encrypt : List UInt8 → List UInt8) (start n : Nat) : List UInt8 :=
  (List.range n).flatMap fun i => encrypt (Bytes.ofNat 16 (start + i))

/-- A message with the cipher of a counter added. -/
def counted (encrypt : List UInt8 → List UInt8) (start : Nat) (text : List UInt8) : List UInt8 :=
  Bytes.xor text (keystream encrypt start (text.length / 16 + 1))

/-! ### Tags -/

/-- The sum and the multiple that are left when `n` more bits of `x`, from bit `n - 1` down, are
taken into the product. -/
def productBits (x : Nat) : Nat → Nat → Nat → Nat
  | 0, sum, _ => sum
  | n + 1, sum, multiple =>
    let sum := if x.testBit n then sum ^^^ multiple else sum
    let half := multiple / 2
    productBits x n sum
      (if multiple % 2 = 1 then half ^^^ 0xe1000000000000000000000000000000 else half)

/-- The product in the field of 128 bits; the first bit of a block is its lowest coefficient. -/
def product (x y : Nat) : Nat := productBits x 128 0 y

/-- The value at a point of the polynomial of blocks, a shorter last one filled up with zeros. -/
def evaluate (point value : Nat) (text : List UInt8) : Nat :=
  (Digest.pieces 15 text).foldl
    (fun value block =>
      product (value ^^^ Bytes.toNat (block ++ List.replicate (16 - block.length) 0)) point)
    value

/-- The tag of a cipher text, under a nonce of twelve bytes. -/
def tag (encrypt : List UInt8 → List UInt8) (nonce text : List UInt8) : List UInt8 :=
  let point := Bytes.toNat (encrypt (List.replicate 16 0))
  let sum := product (evaluate point 0 text ^^^ (8 * text.length)) point
  Bytes.xor (Bytes.ofNat 16 sum) (encrypt (nonce ++ [0, 0, 0, 1]))

/-- The message of a cipher text, if its tag is right. -/
def authentic? (encrypt : List UInt8 → List UInt8) (nonce text given : List UInt8) :
    Option (List UInt8) :=
  if tag encrypt nonce text = given then
    some (counted encrypt (Bytes.toNat (nonce ++ [0, 0, 0, 2])) text)
  else none

end JumpHost.Mode

/-
**A stream cipher of additions, turns and sums.**

The state is a square of sixteen words: four constants, the key, a count and a nonce.  A round mixes
the four columns at once, and then, with the rows turned against each other, the four diagonals.
Twenty half rounds and the sum with the state that they began with make 64 bytes of the stream.

With the stream goes a tag: the value of the message as a polynomial modulo a prime, at a point and
with a final summand that the start of the stream gives.

Main definitions:

* `JumpHost.ChaCha.block`, `JumpHost.ChaCha.stream` — a piece of the stream, and many;
* `JumpHost.ChaCha.tag` — the tag of a message;
* `JumpHost.ChaCha.authentic?` — the message of a cipher text, if its tag is right.
-/

import JumpHost.Cipher.Row

set_option autoImplicit false

namespace JumpHost.ChaCha

/-! ### The stream -/

/-- A step: one row is added to another, and a third one is changed by the sum and turned. -/
def step (n : UInt32) (target summand third : Row) : Row × Row :=
  let sum := target.add summand
  (sum, (third.xor sum).rotate n)

/-- The four columns are mixed. -/
def mixColumns (s : Square) : Square :=
  let (w, z) := step 16 s.w s.x s.z
  let (y, x) := step 12 s.y z s.x
  let (w, z) := step 8 w x z
  let (y, x) := step 7 y z x
  ⟨w, x, y, z⟩

/-- The four diagonals become columns. -/
def skew (s : Square) : Square := ⟨s.w, s.x.turn, s.y.turn.turn, s.z.turn.turn.turn⟩

/-- The four columns become diagonals. -/
def unskew (s : Square) : Square := ⟨s.w, s.x.turn.turn.turn, s.y.turn.turn, s.z.turn⟩

/-- The columns and the diagonals are mixed. -/
def mix (s : Square) : Square := unskew (mixColumns (skew (mixColumns s)))

/-- The words that every state begins with: the text `expand 32-byte k`. -/
def constants : Row := ⟨0x61707865, 0x3320646e, 0x79622d32, 0x6b206574⟩

/-- A piece of the stream under a key of 32 bytes and no nonce. -/
def block (key : List UInt8) (count : Nat) : List UInt8 :=
  let start : Square := ⟨constants, .ofBytes key, .ofBytes (key.drop 16),
    .ofBytes (Bytes.ofNatLittle 16 count)⟩
  ((Nat.repeat mix 10 start).add start).bytes

/-- A number of pieces of the stream from a count on. -/
def stream (key : List UInt8) (count pieces : Nat) : List UInt8 :=
  (List.range pieces).flatMap fun i => block key (count + i)

/-! ### The tag -/

/-- The prime modulo which tags are reckoned. -/
def prime : Nat := (1 <<< 130) - 5

/-- The bits that a point may have. -/
def pointMask : Nat := 0x0ffffffc0ffffffc0ffffffc0fffffff

/-- The value at a point of the polynomial of a message; a one stands behind the bytes of every
coefficient. -/
def evaluate (point : Nat) (message : List UInt8) : Nat :=
  (Digest.pieces 15 message).foldl
    (fun sum piece => (sum + Bytes.toNatLittle (piece ++ [1])) * point % prime) 0

/-- The tag of a message under a key of 32 bytes, the point and the final summand. -/
def tag (key message : List UInt8) : List UInt8 :=
  let point := Bytes.toNatLittle (key.take 16) &&& pointMask
  Bytes.ofNatLittle 16 (evaluate point message + Bytes.toNatLittle ((key.drop 16).take 16))

/-- The message of a cipher text, if its tag is right.  The first piece of the stream is the key of
the tag, and the text begins with the second one. -/
def authentic? (key text given : List UInt8) : Option (List UInt8) :=
  if tag (block key 0) text = given then
    some (Bytes.xor text (stream key 1 (text.length / 64 + 1)))
  else none

end JumpHost.ChaCha

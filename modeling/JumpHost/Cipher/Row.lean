/-
**Rows of words.**

Ciphers of additions, turns and sums keep a square of sixteen words, and change four of them at
once: a row.

Main definitions:

* `JumpHost.Row` — four words, with `zip`, `rotate` and `turn`;
* `JumpHost.Square` — four rows.
-/

import JumpHost.Bytes
import JumpHost.Digest.Blocks

set_option autoImplicit false

namespace JumpHost

/-- A row of words. -/
structure Row where
  (a b c d : UInt32)
  deriving DecidableEq

namespace Row

/-- A function on the words of two rows. -/
@[inline] def zip (f : UInt32 → UInt32 → UInt32) (v w : Row) : Row :=
  ⟨f v.a w.a, f v.b w.b, f v.c w.c, f v.d w.d⟩

/-- The sum of two rows. -/
def add (v w : Row) : Row := v.zip (· + ·) w

/-- The bitwise difference of two rows. -/
def xor (v w : Row) : Row := v.zip (· ^^^ ·) w

/-- Every word turned left by `n` bits. -/
def rotate (n : UInt32) (w : Row) : Row :=
  ⟨Digest.rotateLeft w.a n, Digest.rotateLeft w.b n, Digest.rotateLeft w.c n,
    Digest.rotateLeft w.d n⟩

/-- The row turned left by one word. -/
def turn (w : Row) : Row := ⟨w.b, w.c, w.d, w.a⟩

/-- The bytes of a row; the least significant byte of a word is first. -/
def bytes (w : Row) : List UInt8 :=
  [w.a, w.b, w.c, w.d].flatMap fun (word : UInt32) => Bytes.ofNatLittle 4 word.toNat

/-- The row of the first sixteen bytes. -/
def ofBytes (s : List UInt8) : Row :=
  let word (i : Nat) : UInt32 := UInt32.ofNat (Bytes.toNatLittle ((s.drop (4 * i)).take 4))
  ⟨word 0, word 1, word 2, word 3⟩

end Row

/-- A square of words, in four rows. -/
structure Square where
  (w x y z : Row)
  deriving DecidableEq

namespace Square

/-- The sum of two squares. -/
def add (s t : Square) : Square := ⟨s.w.add t.w, s.x.add t.x, s.y.add t.y, s.z.add t.z⟩

/-- The bitwise difference of two squares. -/
def xor (s t : Square) : Square := ⟨s.w.xor t.w, s.x.xor t.x, s.y.xor t.y, s.z.xor t.z⟩

/-- The bytes of a square. -/
def bytes (s : Square) : List UInt8 := s.w.bytes ++ s.x.bytes ++ s.y.bytes ++ s.z.bytes

/-- The square of the first 64 bytes. -/
def ofBytes (s : List UInt8) : Square :=
  ⟨.ofBytes s, .ofBytes (s.drop 16), .ofBytes (s.drop 32), .ofBytes (s.drop 48)⟩

end Square

end JumpHost

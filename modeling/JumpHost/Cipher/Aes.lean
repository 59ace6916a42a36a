/-
**The block cipher of the Advanced Encryption Standard.**

A block is sixteen bytes in four columns.  A round substitutes every byte, turns the rows, mixes
every column and adds a round key; the first round key is added before the rounds and the last round
does not mix.  Bytes are polynomials over two elements, reduced by the polynomial `0x11b`.

Main definitions:

* `JumpHost.Aes.times`, `JumpHost.Aes.inverse` — products and inverses of bytes;
* `JumpHost.Aes.substitute`, `JumpHost.Aes.restore` — the substitution and the way back;
* `JumpHost.Aes.roundKeys` — the round keys of a key of 16, 24 or 32 bytes;
* `JumpHost.Aes.encrypt`, `JumpHost.Aes.decrypt` — a block through the cipher.
-/

import JumpHost.Bytes
import JumpHost.Digest.Blocks

set_option autoImplicit false

namespace JumpHost.Aes

/-! ### Bytes as polynomials -/

/-- The product with the polynomial `x`. -/
def double (b : UInt8) : UInt8 := (b <<< 1) ^^^ (if b < 0x80 then 0 else 0x1b)

/-- The product of two bytes, over the bits of the second from the least significant on. -/
def timesBits : Nat → UInt8 → UInt8 → UInt8
  | 0, _, _ => 0
  | n + 1, a, b => (if b &&& 1 = 1 then a else 0) ^^^ timesBits n (double a) (b >>> 1)

/-- The product of two bytes. -/
def times (a b : UInt8) : UInt8 := timesBits 8 a b

/-- The inverse of a byte, zero of zero: the power to the exponent 254. -/
def inverse (a : UInt8) : UInt8 :=
  let square (b : UInt8) : UInt8 := times b b
  let a2 := square a
  let a4 := square a2
  let a8 := square a4
  let a16 := square a8
  let a32 := square a16
  let a64 := square a32
  times (times (times a2 a4) (times a8 a16)) (times (times a32 a64) (square a64))

/-! ### The substitution -/

/-- A byte turned left by `n` bits. -/
def turned (b n : UInt8) : UInt8 := (b <<< n) ||| (b >>> (8 - n))

/-- The byte that is put in the place of another one. -/
def substituteByte (b : UInt8) : UInt8 :=
  let i := inverse b
  i ^^^ turned i 1 ^^^ turned i 2 ^^^ turned i 3 ^^^ turned i 4 ^^^ 0x63

/-- The substitution of all bytes in order. -/
def box : Array UInt8 := ((List.range 256).map fun n => substituteByte (UInt8.ofNat n)).toArray

/-- The way back from the substitution, for all bytes in order. -/
def inverseBox : Array UInt8 :=
  ((List.range 256).map fun n => UInt8.ofNat ((box.toList.idxOf? (UInt8.ofNat n)).getD 0)).toArray

/-- The byte that is put in the place of `b`. -/
def substitute (b : UInt8) : UInt8 := box.getD b.toNat 0

/-- The byte in the place of which `b` was put. -/
def restore (b : UInt8) : UInt8 := inverseBox.getD b.toNat 0

/-! ### Blocks -/

/-- A column of a block. -/
structure Column where
  (a b c d : UInt8)
  deriving DecidableEq, Inhabited

namespace Column

/-- The bytes in order. -/
def bytes (w : Column) : List UInt8 := [w.a, w.b, w.c, w.d]

/-- The column of the first four bytes. -/
def ofBytes (s : List UInt8) : Column := ⟨s.getD 0 0, s.getD 1 0, s.getD 2 0, s.getD 3 0⟩

/-- The sum of two columns. -/
def add (v w : Column) : Column := ⟨v.a ^^^ w.a, v.b ^^^ w.b, v.c ^^^ w.c, v.d ^^^ w.d⟩

/-- A function on every byte. -/
def map (f : UInt8 → UInt8) (w : Column) : Column := ⟨f w.a, f w.b, f w.c, f w.d⟩

/-- A column turned by one byte. -/
def turn (w : Column) : Column := ⟨w.b, w.c, w.d, w.a⟩

/-- The product of a column with the matrix of which `w` is the first row and every further row is
the one before, turned. -/
def mix (w v : Column) : Column :=
  let row (p q r s : UInt8) : UInt8 := times p v.a ^^^ times q v.b ^^^ times r v.c ^^^ times s v.d
  ⟨row w.a w.b w.c w.d, row w.d w.a w.b w.c, row w.c w.d w.a w.b, row w.b w.c w.d w.a⟩

end Column

/-- The first row of the matrix that mixes. -/
def mixing : Column := ⟨2, 3, 1, 1⟩

/-- The first row of its inverse. -/
def unmixing : Column := ⟨14, 11, 13, 9⟩

/-- A block, or a round key. -/
structure Block where
  (w x y z : Column)
  deriving DecidableEq, Inhabited

namespace Block

/-- The bytes in order. -/
def bytes (s : Block) : List UInt8 := s.w.bytes ++ s.x.bytes ++ s.y.bytes ++ s.z.bytes

/-- The block of the first sixteen bytes. -/
def ofBytes (s : List UInt8) : Block :=
  ⟨.ofBytes s, .ofBytes (s.drop 4), .ofBytes (s.drop 8), .ofBytes (s.drop 12)⟩

/-- The sum of two blocks. -/
def add (s t : Block) : Block := ⟨s.w.add t.w, s.x.add t.x, s.y.add t.y, s.z.add t.z⟩

/-- A function on every column. -/
def map (f : Column → Column) (s : Block) : Block := ⟨f s.w, f s.x, f s.y, f s.z⟩

/-- Every row is turned to the left by its number. -/
def turnRows (s : Block) : Block :=
  ⟨⟨s.w.a, s.x.b, s.y.c, s.z.d⟩, ⟨s.x.a, s.y.b, s.z.c, s.w.d⟩, ⟨s.y.a, s.z.b, s.w.c, s.x.d⟩,
    ⟨s.z.a, s.w.b, s.x.c, s.y.d⟩⟩

/-- Every row is turned to the right by its number. -/
def turnRowsBack (s : Block) : Block :=
  ⟨⟨s.w.a, s.z.b, s.y.c, s.x.d⟩, ⟨s.x.a, s.w.b, s.z.c, s.y.d⟩, ⟨s.y.a, s.x.b, s.w.c, s.z.d⟩,
    ⟨s.z.a, s.y.b, s.x.c, s.w.d⟩⟩

end Block

/-! ### Round keys -/

/-- The columns of the round keys in reverse, from those that there are so far: `n` further ones
for a key of `size` columns, where `constant` is the next round constant. -/
def expand (size : Nat) : Nat → UInt8 → List Column → List Column
  | 0, _, columns => columns
  | n + 1, constant, columns =>
    let last := columns.headD default
    let before := columns.getD (size - 1) default
    if columns.length % size = 0 then
      let next := (last.turn.map substitute).add ⟨constant, 0, 0, 0⟩
      expand size n (double constant) (before.add next :: columns)
    else if size = 8 ∧ columns.length % size = 4 then
      expand size n constant (before.add (last.map substitute) :: columns)
    else expand size n constant (before.add last :: columns)

/-- The blocks of columns taken four at a time. -/
def blocksOf : List Column → List Block
  | w :: x :: y :: z :: rest => ⟨w, x, y, z⟩ :: blocksOf rest
  | _ => []

/-- The round keys of a key: one more than there are rounds, which are six more than the key has
columns. -/
def roundKeys (key : List UInt8) : List Block :=
  let columns := (Digest.pieces 3 key).map Column.ofBytes
  let size := columns.length
  blocksOf (expand size (4 * (size + 7) - size) 1 columns.reverse).reverse

/-! ### The rounds -/

/-- The rounds behind the first round key. -/
def encryptRounds (s : Block) : List Block → Block
  | [] => s
  | [last] => (s.map (·.map substitute)).turnRows.add last
  | key :: keys =>
    encryptRounds ((((s.map (·.map substitute)).turnRows).map mixing.mix).add key) keys

/-- The rounds in front of the first round key, backwards. -/
def decryptRounds (s : Block) : List Block → Block
  | [] => s
  | [first] => (s.turnRowsBack.map (·.map restore)).add first
  | key :: keys =>
    decryptRounds (((s.turnRowsBack.map (·.map restore)).add key).map unmixing.mix) keys

/-- A block of sixteen bytes through the cipher, with the round keys. -/
def encrypt (keys : List Block) (bytes : List UInt8) : List UInt8 :=
  (encryptRounds ((Block.ofBytes bytes).add (keys.headD default)) keys.tail).bytes

/-- A block of sixteen bytes back through the cipher, with the round keys. -/
def decrypt (keys : List Block) (bytes : List UInt8) : List UInt8 :=
  let backwards := keys.reverse
  (decryptRounds ((Block.ofBytes bytes).add (backwards.headD default)) backwards.tail).bytes

end JumpHost.Aes

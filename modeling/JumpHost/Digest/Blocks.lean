/-
**Messages in blocks of 64 bytes.**

Several digests share their outer shape: the message is padded to whole blocks of 64 bytes, a
compression step folds the blocks into a list of 32-bit words, and the words are the digest.  This
module holds that shape, with the most significant byte of a word first.  The compression steps
stand in the modules of the digests, and so does the padding where it is another one.

Main definitions:

* `JumpHost.Digest.blocks` — the padded message as blocks of sixteen words;
* `JumpHost.Digest.bytesOfWords` — words as bytes, the most significant byte first.
-/

set_option autoImplicit false

namespace JumpHost.Digest

/-- The word of four bytes, the most significant first. -/
def word (a b c d : UInt8) : UInt32 :=
  (a.toUInt32 <<< 24) ||| (b.toUInt32 <<< 16) ||| (c.toUInt32 <<< 8) ||| d.toUInt32

/-- The words of bytes taken four at a time; a shorter rest is dropped. -/
def wordsOfBytes : List UInt8 → List UInt32
  | a :: b :: c :: d :: rest => word a b c d :: wordsOfBytes rest
  | _ => []

/-- The four bytes of a word, the most significant first. -/
def bytesOfWord (w : UInt32) : List UInt8 :=
  [(w >>> 24).toUInt8, (w >>> 16).toUInt8, (w >>> 8).toUInt8, w.toUInt8]

/-- The bytes of a list of words. -/
def bytesOfWords (ws : List UInt32) : List UInt8 := ws.flatMap bytesOfWord

/-- The padding behind a message of `n` bytes: a one bit, zeros up to eight bytes before the end of
a block, and the number of bits of the message in eight bytes. -/
def padding (n : Nat) : List UInt8 :=
  0x80 :: List.replicate ((119 - n % 64) % 64) 0 ++
    (List.range 8).map fun i => UInt8.ofNat (8 * n / Nat.pow 256 (7 - i))

/-- A list in pieces of `n + 1` elements, the last one possibly shorter. -/
def pieces {α : Type} (n : Nat) : List α → List (List α)
  | [] => []
  | a :: s => (a :: s.take n) :: pieces n (s.drop n)
termination_by s => s.length
decreasing_by
  simp only [List.length_cons, List.length_drop]
  omega

/-- The padded message as blocks of sixteen words. -/
def blocks (message : List UInt8) : List (List UInt32) :=
  pieces 15 (wordsOfBytes (message ++ padding message.length))

/-- The word turned left by `n` bits. -/
def rotateLeft (w : UInt32) (n : UInt32) : UInt32 := (w <<< n) ||| (w >>> (32 - n))

/-- The word turned right by `n` bits. -/
def rotateRight (w : UInt32) (n : UInt32) : UInt32 := (w >>> n) ||| (w <<< (32 - n))

end JumpHost.Digest

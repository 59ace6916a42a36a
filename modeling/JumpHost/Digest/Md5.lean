/-
**MD5.**

The oldest form of an encrypted key file derives its key by an MD5 digest of the passphrase and a
salt.  Unlike the other digests of this library it takes the least significant byte of a word first.

Main definitions:

* `JumpHost.Digest.md5` — the digest of a message, 16 bytes.
-/

import JumpHost.Digest.Blocks

set_option autoImplicit false

namespace JumpHost.Digest.Md5

/-- The constants of the steps: the first bits of the sines of the numbers from one on. -/
def constants : List UInt32 :=
  [0xd76aa478, 0xe8c7b756, 0x242070db, 0xc1bdceee, 0xf57c0faf, 0x4787c62a, 0xa8304613, 0xfd469501,
   0x698098d8, 0x8b44f7af, 0xffff5bb1, 0x895cd7be, 0x6b901122, 0xfd987193, 0xa679438e, 0x49b40821,
   0xf61e2562, 0xc040b340, 0x265e5a51, 0xe9b6c7aa, 0xd62f105d, 0x02441453, 0xd8a1e681, 0xe7d3fbc8,
   0x21e1cde6, 0xc33707d6, 0xf4d50d87, 0x455a14ed, 0xa9e3e905, 0xfcefa3f8, 0x676f02d9, 0x8d2a4c8a,
   0xfffa3942, 0x8771f681, 0x6d9d6122, 0xfde5380c, 0xa4beea44, 0x4bdecfa9, 0xf6bb4b60, 0xbebfbc70,
   0x289b7ec6, 0xeaa127fa, 0xd4ef3085, 0x04881d05, 0xd9d4d039, 0xe6db99e5, 0x1fa27cf8, 0xc4ac5665,
   0xf4292244, 0x432aff97, 0xab9423a7, 0xfc93a039, 0x655b59c3, 0x8f0ccc92, 0xffeff47d, 0x85845dd1,
   0x6fa87e4f, 0xfe2ce6e0, 0xa3014314, 0x4e0811a1, 0xf7537e82, 0xbd3af235, 0x2ad7d2bb, 0xeb86d391]

/-- The four working words. -/
structure State where
  (a b c d : UInt32)

/-- The words before the first block. -/
def State.initial : State := ⟨0x67452301, 0xefcdab89, 0x98badcfe, 0x10325476⟩

/-- A word with its bytes in the opposite order. -/
def flip (w : UInt32) : UInt32 :=
  word w.toUInt8 (w >>> 8).toUInt8 (w >>> 16).toUInt8 (w >>> 24).toUInt8

/-- The words in order, as they are written. -/
def State.words (s : State) : List UInt32 := [flip s.a, flip s.b, flip s.c, flip s.d]

/-- The sum of two states, word by word. -/
def State.add (s t : State) : State := ⟨s.a + t.a, s.b + t.b, s.c + t.c, s.d + t.d⟩

/-- The padding behind a message of `n` bytes: a one bit, zeros up to eight bytes before the end of
a block, and the number of bits of the message in eight bytes, the least significant first. -/
def padding (n : Nat) : List UInt8 :=
  0x80 :: List.replicate ((119 - n % 64) % 64) 0 ++
    (List.range 8).map fun i => UInt8.ofNat (8 * n / Nat.pow 256 i)

/-- The padded message as blocks of sixteen words. -/
def blocks (message : List UInt8) : List (List UInt32) :=
  pieces 15 ((wordsOfBytes (message ++ padding message.length)).map flip)

/-- The mixing of three words, the number of the word of the block and the turn of step `i`. -/
def mixing (s : State) (i : Nat) : UInt32 × Nat × UInt32 :=
  if i < 16 then
    ((s.b &&& s.c) ||| (~~~s.b &&& s.d), i, [7, 12, 17, 22].getD (i % 4) 0)
  else if i < 32 then
    ((s.d &&& s.b) ||| (~~~s.d &&& s.c), (5 * i + 1) % 16, [5, 9, 14, 20].getD (i % 4) 0)
  else if i < 48 then
    (s.b ^^^ s.c ^^^ s.d, (3 * i + 5) % 16, [4, 11, 16, 23].getD (i % 4) 0)
  else
    (s.c ^^^ (s.b ||| ~~~s.d), 7 * i % 16, [6, 10, 15, 21].getD (i % 4) 0)

/-- One step with its constant and its number. -/
def step (block : List UInt32) (s : State) (numbered : UInt32 × Nat) : State :=
  let (mixed, place, turn) := mixing s numbered.2
  let sum := s.a + mixed + numbered.1 + block.getD place 0
  ⟨s.d, s.b + rotateLeft sum turn, s.b, s.c⟩

/-- Folds one block into the state. -/
def compress (s : State) (block : List UInt32) : State :=
  s.add ((constants.zipIdx).foldl (step block) s)

end Md5

/-- **The MD5 digest of a message.** -/
def md5 (message : List UInt8) : List UInt8 :=
  bytesOfWords ((Md5.blocks message).foldl Md5.compress Md5.State.initial).words

end JumpHost.Digest

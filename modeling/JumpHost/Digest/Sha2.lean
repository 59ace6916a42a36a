/-
**The digests of the second family.**

The longer and the shorter digest of the second family have each a cut form, which starts from words
of its own and leaves words out at the end.  All four make authentication codes under a key: the
message is digested behind a whole block that the key gives, and the digest once more.

Main definitions:

* `JumpHost.Digest.Sha2`, with `blockSize` and `digest` — the digests;
* `JumpHost.Digest.Sha2.Keyed`, `JumpHost.Digest.Sha2.keyed` — a digest with a key;
* `JumpHost.Digest.Sha2.Keyed.code` — the authentication code of a message.
-/

import JumpHost.Digest.Sha256
import JumpHost.Digest.Sha512

set_option autoImplicit false

namespace JumpHost.Digest

/-- The digests, by their number of bits. -/
inductive Sha2 where
  | bits224
  | bits256
  | bits384
  | bits512
  deriving DecidableEq

namespace Sha2

/-- The words before the first block of the cut form of the shorter digest. -/
def start224 : Sha256.State :=
  ⟨0xc1059ed8, 0x367cd507, 0x3070dd17, 0xf70e5939, 0xffc00b31, 0x68581511, 0x64f98fa7, 0xbefa4fa4⟩

/-- The words before the first block of the cut form of the longer digest. -/
def start384 : Sha512.State where
  a := 0xcbbb9d5dc1059ed8
  b := 0x629a292a367cd507
  c := 0x9159015a3070dd17
  d := 0x152fecd8f70e5939
  e := 0x67332667ffc00b31
  f := 0x8eb44a8768581511
  g := 0xdb0c2e0d64f98fa7
  h := 0x47b5481dbefa4fa4

/-- The number of bytes of a digest. -/
def size : Sha2 → Nat
  | bits224 => 28
  | bits256 => 32
  | bits384 => 48
  | bits512 => 64

/-- The number of bytes of a block. -/
def blockSize : Sha2 → Nat
  | bits224 | bits256 => 64
  | bits384 | bits512 => 128

/-- The digest of a message. -/
def digest (h : Sha2) (message : List UInt8) : List UInt8 :=
  match h with
  | bits224 =>
    (bytesOfWords ((blocks message).foldl Sha256.compress start224).words).take 28
  | bits256 => sha256 message
  | bits384 =>
    (Sha512.bytesOfWords ((Sha512.blocks message).foldl Sha512.compress start384).words).take 48
  | bits512 => sha512 message

/-- A digest with a key: the blocks that stand before the message and before its digest. -/
structure Keyed where
  digest : Sha2
  inner : List UInt8
  outer : List UInt8

/-- A digest with a key.  A key that is longer than a block is replaced by its digest, and a shorter
one is filled up with zeros. -/
def keyed (h : Sha2) (key : List UInt8) : Keyed :=
  let short := if key.length ≤ h.blockSize then key else h.digest key
  let block := short ++ List.replicate (h.blockSize - short.length) 0
  ⟨h, block.map (· ^^^ 0x36), block.map (· ^^^ 0x5c)⟩

/-- The authentication code of a message. -/
def Keyed.code (k : Keyed) (message : List UInt8) : List UInt8 :=
  k.digest.digest (k.outer ++ k.digest.digest (k.inner ++ message))

end Sha2

end JumpHost.Digest

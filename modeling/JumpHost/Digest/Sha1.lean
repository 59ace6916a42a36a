/-
**SHA-1 and its keyed form.**

A hashed host field holds a salt and the SHA-1 message authentication code of the host name under
that salt.

Main definitions:

* `JumpHost.Digest.sha1` — the SHA-1 digest of a message, 20 bytes;
* `JumpHost.Digest.hmacSha1` — the authentication code of a message under a key.
-/

import JumpHost.Digest.Blocks

set_option autoImplicit false

namespace JumpHost.Digest

namespace Sha1

/-- The five working words. -/
structure State where
  (a b c d e : UInt32)

/-- The words before the first block. -/
def State.initial : State := ⟨0x67452301, 0xefcdab89, 0x98badcfe, 0x10325476, 0xc3d2e1f0⟩

/-- The words in order. -/
def State.words (s : State) : List UInt32 := [s.a, s.b, s.c, s.d, s.e]

/-- The sum of two states, word by word. -/
def State.add (s t : State) : State := ⟨s.a + t.a, s.b + t.b, s.c + t.c, s.d + t.d, s.e + t.e⟩

/-- The mixing function and the constant of round `i`, which change every twenty rounds. -/
def mix (i : Nat) (b c d : UInt32) : UInt32 :=
  if i < 20 then ((b &&& c) ||| (~~~b &&& d)) + 0x5a827999
  else if i < 40 then (b ^^^ c ^^^ d) + 0x6ed9eba1
  else if i < 60 then ((b &&& c) ||| (b &&& d) ||| (c &&& d)) + 0x8f1bbcdc
  else (b ^^^ c ^^^ d) + 0xca62c1d6

/-- Sixteen words of the message schedule move on by one. -/
def extend (ws : List UInt32) : List UInt32 :=
  let at' (i : Nat) : UInt32 := ws.getD i 0
  ws.drop 1 ++ [rotateLeft (at' 0 ^^^ at' 2 ^^^ at' 8 ^^^ at' 13) 1]

/-- Round `i`: the state moves on and the schedule with it. -/
def round (acc : State × List UInt32) (i : Nat) : State × List UInt32 :=
  let (s, ws) := acc
  let next := rotateLeft s.a 5 + mix i s.b s.c s.d + s.e + ws.headD 0
  (⟨next, s.a, rotateLeft s.b 30, s.c, s.d⟩, extend ws)

/-- Folds one block into the state. -/
def compress (s : State) (block : List UInt32) : State :=
  s.add ((List.range 80).foldl round (s, block)).1

end Sha1

/-- **The SHA-1 digest of a message.** -/
def sha1 (message : List UInt8) : List UInt8 :=
  bytesOfWords ((blocks message).foldl Sha1.compress Sha1.State.initial).words

/-- The key as a whole block: a longer key is replaced by its digest, a shorter one is filled up
with zeros. -/
def keyBlock (key : List UInt8) : List UInt8 :=
  let short := if key.length ≤ 64 then key else sha1 key
  short ++ List.replicate (64 - short.length) 0

/-- **The authentication code of a message under a key.** -/
def hmacSha1 (key message : List UInt8) : List UInt8 :=
  let block := keyBlock key
  sha1 (block.map (· ^^^ 0x5c) ++ sha1 (block.map (· ^^^ 0x36) ++ message))

end JumpHost.Digest

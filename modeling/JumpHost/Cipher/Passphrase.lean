/-
**Keys from passphrases.**

A passphrase becomes a key by work that cannot be saved: for every piece of the key a cipher whose
tables are costly to make is keyed with the digest of the passphrase and salted with that of the
salt, over and over, and encrypts a fixed text.  Further rounds are salted with the output of the
one before and added.  The bytes of the pieces are dealt out in turns.

Main definitions:

* `JumpHost.Passphrase.hash` — what one round makes of two digests;
* `JumpHost.Passphrase.derive?` — a key of any length; there is none without a passphrase, a salt
  or a round.
-/

import JumpHost.Bytes
import JumpHost.Cipher.Blowfish
import JumpHost.Digest.Sha512

set_option autoImplicit false

namespace JumpHost.Passphrase

/-- The text that is encrypted. -/
def text : List UInt8 := "OxychromaticBlowfishSwatDynamite".toList.map fun c => c.toUInt8

/-- The tables after many turns of the salt and the passphrase. -/
def churned (passphrase salt : Array UInt32) : Nat → Blowfish.Tables → Blowfish.Tables
  | 0, t => t
  | n + 1, t => churned passphrase salt n ((t.expand #[] salt).expand #[] passphrase)

/-- Words through the cipher, two at a time. -/
def encryptPairs (t : Blowfish.Tables) : List UInt32 → List UInt32
  | left :: right :: rest =>
    let (left, right) := Blowfish.encrypt t.sums t.boxes left right
    left :: right :: encryptPairs t rest
  | _ => []

/-- What one round makes of the digests of a passphrase and of a salt. -/
def hash (passphrase salt : List UInt8) : List UInt8 :=
  let passphrase := (Digest.wordsOfBytes passphrase).toArray
  let salt := (Digest.wordsOfBytes salt).toArray
  let tables := churned passphrase salt 64 (Blowfish.initial.expand salt passphrase)
  let words := Nat.repeat (encryptPairs tables) 64 (Digest.wordsOfBytes text)
  words.flatMap fun (w : UInt32) => Bytes.ofNatLittle 4 w.toNat

/-- The sum of the outputs of further rounds and of those before. -/
def further (passphrase : List UInt8) : Nat → List UInt8 → List UInt8 → List UInt8
  | 0, _, sum => sum
  | n + 1, last, sum =>
    let next := hash passphrase (Digest.sha512 last)
    further passphrase n next (Bytes.xor sum next)

/-- A piece of a key; the first piece is number one. -/
def piece (passphrase salt : List UInt8) (rounds number : Nat) : List UInt8 :=
  let first := hash passphrase (Digest.sha512 (salt ++ Bytes.ofNat 4 number))
  further passphrase (rounds - 1) first first

/-- The number of bytes of a piece. -/
def pieceLength : Nat := 32

/-- A key of `length` bytes; there is none without a passphrase, a salt or a round. -/
def derive? (passphrase salt : List UInt8) (rounds length : Nat) : Option (List UInt8) :=
  if passphrase = [] ∨ salt = [] ∨ rounds = 0 then none
  else
    let count := (length + pieceLength - 1) / pieceLength
    let digest := Digest.sha512 passphrase
    let pieces := (List.range count).map fun i => piece digest salt rounds (i + 1)
    some ((List.range length).map fun i => (pieces.getD (i % count) []).getD (i / count) 0)

end JumpHost.Passphrase

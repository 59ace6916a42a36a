/-
**The ciphers of key files.**

The secret part of a key is encrypted by a block cipher in one of its modes or by a stream cipher.
The key of the cipher and its nonce are derived from the passphrase together.  Some of the ciphers
put a tag behind the text, so that a wrong passphrase shows at once; with the others it shows in
what is read from the text.

Main definitions:

* `JumpHost.KeyCipher` — the ciphers, with `name`, `ofName?` and their sizes;
* `JumpHost.KeyCipher.decrypt?` — the message of a text.

Main statements:

* `JumpHost.KeyCipher.ofName?_name` — the ciphers have names of their own.
-/

import JumpHost.Cipher.Aes
import JumpHost.Cipher.ChaCha
import JumpHost.Cipher.Mode

set_option autoImplicit false

namespace JumpHost

/-- The ciphers.  Those of blocks have keys of several sizes, in bytes. -/
inductive KeyCipher where
  /-- The key is in the clear. -/
  | clear
  | chained (keySize : Nat)
  | counted (keySize : Nat)
  | tagged (keySize : Nat)
  | stream
  /-- A cipher that is known by name alone. -/
  | tripleChained
  deriving DecidableEq

namespace KeyCipher

/-- All ciphers. -/
def all : List KeyCipher :=
  [clear, chained 16, chained 24, chained 32, counted 16, counted 24, counted 32, tagged 16,
    tagged 32, stream, tripleChained]

/-- The number of bits of a key. -/
def bits (keySize : Nat) : String := toString (8 * keySize)

/-- The name of a cipher. -/
def name : KeyCipher → String
  | clear => "none"
  | chained keySize => "aes" ++ bits keySize ++ "-cbc"
  | counted keySize => "aes" ++ bits keySize ++ "-ctr"
  | tagged keySize => "aes" ++ bits keySize ++ "-gcm@openssh.com"
  | stream => "chacha20-poly1305@openssh.com"
  | tripleChained => "3des-cbc"

/-- The cipher of a name. -/
def ofName? (name : String) : Option KeyCipher := all.find? (·.name = name)

/-- The ciphers have names of their own. -/
theorem ofName?_name {c : KeyCipher} (h : c ∈ all) : ofName? c.name = some c := by
  have each : ∀ c ∈ all, ofName? c.name = some c := by decide
  exact each c h

/-- The number of bytes of which a text is a multiple. -/
def blockSize : KeyCipher → Nat
  | chained _ | counted _ | tagged _ => 16
  | clear | stream | tripleChained => 8

/-- A tag of sixteen bytes is behind the text. -/
def hasTag : KeyCipher → Bool
  | tagged _ | stream => true
  | _ => false

/-- The number of bytes of a key. -/
def keySize : KeyCipher → Nat
  | clear => 0
  | chained n | counted n | tagged n => n
  | stream => 64
  | tripleChained => 24

/-- The number of bytes of a nonce. -/
def nonceSize : KeyCipher → Nat
  | chained _ | counted _ => 16
  | tagged _ => 12
  | tripleChained => 8
  | clear | stream => 0

/-- The message of a text and a tag, if the tag is right and the cipher is known. -/
def decrypt? (c : KeyCipher) (key nonce text tag : List UInt8) : Option (List UInt8) :=
  let block := Aes.encrypt (Aes.roundKeys key)
  match c with
  | chained _ => some (Mode.chained (Aes.decrypt (Aes.roundKeys key)) nonce text)
  | counted _ => some (Mode.counted block (Bytes.toNat nonce) text)
  | tagged _ => Mode.authentic? block nonce text tag
  | stream => ChaCha.authentic? (key.take 32) text tag
  | clear | tripleChained => none

end KeyCipher

end JumpHost

/-
**Containers of keys.**

A container begins with a mark and the names of a cipher and of a way to derive its key from a
passphrase.  Then come the number of keys, which is one, the public part and the key itself: as
blocks in the clear, or encrypted, perhaps with a tag behind.

Main definitions:

* `JumpHost.Container`, `JumpHost.Container.ofBytes` — a container;
* `JumpHost.Container.unlock` — the key in it, with a passphrase or without one.
-/

import JumpHost.Cipher.Passphrase
import JumpHost.PrivateKey.Cipher
import JumpHost.PrivateKey.Parts

set_option autoImplicit false

namespace JumpHost

/-- How the key of a cipher is derived from a passphrase. -/
structure Derivation where
  salt : List UInt8
  rounds : Nat
  deriving DecidableEq

/-- What is in a container. -/
inductive Container.Content where
  | clear (key : PrivateKey)
  | encrypted (text tag : List UInt8)
  deriving DecidableEq

/-- A container. -/
structure Container where
  cipher : KeyCipher
  derivation : Option Derivation
  publicPart : PublicPart
  content : Container.Content
  deriving DecidableEq

namespace Container

/-! ### Reading -/

/-- The first bytes of every container. -/
def mark : List UInt8 := Text.bytesOf "openssh-key-v1" ++ [0]

/-- The names of the ways to derive a key; the first one derives none. -/
def derivationOf? (name : String) : Option Bool :=
  if name = "none" then some false else if name = "bcrypt" then some true else none

open Unpacking in
/-- Reads how the key is derived. -/
def readDerivation : Unpacking (Option Derivation) := do
  if ← label derivationOf? then
    within do return some ⟨← bytes, ← number⟩
  else
    if (← size) ≠ 0 then throw .algorithm
    return none

open Unpacking in
/-- Reads an encrypted key, which must be the last of the container. -/
def readEncrypted (cipher : KeyCipher) : Unpacking Content := do
  let text ← bytes
  if text.length % cipher.blockSize ≠ 0 then throw .cryptographic
  let tag ← if cipher.hasTag then take 16 else pure []
  return .encrypted text tag

open Unpacking in
/-- Reads a container. -/
def read : Unpacking Container := do
  if (← take mark.length) ≠ mark then throw .format
  let cipher ← label KeyCipher.ofName?
  let derivation ← readDerivation
  if (← size) ≠ 1 then throw .length
  let publicPart ← within PublicPart.read
  if cipher ≠ .clear then
    return ⟨cipher, derivation, publicPart, ← readEncrypted cipher⟩
  if derivation.isSome then throw .cryptographic
  return ⟨cipher, derivation, publicPart,
    .clear (← within (PrivateKey.read cipher.blockSize publicPart))⟩

/-- The container of some bytes. -/
def ofBytes (bytes : List UInt8) : Except ContainerFault Container := read.run bytes

/-! ### Opening -/

/-- The blocks of an encrypted key. -/
def decrypt (c : Container) (passphrase : String) (text tag : List UInt8) :
    Except ContainerFault (List UInt8) :=
  match c.derivation with
  | none => .error .notEncrypted
  | some d =>
    let length := c.cipher.keySize + c.cipher.nonceSize
    match Passphrase.derive? (Text.bytesOf passphrase) d.salt d.rounds length with
    | none => .error .cryptographic
    | some derived =>
      let key := derived.take c.cipher.keySize
      match c.cipher.decrypt? key (derived.drop c.cipher.keySize) text tag with
      | none => .error .cryptographic
      | some blocks => .ok blocks

/-- The key in a container, opened by a passphrase if and only if it needs one. -/
def unlock (c : Container) (passphrase : Option String) : Except KeyError PrivateKey :=
  match c.content, passphrase with
  | .clear key, none => .ok key
  | .clear _, some _ => .error (.container .notEncrypted)
  | .encrypted _ _, none => .error .isEncrypted
  | .encrypted text tag, some passphrase =>
    let key := do
      let blocks ← c.decrypt passphrase text tag
      (PrivateKey.read c.cipher.blockSize c.publicPart).run blocks
    key.mapError .container

end Container

end JumpHost

/-
**The public and the secret part of a key.**

A key is of one of a few algorithms, or of one that somebody has named below a domain of their own.
The algorithm comes first and tells what the parts consist of.  Numbers are kept as the bytes that
they are written in.

Main definitions:

* `JumpHost.KeyAlgorithm` — the algorithms, with `name` and `ofName?`;
* `JumpHost.PublicPart`, `JumpHost.PublicPart.read` — what is public of a key;
* `JumpHost.SecretPart`, `JumpHost.PrivateKey` — what is secret, and both together;
* `JumpHost.PrivateKey.read` — reading a key.

Main statements:

* `JumpHost.KeyAlgorithm.ofName?_name` — the algorithms have names of their own.
-/

import JumpHost.Curve.Edwards
import JumpHost.Curve.Nist
import JumpHost.PrivateKey.Cursor
import JumpHost.Text.Cut

set_option autoImplicit false

namespace JumpHost

/-! ### Algorithms -/

/-- The algorithms of keys. -/
inductive KeyAlgorithm where
  | dsa
  | ecdsa (curve : NistCurve)
  | ed25519
  | rsa
  /-- The secret of the key lies in a token that is asked to sign. -/
  | tokenEcdsa
  | tokenEd25519
  /-- An algorithm that is named below a domain. -/
  | named (name : String)
  deriving DecidableEq

namespace KeyAlgorithm

/-- The algorithms that need no domain. -/
def common : List KeyAlgorithm :=
  [dsa, ecdsa .p256, ecdsa .p384, ecdsa .p521, ed25519, rsa, tokenEcdsa, tokenEd25519]

/-- The name of an algorithm. -/
def name : KeyAlgorithm → String
  | dsa => "ssh-dss"
  | ecdsa curve => "ecdsa-sha2-" ++ curve.name
  | ed25519 => "ssh-ed25519"
  | rsa => "ssh-rsa"
  | tokenEcdsa => "sk-ecdsa-sha2-nistp256@openssh.com"
  | tokenEd25519 => "sk-ssh-ed25519@openssh.com"
  | named name => name

/-- A name and a domain, with one `@` between them. -/
def isBelowDomain (name : String) : Bool :=
  name.toList.all (·.toNat < 128) &&
    match Text.cut ['@'] name.toList with
    | some (before, domain) => before ≠ [] && domain ≠ [] && !domain.contains '@'
    | none => false

/-- The algorithm of a name.  A key over a modulus can name the digest that it signs with. -/
def ofName? (name : String) : Option KeyAlgorithm :=
  match common.find? (·.name = name) with
  | some a => some a
  | none =>
    if name = "rsa-sha2-256" ∨ name = "rsa-sha2-512" then some rsa
    else if isBelowDomain name then some (named name)
    else none

/-- The algorithms have names of their own. -/
theorem ofName?_name {a : KeyAlgorithm} (h : a ∈ common) : ofName? a.name = some a := by
  have all : ∀ a ∈ common, common.find? (·.name = a.name) = some a := by decide
  simp [ofName?, all a h]

end KeyAlgorithm

/-! ### Points -/

namespace Unpacking

/-- The number of bytes of a point of which the first is `tag`, on a curve with coordinates of a
size; nothing if no point begins so. -/
def pointLength? (size : Nat) (tag : UInt8) : Option Nat :=
  if tag = 0 then some 1
  else if tag = 2 ∨ tag = 3 ∨ tag = 5 then some (1 + size)
  else if tag = 4 then some (1 + 2 * size)
  else none

/-- A point of a curve that is known. -/
def checkPoint (curve : NistCurve) (point : List UInt8) : Unpacking Unit := do
  if point.head?.bind (pointLength? curve.size) ≠ some point.length then throw .point

/-- The size of the coordinates of a point, by its tag and its length. -/
def coordinateSize : List UInt8 → Unpacking Nat
  | [] => throw .length
  | tag :: coordinates =>
    if tag = 2 ∨ tag = 3 then return coordinates.length
    else if tag = 4 then return coordinates.length / 2
    else if tag = 0 ∨ tag = 5 then throw .algorithm
    else throw .point

/-- The next two strings, the name of a curve and a point on it. -/
def point : Unpacking (NistCurve × List UInt8) := do
  let curve ← label NistCurve.ofName?
  let point ← bytesUpTo 133
  let size ← coordinateSize point
  match [NistCurve.p256, .p384, .p521].find? (·.size = size) with
  | none => throw .length
  | some found =>
    checkPoint found point
    if found ≠ curve then throw .algorithm
    return (curve, point)

end Unpacking

/-! ### The public part -/

/-- What is public of a key. -/
inductive PublicPart where
  | dsa (prime order generator value : List UInt8)
  | ecdsa (curve : NistCurve) (point : List UInt8)
  | ed25519 (point : List UInt8)
  | rsa (exponent modulus : List UInt8)
  | tokenEcdsa (point : List UInt8) (application : String)
  | tokenEd25519 (point : List UInt8) (application : String)
  | named (name : String) (content : List UInt8)
  deriving DecidableEq

namespace PublicPart

/-- The algorithm of a public part. -/
def algorithm : PublicPart → KeyAlgorithm
  | dsa _ _ _ _ => .dsa
  | ecdsa curve _ => .ecdsa curve
  | ed25519 _ => .ed25519
  | rsa _ _ => .rsa
  | tokenEcdsa _ _ => .tokenEcdsa
  | tokenEd25519 _ _ => .tokenEd25519
  | named name _ => .named name

open Unpacking in
/-- Reads the public part of a key of an algorithm. -/
def readOf : KeyAlgorithm → Unpacking PublicPart
  | .dsa => do return dsa (← integer) (← integer) (← integer) (← integer)
  | .ecdsa curve => do
    let (found, at') ← point
    if found ≠ curve then throw .algorithm
    return ecdsa curve at'
  | .ed25519 => do return ed25519 (← within (take 32))
  | .rsa => do return rsa (← integer) (← integer)
  | .tokenEcdsa => do
    if (← label NistCurve.ofName?) ≠ .p256 then throw .cryptographic
    let at' ← bytesUpTo 65
    checkPoint .p256 at'
    return tokenEcdsa at' (← text)
  | .tokenEd25519 => do return tokenEd25519 (← within (take 32)) (← text)
  | .named name => do return named name (← bytes)

open Unpacking in
/-- Reads the public part of a key behind its algorithm. -/
def read : Unpacking PublicPart := do readOf (← label KeyAlgorithm.ofName?)

end PublicPart

/-! ### The secret part -/

/-- What is secret of a key. -/
inductive SecretPart where
  | dsa (exponent : List UInt8)
  | ecdsa (factor : List UInt8)
  | ed25519 (seed : List UInt8)
  | rsa (exponent coefficient first second : List UInt8)
  /-- What the token needs to find the secret. -/
  | token (flags : UInt8) (handle reserved : List UInt8)
  | named (content : List UInt8)
  deriving DecidableEq

/-- A key: what is public and what is secret of it, and a comment. -/
structure PrivateKey where
  publicPart : PublicPart
  secretPart : SecretPart
  comment : String
  deriving DecidableEq

namespace PrivateKey

open Unpacking in
/-- The next string, a factor of the size of the coordinates of a curve, behind a zero if it is one
byte longer. -/
def readFactor (curve : NistCurve) : Unpacking (List UInt8) := within do
  if (← remaining) = curve.size + 1 then
    if (← byte) ≠ 0 then throw .format
  take curve.size

open Unpacking in
/-- The parts of a key behind its algorithm.  The public point of a seed must be the one that comes
with it. -/
def readParts (a : KeyAlgorithm) : Unpacking (PublicPart × SecretPart) := do
  match a with
  | .dsa =>
    let publicPart ← PublicPart.readOf a
    return (publicPart, .dsa (← integer))
  | .ecdsa curve =>
    let (found, at') ← point
    let factor ← readFactor found
    if found ≠ curve then throw .algorithm
    return (.ecdsa found at', .ecdsa factor)
  | .ed25519 =>
    let at' ← within (take 32)
    let both ← within (take 64)
    let seed := both.take 32
    let derived := Edwards.publicKey seed
    if derived ≠ both.drop 32 ∨ derived ≠ at' then throw .cryptographic
    return (.ed25519 at', .ed25519 seed)
  | .rsa =>
    let modulus ← integer
    let exponent ← integer
    return (.rsa exponent modulus, .rsa (← integer) (← integer) (← integer) (← integer))
  | .tokenEcdsa | .tokenEd25519 =>
    let publicPart ← PublicPart.readOf a
    return (publicPart, .token (← byte) (← bytes) (← bytes))
  | .named name => return (.named name (← bytes), .named (← bytes))

/-- The bytes that fill up the last block: one, two, three and so on. -/
def isFilling (content : List UInt8) : Bool :=
  content == (List.range content.length).map fun i => UInt8.ofNat (i + 1)

open Unpacking in
/-- Reads a key in blocks: a number twice, the key, of which the public part is known, a comment and
what fills up the last block. -/
def read (blockSize : Nat) (publicPart : PublicPart) : Unpacking PrivateKey := do
  if (← remaining) % blockSize ≠ 0 then throw .length
  let check ← number
  if (← number) ≠ check then throw .cryptographic
  let (found, secretPart) ← readParts (← label KeyAlgorithm.ofName?)
  if found ≠ publicPart then throw .publicPart
  let comment ← text
  let filling ← remaining
  if blockSize ≤ filling then throw .length
  if !isFilling (← take filling) then throw .format
  return ⟨publicPart, secretPart, comment⟩

end PrivateKey

end JumpHost

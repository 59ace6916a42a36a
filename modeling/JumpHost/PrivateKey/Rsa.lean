/-
**Keys over a modulus.**

The modulus of such a key is the product of two primes, and its exponents undo each other modulo
both of them.  A record of the key has three more numbers, which follow from these and save work:
the secret exponent modulo one less than each of the primes, and the inverse of the second prime
modulo the first.

Main definitions:

* `JumpHost.RsaNumbers`, `JumpHost.RsaNumbers.check` — the numbers, and whether they fit each other;
* `JumpHost.RsaNumbers.coefficient` — the inverse of the second prime;
* `JumpHost.RsaRecord`, `JumpHost.RsaRecord.read` — a record, and reading one;
* `JumpHost.RsaRecord.toKey`, `JumpHost.RsaRecord.ofBytes` — the key of a record.

Main statements:

* `JumpHost.RsaNumbers.coefficient_mul` — the coefficient is an inverse of the second prime.
-/

import JumpHost.Der.Value
import JumpHost.PrivateKey.Parts

set_option autoImplicit false

namespace JumpHost

/-! ### Numbers -/

/-- The numbers of a key. -/
structure RsaNumbers where
  modulus : Nat
  exponent : Nat
  /-- The secret exponent. -/
  secret : Nat
  first : Nat
  second : Nat
  deriving DecidableEq

namespace RsaNumbers

/-- The modulus and the exponent can be public. -/
def checkPublic (r : RsaNumbers) : Except ModulusFault Unit := do
  if UInt64.size ≤ r.exponent then throw .exponentTooLarge
  if r.modulus ≤ r.exponent ∨ r.modulus % 2 = 0 then throw .modulus
  if r.exponent % 2 = 0 then throw .exponent
  if r.exponent < 2 then throw .exponentTooSmall
  if (1 <<< 33) ≤ r.exponent then throw .exponentTooLarge

/-- The modulus is the product of the primes. -/
def checkProduct (r : RsaNumbers) : Except ModulusFault Unit :=
  if r.first ≤ 1 ∨ r.second ≤ 1 then .error .prime
  else if r.first * r.second ≠ r.modulus then .error .modulus
  else .ok ()

/-- The exponents undo each other modulo both primes. -/
def checkExponents (r : RsaNumbers) : Except ModulusFault Unit :=
  let both := r.secret * r.exponent
  if both % (r.first - 1) ≠ 1 ∨ both % (r.second - 1) ≠ 1 then .error .exponent else .ok ()

/-- The numbers fit each other. -/
def check (r : RsaNumbers) : Except ModulusFault Unit := do
  r.checkPublic
  r.checkProduct
  r.checkExponents

/-- The inverse of the second prime modulo the first. -/
def coefficient (r : RsaNumbers) : Except ModulusFault Nat :=
  match Modular.inverse? r.first r.second with
  | some inverse => .ok inverse
  | none => .error .prime

/-- The coefficient is an inverse of the second prime. -/
theorem coefficient_mul {r : RsaNumbers} {inverse : Nat} (h : r.coefficient = .ok inverse) :
    inverse * r.second % r.first = 1 % r.first := by
  unfold coefficient at h
  split at h
  · cases h
    exact Modular.mul_inverse ‹_›
  · cases h

end RsaNumbers

/-! ### Records -/

/-- A record of a key, as its numbers are written. -/
structure RsaRecord where
  modulus : List UInt8
  exponent : List UInt8
  secret : List UInt8
  first : List UInt8
  second : List UInt8
  /-- The secret exponent modulo one less than the first prime. -/
  firstSecret : List UInt8
  /-- The secret exponent modulo one less than the second prime. -/
  secondSecret : List UInt8
  coefficient : List UInt8
  /-- There are more primes than two. -/
  hasMore : Bool
  deriving DecidableEq

namespace RsaRecord

open Der.Decoder in
/-- Reads a number of a record. -/
def readNumber : Der.Decoder (List UInt8) := field integer

open Der.Decoder in
/-- Passes over a further prime, which has an exponent and a coefficient of its own. -/
def skipPrime : Der.Decoder Unit :=
  sequence do
    let _ ← readNumber
    let _ ← readNumber
    let _ ← readNumber

open Der.Decoder in
/-- Reads a record.  Its version tells whether there are more primes than two. -/
def read : Der.Decoder RsaRecord :=
  sequence do
    let version ← number 1
    if 1 < version then fail (.value .integer)
    let modulus ← readNumber
    let exponent ← readNumber
    let secret ← readNumber
    let first ← readNumber
    let second ← readNumber
    let firstSecret ← readNumber
    let secondSecret ← readNumber
    let coefficient ← readNumber
    let others ← field (optional (· = .sequence) (sequence (many skipPrime)))
    if (version == 1) != others.isSome then failHere (.value .integer)
    return ⟨modulus, exponent, secret, first, second, firstSecret, secondSecret, coefficient,
      others.isSome⟩

/-- The numbers of a record. -/
def numbers (r : RsaRecord) : RsaNumbers where
  modulus := Bytes.toNat r.modulus
  exponent := Bytes.toNat r.exponent
  secret := Bytes.toNat r.secret
  first := Bytes.toNat r.first
  second := Bytes.toNat r.second

/-- The key of a record. -/
def toKey (r : RsaRecord) : PrivateKey where
  publicPart := .rsa r.exponent r.modulus
  secretPart := .rsa r.secret r.coefficient r.first r.second
  comment := ""

/-- The secret exponent is what it should be modulo one less than each of the primes. -/
def checkSecrets (r : RsaRecord) : Except KeyError Unit :=
  let n := r.numbers
  if n.secret % (n.first - 1) = Bytes.toNat r.firstSecret ∧
      n.secret % (n.second - 1) = Bytes.toNat r.secondSecret then
    .ok ()
  else .error .corrupt

/-- The key of a record that is alone in a file.  What follows from its numbers is not used. -/
def ofBytes (bytes : List UInt8) : Except KeyError PrivateKey :=
  match read.run bytes with
  | .error fault => .error (.numbers (.encoding fault))
  | .ok r =>
    if r.hasMore then .error (.numbers .key)
    else
      match r.numbers.check with
      | .error _ => .error (.numbers .key)
      | .ok () => .ok r.toKey

end RsaRecord

end JumpHost

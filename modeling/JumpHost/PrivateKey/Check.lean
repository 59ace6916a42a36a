/-
**Keys that can sign.**

A key that was read is used only if it is of an algorithm that can sign here and if its numbers are
those of such a key: the secret ones must belong to the public ones.

Main definitions:

* `JumpHost.PrivateKey.checkNumbers` — the numbers of a key over a modulus;
* `JumpHost.PrivateKey.checkCurve` — the point and the factor of a key on a curve;
* `JumpHost.PrivateKey.check` — a key that can sign.
-/

import JumpHost.PrivateKey.Rsa

set_option autoImplicit false

namespace JumpHost.PrivateKey

/-- The numbers of a key over a modulus fit each other, and the coefficient is the inverse of its
second prime. -/
def checkNumbers (r : RsaNumbers) (coefficient : Nat) : Except KeyError Unit := do
  r.check.mapError .modulus
  if (← r.coefficient.mapError .modulus) ≠ coefficient then throw .corrupt

/-- The point of a key on a curve is the multiple of the base point by the factor. -/
def checkCurve (curve : NistCurve) (point factor : List UInt8) : Except KeyError Unit :=
  match curve.publicPoint? (Bytes.toNat factor), curve.decode? point with
  | some derived, some found => if derived = found then .ok () else .error .corrupt
  | _, _ => .error .curve

/-- A key that can sign. -/
def check (key : PrivateKey) : Except KeyError PrivateKey :=
  match key.publicPart, key.secretPart with
  | .ed25519 _, .ed25519 _ => .ok key
  | .ecdsa curve point, .ecdsa factor => do
    checkCurve curve point factor
    return key
  | .rsa exponent modulus, .rsa secret coefficient first second => do
    let numbers : RsaNumbers :=
      ⟨Bytes.toNat modulus, Bytes.toNat exponent, Bytes.toNat secret, Bytes.toNat first,
        Bytes.toNat second⟩
    checkNumbers numbers (Bytes.toNat coefficient)
    return key
  | publicPart, _ => .error (.unsupported publicPart.algorithm.name)

end JumpHost.PrivateKey

/-
**The twisted curve on which keys sign.**

The points are the pairs modulo a prime with `y ^ 2 - x ^ 2 = 1 + d x ^ 2 y ^ 2`; one rule adds any
two of them.  A secret of 32 bytes is hashed, and its point is the multiple of the base point by the
first half of the digest, of which a few bits are fixed.

Main definitions:

* `JumpHost.Edwards.Point`, `JumpHost.Edwards.Point.multiple` — points and their multiples;
* `JumpHost.Edwards.Point.bytes` — a point as 32 bytes;
* `JumpHost.Edwards.publicKey` — the public key of a secret.
-/

import JumpHost.Bytes
import JumpHost.Curve.Modular
import JumpHost.Digest.Sha512

set_option autoImplicit false

namespace JumpHost.Edwards

/-- The prime of the coordinates. -/
def prime : Nat := (1 <<< 255) - 19

/-- The coefficient of the curve: minus 121665 parts of 121666. -/
def coefficient : Nat := Modular.quotient prime (prime - 121665) 121666

/-- A point. -/
structure Point where
  (x y : Nat)
  deriving DecidableEq

namespace Point

/-- The neutral point. -/
def neutral : Point := ⟨0, 1⟩

/-- The base point; its second coordinate is four fifths. -/
def base : Point :=
  ⟨0x216936d3cd6e53fec0a4e231fdd6dc5c692cc7609525a7b2c9562d608f25d51a, Modular.quotient prime 4 5⟩

/-- The sum of two points. -/
def add (s t : Point) : Point :=
  let cross := coefficient * (s.x * t.x % prime) * (s.y * t.y % prime) % prime
  ⟨Modular.quotient prime (s.x * t.y + t.x * s.y) (1 + cross),
    Modular.quotient prime (s.y * t.y + s.x * t.x) (Modular.minus prime 1 cross)⟩

/-- The multiple of a point. -/
def multiple (n : Nat) (s : Point) : Point :=
  if _h : n = 0 then neutral
  else
    let even := multiple (n / 2) (s.add s)
    if n % 2 = 1 then s.add even else even
termination_by n
decreasing_by exact Nat.div_lt_self (by omega) (by omega)

/-- A point as bytes: the second coordinate, the least significant byte first, and in the last bit
whether the first one is odd. -/
def bytes (s : Point) : List UInt8 := Bytes.ofNatLittle 32 (s.y + (s.x % 2) <<< 255)

end Point

/-- The factor of a secret: the lowest three bits are cleared and the highest bit but one is the
highest that is set. -/
def factor (secret : List UInt8) : Nat :=
  let half := Bytes.toNatLittle ((Digest.sha512 secret).take 32)
  8 * (half % (1 <<< 254) / 8) + (1 <<< 254)

/-- The public key of a secret. -/
def publicKey (secret : List UInt8) : List UInt8 := (Point.base.multiple (factor secret)).bytes

end JumpHost.Edwards

/-
**The curves of the standard.**

The points of such a curve are the pairs modulo a prime with `y ^ 2 = x ^ 3 - 3 x + b`, and one more
point, the neutral one.  There are three of these curves; each has a base point of prime order.  A
point is written as bytes with both of its coordinates, or with the first one and whether the second
is odd.

Main definitions:

* `JumpHost.NistCurve`, `JumpHost.NistCurve.Parameters` — the curves;
* `JumpHost.NistCurve.Point`, `JumpHost.NistCurve.multiple` — points and their multiples;
* `JumpHost.NistCurve.isOnCurve` — the pairs that are points;
* `JumpHost.NistCurve.decode?` — the point that bytes stand for;
* `JumpHost.NistCurve.encode`, `JumpHost.NistCurve.encodeShort` — the bytes of a point;
* `JumpHost.NistCurve.publicPoint?` — the point of a secret factor.

Main statements:

* `JumpHost.NistCurve.isOnCurve_of_decode?` — bytes stand for points of the curve alone;
* `JumpHost.NistCurve.decode?_encode_iff` — a point that is written reads back.
-/

import JumpHost.Bytes
import JumpHost.Curve.Modular

set_option autoImplicit false

namespace JumpHost

/-- The curves. -/
inductive NistCurve where
  | p256
  | p384
  | p521
  deriving DecidableEq

namespace NistCurve

/-- The name of a curve. -/
def name : NistCurve → String
  | p256 => "nistp256"
  | p384 => "nistp384"
  | p521 => "nistp521"

/-- The curve of a name. -/
def ofName? (name : String) : Option NistCurve :=
  [p256, p384, p521].find? (·.name = name)

/-! ### Parameters -/

/-- The numbers that make a curve. -/
structure Parameters where
  /-- The number of bytes of a coordinate. -/
  size : Nat
  prime : Nat
  constant : Nat
  baseX : Nat
  baseY : Nat
  /-- The order of the base point. -/
  order : Nat

/-- A number in pieces of 256 bits, the most significant first. -/
def joined (pieces : List Nat) : Nat := pieces.foldl (fun n piece => (n <<< 256) + piece) 0

/-- The parameters of the shortest curve. -/
def nistp256 : Parameters where
  size := 32
  prime := (1 <<< 256) - (1 <<< 224) + (1 <<< 192) + (1 <<< 96) - 1
  constant := 0x5ac635d8aa3a93e7b3ebbd55769886bc651d06b0cc53b0f63bce3c3e27d2604b
  baseX := 0x6b17d1f2e12c4247f8bce6e563a440f277037d812deb33a0f4a13945d898c296
  baseY := 0x4fe342e2fe1a7f9b8ee7eb4a7c0f9e162bce33576b315ececbb6406837bf51f5
  order := 0xffffffff00000000ffffffffffffffffbce6faada7179e84f3b9cac2fc632551

/-- The parameters of the middle curve. -/
def nistp384 : Parameters where
  size := 48
  prime := (1 <<< 384) - (1 <<< 128) - (1 <<< 96) + (1 <<< 32) - 1
  constant := joined
      [0xb3312fa7e23ee7e4988e056be3f82d19,
       0x181d9c6efe8141120314088f5013875ac656398d8a2ed19d2a85c8edd3ec2aef]
  baseX := joined
      [0xaa87ca22be8b05378eb1c71ef320ad74,
       0x6e1d3b628ba79b9859f741e082542a385502f25dbf55296c3a545e3872760ab7]
  baseY := joined
      [0x3617de4a96262c6f5d9e98bf9292dc29,
       0xf8f41dbd289a147ce9da3113b5f0b8c00a60b1ce1d7e819d7a431d7c90ea0e5f]
  order := joined
      [0xffffffffffffffffffffffffffffffff,
       0xffffffffffffffffc7634d81f4372ddf581a0db248b0a77aecec196accc52973]

/-- The parameters of the longest curve. -/
def nistp521 : Parameters where
  size := 66
  prime := (1 <<< 521) - 1
  constant := joined
      [0x51,
       0x953eb9618e1c9a1f929a21a0b68540eea2da725b99b315f3b8b489918ef109e1,
       0x56193951ec7e937b1652c0bd3bb1bf073573df883d2c34f1ef451fd46b503f00]
  baseX := joined
      [0xc6,
       0x858e06b70404e9cd9e3ecb662395b4429c648139053fb521f828af606b4d3dba,
       0xa14b5e77efe75928fe1dc127a2ffa8de3348b3c1856a429bf97e7e31c2e5bd66]
  baseY := joined
      [0x118,
       0x39296a789a3bc0045c8a5fb42c7d1bd998f54449579b446817afbd17273e662c,
       0x97ee72995ef42640c550b9013fad0761353c7086a272c24088be94769fd16650]
  order := joined
      [0x1ff,
       0xfffffffffffffffffffffffffffffffffffffffffffffffffffffffffffffffa,
       0x51868783bf2f966b7fcc0148f709a5d03bb5c9b8899c47aebb6fb71e91386409]

/-- The parameters of a curve. -/
def parameters : NistCurve → Parameters
  | p256 => nistp256
  | p384 => nistp384
  | p521 => nistp521

/-- The number of bytes of a coordinate. -/
def size (curve : NistCurve) : Nat := curve.parameters.size

/-! ### Points -/

/-- A point. -/
inductive Point where
  | neutral
  | affine (x y : Nat)
  deriving DecidableEq

/-- The right side of the equation of the curve. -/
def cubic (c : Parameters) (x : Nat) : Nat :=
  Modular.minus c.prime (x * x % c.prime * x + c.constant) (3 * x)

/-- The pairs that are points. -/
def isOnCurve (c : Parameters) (x y : Nat) : Bool :=
  x < c.prime && y < c.prime && y * y % c.prime == cubic c x

/-- The third point on the line of a slope through two points, reflected. -/
def third (c : Parameters) (slope x₁ y₁ x₂ : Nat) : Point :=
  let x := Modular.minus c.prime (slope * slope) (x₁ + x₂)
  .affine x (Modular.minus c.prime (slope * Modular.minus c.prime x₁ x) y₁)

/-- The sum of two points. -/
def add (c : Parameters) : Point → Point → Point
  | .neutral, t => t
  | s, .neutral => s
  | .affine x₁ y₁, .affine x₂ y₂ =>
    if x₁ = x₂ then
      if (y₁ + y₂) % c.prime = 0 then .neutral
      else
        let slope := Modular.quotient c.prime (3 * Modular.minus c.prime (x₁ * x₁) 1) (2 * y₁)
        third c slope x₁ y₁ x₂
    else
      let slope :=
        Modular.quotient c.prime (Modular.minus c.prime y₂ y₁) (Modular.minus c.prime x₂ x₁)
      third c slope x₁ y₁ x₂

/-- The multiple of a point. -/
def multiple (c : Parameters) (n : Nat) (s : Point) : Point :=
  if _h : n = 0 then .neutral
  else
    let even := multiple c (n / 2) (add c s s)
    if n % 2 = 1 then add c s even else even
termination_by n
decreasing_by exact Nat.div_lt_self (by omega) (by omega)

/-- The point of a secret factor, which is less than the order and not zero. -/
def publicPoint? (curve : NistCurve) (factor : Nat) : Option Point :=
  let c := curve.parameters
  if 0 < factor ∧ factor < c.order then some (multiple c factor (.affine c.baseX c.baseY))
  else none

/-! ### Bytes -/

/-- The point with a first coordinate, and with the second one odd or even; the root is a power,
because the prime is one less than a multiple of four. -/
def lift? (c : Parameters) (isOdd : Bool) (x : Nat) : Option Point :=
  let root := Modular.power c.prime (cubic c x) ((c.prime + 1) / 4)
  let y := if (root % 2 == 1) == isOdd then root else (c.prime - root) % c.prime
  if isOnCurve c x y then some (.affine x y) else none

/-- The point that bytes stand for. -/
def decode? (curve : NistCurve) : List UInt8 → Option Point
  | [] => none
  | tag :: bytes =>
    let c := curve.parameters
    let x := Bytes.toNat (bytes.take c.size)
    if tag = 4 then
      let y := Bytes.toNat (bytes.drop c.size)
      if isOnCurve c x y then some (.affine x y) else none
    else lift? c (tag = 3) x

/-- The bytes of a point with both of its coordinates. -/
def encode (curve : NistCurve) : Point → List UInt8
  | .neutral => [0]
  | .affine x y => 4 :: (Bytes.ofNat curve.size x ++ Bytes.ofNat curve.size y)

/-- The bytes of a point with its first coordinate and whether the second one is odd. -/
def encodeShort (curve : NistCurve) : Point → List UInt8
  | .neutral => [0]
  | .affine x y => UInt8.ofNat (2 + y % 2) :: Bytes.ofNat curve.size x

theorem isOnCurve_of_lift? {c : Parameters} {isOdd : Bool} {x₀ x y : Nat}
    (h : lift? c isOdd x₀ = some (.affine x y)) : isOnCurve c x y = true := by
  unfold lift? at h
  simp only [Option.ite_none_right_eq_some, Option.some.injEq, Point.affine.injEq] at h
  obtain ⟨on, rfl, rfl⟩ := h
  exact on

theorem isOnCurve_of_decode? {curve : NistCurve} {bytes : List UInt8} {x y : Nat}
    (h : curve.decode? bytes = some (.affine x y)) : isOnCurve curve.parameters x y = true := by
  unfold decode? at h
  split at h
  · cases h
  · simp only at h
    split at h
    · simp only [Option.ite_none_right_eq_some, Option.some.injEq, Point.affine.injEq] at h
      obtain ⟨on, rfl, rfl⟩ := h
      exact on
    · exact isOnCurve_of_lift? h

theorem prime_lt (curve : NistCurve) : curve.parameters.prime < Nat.pow 256 curve.size := by
  cases curve <;> decide +kernel

/-- Both coordinates of a pair read back exactly if the pair is a point of the curve. -/
theorem decode?_encode_iff {curve : NistCurve} {x y : Nat} :
    curve.decode? (curve.encode (.affine x y)) = some (.affine x y) ↔
      isOnCurve curve.parameters x y = true := by
  refine ⟨isOnCurve_of_decode?, fun h => ?_⟩
  have hpair := h
  simp only [isOnCurve, Bool.and_eq_true, decide_eq_true_eq] at hpair
  obtain ⟨⟨hx, hy⟩, -⟩ := hpair
  have hlength : curve.parameters.size = (Bytes.ofNat curve.size x).length :=
    (Bytes.length_ofNat curve.size x).symm
  simp only [encode, decode?, if_true]
  rw [hlength, List.take_left, List.drop_left,
    Bytes.toNat_ofNat (Nat.lt_trans hx curve.prime_lt),
    Bytes.toNat_ofNat (Nat.lt_trans hy curve.prime_lt), if_pos h]

end NistCurve

end JumpHost

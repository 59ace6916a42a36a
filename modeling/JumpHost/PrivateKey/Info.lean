/-
**Keys behind the names of their algorithms.**

Such a key is a row in a distinguished encoding: a version, an algorithm, a content that is written
as the algorithm demands, and perhaps the public part of the key.  The algorithms are those of keys
from a seed, of keys over a modulus and of keys on a curve; the last of them takes the name of the
curve.

Main definitions:

* `JumpHost.KeyInfo`, `JumpHost.KeyInfo.read` — a key behind the name of its algorithm;
* `JumpHost.KeyInfo.seedKey`, `JumpHost.KeyInfo.modulusKey`, `JumpHost.KeyInfo.curveKey` — keys of
  the three algorithms;
* `JumpHost.KeyInfo.toKey` — the key, of which the numbers fit each other.

Main statements:

* `JumpHost.KeyInfo.length_of_fullFactor?` — a factor has as many bytes as a coordinate.
-/

import JumpHost.PrivateKey.Check

set_option autoImplicit false

namespace JumpHost

/-- A key behind the name of its algorithm. -/
structure KeyInfo where
  algorithm : Der.Algorithm
  content : List UInt8
  /-- The public part of the key, if it is told. -/
  publicBytes : Option (List UInt8)
  deriving DecidableEq

namespace KeyInfo

open Der

/-! ### Reading -/

open Decoder in
/-- Reads a key behind the name of its algorithm.  Its version tells whether the public part is
there; what comes behind is passed over. -/
def read : Decoder KeyInfo :=
  sequence do
    let version ← number 1
    if 1 < version then fail (.value .integer)
    let algorithm ← field Decoder.algorithm
    let content ← octets
    let publicBytes ← implicitBits? 1
    if (version == 1) != publicBytes.isSome then failHere (.value (.inContext 1))
    many (field do let _ ← explicit any)
    return ⟨algorithm, content, publicBytes⟩

/-! ### Names -/

/-- The name of keys from a seed. -/
def seedId : ObjectId := .ofArcs [1, 3, 101, 112]

/-- The name of keys over a modulus. -/
def modulusId : ObjectId := .ofArcs [1, 2, 840, 113549, 1, 1, 1]

/-- The name of keys on a curve. -/
def curveId : ObjectId := .ofArcs [1, 2, 840, 10045, 2, 1]

/-- The names of the curves. -/
def curveIds : List (ObjectId × NistCurve) :=
  [(.ofArcs [1, 2, 840, 10045, 3, 1, 7], .p256), (.ofArcs [1, 3, 132, 0, 34], .p384),
   (.ofArcs [1, 3, 132, 0, 35], .p521)]

/-! ### Keys from a seed -/

/-- A key from a seed: the content is a string of bytes, written as such once more. -/
def seedKey (i : KeyInfo) : Except KeyError PrivateKey := do
  if i.algorithm.parameters.isSome then throw (.info .parameters)
  let seed := i.content.drop 2
  if i.content.take 2 ≠ [4, 32] ∨ seed.length ≠ 32 ∨ i.publicBytes.any (·.length ≠ 32) then
    throw (.info .key)
  return ⟨.ed25519 (Edwards.publicKey seed), .ed25519 seed, ""⟩

/-! ### Keys over a modulus -/

/-- A key over a modulus: the content is a record of it. -/
def modulusKey (i : KeyInfo) : Except KeyError PrivateKey := do
  let record ← (RsaRecord.read.run i.content).mapError .numbersEncoding
  let key ← record.toKey.check
  record.checkSecrets
  return key

/-! ### Keys on a curve -/

/-- The curve that is the parameter of the algorithm. -/
def curve (i : KeyInfo) : Except KeyError NistCurve :=
  match i.algorithm.parameters with
  | none => .error (.algorithm .missing)
  | some parameters =>
    match parameters.objectId with
    | .error fault => .error (.algorithm (.encoding fault))
    | .ok id =>
      match curveIds.lookup id with
      | some curve => .ok curve
      | none => .error (.unknownAlgorithm id)

open Decoder in
/-- Reads the content of a key on a curve: the factor, and the point if it is told. -/
def readFactor : Decoder (List UInt8 × Option (List UInt8)) :=
  sequence do
    if (← number 1) ≠ 1 then fail (.value .integer)
    let factor ← octets
    let _ ← explicit? 0 objectId
    return (factor, ← explicitBits? 1)

/-- The fewest bytes of a factor. -/
def factorMinimum : Nat := 24

/-- A factor behind zeros, in as many bytes as a coordinate of the curve has. -/
def fullFactor? (curve : NistCurve) (factor : List UInt8) : Option (List UInt8) :=
  let missing := curve.size - factor.length
  if factor.length = curve.size ∨ factorMinimum ≤ factor.length ∧ factor.length < curve.size then
    some (List.replicate missing 0 ++ factor)
  else none

theorem length_of_fullFactor? {curve : NistCurve} {factor full : List UInt8}
    (h : fullFactor? curve factor = some full) : full.length = curve.size := by
  simp only [fullFactor?, Option.ite_none_right_eq_some, Option.some.injEq] at h
  obtain ⟨fits, rfl⟩ := h
  rw [List.length_append, List.length_replicate]
  omega

/-- The key of a factor, and of the point if it is told, which must then be that of the factor. -/
def ofFactor (curve : NistCurve) (factor : List UInt8) (point? : Option (List UInt8)) :
    Except Fault PrivateKey := do
  let some factor := fullFactor? curve factor | throw ⟨.value .sequence, none⟩
  let some derived := curve.publicPoint? (Bytes.toNat factor) | throw ⟨.value .sequence, none⟩
  let point := curve.encode derived
  if point?.any fun told => told ≠ point ∧ told ≠ curve.encodeShort derived then
    throw ⟨.value .bitString, none⟩
  return ⟨.ecdsa curve point, .ecdsa factor, ""⟩

/-- A key on a curve: the content is its factor. -/
def curveKey (i : KeyInfo) : Except KeyError PrivateKey := do
  let curve ← i.curve
  let key := do
    let (factor, point?) ← readFactor.run i.content
    ofFactor curve factor point?
  key.mapError fun fault => .info (.encoding fault)

/-! ### All keys -/

/-- The key, of which the numbers fit each other. -/
def toKey (i : KeyInfo) : Except KeyError PrivateKey :=
  let id := i.algorithm.id
  if id = seedId then i.seedKey
  else if id = modulusId then i.modulusKey
  else if id = curveId then i.curveKey
  else .error (.unknownAlgorithm id)

end KeyInfo

end JumpHost

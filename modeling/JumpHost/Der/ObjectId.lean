/-
**Names that are known to all.**

Algorithms and curves have names that are paths of numbers, in a tree that everyone shares.  A path
is written in bytes: the first byte holds two numbers, and every further number is written in groups
of seven bits, all but the last of them marked.  Two names are the same if their bytes are.

Main definitions:

* `JumpHost.Der.ObjectId`, with `ofBytes?`, `arcs` and `text` — a name;
* `JumpHost.Der.ObjectId.ofArcs` — the name of a path.
-/

import JumpHost.Text.Numeral

set_option autoImplicit false

namespace JumpHost.Der

/-- A name. -/
structure ObjectId where
  bytes : List UInt8
  deriving DecidableEq

namespace ObjectId

/-- The numbers that bytes are written for, when `count` groups of the first of them make `value`
so far.  A number has 32 bits. -/
def arcsFrom (count value : Nat) : List UInt8 → Option (List Nat)
  | [] => if count = 0 then some [] else none
  | b :: s =>
    if 5 ≤ count ∧ 16 ≤ b.toNat then none
    else
      let value := (128 * value + b.toNat % 128) % 0x100000000
      if b.toNat < 128 then (arcsFrom 0 0 s).map (value :: ·) else arcsFrom (count + 1) value s

/-- The most bytes of a name. -/
def lengthLimit : Nat := 39

/-- The name that bytes are written for. -/
def ofBytes? (bytes : List UInt8) : Option ObjectId :=
  match bytes with
  | first :: rest =>
    if 3 ≤ bytes.length ∧ bytes.length ≤ lengthLimit ∧ first.toNat < 120 ∧
        (arcsFrom 0 0 rest).isSome then
      some ⟨bytes⟩
    else none
  | [] => none

/-- The numbers of a name. -/
def arcs (id : ObjectId) : List Nat :=
  match id.bytes with
  | [] => []
  | first :: rest => first.toNat / 40 :: first.toNat % 40 :: (arcsFrom 0 0 rest).getD []

/-- The way a name is shown. -/
def text (id : ObjectId) : String :=
  ".".intercalate (id.arcs.map fun arc => String.ofList (Text.numeral arc))

/-! ### Writing -/

/-- The marked groups of seven bits of a number, `count` at most. -/
def marked : Nat → Nat → List UInt8
  | 0, _ => []
  | count + 1, n =>
    if n = 0 then [] else marked count (n / 128) ++ [UInt8.ofNat (n % 128 + 128)]

/-- The groups of seven bits of a number of 32 bits; the last of them is not marked. -/
def arcBytes (n : Nat) : List UInt8 := marked 4 (n / 128) ++ [UInt8.ofNat (n % 128)]

/-- The name of a path of three numbers or more. -/
def ofArcs : List Nat → ObjectId
  | first :: second :: rest => ⟨UInt8.ofNat (40 * first + second) :: rest.flatMap arcBytes⟩
  | _ => ⟨[]⟩

end ObjectId

end JumpHost.Der

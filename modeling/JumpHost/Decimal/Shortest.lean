/-
**The shortest decimal that reads back.**

A binary floating-point number stands for every real number that is nearer to it than to its
neighbours.  Of the decimals in that interval its text shows one with the fewest digits, and of
those the nearest.  The search goes through the decimal grids from the coarsest to the finest: if a
grid has a point in the interval, then one of the two points around the number lies in it.

Main definitions:

* `JumpHost.Decimal.Binary` — a positive number and the interval of the reals that it stands for;
* `JumpHost.Decimal.Scientific` — a decimal;
* `JumpHost.Decimal.Binary.nearest?` — the nearest point of a grid in the interval;
* `JumpHost.Decimal.Binary.shortest` — the shortest decimal.
-/

set_option autoImplicit false

namespace JumpHost.Decimal

/-- The positive number `significand * 2 ^ exponent`. -/
structure Binary where
  significand : Nat
  exponent : Int
  /-- The neighbour below is at half the distance of the neighbour above. -/
  isNarrowBelow : Bool

/-- The decimal `digits * 10 ^ exponent`. -/
structure Scientific where
  digits : Nat
  exponent : Int
  deriving DecidableEq

namespace Binary

/-- Four times the number, in units of the grid `10 ^ k` divided by `b.unit k`. -/
def scaled (b : Binary) (k : Int) (quarters : Nat) : Nat :=
  quarters * (Nat.pow 2 (b.exponent - 2).toNat * Nat.pow 10 (-k).toNat)

/-- The distance of two points of the grid `10 ^ k`, in the units of `b.scaled k`. -/
def unit (b : Binary) (k : Int) : Nat :=
  Nat.pow 2 (2 - b.exponent).toNat * Nat.pow 10 k.toNat

/-- The end of the interval below the number, in quarters of the last binary place. -/
def low (b : Binary) : Nat := 4 * b.significand - if b.isNarrowBelow then 1 else 2

/-- The end of the interval above the number, in quarters of the last binary place. -/
def high (b : Binary) : Nat := 4 * b.significand + 2

/-- The number stands for the point `n` of the grid `10 ^ k`.  The ends of the interval belong to
it exactly if the significand is even. -/
def stands (b : Binary) (k : Int) (n : Nat) : Bool :=
  let point := n * b.unit k
  if b.significand % 2 = 0 then b.scaled k b.low ≤ point && point ≤ b.scaled k b.high
  else b.scaled k b.low < point && point < b.scaled k b.high

/-- The point of the grid `10 ^ k` just below the number. -/
def below (b : Binary) (k : Int) : Nat := b.scaled k (4 * b.significand) / b.unit k

/-- Of the two points of the grid `10 ^ k` around the number the nearer one, the even one if both
are equally near. -/
def nearer (b : Binary) (k : Int) : Nat :=
  let down := b.below k
  let number := b.scaled k (4 * b.significand)
  match compare (number - down * b.unit k) ((down + 1) * b.unit k - number) with
  | .lt => down
  | .gt => down + 1
  | .eq => if down % 2 = 0 then down else down + 1

/-- The nearest point of the grid `10 ^ k` that the number stands for, if there is one. -/
def nearest? (b : Binary) (k : Int) : Option Nat :=
  if b.stands k (b.nearer k) then some (b.nearer k)
  else if b.stands k (b.below k) then some (b.below k)
  else if b.stands k (b.below k + 1) then some (b.below k + 1)
  else none

/-- Searches the grids from `10 ^ k` down; of the last one the point below the number is taken. -/
def search (b : Binary) : Nat → Int → Scientific
  | 0, k => ⟨b.below k, k⟩
  | n + 1, k =>
    match b.nearest? k with
    | some digits => ⟨digits, k⟩
    | none => search b n (k - 1)

/-- The shortest decimal that the number stands for.  The first grid is coarser than every finite
number, and every number is a point of the last one. -/
def shortest (b : Binary) : Scientific := b.search 1383 309

end Binary

end JumpHost.Decimal

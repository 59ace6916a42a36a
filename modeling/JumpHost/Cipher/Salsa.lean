/-
**A mixer of additions, turns and sums.**

Sixteen words are mixed in columns and rows.  They are kept by their diagonals, so that all columns
are mixed at once, and after the diagonals were turned against each other all rows are.  Eight half
rounds and the sum with the words that they began with are the mixture.

Main definitions:

* `JumpHost.Salsa.ofRows`, `JumpHost.Salsa.toRows` — the diagonals of a square, and its rows;
* `JumpHost.Salsa.core` — the mixture.
-/

import JumpHost.Cipher.Row

set_option autoImplicit false

namespace JumpHost.Salsa

/-- The diagonals of a square of rows. -/
def ofRows (s : Square) : Square :=
  ⟨⟨s.w.a, s.x.b, s.y.c, s.z.d⟩, ⟨s.x.a, s.y.b, s.z.c, s.w.d⟩,
    ⟨s.y.a, s.z.b, s.w.c, s.x.d⟩, ⟨s.z.a, s.w.b, s.x.c, s.y.d⟩⟩

/-- The rows of a square of diagonals. -/
def toRows (s : Square) : Square :=
  ⟨⟨s.w.a, s.z.b, s.y.c, s.x.d⟩, ⟨s.x.a, s.w.b, s.z.c, s.y.d⟩,
    ⟨s.y.a, s.x.b, s.w.c, s.z.d⟩, ⟨s.z.a, s.y.b, s.x.c, s.w.d⟩⟩

/-- A step: a row is changed by the sum of two others, turned by `n` bits. -/
def step (n : UInt32) (target v w : Row) : Row := target.xor ((v.add w).rotate n)

/-- All columns are mixed. -/
def mixColumns (s : Square) : Square :=
  let x := step 7 s.x s.w s.z
  let y := step 9 s.y x s.w
  let z := step 13 s.z y x
  ⟨step 18 s.w z y, x, y, z⟩

/-- Columns become rows, and rows columns. -/
def cross (s : Square) : Square := ⟨s.w, s.z.turn, s.y.turn.turn, s.x.turn.turn.turn⟩

/-- The columns and the rows are mixed. -/
def mix (s : Square) : Square := cross (mixColumns (cross (mixColumns s)))

/-- The mixture of the words of a square of diagonals. -/
def core (s : Square) : Square := (mix (mix (mix (mix s)))).add s

end JumpHost.Salsa

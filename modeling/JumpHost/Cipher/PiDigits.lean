/-
**The digits of the number pi.**

The tables of a cipher that must not seem to be chosen are the binary digits of pi behind the point.
They are reckoned by the formula that makes pi of the arcs whose tangents are `1 / 5` and `1 / 239`,
as whole multiples of a small unit.

Main definitions:

* `JumpHost.PiDigits.arc` — an arc by its tangent, in units;
* `JumpHost.PiDigits.words` — the digits of pi behind the point, 32 at a time.
-/

set_option autoImplicit false

namespace JumpHost.PiDigits

/-- The alternating sum of the powers, each divided by its exponent: the first power is given, and
every further one is that of an exponent that is larger by two. -/
def alternating (square power exponent : Nat) : Nat :=
  if _h : power = 0 ∨ square < 2 then 0
  else power / exponent - alternating square (power / square) (exponent + 2)
termination_by power
decreasing_by exact Nat.div_lt_self (by omega) (by omega)

/-- The arc whose tangent is one part of `n`, in units of which there are `scale` to one. -/
def arc (scale n : Nat) : Nat := alternating (n * n) (scale / n) 1

/-- The words of digits behind the point; the unit is 64 digits smaller than the last of them. -/
def words (count : Nat) : List UInt32 :=
  let scale := 1 <<< (32 * count + 64)
  let pi := 16 * arc scale 5 - 4 * arc scale 239
  (List.range count).map fun i => UInt32.ofNat (pi >>> (32 * (count - 1 - i) + 64))

end JumpHost.PiDigits

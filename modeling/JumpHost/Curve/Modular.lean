/-
**Reckoning modulo a number.**

The coordinates of points on curves are numbers modulo a prime.  Powers are taken by squaring, and
inverses by the chain of divisions that ends in the greatest common divisor.

Main definitions:

* `JumpHost.Modular.power` — a power modulo a number;
* `JumpHost.Modular.inverse?` — the inverse of a number, if it has one;
* `JumpHost.Modular.minus` — a difference that does not stop at zero.

Main statements:

* `JumpHost.Modular.power_eq` — the power is that of the numbers, reduced;
* `JumpHost.Modular.mul_inverse` — an inverse inverts.
-/

set_option autoImplicit false

namespace JumpHost.Modular

/-- The power of a number modulo `m`. -/
def power (m base exponent : Nat) : Nat :=
  if _h : exponent = 0 then 1 % m
  else
    let half := power m (base * base % m) (exponent / 2)
    if exponent % 2 = 1 then base * half % m else half
termination_by exponent
decreasing_by exact Nat.div_lt_self (by omega) (by omega)

/-- The last divisor of the chain of divisions that goes on with `r` and `s`, and its coefficient,
when those of `r` and `s` are given. -/
def divide (r s : Nat) (a b : Int) : Nat × Int :=
  if _h : s = 0 then (r, a) else divide s (r % s) b (a - (r / s : Nat) * b)
termination_by s
decreasing_by exact Nat.mod_lt _ (by omega)

/-- The inverse of a number modulo `m`, if it has one. -/
def inverse? (m n : Nat) : Option Nat :=
  let (divisor, coefficient) := divide m (n % m) 0 1
  if divisor = 1 then some (coefficient % m).toNat else none

/-- The difference of two numbers modulo `m`. -/
def minus (m a b : Nat) : Nat := (a + (m - b % m)) % m

/-- The quotient of two numbers modulo `m`, zero if there is none. -/
def quotient (m a b : Nat) : Nat := a * (inverse? m b).getD 0 % m

/-! ### What they are -/

/-- The power is that of the numbers, reduced. -/
theorem power_eq (m base exponent : Nat) : power m base exponent = Nat.pow base exponent % m := by
  fun_induction power m base exponent with
  | case1 base => rfl
  | case2 base exponent h half odd ih =>
    have split : exponent = 2 * (exponent / 2) + 1 := by omega
    have square : Nat.pow base exponent =
        base * Nat.pow (base * base) (exponent / 2) := by
      conv => lhs; rw [split]
      simp only [Nat.pow_eq]
      rw [Nat.pow_succ, Nat.pow_mul, Nat.mul_comm, Nat.pow_two]
    rw [square]
    simp only [half, ih, Nat.pow_eq]
    rw [Nat.mul_mod, Nat.mod_mod, ← Nat.pow_mod, ← Nat.mul_mod]
  | case3 base exponent h half even ih =>
    have split : exponent = 2 * (exponent / 2) := by omega
    have square : Nat.pow base exponent = Nat.pow (base * base) (exponent / 2) := by
      conv => lhs; rw [split]
      simp only [Nat.pow_eq]
      rw [Nat.pow_mul, Nat.pow_two]
    rw [square]
    simp only [half, ih, Nat.pow_eq]
    rw [← Nat.pow_mod]

/-- Every divisor of the chain is a multiple of the number modulo `m`, with its coefficient. -/
theorem divide_spec {m n r s : Nat} {a b : Int} (hr : (m : Int) ∣ a * n - r)
    (hs : (m : Int) ∣ b * n - s) :
    (m : Int) ∣ (divide r s a b).2 * n - (divide r s a b).1 := by
  fun_induction divide r s a b with
  | case1 r a b => exact hr
  | case2 r s a b h ih =>
    refine ih hs ?_
    have split : ((r % s : Nat) : Int) = r - s * (r / s : Nat) := by
      have := Nat.mod_add_div r s
      omega
    have combined : (a - ((r / s : Nat) : Int) * b) * n - ((r % s : Nat) : Int) =
        (a * n - r) - ((r / s : Nat) : Int) * (b * n - s) := by
      rw [split, Int.sub_mul, Int.mul_sub, Int.mul_assoc, Int.mul_comm (s : Int)]
      omega
    rw [combined]
    exact Int.dvd_sub hr (Int.dvd_mul_of_dvd_right hs)

/-- An inverse inverts. -/
theorem mul_inverse {m n k : Nat} (h : inverse? m n = some k) : k * n % m = 1 % m := by
  unfold inverse? at h
  have start : (m : Int) ∣ (divide m (n % m) 0 1).2 * n - (divide m (n % m) 0 1).1 := by
    refine divide_spec ⟨-1, by omega⟩ ⟨(n / m : Nat), ?_⟩
    have := Nat.mod_add_div n m
    rw [Int.one_mul]
    have cast : (n : Int) = ((n % m : Nat) : Int) + (m : Int) * ((n / m : Nat) : Int) := by
      exact_mod_cast this.symm
    omega
  split at h
  rename_i divisor coefficient hd
  rw [hd] at start
  simp only at start
  split at h
  · rename_i one
    simp only [Option.some.injEq] at h
    subst one
    by_cases hm : m = 0
    · subst hm
      simp only [Int.natCast_zero, Int.zero_dvd] at start
      rw [← h]
      simp only [Int.natCast_zero, Int.emod_zero, Nat.mod_zero]
      by_cases hc : 0 ≤ coefficient
      · have : ((coefficient.toNat * n : Nat) : Int) = 1 := by
          rw [Int.natCast_mul, Int.toNat_of_nonneg hc]
          omega
        exact_mod_cast this
      · exfalso
        have : coefficient * (n : Int) ≤ 0 :=
          Int.mul_nonpos_of_nonpos_of_nonneg (by omega) (by omega)
        omega
    · have positive : (0 : Int) < m := by omega
      have reduced : ((k : Nat) : Int) = coefficient % m := by
        rw [← h, Int.toNat_of_nonneg (Int.emod_nonneg _ (by omega))]
      have : ((k * n : Nat) : Int) % m = 1 % m := by
        rw [Int.natCast_mul, reduced, Int.mul_emod, Int.emod_emod_of_dvd _ (Int.dvd_refl _),
          ← Int.mul_emod]
        exact Int.emod_eq_emod_iff_emod_sub_eq_zero.2 (Int.emod_eq_zero_of_dvd start)
      exact_mod_cast this
  · cases h

end JumpHost.Modular

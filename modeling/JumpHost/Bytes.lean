/-
**Numbers as bytes.**

Ciphers and curves reckon with numbers that are written as bytes, some with the most significant
byte first and some with the least.

Main definitions:

* `JumpHost.Bytes.toNat`, `JumpHost.Bytes.ofNat` — numbers with the most significant byte first;
* `JumpHost.Bytes.toNatLittle`, `JumpHost.Bytes.ofNatLittle` — with the least;
* `JumpHost.Bytes.xor` — the bitwise difference of two byte strings.

Main statements:

* `JumpHost.Bytes.length_ofNat`, `JumpHost.Bytes.length_ofNatLittle` — as many bytes as asked for;
* `JumpHost.Bytes.toNat_ofNat` — what is written reads back, if it fits.
-/

set_option autoImplicit false

namespace JumpHost.Bytes

/-- The number of bytes of which the least significant comes first. -/
def toNatLittle : List UInt8 → Nat
  | [] => 0
  | b :: bytes => b.toNat + 256 * toNatLittle bytes

/-- The last `size` bytes of a number, the least significant first. -/
def ofNatLittle : Nat → Nat → List UInt8
  | 0, _ => []
  | size + 1, n => UInt8.ofNat n :: ofNatLittle size (n / 256)

/-- The number of bytes of which the most significant comes first. -/
def toNat (bytes : List UInt8) : Nat := toNatLittle bytes.reverse

/-- The last `size` bytes of a number, the most significant first. -/
def ofNat (size n : Nat) : List UInt8 := (ofNatLittle size n).reverse

/-- The bitwise difference of two byte strings, as long as the shorter one. -/
def xor (s t : List UInt8) : List UInt8 := List.zipWith (· ^^^ ·) s t

@[simp] theorem length_ofNatLittle (size n : Nat) : (ofNatLittle size n).length = size := by
  induction size generalizing n with
  | zero => rfl
  | succ size ih => simp [ofNatLittle, ih]

@[simp] theorem length_ofNat (size n : Nat) : (ofNat size n).length = size := by
  simp [ofNat]

theorem toNatLittle_ofNatLittle (size n : Nat) :
    toNatLittle (ofNatLittle size n) = n % Nat.pow 256 size := by
  induction size generalizing n with
  | zero => simp [ofNatLittle, toNatLittle, Nat.mod_one]
  | succ size ih =>
    have low : (UInt8.ofNat n).toNat = n % 256 := rfl
    have split : Nat.pow 256 (size + 1) = 256 * Nat.pow 256 size := Nat.mul_comm _ _
    rw [ofNatLittle, toNatLittle, ih, low, split, Nat.mod_mul]

/-- What is written reads back, if it fits. -/
theorem toNat_ofNat {size n : Nat} (h : n < Nat.pow 256 size) : toNat (ofNat size n) = n := by
  rw [toNat, ofNat, List.reverse_reverse, toNatLittle_ofNatLittle, Nat.mod_eq_of_lt h]

end JumpHost.Bytes

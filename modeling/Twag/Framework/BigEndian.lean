import Mathlib.Algebra.Order.Ring.Nat
import Mathlib.Data.List.Basic

/-!
# Numbers in network byte order, and padding

`Be.octets k n` are the low `k` octets of a number, the highest first, and
`Be.number` reads them back: what is read is the number modulo `256 ^ k`
(`number_octets`).

`pad4 n` is `n` rounded up to a multiple of four.
-/

namespace Twag

namespace Be

/-- The low `k` octets of `n`, the highest first. -/
def octets : Nat → Nat → List UInt8
  | 0, _ => []
  | k + 1, n => UInt8.ofNat (n / 256 ^ k) :: octets k n

/-- The number with these octets, the highest first. -/
def number : List UInt8 → Nat
  | [] => 0
  | b :: l => b.toNat * 256 ^ l.length + number l

variable {k n : Nat} {l : List UInt8}

@[simp] theorem length_octets (k n : Nat) : (octets k n).length = k := by
  induction k with
  | zero => rfl
  | succ k ih => rw [octets, List.length_cons, ih]

theorem number_lt (l : List UInt8) : number l < 256 ^ l.length := by
  induction l with
  | nil => decide
  | cons b l ih =>
    have hb := b.toNat_lt
    calc b.toNat * 256 ^ l.length + number l < b.toNat * 256 ^ l.length + 256 ^ l.length :=
          Nat.add_lt_add_left ih _
      _ = (b.toNat + 1) * 256 ^ l.length := by rw [Nat.succ_mul]
      _ ≤ 256 * 256 ^ l.length := Nat.mul_le_mul_right _ (by omega)
      _ = 256 ^ (l.length + 1) := by rw [Nat.pow_succ, Nat.mul_comm]

theorem number_octets (k n : Nat) : number (octets k n) = n % 256 ^ k := by
  induction k with
  | zero => rw [Nat.pow_zero, Nat.mod_one]; rfl
  | succ k ih =>
    rw [octets, number, ih, length_octets, UInt8.toNat_ofNat', Nat.mul_comm]
    show 256 ^ k * (n / 256 ^ k % 256) + n % 256 ^ k = n % 256 ^ (k + 1)
    rw [Nat.pow_succ, Nat.mod_mul, Nat.add_comm]

theorem number_octets_of_lt (h : n < 256 ^ k) : number (octets k n) = n := by
  rw [number_octets, Nat.mod_eq_of_lt h]

end Be

/-- Rounded up to a multiple of four. -/
def pad4 (n : Nat) : Nat := (n + 3) / 4 * 4

theorem le_pad4 (n : Nat) : n ≤ pad4 n := by
  unfold pad4
  omega

theorem pad4_le (n : Nat) : pad4 n ≤ n + 3 := by
  unfold pad4
  omega

@[simp] theorem pad4_pad4 (n : Nat) : pad4 (pad4 n) = pad4 n := by
  unfold pad4
  omega

/-- A multiple of four in front does not change the padding. -/
theorem pad4_add {m : Nat} (hm : 4 ∣ m) (n : Nat) : pad4 (m + n) = m + pad4 n := by
  unfold pad4
  omega

theorem dvd_pad4 (n : Nat) : 4 ∣ pad4 n := by
  unfold pad4
  omega

theorem pad4_of_dvd {n : Nat} (h : 4 ∣ n) : pad4 n = n := by
  unfold pad4
  omega

end Twag

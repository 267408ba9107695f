import Mathlib.Data.Nat.Digits.Defs
import Mathlib.Data.Nat.Digits.Lemmas

/-!
# The octets and nibbles of a 64-bit number

A number that is put together octet by octet, each shifted to its place and ORed
to those before, and the number read back from its lowest octet on:

* `toNat_pack`: the number is the one with these digits in base 256;
* `octet_pack`: its octets are those that were put in;
* `nibbles_pack`: so are its nibbles, the low one of each octet first.
-/

namespace Twag.Octets

/-- The number of the first `k` octets of `f`, the lowest first. -/
def pack (f : Nat → UInt8) (k : Nat) : UInt64 :=
  (List.range k).foldl (fun n i => n ||| ((f i).toUInt64 <<< UInt64.ofNat (8 * i))) 0

/-- Octet `i` of a number. -/
def octet (n : UInt64) (i : Nat) : UInt8 := (n >>> UInt64.ofNat (8 * i)).toUInt8

/-- The nibbles of a number, from its lowest octet on, the low one of each octet first. -/
def nibbles (n : UInt64) : List UInt8 :=
  (List.range 8).flatMap fun i => [octet n i &&& 0x0f, octet n i >>> 4]

variable {f : Nat → UInt8} {i k : Nat}

/-- The first `k` octets as digits. -/
def digits (f : Nat → UInt8) (k : Nat) : List Nat := (List.range k).map fun i => (f i).toNat

theorem digits_lt {n : Nat} (h : n ∈ digits f k) : n < 256 := by
  obtain ⟨i, -, rfl⟩ := List.mem_map.mp h
  exact (f i).toNat_lt

/-- A shift to an octet's place is not reduced. -/
theorem toNat_place (hk : k < 8) : (UInt64.ofNat (8 * k)).toNat % 64 = 8 * k := by
  rw [UInt64.toNat_ofNat']
  omega

/-- A shifted octet that stays within 64 bits. -/
theorem toNat_shifted (b : UInt8) (hk : k < 8) :
    (b.toUInt64 <<< UInt64.ofNat (8 * k)).toNat = b.toNat <<< (8 * k) := by
  have hb := b.toNat_lt
  rw [UInt64.toNat_shiftLeft, toNat_place hk, UInt8.toNat_toUInt64, Nat.shiftLeft_eq]
  refine Nat.mod_eq_of_lt ?_
  calc b.toNat * 2 ^ (8 * k) < 2 ^ 8 * 2 ^ (8 * k) :=
        Nat.mul_lt_mul_of_pos_right hb (Nat.two_pow_pos _)
    _ = 2 ^ (8 + 8 * k) := (Nat.pow_add 2 8 (8 * k)).symm
    _ ≤ 2 ^ 64 := Nat.pow_le_pow_right (by decide) (by omega)

theorem toNat_pack (hk : k ≤ 8) : (pack f k).toNat = Nat.ofDigits 256 (digits f k) := by
  induction k with
  | zero => rfl
  | succ k ih =>
    have ih := ih (by omega)
    have hlt : (pack f k).toNat < 2 ^ (8 * k) := by
      rw [ih, Nat.pow_mul]
      refine Nat.lt_of_lt_of_eq (Nat.ofDigits_lt_base_pow_length (by decide) fun n => digits_lt) ?_
      rw [digits, List.length_map, List.length_range]
    have hstep : pack f (k + 1) = pack f k ||| ((f k).toUInt64 <<< UInt64.ofNat (8 * k)) := by
      rw [pack, List.range_succ, List.foldl_append]
      rfl
    have hdigits : digits f (k + 1) = digits f k ++ [(f k).toNat] := by
      rw [digits, List.range_succ, List.map_append]
      rfl
    rw [hstep, UInt64.toNat_or, toNat_shifted _ (by omega), Nat.or_comm,
      ← Nat.shiftLeft_add_eq_or_of_lt hlt, hdigits, Nat.ofDigits_append, Nat.ofDigits_singleton,
      ← ih, Nat.shiftLeft_eq, Nat.pow_mul, digits, List.length_map, List.length_range]
    rw [Nat.add_comm, Nat.mul_comm]

theorem toNat_octet (n : UInt64) (hi : i < 8) : (octet n i).toNat = n.toNat / 256 ^ i % 256 := by
  rw [octet, UInt64.toNat_toUInt8, UInt64.toNat_shiftRight, toNat_place hi,
    Nat.shiftRight_eq_div_pow, Nat.pow_mul]

/-- The octets of a number are those that were put in. -/
theorem octet_pack (hk : k ≤ 8) (hi : i < k) : octet (pack f k) i = f i := by
  refine UInt8.toNat_inj.mp ?_
  have hdrop : (digits f k).drop i = (f i).toNat :: (digits f k).drop (i + 1) := by
    rw [List.drop_eq_getElem_cons (by simpa [digits] using hi)]
    simp [digits]
  rw [toNat_octet _ (by omega), toNat_pack hk,
    Nat.ofDigits_div_pow_eq_ofDigits_drop i (by decide) _ (fun n => digits_lt), hdrop,
    Nat.ofDigits_cons, Nat.add_mul_mod_self_left, Nat.mod_eq_of_lt (f i).toNat_lt]

/-! ## Nibbles -/

section

variable {low high : UInt8}

theorem toNat_octet_of_nibbles (hl : low < 16) (hh : high < 16) :
    ((high <<< 4) ||| low).toNat = high.toNat * 16 + low.toNat := by
  have hl' : low.toNat < 2 ^ 4 := UInt8.lt_iff_toNat_lt.mp hl
  have hh' : high.toNat < 16 := UInt8.lt_iff_toNat_lt.mp hh
  have hshift : (high <<< 4).toNat = high.toNat <<< 4 := by
    rw [UInt8.toNat_shiftLeft]
    show high.toNat <<< 4 % 256 = high.toNat <<< 4
    rw [Nat.shiftLeft_eq]
    omega
  rw [UInt8.toNat_or, hshift, ← Nat.shiftLeft_add_eq_or_of_lt hl', Nat.shiftLeft_eq]

theorem low_nibble (hl : low < 16) (hh : high < 16) : ((high <<< 4) ||| low) &&& 0x0f = low := by
  have hl' : low.toNat < 16 := UInt8.lt_iff_toNat_lt.mp hl
  refine UInt8.toNat_inj.mp ?_
  rw [UInt8.toNat_and, toNat_octet_of_nibbles hl hh]
  show (high.toNat * 16 + low.toNat) &&& (2 ^ 4 - 1) = low.toNat
  rw [Nat.and_two_pow_sub_one_eq_mod]
  omega

theorem high_nibble (hl : low < 16) (hh : high < 16) : ((high <<< 4) ||| low) >>> 4 = high := by
  have hl' : low.toNat < 16 := UInt8.lt_iff_toNat_lt.mp hl
  refine UInt8.toNat_inj.mp ?_
  rw [UInt8.toNat_shiftRight, toNat_octet_of_nibbles hl hh]
  show (high.toNat * 16 + low.toNat) >>> 4 = high.toNat
  rw [Nat.shiftRight_eq_div_pow]
  omega

end

/-- The nibbles of a number are those that its octets were made of. -/
theorem nibbles_pack {g : Nat → UInt8} (hg : ∀ i < 16, g i < 16) :
    nibbles (pack (fun i => (g (i * 2 + 1) <<< 4) ||| g (i * 2)) 8) = (List.range 16).map g := by
  have hoctet (i : Nat) (hi : i ∈ List.range 8) :
      [octet (pack (fun i => (g (i * 2 + 1) <<< 4) ||| g (i * 2)) 8) i &&& 0x0f,
        octet (pack (fun i => (g (i * 2 + 1) <<< 4) ||| g (i * 2)) 8) i >>> 4] =
      [g (i * 2), g (i * 2 + 1)] := by
    have hi : i < 8 := List.mem_range.mp hi
    have hl : g (i * 2) < 16 := hg _ (by omega)
    have hh : g (i * 2 + 1) < 16 := hg _ (by omega)
    rw [octet_pack (Nat.le_refl 8) hi, low_nibble hl hh, high_nibble hl hh]
  rw [nibbles, List.flatMap_congr hoctet]
  rfl

end Twag.Octets

import Mathlib.Algebra.Ring.Int.Defs
import Twag.Impl.Basic

/-!
# Received datagrams

What a handler has of a datagram: the return value of `recvfrom`, the memory
that starts with its receive buffer, and the sender's address. `recvfrom`
writes the first `n` bytes of the buffer, and none if it fails and returns -1;
the others hold what was there before, and a handler that reads on past the
buffer reads whatever follows it. Integers in a packet are read byte by byte.
-/

namespace Twag.Impl

/-- The bytes from some address on. -/
abbrev Memory := Nat → UInt8

structure Datagram where
  /-- `n` -/
  n : Int
  /-- The memory from `buffer` on. -/
  buffer : Memory
  /-- `src_addr` -/
  src : SockaddrIn

/-- A datagram handed to `sendto`, and its destination. -/
structure Sendto where
  bytes : Bytes
  dest : SockaddrIn
deriving DecidableEq, Repr

/-- `n` where it is compared with a `size_t`. -/
def Datagram.size (d : Datagram) : Nat := (d.n % 2 ^ 64).toNat

/-- `ntohs` of the two bytes at `i`. -/
def be16 (buf : Memory) (i : Nat) : Nat := (buf i).toNat * 2 ^ 8 + (buf (i + 1)).toNat

/-- The `uint32_t` at `i`, as a little-endian host reads it. -/
def le32 (buf : Memory) (i : Nat) : UInt32 :=
  ofOctets (buf i).toNat (buf (i + 1)).toNat (buf (i + 2)).toNat (buf (i + 3)).toNat

/-- `ntohl` of the four bytes at `i`. -/
def be32 (buf : Memory) (i : Nat) : UInt32 :=
  ofOctets (buf (i + 3)).toNat (buf (i + 2)).toNat (buf (i + 1)).toNat (buf i).toNat

/-- The `len` bytes at `i`. -/
def slice (buf : Memory) (i len : Nat) : Bytes := (List.range len).map fun k => buf (i + k)

@[simp] theorem length_slice (buf : Memory) (i n : Nat) : (slice buf i n).length = n := by
  simp [slice]

theorem slice_succ (buf : Memory) (i n : Nat) :
    slice buf i (n + 1) = buf i :: slice buf (i + 1) n := by
  rw [slice, List.range_succ_eq_map, List.map_cons, List.map_map, Nat.add_zero, slice]
  simp only [Function.comp_def, Nat.add_assoc, Nat.add_comm 1]

theorem slice_add (buf : Memory) (i m n : Nat) :
    slice buf i (m + n) = slice buf i m ++ slice buf (i + m) n := by
  simp only [slice, List.range_add, List.map_append, List.map_map, Function.comp_def,
    Nat.add_assoc]

theorem take_slice (buf : Memory) {i m n : Nat} (h : m ≤ n) :
    (slice buf i n).take m = slice buf i m := by
  obtain ⟨k, rfl⟩ := Nat.exists_eq_add_of_le h
  rw [slice_add, List.take_left' (length_slice buf i m)]

theorem drop_slice (buf : Memory) (i m n : Nat) :
    (slice buf i n).drop m = slice buf (i + m) (n - m) := by
  rcases Nat.le_total m n with h | h
  · obtain ⟨k, rfl⟩ := Nat.exists_eq_add_of_le h
    rw [slice_add, List.drop_left' (length_slice buf i m), Nat.add_sub_cancel_left]
  · rw [List.drop_of_length_le (by rwa [length_slice]), Nat.sub_eq_zero_of_le h]
    rfl

/-- A slice is the bytes in it. -/
theorem slice_congr {buf buf' : Memory} {i n : Nat} (h : ∀ k, i ≤ k → k < i + n → buf k = buf' k) :
    slice buf i n = slice buf' i n :=
  List.map_congr_left fun k hk =>
    h (i + k) (Nat.le_add_right i k) (Nat.add_lt_add_left (List.mem_range.mp hk) i)

/-- The memory that holds these bytes, and zeros after them. -/
def Memory.ofBytes (bytes : Bytes) : Memory := fun i => bytes.getD i 0

theorem slice_ofBytes (a b : Bytes) : slice (.ofBytes (a ++ b)) a.length b.length = b := by
  refine List.ext_getElem (length_slice _ _ _) fun i hi hb => ?_
  simp [slice, Memory.ofBytes, List.getD_eq_getElem?_getD, hb]

end Twag.Impl

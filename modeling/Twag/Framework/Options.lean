import Mathlib.Data.List.Basic

/-!
# Options with pads and an end

An option is a code octet, a length octet and a value of that length; the code 0 is a
pad of one octet, and 255 ends the options. `Options.scan` is the walk over them as far
as they are whole: the options it meets, and the octets from where it stops.

* `scan_pad`, `scan_option`: how the walk goes on;
* `scan_end`, `scan_cut_code`, `scan_cut_value`: where it stops.
-/

namespace Twag.Options

/-- The options that the walk meets, and the octets from where it stops. -/
def scan : List UInt8 → List (UInt8 × List UInt8) × List UInt8
  | [] => ([], [])
  | code :: rest =>
    if code = 255 then ([], code :: rest)
    else if code = 0 then scan rest
    else
      match rest with
      | [] => ([], [code])
      | len :: tail =>
        if len.toNat ≤ tail.length then
          (scan (tail.drop len.toNat)).map ((code, tail.take len.toNat) :: ·) id
        else ([], code :: len :: tail)
termination_by l => l.length
decreasing_by
  · exact Nat.lt_succ_self rest.length
  · rw [List.length_drop]
    exact Nat.lt_succ_of_le (Nat.le_trans (Nat.sub_le _ _) (Nat.le_succ _))

variable {code len : UInt8} {l tail : List UInt8}

@[simp] theorem scan_nil : scan [] = ([], []) := by
  rw [scan]

theorem scan_end (l : List UInt8) : scan (255 :: l) = ([], 255 :: l) := by
  rw [scan.eq_def]
  rfl

theorem scan_pad (l : List UInt8) : scan (0 :: l) = scan l := by
  rw [scan.eq_def]
  rfl

/-- The length octet is cut off. -/
theorem scan_cut_code (h : code ≠ 255) (h₀ : code ≠ 0) : scan [code] = ([], [code]) := by
  rw [scan.eq_def]
  simp only [h, h₀, if_false]

theorem scan_option (h : code ≠ 255) (h₀ : code ≠ 0) (hl : len.toNat ≤ tail.length) :
    scan (code :: len :: tail) =
      ((code, tail.take len.toNat) :: (scan (tail.drop len.toNat)).1,
        (scan (tail.drop len.toNat)).2) := by
  rw [scan.eq_def]
  simp only [h, h₀, hl, if_false, if_true]
  rfl

/-- The value is cut off. -/
theorem scan_cut_value (h : code ≠ 255) (h₀ : code ≠ 0) (hl : tail.length < len.toNat) :
    scan (code :: len :: tail) = ([], code :: len :: tail) := by
  rw [scan.eq_def]
  simp only [h, h₀, Nat.not_le.mpr hl, if_false]

end Twag.Options

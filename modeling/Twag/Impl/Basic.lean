import Mathlib.Algebra.Ring.Nat

/-!
# Byte strings, addresses and clock readings

`std::string` holds arbitrary bytes, so the model's strings are lists of
bytes; `ascii` writes the literals of the source. An IPv4 address is the
`s_addr` of an `in_addr`: its four octets as a little-endian host reads them.
-/

namespace Twag.Impl

/-- `std::string`. -/
abbrev Bytes := List UInt8

def ascii (s : String) : Bytes := s.toList.map fun c => UInt8.ofNat c.toNat

/-- The bytes of a string that a C function reading `c_str()` sees. -/
def cStr (s : Bytes) : Bytes := s.takeWhile (· ≠ 0)

/-- An integer assigned to an `int`. -/
def toInt32 (i : Int) : Int := Int.bmod i (2 ^ 32)

theorem toInt32_le (n : Nat) : toInt32 n ≤ n := by
  rw [toInt32, Int.bmod_def]
  split <;> omega

theorem toInt32_of_lt {n : Nat} (h : n < 2 ^ 31) : toInt32 n = n := by
  rw [toInt32, Int.bmod_def]
  split <;> omega

/-- A reading of `std::chrono::steady_clock`, in nanoseconds. -/
abbrev Time := Nat

/-- `std::chrono::milliseconds`. -/
def milliseconds (n : UInt32) : Time := n.toNat * 1000000

/-- `struct sockaddr_in`, less its family: `sin_addr.s_addr` and `sin_port`. -/
structure SockaddrIn where
  sinAddr : UInt32
  sinPort : UInt16
deriving DecidableEq, Repr

/-- The 16 octets of a RADIUS authenticator. -/
abbrev Authenticator := Vector UInt8 16

/-- `htons` and `ntohs` on a little-endian host. -/
def htons (n : UInt16) : UInt16 := (n <<< 8) ||| (n >>> 8)

/-- `htonl` and `ntohl` on a little-endian host. -/
def htonl (n : UInt32) : UInt32 :=
  (n <<< 24) ||| ((n &&& (0xff00 : UInt32)) <<< 8) ||| ((n >>> 8) &&& (0xff00 : UInt32)) |||
    (n >>> 24)

/-- The value of four octets stored one after the other. -/
def ofOctets (a b c d : Nat) : UInt32 :=
  UInt32.ofNat (a + b * 2 ^ 8 + c * 2 ^ 16 + d * 2 ^ 24)

/-- The loop of `inet_pton` for `AF_INET`: `octets` are complete, `cur` is the
octet being read, `none` before its first digit. An octet has no leading zero
and is at most 255. -/
def inetPtonLoop : Bytes → List Nat → Option Nat → Option UInt32
  | [], [a, b, c], some d => some (ofOctets a b c d)
  | [], _, _ => none
  | ch :: s, octets, cur =>
    if 48 ≤ ch ∧ ch ≤ 57 then
      match cur with
      | none => if octets.length < 4 then inetPtonLoop s octets (some (ch.toNat - 48)) else none
      | some v =>
        if v = 0 ∨ 255 < v * 10 + (ch.toNat - 48) then none
        else inetPtonLoop s octets (some (v * 10 + (ch.toNat - 48)))
    else
      match cur with
      | some v => if ch = 46 ∧ octets.length < 3 then inetPtonLoop s (octets ++ [v]) none else none
      | none => none

/-- `inet_pton(AF_INET, s.c_str(), …)`: the address, or `none` where it returns 0. -/
def inetPton (s : Bytes) : Option UInt32 := inetPtonLoop (cStr s) [] none

example : inetPton (ascii "127.0.0.1") = some 0x0100007f := by decide
example : inetPton (ascii "10.0.01.1") = none := by decide

end Twag.Impl

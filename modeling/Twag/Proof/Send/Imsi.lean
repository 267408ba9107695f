import Twag.Proof.Core.History
import Twag.Proof.Send.Gtpv2c

/-!
# The IMSI in a Create Session Request

`encode_imsi_bcd` makes a number of the packed digits of the IMSI, and
`encode_imsi` writes the decimal digits of the number it is given. The packed
number always has the filler in its highest nibble (`le_encodeImsiBcd`), so it has
twenty decimal digits (`length_decimal`); the eight octets hold sixteen of them,
with a digit where the filler has to be (`imsi_not_tbcd`).
-/

namespace Twag.Proof.Send

open Twag.Impl Twag.Proof.Core Twag.Proof.Receive

/-- Digit `i` of an IMSI, and the filler after the last one. -/
def tbcdNibble (imsi : Bytes) (i : Nat) : UInt8 :=
  if i < imsi.length then imsi.getD i 0 - 48 else 0x0f

/-- The TBCD encoding of an IMSI, in eight octets. -/
def tbcd (imsi : Bytes) : Bytes :=
  (List.range 8).map fun i => (tbcdNibble imsi (2 * i + 1) <<< 4) ||| tbcdNibble imsi (2 * i)

/-! ## The packed number -/

theorem le_toNat_or (a b : UInt64) : b.toNat ≤ (a ||| b).toNat := by
  rw [UInt64.toNat_or]
  exact Nat.right_le_or

/-- The highest octet of the packed number starts with the filler. -/
theorem le_encodeImsiBcd (imsi : Bytes) : 0xf0 * 2 ^ 56 ≤ (encodeImsiBcd imsi).toNat := by
  have hfiller : imsiNibble imsi (min (toInt32 imsi.length) 15) 15 = 0x0f := if_neg (by omega)
  have hoctet (low : UInt8) :
      0xf0 * 2 ^ 56 ≤ ((((0x0f : UInt8) <<< 4) ||| low).toUInt64 <<< (56 : UInt64)).toNat := by
    revert low
    exact forall_uint8 (by decide +kernel)
  -- it is the last one that the loop puts in
  rw [encodeImsiBcd, show List.range 8 = List.range 7 ++ [7] from rfl, List.foldl_append,
    List.foldl_cons, List.foldl_nil]
  refine Nat.le_trans ?_ (le_toNat_or _ _)
  rw [show 7 * 2 + 1 = 15 from rfl, hfiller]
  exact hoctet _

theorem length_decimal {n : UInt64} (h : 10 ^ 19 ≤ n.toNat) : (decimal n).length = 20 := by
  have hn := n.toNat_lt
  have hle : (Nat.toDigits 10 n.toNat).length ≤ 20 :=
    (Nat.length_toDigits_le_iff (by decide) (by decide)).mpr (by omega)
  have hlt : ¬ (Nat.toDigits 10 n.toNat).length ≤ 19 := fun hle =>
    absurd ((Nat.length_toDigits_le_iff (by decide) (by decide)).mp hle) (by omega)
  rw [decimal, List.length_map]
  omega

theorem digit_of_mem_decimal {n : UInt64} {c : UInt8} (h : c ∈ decimal n) :
    48 ≤ c.toNat ∧ c.toNat ≤ 57 := by
  obtain ⟨d, hd, rfl⟩ := List.mem_map.mp h
  have := Nat.isDigit_of_mem_toDigits (by decide) (by decide) hd
  simp only [Char.isDigit, Bool.and_eq_true, decide_eq_true_eq, ge_iff_le,
    UInt32.le_iff_toNat_le] at this
  have h₁ : 48 ≤ d.toNat := this.1
  have h₂ : d.toNat ≤ 57 := this.2
  rw [UInt8.toNat_ofNat']
  omega

/-! ## Its octets -/

theorem high_nibble_digit (c : UInt8) :
    48 ≤ c.toNat ∧ c.toNat ≤ 57 → ((c &&& (0xf : UInt8)) <<< (4 : UInt8)) &&& 0xf0 ≠ 0xf0 := by
  revert c
  exact forall_uint8 (by decide +kernel)

theorem high_nibble_low (c : UInt8) : c &&& (0xf : UInt8) &&& 0xf0 = 0 := by
  revert c
  exact forall_uint8 (by decide +kernel)

theorem high_nibble_filler (c : UInt8) :
    (((0xf : UInt8) <<< (4 : UInt8)) ||| c) &&& 0xf0 = 0xf0 := by
  revert c
  exact forall_uint8 (by decide +kernel)

/-- An octet of two digits has a digit in its high nibble, and not the filler. -/
theorem digits_ne_filler {c low : UInt8} (h : 48 ≤ c.toNat ∧ c.toNat ≤ 57) (filled : UInt8) :
    ((c &&& (0xf : UInt8)) <<< (4 : UInt8)) ||| (low &&& (0xf : UInt8)) ≠
      ((0xf : UInt8) <<< (4 : UInt8)) ||| filled := by
  intro he
  have hand := congrArg (· &&& (0xf0 : UInt8)) he
  simp only [or_and_distrib ((c &&& 0xf) <<< 4), high_nibble_low, UInt8.or_zero,
    high_nibble_filler] at hand
  exact high_nibble_digit c h hand

/-- Octet 7 of what `encode_imsi` makes of a number of twenty digits. -/
theorem encodeImsi_octet {n : UInt64} (h : (decimal n).length = 20) :
    (encodeImsi n 8).getD 7 0 =
      (((decimal n).getD 15 0 &&& 0xf) <<< 4) ||| ((decimal n).getD 14 0 &&& 0xf) := by
  rw [encodeImsi, h]
  rfl

theorem tbcd_octet {imsi : Bytes} (h : imsi.length ≤ 15) :
    (tbcd imsi).getD 7 0 = ((0xf : UInt8) <<< 4) ||| tbcdNibble imsi 14 := by
  show (tbcdNibble imsi 15 <<< 4) ||| tbcdNibble imsi 14 = _
  rw [show tbcdNibble imsi 15 = 0x0f from if_neg (by omega)]

/-- The buffer of the request is not cleared. -/
def sampleStale : Stale := ⟨fun _ => 0xff, 0xff⟩

/-- A session with this IMSI, and nothing known of it otherwise. -/
def sampleSession (imsi : Bytes) : UeSession sampleMac :=
  { UeSession.new (sampleEnv 0).memory sampleMac with imsi := imsi }

theorem sampleSession_request (imsi : Bytes) :
    ∃ b, requestOf sampleStale (sampleEnv 0) sampleBoot.config (sampleSession imsi) = .ok b := by
  have hn : (apnOf sampleBoot.config (sampleSession imsi)).length ≤ 127 := by
    show (ascii "internet").length ≤ 127
    decide
  exact request_ok_iff.mpr hn

/-- No request carries the IMSI of its session in TBCD, whatever its digits are. -/
theorem imsi_not_tbcd {stale : Stale} {env : Env} {config : TwagConfig} {mac : Bytes}
    {session : UeSession mac} {b : Bytes} (hl : session.imsi.length ≤ 15)
    (hb : requestOf stale env config session = .ok b) :
    ∃ octets, ieValue b 1 = .ok (some octets) ∧ octets.length = 8 ∧ octets ≠ tbcd session.imsi := by
  have hlen : (decimal (encodeImsiBcd session.imsi)).length = 20 :=
    length_decimal (Nat.le_trans (by decide) (le_encodeImsiBcd session.imsi))
  refine ⟨_, ieValue_imsi hb, length_encodeImsi _ 8, fun he => ?_⟩
  have hmem : (decimal (encodeImsiBcd session.imsi)).getD 15 0 ∈
      decimal (encodeImsiBcd session.imsi) := by
    rw [List.getD_eq_getElem?_getD, List.getElem?_eq_getElem (by omega), Option.getD_some]
    exact List.getElem_mem _
  have hoctet := congrArg (fun octets => octets.getD 7 0) he
  simp only [encodeImsi_octet hlen, tbcd_octet hl] at hoctet
  exact digits_ne_filler (digit_of_mem_decimal hmem) _ hoctet

theorem imsi_not_tbcd_sample :
    ∃ b, requestOf sampleStale (sampleEnv 0) sampleBoot.config
        (sampleSession (ascii "001010123456789")) = .ok b ∧
      ∃ octets, ieValue b 1 = .ok (some octets) ∧ octets.length = 8 ∧
        octets ≠ tbcd (sampleSession (ascii "001010123456789")).imsi := by
  obtain ⟨b, hb⟩ := sampleSession_request (ascii "001010123456789")
  have hl : (sampleSession (ascii "001010123456789")).imsi.length ≤ 15 := by decide
  exact ⟨b, hb, imsi_not_tbcd hl hb⟩

/-- The IMSI IE of the session with this IMSI. -/
def sampleImsiIe (imsi : Bytes) : Except Fault (Option Bytes) :=
  (requestOf sampleStale (sampleEnv 0) sampleBoot.config (sampleSession imsi)).bind (ieValue · 1)

theorem sampleImsiIe_eq (imsi : Bytes) :
    sampleImsiIe imsi = .ok (some (encodeImsi (encodeImsiBcd imsi) 8)) := by
  obtain ⟨b, hb⟩ := sampleSession_request imsi
  rw [sampleImsiIe, hb, Except.bind, ieValue_imsi hb, sampleSession]

/-- Two IMSIs that differ in their first digit give one IE, and it is the TBCD of neither. -/
theorem imsi_collision :
    sampleImsiIe (ascii "001010123456789") = sampleImsiIe (ascii "101010123456789") ∧
      sampleImsiIe (ascii "001010123456789") ≠ .ok (some (tbcd (ascii "001010123456789"))) ∧
      sampleImsiIe (ascii "101010123456789") ≠ .ok (some (tbcd (ascii "101010123456789"))) := by
  have h₀ : encodeImsi (encodeImsiBcd (ascii "001010123456789")) 8 =
      [0x71, 0x89, 0x40, 0x15, 0x73, 0x26, 0x09, 0x29] := by decide +kernel
  have h₁ : encodeImsi (encodeImsiBcd (ascii "101010123456789")) 8 =
      [0x71, 0x89, 0x40, 0x15, 0x73, 0x26, 0x09, 0x29] := by decide +kernel
  simp only [sampleImsiIe_eq, h₀, h₁, ne_eq, Except.ok.injEq, Option.some.injEq, true_and]
  decide

end Twag.Proof.Send

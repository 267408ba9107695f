import Mathlib.Data.List.TakeWhile
import Twag.Impl.Receive.Dhcp

/-!
# MAC addresses as text

`upperMac` is the text that the DHCP server makes of a hardware address: upper
case, with colons. `scanOctets_upperMac`: its `sscanf` reads every such text
back, so that a reply repeats the address (`chaddr_upperMac`). `Renders`: the
texts that a Calling-Station-Id may have for an address.
-/

namespace Twag.Proof.Receive

open Twag.Impl

/-- Upper-case digits with colons. -/
def upperMac (octets : List UInt8) : Bytes := (hexOctets 58 octets).map toUpper

/-- The usual texts of a MAC address: digits in either case, with colons or with hyphens. -/
def Renders (octets : List UInt8) (text : Bytes) : Prop :=
  ∃ sep : UInt8, (sep = 58 ∨ sep = 45) ∧ text.map toUpper = (hexOctets sep octets).map toUpper

/-! ## Digits -/

theorem forall_uint8 {p : UInt8 → Prop} (h : ∀ i : Fin 256, p (.ofFin i)) (c : UInt8) : p c := by
  have := h c.toFin
  rwa [UInt8.ofFin_toFin] at this

/-- A digit is none of the characters that `%x` treats apart, and does not end a string. -/
theorem digit_plain (c : UInt8) :
    (hexDigitValue c).isSome → isSpace c = false ∧ c ≠ 45 ∧ c ≠ 43 ∧ c ≠ 120 ∧ c ≠ 88 ∧ c ≠ 0 := by
  revert c
  exact forall_uint8 (by decide +kernel)

/-- The two digits of an octet, in upper case, have its value. -/
theorem digits_octet (b : UInt8) :
    hexDigitValue (toUpper (hexDigit (b / 16))) = some (b.toNat / 16) ∧
      hexDigitValue (toUpper (hexDigit (b % 16))) = some (b.toNat % 16) := by
  revert b
  exact forall_uint8 (by decide +kernel)

/-! ## Reading an address back -/

/-- `%x` reads two digits that no other follows. -/
theorem scanHex_pair {c₁ c₂ : UInt8} {v₁ v₂ : Nat} {rest : Bytes}
    (h₁ : hexDigitValue c₁ = some v₁) (h₂ : hexDigitValue c₂ = some v₂) (hv : v₁ * 16 + v₂ < 256)
    (hr : rest = [] ∨ ∃ t, rest = 58 :: t) :
    scanHex (c₁ :: c₂ :: rest) = some (v₁ * 16 + v₂, rest) := by
  obtain ⟨hsp, hm, hp, -⟩ := digit_plain c₁ (by rw [h₁]; rfl)
  obtain ⟨-, -, -, hx, hX, -⟩ := digit_plain c₂ (by rw [h₂]; rfl)
  have hdigits : scanDigits 0 false (c₁ :: c₂ :: rest) = (v₁ * 16 + v₂, true, rest) := by
    rcases hr with rfl | ⟨t, rfl⟩
    · simp [scanDigits, h₁, h₂]
    · simp [scanDigits, h₁, h₂, show hexDigitValue 58 = none from rfl]
  have hlt : ¬ 18446744073709551616 ≤ v₁ * 16 + v₂ := by omega
  simp [scanHex, hsp, hm, hp, hx, hX, hdigits, hlt]

theorem scanHex_octet (b : UInt8) {rest : Bytes} (hr : rest = [] ∨ ∃ t, rest = 58 :: t) :
    scanHex ((hexOctet b).map toUpper ++ rest) = some (b.toNat, rest) := by
  have hb : b.toNat / 16 * 16 + b.toNat % 16 = b.toNat := Nat.div_add_mod' b.toNat 16
  have hlt := b.toNat_lt
  obtain ⟨h₁, h₂⟩ := digits_octet b
  have hpair := scanHex_pair h₁ h₂ (by omega) hr
  rwa [hb] at hpair

theorem upperMac_cons (b b' : UInt8) (bs : List UInt8) :
    upperMac (b :: b' :: bs) = (hexOctet b).map toUpper ++ 58 :: upperMac (b' :: bs) := by
  simp [upperMac, hexOctets, show toUpper 58 = 58 from rfl]

/-- `sscanf` reads the text of an address back. -/
theorem scanOctets_upperMac (b : UInt8) (bs : List UInt8) :
    scanOctets (bs.length + 1) (upperMac (b :: bs)) = some (b :: bs) := by
  induction bs generalizing b with
  | nil =>
    have hs := scanHex_octet b (.inl rfl : ([] : Bytes) = [] ∨ _)
    rw [List.append_nil] at hs
    simp [scanOctets, upperMac, hexOctets, hs]
  | cons b' bs ih =>
    have hs := scanHex_octet b
      (.inr ⟨upperMac (b' :: bs), rfl⟩ : 58 :: upperMac (b' :: bs) = [] ∨ _)
    rw [List.length_cons, upperMac_cons, scanOctets, hs]
    simp [ih]

/-- The text of an address has no NUL in it. -/
theorem cStr_upperMac (bs : List UInt8) : cStr (upperMac bs) = upperMac bs := by
  have hoctet (b : UInt8) : ∀ c ∈ (hexOctet b).map toUpper, c ≠ 0 := by
    obtain ⟨h₁, h₂⟩ := digits_octet b
    have hc₁ := (digit_plain _ (by rw [h₁]; rfl)).2.2.2.2.2
    have hc₂ := (digit_plain _ (by rw [h₂]; rfl)).2.2.2.2.2
    simp [hexOctet, hc₁, hc₂]
  have hall : ∀ c ∈ upperMac bs, c ≠ 0 := by
    induction bs with
    | nil => simp [upperMac, hexOctets]
    | cons b bs ih =>
      cases bs with
      | nil => exact hoctet b
      | cons b' bs =>
        rw [upperMac_cons]
        intro c hc
        rcases List.mem_append.mp hc with hc | hc
        · exact hoctet b c hc
        rcases List.mem_cons.mp hc with rfl | hc
        · decide
        · exact ih c hc
  rw [cStr, List.takeWhile_eq_self_iff]
  intro c hc
  simpa using hall c hc

/-- A reply has the hardware address that its text was made of. -/
theorem chaddr_upperMac {octets : List UInt8} (hl : octets.length = 6) :
    DhcpServer.chaddr (upperMac octets) = octets ++ List.replicate 10 0 := by
  cases octets with
  | nil => cases hl
  | cons b bs =>
    have hs := scanOctets_upperMac b bs
    rw [← List.length_cons (a := b), hl] at hs
    rw [DhcpServer.chaddr, cStr_upperMac, hs, Option.getD_some]

end Twag.Proof.Receive

import Mathlib.Data.List.GetD
import Twag.Framework.Octets
import Twag.Proof.Gateway.Arrivals
import Twag.Proof.Receive.Nai

/-!
# The packed IMSI

`encode_imsi_bcd` packs the digits of an IMSI into the nibbles of a number, the
first fifteen of them, with fillers behind (`packsImsi`):

* `nibbles_encodeImsiBcd`: read from its lowest octet on, the number gives the
  digits back, and only fillers after them;
* `encodeImsiBcd_injective`: so no two IMSIs give the same number;
* `encodeImsiBcd_take`: of a longer string the first fifteen digits are packed.
  Its length is counted by an `int`, and `imsi_le` says that it fits: what is
  packed came in an attribute of an Access-Request.
-/

namespace Twag.Proof.Gateway

open Twag.Impl Twag.Spec Twag.Proof.Core Twag.Proof.Receive

/-! ## Nibbles -/

section

variable {imsi imsi' : Bytes} {len : Int}

theorem toNat_digit {b : UInt8} (h : IsDigit b) : (b - 48).toNat ≤ 9 := by
  have h₂ : b.toNat ≤ 57 := UInt8.le_iff_toNat_le.mp h.2
  rw [UInt8.toNat_sub_of_le b 48 h.1]
  show b.toNat - 48 ≤ 9
  omega

/-- A digit that is there, or the filler. -/
theorem imsiNibble_lt (hd : ∀ b ∈ imsi, IsDigit b) (hl : len ≤ imsi.length) (i : Nat) :
    imsiNibble imsi len i < 16 := by
  rw [imsiNibble]
  split
  · have hi : i < imsi.length := by omega
    have hle : (imsi.getD i 0 - 48).toNat ≤ 9 := by
      rw [List.getD_eq_getElem _ _ hi]
      exact toNat_digit (hd _ (List.getElem_mem hi))
    exact UInt8.lt_iff_toNat_lt.mpr (Nat.lt_of_le_of_lt hle (by decide))
  · decide

/-- The number holds a nibble for each of sixteen places. -/
theorem nibbles_packed (hd : ∀ b ∈ imsi, IsDigit b) :
    Octets.nibbles (encodeImsiBcd imsi) =
      (List.range 16).map (imsiNibble imsi (min (toInt32 imsi.length) 15)) := by
  have hlen : min (toInt32 imsi.length) 15 ≤ (imsi.length : Int) := by
    have := toInt32_le imsi.length
    omega
  exact Octets.nibbles_pack fun i _ => imsiNibble_lt hd hlen i

theorem len_of_le (hl : imsi.length ≤ 15) : min (toInt32 imsi.length) 15 = (imsi.length : Int) := by
  rw [toInt32_of_lt (by omega)]
  omega

theorem digits_packed (imsi : Bytes) :
    (List.range imsi.length).map (imsiNibble imsi imsi.length) = imsi.map (· - 48) := by
  refine List.ext_getElem (by simp) fun i hi hi' => ?_
  have hlt : i < imsi.length := by simpa using hi'
  simp only [List.getElem_map, List.getElem_range, imsiNibble]
  rw [if_pos (by omega), List.getD_eq_getElem _ _ hlt]

theorem fillers_packed (imsi : Bytes) (k : Nat) :
    (List.range k).map (fun i => imsiNibble imsi imsi.length (imsi.length + i)) =
      List.replicate k 0x0f := by
  refine List.eq_replicate_iff.mpr ⟨by simp, fun b hb => ?_⟩
  obtain ⟨i, -, rfl⟩ := List.mem_map.mp hb
  exact if_neg (by omega)

/-- The digits of an IMSI, and fillers after them. -/
theorem nibbles_encodeImsiBcd (hd : ∀ b ∈ imsi, IsDigit b) (hl : imsi.length ≤ 15) :
    Octets.nibbles (encodeImsiBcd imsi) =
      imsi.map (· - 48) ++ List.replicate (16 - imsi.length) 0x0f := by
  rw [nibbles_packed hd, len_of_le hl, show 16 = imsi.length + (16 - imsi.length) by omega,
    List.range_add, List.map_append, List.map_map, digits_packed, Nat.add_sub_cancel_left]
  exact congrArg _ (fillers_packed imsi _)

example : Octets.nibbles (encodeImsiBcd (ascii "00101")) =
    [0, 0, 1, 0, 1] ++ List.replicate 11 0x0f := by decide

/-- No digit is a filler, so the digits end where the fillers start. -/
theorem takeWhile_nibbles (hd : ∀ b ∈ imsi, IsDigit b) (hl : imsi.length ≤ 15) :
    (Octets.nibbles (encodeImsiBcd imsi)).takeWhile (· ≠ 0x0f) = imsi.map (· - 48) := by
  have hdigit : ∀ b ∈ imsi.map (· - 48), decide (b ≠ 0x0f) = true := by
    intro b hb
    obtain ⟨c, hc, rfl⟩ := List.mem_map.mp hb
    have hle := toNat_digit (hd c hc)
    refine decide_eq_true fun he => ?_
    rw [he] at hle
    exact absurd hle (by decide)
  obtain ⟨k, hk⟩ : ∃ k, 16 - imsi.length = k + 1 := ⟨15 - imsi.length, by omega⟩
  rw [nibbles_encodeImsiBcd hd hl, List.takeWhile_append_of_pos hdigit, hk, List.replicate_succ,
    List.takeWhile_cons_of_neg (by decide), List.append_nil]

theorem encodeImsiBcd_injective (hd : ∀ b ∈ imsi, IsDigit b) (hl : imsi.length ≤ 15)
    (hd' : ∀ b ∈ imsi', IsDigit b) (hl' : imsi'.length ≤ 15)
    (h : encodeImsiBcd imsi = encodeImsiBcd imsi') : imsi = imsi' := by
  have hmap : imsi.map (· - 48) = imsi'.map (· - 48) := by
    rw [← takeWhile_nibbles hd hl, h, takeWhile_nibbles hd' hl']
  exact List.map_injective_iff.mpr (fun a b hab => (UInt8.sub_left_inj 48).mp hab) hmap

/-- Of a longer string the first fifteen digits are packed. -/
theorem encodeImsiBcd_take (hl : 15 < imsi.length) (hlt : imsi.length < 2 ^ 31) :
    encodeImsiBcd imsi = encodeImsiBcd (imsi.take 15) := by
  have hlen : min (toInt32 imsi.length) 15 = 15 := by
    rw [toInt32_of_lt hlt]
    omega
  have hlen' : min (toInt32 (imsi.take 15).length) 15 = 15 := by
    rw [List.length_take, Nat.min_eq_left (by omega)]
    rfl
  have hnibble : imsiNibble imsi 15 = imsiNibble (imsi.take 15) 15 := by
    funext i
    rw [imsiNibble, imsiNibble]
    split
    · rw [List.getD_eq_getElem?_getD, List.getD_eq_getElem?_getD,
        List.getElem?_take_of_lt (by omega)]
    · rfl
  simp only [encodeImsiBcd, hlen, hlen', hnibble]

end

/-! ## What is packed -/

/-- The IMSI is empty, or came in an Access-Request. -/
def Announced (h : List Input) (imsi : Bytes) : Prop :=
  imsi = [] ∨ ∃ x ∈ h, ∃ req c, x.event = .accessRequest req c ∧ imsi = req.imsi

theorem Announced.later {h : List Input} {imsi : Bytes} (ha : Announced h imsi) (x : Input) :
    Announced (x :: h) imsi := by
  rcases ha with hnil | ⟨y, hy, hreq⟩
  · exact .inl hnil
  · exact .inr ⟨y, List.mem_cons_of_mem x hy, hreq⟩

variable {boot : Boot} {m : Bytes} {s : UeSession m}

/-- An Access-Request leaves the session's IMSI as it is, or brings one. -/
theorem Announced.request {h : List Input} {x : Input} {req : AccessRequest} {c : Option Nat}
    (hx : x.event = .accessRequest req c) (ha : Announced h s.imsi) (st : SessionState) :
    Announced (x :: h) ({ withRequest s req with state := st } : UeSession m).imsi := by
  rw [imsi_withRequest]
  split
  · exact ha.later x
  · exact .inr ⟨x, List.mem_cons_self, req, c, hx, rfl⟩

theorem announced {h : List Input} (hs : (boot.after h).getSession m = some s) :
    Announced h s.imsi := by
  induction hs using stored_induction with
  | reacts h x e s₀ s hs hd hs₀ hr he ih =>
    rcases react_request hr with ⟨req, st, rfl, rfl⟩ | ⟨-, -, hi⟩
    · obtain ⟨c, hx, -⟩ := deliver_accessRequest hd
      exact ih.request hx st
    · rw [hi]
      exact ih.later x
  | attaches h x req c s hs hx hm hn hc hr he =>
    rcases react_request hr with ⟨req', st, heq, rfl⟩ | ⟨hne, -, -⟩
    · cases heq
      have hborn : Announced h (born (boot.after h) x m).imsi := .inl rfl
      exact hborn.request hx st
    · exact absurd rfl (hne req)
  | keeps h x s hs hs₀ hd ih => exact ih.later x

/-- The IMSI of a stored session is read in the value of one attribute. -/
theorem imsi_le {h : List Arrival} (hs : (boot.served h).getSession m = some s) :
    s.imsi.length ≤ 248 := by
  rcases announced hs with hnil | ⟨x, hx, req, c, hev, hi⟩
  · rw [hnil]
    exact Nat.zero_le _
  · obtain ⟨a, -, ha⟩ := List.mem_filterMap.mp hx
    obtain ⟨hp, -⟩ := input_iff.mp ha
    rw [hev] at hp
    rw [hi]
    generalize a.packet = p at hp
    cases comes hp with
    | accessRequest d c attrs hl hattrs hcode =>
      have hle := (values_le hattrs).2
      have himsi := length_imsiOf attrs.eapPayload
      exact himsi.trans (by omega)

/-- What `encode_imsi_bcd` owes the strings that it is given. -/
structure PacksImsi : Prop where
  /-- The digits, and only fillers behind them. -/
  nibbles : ∀ imsi : Bytes, (∀ b ∈ imsi, IsDigit b) → imsi.length ≤ 15 →
    Octets.nibbles (encodeImsiBcd imsi) =
      imsi.map (· - 48) ++ List.replicate (16 - imsi.length) 0x0f
  injective : ∀ imsi imsi' : Bytes, (∀ b ∈ imsi, IsDigit b) → imsi.length ≤ 15 →
    (∀ b ∈ imsi', IsDigit b) → imsi'.length ≤ 15 → encodeImsiBcd imsi = encodeImsiBcd imsi' →
    imsi = imsi'
  /-- A longer string, of a length that an `int` can hold. -/
  longer : ∀ imsi : Bytes, 15 < imsi.length → imsi.length < 2 ^ 31 →
    encodeImsiBcd imsi = encodeImsiBcd (imsi.take 15)
  /-- It holds the length of everything that is packed. -/
  counted : ∀ (boot : Boot) (h : List Arrival) (m : Bytes) (s : UeSession m),
    (boot.served h).getSession m = some s → s.imsi.length < 2 ^ 31

/-- `encode_imsi_bcd` is a faithful packing. -/
theorem packsImsi : PacksImsi where
  nibbles := fun _ => nibbles_encodeImsiBcd
  injective := fun _ _ => encodeImsiBcd_injective
  longer := fun _ => encodeImsiBcd_take
  counted := fun _ _ _ _ hs => Nat.lt_of_le_of_lt (imsi_le hs) (by decide)

end Twag.Proof.Gateway

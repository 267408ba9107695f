import Twag.Framework.Tlv
import Twag.Impl.Radius

/-!
# The datagrams of the RADIUS server

* `packet_of_le`: with a value of at most 253 bytes the server writes a
  well-formed attribute;
* `response_intact_iff`: for which lengths of the EAP packet a response carries it.
-/

namespace Twag.Proof.Send

open Twag.Impl Twag.Impl.RadiusServer

@[simp] theorem length_header (code id : UInt8) (authenticator : Authenticator) (offset : Nat) :
    (header code id authenticator offset).length = 20 := by
  simp [header]

/-- The length field of a packet. -/
def lengthField (b : Bytes) : Nat := (b.getD 2 0).toNat * 2 ^ 8 + (b.getD 3 0).toNat

theorem lengthField_header (code id : UInt8) (authenticator : Authenticator) {offset : Nat}
    (h : offset < 2 ^ 16) (r : Bytes) :
    lengthField (header code id authenticator offset ++ r) = offset := by
  have h₁ : (UInt8.ofNat (offset / 2 ^ 8)).toNat = offset / 2 ^ 8 := by
    rw [UInt8.toNat_ofNat']
    omega
  have h₂ : (UInt8.ofNat offset).toNat = offset % 2 ^ 8 := UInt8.toNat_ofNat'
  show (UInt8.ofNat (offset / 2 ^ 8)).toNat * 2 ^ 8 + (UInt8.ofNat offset).toNat = offset
  rw [h₁, h₂]
  omega

/-- The attributes of a packet, as its sender means them. -/
def attributesOf (type : UInt8) (value : Bytes) (h : value.length ≤ 253) : List Tlv :=
  if value.isEmpty then [] else [⟨type, value, h⟩]

theorem stream_attributesOf {type : UInt8} {value : Bytes} (h : value.length ≤ 253) :
    Tlv.stream (attributesOf type value h) = attributeBytes type value := by
  unfold attributesOf attributeBytes
  split
  · rfl
  · simp [Tlv.stream, Tlv.bytes]

theorem valuesOf_attributesOf {type : UInt8} {value : Bytes} (h : value.length ≤ 253) :
    (Tlv.valuesOf type (attributesOf type value h)).flatten = value := by
  unfold attributesOf
  split
  · rename_i he
    exact (List.isEmpty_iff.mp he).symm
  · simp [Tlv.valuesOf]

theorem length_attributeBytes_le (type : UInt8) (value : Bytes) :
    (attributeBytes type value).length ≤ value.length + 2 := by
  unfold attributeBytes
  split
  · exact Nat.zero_le _
  · rfl

/-- With a value that fits an attribute, a packet is a header with its own length
and well-formed attributes. -/
theorem packet_of_le {size : Nat} (code id : UInt8) (authenticator : Authenticator)
    (type : UInt8) {value : Bytes} (h : value.length ≤ 253) (hs : 275 ≤ size) :
    ∃ b, packet size code id authenticator type value = .ok b ∧ b.length ≤ size ∧
      lengthField b = b.length ∧ b.take 2 = [code, id] ∧
      (b.drop 4).take 16 = authenticator.toList ∧
      b.drop 20 = Tlv.stream (attributesOf type value h) := by
  have hl := length_attributeBytes_le type value
  have hb : (header code id authenticator (20 + (attributeBytes type value).length) ++
      attributeBytes type value).length = 20 + (attributeBytes type value).length := by
    rw [List.length_append, length_header]
  refine ⟨_, if_pos (by omega), by rw [hb]; omega, ?_, rfl, ?_, ?_⟩
  · rw [lengthField_header _ _ _ (by omega), hb]
  · have ha : authenticator.toList.length = 16 := authenticator.size_toArray
    simp [header, List.take_left' ha]
  · rw [List.drop_left' (length_header ..), stream_attributesOf]

/-! ## Responses -/

/-- The EAP packet that the attributes of a packet carry. -/
def eapMessage (ts : List Tlv) : Bytes := (Tlv.valuesOf 79 ts).flatten

/-- An EAP packet that some EAP-Message attributes of one RADIUS packet can carry. -/
def FitsPacket (eap : Bytes) : Prop :=
  ∃ ts : List Tlv, (∀ t ∈ ts, t.type = 79) ∧ eapMessage ts = eap ∧
    20 + (Tlv.stream ts).length ≤ 4096

/-- The response is written within its buffer; and if its EAP packet fits a
RADIUS packet, it has its own length, the caller's code, id and authenticator,
and well-formed attributes that carry the EAP packet. -/
structure Intact (resp : RadiusResponse) : Prop where
  inBounds : responseDatagram resp ≠ .error .outOfBounds
  carried : FitsPacket resp.eapPayload → ∃ b ts, responseDatagram resp = .ok b ∧
    lengthField b = b.length ∧ b.take 2 = [resp.code, resp.id] ∧
    (b.drop 4).take 16 = resp.authenticator.toList ∧
    Tlv.parse (b.drop 20) = (ts, []) ∧ eapMessage ts = resp.eapPayload

theorem fitsPacket_iff (eap : Bytes) : FitsPacket eap ↔ eap.length ≤ 4044 := by
  constructor
  · rintro ⟨ts, ht, rfl, hl⟩
    have h₁ := Tlv.length_stream ht
    have h₂ : (eapMessage ts).length ≤ 253 * ts.length := Tlv.length_valuesOf_le_mul 79 ts
    change (Tlv.stream ts).length = (eapMessage ts).length + 2 * ts.length at h₁
    rcases Nat.lt_or_ge ts.length 16 with hk | hk <;> omega
  · intro h
    obtain ⟨ts, ht, he, hk⟩ := Tlv.exists_cut 79 16 (v := eap) (by omega)
    refine ⟨ts, ht, he, ?_⟩
    rw [Tlv.length_stream ht, he]
    omega

/-- One attribute too long for its length octet is never read back: with another
length the attributes found have less room, for each takes two bytes. -/
theorem length_le_of_parse {value : Bytes} {ts : List Tlv}
    (hp : Tlv.parse (attributeBytes 79 value) = (ts, [])) (he : eapMessage ts = value) :
    value.length ≤ 253 := by
  have hs : Tlv.stream ts = attributeBytes 79 value := by
    have := (Tlv.parse_eq (attributeBytes 79 value)).1
    rw [hp, List.append_nil] at this
    exact this.symm
  have h₁ := Tlv.length_valuesOf_le 79 ts
  have h₂ := Tlv.length_valuesOf_le_mul 79 ts
  have h₃ := length_attributeBytes_le 79 value
  change (eapMessage ts).length + _ ≤ _ at h₁
  change (eapMessage ts).length ≤ _ at h₂
  rw [he] at h₁ h₂
  rw [hs] at h₁
  omega

/-- A response carries its EAP packet exactly if one attribute can hold it, or
if no RADIUS packet could and the buffer has room. -/
theorem response_intact_iff (resp : RadiusResponse) :
    Intact resp ↔ resp.eapPayload.length ≤ 253 ∨
      4044 < resp.eapPayload.length ∧ resp.eapPayload.length ≤ 4074 := by
  constructor
  · rintro ⟨hi, hc⟩
    by_contra hn
    have hlong : 253 < resp.eapPayload.length := by omega
    have hne : resp.eapPayload.isEmpty = false := by
      cases h : resp.eapPayload with
      | nil => rw [h] at hlong; cases hlong
      | cons => rfl
    have ha : (attributeBytes 79 resp.eapPayload).length = resp.eapPayload.length + 2 := by
      rw [attributeBytes, hne]
      rfl
    rcases Nat.lt_or_ge 4044 resp.eapPayload.length with h | h
    · exact hi (if_neg (by omega))
    · obtain ⟨b, ts, hb, -, -, -, hp, he⟩ := hc ((fitsPacket_iff _).mpr h)
      rw [responseDatagram, packet, if_pos (by omega)] at hb
      obtain rfl := Except.ok.inj hb
      rw [List.drop_left' (length_header ..)] at hp
      have := length_le_of_parse hp he
      omega
  · intro h
    rcases h with h | ⟨h₁, h₂⟩
    · obtain ⟨b, hb, -, hl, hc, ha, hd⟩ := packet_of_le resp.code resp.id resp.authenticator 79 h
        (show 275 ≤ 4096 by decide)
      refine ⟨fun he => ?_, fun _ => ⟨b, _, hb, hl, hc, ha, by rw [hd, Tlv.parse_stream], ?_⟩⟩
      · rw [responseDatagram, hb] at he
        cases he
      · exact valuesOf_attributesOf h
    · refine ⟨fun he => ?_, fun hf => absurd ((fitsPacket_iff _).mp hf) (by omega)⟩
      have := length_attributeBytes_le 79 resp.eapPayload
      rw [responseDatagram, packet, if_pos (by omega)] at he
      cases he

/-- A response with an EAP packet of 254 bytes. -/
def sampleLong : RadiusResponse :=
  ⟨⟨0, 0⟩, accessChallenge, 7, .replicate 16 0, List.replicate 254 1⟩

/-- Its attribute has the length octet 0. -/
theorem sampleLong_not_intact : FitsPacket sampleLong.eapPayload ∧ ¬ Intact sampleLong := by
  have hf : FitsPacket sampleLong.eapPayload := by
    rw [fitsPacket_iff, sampleLong, List.length_replicate]
    decide
  have hr : responseDatagram sampleLong =
      .ok (header 11 7 (.replicate 16 0) 276 ++ 79 :: 0 :: List.replicate 254 1) := by
    decide +kernel
  refine ⟨hf, fun h => ?_⟩
  obtain ⟨b, ts, hb, -, -, -, hp, -⟩ := h.carried hf
  rw [hr] at hb
  obtain rfl := Except.ok.inj hb
  have hn : Tlv.parse (79 :: 0 :: List.replicate 254 1) = ([], 79 :: 0 :: List.replicate 254 1) :=
    Tlv.parse_of_next_none (by decide)
  rw [List.drop_left' (length_header ..), hn] at hp
  cases hp

end Twag.Proof.Send

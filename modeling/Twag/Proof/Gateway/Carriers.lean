import Twag.Proof.Gateway.Identity
import Twag.Proof.Receive.Radius
import Twag.Proof.Send.Radius

/-!
# What carries a session's key

The key of a session leaves the gateway in the Session-Id of its DER and STR and
in the Calling-Station-Id of its Disconnect-Request. A key is as long as an
attribute's value at most, for it came in one (`key_le`); so both can be read
back (`session_id_read`, `disconnect_read`), which `carriers_read` puts together
for every reachable state.
-/

namespace Twag.Proof.Gateway

open Twag.Impl Twag.Proof.Core Twag.Proof.Receive Twag.Proof.Send Twag.Impl.RadiusServer

/-- What was received is this, and nothing is known of what is behind it. -/
def Holds (d : Datagram) (b : Bytes) : Prop := d.n = b.length ∧ slice d.buffer 0 b.length = b

section

variable {d : Datagram} {b : Bytes}

theorem Holds.byte (h : Holds d b) {i : Nat} (hi : i < b.length) : d.buffer i = b.getD i 0 := by
  conv => rhs; rw [← h.2]
  simp [slice, List.getD_eq_getElem?_getD, hi]

theorem Holds.radLen (h : Holds d b) (hl : 20 ≤ b.length) : radLen d = lengthField b := by
  rw [RadiusServer.radLen, be16, h.byte (by omega), h.byte (by omega), lengthField]

theorem Holds.attributeArea (h : Holds d b) (hl : 20 ≤ b.length)
    (hf : lengthField b = b.length) : attributeArea d = b.drop 20 := by
  conv => rhs; rw [← h.2]
  rw [Receive.attributeArea, h.radLen hl, hf, drop_slice, Nat.zero_add]

theorem Holds.hasValidLength (h : Holds d b) (hl : 20 ≤ b.length) (hs : b.length < 2 ^ 16)
    (hf : lengthField b = b.length) : hasValidLength d := by
  have hr := h.radLen hl
  have hn := h.1
  refine ⟨?_, by omega, by omega⟩
  rw [Datagram.size, hn]
  omega

end

/-- The Session-Id of a DER or STR gives its key back, to answers and to aborts. -/
theorem session_id_read {m sid : Bytes} {env : Env} {config : TwagConfig} {eap : Bytes}
    {msg : List Avp} (hm : m ≠ [])
    (hs : (derOf env config m eap).sessionId = some sid ∨ (strOf env config m).sessionId = some sid)
    (hmsg : (fdMsgSearchAvp msg .sessionId).bind Avp.os = some sid) :
    (∀ dict, (deaCb dict msg).map Dea.macAddr = some m) ∧ asrCb msg = some (.abortSession m) := by
  have hsid : sid = sessionIdOf m := by
    have : avp env .sessionId (sessionIdOf m) = some sid := hs.elim id id
    unfold avp at this
    split at this
    · exact (Option.some.inj this).symm
    · cases this
  have hmac : sessionMac msg = some m := by
    rw [sessionMac, hmsg, hsid]
    rfl
  constructor
  · intro dict
    rw [deaCb, hmac]
    rfl
  · rw [asrCb, hmac, Option.getD_some]
    cases m with
    | nil => exact absurd rfl hm
    | cons c m => rfl

/-- A Disconnect-Request fits its buffer, and the server's own parser reads all of
it and finds the key. -/
theorem disconnect_read {m : Bytes} (hm : m ≠ []) (hl : m.length ≤ 253) :
    ∃ b, disconnectDatagram m = .ok b ∧ b.length ≤ 1024 ∧ lengthField b = b.length ∧
      ∀ d, Holds d b → hasValidLength d ∧ radLen d = b.length ∧
        attributeLoop d = .ok (b.length, { Attributes.default with macAddr := m }) := by
  obtain ⟨b, hb, hsize, hf, -, -, hd⟩ := packet_of_le 40 1 (.replicate 16 0) 31 hl
    (show 275 ≤ 1024 by decide)
  have h20 : 20 ≤ b.length := by
    by_contra hlt
    rw [List.drop_of_length_le (by omega)] at hd
    have := congrArg List.length hd
    rw [stream_attributesOf, attributeBytes, List.isEmpty_eq_false_iff.mpr hm] at this
    simp at this
  refine ⟨b, hb, hsize, hf, fun d hh => ?_⟩
  have hr : radLen d = b.length := (hh.radLen h20).trans hf
  refine ⟨hh.hasValidLength h20 (by omega) hf, hr, ?_⟩
  rw [attributeLoop_eq (by omega), hh.attributeArea h20 hf, hd, Tlv.parse_stream, hr,
    attributesOf, List.isEmpty_eq_false_iff.mpr hm]
  rfl

theorem key_le {boot : Boot} {h : List Arrival} {m : Bytes} {s : UeSession m}
    (hs : (boot.served h).getSession m = some s) : m.length ≤ 253 := by
  obtain ⟨a, -, d, c, attrs, -, -, hattrs, rfl⟩ := key_of_request hs
  exact (values_le hattrs).1

/-- In every reachable state the key of a stored session has at most 253 bytes, and
if it is not empty, everything that carries it gives it back: the Session-Id of a
DER or STR, to answers and to aborts, and the Disconnect-Request, which fits its
buffer, to the RADIUS server's own parser. -/
theorem carriers_read (boot : Boot) (h : List Arrival) (m : Bytes) (s : UeSession m)
    (hs : (boot.served h).getSession m = some s) :
    m.length ≤ 253 ∧ (m ≠ [] →
      (∀ env config eap sid msg,
        (derOf env config m eap).sessionId = some sid ∨
          (strOf env config m).sessionId = some sid →
        (fdMsgSearchAvp msg .sessionId).bind Avp.os = some sid →
        (∀ dict, (deaCb dict msg).map Dea.macAddr = some m) ∧
          asrCb msg = some (.abortSession m)) ∧
      ∃ b, disconnectDatagram m = .ok b ∧ b.length ≤ 1024 ∧ lengthField b = b.length ∧
        ∀ d, Holds d b → hasValidLength d ∧ radLen d = b.length ∧
          attributeLoop d = .ok (b.length, { Attributes.default with macAddr := m })) :=
  ⟨key_le hs, fun hm =>
    ⟨fun _ _ _ _ _ hsid hmsg => session_id_read hm hsid hmsg, disconnect_read hm (key_le hs)⟩⟩

/-- The sample session's key is 17 bytes long, and its Disconnect-Request 39. -/
theorem carriers_read_sample :
    ((sampleBoot.served sampleConnected).getSession sampleMac).isSome ∧ sampleMac.length ≤ 253 ∧
      ∃ b, disconnectDatagram sampleMac = .ok b ∧ b.length = 39 := by
  obtain ⟨s, hs⟩ := Option.isSome_iff_exists.mp
    (show ((sampleBoot.served sampleConnected).getSession sampleMac).isSome by decide)
  obtain ⟨hl, hc⟩ := carriers_read sampleBoot sampleConnected sampleMac s hs
  obtain ⟨b, hb, -, hf, -⟩ := (hc (by decide)).2
  refine ⟨by rw [hs]; rfl, hl, b, hb, ?_⟩
  have hb' : disconnectDatagram sampleMac =
      .ok (header 40 1 (.replicate 16 0) 39 ++ 31 :: 19 :: sampleMac) := by decide
  rw [hb'] at hb
  obtain rfl := Except.ok.inj hb
  rfl

end Twag.Proof.Gateway

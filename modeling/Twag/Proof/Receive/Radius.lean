import Mathlib.Data.List.Induction
import Twag.Framework.Tlv
import Twag.Impl.Receive.Radius

/-!
# The attributes of a RADIUS packet

The loop over the attributes reads the records that the packet's attributes
start with, and leaves for each kind the last one of them:

* `walk_attributes`: the loop is `Tlv.parse` of what follows the header, and it
  stops where that stops;
* `attributes_congr`: it depends on nothing but the bytes that it reads;
* `attributes_exact`: it ends, it reads nothing behind the packet, and it leaves
  the last values of the longest well-formed prefix.
-/

namespace Twag.Proof.Receive

open Twag.Impl Twag.Impl.RadiusServer

/-- What follows the header, up to the packet's length. -/
def attributeArea (d : Datagram) : Bytes := slice d.buffer 20 (radLen d - 20)

/-- The value of an attribute of four bytes. -/
def acctStatus : Bytes → Option UInt32
  | [a, b, c, d] => some (ofOctets d.toNat c.toNat b.toNat a.toNat)
  | _ => none

/-- What the last attribute of each kind says, or the default where there is none. -/
def lastOf (ts : List Tlv) : Attributes where
  macAddr := (Tlv.valuesOf 31 ts).getLast?.getD Attributes.default.macAddr
  eapPayload := (Tlv.valuesOf 79 ts).getLast?.getD Attributes.default.eapPayload
  acctStatusType :=
    ((Tlv.valuesOf 4 ts).filterMap acctStatus).getLast?.getD Attributes.default.acctStatusType

/-- What one attribute sets. -/
def setAttribute (attrs : Attributes) (t : Tlv) : Attributes :=
  if t.type = 31 then { attrs with macAddr := t.value }
  else if t.type = 79 then { attrs with eapPayload := t.value }
  else if t.type = 4 then
    { attrs with acctStatusType := (acctStatus t.value).getD attrs.acctStatusType }
  else attrs

theorem lastOf_concat (ts : List Tlv) (t : Tlv) :
    lastOf (ts ++ [t]) = setAttribute (lastOf ts) t := by
  by_cases h₁ : t.type = 31
  · simp [lastOf, setAttribute, Tlv.valuesOf, h₁]
  by_cases h₂ : t.type = 79
  · simp [lastOf, setAttribute, Tlv.valuesOf, h₂]
  by_cases h₃ : t.type = 4
  · cases hv : acctStatus t.value with
    | none => simp [lastOf, setAttribute, Tlv.valuesOf, h₃, hv]
    | some n => simp [lastOf, setAttribute, Tlv.valuesOf, h₃, hv]
  · simp [lastOf, setAttribute, Tlv.valuesOf, h₁, h₂, h₃]

theorem foldl_setAttribute (ts : List Tlv) : ts.foldl setAttribute .default = lastOf ts := by
  induction ts using List.reverseRecOn with
  | nil => rfl
  | append_singleton ts t ih => rw [List.foldl_append, ih, lastOf_concat]; rfl

section

variable {d : Datagram} {i : Nat}

theorem moreAttributes_iff : moreAttributes d i = true ↔
    i + 2 ≤ radLen d ∧ 2 ≤ attrLen d i ∧ i + attrLen d i ≤ radLen d := by
  simp only [moreAttributes, Bool.and_eq_true, decide_eq_true_eq, and_assoc]

/-- Where the loop goes on, there is a record. -/
theorem next_of_more (h : moreAttributes d i = true) :
    ∃ t, Tlv.next (slice d.buffer i (radLen d - i)) =
        some (t, slice d.buffer (i + attrLen d i) (radLen d - (i + attrLen d i))) ∧
      ∀ attrs, visitAttribute d attrs i = setAttribute attrs t := by
  obtain ⟨h₁, h₂, h₃⟩ := moreAttributes_iff.mp h
  have hv : attrLen d i - 2 ≤ 253 := by
    have : attrLen d i < 256 := (d.buffer (i + 1)).toNat_lt
    omega
  refine ⟨⟨d.buffer i, slice d.buffer (i + 2) (attrLen d i - 2), by rwa [length_slice]⟩, ?_, ?_⟩
  · obtain ⟨k, hk⟩ : ∃ k, radLen d - i = k + 1 + 1 := ⟨radLen d - i - 2, by omega⟩
    have ha : (d.buffer (i + 1)).toNat = attrLen d i := rfl
    have hl : 2 ≤ attrLen d i ∧ attrLen d i - 2 ≤ (slice d.buffer (i + 1 + 1) k).length := by
      rw [length_slice]
      omega
    simp only [hk, slice_succ, Tlv.next, ha, dif_pos hl, drop_slice,
      take_slice d.buffer (show attrLen d i - 2 ≤ k by omega)]
    rw [show i + 1 + 1 + (attrLen d i - 2) = i + attrLen d i by omega,
      show k - (attrLen d i - 2) = radLen d - (i + attrLen d i) by omega]
  · intro attrs
    simp only [visitAttribute, setAttribute]
    by_cases h4 : attrLen d i = 6
    · have hs : acctStatus (slice d.buffer (i + 2) 4) = some (be32 d.buffer (i + 2)) := rfl
      simp only [h4, hs, and_true, Option.getD_some]
    · have hs : acctStatus (slice d.buffer (i + 2) (attrLen d i - 2)) = none := by
        have hl := length_slice d.buffer (i + 2) (attrLen d i - 2)
        unfold acctStatus
        split
        · rename_i heq
          rw [heq] at hl
          simp only [List.length_cons, List.length_nil] at hl
          omega
        · rfl
      simp only [h4, hs, and_false, if_false, Option.getD_none, ite_self]

/-- Where the loop stops, there is none. -/
theorem next_of_not_more (h : moreAttributes d i = false) :
    Tlv.next (slice d.buffer i (radLen d - i)) = none := by
  rcases Nat.lt_or_ge (radLen d - i) 2 with hl | hl
  · have : radLen d - i = 0 ∨ radLen d - i = 1 := by omega
    rcases this with hl | hl <;> rw [hl] <;> rfl
  · obtain ⟨k, hk⟩ : ∃ k, radLen d - i = k + 1 + 1 := ⟨radLen d - i - 2, by omega⟩
    simp only [hk, slice_succ, Tlv.next]
    refine dif_neg fun hl => ?_
    rw [length_slice] at hl
    have hm := moreAttributes_iff (d := d) (i := i)
    rw [h, attrLen] at hm
    exact absurd (hm.mpr (by omega)) (by decide)

end

/-- The loop over the attributes, with where it stops. -/
def attributeLoop (d : Datagram) : Except Fault (Nat × Attributes) :=
  walk (moreAttributes d) (fun offset => offset + attrLen d offset)
    (fun attrs offset => .ok (visitAttribute d attrs offset)) (radLen d + 1) 20 .default

/-- The loop reads the records there are, and stops where they do. -/
theorem walk_attributes (d : Datagram) {fuel i : Nat} {attrs : Attributes} (hi : i ≤ radLen d)
    (hf : radLen d - i < fuel) :
    walk (moreAttributes d) (fun offset => offset + attrLen d offset)
        (fun attrs offset => .ok (visitAttribute d attrs offset)) fuel i attrs =
      .ok (radLen d - (Tlv.parse (slice d.buffer i (radLen d - i))).2.length,
        (Tlv.parse (slice d.buffer i (radLen d - i))).1.foldl setAttribute attrs) := by
  induction fuel generalizing i attrs with
  | zero => omega
  | succ fuel ih =>
    cases hm : moreAttributes d i with
    | false =>
      rw [walk, hm, Tlv.parse_of_next_none (next_of_not_more hm)]
      simp only [Bool.false_eq_true, if_false, length_slice, List.foldl_nil]
      rw [Nat.sub_sub_self hi]
    | true =>
      obtain ⟨h₁, h₂, h₃⟩ := moreAttributes_iff.mp hm
      obtain ⟨t, hn, hv⟩ := next_of_more hm
      rw [walk, hm, if_pos rfl, Tlv.parse_of_next_some hn, List.foldl_cons, ← hv]
      exact ih h₃ (by omega)

theorem attributeLoop_eq {d : Datagram} (h : 20 ≤ radLen d) :
    attributeLoop d = .ok (radLen d - (Tlv.parse (attributeArea d)).2.length,
      lastOf (Tlv.parse (attributeArea d)).1) := by
  rw [attributeLoop, walk_attributes d h (by omega), ← foldl_setAttribute]
  rfl

theorem attributes_eq {d : Datagram} (h : 20 ≤ radLen d) :
    attributes d = .ok (lastOf (Tlv.parse (attributeArea d)).1) := by
  show (attributeLoop d).map Prod.snd = _
  rw [attributeLoop_eq h]
  rfl

theorem attributes_of_stream {d : Datagram} {ts : List Tlv} (h : 20 ≤ radLen d)
    (ht : attributeArea d = Tlv.stream ts) : attributes d = .ok (lastOf ts) := by
  rw [attributes_eq h, ht, Tlv.parse_stream]

/-- What is read is not longer than an attribute can be. -/
theorem values_le {d : Datagram} {attrs : Attributes} (h : attributes d = .ok attrs) :
    attrs.macAddr.length ≤ 253 ∧ attrs.eapPayload.length ≤ 253 := by
  obtain ⟨⟨j, attrs'⟩, hw, rfl⟩ := map_ok_iff.mp h
  obtain ⟨l, -, hl⟩ := walk_ok_iff.mp ⟨j, hw⟩
  refine foldlM_ok (fun _ attrs => attrs.macAddr.length ≤ 253 ∧ attrs.eapPayload.length ≤ 253) ?_
    hl (by decide)
  intro l i attrs attrs' ha hv
  cases hv
  have hvalue : (slice d.buffer (i + 2) (attrLen d i - 2)).length ≤ 253 := by
    have : attrLen d i < 256 := (d.buffer (i + 1)).toNat_lt
    rw [length_slice]
    omega
  unfold visitAttribute
  dsimp only
  split
  · exact ⟨hvalue, ha.2⟩
  · split
    · exact ⟨ha.1, hvalue⟩
    · split <;> exact ha

theorem radLen_congr {d d' : Datagram} (h : 20 ≤ radLen d)
    (hb : ∀ i < radLen d, d'.buffer i = d.buffer i) : radLen d' = radLen d := by
  rw [radLen, radLen, be16, be16, hb 2 (by omega), hb 3 (by omega)]

/-! ## What the loop reads -/

/-- The loop reads nothing behind the packet. -/
theorem lt_radLen_of_loopReads {d : Datagram} {i : Nat} (h : LoopReads d i) : i < radLen d := by
  cases h with
  | header _ hr hi => omega
  | value _ hm _ hi =>
    obtain ⟨-, -, hl⟩ := moreAttributes_iff.mp hm
    omega

section

variable {d d' : Datagram} {i : Nat}

theorem attrLen_congr (hb : ∀ j, LoopReads d j → d'.buffer j = d.buffer j) (hi : LoopAt d i)
    (hr : i + 2 ≤ radLen d) : attrLen d' i = attrLen d i := by
  rw [attrLen, attrLen, hb (i + 1) (.header hi hr (by omega))]

theorem moreAttributes_congr (hl : radLen d' = radLen d)
    (hb : ∀ j, LoopReads d j → d'.buffer j = d.buffer j) (hi : LoopAt d i) :
    moreAttributes d' i = moreAttributes d i := by
  by_cases hr : i + 2 ≤ radLen d
  · rw [moreAttributes, moreAttributes, hl, attrLen_congr hb hi hr]
  · simp only [moreAttributes, hl, hr, decide_false, Bool.false_and]

theorem visitAttribute_congr (hb : ∀ j, LoopReads d j → d'.buffer j = d.buffer j)
    (hi : LoopAt d i) (hm : moreAttributes d i = true) (attrs : Attributes) :
    visitAttribute d' attrs i = visitAttribute d attrs i := by
  obtain ⟨hr, -, -⟩ := moreAttributes_iff.mp hm
  have hvalue (ht : d.buffer i = 31 ∨ d.buffer i = 79 ∨ d.buffer i = 4 ∧ attrLen d i = 6) :
      slice d'.buffer (i + 2) (attrLen d i - 2) = slice d.buffer (i + 2) (attrLen d i - 2) :=
    slice_congr fun j hj hj' => hb j (.value hi hm ht (by omega))
  simp only [visitAttribute, hb i (.header hi hr (by omega)), attrLen_congr hb hi hr]
  by_cases h₁ : d.buffer i = 31
  · simp only [h₁, if_true, hvalue (.inl h₁)]
  by_cases h₂ : d.buffer i = 79
  · simp only [h₂, if_true, hvalue (.inr (.inl h₂))]
  by_cases h₃ : d.buffer i = 4 ∧ attrLen d i = 6
  · have hbyte (j : Nat) (hj : j < 4) : d'.buffer (i + 2 + j) = d.buffer (i + 2 + j) :=
      hb _ (.value hi hm (.inr (.inr h₃)) (by omega))
    have hstatus : be32 d'.buffer (i + 2) = be32 d.buffer (i + 2) := by
      rw [be32, be32, hbyte 3 (by decide), hbyte 2 (by decide), hbyte 1 (by decide),
        show d'.buffer (i + 2) = d.buffer (i + 2) from hbyte 0 (by decide)]
    simp only [h₁, h₂, if_false, hstatus]
  · simp only [h₁, h₂, h₃, if_false]

/-- What the loop reads is all that it depends on. -/
theorem attributes_congr (hl : radLen d' = radLen d)
    (hb : ∀ j, LoopReads d j → d'.buffer j = d.buffer j) : attributes d' = attributes d := by
  have hw (fuel : Nat) (i : Nat) (attrs : Attributes) (hi : LoopAt d i) :
      walk (moreAttributes d') (fun offset => offset + attrLen d' offset)
          (fun attrs offset => .ok (visitAttribute d' attrs offset)) fuel i attrs =
        walk (moreAttributes d) (fun offset => offset + attrLen d offset)
          (fun attrs offset => .ok (visitAttribute d attrs offset)) fuel i attrs := by
    induction fuel generalizing i attrs with
    | zero => simp only [walk]
    | succ fuel ih =>
      have hmore := moreAttributes_congr hl hb hi
      cases hm : moreAttributes d i with
      | false => simp only [walk, hmore, hm, Bool.false_eq_true, if_false]
      | true =>
        have hlen := attrLen_congr hb hi (moreAttributes_iff.mp hm).1
        simp only [walk, hmore, hm, if_true, visitAttribute_congr hb hi hm, hlen, Except.bind]
        exact ih _ _ (.next hi hm)
  rw [attributes, attributes, hl, hw (radLen d + 1) 20 .default .start]

end

/-- The loop over the attributes ends, reads nothing behind the packet, so that what it
leaves does not depend on that, and leaves what the last attributes say of the longest
prefix that is a sequence of well-formed ones; so it gives back the attributes that were
written. -/
theorem attributes_exact {d : Datagram} (h : hasValidLength d) :
    (∃ ts r, attributeArea d = Tlv.stream ts ++ r ∧
      (∀ ts' r', attributeArea d = Tlv.stream ts' ++ r' → ts' <+: ts) ∧
      attributes d = .ok (lastOf ts)) ∧
    (∀ i, LoopReads d i → i < radLen d) ∧
    (∀ d', (∀ i < radLen d, d'.buffer i = d.buffer i) → attributes d' = attributes d) ∧
    ∀ ts, attributeArea d = Tlv.stream ts → attributes d = .ok (lastOf ts) := by
  have hl : 20 ≤ radLen d := h.2.2
  refine ⟨⟨_, _, (Tlv.parse_eq _).1, fun ts' r' => Tlv.parse_longest, attributes_eq hl⟩,
    fun i => lt_radLen_of_loopReads, fun d' hb => ?_, fun ts => attributes_of_stream hl⟩
  exact attributes_congr (radLen_congr hl hb) fun i hi => hb i (lt_radLen_of_loopReads hi)

/-- An Accounting-Request with a MAC address, and the status Stop behind another status. -/
def sampleStop : Datagram where
  n := 43
  buffer := .ofBytes <| [4, 9, 0, 43] ++ List.replicate 16 0 ++
    [31, 5, 97, 98, 99] ++ [4, 6, 0, 0, 0, 1] ++ [4, 6, 0, 0, 0, 2] ++ [79, 6, 1, 2, 3, 4]
  src := ⟨0, 0⟩

theorem attributes_exact_sampleStop : hasValidLength sampleStop ∧
    attributes sampleStop = .ok
      { macAddr := ascii "abc", eapPayload := [1, 2, 3, 4], acctStatusType := 2 } :=
  ⟨by decide, (attributes_exact (by decide)).2.2.2
    [⟨31, ascii "abc", by decide⟩, ⟨4, [0, 0, 0, 1], by decide⟩, ⟨4, [0, 0, 0, 2], by decide⟩,
      ⟨79, [1, 2, 3, 4], by decide⟩] (by decide)⟩

/-! ## EAP packets in several attributes -/

/-- A request is for the values of its last attributes. -/
theorem handleUdpRx_request {d : Datagram} {ts : List Tlv} (c : Option Nat)
    (hv : hasValidLength d) (hc : d.buffer 0 = 1) (ht : attributeArea d = Tlv.stream ts) :
    RadiusServer.handleUdpRx d c = .ok (some (.accessRequest (accessRequest d (lastOf ts)) c)) := by
  rw [RadiusServer.handleUdpRx, if_pos hv, attributes_of_stream hv.2.2 ht]
  simp only [Except.map, hc, if_true]

/-- Every DER on an Access-Request has the request's EAP payload. -/
theorem der_of_request {core : TwagCore} {env : Env} {req : AccessRequest} {msg : Der} {ok : Bool}
    (h : .der msg ok ∈ (core.handleRadiusAccessRequest env req).2) :
    msg.eapPayload = avp env .eapPayload req.eapPayload := by
  have hsend {m : Bytes} (config : TwagConfig) (s : UeSession m)
      (h : .der msg ok ∈ (sendDer env config s req.eapPayload).2.2) :
      msg.eapPayload = avp env .eapPayload req.eapPayload := by
    unfold sendDer at h
    split at h
    · cases h
    split at h <;>
    · cases List.mem_singleton.mp h
      rfl
  unfold TwagCore.handleRadiusAccessRequest at h
  split at h
  · exact hsend _ _ h
  split at h
  · cases List.mem_singleton.mp h
  · exact hsend _ _ h

theorem getLast_eq_flatten_iff {l : List Bytes} (h : l ≠ []) (hl : ∀ v ∈ l, v ≠ []) :
    l.getLast h = l.flatten ↔ l.length = 1 := by
  cases l using List.reverseRecOn with
  | nil => exact absurd rfl h
  | append_singleton l v =>
    rw [List.getLast_concat, List.flatten_concat, List.self_eq_append_left,
      List.flatten_eq_nil_iff, List.length_append, List.length_singleton]
    cases l with
    | nil => simp
    | cons w l =>
      have hw : w ≠ [] := hl w (by simp)
      simp [hw]

/-- An Access-Request is handed on with the last of its EAP-Message attributes,
which is the whole EAP packet exactly if there is only one; the IMSI is read in
that attribute, and the DER has it for its EAP-Payload. -/
theorem eap_of_last_attribute {d : Datagram} {ts : List Tlv} (c : Option Nat)
    (hv : hasValidLength d) (hc : d.buffer 0 = 1) (ht : attributeArea d = Tlv.stream ts)
    (hne : Tlv.valuesOf 79 ts ≠ []) (hcut : ∀ v ∈ Tlv.valuesOf 79 ts, v ≠ []) :
    ∃ req, RadiusServer.handleUdpRx d c = .ok (some (.accessRequest req c)) ∧
      req.eapPayload = (Tlv.valuesOf 79 ts).getLast hne ∧
      (req.eapPayload = (Tlv.valuesOf 79 ts).flatten ↔ (Tlv.valuesOf 79 ts).length = 1) ∧
      req.imsi = imsiOf ((Tlv.valuesOf 79 ts).getLast hne) ∧
      ∀ core env msg ok, .der msg ok ∈ (TwagCore.handleRadiusAccessRequest core env req).2 →
        msg.eapPayload = avp env .eapPayload ((Tlv.valuesOf 79 ts).getLast hne) := by
  have he : (lastOf ts).eapPayload = (Tlv.valuesOf 79 ts).getLast hne := by
    rw [lastOf, List.getLast?_eq_some_getLast hne, Option.getD_some]
  refine ⟨accessRequest d (lastOf ts), handleUdpRx_request c hv hc ht, he, ?_, ?_, ?_⟩
  · rw [← getLast_eq_flatten_iff hne hcut, ← he]
    rfl
  · rw [← he]
    rfl
  · intro core env msg ok h
    rw [← he]
    exact der_of_request h

/-- The attributes of an Access-Request with an EAP-Response of type Identity that
is cut in two. -/
def sampleCut : List Tlv :=
  [⟨79, [2, 1, 0, 9, 1, 48], by decide⟩, ⟨31, ascii "abc", by decide⟩,
    ⟨79, [50, 51, 52], by decide⟩]

def sampleCutRequest : Datagram where
  n := 38
  buffer := .ofBytes ([1, 9, 0, 38] ++ List.replicate 16 0 ++ Tlv.stream sampleCut)
  src := ⟨0, 0⟩

theorem eap_of_last_attribute_sampleCut :
    ∃ req, RadiusServer.handleUdpRx sampleCutRequest none = .ok (some (.accessRequest req none)) ∧
      req.eapPayload = [50, 51, 52] := by
  obtain ⟨req, h, he, -⟩ := eap_of_last_attribute none (by decide) (by decide)
    (show attributeArea sampleCutRequest = Tlv.stream sampleCut by decide) (by decide) (by decide)
  exact ⟨req, h, he⟩

/-- The EAP packet that is cut is not the one that is handed on, and the IMSI is lost. -/
theorem sampleCut_eap_lost :
    ∃ req, RadiusServer.handleUdpRx sampleCutRequest none = .ok (some (.accessRequest req none)) ∧
      (Tlv.valuesOf 79 sampleCut).flatten = [2, 1, 0, 9, 1, 48, 50, 51, 52] ∧
      req.eapPayload ≠ (Tlv.valuesOf 79 sampleCut).flatten ∧
      imsiOf (Tlv.valuesOf 79 sampleCut).flatten = [50, 51, 52] ∧ req.imsi = [] :=
  ⟨_, handleUdpRx_request none (by decide) (by decide)
    (show attributeArea sampleCutRequest = Tlv.stream sampleCut by decide),
    by decide, by decide, by decide, by decide⟩

end Twag.Proof.Receive

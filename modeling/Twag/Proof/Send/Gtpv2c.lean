import Twag.Impl.S2a
import Twag.Impl.Gtpv2c
import Twag.Impl.Send.Gtpv2c
import Twag.Proof.Receive.Mac

/-!
# The Create Session Request on the wire

`Has buf p bytes` says that a buffer has these bytes at `p`; it splits along the
encoders, and gives back what each of them wrote (`Has.ie`, `Has.be16`, `Has.be32`,
`Has.le32`). With it:

* `datagram_ok_iff`: the request is encoded without a fault exactly if the name of the
  APN and its length fit the field;
* `Sent`: where the IEs of a datagram are;
* `walkIes_request`: a decoder that is given the datagram visits these, and no other.
-/

namespace Twag.Proof.Send

open Twag.Impl Twag.Proof.Receive

/-! ## Bytes in a buffer -/

/-- The buffer has these bytes at `p`. -/
def Has (buf : Memory) (p : Nat) (bytes : Bytes) : Prop := slice buf p bytes.length = bytes

section

variable {buf : Memory} {p : Nat}

theorem has_append {a b : Bytes} :
    Has buf p (a ++ b) ↔ Has buf p a ∧ Has buf (p + a.length) b := by
  rw [Has, List.length_append, slice_add]
  exact ⟨fun h => List.append_inj h (length_slice _ _ _), fun ⟨ha, hb⟩ => by rw [ha, hb]⟩

theorem has_cons {x : UInt8} {b : Bytes} : Has buf p (x :: b) ↔ buf p = x ∧ Has buf (p + 1) b := by
  rw [Has, List.length_cons, slice_succ, List.cons.injEq]
  rfl

theorem has_ofBytes (b : Bytes) : Has (Memory.ofBytes b) 0 b := slice_ofBytes [] b

theorem Has.be16 {n : UInt16} (h : Has buf p (be16Octets n)) : Impl.be16 buf p = n.toNat := by
  simp only [be16Octets, has_cons] at h
  have hn := n.toNat_lt
  rw [Impl.be16, h.1, h.2.1]
  simp only [UInt16.toNat_toUInt8, UInt16.toNat_shiftRight]
  simp [Nat.shiftRight_eq_div_pow]
  omega

/-- The octets of a word give it back. -/
theorem ofOctets_octets (n : UInt32) :
    ofOctets n.toUInt8.toNat (n >>> 8).toUInt8.toNat (n >>> 16).toUInt8.toNat
      (n >>> 24).toUInt8.toNat = n := by
  have hn := n.toNat_lt
  rw [ofOctets, ← UInt32.toNat_inj, UInt32.toNat_ofNat']
  simp only [UInt32.toNat_toUInt8, UInt32.toNat_shiftRight]
  simp [Nat.shiftRight_eq_div_pow]
  omega

theorem Has.be32 {n : UInt32} (h : Has buf p (be32Octets n)) : Impl.be32 buf p = n := by
  simp only [be32Octets, has_cons] at h
  obtain ⟨h₀, h₁, h₂, h₃, -⟩ := h
  rw [Impl.be32, h₀, h₁, h₂, h₃, ofOctets_octets]

theorem Has.le32 {n : UInt32} (h : Has buf p (DhcpServer.octets n)) : Impl.le32 buf p = n := by
  simp only [DhcpServer.octets, has_cons] at h
  obtain ⟨h₀, h₁, h₂, h₃, -⟩ := h
  rw [Impl.le32, h₀, h₁, h₂, h₃, ofOctets_octets]

/-- An IE at `p`: what its header says, and its value. -/
structure IeAt (buf : Memory) (p : Nat) (type : UInt8) (value : Bytes) : Prop where
  type : buf p = type
  inst : buf (p + 3) = 0
  len : ieLen buf p = value.length
  value : Has buf (p + 4) value

theorem Has.ie {type : UInt8} {len : UInt16} {value : Bytes}
    (h : Has buf p (encodeIeHeader type len 0 ++ value)) (hl : len.toNat = value.length) :
    IeAt buf p type value := by
  simp only [encodeIeHeader, List.append_assoc, has_append, has_cons, List.length_cons,
    List.length_nil] at h
  obtain ⟨⟨ht, -⟩, hlen, ⟨hi, -⟩, hv⟩ := h
  exact ⟨ht, hi, by rw [ieLen, hlen.be16, hl], hv⟩

theorem IeAt.slice {type : UInt8} {value : Bytes} (h : IeAt buf p type value) :
    Impl.slice buf (p + 4) (ieLen buf p) = value := by
  rw [h.len]
  exact h.value

theorem IeAt.isIe {type t : UInt8} {value : Bytes} (h : IeAt buf p type value) :
    isIe buf p t 0 = (type == t) := by
  rw [Impl.isIe, h.type, h.inst]
  simp

end

/-! ## Octets of bits -/

/-- What a shift by `s` brings in from the next byte is outside the mask of the field. -/
theorem beyond_and_mask (beyond : UInt8) {s : Nat} (hs : 0 < s) (hs' : s < 8) :
    beyond >>> UInt8.ofNat (8 - s) &&& maskBits.getD (8 - s) 0 = 0 := by
  have h : ∀ s : Fin 8, s ≠ 0 → ∀ i : Fin 256,
      UInt8.ofFin i >>> UInt8.ofNat (8 - s) &&& maskBits.getD (8 - s) 0 = 0 := by
    decide +kernel
  have hne : (⟨s, hs'⟩ : Fin 8) ≠ 0 := by simpa [Fin.ext_iff] using Nat.ne_of_gt hs
  revert beyond
  exact forall_uint8 (h ⟨s, hs'⟩ hne)

theorem or_and_distrib (a b m : UInt8) : (a ||| b) &&& m = a &&& m ||| b &&& m := by
  rw [UInt8.and_comm, UInt8.and_comm a, UInt8.and_comm b]
  exact UInt8.toBitVec_inj.mp BitVec.and_or_distrib_left

/-- The byte behind a value is read, and masked. -/
theorem encodeBits_beyond {value : UInt8} {count offset : Nat} (hc : 0 < count)
    (h : count + offset ≤ 8) (beyond dest : UInt8) :
    encodeBits value count offset beyond dest = encodeBits value count offset 0 dest := by
  by_cases hs : 8 - count - offset = 0
  · simp only [encodeBits, hs, if_true]
  · -- both bytes leave nothing under the mask, and the rest is the same
    have hmask (b x : UInt8) : b >>> UInt8.ofNat (8 - (8 - count - offset)) &&& x &&&
        maskBits.getD (offset + count) 0 = 0 := by
      have hm := beyond_and_mask b (Nat.pos_of_ne_zero hs) (by omega)
      rw [show 8 - (8 - count - offset) = offset + count by omega] at hm ⊢
      rw [UInt8.and_assoc, UInt8.and_comm x, ← UInt8.and_assoc, hm, UInt8.zero_and]
    simp only [encodeBits, hs, if_false, or_and_distrib, hmask]

/-- The bits of an octet that are outside the field. -/
def keptBits (count offset : Nat) : UInt8 :=
  if 8 - count - offset = 0 then maskBits.getD offset 0
  else maskBits.getD offset 0 ||| xorMaskBits.getD (offset + count + 1) 0

/-- Of what the octet held, the bits outside the field show through. -/
theorem encodeBits_or (value : UInt8) (count offset : Nat) (a b : UInt8) :
    encodeBits value count offset 0 (a ||| b) =
      a &&& keptBits count offset ||| encodeBits value count offset 0 b := by
  by_cases hs : 8 - count - offset = 0
  · simp only [encodeBits, keptBits, hs, if_true, or_and_distrib, UInt8.or_assoc]
  · simp only [encodeBits, keptBits, hs, if_false, or_and_distrib, UInt8.or_assoc]

/-- Version 2, no piggybacking and no TEID, whatever the octet was. -/
theorem headerFlags_eq (beyond dest : UInt8) : headerFlags 2 0 beyond dest = 0x40 := by
  -- the mask of a field at the first bit lets a bit of the version through, which is set anyway
  have hkept : keptBits 3 0 &&& (keptBits 1 3 &&& (keptBits 1 4 &&& keptBits 3 5)) = 0x40 := by
    decide
  have hfields : encodeBits 0 3 5 0 (encodeBits 0 1 4 0 (encodeBits 0 1 3 0
      (encodeBits 2 3 0 0 0))) = 0x40 := by decide
  rw [← UInt8.or_zero (a := dest)]
  simp only [headerFlags, encodeBits_beyond, Nat.reduceLT, Nat.reduceAdd, Nat.reduceLeDiff,
    encodeBits_or, UInt8.and_assoc]
  rw [hkept, hfields]
  revert dest
  exact forall_uint8 (by decide +kernel)

/-- The flags of an IPv4 endpoint, whatever the octet was. -/
theorem fteidFlags_eq (beyond dest : UInt8) :
    encodeBits 0 6 2 beyond (encodeBits 0 1 1 beyond (encodeBits 1 1 0 beyond dest)) = 0x80 := by
  have hkept : keptBits 1 0 &&& (keptBits 1 1 &&& keptBits 6 2) = 0 := by decide
  rw [← UInt8.or_zero (a := dest)]
  simp only [encodeBits_beyond, Nat.reduceLT, Nat.reduceAdd, Nat.reduceLeDiff, encodeBits_or,
    UInt8.and_assoc]
  rw [hkept, UInt8.and_zero, UInt8.zero_or]
  decide

/-- The octet of a PDN type holds it in its low bits; others may show through. -/
theorem pdnTypeOctet_and (beyond dest : UInt8) {pdnType : UInt8} (h : pdnType < 8) :
    encodeBits pdnType 3 5 beyond (encodeBits 0 5 0 beyond dest) &&& 0x07 = pdnType := by
  have hkept : keptBits 5 0 &&& (keptBits 3 5 &&& 0x07) = 0 := by decide
  have hsweep : ∀ t : Fin 8,
      encodeBits (UInt8.ofNat t) 3 5 0 (encodeBits 0 5 0 0 0) &&& 0x07 = UInt8.ofNat t := by
    decide
  have htype := hsweep ⟨pdnType.toNat, h⟩
  rw [UInt8.ofNat_toNat] at htype
  rw [← UInt8.or_zero (a := dest)]
  simp only [encodeBits_beyond, Nat.reduceLT, Nat.reduceAdd, Nat.reduceLeDiff, encodeBits_or,
    or_and_distrib, UInt8.and_assoc]
  rw [hkept, UInt8.and_zero, UInt8.zero_or]
  exact htype

/-! ## A walk over IEs of known sizes -/

/-- Where IEs start whose values have these lengths, the first of them at `p`. -/
def positions : Nat → List Nat → List Nat
  | _, [] => []
  | p, n :: ns => p :: positions (p + 4 + n) ns

/-- From `p` on there are IEs whose values have these lengths. -/
def LaidOut (buf : Memory) : Nat → List Nat → Prop
  | _, [] => True
  | p, n :: ns => ieLen buf p = n ∧ LaidOut buf (p + 4 + n) ns

/-- The bytes that such IEs take. -/
def total (ns : List Nat) : Nat := (ns.map (4 + ·)).sum

theorem length_le_total (ns : List Nat) : ns.length ≤ total ns := by
  induction ns with
  | nil => exact Nat.zero_le _
  | cons n ns ih =>
    simp only [total, List.map_cons, List.sum_cons, List.length_cons] at ih ⊢
    omega

section

variable {σ : Type} {buf : Memory} {base bufLen : Nat} {visit : σ → Nat → Except Fault σ}

theorem walk_laidOut (hb : bufLen < 2 ^ 16) :
    ∀ (ns : List Nat) (count fuel : Nat) (s : σ), LaidOut buf (base + count) ns →
      count + total ns = bufLen → ns.length < fuel →
      (walk (fun count => decide (count < bufLen)) (nextIe buf base)
        (fun s count => visit s (base + count)) fuel count s).map Prod.snd =
        (positions (base + count) ns).foldlM visit s
  | [], count, fuel + 1, s, _, ht, _ => by
    have hend : ¬ count < bufLen := by
      simp only [total, List.map_nil, List.sum_nil] at ht
      omega
    simp only [walk, hend, decide_false, Bool.false_eq_true, if_false, positions, List.foldlM_nil]
    rfl
  | n :: ns, count, fuel + 1, s, ⟨hn, hl⟩, ht, hf => by
    have ht : count + (4 + n) + total ns = bufLen := by
      simp only [total, List.map_cons, List.sum_cons] at ht ⊢
      omega
    have hnext : nextIe buf base count = count + 4 + n := by
      rw [nextIe, hn, Nat.mod_eq_of_lt (by omega)]
    have hlt : count < bufLen := by omega
    rw [show base + count + 4 + n = base + (count + 4 + n) by omega] at hl
    simp only [walk, hlt, decide_true, if_true, hnext, positions, List.foldlM_cons]
    cases hv : visit s (base + count) with
    | error e => rfl
    | ok s₁ =>
      have := walk_laidOut hb ns (count + 4 + n) fuel s₁ hl (by omega)
        (Nat.lt_of_succ_lt_succ hf)
      rwa [show base + (count + 4 + n) = base + count + 4 + n by omega] at this

/-- A decoder visits the IEs that are there, one after the other. -/
theorem walkIes_laidOut {ns : List Nat} {s : σ} (hl : LaidOut buf base ns)
    (hb : total ns < 2 ^ 16) :
    walkIes buf base (total ns) visit s = (positions base ns).foldlM visit s := by
  exact walk_laidOut hb ns 0 (2 ^ 16) s hl (Nat.zero_add _)
    (Nat.lt_of_le_of_lt (length_le_total ns) hb)

end

/-! ## The request -/

/-- The name of the APN in a request. -/
def apnOf (config : TwagConfig) {mac : Bytes} (session : UeSession mac) : Bytes :=
  if session.apn.isEmpty then config.apn else session.apn

/-- The datagram of a session's request. -/
def requestOf (stale : Stale) (env : Env) (config : TwagConfig) {mac : Bytes}
    (session : UeSession mac) : Except Fault Bytes :=
  createSessReqDatagram stale (createSessReqOf env config session)

section

variable {stale : Stale} {env : Env} {config : TwagConfig} {mac : Bytes} {session : UeSession mac}
  {b : Bytes}

theorem request_ok_iff :
    (∃ b, requestOf stale env config session = .ok b) ↔ (apnOf config session).length ≤ 127 := by
  have hl : (createSessReqOf env config session).apn.length =
      (apnOf config session).length + 1 := rfl
  rw [requestOf, createSessReqDatagram, hl]
  split
  · exact iff_of_true ⟨_, rfl⟩ (by omega)
  · exact iff_of_false (by simp) (by omega)

@[simp] theorem length_encodeImsi (val : UInt64) (len : Nat) :
    (encodeImsi val len).length = len := by
  simp only [encodeImsi]
  split <;> simp

variable (env config session)

/-- The request of a session is in this buffer. -/
structure Sent (buf : Memory) : Prop where
  fits : (apnOf config session).length ≤ 127
  flags : buf 0 = 0x40
  messageLen : be16 buf 2 = 56 + (apnOf config session).length
  imsi : IeAt buf 8 1 (encodeImsi (encodeImsiBcd session.imsi) 8)
  ratType : IeAt buf 20 82 [3]
  fteid : IeAt buf 25 87
    (0x80 :: (be32Octets session.gtpTeidC ++ DhcpServer.octets (env.localIp.getD loopback)))
  apn : IeAt buf 38 71
    (UInt8.ofNat (apnOf config session).length :: apnOf config session)
  pdnType : ∃ octet, octet &&& 0x07 = UInt8.ofNat (session.pdnType.toNat % 8) ∧
    IeAt buf (43 + (apnOf config session).length) 99 [octet]
  apnAmbr : IeAt buf (48 + (apnOf config session).length) 72
    (be32Octets (htonl (if session.ambrUl ≠ 0 then session.ambrUl else 1000000)) ++
      be32Octets (htonl (if session.ambrDl ≠ 0 then session.ambrDl else 1000000)))

variable {env config session}

theorem toNat_apnHeaderLen (h : (apnOf config session).length ≤ 127) :
    (createSessReqOf env config session).apnHeaderLen.toNat =
      (apnOf config session).length + 1 := by
  show (UInt16.ofNat ((apnOf config session).length + 1)).toNat = _
  rw [UInt16.toNat_ofNat']
  omega

theorem apnHeaderLen_ne_zero (h : (apnOf config session).length ≤ 127) :
    (createSessReqOf env config session).apnHeaderLen ≠ 0 := by
  intro h0
  have hlen : (createSessReqOf env config session).apnHeaderLen.toNat = _ := toNat_apnHeaderLen h
  rw [h0] at hlen
  exact absurd hlen (Nat.succ_ne_zero _).symm

/-- With a name that fits the field, the IE holds its length and the name. -/
theorem encodeApnIe_eq (h : (apnOf config session).length ≤ 127) :
    encodeApnIe (createSessReqOf env config session).apnHeaderLen
        (createSessReqOf env config session).apn =
      encodeIeHeader 71 (createSessReqOf env config session).apnHeaderLen 0 ++
        (UInt8.ofNat (apnOf config session).length :: apnOf config session) := by
  have hl : (createSessReqOf env config session).apn =
    UInt8.ofNat (apnOf config session).length :: apnOf config session := rfl
  rw [encodeApnIe, toNat_apnHeaderLen h, hl, List.take_left' (by simp)]

@[simp] theorem length_encodeIeHeader (type : UInt8) (len : UInt16) (inst : UInt8) :
    (encodeIeHeader type len inst).length = 4 := rfl

@[simp] theorem length_encodeHeader (beyond dest type : UInt8) (len : UInt16) (seq : UInt32) :
    (encodeHeader beyond dest type len seq).length = 8 := rfl

@[simp] theorem length_encodeImsiIe (val : UInt64) : (encodeImsiIe val).length = 12 := by
  simp [encodeImsiIe]

@[simp] theorem length_encodeRatTypeIe : encodeRatTypeIe.length = 5 := rfl

@[simp] theorem length_encodeFteidIe (beyond dest : UInt8) (teid ip : UInt32) :
    (encodeFteidIe beyond dest teid ip).length = 13 := rfl

@[simp] theorem length_encodePdnTypeIe (beyond dest pdnType : UInt8) :
    (encodePdnTypeIe beyond dest pdnType).length = 5 := rfl

@[simp] theorem length_encodeAmbrIe (ul dl : UInt32) : (encodeAmbrIe ul dl).length = 12 := rfl

/-- A request, one IE after the other. The octets of bits depend on the buffer. -/
theorem encodeCreateSessReq_eq (stale : Stale) {req : CreateSessReq} (h : req.apnHeaderLen ≠ 0) :
    encodeCreateSessReq stale req =
      encodeHeader stale.beyond (stale.buffer 0) 32
          (UInt16.ofNat (51 + (encodeApnIe req.apnHeaderLen req.apn).length)) 1 ++
        (encodeImsiIe req.imsiNumberDigits ++ (encodeRatTypeIe ++
          (encodeFteidIe stale.beyond (stale.buffer 29) req.teidGreKey req.ipv4Address ++
            (encodeApnIe req.apnHeaderLen req.apn ++
              (encodePdnTypeIe stale.beyond
                  (stale.buffer (42 + (encodeApnIe req.apnHeaderLen req.apn).length)) req.pdnType ++
                encodeAmbrIe req.apnAmbrUplnk req.apnAmbrDnlnk))))) := by
  have hbits (n : Nat) : 8 + (12 + (5 + (13 + n))) + 4 = 42 + n := by omega
  have hsize (n : Nat) : 8 + (12 + (5 + (13 + (n + (5 + 12))))) - 4 = 51 + n := by omega
  simp only [encodeCreateSessReq, h, ne_eq, not_false_eq_true, if_true, List.append_assoc,
    List.length_append, length_encodeImsiIe, length_encodeRatTypeIe, length_encodeFteidIe,
    length_encodePdnTypeIe, length_encodeAmbrIe, hbits, hsize]

theorem pdnType_lt (n : UInt32) : UInt8.ofNat (n.toNat % 8) < 8 := by
  rw [UInt8.lt_iff_toNat_lt, UInt8.toNat_ofNat']
  simp only [UInt8.reduceToNat]
  omega

/-- A datagram that is sent is the encoded request. -/
theorem encode_of_ok (hb : requestOf stale env config session = .ok b) :
    encodeCreateSessReq stale (createSessReqOf env config session) = b := by
  rw [requestOf, createSessReqDatagram] at hb
  split at hb
  · exact Except.ok.inj hb
  · cases hb

/-- What is sent for a session, and how long it is. -/
theorem sent_of_ok (hb : requestOf stale env config session = .ok b) :
    b.length = 60 + (apnOf config session).length ∧
      Sent env config session (Memory.ofBytes b) := by
  have hn : (apnOf config session).length ≤ 127 := request_ok_iff.mp ⟨b, hb⟩
  have he := encode_of_ok hb
  rw [encodeCreateSessReq_eq stale (apnHeaderLen_ne_zero hn), encodeApnIe_eq hn] at he
  have hhas := has_ofBytes b
  subst he
  constructor
  · simp only [List.length_append, length_encodeHeader, length_encodeImsiIe,
      length_encodeRatTypeIe, length_encodeFteidIe, length_encodePdnTypeIe, length_encodeAmbrIe,
      length_encodeIeHeader, List.length_cons]
    omega
  generalize Memory.ofBytes _ = buf at hhas ⊢
  obtain ⟨hheader, h⟩ := has_append.mp hhas
  obtain ⟨himsi, h⟩ := has_append.mp h
  obtain ⟨hrat, h⟩ := has_append.mp h
  obtain ⟨hfteid, h⟩ := has_append.mp h
  obtain ⟨hapn, h⟩ := has_append.mp h
  obtain ⟨hpdn, hambr⟩ := has_append.mp h
  simp only [length_encodeHeader, length_encodeImsiIe, length_encodeRatTypeIe,
    length_encodeFteidIe, length_encodePdnTypeIe, List.length_append, length_encodeIeHeader,
    List.length_cons, Nat.zero_add, Nat.reduceAdd] at himsi hrat hfteid hapn hpdn hambr hheader
  rw [show 38 + (4 + ((apnOf config session).length + 1)) = 43 + (apnOf config session).length
    by omega] at hpdn hambr
  rw [show 43 + (apnOf config session).length + 5 = 48 + (apnOf config session).length
    by omega] at hambr
  simp only [encodeHeader, List.append_assoc, has_append, has_cons, List.length_cons,
    List.length_nil, Nat.zero_add, Nat.reduceAdd] at hheader
  obtain ⟨⟨hflags, -⟩, hmessageLen, -⟩ := hheader
  exact
    { fits := hn
      flags := by rw [hflags, headerFlags_eq]
      messageLen := by
        rw [hmessageLen.be16, UInt16.toNat_ofNat']
        omega
      imsi := himsi.ie (by simp)
      ratType := hrat.ie rfl
      fteid := by
        rw [encodeFteidIe, fteidFlags_eq, List.append_assoc, List.append_assoc] at hfteid
        exact hfteid.ie rfl
      apn := hapn.ie (toNat_apnHeaderLen hn)
      pdnType := ⟨_, pdnTypeOctet_and _ _ (pdnType_lt _), hpdn.ie rfl⟩
      apnAmbr := by
        rw [encodeAmbrIe, List.append_assoc] at hambr
        exact hambr.ie rfl }

/-! ## Reading it -/

theorem Sent.teidFlag {buf : Memory} (h : Sent env config session buf) : teidFlag buf = false := by
  rw [Impl.teidFlag, h.flags]
  rfl

theorem Sent.iesLen {buf : Memory} (h : Sent env config session buf) :
    iesLen buf = total [8, 1, 9, (apnOf config session).length + 1, 1, 8] := by
  have hn := h.fits
  rw [Impl.iesLen, h.teidFlag, h.messageLen]
  simp only [total, List.map_cons, List.map_nil, List.sum_cons, List.sum_nil, Bool.false_eq_true,
    if_false]
  omega

/-- A decoder that is given a request visits its six IEs. -/
theorem Sent.walkIes {σ : Type} {visit : σ → Nat → Except Fault σ} {s : σ} {buf : Memory}
    (h : Sent env config session buf) :
    walkIes buf (iesStart buf) (Impl.iesLen buf) visit s =
      [8, 20, 25, 38, 43 + (apnOf config session).length,
        48 + (apnOf config session).length].foldlM visit s := by
  obtain ⟨octet, -, hpdn⟩ := h.pdnType
  have hn := h.fits
  have hpdnPos : 38 + 4 + ((apnOf config session).length + 1) =
      43 + (apnOf config session).length := by
    omega
  have hambrPos : 43 + (apnOf config session).length + 4 + 1 =
      48 + (apnOf config session).length := by
    omega
  rw [iesStart, h.teidFlag, h.iesLen, if_neg Bool.false_ne_true, walkIes_laidOut]
  · simp only [positions, Nat.reduceAdd, hpdnPos, hambrPos]
  · simp only [LaidOut, Nat.reduceAdd, hpdnPos, hambrPos, and_true]
    exact ⟨h.imsi.len.trans (by simp), h.ratType.len, h.fteid.len, h.apn.len, hpdn.len,
      h.apnAmbr.len⟩
  · simp only [total, List.map_cons, List.map_nil, List.sum_cons, List.sum_nil]
    omega

/-- The value of the IE of this type, and instance 0, of a message. -/
def ieValue (b : Bytes) (type : UInt8) : Except Fault (Option Bytes) :=
  let buf := Memory.ofBytes b
  walkIes buf (iesStart buf) (iesLen buf) (fun value p =>
    .ok (if isIe buf p type 0 then some (slice buf (p + 4) (ieLen buf p)) else value)) none

/-- The value of a type is that of the last IE of this type. -/
theorem ieValue_eq (hb : requestOf stale env config session = .ok b) (type : UInt8) :
    ∃ fteid pdnType ambr, ieValue b type = .ok
      ([(1, encodeImsi (encodeImsiBcd session.imsi) 8), (82, [3]), (87, fteid),
          (71, UInt8.ofNat (apnOf config session).length :: apnOf config session),
          (99, pdnType), (72, ambr)].foldl
        (fun value ie => if ie.1 == type then some ie.2 else value) none) := by
  obtain ⟨-, h⟩ := sent_of_ok hb
  obtain ⟨octet, -, hpdn⟩ := h.pdnType
  obtain ⟨fteid, hfteid⟩ : ∃ value, IeAt (Memory.ofBytes b) 25 87 value := ⟨_, h.fteid⟩
  obtain ⟨ambr, hambr⟩ : ∃ value, IeAt (Memory.ofBytes b)
    (48 + (apnOf config session).length) 72 value := ⟨_, h.apnAmbr⟩
  refine ⟨fteid, [octet], ambr, ?_⟩
  simp only [ieValue, h.walkIes, List.foldlM_cons, List.foldlM_nil, h.imsi.isIe, h.ratType.isIe,
    hfteid.isIe, h.apn.isIe, hpdn.isIe, hambr.isIe, h.imsi.slice, h.ratType.slice,
    hfteid.slice, h.apn.slice, hpdn.slice, hambr.slice]
  rfl

theorem ieValue_imsi (hb : requestOf stale env config session = .ok b) :
    ieValue b 1 = .ok (some (encodeImsi (encodeImsiBcd session.imsi) 8)) := by
  obtain ⟨fteid, pdnType, ambr, h⟩ := ieValue_eq hb 1
  exact h

theorem ieValue_apn (hb : requestOf stale env config session = .ok b) :
    ieValue b 71 =
      .ok (some (UInt8.ofNat (apnOf config session).length :: apnOf config session)) := by
  obtain ⟨fteid, pdnType, ambr, h⟩ := ieValue_eq hb 71
  exact h

end

end Twag.Proof.Send

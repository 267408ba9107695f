import Mathlib.Data.List.Nodup
import Twag.Impl.Receive.Extent

/-!
# What a GTP-C datagram can say

`handle_udp_rx` does the same on two buffers that have the same bytes wherever it
reads (`handleUdpRx_congr`): its decoders come to the same IEs (`walkIes_congr`), and
do the same with each of them (`visitBearerCtxt_congr`, `visitCreateSessRsp_congr`,
`visitDelBearerReq_congr`). So what it does follows from what was received, exactly
if everything it reads was received (`onlyReceived_iff`).
-/

namespace Twag.Proof.Receive

open Twag.Impl Twag.Impl.S2aInterface

/-! ## Buffers that agree -/

/-- The buffers have the same `n` bytes at `p`. -/
def Agree (buf buf' : Memory) (p n : Nat) : Prop := ∀ i, p ≤ i → i < p + n → buf' i = buf i

section

variable {buf buf' : Memory} {p n : Nat}

theorem Agree.mono {m : Nat} (h : Agree buf buf' p n) (hm : m ≤ n) : Agree buf buf' p m :=
  fun i hp hi => h i hp (by omega)

theorem Agree.byte (h : Agree buf buf' p n) {k : Nat} (hk : k < n) : buf' (p + k) = buf (p + k) :=
  h (p + k) (Nat.le_add_right p k) (by omega)

theorem Agree.ieLen (h : Agree buf buf' p n) (hn : 3 ≤ n) : ieLen buf' p = ieLen buf p := by
  have h₁ := h.byte (show 1 < n by omega)
  have h₂ := h.byte (show 2 < n by omega)
  rw [Impl.ieLen, Impl.ieLen, be16, be16, h₁, Nat.add_assoc p 1 1, h₂]

theorem Agree.be32 (h : Agree buf buf' p n) {k : Nat} (hk : k + 4 ≤ n) :
    Impl.be32 buf' (p + k) = Impl.be32 buf (p + k) := by
  simp only [Impl.be32, Nat.add_assoc]
  rw [h.byte (show k < n by omega), h.byte (show k + 1 < n by omega),
    h.byte (show k + 2 < n by omega), h.byte (show k + 3 < n by omega)]

theorem Agree.le32 (h : Agree buf buf' p n) {k : Nat} (hk : k + 4 ≤ n) :
    Impl.le32 buf' (p + k) = Impl.le32 buf (p + k) := by
  simp only [Impl.le32, Nat.add_assoc]
  rw [h.byte (show k < n by omega), h.byte (show k + 1 < n by omega),
    h.byte (show k + 2 < n by omega), h.byte (show k + 3 < n by omega)]

end

/-! ## Extents -/

section

variable {buf buf' : Memory} {p : Nat} {decoders : List IeDecoder}

theorem isIe_iff {t i : UInt8} : isIe buf p t i = true ↔ buf p = t ∧ buf (p + 3) = i := by
  simp [isIe]

/-- Where every type has one decoder, the one of an IE says how far it is read. -/
theorem ieExtent_of_isIe (dec : IeDecoder) {i : UInt8} (hie : isIe buf p dec.type i = true)
    (hn : (decoders.map (·.type)).Nodup) (hd : dec ∈ decoders)
    (hi : dec.instances.all (·.contains i) = true) :
    ieExtent decoders buf p = dec.extent buf p := by
  obtain ⟨hp, rfl⟩ := isIe_iff.mp hie
  have ht : dec.takes buf p = true := by
    rw [IeDecoder.takes, hp, hi, Bool.and_true, beq_self_eq_true]
  unfold ieExtent
  split
  · rename_i dec' hfind
    have htakes : dec'.takes buf p = true :=
      List.find?_some (p := fun dec : IeDecoder => dec.takes buf p) hfind
    have htype : dec'.type = dec.type :=
      (beq_iff_eq.mp (Bool.and_eq_true_iff.mp htakes).1).symm.trans hp
    rw [List.inj_on_of_nodup_map hn (List.mem_of_find?_eq_some hfind) hd htype]
  · rename_i hnone
    exact absurd ht (List.find?_eq_none.mp hnone dec hd)

theorem three_le_ieExtent : 3 ≤ ieExtent decoders buf p := by
  unfold ieExtent
  split
  · rename_i dec _
    have := dec.four_le buf p
    omega
  · split <;> omega

/-- The instance is read of every IE whose type is known. -/
theorem four_le_ieExtent (h : decoders.any (buf p == ·.type) = true) :
    4 ≤ ieExtent decoders buf p := by
  unfold ieExtent
  split
  · rename_i dec _
    exact dec.four_le buf p
  · rw [if_pos h]

theorem ieLen_congr (h : Agree buf buf' p (ieExtent decoders buf p)) :
    ieLen buf' p = ieLen buf p :=
  h.ieLen three_le_ieExtent

/-- A branch of a known type is taken in both buffers or in none. -/
theorem isIe_congr (h : Agree buf buf' p (ieExtent decoders buf p)) {t i : UInt8}
    (ht : decoders.any (t == ·.type) = true) : isIe buf' p t i = isIe buf p t i := by
  have hthree : 3 ≤ ieExtent decoders buf p := three_le_ieExtent
  have hp : buf' p = buf p := h p (Nat.le_refl p) (by omega)
  by_cases he : buf p = t
  · have hfour : 4 ≤ ieExtent decoders buf p := four_le_ieExtent (by rw [he]; exact ht)
    rw [isIe, isIe, hp, h.byte (show 3 < _ by omega)]
  · rw [isIe, isIe, hp, beq_false_of_ne he, Bool.false_and, Bool.false_and]

end

/-! ## Walks -/

/-- Two walks that do the same at every IE that the first one comes to do the same. -/
theorem walkIes_congr {σ : Type} {buf buf' : Memory} {base bufLen : Nat}
    {visit visit' : σ → Nat → Except Fault σ} {s : σ}
    (h : ∀ p t, Comes buf base bufLen visit s p t →
      ieLen buf' p = ieLen buf p ∧ visit' t p = visit t p) :
    walkIes buf' base bufLen visit' s = walkIes buf base bufLen visit s := by
  have hw : walk (fun count => decide (count < bufLen)) (nextIe buf' base)
        (fun s count => visit' s (base + count)) (2 ^ 16) 0 s =
      walk (fun count => decide (count < bufLen)) (nextIe buf base)
        (fun s count => visit s (base + count)) (2 ^ 16) 0 s := by
    refine walk_congr fun count t hr => ?_
    obtain ⟨hlen, hv⟩ := h (base + count) t ⟨count, rfl, hr⟩
    exact ⟨by rw [nextIe, nextIe, hlen], hv⟩
  rw [walkIes, walkIes, hw]

/-! ## The IEs of a bearer context -/

section

variable {buf buf' : Memory} {p : Nat}

theorem visitBearerCtxt_congr
    (h : Agree buf buf' p (ieExtent bearerCtxtCreatedDecoders buf p)) (ctxt : BearerCtxtCreated) :
    visitBearerCtxt buf' ctxt p = visitBearerCtxt buf ctxt p := by
  have hteid {i : UInt8} (hie : isIe buf p 87 i = true)
      (hi : [0, 1, 2, 3, 4, 5, 6].contains i = true) : teidGreKey buf' p = teidGreKey buf p := by
    have hext : ieExtent bearerCtxtCreatedDecoders buf p = fteidExtent buf p :=
      ieExtent_of_isIe (fteidDecoder [0, 1, 2, 3, 4, 5, 6]) hie (by decide)
        (by simp [bearerCtxtCreatedDecoders]) hi
    have := nine_le_fteidExtent buf p
    exact h.be32 (by omega)
  unfold visitBearerCtxt
  rw [isIe_congr h (by decide), isIe_congr h (by decide), isIe_congr h (by decide)]
  split
  · rename_i hie
    rw [hteid hie (by decide)]
  split
  · rename_i hie
    rw [hteid hie (by decide)]
  split
  · rename_i hie
    have hext : ieExtent bearerCtxtCreatedDecoders buf p = 26 :=
      ieExtent_of_isIe (.fixed 80 [0] 26) hie (by decide)
        (by simp [bearerCtxtCreatedDecoders]) (by decide)
    rw [h.byte (by omega)]
  · rfl

theorem decodeBearerCtxtCreated_congr (hlen : ieLen buf' p = ieLen buf p)
    (h : ∀ q ctxt, Comes buf (p + 4) (ieLen buf p) (visitBearerCtxt buf) ⟨none, none, none⟩ q ctxt →
      Agree buf buf' q (ieExtent bearerCtxtCreatedDecoders buf q)) :
    decodeBearerCtxtCreated buf' p = decodeBearerCtxtCreated buf p := by
  rw [decodeBearerCtxtCreated, decodeBearerCtxtCreated, hlen]
  exact walkIes_congr fun q ctxt hq =>
    ⟨ieLen_congr (h q ctxt hq), visitBearerCtxt_congr (h q ctxt hq) ctxt⟩

theorem decodeBearerCtxtMarkedRemoval_congr (hlen : ieLen buf' p = ieLen buf p)
    (h : ∀ q, Comes buf (p + 4) (ieLen buf p) (fun _ _ => .ok ()) () q () →
      Agree buf buf' q (ieExtent bearerCtxtMarkedRemovalDecoders buf q)) :
    decodeBearerCtxtMarkedRemoval buf' p = decodeBearerCtxtMarkedRemoval buf p := by
  rw [decodeBearerCtxtMarkedRemoval, decodeBearerCtxtMarkedRemoval, hlen]
  exact walkIes_congr fun q _ hq => ⟨ieLen_congr (h q hq), rfl⟩

/-! ## The IEs of a message -/

/-- An FQ-CSID IE has more CSIDs than there is room for in both buffers or in none. -/
theorem csids_congr {decoders : List IeDecoder} (h : Agree buf buf' p (ieExtent decoders buf p))
    (hn : (decoders.map (·.type)).Nodup) (hd : fqcsidDecoder ∈ decoders) :
    ((isIe buf' p 132 0 || isIe buf' p 132 1) && decide (buf' (p + 4) &&& 0x0f > 8)) =
      ((isIe buf p 132 0 || isIe buf p 132 1) && decide (buf (p + 4) &&& 0x0f > 8)) := by
  have hknown : decoders.any (132 == ·.type) = true :=
    List.any_eq_true.mpr ⟨fqcsidDecoder, hd, by decide⟩
  rw [isIe_congr h hknown, isIe_congr h hknown]
  have hoctet {i : UInt8} (hi : [0, 1].contains i = true) (hie : isIe buf p 132 i = true) :
      buf' (p + 4) = buf (p + 4) := by
    have hext : ieExtent decoders buf p = fqcsidExtent buf p :=
      ieExtent_of_isIe fqcsidDecoder hie hn hd hi
    have := five_le_fqcsidExtent buf p
    exact h.byte (by omega)
  by_cases h0 : isIe buf p 132 0 = true
  · rw [hoctet (by decide) h0]
  by_cases h1 : isIe buf p 132 1 = true
  · rw [hoctet (by decide) h1]
  · simp only [h0, h1, Bool.or_self, Bool.false_and]

theorem decodePaa_congr (h : Agree buf buf' p (paaExtent buf p)) (addr : UInt32) :
    decodePaa buf' p addr = decodePaa buf p addr := by
  have hfive := five_le_paaExtent buf p
  have htype : paaPdnType buf' p = paaPdnType buf p := by
    rw [paaPdnType, paaPdnType, h.byte (by omega)]
  unfold decodePaa
  rw [htype]
  split
  · rename_i h1
    have hext : paaExtent buf p = 9 := by simp [paaExtent, h1]
    exact h.le32 (by omega)
  split
  · rename_i h3
    have hext : paaExtent buf p = 26 := by simp [paaExtent, h3]
    exact h.le32 (by omega)
  · rfl

theorem createSessRspDecoders_nodup : (createSessRspDecoders.map (·.type)).Nodup := by decide

theorem delBearerReqDecoders_nodup : (delBearerReqDecoders.map (·.type)).Nodup := by decide

theorem overflows_congr (h : Agree buf buf' p (ieExtent createSessRspDecoders buf p)) :
    overflows buf' p = overflows buf p := by
  have hcsids := csids_congr h createSessRspDecoders_nodup (by simp [createSessRspDecoders])
  rw [overflows, overflows, hcsids, isIe_congr h (by decide), isIe_congr h (by decide),
    ieLen_congr h]

/-- An FQ-CSID is neither a name nor an address. -/
theorem fqcsid_overflows (buf : Memory) (p : Nat) :
    ((isIe buf p 132 0 || isIe buf p 132 1) && overflows buf p) =
      ((isIe buf p 132 0 || isIe buf p 132 1) && decide (buf (p + 4) &&& 0x0f > 8)) := by
  by_cases hp : buf p = 132
  · have hname : isIe buf p 136 0 = false := by rw [isIe, hp]; rfl
    have haddr : isIe buf p 74 0 = false := by rw [isIe, hp]; rfl
    rw [overflows, hname, haddr, Bool.false_and, Bool.false_and, Bool.false_or, Bool.false_or,
      ← Bool.and_assoc, Bool.and_self]
  · have hne : (buf p == 132) = false := beq_false_of_ne hp
    rw [isIe, isIe, hne, Bool.false_and, Bool.false_and, Bool.or_self, Bool.false_and,
      Bool.false_and]

/-- What `decode_create_sess_rsp` does with an IE, where the buffers agree on it and on
the IEs in it. -/
theorem visitCreateSessRsp_congr (h : Agree buf buf' p (ieExtent createSessRspDecoders buf p))
    (rsp : CreateSessRsp)
    (hcreated : isIe buf p 93 0 = true → rsp.bearerContextsCreated.length < 14 →
      decodeBearerCtxtCreated buf' p = decodeBearerCtxtCreated buf p)
    (hremoval : isIe buf p 93 1 = true →
      decodeBearerCtxtMarkedRemoval buf' p = decodeBearerCtxtMarkedRemoval buf p) :
    visitCreateSessRsp buf' rsp p = visitCreateSessRsp buf rsp p := by
  unfold visitCreateSessRsp
  rw [isIe_congr h (by decide), isIe_congr h (by decide), isIe_congr h (by decide),
    isIe_congr h (by decide), isIe_congr h (by decide), overflows_congr h]
  split
  · rename_i hie
    have hext : ieExtent createSessRspDecoders buf p = causeExtent buf p :=
      ieExtent_of_isIe causeDecoder hie createSessRspDecoders_nodup
        (by simp [createSessRspDecoders]) (by decide)
    have hfive : 5 ≤ causeExtent buf p := by
      unfold causeExtent
      split <;> omega
    rw [h.byte (by omega)]
  split
  · rename_i hie
    have hext : ieExtent createSessRspDecoders buf p = fteidExtent buf p :=
      ieExtent_of_isIe (fteidDecoder [0, 1]) hie createSessRspDecoders_nodup
        (by simp [createSessRspDecoders]) (by decide)
    have := nine_le_fteidExtent buf p
    rw [show teidGreKey buf' p = teidGreKey buf p from h.be32 (by omega)]
  split
  · rename_i hie
    have hext : ieExtent createSessRspDecoders buf p = paaExtent buf p :=
      ieExtent_of_isIe paaDecoder hie createSessRspDecoders_nodup
        (by simp [createSessRspDecoders]) (by decide)
    rw [decodePaa_congr (h.mono (Nat.le_of_eq hext.symm))]
  split
  · rename_i hie
    split
    · rename_i hroom
      rw [hcreated hie hroom]
    · rfl
  split
  · rename_i hie
    rw [hremoval hie]
  · rfl

theorem visitDelBearerReq_congr (h : Agree buf buf' p (ieExtent delBearerReqDecoders buf p))
    (count : Nat) : visitDelBearerReq buf' count p = visitDelBearerReq buf count p := by
  have hcsids := csids_congr h delBearerReqDecoders_nodup (by simp [delBearerReqDecoders])
  rw [visitDelBearerReq, visitDelBearerReq, fqcsid_overflows, fqcsid_overflows, hcsids,
    isIe_congr h (by decide)]

end

/-! ## The handler -/

/-- A message that the handler decodes. -/
def Handled (d : Datagram) : Prop := isCreateSessRsp d ∨ isDelBearerReq d

/-- The datagrams have the same bytes wherever the handler reads the first one. -/
structure SameReads (d d' : Datagram) : Prop where
  n : d'.n = d.n
  src : d'.src = d.src
  buffer (i : Nat) (hi : Reads d i) : d'.buffer i = d.buffer i

section

variable {d d' : Datagram}

theorem SameReads.header (h : SameReads d d') (hd : Handled d) :
    Agree d.buffer d'.buffer 0 (iesStart d.buffer - 1) :=
  fun i _ hi => h.buffer i (.header hd (by omega))

theorem SameReads.ie (h : SameReads d d') (hd : Handled d) {p extent : Nat}
    (hv : Visits d.buffer p extent) : Agree d.buffer d'.buffer p extent :=
  fun i hp hi => h.buffer i (.ie hd hv ⟨hp, hi⟩)

theorem eight_le_iesStart (buf : Memory) : 8 ≤ iesStart buf := by
  unfold iesStart
  split <;> omega

theorem SameReads.teidFlag (h : SameReads d d') (hd : Handled d) :
    teidFlag d'.buffer = teidFlag d.buffer := by
  have := eight_le_iesStart d.buffer
  rw [Impl.teidFlag, Impl.teidFlag, h.header hd 0 (Nat.le_refl 0) (by omega)]

theorem SameReads.ies (h : SameReads d d') (hd : Handled d) :
    iesStart d'.buffer = iesStart d.buffer ∧ iesLen d'.buffer = iesLen d.buffer := by
  have hstart := eight_le_iesStart d.buffer
  have hlen : be16 d'.buffer 2 = be16 d.buffer 2 := by
    rw [be16, be16, h.header hd 2 (by omega) (by omega), h.header hd 3 (by omega) (by omega)]
  rw [iesStart, iesStart, iesLen, iesLen, h.teidFlag hd, hlen]
  exact ⟨rfl, rfl⟩

theorem SameReads.destTeid (h : SameReads d d') (hd : Handled d) :
    destTeid d'.buffer = destTeid d.buffer := by
  rw [S2aInterface.destTeid, S2aInterface.destTeid, h.teidFlag hd]
  split
  · rename_i hflag
    have hstart : iesStart d.buffer = 12 := if_pos hflag
    have hteid := (h.header hd).be32 (show 4 + 4 ≤ iesStart d.buffer - 1 by omega)
    rwa [Nat.zero_add] at hteid
  · rfl

theorem SameReads.seq (h : SameReads d d') (hd : Handled d) : seq d'.buffer = seq d.buffer := by
  have hoctet (i : Nat) (hi : i < iesStart d.buffer - 1) : d'.buffer i = d.buffer i :=
    h.header hd i (Nat.zero_le i) (by omega)
  simp only [S2aInterface.seq, h.teidFlag hd]
  split
  · rename_i hflag
    have hstart : iesStart d.buffer = 12 := if_pos hflag
    rw [hoctet _ (by omega), hoctet _ (by omega), hoctet _ (by omega)]
  · have hstart := eight_le_iesStart d.buffer
    rw [hoctet _ (by omega), hoctet _ (by omega), hoctet _ (by omega)]

theorem SameReads.createSessRsp (h : SameReads d d') (hc : isCreateSessRsp d) :
    decodeCreateSessRsp d'.buffer = decodeCreateSessRsp d.buffer := by
  have hd : Handled d := .inl hc
  rw [decodeCreateSessRsp, decodeCreateSessRsp, (h.ies hd).1, (h.ies hd).2]
  refine walkIes_congr fun p rsp hp => ?_
  have hagree := h.ie hd (.createSessRsp hc.2 hp)
  refine ⟨ieLen_congr hagree,
    visitCreateSessRsp_congr hagree rsp (fun hie hroom => ?_) fun hie => ?_⟩
  · exact decodeBearerCtxtCreated_congr (ieLen_congr hagree) fun q ctxt hq =>
      h.ie hd (.created hc.2 hp hie hroom hq)
  · exact decodeBearerCtxtMarkedRemoval_congr (ieLen_congr hagree) fun q hq =>
      h.ie hd (.markedRemoval hc.2 hp hie hq)

theorem SameReads.delBearerReq (h : SameReads d d') (hr : isDelBearerReq d) :
    decodeDelBearerReq d'.buffer = decodeDelBearerReq d.buffer := by
  have hd : Handled d := .inr hr
  rw [decodeDelBearerReq, decodeDelBearerReq, (h.ies hd).1, (h.ies hd).2]
  refine walkIes_congr fun p count hp => ?_
  have hagree := h.ie hd (.delBearerReq hr.2 hp)
  exact ⟨ieLen_congr hagree, visitDelBearerReq_congr hagree count⟩

theorem SameReads.types (h : SameReads d d') :
    (isCreateSessRsp d' ↔ isCreateSessRsp d) ∧ (isDelBearerReq d' ↔ isDelBearerReq d) := by
  unfold isCreateSessRsp isDelBearerReq
  rw [h.n]
  by_cases hn : 4 ≤ d.n
  · rw [h.buffer 1 (.type hn)]
    exact ⟨Iff.rfl, Iff.rfl⟩
  · simp only [hn, false_and, and_self]

/-- What the handler does is in the bytes it reads. -/
theorem handleUdpRx_congr (h : SameReads d d') (stale : Stale) :
    handleUdpRx d' = handleUdpRx d ∧ handleUdpRxSends stale d' = handleUdpRxSends stale d := by
  have ht := h.types
  by_cases hc : isCreateSessRsp d
  · have hd : Handled d := .inl hc
    simp only [handleUdpRx, handleUdpRxSends, ht.1, hc, if_true, h.createSessRsp hc,
      h.destTeid hd, and_self]
  by_cases hr : isDelBearerReq d
  · have hd : Handled d := .inr hr
    simp only [handleUdpRx, handleUdpRxSends, ht.1, ht.2, hc, hr, if_true, if_false,
      h.delBearerReq hr, h.destTeid hd, h.seq hd, h.src, and_self]
  · simp only [handleUdpRx, handleUdpRxSends, ht.1, ht.2, hc, hr, if_false, and_self]

/-- The length in the header covers the header, and is not more than was received. -/
def Fits (d : Datagram) : Prop :=
  iesStart d.buffer ≤ be16 d.buffer 2 + 4 ∧ (be16 d.buffer 2 + 4 : Nat) ≤ d.n

/-- What the handler does with a datagram depends only on what was received: it reads
nothing else, does the same whatever is behind, and drops what does not fit. -/
structure OnlyReceived (d : Datagram) : Prop where
  reads (i : Nat) (hi : Reads d i) : (i : Int) < d.n
  same (stale : Stale) (d' : Datagram) (hn : d'.n = d.n) (hsrc : d'.src = d.src)
    (hb : ∀ i : Nat, (i : Int) < d.n → d'.buffer i = d.buffer i) :
    handleUdpRx d' = handleUdpRx d ∧ handleUdpRxSends stale d' = handleUdpRxSends stale d
  dropped (h : ¬ Fits d) (stale : Stale) :
    handleUdpRx d = .ok none ∧ handleUdpRxSends stale d = .ok none

/-- The handler drops no message of a type that it knows. -/
theorem handleUdpRx_ne_none (h : Handled d) : handleUdpRx d ≠ .ok none := by
  intro he
  unfold handleUdpRx at he
  split at he
  · obtain ⟨rsp, -, hrsp⟩ := map_ok_iff.mp he
    cases hrsp
  split at he
  · obtain ⟨count, -, hcount⟩ := map_ok_iff.mp he
    cases hcount
  · rename_i hc hr
    exact h.elim hc hr

theorem pos_of_visits {buf : Memory} {p extent : Nat} (h : Visits buf p extent) : 0 < extent := by
  cases h <;> exact Nat.lt_of_lt_of_le (by decide) three_le_ieExtent

/-- The handler keeps to what was received exactly if it does not know the type of the
message, or the message fits and so does what is read of every IE that it comes to. -/
theorem onlyReceived_iff (d : Datagram) : OnlyReceived d ↔
    (Handled d → Fits d ∧
      ∀ p extent, Visits d.buffer p extent → (p + extent : Nat) ≤ d.n) := by
  constructor
  · intro h hd
    constructor
    · by_contra hf
      exact handleUdpRx_ne_none hd (h.dropped hf ⟨d.buffer, 0⟩).1
    · intro p extent hv
      have hpos := pos_of_visits hv
      have hlast := h.reads (p + extent - 1) (.ie hd hv (by omega))
      omega
  · intro h
    have hreads (i : Nat) (hi : Reads d i) : (i : Int) < d.n := by
      cases hi with
      | type hn => omega
      | header hd hi =>
        obtain ⟨⟨hstart, hn⟩, -⟩ := h hd
        omega
      | ie hd hv hi =>
        have := (h hd).2 _ _ hv
        omega
    refine ⟨hreads, fun stale d' hn hsrc hb => ?_, fun hf stale => ?_⟩
    · exact handleUdpRx_congr ⟨hn, hsrc, fun i hi => hb i (hreads i hi)⟩ stale
    · have hd : ¬ Handled d := fun hd => hf (h hd).1
      have hc : ¬ isCreateSessRsp d := fun hc => hd (.inl hc)
      have hr : ¬ isDelBearerReq d := fun hr => hd (.inr hr)
      rw [handleUdpRx, handleUdpRxSends, if_neg hc, if_neg hc, if_neg hr, if_neg hr]
      exact ⟨rfl, rfl⟩

/-- A Create Session Response of 17 bytes that ends behind the type of its PAA, and the
four bytes that are behind it in the buffer. -/
def sampleShort (behind : Bytes) : Datagram where
  n := 17
  buffer := .ofBytes ([0x48, 33, 0, 13, 0, 0, 0, 1, 0, 0, 1, 0, 79, 0, 5, 0, 1] ++ behind)
  src := ⟨0, 0⟩

/-- The address that the core is given was never received. -/
theorem sampleShort_leaks :
    (∀ i < 17, (sampleShort [10, 1, 0, 5]).buffer i = (sampleShort []).buffer i) ∧
      handleUdpRx (sampleShort [10, 1, 0, 5]) =
        .ok (some (.createSessionResponse 1 true 0 (ofOctets 10 1 0 5) 9)) ∧
      handleUdpRx (sampleShort []) = .ok (some (.createSessionResponse 1 true 0 0 9)) ∧
      ¬ OnlyReceived (sampleShort []) := by
  have hsame : ∀ i < 17, (sampleShort [10, 1, 0, 5]).buffer i = (sampleShort []).buffer i := by
    decide
  have hbehind : handleUdpRx (sampleShort [10, 1, 0, 5]) =
      .ok (some (.createSessionResponse 1 true 0 (ofOctets 10 1 0 5) 9)) := by decide
  have hnone : handleUdpRx (sampleShort []) =
      .ok (some (.createSessionResponse 1 true 0 0 9)) := by decide
  refine ⟨hsame, hbehind, hnone, fun h => ?_⟩
  have hn (i : Nat) (hi : (i : Int) < 17) : i < 17 := by omega
  have heq := (h.same ⟨fun _ => 0, 0⟩ (sampleShort [10, 1, 0, 5]) rfl rfl
    fun i hi => hsame i (hn i hi)).1
  rw [hbehind, hnone] at heq
  exact absurd heq (by decide)

end

end Twag.Proof.Receive

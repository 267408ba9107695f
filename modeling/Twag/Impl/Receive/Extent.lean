import Twag.Impl.Receive.S2a

/-!
# What the GTPv2-C decoders read

How many bytes of an IE its decoder reads, for the IEs that `decode_create_sess_rsp`,
`decode_del_bearer_req` and the decoders of bearer contexts know. It is what the
decoder's fields take, and follows from the IE's own length in few of them; so a
decoder may read on behind its IE, and behind the message. `Reads` is all that
`S2aInterface::handle_udp_rx` reads of a datagram.
-/

namespace Twag.Impl

section

variable (buf : Memory) (p : Nat)

/-- `decode_gtp_cause_ie` -/
def causeExtent : Nat := if ieLen buf p = 2 then 6 else 10

/-- `decode_gtp_fully_qual_tunn_endpt_idnt_ie`, with the addresses that `v4` and `v6` announce. -/
def fteidExtent : Nat :=
  9 + (if buf (p + 4) &&& 0x80 != 0 then 4 else 0) + if buf (p + 4) &&& 0x40 != 0 then 16 else 0

/-- `decode_gtp_pdn_addr_alloc_ie`, with a prefix for IPv6 and an address for IPv4. -/
def paaExtent : Nat :=
  5 + (if paaPdnType buf p = 2 ∨ paaPdnType buf p = 3 then 17 else 0) +
    if paaPdnType buf p = 1 ∨ paaPdnType buf p = 3 then 4 else 0

/-- `decode_gtp_fully_qual_domain_name_ie` and `decode_gtp_ip_address_ie`: a `memcpy` of
`header.len` bytes. -/
def copyExtent : Nat := 4 + ieLen buf p

/-- `decode_gtp_fqcsid_ie` -/
def fqcsidExtent : Nat :=
  5 + (if buf (p + 4) >>> 4 = 0 then 4 else 16) + 2 * (buf (p + 4) &&& 0x0f).toNat

/-- `decode_gtp_indication_ie`. `indic_len` has 8 bits, and only with 7 the seventh octet
is read. -/
def indicationExtent : Nat :=
  let indicLen := ieLen buf p % 2 ^ 8
  4 + if indicLen = 7 then 7 else min indicLen 6

/-- `decode_gtp_pres_rptng_area_act_ie`: the numbers of areas, the areas, and the number of
extended macro eNodeBs with these. -/
def presRptngAreaActExtent : Nat :=
  let six (i : Nat) : Nat := (buf (p + i) &&& 0x3f).toNat
  let areas := 5 * (buf (p + 8) >>> 4).toNat + 6 * six 9 + 7 * six 10 + 7 * six 11 +
    7 * (buf (p + 8) &&& 0x0f).toNat + 7 * six 12 + 7 * six 13
  15 + areas + 6 * six (14 + areas)

theorem four_le_causeExtent : 4 ≤ causeExtent buf p := by
  unfold causeExtent
  split <;> omega

theorem nine_le_fteidExtent : 9 ≤ fteidExtent buf p := by
  unfold fteidExtent
  omega

theorem five_le_paaExtent : 5 ≤ paaExtent buf p := by
  unfold paaExtent
  omega

theorem four_le_copyExtent : 4 ≤ copyExtent buf p := Nat.le_add_right 4 _

theorem five_le_fqcsidExtent : 5 ≤ fqcsidExtent buf p := by
  unfold fqcsidExtent
  omega

theorem four_le_indicationExtent : 4 ≤ indicationExtent buf p := Nat.le_add_right 4 _

theorem four_le_presRptngAreaActExtent : 4 ≤ presRptngAreaActExtent buf p := by
  simp only [presRptngAreaActExtent]
  omega

end

/-- A branch of a loop over IEs. -/
structure IeDecoder where
  type : UInt8
  /-- `none` if the instance is not looked at. -/
  instances : Option (List UInt8)
  /-- How many bytes it reads of the IE at a position. -/
  extent : Memory → Nat → Nat
  /-- It reads the header at least. -/
  four_le (buf : Memory) (p : Nat) : 4 ≤ extent buf p

/-- A decoder that always reads the same number of bytes. -/
def IeDecoder.fixed (type : UInt8) (instances : List UInt8) (n : Nat) (h : 4 ≤ n := by decide) :
    IeDecoder :=
  ⟨type, some instances, fun _ _ => n, fun _ _ => h⟩

/-- `decode_gtp_priv_ext_ie`, for every instance. -/
def privExtDecoder : IeDecoder := ⟨255, none, fun _ _ => 7, fun _ _ => by decide⟩

def causeDecoder : IeDecoder := ⟨2, some [0], causeExtent, four_le_causeExtent⟩

def fteidDecoder (instances : List UInt8) : IeDecoder :=
  ⟨87, some instances, fteidExtent,
    fun buf p => Nat.le_trans (by decide) (nine_le_fteidExtent buf p)⟩

def paaDecoder : IeDecoder :=
  ⟨79, some [0], paaExtent, fun buf p => Nat.le_trans (by decide) (five_le_paaExtent buf p)⟩

/-- A decoder that copies the value. -/
def copyDecoder (type : UInt8) : IeDecoder := ⟨type, some [0], copyExtent, four_le_copyExtent⟩

def fqcsidDecoder : IeDecoder :=
  ⟨132, some [0, 1], fqcsidExtent,
    fun buf p => Nat.le_trans (by decide) (five_le_fqcsidExtent buf p)⟩

def indicationDecoder : IeDecoder :=
  ⟨77, some [0], indicationExtent, four_le_indicationExtent⟩

def presRptngAreaActDecoder : IeDecoder :=
  ⟨177, some [0], presRptngAreaActExtent, four_le_presRptngAreaActExtent⟩

/-- The branch is taken for the IE at `p`. -/
def IeDecoder.takes (dec : IeDecoder) (buf : Memory) (p : Nat) : Bool :=
  buf p == dec.type && dec.instances.all (·.contains (buf (p + 3)))

/-- How many bytes are read of the IE at `p`. If no branch is taken it is the header,
without the instance if the type is unknown. -/
def ieExtent (decoders : List IeDecoder) (buf : Memory) (p : Nat) : Nat :=
  match decoders.find? (·.takes buf p) with
  | some dec => dec.extent buf p
  | none => if decoders.any (buf p == ·.type) then 4 else 3

/-- `decode_create_sess_rsp`, without what is in its bearer contexts. -/
def createSessRspDecoders : List IeDecoder :=
  [causeDecoder, .fixed 131 [0] 5, .fixed 146 [0] 5, .fixed 165 [0] 5,
   fteidDecoder [0, 1], paaDecoder, .fixed 127 [0] 5, .fixed 72 [0] 12,
   .fixed 73 [0] 5, .fixed 78 [0] 5, .fixed 93 [0, 1] 4, .fixed 3 [0] 5,
   copyDecoder 136, copyDecoder 74, fqcsidDecoder,
   .fixed 151 [0, 1] 5, .fixed 156 [0] 5, .fixed 163 [0] 5, .fixed 166 [0] 9,
   indicationDecoder, presRptngAreaActDecoder,
   .fixed 181 [0, 1, 2] 12, .fixed 180 [0, 1] 12, .fixed 118 [0] 6, .fixed 94 [0] 5,
   .fixed 197 [0] 5, privExtDecoder]

/-- `decode_gtp_create_sess_response_bearer_ctxt_created_ie` -/
def bearerCtxtCreatedDecoders : List IeDecoder :=
  [.fixed 73 [0] 5, causeDecoder, fteidDecoder [0, 1, 2, 3, 4, 5, 6],
   .fixed 80 [0] 26, .fixed 94 [0] 5, .fixed 97 [0] 5]

/-- `decode_gtp_create_sess_response_bearer_ctxt_marked_removal_ie` -/
def bearerCtxtMarkedRemovalDecoders : List IeDecoder :=
  [.fixed 73 [0] 5, causeDecoder]

/-- `decode_del_bearer_req` -/
def delBearerReqDecoders : List IeDecoder :=
  [.fixed 73 [0, 1] 5, .fixed 93 [0] 12, .fixed 100 [0] 5, .fixed 78 [0] 5,
   fqcsidDecoder, indicationDecoder, .fixed 181 [0, 1, 2] 12,
   .fixed 180 [0, 1] 12, .fixed 118 [0] 6, .fixed 197 [0] 5, privExtDecoder]

section

variable (buf : Memory)

/-- The loop over the IEs from `base` on comes to the IE at `p`, with the state `t`. -/
def Comes {σ : Type} (base bufLen : Nat) (visit : σ → Nat → Except Fault σ) (s : σ) (p : Nat)
    (t : σ) : Prop :=
  ∃ count, p = base + count ∧
    Reaches (fun count => decide (count < bufLen)) (nextIe buf base)
      (fun s count => visit s (base + count)) 0 s count t

/-- The IEs that a decoder comes to, with the number of bytes that it reads of them. -/
inductive Visits : Nat → Nat → Prop where
  | createSessRsp {p : Nat} {rsp : CreateSessRsp} (ht : buf 1 = 33)
      (h : Comes buf (iesStart buf) (iesLen buf) (visitCreateSessRsp buf) ⟨none, none, none, []⟩
        p rsp) :
      Visits p (ieExtent createSessRspDecoders buf p)
  | created {p q : Nat} {rsp : CreateSessRsp} {ctxt : BearerCtxtCreated} (ht : buf 1 = 33)
      (h : Comes buf (iesStart buf) (iesLen buf) (visitCreateSessRsp buf) ⟨none, none, none, []⟩
        p rsp)
      (hie : isIe buf p 93 0 = true) (hroom : rsp.bearerContextsCreated.length < 14)
      (hin : Comes buf (p + 4) (ieLen buf p) (visitBearerCtxt buf) ⟨none, none, none⟩ q ctxt) :
      Visits q (ieExtent bearerCtxtCreatedDecoders buf q)
  | markedRemoval {p q : Nat} {rsp : CreateSessRsp} (ht : buf 1 = 33)
      (h : Comes buf (iesStart buf) (iesLen buf) (visitCreateSessRsp buf) ⟨none, none, none, []⟩
        p rsp)
      (hie : isIe buf p 93 1 = true)
      (hin : Comes buf (p + 4) (ieLen buf p) (fun _ _ => .ok ()) () q ()) :
      Visits q (ieExtent bearerCtxtMarkedRemovalDecoders buf q)
  | delBearerReq {p count : Nat} (ht : buf 1 = 99)
      (h : Comes buf (iesStart buf) (iesLen buf) (visitDelBearerReq buf) 0 p count) :
      Visits p (ieExtent delBearerReqDecoders buf p)

end

namespace S2aInterface

/-- `handle_udp_rx` reads byte `i` of the buffer: the type, and for the two messages it
handles the header up to `seq` and what the decoders read. -/
inductive Reads (d : Datagram) : Nat → Prop where
  | type (hn : 4 ≤ d.n) : Reads d 1
  | header {i : Nat} (h : isCreateSessRsp d ∨ isDelBearerReq d) (hi : i < iesStart d.buffer - 1) :
      Reads d i
  | ie {i p extent : Nat} (h : isCreateSessRsp d ∨ isDelBearerReq d)
      (hv : Visits d.buffer p extent) (hi : p ≤ i ∧ i < p + extent) : Reads d i

end S2aInterface

end Twag.Impl

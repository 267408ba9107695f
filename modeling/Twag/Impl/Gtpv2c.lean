import Twag.Framework.Walk
import Twag.Impl.Receive.Datagram

/-!
# The GTPv2-C decoders (`libgtpv2c`)

`decode_create_sess_rsp` and `decode_del_bearer_req`, as far as the gateway
reads what they decode. An IE is four bytes of type, length and instance, and
then its value; every decoder of an IE, and the branch for an unknown one, moves
on by 4 and the length, in a counter of 16 bits. So a walk over IEs may come
back to where it was, and never end. The decoders are given nothing but the
buffer: they do not know how much of it was received.

A field of the decoded message is `none` while its `header.type` is 0. Most IEs
are decoded to fields that nobody reads, and are passed over here; but where
their decoder, or the array of bearers, can write outside its field, that is a
fault.
-/

namespace Twag.Impl

section

variable (buf : Memory)

/-- `ie_header->type` and `ie_header->instance` of the IE at `p`. -/
def isIe (p : Nat) (type inst : UInt8) : Bool := buf p == type && buf (p + 3) == inst

/-- `header.len` of the IE at `p`. -/
def ieLen (p : Nat) : Nat := be16 buf (p + 1)

/-- The counter after the IE at `count`, from `base` on. -/
def nextIe (base count : Nat) : Nat := (count + 4 + ieLen buf (base + count)) % 2 ^ 16

/-- The loop `while (count < buf_len)` over the IEs from `base` on. Before it
comes back to a value, the counter takes less than 2^16 values. -/
def walkIes {σ : Type} (base bufLen : Nat) (visit : σ → Nat → Except Fault σ) (s : σ) :
    Except Fault σ :=
  (walk (fun count => decide (count < bufLen)) (nextIe buf base)
    (fun s count => visit s (base + count)) (2 ^ 16) 0 s).map Prod.snd

/-- `header.gtpc.teid_flag` -/
def teidFlag : Bool := buf 0 &&& 0x08 != 0

/-- Where the IEs of a message start. -/
def iesStart : Nat := if teidFlag buf then 12 else 8

/-- `buf_len` of a message, in 16 bits. -/
def iesLen : Nat := (be16 buf 2 + 2 ^ 16 - if teidFlag buf then 8 else 4) % 2 ^ 16

/-- The decoder of the IE at `p` writes outside its field: `memcpy` of `header.len`
bytes to `fqdn[256]` or `ipv4_ipv6_addr[16]`, and `number_of_csids` values to `pdn_csid[8]`. -/
def overflows (p : Nat) : Bool :=
  isIe buf p 136 0 && ieLen buf p > 256 || isIe buf p 74 0 && ieLen buf p > 16 ||
    (isIe buf p 132 0 || isIe buf p 132 1) && buf (p + 4) &&& 0x0f > 8

/-- `teid_gre_key` of the F-TEID IE at `p`. -/
def teidGreKey (p : Nat) : UInt32 := be32 buf (p + 5)

/-- The fields of `gtp_create_sess_response_bearer_ctxt_created_ie_t` that are read. -/
structure BearerCtxtCreated where
  /-- `teid_gre_key` -/
  s5s8UPgwFteid : Option UInt32
  /-- `teid_gre_key` -/
  s2aUPgwFteid : Option UInt32
  /-- `qci` -/
  bearerLvlQos : Option UInt8
deriving DecidableEq, Repr

/-- One turn of `decode_gtp_create_sess_response_bearer_ctxt_created_ie`. -/
def visitBearerCtxt (ctxt : BearerCtxtCreated) (p : Nat) : Except Fault BearerCtxtCreated :=
  .ok <|
    if isIe buf p 87 2 then { ctxt with s5s8UPgwFteid := some (teidGreKey buf p) }
    else if isIe buf p 87 5 then { ctxt with s2aUPgwFteid := some (teidGreKey buf p) }
    else if isIe buf p 80 0 then { ctxt with bearerLvlQos := some (buf (p + 5)) }
    else ctxt

/-- `decode_gtp_create_sess_response_bearer_ctxt_created_ie`, of the IE at `p`. -/
def decodeBearerCtxtCreated (p : Nat) : Except Fault BearerCtxtCreated :=
  walkIes buf (p + 4) (ieLen buf p) (visitBearerCtxt buf) ⟨none, none, none⟩

/-- `decode_gtp_create_sess_response_bearer_ctxt_marked_removal_ie`: nobody reads
what it decodes. -/
def decodeBearerCtxtMarkedRemoval (p : Nat) : Except Fault Unit :=
  walkIes buf (p + 4) (ieLen buf p) (fun _ _ => .ok ()) ()

/-- The fields of `create_sess_rsp_t` that are read, and the cause and the
P-GW's control-plane F-TEID, which no code reads. -/
structure CreateSessRsp where
  /-- `cause_value` -/
  cause : Option UInt8
  /-- `teid_gre_key` of
  `pgw_s5s8_s2as2b_fteid_pmip_based_intfc_or_gtp_based_ctl_plane_intfc` -/
  pgwFteidCtlPlane : Option UInt32
  /-- The low 32 bits of `pdn_addr_and_pfx` -/
  paa : Option UInt32
  bearerContextsCreated : List BearerCtxtCreated
deriving DecidableEq, Repr

/-- `pdn_type` of the PAA IE at `p`: 1 is IPv4, 2 IPv6 and 3 both. -/
def paaPdnType (p : Nat) : UInt8 := buf (p + 4) &&& 0x07

/-- `decode_gtp_pdn_addr_alloc_ie`, of the IE at `p`, over the address `addr`
that an earlier PAA has left. The IPv4 octets follow an IPv6 prefix if there is one. -/
def decodePaa (p : Nat) (addr : UInt32) : UInt32 :=
  if paaPdnType buf p = 1 then le32 buf (p + 5)
  else if paaPdnType buf p = 3 then le32 buf (p + 22)
  else addr

/-- One turn of `decode_create_sess_rsp`. `bearer_contexts_created` has room for 14. -/
def visitCreateSessRsp (rsp : CreateSessRsp) (p : Nat) : Except Fault CreateSessRsp :=
  if isIe buf p 2 0 then .ok { rsp with cause := some (buf (p + 4)) }
  else if isIe buf p 87 1 then .ok { rsp with pgwFteidCtlPlane := some (teidGreKey buf p) }
  else if isIe buf p 79 0 then .ok { rsp with paa := some (decodePaa buf p (rsp.paa.getD 0)) }
  else if isIe buf p 93 0 then
    if rsp.bearerContextsCreated.length < 14 then
      (decodeBearerCtxtCreated buf p).map fun ctxt =>
        { rsp with bearerContextsCreated := rsp.bearerContextsCreated ++ [ctxt] }
    else .error .outOfBounds
  else if isIe buf p 93 1 then (decodeBearerCtxtMarkedRemoval buf p).map fun _ => rsp
  else if overflows buf p then .error .outOfBounds
  else .ok rsp

/-- `decode_create_sess_rsp`, of a zeroed message. What it returns is positive. -/
def decodeCreateSessRsp : Except Fault CreateSessRsp :=
  walkIes buf (iesStart buf) (iesLen buf) (visitCreateSessRsp buf) ⟨none, none, none, []⟩

/-- One turn of `decode_del_bearer_req`, where `eps_bearer_ids` has room for 14
and `count` are in it. -/
def visitDelBearerReq (count p : Nat) : Except Fault Nat :=
  if isIe buf p 73 1 then if count < 14 then .ok (count + 1) else .error .outOfBounds
  else if (isIe buf p 132 0 || isIe buf p 132 1) && overflows buf p then .error .outOfBounds
  else .ok count

/-- `decode_del_bearer_req`, of a zeroed message: `bearer_count`. What it returns
is positive. -/
def decodeDelBearerReq : Except Fault Nat :=
  walkIes buf (iesStart buf) (iesLen buf) (visitDelBearerReq buf) 0

/-- `gtp_fully_qual_tunn_endpt_idnt_ie_t`, of which the IPv4 address is there with `v4`. -/
structure Fteid where
  v4 : Bool
  teidGreKey : UInt32
  ipv4Address : Option UInt32
deriving DecidableEq, Repr

/-- `decode_gtp_fully_qual_tunn_endpt_idnt_ie`, of the IE at `p`. -/
def decodeFteid (p : Nat) : Fteid :=
  let v4 := buf (p + 4) &&& 0x80 != 0
  ⟨v4, teidGreKey buf p, if v4 then some (le32 buf (p + 9)) else none⟩

/-- Fields of `create_sess_req_t`. -/
structure DecodedCreateSessReq where
  senderFteidCtlPlane : Option Fteid
  /-- `pdn_type_pdn_type` -/
  pdnType : Option UInt8
  /-- `apn_ambr_uplnk` and `apn_ambr_dnlnk` -/
  apnAmbr : Option (UInt32 × UInt32)
deriving DecidableEq, Repr

/-- One turn of `decode_create_sess_req`, for these fields. -/
def visitCreateSessReq (req : DecodedCreateSessReq) (p : Nat) :
    Except Fault DecodedCreateSessReq :=
  .ok <|
    if isIe buf p 87 0 then { req with senderFteidCtlPlane := some (decodeFteid buf p) }
    else if isIe buf p 99 0 then { req with pdnType := some (buf (p + 4) &&& 0x07) }
    else if isIe buf p 72 0 then { req with apnAmbr := some (be32 buf (p + 4), be32 buf (p + 8)) }
    else req

/-- `decode_create_sess_req`, of a zeroed message. The gateway does not run it; it is
how a P-GW reads these fields. What it does with the other IEs is left out. -/
def decodeCreateSessReq : Except Fault DecodedCreateSessReq :=
  walkIes buf (iesStart buf) (iesLen buf) (visitCreateSessReq buf) ⟨none, none, none⟩

end

end Twag.Impl

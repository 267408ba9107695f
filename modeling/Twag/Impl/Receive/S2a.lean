import Twag.Impl.Core
import Twag.Impl.Gtpv2c
import Twag.Impl.Send.Gtpv2c

/-!
# Messages from the P-GW (`s2a_interface.cpp`)

`S2aInterface::handle_udp_rx`: what it hands to the core, and what it sends. A
Create Session Response that is decoded is always handed on as a success, and a
Delete Bearer Request is always accepted.
-/

namespace Twag.Impl

namespace S2aInterface

/-- `dest_teid` -/
def destTeid (buf : Memory) : UInt32 := if teidFlag buf then be32 buf 4 else 0

/-- `pgw_teid` -/
def pgwTeid (rsp : CreateSessRsp) : UInt32 :=
  match rsp.bearerContextsCreated with
  | [] => 0
  | ctxt :: _ => (ctxt.s2aUPgwFteid.or ctxt.s5s8UPgwFteid).getD 0

/-- `qci`, 9 by default. -/
def qci (rsp : CreateSessRsp) : UInt8 :=
  match rsp.bearerContextsCreated with
  | [] => 9
  | ctxt :: _ => ctxt.bearerLvlQos.getD 9

/-- `ue_ip` -/
def ueIp (rsp : CreateSessRsp) : UInt32 := rsp.paa.getD 0

/-- A Create Session Response, by its length and type. -/
def isCreateSessRsp (d : Datagram) : Prop := 4 ≤ d.n ∧ d.buffer 1 = 33

/-- A Delete Bearer Request, by its length and type. -/
def isDelBearerReq (d : Datagram) : Prop := 4 ≤ d.n ∧ d.buffer 1 = 99

instance (d : Datagram) : Decidable (isCreateSessRsp d) := inferInstanceAs (Decidable (_ ∧ _))

instance (d : Datagram) : Decidable (isDelBearerReq d) := inferInstanceAs (Decidable (_ ∧ _))

/-- `handle_udp_rx`: the event it hands to the core, if it does. -/
def handleUdpRx (d : Datagram) : Except Fault (Option Event) :=
  if isCreateSessRsp d then
    (decodeCreateSessRsp d.buffer).map fun rsp =>
      some (.createSessionResponse (destTeid d.buffer) true (pgwTeid rsp) (ueIp rsp) (qci rsp))
  else if isDelBearerReq d then
    (decodeDelBearerReq d.buffer).map fun _ => some (.deleteBearerRequest (destTeid d.buffer))
  else .ok none

/-- `seq` of the header, which is behind the TEID if there is one. -/
def seq (buf : Memory) : UInt32 :=
  let i := if teidFlag buf then 8 else 4
  ofOctets (buf (i + 2)).toNat (buf (i + 1)).toNat (buf i).toNat 0

/-- `handle_udp_rx`: what it sends, if it does. 16 is "Request accepted". -/
def handleUdpRxSends (stale : Stale) (d : Datagram) : Except Fault (Option Sendto) :=
  if isCreateSessRsp d then (decodeCreateSessRsp d.buffer).map fun _ => none
  else if isDelBearerReq d then
    (decodeDelBearerReq d.buffer).map fun _ =>
      some ⟨encodeDelBearerRsp stale (seq d.buffer) 16, d.src⟩
  else .ok none

end S2aInterface

end Twag.Impl

import Twag.Impl.Core

/-!
# One UE at a time

What the gateway is for one UE: a machine over that UE's session alone.
`deliver` says which session an event is for and what it asks of it; `react` is
what that session does: the session it becomes (`none` once it is removed), the
calls made for it, and whether the S2a timer is armed. Sessions of other UEs,
counters and admission control do not appear in it. `Proof/Core/Refine.lean`
proves that a step of the whole core is `react` on the session the event is
for, and nothing else. `respond` is what the RADIUS client sees of it.
-/

namespace Twag.Spec

open Twag.Impl

/-- What an event asks of the session it is for. -/
inductive UeEvent where
  | accessRequest (req : AccessRequest)
  | dea (dea : Dea)
  | createResponse (success : Bool) (pgwTeid ueIp : UInt32) (qci : UInt8)
  | deleteBearer
  | abort
  | disconnect
  | timeout
  | dhcp (transactionId : UInt32) (msgType : UInt8)

/-- What a session does in one step. -/
structure Outcome (mac : Bytes) where
  session : Option (UeSession mac)
  effects : List Effect
  armed : Bool

section

variable (config : TwagConfig) (env : Env) {mac : Bytes} (session : UeSession mac)

def Outcome.keep : Outcome mac := ⟨some session, [], false⟩

/-- The session once an Access-Request's identity and addresses are written to it. -/
def withRequest (req : AccessRequest) : UeSession mac :=
  let session := if req.imsi.isEmpty then session else { session with imsi := req.imsi }
  { session with
    radiusClientAddr := req.clientAddr
    radiusReqId := req.reqId
    radiusReqAuth := req.reqAuth }

/-- The calls of `disconnect_ue`. -/
def releaseEffects : List Effect :=
  sendStr env config mac ++ sendDeleteSessionRequest env config session ++
    teardownKernelGtpuTunnel env session

/-- An Access-Request: the request is written to the session, and a DER sent. -/
def onRequest (req : AccessRequest) : Outcome mac :=
  let (_, session, effects) := sendDer env config (withRequest session req) req.eapPayload
  ⟨some session, effects, false⟩

/-- A DEA that is waited for. -/
def onAnswer (dea : Dea) : Outcome mac :=
  let session := TwagCore.applyProfile config env session dea
  if dea.resultCode = 1001 then
    ⟨some session, [TwagCore.answer env session accessChallenge dea.eapPayload], false⟩
  else if dea.resultCode = 2001 then
    let (sent, session', effects) := sendCreateSessionRequest env config session
    ⟨some session', TwagCore.answer env session accessAccept dea.eapPayload :: effects, sent⟩
  else ⟨some session, [TwagCore.answer env session accessReject []], false⟩

/-- The session once a Create Session Response is written to it. -/
def withTunnel (pgwTeid ueIp : UInt32) (qci : UInt8) : UeSession mac :=
  { session with pgwTeidU := pgwTeid, ueIp := ueIp, qci := qci }

/-- A Create Session Response that is waited for. -/
def onTunnel (pgwTeid ueIp : UInt32) (qci : UInt8) : Outcome mac :=
  let session := withTunnel session pgwTeid ueIp qci
  let (up, effects) := setupKernelGtpuTunnel env config session
  ⟨some (if up then { session with state := .connected } else session), effects, false⟩

/-- What a stored session does on an event. -/
def react : UeEvent → Outcome mac
  | .accessRequest req => onRequest config env session req
  | .dea dea =>
    if session.state = .authPending then onAnswer config env session dea else .keep session
  | .createResponse success pgwTeid ueIp qci =>
    if success = true ∧ session.state = .gtpCreatePending then
      onTunnel config env session pgwTeid ueIp qci
    else .keep session
  | .deleteBearer =>
    ⟨none, teardownKernelGtpuTunnel env session ++ sendStr env config mac ++
      [sendDisconnectRequest env session.radiusClientAddr mac], false⟩
  | .abort =>
    ⟨none, teardownKernelGtpuTunnel env session ++ sendDeleteSessionRequest env config session ++
      [sendDisconnectRequest env session.radiusClientAddr mac], false⟩
  | .disconnect => ⟨none, releaseEffects config env session, false⟩
  | .timeout =>
    if session.state = .gtpCreatePending then
      ⟨none, TwagCore.answer env session accessReject [] :: releaseEffects config env session,
        false⟩
    else .keep session
  | .dhcp transactionId msgType =>
    if session.state = .connected ∧ session.ueIp ≠ 0 then
      ⟨some session, [.dhcpResponse mac session.ueIp transactionId msgType env.dhcpSendto], false⟩
    else .keep session

end

/-! ## What the RADIUS client sees -/

/-- What a RADIUS client matches a response to its Access-Request by. -/
structure Origin where
  clientAddr : SockaddrIn
  id : UInt8
  authenticator : Authenticator
deriving DecidableEq, Repr

namespace Origin

def ofRequest (req : AccessRequest) : Origin := ⟨req.clientAddr, req.reqId, req.reqAuth⟩

def ofResponse (resp : RadiusResponse) : Origin := ⟨resp.clientAddr, resp.id, resp.authenticator⟩

/-- The Access-Request whose RADIUS fields a session holds. -/
def ofSession {mac : Bytes} (session : UeSession mac) : Origin :=
  ⟨session.radiusClientAddr, session.radiusReqId, session.radiusReqAuth⟩

/-- The response with this code and payload. -/
def response (origin : Origin) (code : UInt8) (eapPayload : Bytes) : RadiusResponse :=
  ⟨origin.clientAddr, code, origin.id, origin.authenticator, eapPayload⟩

end Origin

/-- The RADIUS responses among the calls made. -/
def responses (effects : List Effect) : List RadiusResponse :=
  effects.filterMap fun
    | .radiusResponse resp _ => some resp
    | _ => none

/-- The Create Session Requests among the calls made. -/
def createRequests (effects : List Effect) : List CreateSessReq :=
  effects.filterMap fun
    | .createSessionRequest req _ _ => some req
    | _ => none

/-- The code and EAP payload that a DEA is passed on with. -/
def passedOn (dea : Dea) : UInt8 × Bytes :=
  if dea.resultCode = 1001 then (accessChallenge, dea.eapPayload)
  else if dea.resultCode = 2001 then (accessAccept, dea.eapPayload)
  else (accessReject, [])

/-- The responses of a session to an event: one to an answer that is waited
for, and one when the P-GW has not answered in time. -/
def respond {mac : Bytes} (session : UeSession mac) : UeEvent → List RadiusResponse
  | .dea dea =>
    if session.state = .authPending then
      [(Origin.ofSession session).response (passedOn dea).1 (passedOn dea).2]
    else []
  | .timeout =>
    if session.state = .gtpCreatePending then [(Origin.ofSession session).response accessReject []]
    else []
  | _ => []

/-- The MAC address of the session an event is for, and what it asks of it.
A message that names a TEID is for the session the scan finds. -/
def deliver (core : TwagCore) (x : Input) : Option (Bytes × UeEvent) :=
  match x.event with
  | .accessRequest req _ => some (req.macAddr, .accessRequest req)
  | .dea dea _ => some (dea.macAddr, .dea dea)
  | .createSessionResponse destTeid success pgwTeid ueIp qci =>
    (core.sessionManager.getSessionByTeidC x.env.iteration destTeid).map fun pair =>
      (pair.1, .createResponse success pgwTeid ueIp qci)
  | .deleteBearerRequest destTeid =>
    (core.sessionManager.getSessionByTeidC x.env.iteration destTeid).map fun pair =>
      (pair.1, .deleteBearer)
  | .abortSession mac => some (mac, .abort)
  | .accountingStop mac => some (mac, .disconnect)
  | .timer =>
    match core.eventLoop.popDue x.env.now with
    | some (.s2aTimeout mac, _) => some (mac, .timeout)
    | _ => none
  | .dhcpDiscover mac transactionId => some (mac, .dhcp transactionId 2)
  | .dhcpRequest mac transactionId => some (mac, .dhcp transactionId 5)

end Twag.Spec

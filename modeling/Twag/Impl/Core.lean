import Twag.Impl.EventLoop
import Twag.Impl.Radius
import Twag.Impl.S2a
import Twag.Impl.SessionManager
import Twag.Impl.Sta

/-!
# The gateway core (`twag_core.cpp`)

Every handler of `TwagCore` is a function from the core's state to its next
state and the calls it makes. `step` runs the handler an event is for, as one
atomic step; a history is the list of the events so far, the newest first, and
`after` is the state it leads to.
-/

namespace Twag.Impl

/-- The callbacks handed to `add_timer`. -/
inductive TimerCallback where
  /-- The S2a timer of `on_dea_received`, which captures the MAC address only. -/
  | s2aTimeout (mac : Bytes)
  /-- `log_statistics` -/
  | logStatistics
deriving DecidableEq, Repr

/-- The arguments of `on_dea_received`. -/
structure Dea where
  macAddr : Bytes
  resultCode : UInt32
  eapPayload : Bytes
  apn : Bytes
  pdnType : UInt32
  ambrUl : UInt32
  ambrDl : UInt32
  pgwIp : Bytes
deriving DecidableEq, Repr

/-- `TwagCore`. -/
structure TwagCore where
  config : TwagConfig
  eventLoop : EventLoop TimerCallback
  sessionManager : SessionManager

namespace TwagCore

/-- The timer of `log_statistics`, armed unless the interval is 0. -/
def armStatistics (core : TwagCore) (now : Time) : TwagCore :=
  if 0 < core.config.statsLogIntervalSec then
    { core with
      eventLoop := core.eventLoop.addTimer now (core.config.statsLogIntervalSec * 1000)
        .logStatistics }
  else core

/-- The constructor and `initialize`, at the clock reading `now`. -/
def initialized (config : TwagConfig) (now : Time) : TwagCore :=
  armStatistics { config := config, eventLoop := .new, sessionManager := .new } now

def getSession (core : TwagCore) (mac : Bytes) : Option (UeSession mac) :=
  core.sessionManager.getSession mac

/-- The stored session of `mac`, changed in place. -/
def put (core : TwagCore) {mac : Bytes} (session : UeSession mac) : TwagCore :=
  { core with sessionManager := core.sessionManager.put session }

def removeSession (core : TwagCore) (mac : Bytes) : TwagCore :=
  { core with sessionManager := core.sessionManager.removeSession mac }

/-- `handle_radius_access_request`, from where the session is found or created. -/
def authenticate (core : TwagCore) (env : Env) (req : AccessRequest)
    (session : UeSession req.macAddr) : TwagCore × List Effect :=
  let session := if req.imsi.isEmpty then session else { session with imsi := req.imsi }
  let session : UeSession req.macAddr := { session with
    radiusClientAddr := req.clientAddr
    radiusReqId := req.reqId
    radiusReqAuth := req.reqAuth }
  let (_, session, effects) := sendDer env core.config session req.eapPayload
  (core.put session, effects)

/-- `handle_radius_access_request`. -/
def handleRadiusAccessRequest (core : TwagCore) (env : Env) (req : AccessRequest) :
    TwagCore × List Effect :=
  match core.getSession req.macAddr with
  | some session => core.authenticate env req session
  | none =>
    if core.config.maxActiveSessions.toNat ≤ core.sessionManager.getActiveSessionsCount then
      ({ core with sessionManager := core.sessionManager.incrementRejected },
        [sendResponse env req.clientAddr accessReject req.reqId req.reqAuth []])
    else
      let (sm, session) := core.sessionManager.createSession env.memory req.macAddr
      { core with sessionManager := sm }.authenticate env req session

/-- The profile fields that `on_dea_received` writes before it looks at the result code. -/
def applyProfile (config : TwagConfig) (env : Env) {mac : Bytes} (session : UeSession mac)
    (dea : Dea) : UeSession mac :=
  let apn := if !dea.apn.isEmpty then dea.apn
    else if session.apn.isEmpty then config.apn else session.apn
  let resolvedIp := env.resolvePgwSnaptr (apn ++ ascii ".apn." ++ config.aaaRealm)
  { session with
    apn := apn
    pdnType := if dea.pdnType ≠ 0 then dea.pdnType else session.pdnType
    ambrUl := if dea.ambrUl ≠ 0 then dea.ambrUl else session.ambrUl
    ambrDl := if dea.ambrDl ≠ 0 then dea.ambrDl else session.ambrDl
    pgwIp := if !dea.pgwIp.isEmpty then dea.pgwIp
      else if !resolvedIp.isEmpty then resolvedIp else config.pgwIp }

/-- `send_response` to the Access-Request that the session's RADIUS fields hold. -/
def answer (env : Env) {mac : Bytes} (session : UeSession mac) (code : UInt8)
    (eapPayload : Bytes) : Effect :=
  sendResponse env session.radiusClientAddr code session.radiusReqId session.radiusReqAuth
    eapPayload

/-- `on_dea_received`. -/
def onDeaReceived (core : TwagCore) (env : Env) (dea : Dea) : TwagCore × List Effect :=
  match core.getSession dea.macAddr with
  | none => (core, [])
  | some session =>
    if session.state ≠ .authPending then (core, [])
    else
      let session := applyProfile core.config env session dea
      -- 1001 = DIAMETER_MULTI_ROUND_AUTH, 2001 = DIAMETER_SUCCESS
      if dea.resultCode = 1001 then
        (core.put session, [answer env session accessChallenge dea.eapPayload])
      else if dea.resultCode = 2001 then
        let accept := answer env session accessAccept dea.eapPayload
        let (sent, session, effects) := sendCreateSessionRequest env core.config session
        let core := core.put session
        if sent then
          ({ core with
              eventLoop := core.eventLoop.addTimer env.now 3000 (.s2aTimeout dea.macAddr) },
            accept :: effects)
        else (core, accept :: effects)
      else (core.put session, [answer env session accessReject []])

/-- `on_gtp_create_response_received`. -/
def onGtpCreateResponseReceived (core : TwagCore) (env : Env) (destTeid : UInt32) (success : Bool)
    (pgwTeid ueIp : UInt32) (qci : UInt8) : TwagCore × List Effect :=
  match core.sessionManager.getSessionByTeidC env.iteration destTeid with
  | none => (core, [])
  | some ⟨mac, session⟩ =>
    if !success then (core, [])
    else if session.state ≠ .gtpCreatePending then (core, [])
    else
      let session : UeSession mac := { session with pgwTeidU := pgwTeid, ueIp := ueIp, qci := qci }
      let (up, effects) := setupKernelGtpuTunnel env core.config session
      (core.put (if up then { session with state := .connected } else session), effects)

/-- `on_gtp_delete_bearer_request_received`. -/
def onGtpDeleteBearerRequestReceived (core : TwagCore) (env : Env) (destTeid : UInt32) :
    TwagCore × List Effect :=
  match core.sessionManager.getSessionByTeidC env.iteration destTeid with
  | none => (core, [])
  | some ⟨mac, session⟩ =>
    let session : UeSession mac := { session with state := .disconnecting }
    let core := core.put session
    (core.removeSession mac,
      teardownKernelGtpuTunnel env session ++ sendStr env core.config mac ++
        [sendDisconnectRequest env session.radiusClientAddr mac])

/-- `on_aaa_abort_session_received`. -/
def onAaaAbortSessionReceived (core : TwagCore) (env : Env) (mac : Bytes) :
    TwagCore × List Effect :=
  match core.getSession mac with
  | none => (core, [])
  | some session =>
    let session : UeSession mac := { session with state := .disconnecting }
    let core := core.put session
    (core.removeSession mac,
      teardownKernelGtpuTunnel env session ++ sendDeleteSessionRequest env core.config session ++
        [sendDisconnectRequest env session.radiusClientAddr mac])

/-- `disconnect_ue`. -/
def disconnectUe (core : TwagCore) (env : Env) (mac : Bytes) : TwagCore × List Effect :=
  match core.getSession mac with
  | none => (core, [])
  | some session =>
    (core.removeSession mac,
      sendStr env core.config mac ++ sendDeleteSessionRequest env core.config session ++
        teardownKernelGtpuTunnel env session)

/-- The S2a timer's callback. -/
def s2aTimeout (core : TwagCore) (env : Env) (mac : Bytes) : TwagCore × List Effect :=
  match core.getSession mac with
  | none => (core, [])
  | some session =>
    if session.state = .gtpCreatePending then
      let (core, effects) := core.disconnectUe env mac
      (core, answer env session accessReject [] :: effects)
    else (core, [])

/-- One turn of the loop over expired timers in `EventLoop::run`. -/
def runTimer (core : TwagCore) (env : Env) : TwagCore × List Effect :=
  match core.eventLoop.popDue env.now with
  | none => (core, [])
  | some (callback, eventLoop) =>
    let core := { core with eventLoop := eventLoop }
    match callback with
    | .s2aTimeout mac => core.s2aTimeout env mac
    | .logStatistics => (core.armStatistics env.now, [])

/-- The loop over expired timers in `EventLoop::run`: each turn reads the clock
and runs the first timer if it has expired. What it leaves, with the last
reading; `none` where there are more turns than `envs` has. -/
def drain (core : TwagCore) : List Env → Option (TwagCore × Time × List Effect)
  | [] => none
  | env :: envs =>
    match core.eventLoop.popDue env.now with
    | none => some (core, env.now, [])
    | some _ =>
      (drain (core.runTimer env).1 envs).map fun (core', now, effects) =>
        (core', now, (core.runTimer env).2 ++ effects)

/-- `handle_dhcp_discover` (`msgType = 2`, an Offer) and `handle_dhcp_request`
(`msgType = 5`, an Ack). -/
def handleDhcp (core : TwagCore) (env : Env) (mac : Bytes) (transactionId : UInt32)
    (msgType : UInt8) : TwagCore × List Effect :=
  match core.getSession mac with
  | none => (core, [])
  | some session =>
    if session.state = .connected ∧ session.ueIp ≠ 0 then
      (core, [.dhcpResponse mac session.ueIp transactionId msgType env.dhcpSendto])
    else (core, [])

def handleDhcpDiscover (core : TwagCore) (env : Env) (mac : Bytes) (transactionId : UInt32) :
    TwagCore × List Effect :=
  core.handleDhcp env mac transactionId 2

def handleDhcpRequest (core : TwagCore) (env : Env) (mac : Bytes) (transactionId : UInt32) :
    TwagCore × List Effect :=
  core.handleDhcp env mac transactionId 5

end TwagCore

/-! ## Events and histories -/

/-- What happens to the gateway. -/
inductive Event where
  /-- An Access-Request; `continues` is the position in the history of the
  Access-Request before it in the same EAP conversation, which only the UE and
  the AAA server know. -/
  | accessRequest (req : AccessRequest) (continues : Option Nat)
  /-- A DEA; `answers` is the position in the history of the Access-Request whose
  DER it answers, which freeDiameter knows from the End-to-End id and no handler
  sees. -/
  | dea (dea : Dea) (answers : Option Nat)
  | createSessionResponse (destTeid : UInt32) (success : Bool) (pgwTeid ueIp : UInt32) (qci : UInt8)
  | deleteBearerRequest (destTeid : UInt32)
  | abortSession (mac : Bytes)
  /-- `disconnect_ue` on an Accounting-Stop. -/
  | accountingStop (mac : Bytes)
  /-- The event loop looks for an expired timer. -/
  | timer
  | dhcpDiscover (mac : Bytes) (transactionId : UInt32)
  | dhcpRequest (mac : Bytes) (transactionId : UInt32)
deriving DecidableEq, Repr

/-- An event, with what the handler learns from outside. -/
structure Input where
  env : Env
  event : Event

namespace TwagCore

def step (core : TwagCore) (x : Input) : TwagCore × List Effect :=
  match x.event with
  | .accessRequest req _ => core.handleRadiusAccessRequest x.env req
  | .dea dea _ => core.onDeaReceived x.env dea
  | .createSessionResponse destTeid success pgwTeid ueIp qci =>
    core.onGtpCreateResponseReceived x.env destTeid success pgwTeid ueIp qci
  | .deleteBearerRequest destTeid => core.onGtpDeleteBearerRequestReceived x.env destTeid
  | .abortSession mac => core.onAaaAbortSessionReceived x.env mac
  | .accountingStop mac => core.disconnectUe x.env mac
  | .timer => core.runTimer x.env
  | .dhcpDiscover mac transactionId => core.handleDhcpDiscover x.env mac transactionId
  | .dhcpRequest mac transactionId => core.handleDhcpRequest x.env mac transactionId

end TwagCore

/-- The configuration of a gateway and the clock reading it is started at. -/
structure Boot where
  config : TwagConfig
  now : Time

/-- The state after a history, the newest event first. -/
def Boot.after (boot : Boot) : List Input → TwagCore
  | [] => .initialized boot.config boot.now
  | x :: h => ((boot.after h).step x).1

/-- The calls made by event `x` after the history `h`. -/
def Boot.effects (boot : Boot) (h : List Input) (x : Input) : List Effect :=
  ((boot.after h).step x).2

end Twag.Impl

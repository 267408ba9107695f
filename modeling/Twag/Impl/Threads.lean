import Twag.Framework.Thread
import Twag.Impl.Core

/-!
# The handlers as threads run them

`TwagCore.step` runs a handler in one step. The process has several threads:
the event loop runs the handlers of the RADIUS, DHCP and GTP-C sockets and of
the timers, and freeDiameter's dispatch threads (`cnf_dispthr` of them) run
`dea_cb` and `asr_cb`. Here a handler is the program of its accesses to what
the threads share, statement by statement:

* the methods of `SessionManager` hold its mutex, so each is one operation;
* a session is an object that `sessions_` and the handlers point to (`Ref`),
  and stays when it is removed from `sessions_`; each read and each write of one
  of its fields is an operation;
* so are `add_timer`, taking an expired timer off, and each call that leaves
  the gateway.

Nothing orders the accesses to an object's fields and to `timers_` in different
threads. `exec` takes them as atomic; `Racy` lets each of them read and leave
anything. The control and user TEIDs are written by `create_session`
before any other thread can see the object, and never again.
-/

namespace Twag.Impl

/-- `shared_ptr<UeSession>`: the object that call number `id` of `create_session` made. -/
structure Ref (mac : Bytes) where
  id : Nat
deriving DecidableEq, Repr

/-- The fields of `UeSession` that are read and written by handlers. -/
inductive Field where
  | state
  | imsi
  | ueIp
  | pgwTeidC
  | pgwTeidU
  | pgwIp
  | apn
  | pdnType
  | ambrUl
  | ambrDl
  | qci
  | radiusClientAddr
  | radiusReqId
  | radiusReqAuth
deriving DecidableEq, Repr

namespace Field

/-- The type of a field. -/
abbrev Val : Field → Type
  | .state => SessionState
  | .imsi | .pgwIp | .apn => Bytes
  | .ueIp | .pgwTeidC | .pgwTeidU | .pdnType | .ambrUl | .ambrDl => UInt32
  | .qci | .radiusReqId => UInt8
  | .radiusClientAddr => SockaddrIn
  | .radiusReqAuth => Authenticator

variable {mac : Bytes}

def get (session : UeSession mac) : (f : Field) → f.Val
  | .state => session.state
  | .imsi => session.imsi
  | .ueIp => session.ueIp
  | .pgwTeidC => session.pgwTeidC
  | .pgwTeidU => session.pgwTeidU
  | .pgwIp => session.pgwIp
  | .apn => session.apn
  | .pdnType => session.pdnType
  | .ambrUl => session.ambrUl
  | .ambrDl => session.ambrDl
  | .qci => session.qci
  | .radiusClientAddr => session.radiusClientAddr
  | .radiusReqId => session.radiusReqId
  | .radiusReqAuth => session.radiusReqAuth

def set (session : UeSession mac) : (f : Field) → f.Val → UeSession mac
  | .state, v => { session with state := v }
  | .imsi, v => { session with imsi := v }
  | .ueIp, v => { session with ueIp := v }
  | .pgwTeidC, v => { session with pgwTeidC := v }
  | .pgwTeidU, v => { session with pgwTeidU := v }
  | .pgwIp, v => { session with pgwIp := v }
  | .apn, v => { session with apn := v }
  | .pdnType, v => { session with pdnType := v }
  | .ambrUl, v => { session with ambrUl := v }
  | .ambrDl, v => { session with ambrDl := v }
  | .qci, v => { session with qci := v }
  | .radiusClientAddr, v => { session with radiusClientAddr := v }
  | .radiusReqId, v => { session with radiusReqId := v }
  | .radiusReqAuth, v => { session with radiusReqAuth := v }

end Field

/-- What the threads share. -/
structure Shared where
  /-- `sessions_` -/
  sessions : AList Ref
  /-- The objects, also those that `sessions_` no longer points to. -/
  heap : (mac : Bytes) → Nat → UeSession mac
  /-- How many objects have been made. -/
  made : Nat
  nextTeid : UInt32
  totalConnections : UInt64
  totalDisconnections : UInt64
  totalRejectedSessions : UInt64
  eventLoop : EventLoop TimerCallback
  /-- The calls that have left the gateway, the oldest first. -/
  effects : List Effect

namespace Shared

def object (s : Shared) {mac : Bytes} (r : Ref mac) : UeSession mac := s.heap mac r.id

def setObject (s : Shared) {mac : Bytes} (r : Ref mac) (session : UeSession mac) : Shared :=
  { s with heap := Function.update s.heap mac (Function.update (s.heap mac) r.id session) }

/-- The state once more calls have left the gateway. -/
def emitted (s : Shared) (effects : List Effect) : Shared :=
  { s with effects := s.effects ++ effects }

/-- The sessions that a loop over `sessions_` sees. -/
def entries (s : Shared) : List (Sigma UeSession) :=
  s.sessions.entries.map (.map id fun _ r => s.object r)

/-- The session that `sessions_` points to under the key `mac`. -/
def stored (s : Shared) (mac : Bytes) : Option (UeSession mac) :=
  (s.sessions.lookup mac).map s.object

/-- What the constructors and `initialize` leave; `heap` is what memory holds
where no object has been made. -/
def initialized (config : TwagConfig) (now : Time) (heap : (mac : Bytes) → Nat → UeSession mac) :
    Shared where
  sessions := ∅
  heap := heap
  made := 0
  nextTeid := 1
  totalConnections := 0
  totalDisconnections := 0
  totalRejectedSessions := 0
  eventLoop := (TwagCore.initialized config now).eventLoop
  effects := []

end Shared

/-! ## Accesses -/

/-- The accesses to what the threads share. -/
inductive Access where
  | createSession (mem : Indeterminate) (mac : Bytes)
  | getSession (mac : Bytes)
  | getSessionByTeidC (it : IterationOrder (Sigma UeSession)) (teid : UInt32)
  | removeSession (mac : Bytes)
  | incrementRejected
  | getActiveSessionsCount
  | getStats
  | get (mac : Bytes) (r : Ref mac) (f : Field)
  | set (mac : Bytes) (r : Ref mac) (f : Field) (v : f.Val)
  | gtpTeidC (mac : Bytes) (r : Ref mac)
  | gtpTeidU (mac : Bytes) (r : Ref mac)
  | addTimer (now : Time) (ms : UInt32) (callback : TimerCallback)
  | popDue (now : Time)
  | emit (effect : Effect)

namespace Access

/-- What an access returns. -/
abbrev Ans : Access → Type
  | .createSession _ mac => Ref mac
  | .getSession mac => Option (Ref mac)
  | .getSessionByTeidC _ _ => Option (Sigma Ref)
  | .getActiveSessionsCount => Nat
  | .getStats => Stats
  | .get _ _ f => f.Val
  | .gtpTeidC _ _ | .gtpTeidU _ _ => UInt32
  | .popDue _ => Option TimerCallback
  | .removeSession _ | .incrementRejected | .set _ _ _ _ | .addTimer _ _ _ | .emit _ => Unit

/-- An access, where it is atomic. -/
def exec : (o : Access) → Shared → o.Ans × Shared
  | .createSession mem mac, s =>
    let r : Ref mac := ⟨s.made⟩
    let session : UeSession mac := { UeSession.new mem mac with
      gtpTeidC := s.nextTeid
      gtpTeidU := s.nextTeid + 1 }
    (r, { s.setObject r session with
      sessions := s.sessions.insert mac r
      made := s.made + 1
      nextTeid := s.nextTeid + 2
      totalConnections := s.totalConnections + 1 })
  | .getSession mac, s => (s.sessions.lookup mac, s)
  | .getSessionByTeidC it teid, s =>
    ((it.find (fun pair => pair.2.gtpTeidC == teid) s.entries).bind fun pair =>
      (s.sessions.lookup pair.1).map (⟨pair.1, ·⟩), s)
  | .removeSession mac, s =>
    ((), if (s.sessions.lookup mac).isSome then
      { s with
        sessions := s.sessions.erase mac
        totalDisconnections := s.totalDisconnections + 1 }
    else s)
  | .incrementRejected, s =>
    ((), { s with totalRejectedSessions := s.totalRejectedSessions + 1 })
  | .getActiveSessionsCount, s => (s.sessions.entries.length, s)
  | .getStats, s =>
    (⟨UInt64.ofNat s.sessions.entries.length, s.totalConnections, s.totalDisconnections,
      s.totalRejectedSessions⟩, s)
  | .get _ r f, s => (f.get (s.object r), s)
  | .set _ r f v, s => ((), s.setObject r (f.set (s.object r) v))
  | .gtpTeidC _ r, s => ((s.object r).gtpTeidC, s)
  | .gtpTeidU _ r, s => ((s.object r).gtpTeidU, s)
  | .addTimer now ms callback, s =>
    ((), { s with eventLoop := s.eventLoop.addTimer now ms callback })
  | .popDue now, s =>
    match s.eventLoop.popDue now with
    | none => (none, s)
    | some (callback, eventLoop) => (some callback, { s with eventLoop := eventLoop })
  | .emit effect, s => ((), s.emitted [effect])

/-- An access among those of other threads: what is read from a field or from
`timers_` is anything, and what a write leaves there too. -/
def Racy : (o : Access) → Shared → o.Ans → Shared → Prop
  | .get _ _ _, s, _, s' => s' = s
  | .set _ _ _ _, s, _, s' => ∃ heap, s' = { s with heap := heap } ∧
      ∀ mac id, (heap mac id).gtpTeidC = (s.heap mac id).gtpTeidC ∧
        (heap mac id).gtpTeidU = (s.heap mac id).gtpTeidU
  | .addTimer _ _ _, s, _, s' => ∃ eventLoop, s' = { s with eventLoop := eventLoop }
  | .popDue _, s, _, s' => ∃ eventLoop, s' = { s with eventLoop := eventLoop }
  | o, s, ans, s' => exec o s = (ans, s')

end Access

/-! ## Handlers -/

abbrev Handler (α : Type) : Type := Prog Access.Ans α

namespace Handler

variable {mac : Bytes}

def createSession (mem : Indeterminate) (mac : Bytes) : Handler (Ref mac) :=
  .op (Access.createSession mem mac)
def getSession (mac : Bytes) : Handler (Option (Ref mac)) := .op (Access.getSession mac)
def getSessionByTeidC (env : Env) (teid : UInt32) : Handler (Option (Sigma Ref)) :=
  .op (Access.getSessionByTeidC env.iteration teid)
def removeSession (mac : Bytes) : Handler Unit := .op (Access.removeSession mac)
def incrementRejected : Handler Unit := .op Access.incrementRejected
def getActiveSessionsCount : Handler Nat := .op Access.getActiveSessionsCount
def getStats : Handler Stats := .op Access.getStats
def get (r : Ref mac) (f : Field) : Handler f.Val := .op (Access.get mac r f)
def set (r : Ref mac) (f : Field) (v : f.Val) : Handler Unit := .op (Access.set mac r f v)
def gtpTeidC (r : Ref mac) : Handler UInt32 := .op (Access.gtpTeidC mac r)
def gtpTeidU (r : Ref mac) : Handler UInt32 := .op (Access.gtpTeidU mac r)
def addTimer (env : Env) (ms : UInt32) (callback : TimerCallback) : Handler Unit :=
  .op (Access.addTimer env.now ms callback)
def popDue (env : Env) : Handler (Option TimerCallback) := .op (Access.popDue env.now)
def emit (effect : Effect) : Handler Unit := .op (Access.emit effect)

/-- `send_der`. -/
def sendDer (env : Env) (config : TwagConfig) (r : Ref mac) (eapPayload : Bytes) :
    Handler Unit := do
  if !env.fdMsgNew then return
  emit (.der (derOf env config mac eapPayload) env.fdMsgSend)
  if env.fdMsgSend then set r .state .authPending

/-- `send_str`. -/
def sendStr (env : Env) (config : TwagConfig) (mac : Bytes) : Handler Unit := do
  if !env.fdMsgNew then return
  emit (.str (strOf env config mac) env.fdMsgSend)

/-- `send_response` to the Access-Request that the session's RADIUS fields hold. -/
def answer (env : Env) (r : Ref mac) (code : UInt8) (eapPayload : Bytes) : Handler Unit := do
  let clientAddr ← get r .radiusClientAddr
  let reqId ← get r .radiusReqId
  let reqAuth ← get r .radiusReqAuth
  emit (sendResponse env clientAddr code reqId reqAuth eapPayload)

/-- `dest_ip` in the requests to the P-GW. -/
def destIp (config : TwagConfig) (r : Ref mac) : Handler Bytes := do
  let destIp ← get r .pgwIp
  return if destIp.isEmpty then config.pgwIp else destIp

/-- `session->f ? session->f : 1000000`, where `read` reads the field: it is read twice. -/
def ambr (read : Handler UInt32) : Handler UInt32 := do
  if (← read) ≠ 0 then read else return 1000000

/-- `send_create_session_request`. The first read of `pgw_ip_` only chooses the
address whose outcome is `env.localIp`. -/
def sendCreateSessionRequest (env : Env) (config : TwagConfig) (r : Ref mac) :
    Handler Bool := do
  let imsi ← get r .imsi
  let _ ← get r .pgwIp
  let teid ← gtpTeidC r
  let ownApn ← get r .apn
  let apn := if ownApn.isEmpty then config.apn else ownApn
  let pdnType ← get r .pdnType
  let ambrUl ← ambr (get r .ambrUl)
  let ambrDl ← ambr (get r .ambrDl)
  let req : CreateSessReq :=
    { imsiNumberDigits := encodeImsiBcd imsi
      teidGreKey := teid
      ipv4Address := env.localIp.getD loopback
      apnHeaderLen := UInt16.ofNat (apn.length + 1)
      apn := UInt8.ofNat apn.length :: apn
      pdnType := UInt8.ofNat (pdnType.toNat % 8)
      apnAmbrUplnk := htonl ambrUl
      apnAmbrDnlnk := htonl ambrDl }
  match inetPton (← destIp config r) with
  | none => return false
  | some dest =>
    emit (.createSessionRequest req dest env.s2aSendto)
    if env.s2aSendto then
      set r .state .gtpCreatePending
      return true
    else return false

/-- `setup_kernel_gtpu_tunnel`. -/
def setupKernelGtpuTunnel (env : Env) (config : TwagConfig) (r : Ref mac) : Handler Bool := do
  if !env.genlSocketOpen then return false
  if !env.genlLookupFamily then return false
  if !env.gtpTunnelAlloc then return false
  let iTei ← gtpTeidU r
  let oTei ← get r .pgwTeidU
  let msAddr ← get r .ueIp
  let tunnel : GtpTunnel := ⟨iTei, oTei, msAddr, inetPton config.pgwIp⟩
  emit (.gtpAddTunnel tunnel env.gtpAddTunnel)
  if env.gtpAddTunnel then
    let route := Command.routeAdd (← get r .ueIp)
    emit (.system route (env.system route))
  return true

/-- `send_delete_session_request`. -/
def sendDeleteSessionRequest (env : Env) (config : TwagConfig) (r : Ref mac) :
    Handler Unit := do
  let teid ← get r .pgwTeidC
  match inetPton (← destIp config r) with
  | none => return
  | some dest => emit (.deleteSessionRequest teid dest env.s2aSendto)

/-- `teardown_kernel_gtpu_tunnel`: the address is read once, as text. -/
def teardownKernelGtpuTunnel (env : Env) (r : Ref mac) : Handler Unit := do
  let ip ← get r .ueIp
  emit (.system (.routeDel ip) (env.system (.routeDel ip)))
  let dscp := mapQciToDscp (← get r .qci)
  if dscp ≠ 0 then emit (.system (.dscpDelete ip dscp) (env.system (.dscpDelete ip dscp)))

/-- `handle_radius_access_request`, from where the session is found or created. -/
def authenticate (env : Env) (config : TwagConfig) (req : AccessRequest)
    (r : Ref req.macAddr) : Handler Unit := do
  if !req.imsi.isEmpty then set r .imsi req.imsi
  set r .radiusClientAddr req.clientAddr
  set r .radiusReqId req.reqId
  set r .radiusReqAuth req.reqAuth
  sendDer env config r req.eapPayload

/-- `handle_radius_access_request`. -/
def handleRadiusAccessRequest (env : Env) (config : TwagConfig) (req : AccessRequest) :
    Handler Unit := do
  match ← getSession req.macAddr with
  | some r => authenticate env config req r
  | none =>
    if config.maxActiveSessions.toNat ≤ (← getActiveSessionsCount) then
      incrementRejected
      emit (sendResponse env req.clientAddr accessReject req.reqId req.reqAuth [])
    else
      let r ← createSession env.memory req.macAddr
      authenticate env config req r

/-- `if (c) session->f = v`. -/
def setIf (c : Bool) (r : Ref mac) (f : Field) (v : f.Val) : Handler Unit := do
  if c then set r f v

/-- The APN of `on_dea_received`. -/
def profileApn (config : TwagConfig) (r : Ref mac) (dea : Dea) : Handler Unit := do
  if !dea.apn.isEmpty then set r .apn dea.apn
  else setIf (← get r .apn).isEmpty r .apn config.apn

/-- The P-GW's address of `on_dea_received`. -/
def profilePgwIp (env : Env) (config : TwagConfig) (r : Ref mac) (dea : Dea) : Handler Unit := do
  if !dea.pgwIp.isEmpty then set r .pgwIp dea.pgwIp
  else
    let resolvedIp := env.resolvePgwSnaptr ((← get r .apn) ++ ascii ".apn." ++ config.aaaRealm)
    set r .pgwIp (if !resolvedIp.isEmpty then resolvedIp else config.pgwIp)

/-- The profile fields that `on_dea_received` writes before it looks at the result code. -/
def applyProfile (env : Env) (config : TwagConfig) (r : Ref mac) (dea : Dea) : Handler Unit := do
  profileApn config r dea
  setIf (dea.pdnType ≠ 0) r .pdnType dea.pdnType
  setIf (dea.ambrUl ≠ 0) r .ambrUl dea.ambrUl
  setIf (dea.ambrDl ≠ 0) r .ambrDl dea.ambrDl
  profilePgwIp env config r dea

/-- `on_dea_received`. -/
def onDeaReceived (env : Env) (config : TwagConfig) (dea : Dea) : Handler Unit := do
  match ← getSession dea.macAddr with
  | none => return
  | some r =>
    if (← get r .state) ≠ .authPending then return
    applyProfile env config r dea
    if dea.resultCode = 1001 then answer env r accessChallenge dea.eapPayload
    else if dea.resultCode = 2001 then
      answer env r accessAccept dea.eapPayload
      if ← sendCreateSessionRequest env config r then
        addTimer env 3000 (.s2aTimeout dea.macAddr)
    else answer env r accessReject []

/-- `on_gtp_create_response_received`. -/
def onGtpCreateResponseReceived (env : Env) (config : TwagConfig) (destTeid : UInt32)
    (success : Bool) (pgwTeid ueIp : UInt32) (qci : UInt8) : Handler Unit := do
  match ← getSessionByTeidC env destTeid with
  | none => return
  | some ⟨_, r⟩ =>
    if !success then return
    if (← get r .state) ≠ .gtpCreatePending then return
    set r .pgwTeidU pgwTeid
    set r .ueIp ueIp
    set r .qci qci
    if ← setupKernelGtpuTunnel env config r then set r .state .connected

/-- `on_gtp_delete_bearer_request_received`. -/
def onGtpDeleteBearerRequestReceived (env : Env) (config : TwagConfig) (destTeid : UInt32) :
    Handler Unit := do
  match ← getSessionByTeidC env destTeid with
  | none => return
  | some ⟨mac, r⟩ =>
    set r .state .disconnecting
    teardownKernelGtpuTunnel env r
    sendStr env config mac
    emit (sendDisconnectRequest env (← get r .radiusClientAddr) mac)
    removeSession mac

/-- `on_aaa_abort_session_received`. -/
def onAaaAbortSessionReceived (env : Env) (config : TwagConfig) (mac : Bytes) :
    Handler Unit := do
  match ← getSession mac with
  | none => return
  | some r =>
    set r .state .disconnecting
    teardownKernelGtpuTunnel env r
    sendDeleteSessionRequest env config r
    emit (sendDisconnectRequest env (← get r .radiusClientAddr) mac)
    removeSession mac

/-- `disconnect_ue`. -/
def disconnectUe (env : Env) (config : TwagConfig) (mac : Bytes) : Handler Unit := do
  match ← getSession mac with
  | none => return
  | some r =>
    sendStr env config mac
    sendDeleteSessionRequest env config r
    teardownKernelGtpuTunnel env r
    removeSession mac

/-- The S2a timer's callback. -/
def s2aTimeout (env : Env) (config : TwagConfig) (mac : Bytes) : Handler Unit := do
  match ← getSession mac with
  | none => return
  | some r =>
    if (← get r .state) = .gtpCreatePending then
      answer env r accessReject []
      disconnectUe env config mac

/-- `log_statistics`. -/
def logStatistics (env : Env) (config : TwagConfig) : Handler Unit := do
  let _ ← getStats
  if 0 < config.statsLogIntervalSec then
    addTimer env (config.statsLogIntervalSec * 1000) .logStatistics

/-- One turn of the loop over expired timers in `EventLoop::run`. -/
def runTimer (env : Env) (config : TwagConfig) : Handler Unit := do
  match ← popDue env with
  | none => return
  | some (.s2aTimeout mac) => s2aTimeout env config mac
  | some .logStatistics => logStatistics env config

/-- `handle_dhcp_discover` (`msgType = 2`) and `handle_dhcp_request` (`msgType = 5`). -/
def handleDhcp (env : Env) (mac : Bytes) (transactionId : UInt32) (msgType : UInt8) :
    Handler Unit := do
  match ← getSession mac with
  | none => return
  | some r =>
    if (← get r .state) ≠ .connected then return
    if (← get r .ueIp) = 0 then return
    let ueIp ← get r .ueIp
    emit (.dhcpResponse mac ueIp transactionId msgType env.dhcpSendto)

/-- The program that an event runs. -/
def ofInput (config : TwagConfig) (x : Input) : Handler Unit :=
  match x.event with
  | .accessRequest req _ => handleRadiusAccessRequest x.env config req
  | .dea dea _ => onDeaReceived x.env config dea
  | .createSessionResponse destTeid success pgwTeid ueIp qci =>
    onGtpCreateResponseReceived x.env config destTeid success pgwTeid ueIp qci
  | .deleteBearerRequest destTeid => onGtpDeleteBearerRequestReceived x.env config destTeid
  | .abortSession mac => onAaaAbortSessionReceived x.env config mac
  | .accountingStop mac => disconnectUe x.env config mac
  | .timer => runTimer x.env config
  | .dhcpDiscover mac transactionId => handleDhcp x.env mac transactionId 2
  | .dhcpRequest mac transactionId => handleDhcp x.env mac transactionId 5

end Handler

/-! ## Threads -/

/-- The threads that run handlers. -/
inductive ThreadId where
  /-- The thread of `main`, in `EventLoop::run`. -/
  | loop
  /-- A dispatch thread of freeDiameter. -/
  | dispatch (n : Nat)
deriving DecidableEq, Repr

/-- Which thread runs the handler of an event: freeDiameter calls `dea_cb` and `asr_cb`. -/
def ThreadId.handles : ThreadId → Event → Bool
  | .loop, .dea _ _ | .loop, .abortSession _ => false
  | .loop, _ => true
  | .dispatch _, .dea _ _ | .dispatch _, .abortSession _ => true
  | .dispatch _, _ => false

/-- The programs a thread runs. -/
def ThreadId.Job (config : TwagConfig) (t : ThreadId) (p : Handler Unit) : Prop :=
  ∃ x : Input, t.handles x.event = true ∧ p = Handler.ofInput config x

/-- The process: a shared state, and where each thread is in its handler. -/
abbrev Process : Type := Pool ThreadId Access.Ans Shared

/-- What the process can reach, its threads interleaving in any order. -/
def Boot.Reaches (boot : Boot) (heap : (mac : Bytes) → Nat → UeSession mac) (p : Process) : Prop :=
  Pool.Moves Access.Racy (ThreadId.Job boot.config)
    (.idle (.initialized boot.config boot.now heap)) p

end Twag.Impl

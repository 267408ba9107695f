import Mathlib.Tactic.Simps.Basic
import Twag.Framework.Fallible
import Twag.Impl.Diameter.SentRequests

/-!
# The peer state machine (`libfdcore/p_psm.c`, `p_ce.c`, `p_dw.c`, `p_dp.c`, `p_out.c`)

Each peer has a thread that takes events from a queue, or a timeout when there
are none, and moves between the states of `enum peer_state`. In `STATE_OPEN` a
second thread sends what is in `p_tosend`; in other states a message is sent by
the thread that has it. A routing thread looks at the state twice before it
sends, and the state can change after each look.

A connection is only there or not. What the checks of a CER or CEA, the calls on
its connection and the validation callbacks return comes with the event; there
is always memory for a message. Messages are what the threads read of them; of
an answer that is whether it is routable. A request gets its hop-by-hop id and
is stored in one step, as in `SentRequests`, although no lock protects `p_hbh`.
-/

namespace Twag.Impl.Diameter

open Fallible

/-- `enum peer_state` -/
inductive PeerState where
  | stateNew
  | stateOpen
  | stateClosed
  | stateClosing
  | stateWaitcnxack
  | stateWaitcnxackElec
  | stateWaitcea
  | stateOpenHandshake
  | stateSuspect
  | stateReopen
  | stateOpenNew
  | stateClosingGrace
  | stateZombie
deriving DecidableEq, Repr

/-- `p_flags` -/
structure PeerFlags where
  responder : Bool
  delete : Bool
  localterm : Bool
  dwPending : Bool
  cnxPb : Bool
  reopenCnt : BitVec 2
deriving DecidableEq, Repr

/-- How a connection goes on after a CEA with `DIAMETER_SUCCESS`. -/
inductive CeaSecurity where
  /-- TLS is in use already, or none is wanted and this is how `fd_cnx_start_clear` ends. -/
  | start (ok : Bool)
  /-- TLS is wanted, and disabled here. -/
  | tlsDisabled
  /-- How the handshake ends, and whether there are credentials after it. -/
  | handshake (ok cred : Bool)
deriving DecidableEq, Repr

/-- A CEA: `save_remote_CE_info`'s return value, and what it saves. -/
structure Cea where
  saved : Bool
  orstate : UInt32
  rc : UInt32
  security : CeaSecurity
deriving DecidableEq, Repr

/-- A callback of `fd_peer_validate_register`: its return value, `auth`, and the second callback
as what it will answer, if it stores one. -/
structure Validator where
  ret : Int
  auth : Int
  cb2 : Option (Option Bool)
deriving DecidableEq, Repr

/-- A CER on a new connection, and what `fd_p_ce_process_receiver` makes of it. -/
structure Cer where
  /-- The connection's credentials and endpoints can be read. -/
  readable : Bool
  orstate : UInt32
  /-- `save_remote_CE_info` fails, or the realm is not the configured one. -/
  rejected : Bool
  validators : List Validator
  /-- `error_abort` is reached after the validation, with this `fatal`. -/
  refused : Option Bool
  /-- `isi & PI_SEC_TLS_OLD`, and how the handshake ends. -/
  handshake : Option Bool
  /-- `fd_cnx_start_clear` succeeds, if it is called. -/
  started : Bool
  /-- `fd_cnx_is_unordered_delivery_supported` -/
  unordered : Bool
deriving DecidableEq, Repr

inductive Content where
  /-- `fd_msg_parse_buffer` fails. -/
  | unparsable
  /-- `fd_msg_is_routable` -/
  | routable
  /-- `fd_msg_parse_or_error` returns `EBADMSG`. -/
  | invalid
  | capabilitiesExchange (cea : Cea)
  /-- With the Disconnect-Cause. -/
  | disconnectPeer (dc : Option UInt32)
  /-- With the Origin-State-Id. -/
  | deviceWatchdog (osi : Option UInt32)
  | unknown
deriving DecidableEq, Repr

/-- A received message. -/
structure Received where
  request : Bool
  hbhid : UInt32
  content : Content
deriving DecidableEq, Repr

/-- The events of `p_events`. -/
inductive PsmEvent where
  | terminate (reason : Option UInt32)
  | cnxMsgRecv (msg : Received)
  | cnxError
  | cnxEpChange
  | cnxShutdown
  | cnxIncoming (cer : Cer)
  /-- The new connection's credentials and endpoints can be read. -/
  | cnxEstablished (readable : Bool)
  | cnxFailed
deriving DecidableEq, Repr

/-- The requests of a node: those of the machine, and those of its users. -/
inductive Body (β : Type) where
  | cer
  | dwr
  | dpr
  | app (b : β)
deriving DecidableEq, Repr

/-- A message to send. -/
inductive Outgoing (β : Type) where
  | request (req : Request (Body β))
  | answer (routable : Bool)
deriving DecidableEq, Repr

inductive OutThread where
  | stopped
  | running
  /-- Sending has failed; it empties the queue until it is stopped. -/
  | failed
deriving DecidableEq, Repr

/-- A routing thread that has chosen the peer for a message, and what it saw of the state in
`fd_out_send`: whether it was `STATE_OPEN`. -/
structure Sender (β : Type) where
  msg : Outgoing β
  saw : Option Bool
deriving DecidableEq, Repr

/-- What a peer's machine reads of the configuration: `pic_tctimer ?: cnf_timer_tc`, the same
of the watchdog's timer, `persist`, and `election_result`. -/
structure PeerConfig where
  tcTimer : Nat
  twTimer : Nat
  persist : Bool
  electionResult : Bool
deriving DecidableEq, Repr

/-- `clock_gettime`, and the two calls of `random`. -/
structure Clock where
  now : Time
  sec : Nat
  nsec : Nat
deriving DecidableEq, Repr

/-- `struct fd_peer` -/
structure Psm (β : Type) where
  state : PeerState
  flags : PeerFlags
  events : List PsmEvent
  timer : Time
  /-- `p_actives` is in the list of active peers. -/
  active : Bool
  outthr : OutThread
  tosend : List (Outgoing β)
  tofailover : List (Outgoing β)
  /-- `p_hbh` and `p_sr` -/
  peer : Peer (Body β)
  reqinCount : Int
  /-- `p_receiver` and `p_cer` -/
  receiver : Option Cer
  /-- `p_cnxctx` -/
  cnxctx : Bool
  cb2 : Option Bool
  /-- `pir_orstate` -/
  orstate : UInt32
  /-- `pir_lastDC` -/
  lastDC : UInt32
  /-- The routing threads that are in `fd_out_send`. -/
  senders : List (Sender β)
  /-- What became of the requests, the latest first. -/
  fates : List (Fate (Body β))
  /-- An assertion has failed. -/
  aborted : Bool

namespace Psm

variable {β : Type}

/-! ## Assignments -/

@[simps] def withState (state : PeerState) (p : Psm β) : Psm β := { p with state := state }

@[simps] def withFlags (f : PeerFlags → PeerFlags) (p : Psm β) : Psm β :=
  { p with flags := f p.flags }

@[simps] def withEvents (events : List PsmEvent) (p : Psm β) : Psm β := { p with events := events }

@[simps] def withTimer (timer : Time) (p : Psm β) : Psm β := { p with timer := timer }

@[simps] def withActive (active : Bool) (p : Psm β) : Psm β := { p with active := active }

@[simps] def withOutthr (outthr : OutThread) (p : Psm β) : Psm β := { p with outthr := outthr }

@[simps] def withTosend (tosend : List (Outgoing β)) (p : Psm β) : Psm β :=
  { p with tosend := tosend }

@[simps] def withReqinCount (n : Int) (p : Psm β) : Psm β := { p with reqinCount := n }

@[simps] def withReceiver (receiver : Option Cer) (p : Psm β) : Psm β :=
  { p with receiver := receiver }

@[simps] def withCnxctx (cnxctx : Bool) (p : Psm β) : Psm β := { p with cnxctx := cnxctx }

@[simps] def withCb2 (cb2 : Option Bool) (p : Psm β) : Psm β := { p with cb2 := cb2 }

@[simps] def withOrstate (orstate : UInt32) (p : Psm β) : Psm β := { p with orstate := orstate }

@[simps] def withLastDC (lastDC : UInt32) (p : Psm β) : Psm β := { p with lastDC := lastDC }

@[simps] def withSenders (senders : List (Sender β)) (p : Psm β) : Psm β :=
  { p with senders := senders }

/-- The list of sent requests, and what became of those that have left it. -/
@[simps] def settled (r : Peer (Body β) × List (Fate (Body β))) (p : Psm β) : Psm β :=
  { p with peer := r.1, fates := r.2 ++ p.fates }

@[simps] def withAborted (p : Psm β) : Psm β := { p with aborted := true }

/-! ## Sending (`p_out.c`, `peers.c`) -/

/-- A request of the machine itself. -/
def linkLocal (body : Body β) : Request (Body β) := ⟨0, false, false, none, body⟩

/-- `do_send`, and whether it could store the request. -/
def doSend (p : Psm β) : Outgoing β → Bool × Psm β
  | .request req => ((p.peer.step (.send req)).2.isEmpty, p.settled (p.peer.step (.send req)))
  | .answer _ => (true, p)

/-- `fd_out_send` by the machine's thread; `cnx` is its second argument. -/
def outSend (msg : Outgoing β) (cnx : Bool) : Fallible (Psm β) Unit := do
  let p ← get
  check (cnx || p.cnxctx)
  if p.state = .stateOpen then modify (withTosend (p.tosend ++ [msg]))
  else modify fun p => (p.doSend msg).2

/-- A message of `p_tosend` in `fd_peer_failover_msg`. -/
def requeue : Outgoing β → List (Fate (Body β))
  | .request req => [if req.routable then .requeued req else .freed req]
  | .answer _ => []

/-- A message of `p_tofailover` in `fd_peer_failover_msg`. -/
def repost : Outgoing β → List (Fate (Body β))
  | .request req => [.requeued req]
  | .answer _ => []

/-- `fd_peer_failover_msg` -/
@[simps] def failoverMsg (p : Psm β) : Psm β :=
  { p with
    tosend := []
    tofailover := []
    peer := (p.peer.step .failover).1
    fates :=
      (p.peer.step .failover).2 ++ p.tofailover.flatMap repost ++ p.tosend.flatMap requeue ++
        p.fates }

/-- `fd_event_send` to the machine. -/
def eventSend (e : PsmEvent) : Fallible (Psm β) Unit :=
  modify fun p => p.withEvents (p.events ++ [e])

/-- `fd_out_start` -/
def outStart : Fallible (Psm β) Unit := do
  let p ← get
  check (p.outthr = .stopped)
  modify (withOutthr .running)
  check p.cnxctx

/-- `fd_out_stop` -/
def outStop : Fallible (Psm β) Unit := do
  let p ← get
  check p.cnxctx
  modify (withOutthr .stopped)

/-! ## Changes of state (`p_psm.c`) -/

/-- `DO_NOT_WANT_TO_TALK_TO_YOU` -/
def notFriend : UInt32 := 2

/-- `enter_open_state` -/
def enterOpenState : Fallible (Psm β) Unit := do
  let p ← get
  check !p.active
  match p.cb2 with
  | some accepts => do
    whenever (!accepts) (eventSend (.terminate (some notFriend)))
    modify (withCb2 none)
  | none => do
    modify (withActive true)
    outStart

/-- `leave_open_state` -/
def leaveOpenState (skipFailover : Bool) : Fallible (Psm β) Unit := do
  modify (withActive false)
  outStop
  whenever (!skipFailover) (modify failoverMsg)

variable (c : PeerConfig) (k : Clock)

/-- What `fd_psm_change_state` does for `STATE_CLOSED`. -/
def enterClosedState : Fallible (Psm β) Unit := do
  modify (withEvents [])
  modify (withReqinCount 0)
  whenever (!c.persist) (eventSend (.terminate none))

/-- `fd_psm_change_state` -/
def changeState (new : PeerState) : Fallible (Psm β) Unit := do
  let p ← get
  whenever (p.state ≠ new) do
    modify (withState new)
    whenever (p.state = .stateOpen) (leaveOpenState (new = .stateClosingGrace))
    whenever (p.state = .stateClosingGrace) (modify failoverMsg)
    whenever (new = .stateOpen) enterOpenState
    whenever (new = .stateClosed) (enterClosedState c)

/-- A second, in nanoseconds. -/
def second : Time := 1000000000

/-- When a timeout of `fd_psm_next_timeout` is. -/
def timeoutAt (addRandom : Bool) (delay : Nat) : Time :=
  if addRandom then k.now + (k.sec % 4 + (delay - 2)) * second + k.nsec % second
  else k.now + delay * second

/-- `fd_psm_next_timeout` -/
def nextTimeout (addRandom : Bool) (delay : Nat) : Fallible (Psm β) Unit :=
  modify (withTimer (timeoutAt k addRandom delay))

/-- `fd_p_ce_clear_cnx` -/
def clearCnx : Fallible (Psm β) Unit := modify (withCnxctx false)

/-- `fd_p_sr_on_disconnect` -/
def srOnDisconnect (p : Psm β) : Psm β := p.settled (p.peer.step .disconnect)

/-- `fd_psm_cleanup` -/
def cleanup (terminate : Bool) : Fallible (Psm β) Unit := do
  let p ← get
  whenever (p.state ≠ .stateZombie) do
    attempt (changeState c .stateClosed)
  modify srOnDisconnect
  clearCnx
  modify (withReceiver none)
  whenever terminate (modify (withEvents []))

/-! ## Watchdogs (`p_dw.c`) -/

/-- `check_state_id` -/
def checkStateId : Option UInt32 → Fallible (Psm β) Unit
  | none => pure ()
  | some osi => do
    modify fun p => p.withOrstate (if p.orstate = 0 then osi else p.orstate)
    let p ← get
    check (p.orstate = osi)

/-- `send_DWR` -/
def sendDwr : Fallible (Psm β) Unit := do
  modify (withFlags fun f => { f with dwPending := true })
  outSend (.request (linkLocal .dwr)) false

/-- A watchdog in `STATE_REOPEN`. -/
def dwCount : Fallible (Psm β) Unit := do
  modify (withFlags fun f => { f with reopenCnt := f.reopenCnt + 1 })
  let p ← get
  if p.flags.reopenCnt ≠ 0 then sendDwr else changeState c .stateOpen

/-- `fd_p_dw_handle` -/
def dwHandle (req : Bool) (osi : Option UInt32) : Fallible (Psm β) Unit := do
  checkStateId osi
  if req then outSend (.answer false) false
  else modify (withFlags fun f => { f with dwPending := false })
  let p ← get
  whenever (if req then !p.flags.dwPending else true) (nextTimeout k true c.twTimer)
  whenever (p.state = .stateReopen) (dwCount c)

/-- `fd_p_dw_timeout` -/
def dwTimeout : Fallible (Psm β) Unit := do
  let p ← get
  if p.flags.dwPending then do
    changeState c .stateSuspect
    nextTimeout k false (2 * c.twTimer)
  else do
    sendDwr
    nextTimeout k false c.twTimer

/-- `fd_p_dw_reopen` -/
def dwReopen : Fallible (Psm β) Unit := do
  modify (withFlags fun f => { f with reopenCnt := 1, cnxPb := false })
  sendDwr

/-! ## Disconnecting (`p_dp.c`) -/

/-- `fd_p_dp_newdelay` -/
def dpNewdelay (p : Psm β) : Nat :=
  if p.lastDC = 1 then c.tcTimer * 10
  else if p.lastDC = notFriend then c.tcTimer * 200
  else c.tcTimer

/-- `fd_peer_get_load_pending` finds nothing. -/
def idle (p : Psm β) : Bool := p.peer.sr.cnt = 0 && p.reqinCount = 0

/-- `fd_p_dp_handle` -/
def dpHandle (req : Bool) (dc : Option UInt32) : Fallible (Psm β) Unit := do
  if req then do
    modify fun p => p.withLastDC (dc.getD p.lastDC)
    let p ← get
    if p.idle then do
      changeState c .stateClosing
      outSend (.answer false) false
      cleanup c false
      let p ← get
      nextTimeout k true (dpNewdelay c p)
    else do
      changeState c .stateClosingGrace
      -- `GRACE_TIMEOUT`
      nextTimeout k false 1
      outSend (.answer false) false
  else do
    let p ← get
    if p.idle then changeState c .stateClosing
    else do
      nextTimeout k false 1
      modify (withFlags fun f => { f with localterm := true })

/-- `fd_p_dp_initiate` -/
def dpInitiate (reason : Option UInt32) : Fallible (Psm β) Unit := do
  modify (withLastDC (reason.getD 0))
  changeState c .stateClosingGrace
  -- `DPR_TIMEOUT`
  nextTimeout k false 15
  attempt (outSend (.request (linkLocal .dpr)) false)

/-! ## Capabilities exchange (`p_ce.c`) -/

/-- `save_remote_CE_info` clears what the last exchange has left. -/
def saveRemoteCeInfo (orstate : UInt32) : Fallible (Psm β) Unit := do
  modify (withOrstate orstate)
  modify (withLastDC 0)

/-- `cleanup` of `fd_p_ce_msgrcv` and `fd_p_ce_process_receiver` -/
def ceCleanup (fatal : Bool) : Fallible (Psm β) Unit := do
  clearCnx
  eventSend (if fatal then .terminate none else .cnxError)

/-- "Move to OPEN or REOPEN state" -/
def moveToOpen (unordered : Bool) : Fallible (Psm β) Unit := do
  let p ← get
  if p.flags.cnxPb then do
    attempt (changeState c .stateReopen)
    dwReopen
  else if unordered then do
    attempt (changeState c .stateOpenNew)
    dwTimeout c k
  else do
    attempt (changeState c .stateOpen)
    nextTimeout k true c.twTimer

/-- `set_peer_cnx` of `p_receiver`, and `p_cer`. What it has stored stays where it fails. -/
def setPeerReceiver : Fallible (Psm β) (Option Cer) := do
  let p ← get
  check !p.cnxctx
  modify (withCnxctx p.receiver.isSome)
  modify (withReceiver none)
  check (p.receiver.any Cer.readable)
  pure p.receiver

/-- `fd_peer_validate`, from what is in `p_cb2` to what is there after it. -/
def peerValidate (cb2 : Option Bool) : List Validator → Int × Option Bool
  | [] => (-1, cb2)
  | v :: validators =>
    let cb2 := v.cb2.getD cb2
    if v.ret ≠ 0 then (v.ret, cb2)
    else if v.auth ≠ 0 then (if 0 < v.auth then 0 else -1, cb2)
    else peerValidate none validators

/-- "Validate the peer if needed" -/
def validate (cer : Cer) : Fallible (Psm β) Int := do
  let p ← get
  if p.flags.responder then do
    modify (withCb2 (peerValidate p.cb2 cer.validators).2)
    pure (peerValidate p.cb2 cer.validators).1
  else pure 0

/-- The rest of `fd_p_ce_process_receiver`, once the CEA is sent. -/
def processHandshake (cer : Cer) : Fallible (Psm β) Unit := do
  match cer.handshake with
  | none => do
    check cer.started
    moveToOpen c k cer.unordered
  | some ok => do
    attempt (changeState c .stateOpenHandshake)
    let p ← get
    if !ok then ceCleanup false
    else if p.cb2 = some false then eventSend (.terminate (some notFriend))
    else moveToOpen c k false

/-- `fd_p_ce_process_receiver` of a peer that is validated. -/
def answerReceiver (cer : Cer) : Fallible (Psm β) Unit := do
  match cer.refused with
  | some fatal => ceCleanup fatal
  | none => do
    outSend (.answer false) false
    processHandshake c k cer

/-- `fd_p_ce_process_receiver`, once the connection is the peer's. It reads the credentials again
that `set_peer_cnx` has read. -/
def examineReceiver (cer : Cer) : Fallible (Psm β) Unit := do
  saveRemoteCeInfo cer.orstate
  if cer.rejected then ceCleanup false
  else do
    let res ← validate cer
    if res < 0 then ceCleanup false
    else do
      check (res = 0)
      answerReceiver c k cer

/-- `fd_p_ce_process_receiver` -/
def processReceiver : Fallible (Psm β) Unit := do
  let cer ← setPeerReceiver
  match cer with
  | none => failure
  | some cer => examineReceiver c k cer

/-- `to_waitcea` -/
def toWaitcea (readable : Bool) : Fallible (Psm β) Unit := do
  let p ← get
  check !p.cnxctx
  modify (withCnxctx true)
  check readable
  changeState c .stateWaitcea
  -- `CEA_TIMEOUT`
  nextTimeout k false 10

/-- `fd_p_ce_handle_newcnx` -/
def handleNewcnx (readable : Bool) : Fallible (Psm β) Unit := do
  outSend (.request (linkLocal .cer)) true
  let p ← get
  if p.state = .stateWaitcnxackElec then do
    if c.electionResult then processReceiver c k
    else do
      modify (withReceiver none)
      toWaitcea c k readable
  else toWaitcea c k readable

/-- The connection after a CEA with `DIAMETER_SUCCESS`. -/
def ceaAccepted (cea : Cea) : Fallible (Psm β) Unit := do
  let p ← get
  match cea.security with
  | .start ok => do
    check (ok && p.cnxctx)
    moveToOpen c k false
  | .tlsDisabled => ceCleanup false
  | .handshake ok cred => do
    attempt (changeState c .stateOpenHandshake)
    if ok && p.cnxctx then do
      check cred
      moveToOpen c k false
    else ceCleanup false

/-- `fd_p_ce_msgrcv` -/
def ceMsgrcv (req : Bool) (cea : Cea) : Fallible (Psm β) Unit := do
  if req then do
    attempt (outSend (.answer false) false)
  else do
    let p ← get
    whenever (p.state = .stateWaitcea) do
      saveRemoteCeInfo cea.orstate
      if !cea.saved then ceCleanup false
      -- `ER_DIAMETER_SUCCESS`, `ER_DIAMETER_TOO_BUSY`, `ER_ELECTION_LOST`
      else if cea.rc = 2001 then ceaAccepted c k cea
      else if cea.rc = 3004 then do
        cleanup c false
        nextTimeout k false 300
      else check (cea.rc = 4003)

/-- `fd_p_ce_handle_newCER` -/
def handleNewCER (cer : Cer) : Fallible (Psm β) Unit := do
  let p ← get
  match p.state with
  | .stateClosed => do
    modify (withReceiver (some cer))
    processReceiver c k
  | .stateWaitcnxack => do
    modify (withReceiver (some cer))
    changeState c .stateWaitcnxackElec
  | .stateWaitcea =>
    whenever c.electionResult do
      clearCnx
      modify (withReceiver (some cer))
      processReceiver c k
  | _ => pure ()

/-! ## The thread (`p_psm_th`) -/

/-- Where the handling of an event goes on. -/
inductive Goto where
  | psmLoop
  | psmReset
  | psmEnd
deriving DecidableEq, Repr

/-- `CHECK_FCT_DO( m, goto next )`, then `goto psm_loop`. -/
def orGoto (next : Goto) (m : Fallible (Psm β) Unit) : Fallible (Psm β) Goto := do
  let ok ← outcome m
  pure (if ok then .psmLoop else next)

/-- The grace period is over, or the connection is. -/
def graceEnd : Fallible (Psm β) Goto := do
  let p ← get
  if p.flags.localterm then pure .psmEnd
  else do
    cleanup c false
    let p ← get
    nextTimeout k true (dpNewdelay c p)
    pure .psmLoop

/-- `FDEVP_TERMINATE` -/
def onTerminate (reason : Option UInt32) : Fallible (Psm β) Goto := do
  let p ← get
  match p.state with
  | .stateOpen | .stateOpenNew | .stateReopen => orGoto .psmEnd (dpInitiate c k reason)
  | _ => pure .psmEnd

/-- The states in which a routable message is taken. -/
def receives : PeerState → Bool
  | .stateReopen | .stateSuspect | .stateClosing | .stateClosingGrace => true
  | .stateOpenNew | .stateOpen => true
  | _ => false

/-- A routable message, received in the state `cur`. -/
def onRoutable (cur : PeerState) (request : Bool) : Fallible (Psm β) Unit :=
  whenever (receives cur) do
    whenever request (modify fun p => p.withReqinCount (p.reqinCount + 1))
    let p ← get
    whenever (cur = .stateOpen && !p.flags.dwPending) (nextTimeout k true c.twTimer)

/-- What is done about a message, received in the state `cur`. -/
def onContent (cur : PeerState) (msg : Received) : Fallible (Psm β) Goto := do
  match msg.content with
  | .unparsable => pure .psmLoop
  | .routable => do
    onRoutable c k cur msg.request
    pure .psmLoop
  | .invalid => do
    if msg.request then
      attempt (outSend (.answer false) false)
    else eventSend .cnxError
    pure .psmLoop
  | .capabilitiesExchange cea => orGoto .psmReset (ceMsgrcv c k msg.request cea)
  | .disconnectPeer dc => do
    let ok ← outcome (dpHandle c k msg.request dc)
    let p ← get
    pure (if !ok then .psmReset else if p.state = .stateClosing then .psmEnd else .psmLoop)
  | .deviceWatchdog osi => orGoto .psmReset (dwHandle c k msg.request osi)
  | .unknown => do
    whenever msg.request do
      attempt (outSend (.answer false) false)
    pure .psmLoop

/-- A message that is not dropped. -/
def onAccepted (msg : Received) : Fallible (Psm β) Goto := do
  let p ← get
  whenever (p.state = .stateOpenNew) (attempt (changeState c .stateOpen))
  onContent c k p.state msg

/-- Whether a message, received in the state `cur`, is given to the routing threads. Any other
goes no further than the machine, and its request with an answer: `fd_msg_free` frees both. -/
def delivers (cur : PeerState) (content : Content) : Bool := content = .routable && receives cur

/-- What becomes of a request that has its answer. -/
def carried (delivered : Bool) : Fate (Body β) → Fate (Body β)
  | .answered req => if delivered then .answered req else .dropped req
  | fate => fate

/-- `fd_p_sr_fetch` and `fd_msg_answ_associate` of an answer: whether there is a request for
it. -/
def fetch (msg : Received) : Fallible (Psm β) Bool := do
  let p ← get
  let r := p.peer.step (.answer msg.hbhid)
  modify (settled (r.1, r.2.map (carried (delivers p.state msg.content))))
  pure !r.2.isEmpty

/-- `FDEVP_CNX_MSG_RECV` -/
def onMsgRecv (msg : Received) : Fallible (Psm β) Goto := do
  let p ← get
  if msg.content = .unparsable then do
    eventSend .cnxError
    pure .psmLoop
  else if p.state = .stateClosed then pure .psmLoop
  else if msg.request then onAccepted c k msg
  else do
    let found ← fetch msg
    if found then onAccepted c k msg else pure .psmLoop

/-- `FDEVP_CNX_ERROR` -/
def onCnxError : Fallible (Psm β) Goto := do
  let p ← get
  match p.state with
  | .stateWaitcnxackElec => orGoto .psmEnd (processReceiver c k)
  | .stateClosed => pure .psmReset
  | .stateClosing => pure .psmEnd
  | .stateClosingGrace => graceEnd c k
  | _ => do
    modify (withFlags fun f => { f with cnxPb := true })
    nextTimeout k true c.tcTimer
    pure .psmReset

/-- `FDEVP_CNX_ESTABLISHED` -/
def onCnxEstablished (readable : Bool) : Fallible (Psm β) Goto := do
  let p ← get
  match p.state with
  | .stateWaitcnxackElec | .stateWaitcnxack => do
    -- Its error is not looked at.
    attempt (handleNewcnx c k readable)
    pure .psmLoop
  | _ => pure .psmLoop

/-- `FDEVP_CNX_FAILED` -/
def onCnxFailed : Fallible (Psm β) Goto := do
  let p ← get
  match p.state with
  | .stateWaitcnxackElec => orGoto .psmEnd (processReceiver c k)
  | .stateWaitcnxack => do
    nextTimeout k true c.tcTimer
    pure .psmReset
  | _ => pure .psmLoop

/-- `STATE_CLOSED` at a timeout: `fd_p_cnx_init` starts a thread that makes a connection. -/
def connect : Fallible (Psm β) Unit := do
  changeState c .stateWaitcnxack
  -- `CNX_TIMEOUT`
  nextTimeout k false 10

/-- `FDEVP_PSM_TIMEOUT` -/
def onTimeout : Fallible (Psm β) Goto := do
  let p ← get
  match p.state with
  | .stateOpen | .stateReopen | .stateOpenNew => orGoto .psmEnd (dwTimeout c k)
  | .stateClosed => orGoto .psmEnd (connect c k)
  | .stateSuspect => do
    modify (withFlags fun f => { f with cnxPb := true })
    nextTimeout k true c.tcTimer
    pure .psmReset
  | .stateWaitcnxack | .stateWaitcea | .stateClosing => do
    nextTimeout k true c.tcTimer
    pure .psmReset
  | .stateClosingGrace => graceEnd c k
  | .stateWaitcnxackElec => orGoto .psmEnd (processReceiver c k)
  | .stateNew | .stateOpenHandshake | .stateZombie => do
    modify withAborted
    pure .psmLoop

/-- What is done about an event, or at a timeout. -/
def handle : Option PsmEvent → Fallible (Psm β) Goto
  | some (.terminate reason) => onTerminate c k reason
  | some (.cnxMsgRecv msg) => onMsgRecv c k msg
  | some .cnxError => onCnxError c k
  | some .cnxEpChange => pure .psmLoop
  -- "Missing handler in PSM"
  | some .cnxShutdown => pure .psmReset
  | some (.cnxIncoming cer) => orGoto .psmEnd (handleNewCER c k cer)
  | some (.cnxEstablished readable) => onCnxEstablished c k readable
  | some .cnxFailed => onCnxFailed c k
  | none => onTimeout c k

/-- `psm_end` -/
def psmEnd : Fallible (Psm β) Unit := do
  cleanup c true
  modify (withState .stateZombie)
  modify (withFlags fun f => { f with cnxPb := false, dwPending := false })

/-- `psm_reset` -/
def psmReset : Fallible (Psm β) Unit := do
  let p ← get
  if p.flags.delete then psmEnd c else cleanup c false

/-- The loop's body, from an event to the next. -/
def react (e : Option PsmEvent) : Fallible (Psm β) Unit := do
  let p ← get
  if p.state = .stateOpenHandshake then modify withAborted
  else do
    let next ← handle c k e
    match next with
    | .psmLoop => pure ()
    | .psmReset => psmReset c
    | .psmEnd => psmEnd c

/-- `fd_event_timedget`: the first event, or a timeout if there is none and it is time. -/
def nextEvent (p : Psm β) : Option (Option PsmEvent × Psm β) :=
  match p.events with
  | e :: events => some (some e, p.withEvents events)
  | [] => if p.timer ≤ k.now then some (none, p) else none

/-- The thread runs. -/
def alive (p : Psm β) : Bool := p.state ≠ .stateNew && p.state ≠ .stateZombie

/-- A turn of `psm_loop`. -/
def turn (p : Psm β) : Psm β :=
  match if p.alive then nextEvent k p else none with
  | none => p
  | some (e, p) => ((react c k e).exec p).2

/-- The start of `p_psm_th`. -/
def start (createdStarted : Bool) (p : Psm β) : Psm β :=
  -- `INCNX_TIMEOUT`
  let timer := if p.flags.responder then timeoutAt k false 20 else timeoutAt k createdStarted 0
  (p.withState .stateClosed).withTimer timer

/-- `fd_peer_handle_newCER` for a peer whose thread has ended; `exp` is `pic_flags.exp`. -/
def restart (exp : Bool) (p : Psm β) : Psm β :=
  if p.state = .stateZombie then
    let flags (f : PeerFlags) : PeerFlags :=
      { f with responder := f.responder || exp, localterm := false }
    start k true ((p.withFlags flags).withEvents [])
  else p

/-! ## The other threads -/

/-- The message of a node's user; a request has its own hop-by-hop id. -/
inductive Routed (β : Type) where
  | request (hbhid : UInt32) (retransmit : Bool) (timeout : Option Time) (b : β)
  | answer
deriving DecidableEq, Repr

def Routed.outgoing : Routed β → Outgoing β
  | .request hbhid retransmit timeout b => .request ⟨hbhid, retransmit, true, timeout, .app b⟩
  | .answer => .answer true

/-- `msg_rt_out` finds that a peer in this state may have the message. -/
def Routed.admitted (state : PeerState) : Routed β → Bool
  | .request .. => state = .stateOpen
  | .answer => state = .stateOpen || state = .stateClosingGrace

/-- `msg_rt_out` takes the peer for the message. -/
def route (msg : Routed β) (p : Psm β) : Psm β :=
  if msg.admitted p.state then p.withSenders (p.senders ++ [⟨msg.outgoing, none⟩]) else p

/-- A routing thread in `fd_out_send`, up to its look at the state. Without a connection it
returns to `msg_rt_out`, which goes on to the next peer. -/
def look (i : Nat) (p : Psm β) : Psm β :=
  match p.senders[i]? with
  | some ⟨msg, none⟩ =>
    if p.cnxctx then
      let n := match msg with
        | .request _ => p.reqinCount
        | .answer _ => p.reqinCount - 1
      (p.withReqinCount n).withSenders (p.senders.set i ⟨msg, some (p.state = .stateOpen)⟩)
    else (p.withSenders (p.senders.eraseIdx i)).settled (p.peer, repost msg)
  | _ => p

/-- The rest of its `fd_out_send`. -/
def act (i : Nat) (p : Psm β) : Psm β :=
  match p.senders[i]? with
  | some ⟨msg, some true⟩ =>
    (p.withSenders (p.senders.eraseIdx i)).withTosend (p.tosend ++ [msg])
  | some ⟨msg, some false⟩ => ((p.withSenders (p.senders.eraseIdx i)).doSend msg).2
  | _ => p

/-- Sending fails, and the machine is told. -/
def outFail (p : Psm β) : Psm β := (p.withOutthr .failed).withEvents (p.events ++ [.cnxError])

/-- A turn of `out_thr`; `sent` is whether `fd_cnx_send` succeeds. -/
def outTurn (sent : Bool) (p : Psm β) : Psm β :=
  match p.outthr, p.tosend with
  | .running, msg :: tosend =>
    let (stored, p) := (p.withTosend tosend).doSend msg
    if stored && sent then p else p.outFail
  | .failed, .request req :: tosend =>
    if req.routable then
      { p.withTosend tosend with tofailover := p.tofailover ++ [.request req] }
    else (p.withTosend tosend).settled (p.peer, [.freed req])
  | .failed, .answer routable :: tosend =>
    if routable then
      { p.withTosend tosend with tofailover := p.tofailover ++ [.answer routable] }
    else p.withTosend tosend
  | _, _ => p

/-- A turn of `sr_expiry_th`. -/
def expireTurn (now : Time) (p : Psm β) : Psm β := p.settled (p.peer.step (.expire now))

/-- An event of another thread; the queue is gone when the machine has ended. -/
def post (e : PsmEvent) (p : Psm β) : Psm β :=
  if p.state = .stateZombie then p else p.withEvents (p.events ++ [e])

/-- A step of one of the threads. -/
inductive Step (β : Type) where
  | post (e : PsmEvent)
  | turn (k : Clock)
  | route (msg : Routed β)
  | look (i : Nat)
  | act (i : Nat)
  | outTurn (sent : Bool)
  | expire (now : Time)
  | restart (k : Clock) (exp : Bool)
deriving DecidableEq, Repr

def step (p : Psm β) (s : Step β) : Psm β :=
  if p.aborted then p
  else
    match s with
    | .post e => p.post e
    | .turn k => p.turn c k
    | .route msg => p.route msg
    | .look i => p.look i
    | .act i => p.act i
    | .outTurn sent => p.outTurn sent
    | .expire now => p.expireTurn now
    | .restart k exp => p.restart k exp

/-- What a new peer is given: `p_hbh`, its flags, and the time and `started` when its machine
starts. -/
structure Launch where
  clock : Clock
  hbh : UInt32
  responder : Bool
  delete : Bool
  createdStarted : Bool
deriving DecidableEq, Repr

/-- `fd_peer_alloc`, and the start of its machine. -/
def init (l : Launch) : Psm β :=
  start l.clock l.createdStarted
    { state := .stateNew
      flags := ⟨l.responder, l.delete, false, false, false, 0⟩
      events := []
      timer := 0
      active := false
      outthr := .stopped
      tosend := []
      tofailover := []
      peer := ⟨l.hbh, .empty⟩
      reqinCount := 0
      receiver := none
      cnxctx := false
      cb2 := none
      orstate := 0
      lastDC := 0
      senders := []
      fates := []
      aborted := false }

/-- The peer after a history, the newest step first. -/
def after (l : Launch) : List (Step β) → Psm β
  | [] => init l
  | s :: h => (after l h).step c s

end Psm

end Twag.Impl.Diameter

import Twag.Impl.Diameter.PeerMachine

/-!
# The peer state machine as a table of transitions

`PeerView` is what decides whether a peer is used: its state, its flags,
whether a CER waits for the end of an election, and whether the peer has a
connection. `PeerView.Move i v w` is the table of a turn that reads `i`: the
states of the connection, and over them the watchdogs that find a dead peer and
that a peer has to answer before it is used again. What a message says beyond
its kind is left open, so that a view has several successors.
-/

namespace Twag.Spec

open Twag.Impl.Diameter

structure PeerView where
  state : PeerState
  flags : PeerFlags
  /-- A CER waits. -/
  elect : Bool
  /-- There is a connection. -/
  cnx : Bool

/-- What a turn reads. -/
inductive PeerInput where
  | timeout
  /-- The connection is broken. -/
  | broken
  /-- The machine is to end. -/
  | terminate
  /-- The answer to a request, a DPA. -/
  | dpa
  /-- A DWR, or the answer to a request, a DWA. -/
  | watchdog (request : Bool)
  /-- A CER on a new connection. -/
  | incoming
  /-- A connection to the peer is made. -/
  | established
  /-- A connection to the peer could not be made. -/
  | failed
  | other
deriving DecidableEq, Repr

def PeerInput.isWatchdog : PeerInput → Bool
  | .watchdog _ => true
  | _ => false

namespace PeerView

/-- A connection whose watchdogs run. -/
def up : PeerState → Bool
  | .stateOpen | .stateOpenNew | .stateReopen => true
  | _ => false

/-- The peer is used, or will be with its next message. -/
def inService : PeerState → Bool
  | .stateOpen | .stateOpenNew => true
  | _ => false

/-- The connection is gone, and another one will be tried. -/
def closed (v : PeerView) : PeerView := ⟨.stateClosed, v.flags, false, false⟩

/-- The machine has ended. -/
def ended (v : PeerView) : PeerView :=
  ⟨.stateZombie, { v.flags with cnxPb := false, dwPending := false }, false, false⟩

/-- `psm_reset` -/
def reset (v : PeerView) : PeerView := if v.flags.delete then v.ended else v.closed

/-- `STATE_OPEN_NEW` ends with the first message. -/
def confirmed (v : PeerView) : PeerView :=
  { v with state := if v.state = .stateOpenNew then .stateOpen else v.state }

/-- A connection can be taken into use: that of the CER that comes, or that waits if there is no
other left over, or that of the CEA. -/
def Making : PeerInput → PeerView → Prop
  | .incoming, v => v.state = .stateClosed ∨ v.state = .stateWaitcea
  | .timeout, v | .broken, v | .established, v | .failed, v =>
    v.state = .stateWaitcnxackElec ∧ v.cnx = false
  | .other, v => v.state = .stateWaitcea
  | _, _ => False

/-- The connection is given up, and the peer must show that it is there again. -/
def Breaks : PeerInput → PeerView → Prop
  | .broken, v =>
    v.state ≠ .stateWaitcnxackElec ∧ v.state ≠ .stateClosed ∧ v.state ≠ .stateClosingGrace
  | .timeout, v => v.state = .stateSuspect
  | _, _ => False

/-- The connection is given up. -/
def Closes : PeerInput → PeerView → Prop
  | .broken, v =>
    v.state = .stateClosed ∨ v.state = .stateClosingGrace ∧ v.flags.localterm = false
  | .timeout, v =>
    v.state = .stateWaitcnxack ∨ v.state = .stateWaitcea ∨
      v.state = .stateClosingGrace ∧ v.flags.localterm = false
  | .failed, v => v.state = .stateWaitcnxack
  | .watchdog _, _ => True
  | .other, _ => True
  | _, _ => False

/-- The machine ends. Where a CER comes or waits, that is because it cannot be answered. -/
def Ends : PeerInput → PeerView → Prop
  | .terminate, v => up v.state = false
  | .dpa, _ => True
  | .broken, v =>
    v.state = .stateClosingGrace ∧ v.flags.localterm = true ∨ v.state = .stateWaitcnxackElec
  | .timeout, v =>
    v.state = .stateClosingGrace ∧ v.flags.localterm = true ∨ v.state = .stateWaitcnxackElec
  | .incoming, v => v.state = .stateClosed ∨ v.state = .stateWaitcea
  | .failed, v => v.state = .stateWaitcnxackElec
  | _, _ => False

inductive Move : PeerInput → PeerView → PeerView → Prop where
  | stay {i : PeerInput} {v : PeerView} (hi : i ≠ .timeout)
      (hw : v.state = .stateReopen → ∀ r, i ≠ .watchdog r) : Move i v v
  | confirm {i : PeerInput} {v : PeerView} (hi : i ≠ .timeout) (hv : v.state = .stateOpenNew) :
      Move i v { v with state := .stateOpen }
  | connect {v : PeerView} (hv : v.state = .stateClosed) :
      Move .timeout v { v with state := .stateWaitcnxack }
  /-- A CER comes while a connection is being made. -/
  | elect {v : PeerView} (hv : v.state = .stateWaitcnxack) :
      Move .incoming v { v with state := .stateWaitcnxackElec, elect := true }
  | await {v : PeerView} (hv : v.state = .stateWaitcnxack ∨ v.state = .stateWaitcnxackElec)
      (hc : v.cnx = false) : Move .established v ⟨.stateWaitcea, v.flags, false, true⟩
  /-- A connection is made; it, or that of the CER that waits, cannot be used and is not given
  up. -/
  | stall {v : PeerView} (hv : v.state = .stateWaitcnxack ∨ v.state = .stateWaitcnxackElec) :
      Move .established v { v with elect := false, cnx := true }
  /-- The CER or CEA is refused. -/
  | refuse {i : PeerInput} {v : PeerView} (hv : Making i v) :
      Move i v { v with elect := false, cnx := false }
  | opens {i : PeerInput} {v : PeerView} (hv : Making i v) (hpb : v.flags.cnxPb = false) :
      Move i v ⟨.stateOpen, v.flags, false, true⟩
  | opensNew {i : PeerInput} {v : PeerView} (hv : Making i v) (hpb : v.flags.cnxPb = false)
      (hdw : v.flags.dwPending = false) :
      Move i v ⟨.stateOpenNew, { v.flags with dwPending := true }, false, true⟩
  /-- A DWR of an earlier connection counts as one of this. -/
  | opensSuspect {i : PeerInput} {v : PeerView} (hv : Making i v) (hpb : v.flags.cnxPb = false)
      (hdw : v.flags.dwPending = true) :
      Move i v ⟨.stateSuspect, v.flags, false, true⟩
  | reopens {i : PeerInput} {v : PeerView} (hv : Making i v) (hpb : v.flags.cnxPb = true) :
      Move i v
        ⟨.stateReopen, { v.flags with dwPending := true, cnxPb := false, reopenCnt := 1 }, false,
          true⟩
  /-- A handshake in the connection fails, or the peer is refused after it. -/
  | handshake {i : PeerInput} {v : PeerView} (hv : Making i v) (cnx : Bool) :
      Move i v ⟨.stateOpenHandshake, v.flags, false, cnx⟩
  | watch {r : Bool} {v : PeerView} (hv : v.state ≠ .stateReopen) :
      Move (.watchdog r) v
        { v.confirmed with flags := { v.flags with dwPending := r && v.flags.dwPending } }
  | count {r : Bool} {v : PeerView} (hv : v.state = .stateReopen)
      (hc : v.flags.reopenCnt + 1 ≠ 0) :
      Move (.watchdog r) v
        { v with flags :=
          { v.flags with reopenCnt := v.flags.reopenCnt + 1, dwPending := true } }
  | restore {r : Bool} {v : PeerView} (hv : v.state = .stateReopen)
      (hc : v.flags.reopenCnt + 1 = 0) :
      Move (.watchdog r) v
        { v with
          state := .stateOpen
          flags := { v.flags with reopenCnt := 0, dwPending := r && v.flags.dwPending } }
  /-- A DWR is sent. -/
  | probe {v : PeerView} (hv : up v.state = true) (hdw : v.flags.dwPending = false) :
      Move .timeout v { v with flags := { v.flags with dwPending := true } }
  | suspect {v : PeerView} (hv : up v.state = true) (hdw : v.flags.dwPending = true) :
      Move .timeout v { v with state := .stateSuspect }
  | breaks {i : PeerInput} {v : PeerView} (hv : Breaks i v) :
      Move i v (reset { v with flags := { v.flags with cnxPb := true } })
  | closes {i : PeerInput} {v : PeerView} (hv : Closes i v) : Move i v v.closed
  | resets {i : PeerInput} {v : PeerView} (hv : Closes i v) : Move i v v.reset
  | grace {i : PeerInput} {v : PeerView} (hi : i = .terminate ∧ up v.state = true ∨ i = .other)
      (hc : v.cnx = true) : Move i v { v with state := .stateClosingGrace }
  /-- A DPA comes while there are exchanges that are not complete. -/
  | defer {v : PeerView} :
      Move .dpa v { v.confirmed with flags := { v.flags with localterm := true } }
  | ends {i : PeerInput} {v : PeerView} (hv : Ends i v) : Move i v v.ended

/-- The connection was given up as broken, or the machine has ended, and there is no other. -/
def Gone (v : PeerView) : Prop :=
  (v.flags.cnxPb = true ∧ (v.state = .stateClosed ∨ v.state = .stateWaitcnxack) ∨
    v.state = .stateZombie) ∧ v.cnx = false

/-- How far a connection is from being given up after so many timeouts. -/
def Fading : Nat → PeerView → Prop
  | 0, v => up v.state = true
  | 1, v => up v.state = true ∧ v.flags.dwPending = true ∨ v.state = .stateSuspect
  | 2, v => v.state = .stateSuspect ∨ Gone v
  | _, v => Gone v

/-- A step of one of the peer's threads, and what it reads if it is a turn of the machine. -/
inductive Advance : Option PeerInput → PeerView → PeerView → Prop where
  | turn {i : PeerInput} {v w : PeerView} (hv : v.state ≠ .stateOpenHandshake) (h : Move i v w) :
      Advance (some i) v w
  /-- A turn asserts that no handshake is left over. -/
  | stuck {i : PeerInput} {v : PeerView} (hv : v.state = .stateOpenHandshake) :
      Advance (some i) v v
  | idle {v : PeerView} : Advance none v v
  /-- A CER comes for a peer whose machine has ended. -/
  | restart {v : PeerView} (b : Bool) (hv : v.state = .stateZombie) :
      Advance none v
        { v with
          state := .stateClosed
          flags := { v.flags with responder := b, localterm := false } }

end PeerView

/-! ## The code's machine -/

variable {β : Type}

def peerView (p : Psm β) : PeerView := ⟨p.state, p.flags, p.receiver.isSome, p.cnxctx⟩

/-- The message is not dropped: it can be parsed, there is a connection, and an answer is the
answer to a request that waits. -/
def accepted (p : Psm β) (msg : Received) : Bool :=
  msg.content ≠ .unparsable && p.state ≠ .stateClosed &&
    (msg.request || !(p.peer.step (.answer msg.hbhid)).2.isEmpty)

/-- What an accepted message is to the machine. -/
def contentOf (msg : Received) : PeerInput :=
  match msg.content with
  | .deviceWatchdog _ => .watchdog msg.request
  | .disconnectPeer _ => if msg.request then .other else .dpa
  | _ => .other

/-- What a turn reads that takes this event, or is a timeout. -/
def peerInput (p : Psm β) : Option PsmEvent → PeerInput
  | none => .timeout
  | some .cnxError => .broken
  | some (.terminate _) => .terminate
  | some (.cnxMsgRecv msg) => if accepted p msg then contentOf msg else .other
  | some (.cnxIncoming _) => .incoming
  | some (.cnxEstablished _) => .established
  | some .cnxFailed => .failed
  | some _ => .other

/-- What a step reads, if it is a turn of a machine that runs. -/
def reads (p : Psm β) : Psm.Step β → Option PeerInput
  | .turn k => if p.alive then (p.nextEvent k).map fun r => peerInput p r.1 else none
  | _ => none

/-! ## Histories -/

/-- How many watchdogs a connection on probation has had: those read since the state is
`STATE_REOPEN`. -/
def probation (c : PeerConfig) (l : Psm.Launch) : List (Psm.Step β) → Nat
  | [] => 0
  | s :: h =>
    if (Psm.after c l h).state = .stateReopen then
      probation c l h + if (reads (Psm.after c l h) s).any PeerInput.isWatchdog then 1 else 0
    else 0

/-- The peer need not show any more that it is there again: it has sent three watchdogs on one
connection, or a connection on probation is given up without being broken, or the machine has
ended. -/
def Cleared (c : PeerConfig) (l : Psm.Launch) (h : List (Psm.Step β)) (s : Psm.Step β) : Prop :=
  let before := Psm.after c l h
  let now := Psm.after c l (s :: h)
  (before.state = .stateReopen ∧ now.state = .stateOpen ∧ probation c l (s :: h) = 3) ∨
  ((before.state = .stateReopen ∨ before.state = .stateSuspect) ∧
    (now.state = .stateClosed ∨ now.state = .stateClosingGrace) ∧ now.flags.cnxPb = false) ∨
  now.state = .stateZombie

/-- A step in which nothing is heard of the peer: a turn reads a timeout, and the machine is not
started again. -/
def silent (c : PeerConfig) (l : Psm.Launch) (h : List (Psm.Step β)) (s : Psm.Step β) : Prop :=
  (∀ i, reads (Psm.after c l h) s = some i → i = .timeout) ∧ ∀ k exp, s ≠ .restart k exp

/-- How many turns read something in `h`, which comes after `g`. -/
def turnsAfter (c : PeerConfig) (l : Psm.Launch) (g : List (Psm.Step β)) :
    List (Psm.Step β) → Nat
  | [] => 0
  | s :: h =>
    turnsAfter c l g h + if (reads (Psm.after c l (h ++ g)) s).isSome then 1 else 0

/-! ## Requests -/

/-- Whether the request is of a user, and among those that `P` picks out. -/
def picks (P : β → Bool) : Body β → Bool
  | .app b => P b
  | _ => false

def picksMsg (P : β → Bool) : Outgoing β → Bool
  | .request req => picks P req.body
  | .answer _ => false

/-- The request that has had a fate. -/
def fateRequest {α : Type} : Fate α → Request α
  | .answered req | .dropped req | .expired req => req
  | .requeued req | .freed req | .refused req => req

/-- The messages that are to be sent, or to be given to another peer. -/
def pending (p : Psm β) : List (Outgoing β) := p.senders.map Sender.msg ++ p.tosend ++ p.tofailover

/-- How many of the users' requests that `P` picks out are at the peer. -/
def waiting (P : β → Bool) (p : Psm β) : Nat :=
  (pending p).countP (picksMsg P) + p.peer.sr.srs.countP fun sr => picks P sr.req.body

/-- How many have had a fate. -/
def ended (P : β → Bool) (p : Psm β) : Nat := p.fates.countP fun f => picks P (fateRequest f).body

/-- Whether the fate is that of one of them that was dropped with its answer. -/
def isLost (P : β → Bool) : Fate (Body β) → Bool
  | .dropped req => picks P req.body
  | _ => false

/-- How many were dropped with their answers. -/
def lost (P : β → Bool) (p : Psm β) : Nat := p.fates.countP (isLost P)

/-- How many the machine drops with a message: an answer to one of them that it takes and does
not pass on. -/
def swallows (P : β → Bool) (p : Psm β) (msg : Received) : Nat :=
  if !msg.request && accepted p msg && !Psm.delivers p.state msg.content then
    (p.peer.step (.answer msg.hbhid)).2.countP fun f => picks P (fateRequest f).body
  else 0

/-- How many a step drops, which a turn that reads a message can. -/
def drops (P : β → Bool) (p : Psm β) : Psm.Step β → Nat
  | .turn k =>
    if p.alive && !p.aborted && p.state ≠ .stateOpenHandshake then
      match p.nextEvent k with
      | some (some (.cnxMsgRecv msg), _) => swallows P p msg
      | _ => 0
    else 0
  | _ => 0

/-- How many are dropped in a history. -/
def dropped (c : PeerConfig) (l : Psm.Launch) (P : β → Bool) : List (Psm.Step β) → Nat
  | [] => 0
  | s :: h => dropped c l P h + drops P (Psm.after c l h) s

/-- How many a step gives to the peer. -/
def given (P : β → Bool) (p : Psm β) : Psm.Step β → Nat
  | .route msg =>
    if !p.aborted && msg.admitted p.state && picksMsg P msg.outgoing then 1 else 0
  | _ => 0

end Twag.Spec

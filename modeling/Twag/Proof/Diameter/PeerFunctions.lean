import Twag.Proof.Diameter.SentRequests
import Twag.Spec.PeerMachine

/-!
# What the functions of the peer state machine do

A function that cannot fail where it is called has a closed form (`moved` for
`fd_psm_change_state`, `cleaned` for `fd_psm_cleanup`, `opened` for the end of a
capabilities exchange), and its specification says that it does that. One that
can fail is specified by what it follows of the table if it succeeds
(`Follows`, `Made`) and by what is left for `psm_reset` and `psm_end` if it
does not (`Stops`). `Core` is what a change of state needs and keeps even half
way through a turn, `Shape` what holds between two turns.
-/

namespace Twag.Proof.Diameter

open Twag.Impl (Time)
open Twag.Impl.Diameter Twag.Spec Fallible
open Psm

variable {β : Type} {c : PeerConfig} {k : Clock} {p q : Psm β}

/-! ## What the functions do where they do not fail -/

/-- What holds whenever the machine changes its state. -/
structure Core (p : Psm β) : Prop where
  active : p.active = true → p.state = .stateOpen
  out : p.outthr = .stopped ↔ p.active = false
  cnx : p.state = .stateOpen → p.cnxctx = true

/-- `leave_open_state` -/
def left (skip : Bool) (p : Psm β) : Psm β :=
  let q := (p.withActive false).withOutthr .stopped
  if skip then q else q.failoverMsg

/-- `enter_open_state` -/
def entered (p : Psm β) : Psm β :=
  match p.cb2 with
  | some true => p.withCb2 none
  | some false => (p.withEvents (p.events ++ [.terminate (some notFriend)])).withCb2 none
  | none => (p.withActive true).withOutthr .running

/-- `STATE_CLOSED` empties the queue. -/
def purged (c : PeerConfig) (p : Psm β) : Psm β :=
  (p.withEvents (if c.persist then [] else [.terminate none])).withReqinCount 0

/-- `fd_psm_change_state` -/
def moved (c : PeerConfig) (s : PeerState) (p : Psm β) : Psm β :=
  if p.state = s then p
  else
    let q := p.withState s
    let q := if p.state = .stateOpen then left (s = .stateClosingGrace) q else q
    let q := if p.state = .stateClosingGrace then q.failoverMsg else q
    let q := if s = .stateOpen then entered q else q
    if s = .stateClosed then purged c q else q

theorem wp_enterOpenState {Q : Unit → Psm β → Prop} {E : Psm β → Prop}
    (hactive : p.active = false) (hout : p.outthr = .stopped) (hcnx : p.cnxctx = true) :
    WP enterOpenState p Q E ↔ Q () (entered p) := by
  cases hcb2 : p.cb2 with
  | none => simp [enterOpenState, outStart, entered, hactive, hout, hcnx, hcb2]
  | some accepts =>
    cases accepts with
    | false => simp [enterOpenState, eventSend, entered, hactive, hcb2]
    | true => simp [enterOpenState, entered, hactive, hcb2]

theorem wp_leaveOpenState {skip : Bool} {Q : Unit → Psm β → Prop} {E : Psm β → Prop}
    (hcnx : p.cnxctx = true) : WP (leaveOpenState skip) p Q E ↔ Q () (left skip p) := by
  cases skip with
  | false => simp [leaveOpenState, outStop, left, hcnx]
  | true => simp [leaveOpenState, outStop, left, hcnx]

theorem Core.idle (h : Core p) (hs : p.state ≠ .stateOpen) :
    p.active = false ∧ p.outthr = .stopped := by
  have hactive : p.active = false := by
    cases ha : p.active with
    | false => rfl
    | true => exact absurd (h.active ha) hs
  exact ⟨hactive, h.out.2 hactive⟩

theorem wp_enterClosedState {Q : Unit → Psm β → Prop} {E : Psm β → Prop} :
    WP (enterClosedState c) p Q E ↔ Q () (purged c p) := by
  cases hp : c.persist with
  | false => simp [enterClosedState, purged, hp, eventSend]; rfl
  | true => simp [enterClosedState, purged, hp]

theorem wp_changeState {s : PeerState} {Q : Unit → Psm β → Prop} {E : Psm β → Prop}
    (h : Core p) (hnew : s = .stateOpen → p.cnxctx = true) :
    WP (changeState c s) p Q E ↔ Q () (moved c s p) := by
  by_cases hsame : p.state = s
  · simp [changeState, moved, hsame]
  -- Only the states that are left or entered matter, so the cases are those of the old one.
  by_cases hopen : p.state = .stateOpen
  · have hne : ¬ PeerState.stateOpen = s := fun he => hsame (hopen.trans he)
    have hnot : s ≠ .stateOpen := fun he => hne he.symm
    by_cases hclosed : s = .stateClosed
    · simp [changeState, moved, hopen, hclosed, wp_leaveOpenState, h.cnx hopen, wp_enterClosedState]
    · simp [changeState, moved, hopen, hnot, hne, hclosed, wp_leaveOpenState, h.cnx hopen]
  · obtain ⟨hactive, hout⟩ := h.idle hopen
    by_cases hn : s = .stateOpen
    · have hcnx := hnew hn
      subst hn
      by_cases hgrace : p.state = .stateClosingGrace
      · simp [changeState, moved, hgrace, wp_enterOpenState, hactive, hout, hcnx]
      · simp [changeState, moved, hsame, hgrace, wp_enterOpenState, hactive, hout, hcnx]
    · by_cases hgrace : p.state = .stateClosingGrace
      · have hne : ¬ PeerState.stateClosingGrace = s := fun he => hsame (hgrace.trans he)
        by_cases hclosed : s = .stateClosed
        · simp [changeState, moved, hgrace, hclosed, wp_enterClosedState]
        · simp [changeState, moved, hgrace, hne, hn, hclosed]
      · by_cases hclosed : s = .stateClosed
        · subst hclosed
          simp [changeState, moved, hsame, hopen, hgrace, wp_enterClosedState]
        · simp [changeState, moved, hsame, hopen, hn, hgrace, hclosed]

/-! ### What a change of state leaves alone -/

structure Kept (p q : Psm β) : Prop where
  flags : q.flags = p.flags
  timer : q.timer = p.timer
  receiver : q.receiver = p.receiver
  cnxctx : q.cnxctx = p.cnxctx
  orstate : q.orstate = p.orstate
  lastDC : q.lastDC = p.lastDC
  senders : q.senders = p.senders
  aborted : q.aborted = p.aborted

theorem Kept.refl (p : Psm β) : Kept p p := ⟨rfl, rfl, rfl, rfl, rfl, rfl, rfl, rfl⟩

theorem Kept.trans {r : Psm β} (h : Kept p q) (h' : Kept q r) : Kept p r :=
  ⟨h'.flags.trans h.flags, h'.timer.trans h.timer, h'.receiver.trans h.receiver,
    h'.cnxctx.trans h.cnxctx, h'.orstate.trans h.orstate, h'.lastDC.trans h.lastDC,
    h'.senders.trans h.senders, h'.aborted.trans h.aborted⟩

theorem kept_failoverMsg : Kept p p.failoverMsg := ⟨rfl, rfl, rfl, rfl, rfl, rfl, rfl, rfl⟩

theorem kept_left {skip : Bool} : Kept p (left skip p) := by
  cases skip with
  | false => exact ⟨rfl, rfl, rfl, rfl, rfl, rfl, rfl, rfl⟩
  | true => exact ⟨rfl, rfl, rfl, rfl, rfl, rfl, rfl, rfl⟩

theorem kept_entered : Kept p (entered p) := by
  unfold entered
  split
  · exact ⟨rfl, rfl, rfl, rfl, rfl, rfl, rfl, rfl⟩
  · exact ⟨rfl, rfl, rfl, rfl, rfl, rfl, rfl, rfl⟩
  · exact ⟨rfl, rfl, rfl, rfl, rfl, rfl, rfl, rfl⟩

theorem kept_ite {b : Prop} [Decidable b] (h : Kept p q) : Kept p (if b then q else p) := by
  split
  · exact h
  · exact .refl p

theorem kept_moved {s : PeerState} : Kept p (moved c s p) := by
  unfold moved
  split
  · exact .refl p
  · have hstate : Kept p (p.withState s) := ⟨rfl, rfl, rfl, rfl, rfl, rfl, rfl, rfl⟩
    have hpurged : ∀ q : Psm β, Kept q (purged c q) := fun q =>
      ⟨rfl, rfl, rfl, rfl, rfl, rfl, rfl, rfl⟩
    exact (((hstate.trans (kept_ite kept_left)).trans (kept_ite kept_failoverMsg)).trans
      (kept_ite kept_entered)).trans (kept_ite (hpurged _))

@[simp] theorem moved_flags {s : PeerState} : (moved c s p).flags = p.flags := kept_moved.flags

@[simp] theorem moved_receiver {s : PeerState} : (moved c s p).receiver = p.receiver :=
  kept_moved.receiver

@[simp] theorem moved_cnxctx {s : PeerState} : (moved c s p).cnxctx = p.cnxctx :=
  kept_moved.cnxctx

@[simp] theorem moved_aborted {s : PeerState} : (moved c s p).aborted = p.aborted :=
  kept_moved.aborted

@[simp] theorem left_state {skip : Bool} : (left skip p).state = p.state := by
  cases skip <;> rfl

@[simp] theorem left_active {skip : Bool} : (left skip p).active = false := by
  cases skip <;> rfl

@[simp] theorem left_outthr {skip : Bool} : (left skip p).outthr = .stopped := by
  cases skip <;> rfl

@[simp] theorem entered_state : (entered p).state = p.state := by
  unfold entered
  split <;> rfl

@[simp] theorem moved_state {s : PeerState} : (moved c s p).state = s := by
  unfold moved
  split
  · assumption
  · simp only [apply_ite Psm.state, purged, withReqinCount_state, withEvents_state, entered_state,
      failoverMsg_state, left_state, withState_state, ite_self]

/-- Out of `STATE_OPEN` nothing is active. -/
theorem moved_idle {s : PeerState} (h : Core p) (hnew : s ≠ .stateOpen) :
    (moved c s p).active = false ∧ (moved c s p).outthr = .stopped := by
  unfold moved
  split
  · rename_i hsame
    exact h.idle (hsame ▸ hnew)
  · by_cases hopen : p.state = .stateOpen
    · simp [hopen, apply_ite Psm.active, apply_ite Psm.outthr, purged]
    · obtain ⟨hactive, hout⟩ := h.idle hopen
      simp [hopen, apply_ite Psm.active, apply_ite Psm.outthr, purged, hactive, hout]

theorem Core.congr (h : Core p) (hs : q.state = p.state) (ha : q.active = p.active)
    (ho : q.outthr = p.outthr) (hc : q.cnxctx = p.cnxctx) : Core q :=
  ⟨by rw [ha, hs]; exact h.active, by rw [ha, ho]; exact h.out, by rw [hs, hc]; exact h.cnx⟩

theorem Core.of_idle (hs : q.state ≠ .stateOpen) (ha : q.active = false)
    (ho : q.outthr = .stopped) : Core q :=
  ⟨fun h => absurd (ha.symm.trans h) (by simp), by simp [ha, ho], fun h => absurd h hs⟩

theorem core_entered (hs : p.state = .stateOpen) (ha : p.active = false)
    (ho : p.outthr = .stopped) (hc : p.cnxctx = true) : Core (entered p) := by
  unfold entered
  split
  · exact ⟨fun _ => hs, by simp [ha, ho], fun _ => hc⟩
  · exact ⟨fun _ => hs, by simp [ha, ho], fun _ => hc⟩
  · exact ⟨fun _ => hs, by simp, fun _ => hc⟩

theorem Core.moved {s : PeerState} (h : Core p) (hnew : s = .stateOpen → p.cnxctx = true) :
    Core (moved c s p) := by
  by_cases hopen : s = .stateOpen
  · subst hopen
    by_cases hsame : p.state = .stateOpen
    · rw [Diameter.moved, if_pos hsame]
      exact h
    · obtain ⟨ha, ho⟩ := h.idle hsame
      simp only [Diameter.moved, if_neg hsame, if_true, reduceCtorEq, if_false]
      split
      · exact core_entered rfl ha ho (hnew rfl)
      · exact core_entered rfl ha ho (hnew rfl)
  · obtain ⟨ha, ho⟩ := moved_idle (c := c) h hopen
    exact .of_idle (by rwa [moved_state]) ha ho

/-! ### Sending -/

/-- `fd_out_send` -/
def sentOut (msg : Outgoing β) (p : Psm β) : Psm β :=
  if p.state = .stateOpen then p.withTosend (p.tosend ++ [msg]) else (p.doSend msg).2

@[simp] theorem wp_outSend {msg : Outgoing β} {cnx : Bool} {Q : Unit → Psm β → Prop}
    {E : Psm β → Prop} :
    WP (outSend msg cnx) p Q E ↔ if cnx || p.cnxctx then Q () (sentOut msg p) else E p := by
  simp only [outSend, wp_bind, wp_get, wp_check, wp_ite, wp_modify, sentOut]
  split
  · split
    · rfl
    · rfl
  · rfl

/-- The two differ at most in the messages, the queue, the timer and what is known of the peer. -/
structure SameView (p q : Psm β) : Prop where
  state : q.state = p.state
  flags : q.flags = p.flags
  receiver : q.receiver = p.receiver
  cnxctx : q.cnxctx = p.cnxctx
  active : q.active = p.active
  outthr : q.outthr = p.outthr
  aborted : q.aborted = p.aborted

theorem SameView.refl (p : Psm β) : SameView p p := ⟨rfl, rfl, rfl, rfl, rfl, rfl, rfl⟩

theorem SameView.trans {r : Psm β} (h : SameView p q) (h' : SameView q r) : SameView p r :=
  ⟨h'.state.trans h.state, h'.flags.trans h.flags, h'.receiver.trans h.receiver,
    h'.cnxctx.trans h.cnxctx, h'.active.trans h.active, h'.outthr.trans h.outthr,
    h'.aborted.trans h.aborted⟩

theorem sameView_doSend {msg : Outgoing β} : SameView p (p.doSend msg).2 := by
  cases msg with
  | request req => exact ⟨rfl, rfl, rfl, rfl, rfl, rfl, rfl⟩
  | answer routable => exact ⟨rfl, rfl, rfl, rfl, rfl, rfl, rfl⟩

theorem sameView_sentOut {msg : Outgoing β} : SameView p (sentOut msg p) := by
  unfold sentOut
  split
  · exact ⟨rfl, rfl, rfl, rfl, rfl, rfl, rfl⟩
  · exact sameView_doSend

theorem SameView.view (h : SameView p q) : peerView q = peerView p := by
  rw [peerView, h.state, h.flags, h.receiver, h.cnxctx]
  rfl

theorem Core.same (h : Core p) (hq : SameView p q) : Core q :=
  h.congr hq.state hq.active hq.outthr hq.cnxctx

/-! ## The shape of a peer between two turns -/

/-- Whether there is a connection in a state, where the state tells. In `STATE_WAITCNXACK` and
`STATE_WAITCNXACK_ELEC` there is one if it could not be used and was not given up. -/
def linked : PeerState → Option Bool
  | .stateOpen | .stateOpenNew | .stateReopen | .stateSuspect | .stateClosingGrace => some true
  | .stateNew | .stateClosed | .stateZombie => some false
  | .stateWaitcnxack | .stateWaitcnxackElec => none
  | .stateClosing | .stateWaitcea | .stateOpenHandshake => none

/-- Whether a CER may wait in a state. It does in a grace period when the peer has disconnected a
connection that was left over in an election. -/
def elects : PeerState → Bool
  | .stateWaitcnxackElec | .stateClosingGrace => true
  | _ => false

structure Shape (p : Psm β) : Prop extends Core p where
  linked : ∀ b, linked p.state = some b → p.cnxctx = b
  receiver : p.receiver.isSome = true → elects p.state = true
  count : p.state = .stateReopen → p.flags.reopenCnt ≠ 0
  closing : p.state ≠ .stateClosing

theorem Shape.same (h : Shape p) (hq : SameView p q) : Shape q := by
  refine ⟨h.toCore.same hq, ?_, ?_, ?_, ?_⟩
  · rw [hq.state, hq.cnxctx]
    exact h.linked
  · rw [hq.state, hq.receiver]
    exact h.receiver
  · rw [hq.state, hq.flags]
    exact h.count
  · rw [hq.state]
    exact h.closing

theorem Shape.up (h : Shape p) (hs : PeerView.up p.state = true) : p.cnxctx = true := by
  refine h.linked true ?_
  revert hs
  cases p.state <;> simp [PeerView.up, Diameter.linked]

theorem Shape.unelected (h : Shape p) (hs : elects p.state = false) : p.receiver = none := by
  cases hr : p.receiver with
  | none => rfl
  | some cer =>
    have helects := h.receiver (by simp [hr])
    simp [hs] at helects

theorem Shape.withFlags {f : PeerFlags → PeerFlags} (h : Shape p)
    (hcount : p.state = .stateReopen → (f p.flags).reopenCnt ≠ 0) : Shape (p.withFlags f) :=
  ⟨⟨h.active, h.out, h.cnx⟩, h.linked, h.receiver, hcount, h.closing⟩

theorem shape_moved {s : PeerState} (h : Core p)
    (hlinked : ∀ b, linked s = some b → p.cnxctx = b)
    (hreceiver : p.receiver.isSome = true → elects s = true)
    (hcount : s = .stateReopen → p.flags.reopenCnt ≠ 0) (hclosing : s ≠ .stateClosing) :
    Shape (moved c s p) := by
  refine ⟨h.moved fun he => hlinked true (by rw [he]; rfl), ?_, ?_, ?_, ?_⟩
  · rw [moved_state, moved_cnxctx]
    exact hlinked
  · rw [moved_state, moved_receiver]
    exact hreceiver
  · rw [moved_state, moved_flags]
    exact hcount
  · rw [moved_state]
    exact hclosing

/-! ## Watchdogs -/

/-- `send_DWR` -/
def dwrSent (p : Psm β) : Psm β :=
  sentOut (.request (linkLocal .dwr)) (p.withFlags fun f => { f with dwPending := true })

theorem wp_sendDwr {Q : Unit → Psm β → Prop} {E : Psm β → Prop} (hcnx : p.cnxctx = true) :
    WP sendDwr p Q E ↔ Q () (dwrSent p) := by
  simp [sendDwr, dwrSent, hcnx]

theorem sameView_dwrSent :
    SameView (p.withFlags fun f => { f with dwPending := true }) (dwrSent p) :=
  sameView_sentOut

/-- `fd_p_dw_timeout` -/
def timedOut (c : PeerConfig) (k : Clock) (p : Psm β) : Psm β :=
  if p.flags.dwPending then
    (moved c .stateSuspect p).withTimer (timeoutAt k false (2 * c.twTimer))
  else (dwrSent p).withTimer (timeoutAt k false c.twTimer)

theorem wp_dwTimeout {Q : Unit → Psm β → Prop} {E : Psm β → Prop} (h : Core p)
    (hcnx : p.cnxctx = true) : WP (dwTimeout c k) p Q E ↔ Q () (timedOut c k p) := by
  cases hdw : p.flags.dwPending with
  | false => simp [dwTimeout, timedOut, hdw, wp_sendDwr hcnx, nextTimeout]
  | true => simp [dwTimeout, timedOut, hdw, wp_changeState h, nextTimeout]

/-- `fd_p_dw_reopen` -/
def reopened (p : Psm β) : Psm β :=
  dwrSent (p.withFlags fun f => { f with reopenCnt := 1, cnxPb := false })

theorem wp_dwReopen {Q : Unit → Psm β → Prop} {E : Psm β → Prop} (hcnx : p.cnxctx = true) :
    WP dwReopen p Q E ↔ Q () (reopened p) := by
  rw [dwReopen, wp_bind, wp_modify]
  exact wp_sendDwr hcnx

theorem sameView_withTimer {t : Time} : SameView p (p.withTimer t) :=
  ⟨rfl, rfl, rfl, rfl, rfl, rfl, rfl⟩

theorem timedOut_probe (hdw : p.flags.dwPending = false) :
    SameView (p.withFlags fun f => { f with dwPending := true }) (timedOut c k p) := by
  rw [timedOut, if_neg (by simp [hdw])]
  exact sameView_dwrSent.trans sameView_withTimer

theorem timedOut_suspect (hdw : p.flags.dwPending = true) :
    SameView (moved c .stateSuspect p) (timedOut c k p) := by
  rw [timedOut, if_pos hdw]
  exact sameView_withTimer

/-- A timeout of an open connection. -/
theorem timedOut_move (h : Shape p) (hup : PeerView.up p.state = true) :
    Shape (timedOut c k p) ∧ PeerView.Move .timeout (peerView p) (peerView (timedOut c k p)) := by
  have hcnx := h.up hup
  have hreceiver : p.receiver = none := by
    refine h.unelected ?_
    revert hup
    cases p.state <;> simp [PeerView.up, elects]
  cases hdw : p.flags.dwPending with
  | false =>
    have hsame := timedOut_probe (c := c) (k := k) hdw
    rw [hsame.view]
    exact ⟨(h.withFlags h.count).same hsame, .probe hup hdw⟩
  | true =>
    have hsame := timedOut_suspect (c := c) (k := k) hdw
    have hmoved : Shape (moved c .stateSuspect p) :=
      shape_moved h.toCore (by simp [Diameter.linked, hcnx]) (by simp [hreceiver]) (by simp)
        (by simp)
    have hmove := PeerView.Move.suspect (v := peerView p) hup hdw
    rw [hsame.view]
    exact ⟨hmoved.same hsame, by simpa [peerView] using hmove⟩

theorem sameView_reopened :
    SameView (p.withFlags fun f => { f with dwPending := true, reopenCnt := 1, cnxPb := false })
      (reopened p) :=
  sameView_sentOut

/-! ## Connections -/

/-- "Move to OPEN or REOPEN state" -/
def opened (c : PeerConfig) (k : Clock) (u : Bool) (p : Psm β) : Psm β :=
  if p.flags.cnxPb then reopened (moved c .stateReopen p)
  else if u then timedOut c k (moved c .stateOpenNew p)
  else (moved c .stateOpen p).withTimer (timeoutAt k true c.twTimer)

theorem wp_moveToOpen {u : Bool} {Q : Unit → Psm β → Prop} {E : Psm β → Prop} (h : Core p)
    (hcnx : p.cnxctx = true) :
    WP (moveToOpen c k u) p Q E ↔ Q () (opened c k u p) := by
  have hmoved : ∀ s, (moved c s p).cnxctx = true := fun s => by rw [moved_cnxctx, hcnx]
  simp only [moveToOpen, wp_bind, wp_get, wp_ite, wp_attempt, wp_changeState h fun _ => hcnx,
    opened, wp_dwReopen (hmoved _), wp_dwTimeout (h.moved fun _ => hcnx) (hmoved _), nextTimeout,
    wp_modify]
  split
  · rfl
  · split
    · rfl
    · rfl

/-- The connection is taken into use, whatever the view was before. -/
theorem opened_move {u : Bool} (h : Core p) (hcnx : p.cnxctx = true)
    (hreceiver : p.receiver = none) :
    Shape (opened c k u p) ∧ (opened c k u p).aborted = p.aborted ∧
      ∀ i v, PeerView.Making i v → v.flags = p.flags →
        PeerView.Move i v (peerView (opened c k u p)) := by
  have hmoved : ∀ s, s ≠ .stateClosing → linked s = some true →
      (s = .stateReopen → p.flags.reopenCnt ≠ 0) → Shape (moved c s p) :=
    fun s hclosing hl hcount => shape_moved h (by simp [hl, hcnx]) (by simp [hreceiver]) hcount
      hclosing
  unfold opened
  split
  · rename_i hpb
    have hsame := sameView_reopened (p := moved c .stateReopen p)
    refine ⟨Shape.same ?_ hsame, hsame.aborted.trans moved_aborted, fun i v hv hflags => ?_⟩
    · have hcore := h.moved (c := c) (s := .stateReopen) fun _ => hcnx
      exact ⟨⟨hcore.active, hcore.out, hcore.cnx⟩, by simp [Diameter.linked, hcnx],
        by simp [hreceiver], by simp, by simp⟩
    · have hmove := PeerView.Move.reopens hv (hflags ▸ hpb)
      rw [hsame.view]
      simpa [peerView, hflags, hreceiver, hcnx] using hmove
  · rename_i hpb
    have hpb : p.flags.cnxPb = false := by simpa using hpb
    split
    · have hnew := hmoved .stateOpenNew (by simp) rfl (by simp)
      obtain ⟨hshape, -⟩ := timedOut_move (c := c) (k := k) hnew (by simp [PeerView.up])
      cases hdw : p.flags.dwPending with
      | false =>
        have hsame := timedOut_probe (c := c) (k := k) (p := moved c .stateOpenNew p) (by simpa)
        refine ⟨hshape, hsame.aborted.trans moved_aborted, fun i v hv hflags => ?_⟩
        have hmove := PeerView.Move.opensNew hv (hflags ▸ hpb) (hflags ▸ hdw)
        rw [hsame.view]
        simpa [peerView, hflags, hreceiver, hcnx] using hmove
      | true =>
        have hsame := timedOut_suspect (c := c) (k := k) (p := moved c .stateOpenNew p) (by simpa)
        refine ⟨hshape, hsame.aborted.trans (by simp), fun i v hv hflags => ?_⟩
        have hmove := PeerView.Move.opensSuspect hv (hflags ▸ hpb) (hflags ▸ hdw)
        rw [hsame.view]
        simpa [peerView, hflags, hreceiver, hcnx] using hmove
    · have hsame := sameView_withTimer (p := moved c .stateOpen p)
        (t := timeoutAt k true c.twTimer)
      refine ⟨(hmoved .stateOpen (by simp) rfl (by simp)).same hsame,
        hsame.aborted.trans moved_aborted, fun i v hv hflags => ?_⟩
      have hmove := PeerView.Move.opens hv (hflags ▸ hpb)
      rw [hsame.view]
      simpa [peerView, hflags, hreceiver, hcnx] using hmove

/-- `fd_psm_cleanup` -/
def cleaned (c : PeerConfig) (p : Psm β) : Psm β :=
  ((srOnDisconnect (moved c .stateClosed p)).withCnxctx false).withReceiver none

theorem wp_cleanup {terminate : Bool} {Q : Unit → Psm β → Prop} {E : Psm β → Prop} (h : Core p)
    (hz : p.state ≠ .stateZombie) :
    WP (cleanup c terminate) p Q E ↔
      Q () (if terminate then (cleaned c p).withEvents [] else cleaned c p) := by
  cases terminate with
  | false => simp [cleanup, hz, wp_changeState h, clearCnx, cleaned]
  | true => simp [cleanup, hz, wp_changeState h, clearCnx, cleaned]

theorem shape_cleaned (h : Core p) : Shape (cleaned c p) := by
  obtain ⟨ha, ho⟩ := moved_idle (c := c) (s := .stateClosed) h (by simp)
  have hcore : Core (cleaned c p) := .of_idle (by simp [cleaned, srOnDisconnect])
    (by simpa [cleaned, srOnDisconnect] using ha) (by simpa [cleaned, srOnDisconnect] using ho)
  refine ⟨hcore, ?_, ?_, ?_, ?_⟩
  · simp [cleaned, srOnDisconnect, Diameter.linked]
  · simp [cleaned]
  · simp [cleaned, srOnDisconnect]
  · simp [cleaned, srOnDisconnect]

theorem view_cleaned : peerView (cleaned c p) = ⟨.stateClosed, p.flags, false, false⟩ := by
  simp [peerView, cleaned, srOnDisconnect]

/-- `fd_p_sr_fetch` of the answer `msg`. -/
def fetched (msg : Received) (p : Psm β) : Psm β :=
  let r := p.peer.step (.answer msg.hbhid)
  p.settled (r.1, r.2.map (carried (delivers p.state msg.content)))

theorem wp_fetch {msg : Received} {Q : Bool → Psm β → Prop} {E : Psm β → Prop} :
    WP (fetch msg) p Q E ↔
      Q (!(p.peer.step (.answer msg.hbhid)).2.isEmpty) (fetched msg p) := Iff.rfl

theorem sameView_fetched {msg : Received} : SameView p (fetched msg p) :=
  ⟨rfl, rfl, rfl, rfl, rfl, rfl, rfl⟩

/-- What comes of a connection that can be taken into use. -/
structure Made (p q : Psm β) : Prop where
  shape : Shape q
  aborted : q.aborted = p.aborted
  move : ∀ i v, PeerView.Making i v → v.flags = p.flags → v.state = p.state →
    PeerView.Move i v (peerView q)

theorem Made.of_same {r : Psm β} (h : Made q r) (hs : q.state = p.state) (hf : q.flags = p.flags)
    (ha : q.aborted = p.aborted) : Made p r :=
  ⟨h.shape, h.aborted.trans ha, fun i v hv hflags hvs =>
    h.move i v hv (hflags.trans hf.symm) (hvs.trans hs.symm)⟩

theorem made_opened {u : Bool} (h : Core p) (hcnx : p.cnxctx = true)
    (hreceiver : p.receiver = none) : Made p (opened c k u p) := by
  obtain ⟨hshape, haborted, hmove⟩ := opened_move (c := c) (k := k) (u := u) h hcnx
    hreceiver
  exact ⟨hshape, haborted, fun i v hv hflags _ => hmove i v hv hflags⟩

/-- After a handshake. -/
theorem made_secured (h : Core p) (hcnx : p.cnxctx = true) (hreceiver : p.receiver = none) :
    Made p (opened c k false (moved c .stateOpenHandshake p)) := by
  obtain ⟨hshape, haborted, hmove⟩ := opened_move (c := c) (k := k) (u := false)
    (h.moved (c := c) (s := .stateOpenHandshake) fun _ => hcnx) (by simpa) (by simpa)
  exact ⟨hshape, haborted.trans (by simp), fun i v hv hflags _ =>
    hmove i v hv (by simpa using hflags)⟩

/-- A handshake that fails stops in `STATE_OPEN_HANDSHAKE`. -/
theorem made_handshake (h : Core p) (hreceiver : p.receiver = none) {l : List PsmEvent}
    {b : Bool} :
    Made p (((moved c .stateOpenHandshake p).withCnxctx b).withEvents l) := by
  obtain ⟨ha, ho⟩ := moved_idle (c := c) (s := .stateOpenHandshake) h (by simp)
  refine ⟨⟨.of_idle (by simp) ha ho, ?_, ?_, ?_, ?_⟩, by simp, fun i v hv hflags _ => ?_⟩
  · simp [Diameter.linked]
  · simp [hreceiver]
  · simp
  · simp
  · have hmove := PeerView.Move.handshake hv b
    simpa [peerView, hflags, hreceiver] using hmove

theorem wp_processHandshake {cer : Cer} (h : Core p) (hcnx : p.cnxctx = true)
    (hreceiver : p.receiver = none) :
    WP (processHandshake c k cer) p (fun _ => Made p) (SameView p) := by
  unfold processHandshake
  split
  · rw [wp_bind, wp_check]
    split
    · rw [wp_moveToOpen h hcnx]
      exact made_opened h hcnx hreceiver
    · exact .refl p
  · have hq := h.moved (c := c) (s := .stateOpenHandshake) fun _ => hcnx
    have hcnxq : (moved c .stateOpenHandshake p).cnxctx = true := by simpa
    simp only [wp_bind, wp_attempt, wp_changeState h fun _ => hcnx, wp_get, wp_ite]
    split
    · simp only [ceCleanup, clearCnx, eventSend, wp_bind, wp_modify]
      exact made_handshake h hreceiver
    · split
      · simp only [eventSend, wp_modify]
        have hmade := made_handshake (c := c) (b := true) h hreceiver
          (l := (moved c .stateOpenHandshake p).events ++ [.terminate (some notFriend)])
        rw [← hcnxq] at hmade
        exact hmade
      · rw [wp_moveToOpen hq hcnxq]
        exact made_secured h hcnx hreceiver

/-- The states in which a CER or CEA is looked at. -/
def exchanges : PeerState → Bool
  | .stateClosed | .stateWaitcea | .stateWaitcnxackElec => true
  | _ => false

theorem exchanges_ne {s : PeerState} (hs : exchanges s = true) :
    s ≠ .stateOpen ∧ s ≠ .stateZombie ∧ s ≠ .stateReopen ∧ s ≠ .stateClosing ∧
      linked s ≠ some true := by
  revert hs
  cases s <;> simp [exchanges, Diameter.linked]

/-- The connection is not taken into use, and not given up. -/
def stalled (p : Psm β) : Psm β := (p.withReceiver none).withCnxctx true

/-- A capabilities exchange that is refused leaves the peer as it was, without a connection. -/
theorem made_cleanup {l : List PsmEvent} (h : Core p) (hreceiver : p.receiver = none)
    (hs : exchanges p.state = true) : Made p ((p.withCnxctx false).withEvents l) := by
  obtain ⟨hopen, -, hreopen, hclosing, hlinked⟩ := exchanges_ne hs
  obtain ⟨ha, ho⟩ := h.idle hopen
  refine ⟨⟨.of_idle hopen ha ho, fun b hb => ?_, by simp [hreceiver], fun he => absurd he hreopen,
    hclosing⟩, rfl, fun i v hv hflags hvs => ?_⟩
  · cases b with
    | false => rfl
    | true => exact absurd hb hlinked
  · have hmove := PeerView.Move.refuse hv
    simpa [peerView, hreceiver, ← hvs, ← hflags] using hmove

theorem wp_answerReceiver {cer : Cer} (h : Core p) (hcnx : p.cnxctx = true)
    (hreceiver : p.receiver = none) (hs : exchanges p.state = true) :
    WP (answerReceiver c k cer) p (fun _ => Made p) (SameView p) := by
  unfold answerReceiver
  split
  · simp only [ceCleanup, clearCnx, eventSend, wp_bind, wp_modify]
    exact made_cleanup h hreceiver hs
  · have hsame : SameView p (sentOut (.answer false) p) := sameView_sentOut
    simp only [wp_bind, wp_outSend, hcnx, Bool.or_true, if_true]
    refine (wp_processHandshake (h.same hsame) (hsame.cnxctx.trans hcnx)
      (hsame.receiver.trans hreceiver)).mono (fun _ r hr => ?_) fun r hr => hsame.trans hr
    exact hr.of_same hsame.state hsame.flags hsame.aborted

theorem SameView.stalled (h : SameView p q) : SameView (stalled p) (stalled q) :=
  ⟨h.state, h.flags, rfl, rfl, h.active, h.outthr, h.aborted⟩

theorem wp_validate {cer : Cer} {Q : Int → Psm β → Prop} {E : Psm β → Prop}
    (hQ : ∀ res q, SameView p q → Q res q) : WP (validate cer) p Q E := by
  simp only [validate, wp_bind, wp_get, wp_ite, wp_modify, wp_pure]
  split
  · exact hQ _ _ ⟨rfl, rfl, rfl, rfl, rfl, rfl, rfl⟩
  · exact hQ 0 p (.refl p)

theorem wp_examineReceiver {cer : Cer} (h : Core p) (hcnx : p.cnxctx = true)
    (hreceiver : p.receiver = none) (hs : exchanges p.state = true) :
    WP (examineReceiver c k cer) p (fun _ => Made p) (SameView p) := by
  have hcleanup : ∀ q, SameView p q → WP (ceCleanup false) q (fun _ => Made p) (SameView p) := by
    intro q hq
    simp only [ceCleanup, clearCnx, eventSend, wp_bind, wp_modify]
    exact (made_cleanup (h.same hq) (hq.receiver.trans hreceiver) (by rwa [hq.state])).of_same
      hq.state hq.flags hq.aborted
  have hsaved : SameView p ((p.withOrstate cer.orstate).withLastDC 0) :=
    ⟨rfl, rfl, rfl, rfl, rfl, rfl, rfl⟩
  simp only [examineReceiver, saveRemoteCeInfo, wp_bind, wp_modify, wp_ite]
  split
  · exact hcleanup _ hsaved
  · refine wp_validate fun res q hq => ?_
    have hq := hsaved.trans hq
    split
    · exact hcleanup q hq
    · rw [wp_check]
      split
      · exact (wp_answerReceiver (h.same hq) (hq.cnxctx.trans hcnx) (hq.receiver.trans hreceiver)
          (by rwa [hq.state])).mono (fun _ r hr => hr.of_same hq.state hq.flags hq.aborted)
          fun r hr => hq.trans hr
      · exact hq

/-- `fd_p_ce_process_receiver`. Where it fails it has done nothing, or the connection of the CER
is left over. -/
theorem wp_processReceiver (h : Core p) (hs : exchanges p.state = true) :
    WP (processReceiver c k) p (fun _ q => p.cnxctx = false ∧ Made p q)
      fun q => SameView p q ∨ SameView (stalled p) q := by
  have hopen := (exchanges_ne hs).1
  obtain ⟨ha, ho⟩ := h.idle hopen
  simp only [processReceiver, setPeerReceiver, wp_bind, wp_get, wp_check, wp_modify, wp_pure]
  split
  · rename_i hcnx
    have hcnx : p.cnxctx = false := by simpa using hcnx
    cases hr : p.receiver with
    | none => exact .inl ⟨rfl, rfl, hr.symm, hcnx.symm, rfl, rfl, rfl⟩
    | some cer =>
      rw [Option.any_some]
      split
      · exact (wp_examineReceiver (p := stalled p) (.of_idle hopen ha ho) rfl rfl hs).mono
          (fun _ q hq => ⟨hcnx, hq.of_same rfl rfl rfl⟩) fun q hq => .inr hq
      · exact .inr (.refl (stalled p))
  · exact .inl (.refl p)

/-- What a turn does that goes on with the loop. -/
structure Follows (i : PeerInput) (p q : Psm β) : Prop where
  shape : Shape q
  aborted : q.aborted = p.aborted
  move : PeerView.Move i (peerView p) (peerView q)

theorem Made.follows {i : PeerInput} {r : Psm β} (h : Made q r) (ha : q.aborted = p.aborted)
    (hv : PeerView.Making i (peerView p)) (hflags : q.flags = p.flags) (hs : q.state = p.state) :
    Follows i p r :=
  ⟨h.shape, h.aborted.trans ha, h.move i _ hv hflags.symm hs.symm⟩

theorem SameView.stays {i : PeerInput} (hsame : SameView p q) (h : Shape p) (hi : i ≠ .timeout)
    (hw : p.state = .stateReopen → ∀ r, i ≠ .watchdog r) : Follows i p q :=
  ⟨h.same hsame, hsame.aborted, by rw [hsame.view]; exact .stay hi hw⟩

/-- `to_waitcea`. Where it fails there is a connection all the same. -/
theorem wp_toWaitcea {readable : Bool} (h : Core p) (hs : p.state ≠ .stateOpen)
    (hreceiver : p.receiver = none) :
    WP (toWaitcea c k readable) p
      (fun _ q => Shape q ∧ q.aborted = p.aborted ∧ p.cnxctx = false ∧
        peerView q = ⟨.stateWaitcea, p.flags, false, true⟩)
      (SameView (stalled p)) := by
  obtain ⟨ha, ho⟩ := h.idle hs
  have hcore : Core (p.withCnxctx true) := .of_idle hs ha ho
  simp only [toWaitcea, nextTimeout, wp_bind, wp_get, wp_check, wp_modify,
    wp_changeState hcore (s := .stateWaitcea) (by simp)]
  cases hcnx : p.cnxctx with
  | true => exact ⟨rfl, rfl, hreceiver, hcnx, rfl, rfl, rfl⟩
  | false =>
    cases readable with
    | false => exact ⟨rfl, rfl, hreceiver, rfl, rfl, rfl, rfl⟩
    | true =>
      have hmoved : Shape (moved c .stateWaitcea (p.withCnxctx true)) :=
        shape_moved hcore (by simp [Diameter.linked]) (by simp [hreceiver]) (by simp) (by simp)
      refine ⟨hmoved.same sameView_withTimer, by simp, rfl, ?_⟩
      simp [peerView, hreceiver]

/-- A connection that cannot be used is left over. -/
theorem stalled_follows (h : Shape p)
    (hs : p.state = .stateWaitcnxack ∨ p.state = .stateWaitcnxackElec)
    (hq : SameView (stalled p) q) : Follows .established p q := by
  have hopen : p.state ≠ .stateOpen := by rintro he; simp [he] at hs
  obtain ⟨ha, ho⟩ := h.idle hopen
  have hshape : Shape (stalled p) := by
    refine ⟨.of_idle hopen ha ho, ?_, by simp [stalled], h.count, h.closing⟩
    rcases hs with hs | hs <;> simp [stalled, hs, Diameter.linked]
  refine ⟨hshape.same hq, hq.aborted, ?_⟩
  rw [hq.view]
  exact .stall hs

/-- `FDEVP_CNX_ESTABLISHED` where a connection is wanted. -/
theorem wp_handleNewcnx {readable : Bool} (h : Shape p)
    (hs : p.state = .stateWaitcnxack ∨ p.state = .stateWaitcnxackElec) :
    WP (handleNewcnx c k readable) p (fun _ => Follows .established p)
      (Follows .established p) := by
  have hopen : p.state ≠ .stateOpen := by rintro he; simp [he] at hs
  have hsame : SameView p (sentOut (.request (linkLocal .cer)) p) := sameView_sentOut
  -- The CEA is waited for; a CER that was there has its answer.
  have hwait : ∀ q, SameView (p.withReceiver none) q →
      WP (toWaitcea c k readable) q (fun _ => Follows .established p)
        (Follows .established p) := by
    intro q hq
    have hcore : Core q := h.toCore.congr hq.state hq.active hq.outthr hq.cnxctx
    refine (wp_toWaitcea hcore (by rwa [hq.state]) hq.receiver).mono (fun _ r hr => ?_)
      fun r hr => ?_
    · obtain ⟨hshape, haborted, hcnx, hview⟩ := hr
      refine ⟨hshape, haborted.trans hq.aborted, ?_⟩
      rw [hview, hq.flags]
      exact .await hs (hq.cnxctx.symm.trans hcnx)
    · exact stalled_follows h hs (hq.stalled.trans hr)
  simp only [handleNewcnx, wp_bind, wp_outSend, Bool.true_or, if_true, wp_get, wp_ite, wp_modify,
    hsame.state]
  split
  · rename_i helec
    split
    · refine (wp_processReceiver (h.toCore.same hsame)
        (by rw [hsame.state, helec]; rfl)).mono (fun _ r hr => ?_) fun r hr => ?_
      · exact hr.2.follows hsame.aborted ⟨helec, hsame.cnxctx.symm.trans hr.1⟩ hsame.flags
          hsame.state
      · rcases hr with hr | hr
        · exact (hsame.trans hr).stays h (by simp) (by simp [helec])
        · exact stalled_follows h hs (hsame.stalled.trans hr)
    · exact hwait _ ⟨hsame.state, hsame.flags, rfl, hsame.cnxctx, hsame.active, hsame.outthr,
        hsame.aborted⟩
  · rename_i helec
    have hack : p.state = .stateWaitcnxack := hs.resolve_right helec
    have hreceiver := h.unelected (by rw [hack]; rfl)
    exact hwait _ ⟨hsame.state, hsame.flags, hsame.receiver.trans hreceiver, hsame.cnxctx,
      hsame.active, hsame.outthr, hsame.aborted⟩

/-- Where a turn goes to `psm_reset` or `psm_end`. -/
structure Stops (p q : Psm β) : Prop where
  core : Core q
  alive : q.state ≠ .stateZombie
  aborted : q.aborted = p.aborted
  flags : q.flags = p.flags

theorem SameView.stops (hsame : SameView p q) (h : Core p) (hz : p.state ≠ .stateZombie) :
    Stops p q :=
  ⟨h.same hsame, by rwa [hsame.state], hsame.aborted, hsame.flags⟩

/-- What a CER that cannot be answered leaves behind. -/
theorem stops_of_unanswered (h : Core p) (hs : exchanges p.state = true)
    (hq : SameView p q ∨ SameView (stalled p) q) : Stops p q := by
  obtain ⟨hopen, hz, -⟩ := exchanges_ne hs
  rcases hq with hq | hq
  · exact hq.stops h hz
  · obtain ⟨ha, ho⟩ := h.idle hopen
    exact ⟨.of_idle (by rwa [hq.state]) (hq.active.trans ha) (hq.outthr.trans ho),
      by rwa [hq.state], hq.aborted, hq.flags⟩

/-- `fd_p_ce_handle_newCER` -/
theorem wp_handleNewCER {cer : Cer} (h : Shape p) :
    WP (handleNewCER c k cer) p (fun _ => Follows .incoming p)
      fun q => Stops p q ∧ PeerView.Ends .incoming (peerView p) := by
  simp only [handleNewCER, wp_bind, wp_get]
  split
  · rename_i hs
    have hcore : Core (p.withReceiver (some cer)) := ⟨h.active, h.out, h.cnx⟩
    simp only [wp_bind, wp_modify]
    have hexchanges : exchanges p.state = true := by rw [hs]; rfl
    refine (wp_processReceiver hcore hexchanges).mono (fun _ r hr => ?_) fun r hr => ?_
    · exact hr.2.follows rfl (.inl hs) rfl rfl
    · have hstops := stops_of_unanswered hcore hexchanges hr
      exact ⟨⟨hstops.core, hstops.alive, hstops.aborted, hstops.flags⟩, .inl hs⟩
  · rename_i hs
    have hcore : Core (p.withReceiver (some cer)) := ⟨h.active, h.out, h.cnx⟩
    simp only [wp_bind, wp_modify, wp_changeState hcore (s := .stateWaitcnxackElec) (by simp)]
    refine ⟨shape_moved hcore (by simp [Diameter.linked]) (by simp [elects]) (by simp) (by simp),
      by simp, ?_⟩
    have hmove := PeerView.Move.elect (v := peerView p) hs
    simpa [peerView] using hmove
  · rename_i hs
    obtain ⟨ha, ho⟩ := h.idle (by simp [hs])
    have hcore : Core ((p.withCnxctx false).withReceiver (some cer)) :=
      .of_idle (by simp [hs]) ha ho
    simp only [wp_whenever, clearCnx, wp_bind, wp_modify]
    split
    · have hexchanges : exchanges p.state = true := by rw [hs]; rfl
      refine (wp_processReceiver hcore hexchanges).mono (fun _ r hr => ?_) fun r hr => ?_
      · exact hr.2.follows rfl (.inr hs) rfl rfl
      · have hstops := stops_of_unanswered hcore hexchanges hr
        exact ⟨⟨hstops.core, hstops.alive, hstops.aborted, hstops.flags⟩, .inr hs⟩
    · exact (SameView.refl p).stays h (by simp) (by simp [hs])
  · exact (SameView.refl p).stays h (by simp) (by simp)

/-- A CEA that is accepted. -/
theorem wp_ceaAccepted {cea : Cea} (h : Shape p) (hs : p.state = .stateWaitcea) :
    WP (ceaAccepted c k cea) p (fun _ => Made p) (Stops p) := by
  have hreceiver := h.unelected (by rw [hs]; rfl)
  simp only [ceaAccepted, wp_bind, wp_get]
  split
  · rename_i ok _
    simp only [wp_bind, wp_check]
    split
    · rename_i hok
      obtain ⟨-, hcnx⟩ : ok = true ∧ p.cnxctx = true := by simpa using hok
      rw [wp_moveToOpen h.toCore hcnx]
      exact made_opened h.toCore hcnx hreceiver
    · exact (SameView.refl p).stops h.toCore (by simp [hs])
  · simp only [ceCleanup, clearCnx, eventSend, wp_bind, wp_modify]
    exact made_cleanup h.toCore hreceiver (by rw [hs]; rfl)
  · rename_i ok cred _
    have hcore := h.toCore.moved (c := c) (s := .stateOpenHandshake) (by simp)
    simp only [wp_bind, wp_attempt, wp_changeState h.toCore (s := .stateOpenHandshake) (by simp),
      wp_ite, wp_check]
    split
    · rename_i hok
      obtain ⟨-, hcnx⟩ : ok = true ∧ p.cnxctx = true := by simpa using hok
      split
      · rw [wp_moveToOpen hcore (by simpa)]
        exact made_secured h.toCore hcnx hreceiver
      · exact ⟨hcore, by simp, moved_aborted, moved_flags⟩
    · simp only [ceCleanup, clearCnx, eventSend, wp_bind, wp_modify]
      exact made_handshake h.toCore hreceiver

theorem cleaned_closes {i : PeerInput} {t : Time} (hq : Stops p q)
    (hi : PeerView.Closes i (peerView p)) : Follows i p ((cleaned c q).withTimer t) := by
  refine ⟨(shape_cleaned hq.core).same sameView_withTimer, ?_, ?_⟩
  · have haborted : (cleaned c q).aborted = q.aborted := by simp [cleaned, srOnDisconnect]
    exact haborted.trans hq.aborted
  · rw [sameView_withTimer.view, view_cleaned, hq.flags]
    exact .closes hi

/-- `fd_p_ce_msgrcv` -/
theorem wp_ceMsgrcv {req : Bool} {cea : Cea} (h : Shape p) (hz : p.state ≠ .stateZombie) :
    WP (ceMsgrcv c k req cea) p (fun _ => Follows .other p) (Stops p) := by
  have hstay := (SameView.refl p).stays (i := .other) h (by simp) (by simp)
  simp only [ceMsgrcv, wp_ite]
  split
  · simp only [wp_attempt, wp_outSend]
    split
    · exact sameView_sentOut.stays h (by simp) (by simp)
    · exact hstay
  · simp only [wp_bind, wp_get, wp_whenever, saveRemoteCeInfo, wp_modify, wp_ite, wp_check]
    split
    · rename_i hs
      have hs : p.state = .stateWaitcea := by simpa using hs
      have hsame : SameView p ((p.withOrstate cea.orstate).withLastDC 0) :=
        ⟨rfl, rfl, rfl, rfl, rfl, rfl, rfl⟩
      have hq := h.same hsame
      split
      · simp only [ceCleanup, clearCnx, eventSend, wp_bind, wp_modify]
        have hmade := made_cleanup (l := p.events ++ [.cnxError]) hq.toCore
          (hq.unelected (by rw [hsame.state, hs]; rfl)) (by rw [hsame.state, hs]; rfl)
        exact hmade.follows rfl hs rfl rfl
      · split
        · refine (wp_ceaAccepted hq hs).mono (fun _ r hr => ?_) fun r hr => ?_
          · exact hr.follows rfl hs rfl rfl
          · exact ⟨hr.core, hr.alive, hr.aborted, hr.flags⟩
        · split
          · simp only [wp_cleanup hq.toCore (by simp [hs]), nextTimeout, wp_modify]
            exact cleaned_closes (hsame.stops h.toCore hz) trivial
          · split
            · exact hsame.stays h (by simp) (by simp)
            · exact hsame.stops h.toCore hz
    · exact hstay

/-! ## Watchdogs and disconnections -/

theorem wp_checkStateId {osi : Option UInt32} :
    WP (checkStateId osi) p (fun _ => SameView p) (SameView p) := by
  cases osi with
  | none => exact .refl p
  | some osi =>
    simp only [checkStateId, wp_bind, wp_modify, wp_get, wp_check, ite_self]
    exact ⟨rfl, rfl, rfl, rfl, rfl, rfl, rfl⟩

/-- A watchdog in `STATE_REOPEN`; `q` is the peer when its flag is up to date. -/
theorem wp_dwCount {req : Bool} (h : Shape p) (hs : p.state = .stateReopen)
    (hq : SameView (p.withFlags fun f => { f with dwPending := req && f.dwPending }) q) :
    WP (dwCount c) q (fun _ => Follows (.watchdog req) p) fun _ => False := by
  have hcnx : q.cnxctx = true := hq.cnxctx.trans (h.up (by rw [hs]; rfl))
  have hreceiver := h.unelected (by rw [hs]; rfl)
  have hcore : Core (q.withFlags fun f => { f with reopenCnt := f.reopenCnt + 1 }) := by
    have hcore := (h.withFlags (f := fun f => { f with dwPending := req && f.dwPending })
      h.count).toCore.same hq
    exact ⟨hcore.active, hcore.out, hcore.cnx⟩
  have hcnt : q.flags.reopenCnt = p.flags.reopenCnt := by rw [hq.flags]; rfl
  simp only [dwCount, wp_bind, wp_modify, wp_get, wp_ite, withFlags_flags, hcnt]
  split
  · rename_i hne
    rw [wp_sendDwr (by simpa using hcnx)]
    have hsame := sameView_dwrSent
      (p := q.withFlags fun f => { f with reopenCnt := f.reopenCnt + 1 })
    have hshape : Shape (q.withFlags fun f => { f with reopenCnt := f.reopenCnt + 1 }) :=
      ⟨hcore, by simp [hq.state, hs, Diameter.linked, hcnx], by simp [hq.receiver, hreceiver],
        fun _ => by simpa [hcnt] using hne, by simp [hq.state, hs]⟩
    refine ⟨(hshape.withFlags hshape.count).same hsame, hsame.aborted.trans hq.aborted, ?_⟩
    · rw [hsame.view]
      have hmove := PeerView.Move.count (r := req) (v := peerView p) hs hne
      simpa [peerView, hq.state, hq.flags, hq.receiver, hq.cnxctx] using hmove
  · rename_i hzero
    have hzero : p.flags.reopenCnt + 1#2 = 0#2 := by simpa using hzero
    rw [wp_changeState hcore (by simpa using hcnx)]
    refine ⟨shape_moved hcore (by simp [Diameter.linked, hcnx]) (by simp [hq.receiver, hreceiver])
      (by simp) (by simp), by simp [hq.aborted], ?_⟩
    have hmove := PeerView.Move.restore (r := req) (v := peerView p) hs hzero
    simpa [peerView, hq.state, hq.flags, hq.receiver, hq.cnxctx, hzero] using hmove

/-- `fd_p_dw_handle` -/
theorem wp_dwHandle {req : Bool} {osi : Option UInt32} (h : Shape p) (hz : p.state ≠ .stateZombie)
    (hnew : p.state ≠ .stateOpenNew) :
    WP (dwHandle c k req osi) p (fun _ => Follows (.watchdog req) p) (Stops p) := by
  rw [dwHandle, wp_bind]
  refine wp_checkStateId.mono (fun _ q hq => ?_) fun q hq => hq.stops h.toCore hz
  -- The flag is up to date, and the timer may be new.
  have hrest : ∀ r, SameView (p.withFlags fun f => { f with dwPending := req && f.dwPending }) r →
      WP (whenever (r.state = .stateReopen) (dwCount c)) r (fun _ => Follows (.watchdog req) p)
        (Stops p) := by
    intro r hr
    rw [wp_whenever]
    split
    · rename_i hs
      refine (wp_dwCount h ?_ hr).mono (fun _ _ hf => hf) fun _ hf => hf.elim
      simpa [hr.state] using hs
    · rename_i hs
      have hs : p.state ≠ .stateReopen := by simpa [hr.state] using hs
      refine ⟨(h.withFlags h.count).same hr, hr.aborted, ?_⟩
      have hmove := PeerView.Move.watch (r := req) (v := peerView p) hs
      rw [hr.view]
      simpa [peerView, PeerView.confirmed, hnew] using hmove
  have htimer : ∀ r, SameView (p.withFlags fun f => { f with dwPending := req && f.dwPending }) r →
      WP (do
        let p ← get
        whenever (if req then !p.flags.dwPending else true) (nextTimeout k true c.twTimer)
        whenever (p.state = .stateReopen) (dwCount c)) r (fun _ => Follows (.watchdog req) p)
        (Stops p) := by
    intro r hr
    rw [wp_bind, wp_get, wp_bind]
    generalize (if req then !r.flags.dwPending else true) = reset
    cases reset with
    | false => exact hrest r hr
    | true =>
      rw [wp_whenever, if_pos rfl, nextTimeout, wp_modify]
      exact hrest (r.withTimer (timeoutAt k true c.twTimer)) (hr.trans sameView_withTimer)
  cases req with
  | false =>
    refine htimer (q.withFlags fun f => { f with dwPending := false }) ?_
    exact ⟨hq.state, by simp [hq.flags], hq.receiver, hq.cnxctx, hq.active, hq.outthr, hq.aborted⟩
  | true =>
    simp only [if_true]
    rw [wp_bind, wp_outSend]
    split
    · refine htimer _ (SameView.trans ?_ sameView_sentOut)
      exact ⟨hq.state, by simp [hq.flags], hq.receiver, hq.cnxctx, hq.active, hq.outthr, hq.aborted⟩
    · exact hq.stops h.toCore hz

/-- The start of a grace period. -/
theorem grace_follows {i : PeerInput} {msg : Outgoing β} (h : Shape p) (hq : SameView p q)
    (hcnx : p.cnxctx = true)
    (hi : i = .terminate ∧ PeerView.up p.state = true ∨ i = .other) {t : Time} :
    Follows i p (sentOut msg ((moved c .stateClosingGrace q).withTimer t)) := by
  have hmoved : Shape (moved c .stateClosingGrace q) :=
    shape_moved (h.toCore.same hq) (by simp [Diameter.linked, hq.cnxctx, hcnx]) (by simp [elects])
      (by simp) (by simp)
  have hsame : SameView (moved c .stateClosingGrace q)
      (sentOut msg ((moved c .stateClosingGrace q).withTimer t)) :=
    sameView_withTimer.trans sameView_sentOut
  refine ⟨hmoved.same hsame, hsame.aborted.trans (by simp [hq.aborted]), ?_⟩
  rw [hsame.view]
  have hmove := PeerView.Move.grace (v := peerView p) hi hcnx
  simpa [peerView, hq.flags, hq.receiver, hq.cnxctx] using hmove

/-- `fd_p_dp_initiate` -/
theorem wp_dpInitiate {reason : Option UInt32} (h : Shape p) (hup : PeerView.up p.state = true) :
    WP (dpInitiate c k reason) p (fun _ => Follows .terminate p) fun _ => False := by
  have hsame : SameView p (p.withLastDC (reason.getD 0)) := ⟨rfl, rfl, rfl, rfl, rfl, rfl, rfl⟩
  have hcnx := h.up hup
  simp only [dpInitiate, nextTimeout, wp_bind, wp_modify, wp_attempt,
    wp_changeState (h.toCore.same hsame) (s := .stateClosingGrace) (by simp), wp_outSend,
    withTimer_cnxctx, moved_cnxctx, withLastDC_cnxctx, hcnx, Bool.or_true, if_true]
  exact grace_follows h hsame hcnx (.inl ⟨rfl, hup⟩)

/-- `fd_p_dp_handle`: after a DPA the machine ends in `STATE_CLOSING`. -/
theorem wp_dpHandle {req : Bool} {dc : Option UInt32} (h : Shape p)
    (hnew : p.state ≠ .stateOpenNew) :
    WP (dpHandle c k req dc) p
      (fun _ q => Follows (if req then .other else .dpa) p q ∨
        req = false ∧ q.state = .stateClosing ∧ Stops p q)
      fun q => req = true ∧ Stops p q := by
  cases req with
  | false =>
    simp only [dpHandle, wp_bind, wp_get, wp_ite, nextTimeout, wp_modify, if_false,
      Bool.false_eq_true]
    split
    · rw [wp_changeState h.toCore (by simp)]
      exact .inr ⟨trivial, moved_state, h.toCore.moved (by simp), by simp, moved_aborted,
        moved_flags⟩
    · refine .inl ⟨(h.same sameView_withTimer).withFlags h.count, rfl, ?_⟩
      have hmove := PeerView.Move.defer (v := peerView p)
      simpa [peerView, PeerView.confirmed, hnew] using hmove
  | true =>
    have hsame : SameView p (p.withLastDC (dc.getD p.lastDC)) := ⟨rfl, rfl, rfl, rfl, rfl, rfl, rfl⟩
    have hcore := h.toCore.same hsame
    simp only [dpHandle, wp_bind, wp_get, wp_ite, nextTimeout, wp_modify, if_true]
    split
    · have hclosing : Stops p (moved c .stateClosing (p.withLastDC (dc.getD p.lastDC))) :=
        ⟨hcore.moved (by simp), by simp, by simp, by simp⟩
      simp only [wp_changeState hcore (s := .stateClosing) (by simp), wp_outSend]
      split
      · have hsent : SameView _ (sentOut (.answer false)
          (moved c .stateClosing (p.withLastDC (dc.getD p.lastDC)))) := sameView_sentOut
        have hstops : Stops p (sentOut (.answer false)
            (moved c .stateClosing (p.withLastDC (dc.getD p.lastDC)))) :=
          ⟨hclosing.core.same hsent, by rw [hsent.state]; exact hclosing.alive,
            hsent.aborted.trans hclosing.aborted, hsent.flags.trans hclosing.flags⟩
        rw [wp_cleanup hstops.core hstops.alive]
        exact .inl (cleaned_closes hstops trivial)
      · exact ⟨trivial, hclosing⟩
    · simp only [wp_changeState hcore (s := .stateClosingGrace) (by simp), wp_outSend,
        withTimer_cnxctx, moved_cnxctx, withLastDC_cnxctx, Bool.false_or]
      split
      · rename_i hcnx
        exact .inl (grace_follows h hsame hcnx (.inr rfl))
      · refine ⟨trivial, (hcore.moved (by simp)).same sameView_withTimer, by simp, by simp, by simp⟩

end Twag.Proof.Diameter

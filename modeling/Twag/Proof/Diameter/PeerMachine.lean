import Twag.Proof.Diameter.PeerFunctions

/-!
# The peer state machine follows its table

`wp_handle` and `wp_react` put the functions together: a turn that reads an
input makes one of the moves of the table for it. The steps of the other
threads leave the view as it is.

* `table_followed`: in every interleaving of the threads, what a peer is made
  of goes with its state, every step follows the table, a connection is left
  over only where one was made, and an assertion fails only where a handshake
  has.
-/

namespace Twag.Proof.Diameter

open Twag.Impl (Time)
open Twag.Impl.Diameter Twag.Spec Fallible
open Psm

variable {β : Type} {c : PeerConfig} {k : Clock} {p q : Psm β}

/-! ## Turns -/

/-- What the handling of an input leaves to the rest of the turn. -/
def Handled (i : PeerInput) (p : Psm β) : Goto → Psm β → Prop
  | .psmLoop, q => Follows i p q
  | .psmReset, q =>
    ∃ r, Stops r q ∧ r.aborted = p.aborted ∧
      (r.flags = p.flags ∧ PeerView.Closes i (peerView p) ∨
        r.flags = { p.flags with cnxPb := true } ∧ PeerView.Breaks i (peerView p))
  | .psmEnd, q => Stops p q ∧ PeerView.Ends i (peerView p)

theorem closes_of_confirmed {i : PeerInput} {v : PeerView} (hv : v.state = .stateOpenNew)
    (hi : i ≠ .timeout) (h : PeerView.Closes i v.confirmed) : PeerView.Closes i v := by
  cases i with
  | timeout => exact absurd rfl hi
  | broken => simp [PeerView.Closes, PeerView.confirmed, hv] at h
  | failed => simp [PeerView.Closes, PeerView.confirmed, hv] at h
  | terminate => exact h
  | dpa => exact h
  | watchdog r => exact h
  | incoming => exact h
  | established => exact h
  | other => exact h

theorem ends_of_confirmed {i : PeerInput} {v : PeerView} (hv : v.state = .stateOpenNew)
    (hi : i ≠ .timeout) (h : PeerView.Ends i v.confirmed) : PeerView.Ends i v := by
  cases i with
  | timeout => exact absurd rfl hi
  | broken => simp [PeerView.Ends, PeerView.confirmed, hv] at h
  | terminate => simp [PeerView.Ends, PeerView.confirmed, hv, PeerView.up] at h
  | dpa => exact h
  | watchdog r => exact h
  | incoming => simp [PeerView.Ends, PeerView.confirmed, hv] at h
  | established => exact h
  | failed => simp [PeerView.Ends, PeerView.confirmed, hv] at h
  | other => exact h

theorem breaks_of_confirmed {i : PeerInput} {v : PeerView} (hv : v.state = .stateOpenNew)
    (h : PeerView.Breaks i v.confirmed) : PeerView.Breaks i v := by
  cases i <;> simp_all [PeerView.Breaks, PeerView.confirmed]

/-- In `STATE_OPEN_NEW` an input does what it does in `STATE_OPEN`. -/
theorem move_of_confirmed {i : PeerInput} {v w : PeerView} (hv : v.state = .stateOpenNew)
    (hi : i ≠ .timeout) (h : PeerView.Move i v.confirmed w) : PeerView.Move i v w := by
  have hopen : v.confirmed.state = .stateOpen := by simp [PeerView.confirmed, hv]
  have hmaking : ¬ PeerView.Making i v.confirmed := by cases i <;> simp [PeerView.Making, hopen]
  cases h with
  | stay hi hw => simpa [PeerView.confirmed, hv] using PeerView.Move.confirm hi hv
  | confirm hi hv' => simp [hopen] at hv'
  | connect hv' => simp [hopen] at hv'
  | elect hv' => simp [hopen] at hv'
  | await hv' => simp [hopen] at hv'
  | stall hv' => simp [hopen] at hv'
  | refuse hv' => exact absurd hv' hmaking
  | opens hv' => exact absurd hv' hmaking
  | opensNew hv' => exact absurd hv' hmaking
  | opensSuspect hv' => exact absurd hv' hmaking
  | reopens hv' => exact absurd hv' hmaking
  | handshake hv' => exact absurd hv' hmaking
  | @watch r v' hv' =>
    simpa [PeerView.confirmed, hv] using PeerView.Move.watch (r := r) (v := v) (by simp [hv])
  | count hv' => simp [hopen] at hv'
  | restore hv' => simp [hopen] at hv'
  | probe => exact absurd rfl hi
  | suspect => exact absurd rfl hi
  | breaks hv' => exact .breaks (breaks_of_confirmed hv hv')
  | closes hv' => exact .closes (closes_of_confirmed hv hi hv')
  | resets hv' => exact .resets (closes_of_confirmed hv hi hv')
  | grace hi' hc => exact .grace (hi'.imp (fun h => ⟨h.1, by rw [hv]; rfl⟩) id) hc
  | defer => simpa [PeerView.confirmed, hv] using PeerView.Move.defer (v := v)
  | ends hv' => exact .ends (ends_of_confirmed hv hi hv')

theorem Handled.of_confirmed {i : PeerInput} {next : Goto} {r : Psm β}
    (hs : p.state = .stateOpenNew) (hi : i ≠ .timeout) (haborted : q.aborted = p.aborted)
    (hview : peerView q = (peerView p).confirmed) (h : Handled i q next r) :
    Handled i p next r := by
  have hflags : q.flags = p.flags := congrArg PeerView.flags hview
  cases next with
  | psmLoop =>
    exact ⟨h.shape, h.aborted.trans haborted, move_of_confirmed hs hi (hview ▸ h.move)⟩
  | psmReset =>
    obtain ⟨r', hstops, hr', hreason⟩ := h
    refine ⟨r', hstops, hr'.trans haborted, ?_⟩
    rw [hflags, hview] at hreason
    exact hreason.imp (fun h => ⟨h.1, closes_of_confirmed hs hi h.2⟩)
      fun h => ⟨h.1, breaks_of_confirmed hs h.2⟩
  | psmEnd =>
    obtain ⟨hstops, hends⟩ := h
    exact ⟨⟨hstops.core, hstops.alive, hstops.aborted.trans haborted, hstops.flags.trans hflags⟩,
      ends_of_confirmed hs hi (hview ▸ hends)⟩

theorem Handled.of_view {i : PeerInput} {next : Goto} {r : Psm β}
    (haborted : q.aborted = p.aborted) (hview : peerView q = peerView p) (h : Handled i q next r) :
    Handled i p next r := by
  have hflags : q.flags = p.flags := congrArg PeerView.flags hview
  cases next with
  | psmLoop => exact ⟨h.shape, h.aborted.trans haborted, hview ▸ h.move⟩
  | psmReset =>
    obtain ⟨r', hstops, hr', hreason⟩ := h
    rw [hflags, hview] at hreason
    exact ⟨r', hstops, hr'.trans haborted, hreason⟩
  | psmEnd =>
    obtain ⟨hstops, hends⟩ := h
    exact ⟨⟨hstops.core, hstops.alive, hstops.aborted.trans haborted, hstops.flags.trans hflags⟩,
      hview ▸ hends⟩

theorem wp_orGoto {next : Goto} {m : Fallible (Psm β) Unit} {Q : Goto → Psm β → Prop}
    {E : Psm β → Prop} :
    WP (orGoto next m) p Q E ↔ WP m p (fun _ => Q .psmLoop) (Q next) := by
  simp only [orGoto, wp_bind, wp_outcome, wp_pure, if_true, Bool.false_eq_true, if_false]

theorem wp_onRoutable {cur : PeerState} {req : Bool} {E : Psm β → Prop} :
    WP (onRoutable c k cur req) p (fun _ => SameView p) E := by
  have htimer : ∀ (q : Psm β) (b : Bool), SameView p q →
      WP (whenever b (nextTimeout k true c.twTimer)) q (fun _ => SameView p) E := by
    intro q b hq
    rw [wp_whenever]
    split
    · exact hq.trans sameView_withTimer
    · exact hq
  rw [onRoutable, wp_whenever]
  split
  · rw [wp_bind, wp_whenever]
    split
    · rw [wp_modify, wp_bind, wp_get]
      exact htimer _ _ ⟨rfl, rfl, rfl, rfl, rfl, rfl, rfl⟩
    · rw [wp_bind, wp_get]
      exact htimer _ _ (.refl p)
  · exact .refl p

/-- An answer to a message that is not understood. -/
theorem wp_attemptAnswer {E : Psm β → Prop} :
    WP (attempt (outSend (.answer false) false)) p (fun _ => SameView p) E := by
  rw [wp_attempt, wp_outSend]
  split
  · exact sameView_sentOut
  · exact .refl p

/-- Every message, in any state but `STATE_OPEN_NEW`. -/
theorem wp_onContent {cur : PeerState} {msg : Received} (h : Shape p)
    (hz : p.state ≠ .stateZombie) (hnew : p.state ≠ .stateOpenNew) :
    WP (onContent c k cur msg) p (Handled (contentOf msg) p) fun _ => False := by
  have hstay : ∀ q, SameView p q → Follows .other p q := fun q hq => hq.stays h (by simp) (by simp)
  obtain ⟨req, hbhid, content⟩ := msg
  simp only [onContent, contentOf]
  cases content with
  | unparsable => exact hstay p (.refl p)
  | routable =>
    rw [wp_bind]
    exact wp_onRoutable.mono (fun _ q hq => hstay q hq) fun _ hf => hf
  | invalid =>
    cases req with
    | false => exact hstay _ ⟨rfl, rfl, rfl, rfl, rfl, rfl, rfl⟩
    | true =>
      rw [if_pos rfl, wp_bind]
      exact wp_attemptAnswer.mono (fun _ q hq => hstay q hq) fun _ hf => hf
  | capabilitiesExchange cea =>
    rw [wp_orGoto]
    exact (wp_ceMsgrcv h hz).mono (fun _ q hq => hq) fun q hq =>
      ⟨p, hq, rfl, .inl ⟨rfl, trivial⟩⟩
  | disconnectPeer dc =>
    simp only [wp_bind, wp_outcome, wp_get, wp_pure]
    refine (wp_dpHandle h hnew).mono (fun _ q hq => ?_) fun q hq => ?_
    · rcases hq with hq | ⟨rfl, hs, hq⟩
      · simp only [hq.shape.closing, Bool.not_true, Bool.false_eq_true, if_false]
        exact hq
      · simp only [hs]
        exact ⟨hq, trivial⟩
    · obtain ⟨rfl, hq⟩ := hq
      exact ⟨p, hq, rfl, .inl ⟨rfl, trivial⟩⟩
  | deviceWatchdog osi =>
    rw [wp_orGoto]
    exact (wp_dwHandle h hz hnew).mono (fun _ q hq => hq) fun q hq =>
      ⟨p, hq, rfl, .inl ⟨rfl, trivial⟩⟩
  | unknown =>
    rw [wp_bind, wp_whenever]
    split
    · exact wp_attemptAnswer.mono (fun _ q hq => hstay q hq) fun _ hf => hf
    · exact hstay p (.refl p)

theorem contentOf_ne_timeout {msg : Received} : contentOf msg ≠ .timeout := by
  unfold contentOf
  split
  · simp
  · split
    · simp
    · simp
  · simp

/-- A message that is not dropped. -/
theorem wp_onAccepted {msg : Received} (h : Shape p) (hz : p.state ≠ .stateZombie) :
    WP (onAccepted c k msg) p (Handled (contentOf msg) p) fun _ => False := by
  rw [onAccepted, wp_bind, wp_get, wp_bind, wp_whenever]
  split
  · rename_i hs
    have hs : p.state = .stateOpenNew := by simpa using hs
    have hcnx := h.up (by rw [hs]; rfl)
    have hreceiver := h.unelected (by rw [hs]; rfl)
    rw [wp_attempt, wp_changeState h.toCore fun _ => hcnx]
    have hshape : Shape (moved c .stateOpen p) :=
      shape_moved h.toCore (by simp [Diameter.linked, hcnx]) (by simp [hreceiver]) (by simp)
        (by simp)
    refine (wp_onContent hshape (by simp) (by simp)).mono (fun next q hq => ?_) fun _ hf => hf
    refine hq.of_confirmed hs contentOf_ne_timeout moved_aborted ?_
    simp [peerView, PeerView.confirmed, hs]
  · rename_i hs
    exact wp_onContent h hz (by simpa using hs)

/-- `FDEVP_CNX_MSG_RECV` -/
theorem wp_onMsgRecv {msg : Received} (h : Shape p) (hz : p.state ≠ .stateZombie) :
    WP (onMsgRecv c k msg) p (Handled (if accepted p msg then contentOf msg else .other) p)
      fun _ => False := by
  have hstay : ∀ q, SameView p q → Follows .other p q := fun q hq => hq.stays h (by simp) (by simp)
  simp only [onMsgRecv, wp_bind, wp_get, wp_ite]
  by_cases hc : msg.content = .unparsable
  · rw [if_pos hc, if_neg (by simp [accepted, hc])]
    exact hstay _ ⟨rfl, rfl, rfl, rfl, rfl, rfl, rfl⟩
  by_cases hs : p.state = .stateClosed
  · rw [if_neg hc, if_pos hs, if_neg (by simp [accepted, hs])]
    exact hstay p (.refl p)
  rw [if_neg hc, if_neg hs]
  by_cases hreq : msg.request = true
  · rw [if_pos hreq, if_pos (by simp [accepted, hc, hs, hreq])]
    exact wp_onAccepted h hz
  rw [if_neg hreq, wp_fetch]
  have hsame : SameView p (fetched msg p) := sameView_fetched
  cases hfound : (p.peer.step (.answer msg.hbhid)).2.isEmpty with
  | true =>
    rw [if_neg (by simp), if_neg (by simp [accepted, hreq, hfound])]
    exact hstay _ hsame
  | false =>
    rw [if_pos (by simp), if_pos (by simp [accepted, hc, hs, hfound])]
    exact (wp_onAccepted (h.same hsame) hz).mono
      (fun next q hq => hq.of_view hsame.aborted hsame.view) fun _ hf => hf

/-- The grace period is over, or the connection is. -/
theorem wp_graceEnd {i : PeerInput} (h : Shape p) (hz : p.state ≠ .stateZombie)
    (hends : p.flags.localterm = true → PeerView.Ends i (peerView p))
    (hcloses : p.flags.localterm = false → PeerView.Closes i (peerView p)) :
    WP (graceEnd c k) p (Handled i p) fun _ => False := by
  rw [graceEnd, wp_bind, wp_get]
  cases hl : p.flags.localterm with
  | true => exact ⟨(SameView.refl p).stops h.toCore hz, hends hl⟩
  | false =>
    simp only [Bool.false_eq_true, if_false, wp_bind, wp_cleanup h.toCore hz, wp_get, nextTimeout,
      wp_modify, wp_pure]
    exact cleaned_closes ((SameView.refl p).stops h.toCore hz) (hcloses hl)

/-- `FDEVP_TERMINATE` -/
theorem wp_onTerminate {reason : Option UInt32} (h : Shape p) (hz : p.state ≠ .stateZombie) :
    WP (onTerminate c k reason) p (Handled .terminate p) fun _ => False := by
  have hup : PeerView.up p.state = true →
      WP (orGoto .psmEnd (dpInitiate c k reason)) p (Handled .terminate p) fun _ => False := by
    intro hup
    rw [wp_orGoto]
    exact (wp_dpInitiate h hup).mono (fun _ q hq => hq) fun _ hf => hf.elim
  rw [onTerminate, wp_bind, wp_get]
  split
  · rename_i hs
    exact hup (by rw [hs]; rfl)
  · rename_i hs
    exact hup (by rw [hs]; rfl)
  · rename_i hs
    exact hup (by rw [hs]; rfl)
  · rename_i hopen hnew hreopen
    refine ⟨(SameView.refl p).stops h.toCore hz, ?_⟩
    show PeerView.up p.state = false
    unfold PeerView.up
    split
    · contradiction
    · contradiction
    · contradiction
    · rfl

/-- The connection is refused, or the election is over. -/
theorem wp_elected {i : PeerInput} (h : Shape p) (hs : p.state = .stateWaitcnxackElec)
    (hmaking : p.cnxctx = false → PeerView.Making i (peerView p))
    (hends : PeerView.Ends i (peerView p)) :
    WP (orGoto .psmEnd (processReceiver c k)) p (Handled i p) fun _ => False := by
  have hexchanges : exchanges p.state = true := by rw [hs]; rfl
  rw [wp_orGoto]
  refine (wp_processReceiver h.toCore hexchanges).mono (fun _ q hq => ?_) fun q hq => ?_
  · exact hq.2.follows rfl (hmaking hq.1) rfl rfl
  · exact ⟨stops_of_unanswered h.toCore hexchanges hq, hends⟩

/-- `psm_reset` after a broken connection. -/
theorem handled_breaks {i : PeerInput} {t : Time} (h : Shape p) (hz : p.state ≠ .stateZombie)
    (hi : PeerView.Breaks i (peerView p)) :
    Handled i p .psmReset ((p.withFlags fun f => { f with cnxPb := true }).withTimer t) :=
  have hcore : Core (p.withFlags fun f => { f with cnxPb := true }) := ⟨h.active, h.out, h.cnx⟩
  ⟨_, sameView_withTimer.stops hcore hz, rfl, .inr ⟨rfl, hi⟩⟩

theorem handled_closes {i : PeerInput} {t : Time} (h : Shape p) (hz : p.state ≠ .stateZombie)
    (hi : PeerView.Closes i (peerView p)) : Handled i p .psmReset (p.withTimer t) :=
  ⟨_, sameView_withTimer.stops h.toCore hz, rfl, .inl ⟨rfl, hi⟩⟩

/-- `FDEVP_CNX_ERROR` -/
theorem wp_onCnxError (h : Shape p) (hz : p.state ≠ .stateZombie) :
    WP (onCnxError c k) p (Handled .broken p) fun _ => False := by
  rw [onCnxError, wp_bind, wp_get]
  split
  · rename_i hs
    exact wp_elected h hs (fun hc => ⟨hs, hc⟩) (.inr hs)
  · rename_i hs
    exact ⟨p, (SameView.refl p).stops h.toCore hz, rfl, .inl ⟨rfl, .inl hs⟩⟩
  · rename_i hs
    exact absurd hs h.closing
  · rename_i hs
    exact wp_graceEnd h hz (fun hl => .inl ⟨hs, hl⟩) fun hl => .inr ⟨hs, hl⟩
  · rename_i helec hclosed _ hgrace
    exact handled_breaks h hz ⟨helec, hclosed, hgrace⟩

/-- `FDEVP_CNX_ESTABLISHED` -/
theorem wp_onCnxEstablished {readable : Bool} (h : Shape p) :
    WP (onCnxEstablished c k readable) p (Handled .established p) fun _ => False := by
  have hnewcnx : p.state = .stateWaitcnxack ∨ p.state = .stateWaitcnxackElec →
      WP (do attempt (handleNewcnx c k readable); pure .psmLoop) p (Handled .established p)
        fun _ => False := by
    intro hs
    rw [wp_bind, wp_attempt]
    exact (wp_handleNewcnx h hs).mono (fun _ q hq => hq) fun q hq => hq
  rw [onCnxEstablished, wp_bind, wp_get]
  split
  · rename_i hs
    exact hnewcnx (.inr hs)
  · rename_i hs
    exact hnewcnx (.inl hs)
  · exact (SameView.refl p).stays h (by simp) (by simp)

/-- `FDEVP_CNX_FAILED` -/
theorem wp_onCnxFailed (h : Shape p) (hz : p.state ≠ .stateZombie) :
    WP (onCnxFailed c k) p (Handled .failed p) fun _ => False := by
  rw [onCnxFailed, wp_bind, wp_get]
  split
  · rename_i hs
    exact wp_elected h hs (fun hc => ⟨hs, hc⟩) hs
  · rename_i hs
    exact handled_closes h hz hs
  · exact (SameView.refl p).stays h (by simp) (by simp)

/-- A connection is tried. -/
theorem wp_connect (h : Shape p) (hs : p.state = .stateClosed) :
    WP (connect c k) p (fun _ => Follows .timeout p) fun _ => False := by
  have hreceiver := h.unelected (by rw [hs]; rfl)
  rw [connect, wp_bind, wp_changeState h.toCore (by simp), nextTimeout, wp_modify]
  have hmoved : Shape (moved c .stateWaitcnxack p) :=
    shape_moved h.toCore (by simp [Diameter.linked]) (by simp [hreceiver]) (by simp) (by simp)
  refine ⟨hmoved.same sameView_withTimer, by simp, ?_⟩
  have hmove := PeerView.Move.connect (v := peerView p) hs
  simpa [peerView] using hmove

theorem timedOut_aborted : (timedOut c k p).aborted = p.aborted := by
  cases hdw : p.flags.dwPending with
  | false => exact (timedOut_probe hdw).aborted
  | true => exact (timedOut_suspect hdw).aborted.trans moved_aborted

/-- `FDEVP_PSM_TIMEOUT` -/
theorem wp_onTimeout (h : Shape p) (halive : p.alive = true) (hs : p.state ≠ .stateOpenHandshake) :
    WP (onTimeout c k) p (Handled .timeout p) fun _ => False := by
  have hz : p.state ≠ .stateZombie := by simp_all [alive]
  have hup : PeerView.up p.state = true →
      WP (orGoto .psmEnd (dwTimeout c k)) p (Handled .timeout p) fun _ => False := by
    intro hup
    rw [wp_orGoto, wp_dwTimeout h.toCore (h.up hup)]
    obtain ⟨hshape, hmove⟩ := timedOut_move (c := c) (k := k) h hup
    exact ⟨hshape, timedOut_aborted, hmove⟩
  rw [onTimeout, wp_bind, wp_get]
  cases hstate : p.state with
  | stateOpen => exact hup (by rw [hstate]; rfl)
  | stateReopen => exact hup (by rw [hstate]; rfl)
  | stateOpenNew => exact hup (by rw [hstate]; rfl)
  | stateClosed =>
    show WP (orGoto .psmEnd (connect c k)) p _ _
    rw [wp_orGoto]
    exact (wp_connect h hstate).mono (fun _ q hq => hq) fun _ hf => hf.elim
  | stateSuspect => exact handled_breaks h hz hstate
  | stateWaitcnxack => exact handled_closes h hz (.inl hstate)
  | stateWaitcea => exact handled_closes h hz (.inr (.inl hstate))
  | stateClosing => exact absurd hstate h.closing
  | stateClosingGrace =>
    exact wp_graceEnd h hz (fun hl => .inl ⟨hstate, hl⟩) fun hl => .inr (.inr ⟨hstate, hl⟩)
  | stateWaitcnxackElec =>
    exact wp_elected h hstate (fun hc => ⟨hstate, hc⟩) (.inr hstate)
  | stateNew => simp [alive, hstate] at halive
  | stateOpenHandshake => exact absurd hstate hs
  | stateZombie => exact absurd hstate hz

/-- Every event, and a timeout. -/
theorem wp_handle {e : Option PsmEvent} (h : Shape p) (halive : p.alive = true)
    (hs : p.state ≠ .stateOpenHandshake) :
    WP (handle c k e) p (Handled (peerInput p e) p) fun _ => False := by
  have hz : p.state ≠ .stateZombie := by simp_all [alive]
  cases e with
  | none => exact wp_onTimeout h halive hs
  | some e =>
    cases e with
    | terminate reason => exact wp_onTerminate h hz
    | cnxMsgRecv msg => exact wp_onMsgRecv h hz
    | cnxError => exact wp_onCnxError h hz
    | cnxEpChange => exact (SameView.refl p).stays (i := .other) h (by simp) (by simp)
    | cnxShutdown => exact ⟨p, (SameView.refl p).stops h.toCore hz, rfl, .inl ⟨rfl, trivial⟩⟩
    | cnxIncoming cer =>
      show WP (orGoto .psmEnd (handleNewCER c k cer)) p _ _
      rw [wp_orGoto]
      exact (wp_handleNewCER h).mono (fun _ q hq => hq) fun _ hq => hq
    | cnxEstablished readable => exact wp_onCnxEstablished h
    | cnxFailed => exact wp_onCnxFailed h hz

/-- `psm_end` -/
def terminated (c : PeerConfig) (p : Psm β) : Psm β :=
  (((cleaned c p).withEvents []).withState .stateZombie).withFlags fun f =>
    { f with cnxPb := false, dwPending := false }

theorem wp_psmEnd {Q : Unit → Psm β → Prop} {E : Psm β → Prop} (h : Core p)
    (hz : p.state ≠ .stateZombie) : WP (psmEnd c) p Q E ↔ Q () (terminated c p) := by
  simp [psmEnd, wp_cleanup h hz, terminated]

theorem shape_terminated (h : Core p) : Shape (terminated c p) := by
  obtain ⟨ha, ho⟩ := (shape_cleaned (c := c) h).idle (by simp [cleaned, srOnDisconnect])
  exact ⟨.of_idle (by simp [terminated]) ha ho, by simp [terminated, Diameter.linked, cleaned],
    by simp [terminated, cleaned], by simp [terminated], by simp [terminated]⟩

theorem view_terminated : peerView (terminated c p) =
    ⟨.stateZombie, { p.flags with cnxPb := false, dwPending := false }, false, false⟩ := by
  simp [peerView, terminated, cleaned, srOnDisconnect]

theorem terminated_aborted : (terminated c p).aborted = p.aborted := by
  simp [terminated, cleaned, srOnDisconnect]

theorem cleaned_aborted : (cleaned c p).aborted = p.aborted := by
  simp [cleaned, srOnDisconnect]

/-- `psm_reset` -/
theorem wp_psmReset (h : Core p) (hz : p.state ≠ .stateZombie) :
    WP (psmReset c) p (fun _ q => Shape q ∧ q.aborted = p.aborted ∧
      ∀ v : PeerView, v.flags = p.flags → peerView q = v.reset) fun _ => False := by
  rw [psmReset, wp_bind, wp_get]
  cases hd : p.flags.delete with
  | true =>
    rw [if_pos rfl, wp_psmEnd h hz]
    refine ⟨shape_terminated h, terminated_aborted, fun v hv => ?_⟩
    rw [view_terminated, PeerView.reset, if_pos (by rw [hv, hd]), PeerView.ended, hv]
  | false =>
    rw [if_neg (by simp), wp_cleanup h hz]
    refine ⟨shape_cleaned h, cleaned_aborted, fun v hv => ?_⟩
    rw [if_neg (by simp), view_cleaned, PeerView.reset, if_neg (by simp [hv, hd]), PeerView.closed,
      hv]

/-- The loop's body, where `STATE_OPEN_HANDSHAKE` does not stop it. -/
theorem wp_react {e : Option PsmEvent} (h : Shape p) (halive : p.alive = true)
    (hs : p.state ≠ .stateOpenHandshake) :
    WP (react c k e) p (fun _ => Follows (peerInput p e) p) fun _ => False := by
  rw [react, wp_bind, wp_get, if_neg hs, wp_bind]
  refine (wp_handle h halive hs).mono (fun next q hq => ?_) fun _ hf => hf
  cases next with
  | psmLoop => exact hq
  | psmReset =>
    obtain ⟨r, hstops, haborted, hreason⟩ := hq
    refine (wp_psmReset hstops.core hstops.alive).mono (fun _ q' hq' => ?_) fun _ hf => hf
    obtain ⟨hshape, haborted', hview⟩ := hq'
    refine ⟨hshape, haborted'.trans (hstops.aborted.trans haborted), ?_⟩
    rcases hreason with ⟨hflags, hcloses⟩ | ⟨hflags, hbreaks⟩
    · rw [hview (peerView p) (hstops.flags.trans hflags).symm]
      exact .resets hcloses
    · rw [hview { peerView p with flags := { p.flags with cnxPb := true } }
        (hstops.flags.trans hflags).symm]
      exact .breaks hbreaks
  | psmEnd =>
    obtain ⟨hstops, hends⟩ := hq
    show WP (psmEnd c) q _ _
    rw [wp_psmEnd hstops.core hstops.alive]
    refine ⟨shape_terminated hstops.core, terminated_aborted.trans hstops.aborted, ?_⟩
    rw [view_terminated, hstops.flags]
    exact .ends hends

/-! ## Steps -/

/-- The loop asserts that no handshake is left over. -/
theorem react_openHandshake {e : Option PsmEvent} (hs : p.state = .stateOpenHandshake) :
    ((react c k e).exec p).2 = p.withAborted := by
  have hreact : WP (react c k e) p (fun _ r => r = p.withAborted) fun r => r = p.withAborted := by
    rw [react, wp_bind, wp_get, if_pos hs]
    rfl
  exact hreact.exec

/-- A turn changes nothing but the queue before it reacts. -/
theorem eq_of_nextEvent {e : Option PsmEvent} (h : p.nextEvent k = some (e, q)) :
    ∃ events, q = p.withEvents events := by
  unfold nextEvent at h
  split at h
  · cases h
    exact ⟨_, rfl⟩
  · split at h
    · cases h
      exact ⟨p.events, rfl⟩
    · cases h

theorem turn_advances (h : Shape p) (ha : p.aborted = false) (k : Clock) :
    Shape (p.turn c k) ∧
      ((p.turn c k).aborted = true → (p.turn c k).state = .stateOpenHandshake) ∧
      PeerView.Advance (reads p (.turn k)) (peerView p) (peerView (p.turn c k)) := by
  have hidle : Shape p ∧ (p.aborted = true → p.state = .stateOpenHandshake) ∧
      PeerView.Advance none (peerView p) (peerView p) := ⟨h, by simp [ha], .idle⟩
  rw [turn, reads]
  cases halive : p.alive with
  | false => exact hidle
  | true =>
    simp only [if_true]
    cases hnext : p.nextEvent k with
    | none => exact hidle
    | some r =>
      obtain ⟨e, q⟩ := r
      obtain ⟨events, heq⟩ := eq_of_nextEvent hnext
      have hsame : SameView p q := by rw [heq]; exact ⟨rfl, rfl, rfl, rfl, rfl, rfl, rfl⟩
      have hinput : peerInput q e = peerInput p e := by rw [heq]; rfl
      have hq := h.same hsame
      simp only [Option.map_some]
      by_cases hs : q.state = .stateOpenHandshake
      · rw [react_openHandshake hs]
        refine ⟨⟨⟨hq.active, hq.out, hq.cnx⟩, hq.linked, hq.receiver, hq.count, hq.closing⟩,
          fun _ => hs, ?_⟩
        have hview : peerView q.withAborted = peerView p := hsame.view
        rw [hview]
        exact .stuck (hsame.state.symm.trans hs)
      · have halive' : q.alive = true := by rwa [alive, hsame.state]
        have hfollows := ((wp_react (c := c) (k := k) (e := e) hq halive' hs).mono
          (fun _ _ hr => hr) fun _ hf => hf.elim).exec
        rw [← hinput, ← hsame.view]
        exact ⟨hfollows.shape, by simp [hfollows.aborted, hsame.aborted, ha],
          .turn hs hfollows.move⟩

theorem sameView_route {msg : Routed β} : SameView p (p.route msg) := by
  unfold route
  split
  · exact ⟨rfl, rfl, rfl, rfl, rfl, rfl, rfl⟩
  · exact .refl p

theorem sameView_look {i : Nat} : SameView p (p.look i) := by
  unfold look
  split
  · split
    · exact ⟨rfl, rfl, rfl, rfl, rfl, rfl, rfl⟩
    · exact ⟨rfl, rfl, rfl, rfl, rfl, rfl, rfl⟩
  · exact .refl p

theorem sameView_act {i : Nat} : SameView p (p.act i) := by
  unfold act
  split
  · exact ⟨rfl, rfl, rfl, rfl, rfl, rfl, rfl⟩
  · have hsame : SameView p (p.withSenders (p.senders.eraseIdx i)) :=
      ⟨rfl, rfl, rfl, rfl, rfl, rfl, rfl⟩
    exact hsame.trans sameView_doSend
  · exact .refl p

theorem sameView_post {e : PsmEvent} : SameView p (p.post e) := by
  unfold post
  split
  · exact .refl p
  · exact ⟨rfl, rfl, rfl, rfl, rfl, rfl, rfl⟩

/-- The sending thread may find that it has failed; it does not stop. -/
theorem outTurn_same (sent : Bool) (h : Shape p) :
    Shape (p.outTurn sent) ∧ (p.outTurn sent).aborted = p.aborted ∧
      peerView (p.outTurn sent) = peerView p := by
  have hsame : ∀ q, SameView p q → Shape q ∧ q.aborted = p.aborted ∧ peerView q = peerView p :=
    fun q hq => ⟨h.same hq, hq.aborted, hq.view⟩
  unfold outTurn
  split
  · rename_i msg tosend hout htosend
    have htaken : SameView p (p.withTosend tosend) := ⟨rfl, rfl, rfl, rfl, rfl, rfl, rfl⟩
    have hsent : SameView p ((p.withTosend tosend).doSend msg).2 := htaken.trans sameView_doSend
    simp only []
    split
    · exact hsame _ hsent
    · have hactive : p.active = true := by
        cases ha : p.active with
        | true => rfl
        | false => simp [h.out.2 ha] at hout
      have hq := h.same hsent
      refine ⟨⟨⟨hq.active, ?_, hq.cnx⟩, hq.linked, hq.receiver, hq.count, hq.closing⟩,
        hsent.aborted, hsent.view⟩
      simp [outFail, hsent.active, hactive]
  · split
    · exact hsame _ ⟨rfl, rfl, rfl, rfl, rfl, rfl, rfl⟩
    · exact hsame _ ⟨rfl, rfl, rfl, rfl, rfl, rfl, rfl⟩
  · split
    · exact hsame _ ⟨rfl, rfl, rfl, rfl, rfl, rfl, rfl⟩
    · exact hsame _ ⟨rfl, rfl, rfl, rfl, rfl, rfl, rfl⟩
  · exact hsame p (.refl p)

theorem shape_start {b : Bool} (hs : p.state = .stateNew ∨ p.state = .stateZombie) (h : Shape p) :
    Shape (start k b p) := by
  have hopen : p.state ≠ .stateOpen := by rcases hs with hs | hs <;> simp [hs]
  obtain ⟨ha, ho⟩ := h.idle hopen
  have hcnx : p.cnxctx = false := h.linked false (by rcases hs with hs | hs <;> rw [hs] <;> rfl)
  have hreceiver := h.unelected (by rcases hs with hs | hs <;> rw [hs] <;> rfl)
  exact ⟨.of_idle (by simp [start]) ha ho, by simp [start, Diameter.linked, hcnx],
    by simp [start, hreceiver], by simp [start], by simp [start]⟩

/-- A step that reads nothing leaves what counts as it is, unless the machine starts again. -/
theorem step_idle {s : Step β} (h : Shape p) (hr : reads p s = none)
    (hs : ∀ k exp, s ≠ .restart k exp) :
    Shape (p.step c s) ∧ (p.step c s).aborted = p.aborted ∧
      peerView (p.step c s) = peerView p := by
  have hsame : ∀ q, SameView p q → Shape q ∧ q.aborted = p.aborted ∧ peerView q = peerView p :=
    fun q hq => ⟨h.same hq, hq.aborted, hq.view⟩
  unfold step
  split
  · exact hsame p (.refl p)
  · cases s with
    | post e => exact hsame _ sameView_post
    | turn k =>
      have hturn : p.turn c k = p := by
        simp only [reads] at hr
        unfold turn
        split at hr
        · rename_i halive
          rw [if_pos halive, Option.map_eq_none_iff.1 hr]
        · rename_i halive
          rw [if_neg halive]
      show Shape (p.turn c k) ∧ (p.turn c k).aborted = p.aborted ∧
        peerView (p.turn c k) = peerView p
      rw [hturn]
      exact hsame p (.refl p)
    | route msg => exact hsame _ sameView_route
    | look i => exact hsame _ sameView_look
    | act i => exact hsame _ sameView_act
    | outTurn sent => exact outTurn_same sent h
    | expire now => exact hsame _ ⟨rfl, rfl, rfl, rfl, rfl, rfl, rfl⟩
    | restart k exp => exact absurd rfl (hs k exp)

theorem restart_advances {b : Bool} (h : Shape p) (ha : p.aborted = false) :
    Shape (p.restart k b) ∧ (p.restart k b).aborted = false ∧
      PeerView.Advance none (peerView p) (peerView (p.restart k b)) := by
  unfold restart
  split
  · rename_i hz
    refine ⟨shape_start (.inr hz) ⟨⟨h.active, h.out, h.cnx⟩, h.linked, h.receiver, ?_, h.closing⟩,
      ha, .restart (p.flags.responder || b) hz⟩
    simp [hz]
  · exact ⟨h, ha, .idle⟩

/-- Every step of every thread keeps the shape and follows the table. -/
theorem step_advances (h : Shape p) (ha : p.aborted = true → p.state = .stateOpenHandshake)
    (s : Step β) :
    Shape (p.step c s) ∧
      ((p.step c s).aborted = true → (p.step c s).state = .stateOpenHandshake) ∧
      PeerView.Advance (reads p s) (peerView p) (peerView (p.step c s)) := by
  have hidle : reads p s = none → (∀ k exp, s ≠ .restart k exp) → Shape (p.step c s) ∧
      ((p.step c s).aborted = true → (p.step c s).state = .stateOpenHandshake) ∧
      PeerView.Advance (reads p s) (peerView p) (peerView (p.step c s)) := by
    intro hr hs
    obtain ⟨hshape, haborted, hview⟩ := step_idle (c := c) h hr hs
    have hstate : (p.step c s).state = p.state := congrArg PeerView.state hview
    refine ⟨hshape, by rwa [haborted, hstate], ?_⟩
    rw [hview, hr]
    exact .idle
  cases haborted : p.aborted with
  | true =>
    have hstep : p.step c s = p := if_pos haborted
    rw [hstep]
    refine ⟨h, ha, ?_⟩
    cases reads p s with
    | none => exact .idle
    | some i => exact .stuck (ha haborted)
  | false =>
    have hrun : ¬ p.aborted = true := by simp [haborted]
    cases s with
    | turn k =>
      have hstep : p.step c (.turn k) = p.turn c k := if_neg hrun
      rw [hstep]
      exact turn_advances h haborted k
    | restart k b =>
      have hstep : p.step c (.restart k b) = p.restart k b := if_neg hrun
      obtain ⟨hshape, ha', hadvance⟩ := restart_advances (k := k) (b := b) h haborted
      rw [hstep]
      exact ⟨hshape, by simp [ha'], hadvance⟩
    | _ => exact hidle rfl (by simp)

/-! ## Runs -/

theorem shape_init {l : Launch} : Shape (init l : Psm β) := by
  refine shape_start (.inl rfl) ⟨⟨by simp, by simp, by simp⟩, ?_, by simp, by simp, by simp⟩
  simp [Diameter.linked]

/-- By induction on the history. -/
theorem shape_after (c : PeerConfig) (l : Launch) (h : List (Step β)) :
    Shape (after c l h) ∧
      ((after c l h).aborted = true → (after c l h).state = .stateOpenHandshake) := by
  induction h with
  | nil => exact ⟨shape_init, by simp [after, init, start]⟩
  | cons s h ih =>
    obtain ⟨hshape, haborted, -⟩ := step_advances (c := c) ih.1 ih.2 s
    exact ⟨hshape, haborted⟩

theorem after_advances (c : PeerConfig) (l : Launch) (h : List (Step β)) (s : Step β) :
    PeerView.Advance (reads (after c l h) s) (peerView (after c l h))
      (peerView (after c l (s :: h))) :=
  (step_advances (shape_after c l h).1 (shape_after c l h).2 s).2.2

theorem reset_cnx {v : PeerView} : v.reset.cnx = false := by
  unfold PeerView.reset
  split
  · rfl
  · rfl

/-- While a connection is waited for, there is one only if one that was made is left over. -/
theorem established_of_leftover {o : Option PeerInput} {v w : PeerView}
    (h : PeerView.Advance o v w) (hv : v.cnx = false) (hw : w.cnx = true)
    (hs : w.state = .stateWaitcnxack ∨ w.state = .stateWaitcnxackElec) :
    o = some .established := by
  have hsame : v.cnx ≠ true := by simp [hv]
  cases h with
  | turn _ hm =>
    cases hm with
    | stall => rfl
    | breaks => simp [reset_cnx] at hw
    | resets => simp [reset_cnx] at hw
    | closes => simp [PeerView.closed] at hw
    | ends => simp [PeerView.ended] at hw
    | refuse => simp at hw
    | await => simp at hs
    | opens => simp at hs
    | opensNew => simp at hs
    | opensSuspect => simp at hs
    | reopens => simp at hs
    | handshake => simp at hs
    | _ => exact absurd hw hsame
  | stuck => exact absurd hw hsame
  | idle => exact absurd hw hsame
  | restart => exact absurd hw hsame

/-- However the peer's threads are interleaved, its connection, the thread that sends and its
place among the active peers go with its state, an assertion fails only where a handshake is
left over, and the next step follows the table for what it reads. A step that leaves a connection
with a machine that waits for one has read that one is made. -/
theorem table_followed (c : PeerConfig) (l : Launch) (h : List (Step β)) :
    Shape (after c l h) ∧
    ((after c l h).aborted = true → (after c l h).state = .stateOpenHandshake) ∧
    ∀ s, PeerView.Advance (reads (after c l h) s) (peerView (after c l h))
        (peerView (after c l (s :: h))) ∧
      ((after c l h).cnxctx = false → (after c l (s :: h)).cnxctx = true →
        (after c l (s :: h)).state = .stateWaitcnxack ∨
          (after c l (s :: h)).state = .stateWaitcnxackElec →
        reads (after c l h) s = some .established) :=
  ⟨(shape_after c l h).1, (shape_after c l h).2, fun s =>
    ⟨after_advances c l h s, established_of_leftover (after_advances c l h s)⟩⟩

/-- The loop does not look at the error of `fd_p_ce_handle_newcnx`: a connection that is lost
before its endpoints are read stays with the peer, which goes on to wait for one. -/
example :
    let p : Psm Unit := after ⟨30, 30, true, false⟩ ⟨⟨0, 0, 0⟩, 0, false, false, true⟩
      [.turn ⟨5 * second, 0, 0⟩, .post (.cnxEstablished false), .turn ⟨5 * second, 0, 0⟩]
    p.state = .stateWaitcnxack ∧ p.cnxctx = true := by
  decide

end Twag.Proof.Diameter

import Twag.Framework.Past
import Twag.Proof.Diameter.PeerMachine

/-!
# When a peer is used

The table by the state that a move starts from, and from that what holds over
whole histories:

* `served_after_break`: after a broken connection a peer is used again only if
  it has sent three watchdogs on one connection, unless one that was on
  probation was given up in another way, or the machine has ended;
* `silent_peer`: a peer of which nothing is heard is probed, suspected and given
  up with three timeouts, and has no connection from then on.
-/

namespace Twag.Proof.Diameter

open Twag.Impl.Diameter Twag.Spec
open PeerView (Move Advance Making)

variable {β : Type} {i : PeerInput} {v w : PeerView}

/-! ## Where the table leads from a state -/

/-- The connection is given up. -/
def Dropped (s : PeerState) : Prop :=
  s = .stateClosed ∨ s = .stateClosingGrace ∨ s = .stateZombie

theorem dropped_reset : Dropped v.reset.state := by
  unfold PeerView.reset
  split
  · exact .inr (.inr rfl)
  · exact .inl rfl

/-- Where the flag of a broken connection is set, no connection is up. -/
def Flagged (v : PeerView) : Prop :=
  v.flags.cnxPb = true → PeerView.up v.state = false ∧ v.state ≠ .stateSuspect

theorem flagged_of_dropped (h : Dropped v.state) : Flagged v := by
  intro _
  rcases h with h | h | h
  · exact ⟨by rw [h]; rfl, by simp [h]⟩
  · exact ⟨by rw [h]; rfl, by simp [h]⟩
  · exact ⟨by rw [h]; rfl, by simp [h]⟩

theorem reset_cnxPb (h : v.flags.cnxPb = true) :
    v.reset.flags.cnxPb = true ∨ v.reset.state = .stateZombie := by
  unfold PeerView.reset
  split
  · exact .inr rfl
  · exact .inl h

theorem making_state (h : Making i v) :
    v.state = .stateClosed ∨ v.state = .stateWaitcea ∨ v.state = .stateWaitcnxackElec := by
  cases i with
  | timeout => exact .inr (.inr h.1)
  | broken => exact .inr (.inr h.1)
  | established => exact .inr (.inr h.1)
  | failed => exact .inr (.inr h.1)
  | incoming => exact h.imp id .inl
  | other => exact .inr (.inl h)
  | terminate => exact h.elim
  | dpa => exact h.elim
  | watchdog r => exact h.elim

theorem not_making (h₁ : v.state ≠ .stateClosed) (h₂ : v.state ≠ .stateWaitcea)
    (h₃ : v.state ≠ .stateWaitcnxackElec) : ¬ Making i v := by
  intro hm
  rcases making_state hm with hs | hs | hs
  · exact h₁ hs
  · exact h₂ hs
  · exact h₃ hs

/-- What can become of a connection on probation. -/
theorem move_of_reopen (h : Move i v w) (hv : v.state = .stateReopen) :
    (w.state = .stateReopen ∧
      w.flags.reopenCnt = v.flags.reopenCnt + if i.isWatchdog then 1 else 0) ∨
    (w.state = .stateOpen ∧ i.isWatchdog = true ∧ v.flags.reopenCnt + 1 = 0) ∨
    w.state = .stateSuspect ∨ Dropped w.state := by
  have hmaking : ¬ Making i v := not_making (by simp [hv]) (by simp [hv]) (by simp [hv])
  cases h with
  | stay hi hw =>
    have hi : i.isWatchdog = false := by
      cases i with
      | watchdog r => exact absurd rfl (hw hv r)
      | _ => rfl
    exact .inl ⟨hv, by simp [hi]⟩
  | confirm hi hv' => simp [hv] at hv'
  | connect hv' => simp [hv] at hv'
  | elect hv' => simp [hv] at hv'
  | await hv' => simp [hv] at hv'
  | stall hv' => simp [hv] at hv'
  | refuse hv' => exact absurd hv' hmaking
  | opens hv' => exact absurd hv' hmaking
  | opensNew hv' => exact absurd hv' hmaking
  | opensSuspect hv' => exact absurd hv' hmaking
  | reopens hv' => exact absurd hv' hmaking
  | handshake hv' => exact absurd hv' hmaking
  | watch hv' => exact absurd hv hv'
  | count => exact .inl ⟨hv, by simp [PeerInput.isWatchdog]⟩
  | restore _ hc => exact .inr (.inl ⟨rfl, rfl, hc⟩)
  | probe => exact .inl ⟨hv, by simp [PeerInput.isWatchdog]⟩
  | suspect => exact .inr (.inr (.inl rfl))
  | breaks => exact .inr (.inr (.inr dropped_reset))
  | closes => exact .inr (.inr (.inr (.inl rfl)))
  | resets => exact .inr (.inr (.inr dropped_reset))
  | grace => exact .inr (.inr (.inr (.inr (.inl rfl))))
  | defer =>
    refine .inl ⟨?_, by simp [PeerInput.isWatchdog]⟩
    simp [PeerView.confirmed, hv]
  | ends => exact .inr (.inr (.inr (.inr (.inr rfl))))

/-- A connection that is suspected is given up, whatever is read. -/
theorem move_of_suspect (h : Move i v w) (hv : v.state = .stateSuspect) :
    w.state = .stateSuspect ∨ Dropped w.state := by
  have hmaking : ¬ Making i v := not_making (by simp [hv]) (by simp [hv]) (by simp [hv])
  have hconfirmed : v.confirmed.state = .stateSuspect := by simp [PeerView.confirmed, hv]
  cases h with
  | stay => exact .inl hv
  | confirm hi hv' => simp [hv] at hv'
  | connect hv' => simp [hv] at hv'
  | elect hv' => simp [hv] at hv'
  | await hv' => simp [hv] at hv'
  | stall hv' => simp [hv] at hv'
  | refuse hv' => exact absurd hv' hmaking
  | opens hv' => exact absurd hv' hmaking
  | opensNew hv' => exact absurd hv' hmaking
  | opensSuspect hv' => exact absurd hv' hmaking
  | reopens hv' => exact absurd hv' hmaking
  | handshake hv' => exact absurd hv' hmaking
  | watch => exact .inl hconfirmed
  | count hv' => simp [hv] at hv'
  | restore hv' => simp [hv] at hv'
  | probe hv' => simp [hv, PeerView.up] at hv'
  | suspect => exact .inl rfl
  | breaks => exact .inr dropped_reset
  | closes => exact .inr (.inl rfl)
  | resets => exact .inr dropped_reset
  | grace => exact .inr (.inr (.inl rfl))
  | defer => exact .inl hconfirmed
  | ends => exact .inr (.inr (.inr rfl))

/-- A new connection after a broken one is on probation. -/
theorem move_of_cnxPb (h : Move i v w) (hv : Flagged v) (hpb : v.flags.cnxPb = true) :
    (w.flags.cnxPb = true ∧ Flagged w) ∨ (w.state = .stateReopen ∧ w.flags.cnxPb = false) ∨
    w.state = .stateZombie := by
  obtain ⟨hup, hsuspect⟩ := hv hpb
  have hnew : v.state ≠ .stateOpenNew := by
    intro hs
    simp [hs, PeerView.up] at hup
  have hsame : ∀ u : PeerView, u.flags.cnxPb = true → u.state = v.state →
      u.flags.cnxPb = true ∧ Flagged u := by
    intro u hu hs
    refine ⟨hu, fun _ => ?_⟩
    rw [hs]
    exact ⟨hup, hsuspect⟩
  have hreset : ∀ u : PeerView, u.flags.cnxPb = true →
      (u.reset.flags.cnxPb = true ∧ Flagged u.reset) ∨
        (u.reset.state = .stateReopen ∧ u.reset.flags.cnxPb = false) ∨
        u.reset.state = .stateZombie := fun u hu =>
    (reset_cnxPb hu).imp (fun h => ⟨h, flagged_of_dropped dropped_reset⟩) .inr
  have hconfirmed : v.confirmed.state = v.state := by simp [PeerView.confirmed, hnew]
  cases h with
  | stay => exact .inl ⟨hpb, hv⟩
  | confirm _ hv' => exact absurd hv' hnew
  | connect => exact .inl ⟨hpb, fun _ => ⟨rfl, by simp⟩⟩
  | elect => exact .inl ⟨hpb, fun _ => ⟨rfl, by simp⟩⟩
  | await => exact .inl ⟨hpb, fun _ => ⟨rfl, by simp⟩⟩
  | stall => exact .inl (hsame _ hpb rfl)
  | refuse => exact .inl (hsame _ hpb rfl)
  | opens _ hpb' => simp [hpb] at hpb'
  | opensNew _ hpb' => simp [hpb] at hpb'
  | opensSuspect _ hpb' => simp [hpb] at hpb'
  | reopens => exact .inr (.inl ⟨rfl, rfl⟩)
  | handshake => exact .inl ⟨hpb, fun _ => ⟨rfl, by simp⟩⟩
  | watch => exact .inl (hsame _ hpb hconfirmed)
  | count hv' => simp [hv', PeerView.up] at hup
  | restore hv' => simp [hv', PeerView.up] at hup
  | probe hv' => simp [hv'] at hup
  | suspect hv' => simp [hv'] at hup
  | breaks => exact hreset _ rfl
  | closes => exact .inl ⟨hpb, flagged_of_dropped (.inl rfl)⟩
  | resets => exact hreset _ hpb
  | grace => exact .inl ⟨hpb, flagged_of_dropped (.inr (.inl rfl))⟩
  | defer => exact .inl (hsame _ hpb hconfirmed)
  | ends => exact .inr (.inr rfl)

/-- Only a connection that is given up sets the flag. -/
theorem move_of_not_cnxPb (h : Move i v w) (hpb : v.flags.cnxPb = false) :
    w.flags.cnxPb = false ∨ Dropped w.state := by
  cases h with
  | reopens => exact .inl rfl
  | breaks => exact .inr dropped_reset
  | resets => exact .inr dropped_reset
  | ends => exact .inl rfl
  | _ => exact .inl hpb

theorem Flagged.advance {o : Option PeerInput} (h : Advance o v w) (hv : Flagged v) :
    Flagged w := by
  cases h with
  | turn _ hm =>
    cases hpb : v.flags.cnxPb with
    | false =>
      rcases move_of_not_cnxPb hm hpb with hw | hw
      · intro hw'
        simp [hw] at hw'
      · exact flagged_of_dropped hw
    | true =>
      rcases move_of_cnxPb hm hv hpb with ⟨-, hw⟩ | ⟨-, hw⟩ | hw
      · exact hw
      · intro hw'
        simp [hw] at hw'
      · exact flagged_of_dropped (.inr (.inr hw))
  | stuck => exact hv
  | idle => exact hv
  | restart => exact flagged_of_dropped (.inl rfl)

theorem move_to_reopen (h : Move i v w) (hv : v.state ≠ .stateReopen)
    (hw : w.state = .stateReopen) : w.flags.reopenCnt = 1 := by
  have hreset : ∀ u : PeerView, u.reset.state ≠ .stateReopen := by
    intro u hu
    have hdropped := dropped_reset (v := u)
    simp [hu, Dropped] at hdropped
  have hconfirmed : v.confirmed.state ≠ .stateReopen := by
    unfold PeerView.confirmed
    split
    · simp
    · exact hv
  cases h with
  | reopens => rfl
  | stay => exact absurd hw hv
  | stall => exact absurd hw hv
  | refuse => exact absurd hw hv
  | watch => exact absurd hw hconfirmed
  | count hv' => exact absurd hv' hv
  | probe => exact absurd hw hv
  | breaks => exact absurd hw (hreset _)
  | resets => exact absurd hw (hreset _)
  | defer => exact absurd hw hconfirmed
  | _ => simp [PeerView.closed, PeerView.ended] at hw

/-! ## After a broken connection -/

variable {o : Option PeerInput}

theorem advance_of_reopen (h : Advance o v w) (hv : v.state = .stateReopen) :
    (w.state = .stateReopen ∧
      w.flags.reopenCnt = v.flags.reopenCnt + if o.any PeerInput.isWatchdog then 1 else 0) ∨
    (w.state = .stateOpen ∧ o.any PeerInput.isWatchdog = true ∧ v.flags.reopenCnt + 1 = 0) ∨
    w.state = .stateSuspect ∨ Dropped w.state := by
  cases h with
  | turn _ hm => exact move_of_reopen hm hv
  | stuck hv' => simp [hv] at hv'
  | idle => exact .inl ⟨hv, by simp⟩
  | restart _ hv' => simp [hv] at hv'

theorem advance_to_reopen (h : Advance o v w) (hv : v.state ≠ .stateReopen)
    (hw : w.state = .stateReopen) : w.flags.reopenCnt = 1 := by
  cases h with
  | turn _ hm => exact move_to_reopen hm hv hw
  | stuck => exact absurd hw hv
  | idle => exact absurd hw hv
  | restart => simp at hw

theorem advance_of_suspect (h : Advance o v w) (hv : v.state = .stateSuspect) :
    w.state = .stateSuspect ∨ Dropped w.state := by
  cases h with
  | turn _ hm => exact move_of_suspect hm hv
  | stuck => exact .inl hv
  | idle => exact .inl hv
  | restart _ hv' => simp [hv] at hv'

/-- The peer has to show that it is there again. -/
def Owes (v : PeerView) : Prop :=
  v.flags.cnxPb = true ∨ v.state = .stateReopen ∨ v.state = .stateSuspect

theorem advance_of_cnxPb (h : Advance o v w) (hv : Flagged v) (hpb : v.flags.cnxPb = true) :
    Owes w ∨ w.state = .stateZombie := by
  cases h with
  | turn _ hm =>
    rcases move_of_cnxPb hm hv hpb with ⟨hw, -⟩ | ⟨hw, -⟩ | hw
    · exact .inl (.inl hw)
    · exact .inl (.inr (.inl hw))
    · exact .inr hw
  | stuck => exact .inl (.inl hpb)
  | idle => exact .inl (.inl hpb)
  | restart => exact .inl (.inl hpb)

section

variable (c : PeerConfig) (l : Psm.Launch)

open Psm (Step after)

theorem flagged_after (h : List (Step β)) : Flagged (peerView (after c l h)) := by
  induction h with
  | nil =>
    intro hpb
    simp [peerView, after, Psm.init, Psm.start] at hpb
  | cons s h ih => exact ih.advance (after_advances c l h s)

/-- The two bits count the watchdogs, from one. -/
theorem reopenCnt_eq (h : List (Step β)) (hs : (after c l h).state = .stateReopen) :
    (after c l h).flags.reopenCnt.toNat = probation c l h + 1 := by
  induction h with
  | nil => simp [after, Psm.init, Psm.start] at hs
  | cons s h ih =>
    have hadvance := after_advances c l h s
    by_cases hv : (after c l h).state = .stateReopen
    · have hne := (shape_after c l (s :: h)).1.count hs
      rw [probation, if_pos hv]
      rcases advance_of_reopen hadvance hv with ⟨-, hcnt⟩ | ⟨hw, -⟩ | hw | hw
      · have hcnt : (after c l (s :: h)).flags.reopenCnt = (after c l h).flags.reopenCnt +
          if (reads (after c l h) s).any PeerInput.isWatchdog then 1 else 0 := hcnt
        rw [hcnt] at hne ⊢
        have hih := ih hv
        cases hd : (reads (after c l h) s).any PeerInput.isWatchdog with
        | false => simpa using hih
        | true =>
          simp only [hd, if_true] at hne ⊢
          bv_omega
      · exact absurd (hs.symm.trans hw) (by simp)
      · exact absurd (hs.symm.trans hw) (by simp)
      · have hw : Dropped (after c l (s :: h)).state := hw
        simp [hs, Dropped] at hw
    · have hcnt : (after c l (s :: h)).flags.reopenCnt = 1 := advance_to_reopen hadvance hv hs
      rw [probation, if_neg hv, hcnt]
      rfl

/-- A peer that owes goes on to owe, or is cleared. -/
theorem owes_step (h : List (Step β)) (s : Step β) (ho : Owes (peerView (after c l h))) :
    Owes (peerView (after c l (s :: h))) ∨ Cleared c l h s := by
  have hadvance := after_advances c l h s
  -- A connection that was on probation is given up.
  have hdropped : (after c l h).state = .stateReopen ∨ (after c l h).state = .stateSuspect →
      Dropped (after c l (s :: h)).state →
      Owes (peerView (after c l (s :: h))) ∨ Cleared c l h s := by
    intro hv hw
    cases hpb : (after c l (s :: h)).flags.cnxPb with
    | true => exact .inl (.inl hpb)
    | false =>
      rcases hw with hw | hw | hw
      · exact .inr (.inr (.inl ⟨hv, .inl hw, hpb⟩))
      · exact .inr (.inr (.inl ⟨hv, .inr hw, hpb⟩))
      · exact .inr (.inr (.inr hw))
  rcases ho with hpb | hs | hs
  · exact (advance_of_cnxPb hadvance (flagged_after c l h) hpb).imp id fun hw => .inr (.inr hw)
  · rcases advance_of_reopen hadvance hs with ⟨hw, -⟩ | ⟨hw, hwatchdog, hcnt⟩ | hw | hw
    · exact .inl (.inr (.inl hw))
    · refine .inr (.inl ⟨hs, hw, ?_⟩)
      have hs : (after c l h).state = .stateReopen := hs
      have hcnt : (after c l h).flags.reopenCnt + 1 = 0 := hcnt
      have hprobation := reopenCnt_eq c l h hs
      rw [probation, if_pos hs, if_pos hwatchdog]
      bv_omega
    · exact .inl (.inr (.inr hw))
    · exact hdropped (.inl hs) hw
  · exact (advance_of_suspect hadvance hs).elim (fun hw => .inl (.inr (.inr hw)))
      (hdropped (.inr hs))

theorem not_inService_of_owes (h : List (Step β)) (ho : Owes (peerView (after c l h))) :
    PeerView.inService (after c l h).state = false := by
  rcases ho with hpb | hs | hs
  · obtain ⟨hup, -⟩ := flagged_after c l h hpb
    have hup : PeerView.up (after c l h).state = false := hup
    revert hup
    cases (after c l h).state <;> simp [PeerView.up, PeerView.inService]
  · have hs : (after c l h).state = .stateReopen := hs
    rw [hs]
    rfl
  · have hs : (after c l h).state = .stateSuspect := hs
    rw [hs]
    rfl

/-- A peer whose connection was broken is used again only when it has sent three watchdogs on
one connection, or a connection on probation was given up without being broken, or the machine
has ended. -/
theorem served_after_break (g h : List (Step β)) (hpb : (after c l g).flags.cnxPb = true)
    (hs : PeerView.inService (after c l (h ++ g)).state = true) :
    ∃ h' s, (s :: h') <:+ h ∧ Cleared c l (h' ++ g) s := by
  have hrun : Owes (peerView (after c l (h ++ g))) ∨
      ∃ h' s, (s :: h') <:+ h ∧ Cleared c l (h' ++ g) s := by
    clear hs
    induction h with
    | nil => exact .inl (.inl hpb)
    | cons s h ih =>
      rcases ih with ho | ⟨h', s', hsuffix, hcleared⟩
      · exact (owes_step c l (h ++ g) s ho).imp id fun hcleared =>
          ⟨h, s, List.suffix_rfl, hcleared⟩
      · exact .inr ⟨h', s', hsuffix.trans (List.suffix_cons s h), hcleared⟩
  rcases hrun with ho | hcleared
  · rw [not_inService_of_owes c l _ ho] at hs
    cases hs
  · exact hcleared

end

section

open Psm (Step after)

def samplePeer : PeerConfig := ⟨30, 30, true, false⟩

def sampleLaunch : Psm.Launch := ⟨⟨0, 0, 0⟩, 0, true, false, true⟩

/-- An event is posted and read. -/
def sampleTurn (e : PsmEvent) : List (Step Unit) := [.turn ⟨0, 0, 0⟩, .post e]

/-- A CER of a peer that the first callback accepts. -/
def sampleCer : PsmEvent := .cnxIncoming ⟨true, 0, false, [⟨0, 1, none⟩], none, none, true, false⟩

def sampleDwr : PsmEvent := .cnxMsgRecv ⟨true, 0, .deviceWatchdog none⟩

/-- A connection that breaks. -/
def sampleBreak : List (Step Unit) := sampleTurn .cnxError ++ sampleTurn sampleCer

/-- A new one, and three DWRs on it. -/
def sampleReturn : List (Step Unit) :=
  sampleTurn sampleDwr ++ sampleTurn sampleDwr ++ sampleTurn sampleDwr ++ sampleTurn sampleCer

theorem served_after_break_sample :
    (after samplePeer sampleLaunch sampleBreak).flags.cnxPb = true ∧
    PeerView.inService (after samplePeer sampleLaunch (sampleReturn ++ sampleBreak)).state = true ∧
    ∃ h' s, (s :: h') <:+ sampleReturn ∧ Cleared samplePeer sampleLaunch (h' ++ sampleBreak) s :=
  ⟨by decide, by decide,
    served_after_break samplePeer sampleLaunch sampleBreak sampleReturn (by decide) (by decide)⟩

end

/-! ## A silent peer -/

/-- Everything that a timeout can do. -/
theorem timeout_cases (h : Move .timeout v w) :
    (v.state = .stateClosed ∧ w = { v with state := .stateWaitcnxack }) ∨
    (PeerView.up v.state = true ∧ v.flags.dwPending = false ∧
      w = { v with flags := { v.flags with dwPending := true } }) ∨
    (PeerView.up v.state = true ∧ v.flags.dwPending = true ∧
      w = { v with state := .stateSuspect }) ∨
    (v.state = .stateSuspect ∧
      w = PeerView.reset { v with flags := { v.flags with cnxPb := true } }) ∨
    ((v.state = .stateWaitcnxack ∨ v.state = .stateWaitcea ∨ v.state = .stateClosingGrace) ∧
      (w = v.closed ∨ w = v.reset ∨ w = v.ended)) ∨
    v.state = .stateWaitcnxackElec := by
  have hcloses : PeerView.Closes .timeout v →
      v.state = .stateWaitcnxack ∨ v.state = .stateWaitcea ∨ v.state = .stateClosingGrace := by
    intro hv
    rcases hv with hv | hv | hv
    · exact .inl hv
    · exact .inr (.inl hv)
    · exact .inr (.inr hv.1)
  cases h with
  | stay hi => exact absurd rfl hi
  | confirm hi => exact absurd rfl hi
  | connect hv => exact .inl ⟨hv, rfl⟩
  | refuse hv => exact .inr (.inr (.inr (.inr (.inr hv.1))))
  | opens hv => exact .inr (.inr (.inr (.inr (.inr hv.1))))
  | opensNew hv => exact .inr (.inr (.inr (.inr (.inr hv.1))))
  | opensSuspect hv => exact .inr (.inr (.inr (.inr (.inr hv.1))))
  | reopens hv => exact .inr (.inr (.inr (.inr (.inr hv.1))))
  | handshake hv => exact .inr (.inr (.inr (.inr (.inr hv.1))))
  | probe hv hdw => exact .inr (.inl ⟨hv, hdw, rfl⟩)
  | suspect hv hdw => exact .inr (.inr (.inl ⟨hv, hdw, rfl⟩))
  | breaks hv => exact .inr (.inr (.inr (.inl ⟨hv, rfl⟩)))
  | closes hv => exact .inr (.inr (.inr (.inr (.inl ⟨hcloses hv, .inl rfl⟩))))
  | resets hv => exact .inr (.inr (.inr (.inr (.inl ⟨hcloses hv, .inr (.inl rfl)⟩))))
  | grace hi => simp at hi
  | ends hv =>
    rcases hv with ⟨hv, -⟩ | hv
    · exact .inr (.inr (.inr (.inr (.inl ⟨.inr (.inr hv), .inr (.inr rfl)⟩))))
    · exact .inr (.inr (.inr (.inr (.inr hv))))

theorem gone_reset (h : v.flags.cnxPb = true) : PeerView.Gone v.reset := by
  unfold PeerView.reset
  split
  · exact ⟨.inr rfl, rfl⟩
  · exact ⟨.inl ⟨h, .inl rfl⟩, rfl⟩

theorem gone_timeout (h : Move .timeout v w) (hv : PeerView.Gone v) : PeerView.Gone w := by
  obtain ⟨hv, hcnx⟩ := hv
  rcases timeout_cases h with ⟨hs, rfl⟩ | ⟨hs, -⟩ | ⟨hs, -⟩ | ⟨hs, -⟩ | ⟨hs, hw⟩ | hs
  · simp only [hs, reduceCtorEq, or_false, and_true] at hv
    exact ⟨.inl ⟨hv, .inr rfl⟩, hcnx⟩
  · rcases hv with ⟨-, hv | hv⟩ | hv
    all_goals simp [hv, PeerView.up] at hs
  · rcases hv with ⟨-, hv | hv⟩ | hv
    all_goals simp [hv, PeerView.up] at hs
  · simp [hs] at hv
  · rcases hv with ⟨hpb, -⟩ | hv
    · rcases hw with rfl | rfl | rfl
      · exact ⟨.inl ⟨hpb, .inl rfl⟩, rfl⟩
      · exact gone_reset hpb
      · exact ⟨.inr rfl, rfl⟩
    · simp [hv] at hs
  · simp [hs] at hv

theorem suspect_timeout (h : Move .timeout v w) (hv : v.state = .stateSuspect) :
    PeerView.Gone w := by
  rcases timeout_cases h with ⟨hs, -⟩ | ⟨hs, -⟩ | ⟨hs, -⟩ | ⟨-, rfl⟩ | ⟨hs, -⟩ | hs
  · simp [hv] at hs
  · simp [hv, PeerView.up] at hs
  · simp [hv, PeerView.up] at hs
  · exact gone_reset rfl
  · simp [hv] at hs
  · simp [hv] at hs

theorem up_timeout (h : Move .timeout v w) (hs : PeerView.up v.state = true) :
    (v.flags.dwPending = false ∧ PeerView.up w.state = true ∧ w.flags.dwPending = true) ∨
    w.state = .stateSuspect := by
  rcases timeout_cases h with ⟨hv, -⟩ | ⟨-, hdw, rfl⟩ | ⟨-, -, rfl⟩ | ⟨hv, -⟩ | ⟨hv, -⟩ | hv
  · simp [hv, PeerView.up] at hs
  · exact .inl ⟨hdw, hs, rfl⟩
  · exact .inr rfl
  · simp [hv, PeerView.up] at hs
  · rcases hv with hv | hv | hv
    all_goals simp [hv, PeerView.up] at hs
  · simp [hv, PeerView.up] at hs

theorem ne_handshake_of_fading {n : Nat} (hv : PeerView.Fading n v) :
    v.state ≠ .stateOpenHandshake := by
  intro hs
  match n, hv with
  | 0, hv => simp [PeerView.Fading, hs, PeerView.up] at hv
  | 1, hv => simp [PeerView.Fading, hs, PeerView.up] at hv
  | 2, hv => simp [PeerView.Fading, PeerView.Gone, hs] at hv
  | n + 3, hv => simp [PeerView.Fading, PeerView.Gone, hs] at hv

/-- One more timeout. -/
theorem fading_timeout {n : Nat} (h : Move .timeout v w) (hv : PeerView.Fading n v) :
    PeerView.Fading (n + 1) w := by
  match n, hv with
  | 0, hv => exact (up_timeout h hv).imp (fun hw => hw.2) id
  | 1, hv =>
    rcases hv with ⟨hup, hdw⟩ | hs
    · rcases up_timeout h hup with ⟨hdw', -⟩ | hw
      · simp [hdw] at hdw'
      · exact .inl hw
    · exact .inr (suspect_timeout h hs)
  | 2, hv =>
    rcases hv with hs | hgone
    · exact suspect_timeout h hs
    · exact gone_timeout h hgone
  | n + 3, hv => exact gone_timeout h hv

theorem fading_advance {n : Nat} (h : Advance (some .timeout) v w) (hv : PeerView.Fading n v) :
    PeerView.Fading (n + 1) w := by
  cases h with
  | turn _ hm => exact fading_timeout hm hv
  | stuck hs => exact absurd hs (ne_handshake_of_fading hv)

section

open Psm (Step after)

/-- A connection that is up and of which nothing is heard is probed at the first timeout, if it
is not yet, suspected at the second, and given up as broken at the third; until the peer is
heard of, or a CER starts its machine again, it has no connection then. -/
theorem silent_peer (c : PeerConfig) (l : Psm.Launch) (g h : List (Step β))
    (hup : PeerView.up (after c l g).state = true)
    (hsilent : Throughout (fun h' s => silent c l (h' ++ g) s) h) :
    PeerView.Fading (turnsAfter c l g h) (peerView (after c l (h ++ g))) := by
  induction h with
  | nil => exact hup
  | cons s h ih =>
    obtain ⟨⟨hread, hrestart⟩, hrest⟩ := hsilent
    have hadvance := after_advances c l (h ++ g) s
    have hih := ih hrest
    rw [turnsAfter]
    cases hr : reads (after c l (h ++ g)) s with
    | none =>
      obtain ⟨-, -, hview⟩ := step_idle (c := c) (shape_after c l (h ++ g)).1 hr hrestart
      show PeerView.Fading _ (peerView ((after c l (h ++ g)).step c s))
      rw [hview]
      exact hih
    | some i =>
      rw [hr, hread i hr] at hadvance
      exact fading_advance hadvance hih

/-- Three timeouts, with nothing in between. -/
def sampleSilence : List (Step Unit) :=
  [.turn ⟨200 * Psm.second, 0, 0⟩, .turn ⟨100 * Psm.second, 0, 0⟩, .turn ⟨50 * Psm.second, 0, 0⟩]

theorem silent_peer_sample :
    PeerView.up (after samplePeer sampleLaunch (sampleTurn sampleCer)).state = true ∧
    turnsAfter samplePeer sampleLaunch (sampleTurn sampleCer) sampleSilence = 3 ∧
    PeerView.Fading (turnsAfter samplePeer sampleLaunch (sampleTurn sampleCer) sampleSilence)
      (peerView (after samplePeer sampleLaunch (sampleSilence ++ sampleTurn sampleCer))) := by
  have hread : ∀ (p : Psm Unit) (s : Step Unit), reads p s = some .timeout →
      ∀ i, reads p s = some i → i = .timeout := fun p s hs i hi =>
    Option.some.inj (hi.symm.trans hs)
  exact ⟨by decide, by decide, silent_peer _ _ _ _ (by decide)
    ⟨⟨hread _ _ (by decide), by simp⟩, ⟨hread _ _ (by decide), by simp⟩,
      ⟨hread _ _ (by decide), by simp⟩, trivial⟩⟩

end

end Twag.Proof.Diameter

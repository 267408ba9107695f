import Twag.Proof.Core.Handshake
import Twag.Proof.Core.Race

/-!
# Events of different UEs

Two events for two different stored sessions may be processed in either order
(`independent`): each session does what it does alone, since the other event
neither changes it nor, as long as TEIDs are distinct, hides it from the scan.
The timer loop runs its timers in the order of their expiry; what is
independent is the callback of each.
-/

namespace Twag.Proof.Core

open Twag.Impl Twag.Spec

/-- What may happen for a session: an event, or the callback of its S2a timer. -/
inductive Occurrence where
  | event (ev : Event)
  | s2aTimer (mac : Bytes)

/-- The handler that an occurrence runs. -/
def handle (core : TwagCore) (env : Env) : Occurrence → TwagCore × List Effect
  | .event ev => core.step ⟨env, ev⟩
  | .s2aTimer mac => core.s2aTimeout env mac

/-- The session that an occurrence is for. A turn of the timer loop is for none
before it has taken a timer. -/
def addressee (core : TwagCore) (env : Env) : Occurrence → Option (Bytes × UeEvent)
  | .event .timer => none
  | .event ev => deliver core ⟨env, ev⟩
  | .s2aTimer mac => some (mac, .timeout)

variable {core core' : TwagCore} {env : Env} {c : Occurrence} {m : Bytes} {e : UeEvent}
  {s : UeSession m}

theorem config_handle (core : TwagCore) (env : Env) (c : Occurrence) :
    (handle core env c).1.config = core.config := by
  cases c with
  | event ev => exact config_step core ⟨env, ev⟩
  | s2aTimer mac =>
    simp only [handle, TwagCore.s2aTimeout]
    repeat' split
    all_goals first | rfl | exact config_disconnectUe core env mac

theorem follows_handle (ha : addressee core env c = some (m, e)) (hs : core.getSession m = some s) :
    Follows core (handle core env c) s (react core.config env s e) := by
  cases c with
  | event ev =>
    have hd : deliver core ⟨env, ev⟩ = some (m, e) := by
      cases ev with
      | timer => cases ha
      | _ => exact ha
    exact step_stored hd hs
  | s2aTimer mac =>
    cases ha
    exact follows_s2aTimeout core env hs

/-! ## What a step for one session leaves of the rest -/

/-- How many sessions an outcome removes. -/
def removed (o : Outcome m) : Nat := if o.session.isNone then 1 else 0

/-- The counters after a step, from those before it. -/
structure Counted (sm sm' : SessionManager) (n : Nat) : Prop where
  active : sm'.getActiveSessionsCount + n = sm.getActiveSessionsCount
  connections : sm'.totalConnections = sm.totalConnections
  disconnections : sm'.totalDisconnections = sm.totalDisconnections + UInt64.ofNat n
  rejected : sm'.totalRejectedSessions = sm.totalRejectedSessions
  nextTeid : sm'.nextTeid = sm.nextTeid

theorem Follows.counted {next : TwagCore × List Effect} {o : Outcome m}
    (hf : Follows core next s o) (hs : core.getSession m = some s) :
    Counted core.sessionManager next.1.sessionManager (removed o) := by
  have kept : ∀ {sm : SessionManager}, sm = core.sessionManager → o.session.isNone = false →
      Counted core.sessionManager sm (removed o) := by
    rintro sm rfl ho
    rw [removed, ho]
    exact ⟨rfl, rfl, (UInt64.add_zero _).symm, rfl, rfl⟩
  rcases hf.2 with ⟨hk, ho⟩ | hr
  · exact kept hk (by rw [ho]; rfl)
  · rw [hr]
    cases ho : o.session with
    | none =>
      obtain ⟨hconn, hdisc, hrej⟩ := SessionManager.totals_removeSession hs
      rw [removed, ho]
      exact ⟨SessionManager.count_removeSession hs, hconn, hdisc, hrej,
        SessionManager.nextTeid_removeSession _ m⟩
    | some s' =>
      rw [removed, ho]
      exact ⟨SessionManager.count_put s' hs, rfl, (UInt64.add_zero _).symm, rfl, rfl⟩

theorem Counted.stats_eq {sm sm₁ sm₂ : SessionManager} {n : Nat} (h₁ : Counted sm sm₁ n)
    (h₂ : Counted sm sm₂ n) : sm₁.getStats = sm₂.getStats := by
  have hact : sm₁.getActiveSessionsCount = sm₂.getActiveSessionsCount := by
    have := h₁.active
    have := h₂.active
    omega
  rw [SessionManager.getStats, SessionManager.getStats, hact, h₁.connections, h₂.connections,
    h₁.disconnections, h₂.disconnections, h₁.rejected, h₂.rejected]

/-- A step keeps TEIDs distinct. -/
theorem Follows.distinctTeids {next : TwagCore × List Effect}
    (hf : Follows core next s (react core.config env s e)) (hs : core.getSession m = some s)
    (hu : DistinctTeids core) : DistinctTeids next.1 := by
  -- every session that is stored after the step had its TEID before it
  have before : ∀ m' (s' : UeSession m'), next.1.getSession m' = some s' →
      ∃ s₀, core.getSession m' = some s₀ ∧ s₀.gtpTeidC = s'.gtpTeidC := by
    intro m' s' hs'
    by_cases hm : m' = m
    · subst hm
      rw [hf.getSession hs] at hs'
      exact ⟨s, hs, (react_teids hs').1.symm⟩
    · exact ⟨s', by rw [← hf.getSession_ne hm, hs'], rfl⟩
  intro m₁ m₂ s₁ s₂ hs₁ hs₂ ht
  obtain ⟨s₁', hs₁', ht₁⟩ := before m₁ s₁ hs₁
  obtain ⟨s₂', hs₂', ht₂⟩ := before m₂ s₂ hs₂
  exact hu m₁ m₂ s₁' s₂' hs₁' hs₂' (by rw [ht₁, ht₂, ht])

/-- With distinct TEIDs, an occurrence is for the same session as long as that
is stored unchanged. -/
theorem addressee_kept (ha : addressee core env c = some (m, e)) (hs : core.getSession m = some s)
    (hs' : core'.getSession m = some s) (hu : DistinctTeids core') :
    addressee core' env c = some (m, e) := by
  have teid_kept : ∀ {teid : UInt32} {ue : UeEvent},
      (core.sessionManager.getSessionByTeidC env.iteration teid).map (fun p => (p.1, ue)) =
        some (m, e) →
      (core'.sessionManager.getSessionByTeidC env.iteration teid).map (fun p => (p.1, ue)) =
        some (m, e) := by
    intro teid ue hd
    obtain ⟨hf, rfl⟩ := deliver_teid hd hs
    obtain rfl := (SessionManager.getSessionByTeidC_stored hf).2
    rw [SessionManager.getSessionByTeidC_of_unique env.iteration hs'
      fun m' s' h' ht => hu m' m s' s h' hs' ht]
    rfl
  cases c with
  | s2aTimer mac => exact ha
  | event ev =>
    cases ev with
    | createSessionResponse teid success pgwTeid ueIp qci => exact teid_kept ha
    | deleteBearerRequest teid => exact teid_kept ha
    | _ => exact ha

/-! ## Two steps -/

section

variable {core : TwagCore} {env₁ env₂ : Env} {c₁ c₂ : Occurrence} {m₁ m₂ : Bytes}
  {e₁ e₂ : UeEvent} {s₁ : UeSession m₁} {s₂ : UeSession m₂}

/-- After a step for `m₁`, the occurrence for `m₂` does what it does without it. -/
theorem follows_second (hu : DistinctTeids core) (ha₁ : addressee core env₁ c₁ = some (m₁, e₁))
    (ha₂ : addressee core env₂ c₂ = some (m₂, e₂)) (hs₁ : core.getSession m₁ = some s₁)
    (hs₂ : core.getSession m₂ = some s₂) (hne : m₂ ≠ m₁) :
    (handle core env₁ c₁).1.getSession m₂ = some s₂ ∧
      Follows (handle core env₁ c₁).1 (handle (handle core env₁ c₁).1 env₂ c₂) s₂
        (react core.config env₂ s₂ e₂) := by
  have hf₁ := follows_handle ha₁ hs₁
  have hs₂' : (handle core env₁ c₁).1.getSession m₂ = some s₂ := (hf₁.getSession_ne hne).trans hs₂
  have ha₂' := addressee_kept ha₂ hs₂ hs₂' (hf₁.distinctTeids hs₁ hu)
  have hf₂ := follows_handle ha₂' hs₂'
  rw [config_handle] at hf₂
  exact ⟨hs₂', hf₂⟩

/-- The session of any `m` after both steps. -/
theorem getSession_second (hu : DistinctTeids core)
    (ha₁ : addressee core env₁ c₁ = some (m₁, e₁))
    (ha₂ : addressee core env₂ c₂ = some (m₂, e₂)) (hs₁ : core.getSession m₁ = some s₁)
    (hs₂ : core.getSession m₂ = some s₂) (hne : m₂ ≠ m₁) :
    (handle (handle core env₁ c₁).1 env₂ c₂).1.getSession m₁ =
        (react core.config env₁ s₁ e₁).session ∧
      (handle (handle core env₁ c₁).1 env₂ c₂).1.getSession m₂ =
        (react core.config env₂ s₂ e₂).session ∧
      ∀ m, m ≠ m₁ → m ≠ m₂ →
        (handle (handle core env₁ c₁).1 env₂ c₂).1.getSession m = core.getSession m := by
  have hf₁ := follows_handle ha₁ hs₁
  obtain ⟨hs₂', hf₂⟩ := follows_second hu ha₁ ha₂ hs₁ hs₂ hne
  refine ⟨?_, hf₂.getSession hs₂', fun m hm₁ hm₂ => ?_⟩
  · rw [hf₂.getSession_ne hne.symm, hf₁.getSession hs₁]
  · rw [hf₂.getSession_ne hm₂, hf₁.getSession_ne hm₁]

theorem counted_second (hu : DistinctTeids core) (ha₁ : addressee core env₁ c₁ = some (m₁, e₁))
    (ha₂ : addressee core env₂ c₂ = some (m₂, e₂)) (hs₁ : core.getSession m₁ = some s₁)
    (hs₂ : core.getSession m₂ = some s₂) (hne : m₂ ≠ m₁) :
    Counted core.sessionManager (handle (handle core env₁ c₁).1 env₂ c₂).1.sessionManager
      (removed (react core.config env₁ s₁ e₁) + removed (react core.config env₂ s₂ e₂)) := by
  have h₁ := (follows_handle ha₁ hs₁).counted hs₁
  obtain ⟨hs₂', hf₂⟩ := follows_second hu ha₁ ha₂ hs₁ hs₂ hne
  have h₂ := hf₂.counted hs₂'
  refine ⟨?_, h₂.connections.trans h₁.connections, ?_, h₂.rejected.trans h₁.rejected,
    h₂.nextTeid.trans h₁.nextTeid⟩
  · have hact₁ := h₁.active
    have hact₂ := h₂.active
    omega
  · rw [h₂.disconnections, h₁.disconnections, UInt64.ofNat_add, UInt64.add_assoc]

end

/-- In a reachable state with distinct TEIDs, two occurrences for two different
stored sessions leave the same sessions and counters and make the same calls for
each, in either order; and each changes no session but its own. -/
theorem independent (boot : Boot) (h : List Input) (hu : DistinctTeids (boot.after h))
    (c₁ c₂ : Occurrence) (env₁ env₂ : Env) (m₁ m₂ : Bytes) (e₁ e₂ : UeEvent) (s₁ : UeSession m₁)
    (s₂ : UeSession m₂) (ha₁ : addressee (boot.after h) env₁ c₁ = some (m₁, e₁))
    (ha₂ : addressee (boot.after h) env₂ c₂ = some (m₂, e₂))
    (hs₁ : (boot.after h).getSession m₁ = some s₁)
    (hs₂ : (boot.after h).getSession m₂ = some s₂) (hne : m₁ ≠ m₂) :
    let core := boot.after h
    let first := handle core env₁ c₁
    let second := handle core env₂ c₂
    let ab := handle first.1 env₂ c₂
    let ba := handle second.1 env₁ c₁
    (∀ m, ab.1.getSession m = ba.1.getSession m) ∧
      ab.1.sessionManager.getStats = ba.1.sessionManager.getStats ∧
      ab.1.sessionManager.nextTeid = ba.1.sessionManager.nextTeid ∧
      ba.2 = first.2 ∧ ab.2 = second.2 ∧
      (∀ m, m ≠ m₁ → first.1.getSession m = core.getSession m) ∧
      ∀ m, m ≠ m₂ → second.1.getSession m = core.getSession m := by
  intro core first second ab ba
  have hf₁ := follows_handle ha₁ hs₁
  have hf₂ := follows_handle ha₂ hs₂
  obtain ⟨hab₁, hab₂, hab⟩ := getSession_second hu ha₁ ha₂ hs₁ hs₂ hne.symm
  obtain ⟨hba₂, hba₁, hba⟩ := getSession_second hu ha₂ ha₁ hs₂ hs₁ hne
  have cab := counted_second hu ha₁ ha₂ hs₁ hs₂ hne.symm
  have cba := counted_second hu ha₂ ha₁ hs₂ hs₁ hne
  refine ⟨fun m => ?_, ?_, cab.nextTeid.trans cba.nextTeid.symm, ?_, ?_,
    fun m hm => hf₁.getSession_ne hm, fun m hm => hf₂.getSession_ne hm⟩
  · by_cases hm₁ : m = m₁
    · subst hm₁
      exact hab₁.trans hba₁.symm
    by_cases hm₂ : m = m₂
    · subst hm₂
      exact hab₂.trans hba₂.symm
    exact (hab m hm₁ hm₂).trans (hba m hm₂ hm₁).symm
  · rw [Nat.add_comm] at cba
    exact cab.stats_eq cba
  · exact (follows_second hu ha₂ ha₁ hs₂ hs₁ hne).2.1.trans hf₁.1.symm
  · exact (follows_second hu ha₁ ha₂ hs₁ hs₂ hne.symm).2.1.trans hf₂.1.symm

/-- While the sample UE is connected, another one attaches. -/
def samplePair : List Input :=
  sampleAt 40 (.accessRequest { sampleRequest 2 [] with macAddr := sampleOtherMac } none) ::
    sampleHandshake

theorem distinctTeids_pair : DistinctTeids (sampleBoot.after samplePair) := by
  have both : ∀ m s, (sampleBoot.after samplePair).getSession m = some s →
      m = sampleOtherMac ∧ s.gtpTeidC = 3 ∨ m = sampleMac ∧ s.gtpTeidC = 1 := by
    intro m s hs
    have hk : (sampleBoot.after samplePair).sessionManager.sessions.keys =
      [sampleOtherMac, sampleMac] := by decide
    have hm : m ∈ (sampleBoot.after samplePair).sessionManager.sessions.keys :=
      SessionManager.mem_keys_iff.mpr (stored_of_eq hs)
    have ht := congrArg (Option.map UeSession.gtpTeidC) hs
    rw [hk, List.mem_cons, List.mem_singleton] at hm
    rcases hm with rfl | rfl
    · exact .inl ⟨rfl, (Option.some.inj (ht.symm.trans (by decide))).trans rfl⟩
    · exact .inr ⟨rfl, (Option.some.inj (ht.symm.trans (by decide))).trans rfl⟩
  intro m m' s s' hs hs' ht
  rcases both m s hs with ⟨hm, h₁⟩ | ⟨hm, h₁⟩ <;> rcases both m' s' hs' with ⟨hm', h₂⟩ | ⟨hm', h₂⟩
  · exact hm.trans hm'.symm
  · exact absurd (h₁.symm.trans (ht.trans h₂)) (by decide)
  · exact absurd (h₁.symm.trans (ht.trans h₂)) (by decide)
  · exact hm.trans hm'.symm

/-- The P-GW ends the session of the sample UE, and the other UE is accepted. -/
theorem independent_sample :
    let core := sampleBoot.after samplePair
    let bearer := Occurrence.event (.deleteBearerRequest 1)
    let dea := Occurrence.event (.dea { sampleDea 2001 with macAddr := sampleOtherMac } none)
    let env := sampleEnv 50000000
    addressee core env bearer = some (sampleMac, .deleteBearer) ∧
      ∀ m, (handle (handle core env bearer).1 env dea).1.getSession m =
        (handle (handle core env dea).1 env bearer).1.getSession m := by
  intro core bearer dea env
  obtain ⟨s₁, hs₁⟩ := Option.isSome_iff_exists.mp
    (show (core.getSession sampleMac).isSome = true by decide)
  obtain ⟨s₂, hs₂⟩ := Option.isSome_iff_exists.mp
    (show (core.getSession sampleOtherMac).isSome = true by decide)
  have ha : addressee core env bearer = some (sampleMac, .deleteBearer) := rfl
  exact ⟨ha, (independent sampleBoot samplePair distinctTeids_pair bearer dea env env sampleMac
    sampleOtherMac _ _ s₁ s₂ ha rfl hs₁ hs₂ (by decide)).1⟩

end Twag.Proof.Core

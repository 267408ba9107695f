import Twag.Proof.Core.Handshake

/-!
# The S2a timer

A session waits for the P-GW from the Create Session Request until the
response, a new attempt, or the timer that `on_dea_received` armed. Timers are
known by the MAC address only and are never cancelled:

* `waiting_timed`: so a session that waits always has a timer, due 3000 ms after
  its request at the latest, and once the expired timers have run, it waits no
  longer;
* `patient_of_ownTimer`: and it is given its 3000 ms if the timer that meets it
  is the one its own request armed;
* `stale_timer`: otherwise, the timer of an earlier attempt ends it early.
-/

namespace Twag.Proof.Core

open Twag.Impl Twag.Spec

variable {core : TwagCore} {x : Input} {m : Bytes} {s s' : UeSession m} {t : Time}

/-! ## What a step does to the timers -/

/-- Only a DEA and an expired timer change the timers. -/
theorem eventLoop_other (hd : ∀ dea a, x.event ≠ .dea dea a) (ht : x.event ≠ .timer) :
    (core.step x).1.eventLoop = core.eventLoop := by
  rw [step_other hd ht]

/-- A DEA arms the timer of its session if the session says so. -/
theorem eventLoop_dea {dea : Dea} {a : Option Nat} (hx : x.event = .dea dea a) :
    (core.step x).1.eventLoop =
      match core.getSession dea.macAddr with
      | none => core.eventLoop
      | some s =>
        if (react core.config x.env s (.dea dea)).armed then
          core.eventLoop.addTimer x.env.now 3000 (.s2aTimeout dea.macAddr)
        else core.eventLoop := by
  simp only [TwagCore.step, hx, TwagCore.onDeaReceived]
  cases core.getSession dea.macAddr with
  | none => rfl
  | some s =>
    by_cases hp : s.state = .authPending
    · have hre : react core.config x.env s (.dea dea) = onAnswer core.config x.env s dea :=
        if_pos hp
      simp only [if_neg (not_not.mpr hp), hre, onAnswer]
      split
      · rfl
      split
      · generalize sendCreateSessionRequest x.env core.config
          (TwagCore.applyProfile core.config x.env s dea) = r
        obtain ⟨sent, s', effects⟩ := r
        cases sent <;> rfl
      · rfl
    · have hk : react core.config x.env s (.dea dea) = .keep s := if_neg hp
      simp only [if_pos hp, hk]
      rfl

theorem eventLoop_s2aTimeout (core : TwagCore) (env : Env) (mac : Bytes) :
    (core.s2aTimeout env mac).1.eventLoop = core.eventLoop := by
  simp only [TwagCore.s2aTimeout, TwagCore.disconnectUe]
  split <;> [rfl; split <;> rfl]

/-- An expired timer is taken off, and the statistics timer armed again. -/
theorem eventLoop_timer (hx : x.event = .timer) :
    (core.step x).1.eventLoop =
      match core.eventLoop.popDue x.env.now with
      | none => core.eventLoop
      | some (.s2aTimeout _, loop) => loop
      | some (.logStatistics, loop) =>
        ({ core with eventLoop := loop }.armStatistics x.env.now).eventLoop := by
  simp only [TwagCore.step, hx, TwagCore.runTimer]
  cases core.eventLoop.popDue x.env.now with
  | none => rfl
  | some p =>
    obtain ⟨cb, loop⟩ := p
    cases cb with
    | s2aTimeout mac => exact eventLoop_s2aTimeout _ x.env mac
    | logStatistics => rfl

/-- Everything a step does with the timers. -/
inductive LoopStep (core : TwagCore) (x : Input) : Prop
  | keeps (hp : x.event = .timer → core.eventLoop.popDue x.env.now = none)
    (hl : (core.step x).1.eventLoop = core.eventLoop)
  | arms {dea : Dea} {a : Option Nat} {s : UeSession dea.macAddr} (hx : x.event = .dea dea a)
    (hs : core.getSession dea.macAddr = some s)
    (ha : (react core.config x.env s (.dea dea)).armed = true)
    (hl : (core.step x).1.eventLoop =
      core.eventLoop.addTimer x.env.now 3000 (.s2aTimeout dea.macAddr))
  | fires {m : Bytes} {loop : EventLoop TimerCallback} (hx : x.event = .timer)
    (hp : core.eventLoop.popDue x.env.now = some (.s2aTimeout m, loop))
    (hl : (core.step x).1.eventLoop = loop)
  | logs {loop : EventLoop TimerCallback} (hx : x.event = .timer)
    (hp : core.eventLoop.popDue x.env.now = some (.logStatistics, loop))
    (hl : (core.step x).1.eventLoop =
      ({ core with eventLoop := loop }.armStatistics x.env.now).eventLoop)

theorem loop_step (core : TwagCore) (x : Input) : LoopStep core x := by
  by_cases ht : x.event = .timer
  · have hl : (core.step x).1.eventLoop = _ := eventLoop_timer ht
    cases hp : core.eventLoop.popDue x.env.now with
    | none => exact .keeps (fun _ => hp) (by rw [hl, hp])
    | some p =>
      obtain ⟨cb, loop⟩ := p
      rw [hp] at hl
      cases cb with
      | s2aTimeout mac => exact .fires ht hp hl
      | logStatistics => exact .logs ht hp hl
  by_cases hd : ∃ dea a, x.event = .dea dea a
  · obtain ⟨dea, a, hx⟩ := hd
    have hl : (core.step x).1.eventLoop = _ := eventLoop_dea hx
    cases hs : core.getSession dea.macAddr with
    | none => exact .keeps (fun ht' => absurd ht' ht) (by rw [hl, hs])
    | some s =>
      rw [hs] at hl
      simp only at hl
      split at hl
      · rename_i ha
        exact .arms hx hs ha hl
      · exact .keeps (fun ht' => absurd ht' ht) hl
  · exact .keeps (fun ht' => absurd ht' ht) (eventLoop_other (fun dea a hx => hd ⟨dea, a, hx⟩) ht)

theorem pending_armStatistics (core : TwagCore) (now : Time) :
    (core.armStatistics now).eventLoop.Pending t (.s2aTimeout m) ↔
      core.eventLoop.Pending t (.s2aTimeout m) := by
  rw [TwagCore.armStatistics]
  split
  · simp only [EventLoop.pending_addTimer, reduceCtorEq, and_false, false_or]
  · rfl

/-- The S2a timers after a step: those there were, less one that fires, and the
one that a DEA arms. -/
theorem pending_step (ht : (core.step x).1.eventLoop.Pending t (.s2aTimeout m)) :
    core.eventLoop.Pending t (.s2aTimeout m) ∨
      t = x.env.now + milliseconds 3000 ∧ ∃ dea s, deliver core x = some (m, .dea dea) ∧
        core.getSession m = some s ∧ (react core.config x.env s (.dea dea)).armed = true := by
  cases loop_step core x with
  | keeps _ hl => exact .inl (hl ▸ ht)
  | arms hx hs ha hl =>
    rw [hl] at ht
    rcases EventLoop.pending_addTimer.mp ht with ⟨rfl, hm⟩ | ht
    · cases hm
      exact .inr ⟨rfl, _, _, by simp only [deliver, hx], hs, ha⟩
    · exact .inl ht
  | fires _ hp hl =>
    rw [hl] at ht
    exact .inl (EventLoop.pending_of_popDue hp ht)
  | logs _ hp hl =>
    rw [hl, pending_armStatistics] at ht
    exact .inl (EventLoop.pending_of_popDue hp ht)

/-- A timer for `m` stays pending until one for `m` fires. -/
theorem pending_stays (ht : core.eventLoop.Pending t (.s2aTimeout m))
    (hd : deliver core x ≠ some (m, .timeout)) :
    (core.step x).1.eventLoop.Pending t (.s2aTimeout m) := by
  cases loop_step core x with
  | keeps _ hl => rwa [hl]
  | arms _ _ _ hl =>
    rw [hl]
    exact EventLoop.pending_addTimer.mpr (.inr ht)
  | fires hx hp hl =>
    rw [hl]
    refine EventLoop.pending_popDue hp ht ?_
    intro he
    cases he
    exact hd (by simp only [deliver, hx, hp])
  | logs hx hp hl =>
    rw [hl, pending_armStatistics]
    exact EventLoop.pending_popDue hp ht (fun he => by cases he)

/-- A session that begins to wait has its timer armed. -/
theorem pending_armed {dea : Dea} (hd : deliver core x = some (m, .dea dea))
    (hs : core.getSession m = some s) (ha : (react core.config x.env s (.dea dea)).armed = true) :
    (core.step x).1.eventLoop.Pending (x.env.now + milliseconds 3000) (.s2aTimeout m) := by
  obtain ⟨a, hx, rfl⟩ := deliver_dea hd
  rw [eventLoop_dea hx, hs]
  simp only [ha, ite_true]
  exact EventLoop.pending_addTimer.mpr (.inl ⟨rfl, rfl⟩)

/-! ## A session that waits has a timer -/

/-- The attempt for which the session of `m` waits: its Create Session Request
was sent at `t₀`, and its state has not been moved since. -/
def Attempt (boot : Boot) (m : Bytes) (t₀ : Time) : List Input → Prop :=
  Since (fun g y => CreateSent boot m g y ∧ y.env.now = t₀) (Unmoved boot m)

variable {boot : Boot} {h : List Input}

/-- A session that waits has the timer that its own request armed: a timer for
its MAC address that fires would have removed it. -/
theorem waiting (hs : (boot.after h).getSession m = some s) (hp : s.state = .gtpCreatePending) :
    ∃ t₀, Attempt boot m t₀ h ∧
      (boot.after h).eventLoop.Pending (t₀ + milliseconds 3000) (.s2aTimeout m) := by
  induction hs using stored_induction with
  | reacts h x e s₀ s hs hd hs₀ hr he ih =>
    cases moves hr with
    | stays hst hn =>
      have hp₀ : s₀.state = .gtpCreatePending := hst ▸ hp
      obtain ⟨t₀, hat, ht⟩ := ih hp₀
      refine ⟨t₀, .later (unmoved_react hs₀ hs he hst hn) hat, pending_stays ht ?_⟩
      rw [hd]
      rintro ⟨⟩
      simp [react, hp₀] at hr
    | asks req hq hst => exact absurd (hst.symm.trans hp) (by decide)
    | accepts dea hq hc hp₀ hst hcsr ha =>
      subst hq
      have hx : CreateSent boot m h x := createSent_react hd hc hs₀ hp₀ he ⟨_, hcsr⟩
      rw [← config_after boot h] at ha
      exact ⟨x.env.now, Or.inl ⟨hx, rfl⟩, pending_armed hd hs₀ ha⟩
    | connects _ _ _ _ _ hst => exact absurd (hst.symm.trans hp) (by decide)
  | attaches h x req c s hs hx hm hn hc hr he =>
    rcases attach_cases hr with hst | ⟨hst, -⟩
    · exact absurd (hst.symm.trans hp) (by decide)
    · exact absurd (hst.symm.trans hp) (by decide)
  | keeps h x s hs hs₀ hd ih =>
    obtain ⟨t₀, hat, ht⟩ := ih hp
    exact ⟨t₀, .later (unmoved_keeps hs hs₀ hd) hat, pending_stays ht (hd _)⟩

/-! ## The loop over expired timers -/

/-- One turn is one step. -/
theorem runTimer_eq_step (core : TwagCore) (env : Env) :
    core.runTimer env = core.step ⟨env, .timer⟩ := rfl

theorem deliver_timer {env : Env} {e : UeEvent} (hd : deliver core ⟨env, .timer⟩ = some (m, e)) :
    e = .timeout := by
  simp only [deliver] at hd
  split at hd <;> cases hd
  rfl

/-- A timer brings no session back. -/
theorem absent_timer (env : Env) (hn : core.getSession m = none) :
    (core.runTimer env).1.getSession m = none := by
  rw [runTimer_eq_step]
  cases view core ⟨env, .timer⟩ m with
  | reacts e s hd hs => rw [hn] at hs; cases hs
  | attaches req c hx => cases hx
  | refuses req c hx => cases hx
  | keeps hd hg => rw [hg, hn]

/-- A session that waits is removed by a timer for its MAC address, and keeps
its own timer otherwise. -/
theorem waiting_timer (env : Env) (hs : core.getSession m = some s)
    (hp : s.state = .gtpCreatePending) (ht : core.eventLoop.Pending t (.s2aTimeout m)) :
    (core.runTimer env).1.getSession m = none ∨
      (core.runTimer env).1.getSession m = some s ∧
        (core.runTimer env).1.eventLoop.Pending t (.s2aTimeout m) := by
  rw [runTimer_eq_step]
  cases view core ⟨env, .timer⟩ m with
  | reacts e s₀ hd hs₀ hg he =>
    cases hs.symm.trans hs₀
    obtain rfl := deliver_timer hd
    rw [react, if_pos hp] at hg
    exact .inl hg
  | attaches req c hx => cases hx
  | refuses req c hx => cases hx
  | keeps hd hg =>
    refine .inr ⟨hg.trans hs, pending_stays ht fun hd' => ?_⟩
    rw [(hd _ hd').1] at hs
    cases hs

/-- What every turn of the loop keeps holds when it ends, with no expired timer left. -/
theorem drain_invariant {P : TwagCore → Prop} (hP : ∀ core env, P core → P (core.runTimer env).1)
    {envs : List Env} {core' : TwagCore} {now : Time} {effects : List Effect} (h : P core)
    (hd : core.drain envs = some (core', now, effects)) :
    P core' ∧ core'.eventLoop.popDue now = none := by
  induction envs generalizing core effects with
  | nil => cases hd
  | cons env envs ih =>
    simp only [TwagCore.drain] at hd
    split at hd
    · rename_i hnone
      cases hd
      exact ⟨h, hnone⟩
    · obtain ⟨⟨core₁, now₁, effects₁⟩, hd', he⟩ := Option.map_eq_some_iff.mp hd
      cases he
      exact ih (hP core env h) hd'

/-- Once the loop has ended at or after the expiry of its timer, a session that
waited is removed. -/
theorem waiting_drain {envs : List Env} {core' : TwagCore} {now : Time} {effects : List Effect}
    (hs : core.getSession m = some s) (hp : s.state = .gtpCreatePending)
    (ht : core.eventLoop.Pending t (.s2aTimeout m))
    (hd : core.drain envs = some (core', now, effects)) (hle : t ≤ now) :
    core'.getSession m = none := by
  -- the session is gone, or it waits and its timer is still there
  have hP (core : TwagCore) (env : Env)
      (h : core.getSession m = none ∨
        core.getSession m = some s ∧ core.eventLoop.Pending t (.s2aTimeout m)) :
      (core.runTimer env).1.getSession m = none ∨
        (core.runTimer env).1.getSession m = some s ∧
          (core.runTimer env).1.eventLoop.Pending t (.s2aTimeout m) := by
    rcases h with hn | ⟨hs, ht⟩
    · exact .inl (absent_timer env hn)
    · exact waiting_timer env hs hp ht
  obtain ⟨h, hnone⟩ := drain_invariant hP (.inr ⟨hs, ht⟩) hd
  refine h.resolve_right fun ⟨_, ht'⟩ => ?_
  exact absurd hle (Nat.not_le.mpr (EventLoop.not_due_of_popDue hnone ht'))

/-- In every run, a session that waits for the P-GW has a timer that expires
3000 ms after its Create Session Request at the latest; and it is gone once the
loop over expired timers has ended at that time or later. -/
theorem waiting_timed (boot : Boot) (h : List Input) (m : Bytes) (s : UeSession m)
    (hs : (boot.after h).getSession m = some s) (hp : s.state = .gtpCreatePending) :
    ∃ t₀, Since (fun g y => CreateSent boot m g y ∧ y.env.now = t₀) (Unmoved boot m) h ∧
      (∃ t ≤ t₀ + milliseconds 3000, (boot.after h).eventLoop.Pending t (.s2aTimeout m)) ∧
      ∀ envs core' now effects, (boot.after h).drain envs = some (core', now, effects) →
        t₀ + milliseconds 3000 ≤ now → core'.getSession m = none := by
  obtain ⟨t₀, hat, ht⟩ := waiting hs hp
  refine ⟨t₀, hat, ⟨_, Nat.le_refl _, ht⟩, fun envs core' now effects hd hle => ?_⟩
  exact waiting_drain hs hp ht hd hle

theorem waiting_timed_sample :
    ∃ s, (sampleBoot.after sampleWaiting).getSession sampleMac = some s ∧
      s.state = .gtpCreatePending ∧
      ∃ core' effects,
        (sampleBoot.after sampleWaiting).drain [sampleEnv 3020000000, sampleEnv 3020000000] =
          some (core', 3020000000, effects) ∧ core'.getSession sampleMac = none := by
  have hm : ((sampleBoot.after sampleWaiting).getSession sampleMac).map UeSession.state =
    some .gtpCreatePending := by decide
  obtain ⟨s, hs, hp⟩ := Option.map_eq_some_iff.mp hm
  obtain ⟨t₀, hat, -, hdr⟩ := waiting_timed sampleBoot sampleWaiting sampleMac s hs hp
  have ht₀ : t₀ = 20000000 := by
    rcases hat with ⟨-, ht⟩ | ⟨⟨hu, -⟩, -⟩
    · exact ht.symm
    · exact absurd hu (by decide)
  subst ht₀
  have hnow : ((sampleBoot.after sampleWaiting).drain
    [sampleEnv 3020000000, sampleEnv 3020000000]).map (fun r => r.2.1) = some 3020000000 := by
    decide
  obtain ⟨⟨core', now, effects⟩, hd, hn⟩ := Option.map_eq_some_iff.mp hnow
  change now = 3020000000 at hn
  subst hn
  exact ⟨s, hs, hp, core', effects, hd, hdr _ _ _ _ hd (by decide)⟩

/-- The loop ends, while the clock stands, unless the statistics timer is armed
again without a delay. -/
theorem drain_ends {envs : List Env} {now : Time} (hnow : ∀ env ∈ envs, env.now = now)
    (hst : 0 < core.config.statsLogIntervalSec →
      0 < milliseconds (core.config.statsLogIntervalSec * 1000))
    (hlen : core.eventLoop.due now < envs.length) : ∃ r, core.drain envs = some r := by
  induction envs generalizing core with
  | nil => exact absurd hlen (Nat.not_lt_zero _)
  | cons env envs ih =>
    obtain rfl : env.now = now := hnow env List.mem_cons_self
    simp only [TwagCore.drain]
    cases hp : core.eventLoop.popDue env.now with
    | none => exact ⟨_, rfl⟩
    | some p =>
      obtain ⟨cb, loop⟩ := p
      have hdue := EventLoop.due_popDue hp
      have hl : (core.runTimer env).1.eventLoop.due env.now = loop.due env.now := by
        rw [runTimer_eq_step, eventLoop_timer rfl]
        simp only [hp]
        cases cb with
        | s2aTimeout mac => rfl
        | logStatistics =>
          simp only [TwagCore.armStatistics]
          split
          · rename_i hi
            exact EventLoop.due_addTimer (hst hi)
          · rfl
      have hc : (core.runTimer env).1.config = core.config := config_step core ⟨env, .timer⟩
      rw [List.length_cons] at hlen
      obtain ⟨r, hr⟩ := ih (fun env' he => hnow env' (List.mem_cons_of_mem _ he)) (hc ▸ hst)
        (by omega)
      exact ⟨_, by rw [hr]; rfl⟩

/-! ## Whose timer it is -/

/-- A timer removes a session only if the Create Session Request it waits for was
sent 3000 ms ago or earlier. -/
def Patient (boot : Boot) (h : List Input) (x : Input) : Prop :=
  ∀ m s, x.event = .timer → (boot.after h).getSession m = some s →
    (boot.after (x :: h)).getSession m = none →
    ∃ t₀, Attempt boot m t₀ h ∧ t₀ + milliseconds 3000 ≤ x.env.now

/-- A timer that expires at `t` was armed by the last Create Session Request for `m`. -/
def ArmedByLast (boot : Boot) (m : Bytes) (t : Time) : List Input → Prop :=
  Since (fun g y => CreateSent boot m g y ∧ y.env.now + milliseconds 3000 = t)
    (fun g y => ¬ CreateSent boot m g y)

/-- A timer that fires while the session of its MAC address waits was armed by
the last Create Session Request for that MAC address. -/
def OwnTimer (boot : Boot) (h : List Input) (x : Input) : Prop :=
  ∀ m s t rest, x.event = .timer →
    (boot.after h).eventLoop.timers.entries = (t, .s2aTimeout m) :: rest → t ≤ x.env.now →
    (boot.after h).getSession m = some s → s.state = .gtpCreatePending → ArmedByLast boot m t h

/-- A Create Session Request moves the state. -/
theorem createSent_moves (hc : CreateSent boot m h x) : ¬ Unmoved boot m h x := by
  rintro ⟨hu, -⟩
  obtain ⟨s', hs', hst⟩ := createSent_session hc
  obtain ⟨dea, a, s, req, dest, -, -, -, hs, hp, -⟩ := hc
  rw [hs', hs, Option.map_some, Option.map_some, hst, hp] at hu
  cases hu

theorem patient_step (ho : OwnTimer boot h x) : Patient boot h x := by
  intro m s hx hs hn
  cases view_after boot h x m with
  | reacts e s₀ hd hs₀ hg he =>
    cases hs.symm.trans hs₀
    obtain ⟨env, ev⟩ := x
    simp only at hx
    subst hx
    obtain rfl := deliver_timer hd
    have hr : (react boot.config env s .timeout).session = none := hg.symm.trans hn
    have hp : s.state = .gtpCreatePending := by
      rcases removed_cases hr with hq | hq | hq | ⟨-, hp⟩
      · cases hq
      · cases hq
      · cases hq
      · exact hp
    obtain ⟨t₀, hat, -⟩ := waiting hs hp
    obtain ⟨-, loop, hpop⟩ := deliver_timeout hd
    obtain ⟨t, ht, hent⟩ := EventLoop.popDue_cases hpop
    have harm := ho m s t _ rfl hent ht hs hp
    -- the attempt and the timer are of the same request, the last one
    have hboth := hat.and (CreateSent boot m) (fun _ _ h => h.1)
      (fun _ _ hu hc => createSent_moves hc hu) (fun _ _ h => h.1) (fun _ _ h => h) harm
    obtain ⟨g, y, -, ⟨-, hy⟩, -, hy'⟩ := hboth.taken
    refine ⟨t₀, hat, ?_⟩
    rw [← hy, hy']
    exact ht
  | attaches req c hx' => rw [hx] at hx'; cases hx'
  | refuses req c hx' => rw [hx] at hx'; cases hx'
  | keeps hd hg =>
    have hs' := hg.symm.trans hn
    rw [hs] at hs'
    cases hs'

/-- In every run where each timer that meets a waiting session is its own, none
removes a session before its 3000 ms are over. -/
theorem patient_of_ownTimer (boot : Boot) (h : List Input) (ho : Throughout (OwnTimer boot) h) :
    Throughout (Patient boot) h := by
  rw [throughout_iff] at ho ⊢
  intro g x ht
  exact patient_step (ho g x ht)

/-- No Create Session Request goes out for a MAC address that has a timer pending. -/
def Spaced (boot : Boot) (h : List Input) (x : Input) : Prop :=
  ∀ m t, CreateSent boot m h x → ¬ (boot.after h).eventLoop.Pending t (.s2aTimeout m)

/-- The session says that its timer is to be armed where its Create Session
Request is sent. -/
theorem createSent_of_armed {dea : Dea} (hd : deliver (boot.after h) x = some (m, .dea dea))
    (hs : (boot.after h).getSession m = some s)
    (ha : (react boot.config x.env s (.dea dea)).armed = true) : CreateSent boot m h x := by
  have hf := step_stored hd hs
  rw [config_after] at hf
  cases hr : (react boot.config x.env s (.dea dea)).session with
  | none => rcases removed_cases hr with hq | hq | hq | ⟨hq, -⟩ <;> cases hq
  | some s' =>
    cases moves hr with
    | stays _ _ hna => rw [hna] at ha; cases ha
    | asks _ hq => cases hq
    | accepts dea' hq hc hp hst hcsr =>
      cases hq
      exact createSent_react hd hc hs hp hf.1 ⟨_, hcsr⟩
    | connects _ _ _ hq => cases hq

theorem armedByLast_of_spaced (hsp : Throughout (Spaced boot) h)
    (ht : (boot.after h).eventLoop.Pending t (.s2aTimeout m)) : ArmedByLast boot m t h := by
  induction h with
  | nil =>
    simp only [Boot.after, TwagCore.initialized, pending_armStatistics,
      EventLoop.not_pending_new] at ht
  | cons x h ih =>
    obtain ⟨hx, hsp⟩ := hsp
    rcases pending_step ht with ht' | ⟨rfl, dea, s, hd, hs, ha⟩
    · exact .later (fun hc => hx m t hc ht') (ih hsp ht')
    · rw [config_after] at ha
      exact Or.inl ⟨createSent_of_armed hd hs ha, rfl⟩

/-- Requests for one MAC address that are more than a timer apart meet no timer
but their own. -/
theorem ownTimer_of_spaced (hsp : Throughout (Spaced boot) h) (x : Input) : OwnTimer boot h x := by
  rintro m s t rest - hent - - -
  refine armedByLast_of_spaced hsp ?_
  rw [EventLoop.Pending, hent]
  exact List.mem_cons_self

theorem patient_of_ownTimer_sample :
    Throughout (OwnTimer sampleBoot) (sampleAt 3020 .timer :: sampleWaiting) ∧
      Throughout (Patient sampleBoot) (sampleAt 3020 .timer :: sampleWaiting) ∧
      ¬ Stored sampleBoot sampleMac (sampleAt 3020 .timer :: sampleWaiting) := by
  have hsp : Throughout (Spaced sampleBoot) sampleWaiting := by
    refine ⟨fun m t _ ht => ?_, fun m t hc => ?_, trivial⟩
    · have hnil : (sampleBoot.after [sampleAt 10 sampleAttach]).eventLoop.timers.entries = [] := by
        decide
      rw [EventLoop.Pending, hnil] at ht
      cases ht
    · obtain ⟨dea, a, s, req, dest, hx, -⟩ := hc
      cases hx
  have ho : Throughout (OwnTimer sampleBoot) (sampleAt 3020 .timer :: sampleWaiting) :=
    ⟨ownTimer_of_spaced hsp _, ownTimer_of_spaced hsp.2 _, ownTimer_of_spaced hsp.2.2 _, trivial⟩
  exact ⟨ho, patient_of_ownTimer sampleBoot _ ho, by decide⟩

/-- The sample UE connects, and authenticates again within 3 s. -/
def sampleAgain : List Input :=
  [sampleAt 2950 (.dea (sampleDea 2001) (some 3)),
    sampleAt 2900 (.accessRequest (sampleRequest 2 (ascii "001010000000001")) none)] ++
    sampleHandshake

/-- The timer of the first attempt ends the second one after 70 ms. -/
theorem stale_timer :
    ¬ Patient sampleBoot sampleAgain (sampleAt 3020 .timer) ∧
      Attempt sampleBoot sampleMac 2950000000 sampleAgain ∧
      (responses (sampleBoot.effects sampleAgain (sampleAt 3020 .timer))).map
        RadiusResponse.code = [accessReject] ∧
      ¬ Stored sampleBoot sampleMac (sampleAt 3020 .timer :: sampleAgain) := by
  have hm : ((sampleBoot.after sampleAgain).getSession sampleMac).map UeSession.state =
    some .gtpCreatePending := by decide
  obtain ⟨s, hs, hp⟩ := Option.map_eq_some_iff.mp hm
  have sent : ∀ t₀, Attempt sampleBoot sampleMac t₀ sampleAgain → t₀ = 2950000000 := by
    rintro t₀ (⟨-, ht⟩ | ⟨⟨hu, -⟩, -⟩)
    · exact ht.symm
    · exact absurd hu (by decide)
  obtain ⟨t₀, hat, -⟩ := waiting hs hp
  obtain rfl := sent t₀ hat
  have hn : (sampleBoot.after (sampleAt 3020 .timer :: sampleAgain)).getSession sampleMac =
    none := by decide
  refine ⟨fun hpat => ?_, hat, by decide, by decide⟩
  obtain ⟨t₁, hat₁, hle⟩ := hpat sampleMac s rfl hs hn
  obtain rfl := sent t₁ hat₁
  exact absurd hle (by decide)

end Twag.Proof.Core

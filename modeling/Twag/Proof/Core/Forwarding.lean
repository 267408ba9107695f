import Twag.Proof.Core.Kernel

/-!
# Kernel state follows the sessions

What `setup_kernel_gtpu_tunnel` installs and `teardown_kernel_gtpu_tunnel`
removes do not match: a set-up step that fails is not reported, a DSCP rule is
deleted and never added, and a tunnel is added and never deleted.

* `carried_iff`: in a run, the kernel has what every connected session needs and
  nothing that was installed for a session that is removed, exactly if every
  set-up succeeds for a QCI without a DSCP, no session that has had a tunnel is
  removed, and no route that a connected session uses is deleted;
* `stop_leaks`: an Accounting-Stop leaves the tunnel behind; a connected session
  with QCI 1 has no DSCP rule; and one whose tunnel could not be added has no
  tunnel.
-/

namespace Twag.Proof.Core

open Twag.Impl Twag.Spec

/-- The tunnel, the route and the DSCP rule of a session are there. -/
def Forwarded (k : Kernel) {m : Bytes} (s : UeSession m) : Prop :=
  (∃ t ∈ k.tunnels, t.iTei = s.gtpTeidU ∧ t.oTei = s.pgwTeidU ∧ t.msAddr = s.ueIp) ∧
    s.ueIp ∈ k.routes ∧
    (mapQciToDscp s.qci ≠ 0 → (s.ueIp, mapQciToDscp s.qci) ∈ k.dscpRules)

variable (boot : Boot)

/-- The kernel has what every connected session needs. -/
def Carried (h : List Input) : Prop :=
  ∀ m s, (boot.after h).getSession m = some s → s.state = .connected →
    Forwarded (kernelAfter boot h) s

/-- Once the step has removed a session, nothing is there that was installed for
it in its life. -/
def Undone (h : List Input) (x : Input) : Prop :=
  ∀ m, Stored boot m h → ¬ Stored boot m (x :: h) →
    ∀ a, InLife boot m (CallsFor boot m a) h → ¬ (kernelAfter boot (x :: h)).Has a

/-- `gtp_add_tunnel` has succeeded for the session that `m` has now. -/
def Tunneled (m : Bytes) : List Input → Prop :=
  InLife boot m fun g y => ∃ t, CallsFor boot m (.gtpAddTunnel t true) g y

/-- A set-up succeeds, or finds what it would install; a session that ends has
had no tunnel, and no connected session has its address. -/
structure Tidy (h : List Input) (x : Input) : Prop where
  sets : ∀ m s pgwTeid ueIp qci,
    deliver (boot.after h) x = some (m, .createResponse true pgwTeid ueIp qci) →
    (boot.after h).getSession m = some s → s.state = .gtpCreatePending → NetlinkUp x.env →
    mapQciToDscp qci = 0 ∧
      (x.env.gtpAddTunnel = true ∨ ∃ t ∈ (kernelAfter boot h).tunnels,
        t.iTei = s.gtpTeidU ∧ t.oTei = pgwTeid ∧ t.msAddr = ueIp) ∧
      (x.env.gtpAddTunnel = true ∧ x.env.system (.routeAdd ueIp) = true ∨
        ueIp ∈ (kernelAfter boot h).routes)
  ends : ∀ m s e, deliver (boot.after h) x = some (m, e) → (boot.after h).getSession m = some s →
    Ends s e →
    ¬ Tunneled boot m h ∧
      (x.env.system (.routeDel s.ueIp) = true →
        ∀ m' s', m' ≠ m → (boot.after h).getSession m' = some s' → s'.state = .connected →
          s'.ueIp ≠ s.ueIp)

variable {boot} {h : List Input} {x : Input} {m : Bytes} {s s' : UeSession m}

/-! ## What is installed in a life -/

/-- A route is added only once the tunnel is. -/
theorem tunneled_of_route {ip : UInt32}
    (hl : InLife boot m (CallsFor boot m (.system (.routeAdd ip) true)) h) :
    Tunneled boot m h := by
  refine hl.imp fun g y hst hc => ?_
  obtain ⟨e, s, hd, hs, hmem⟩ := callsFor_kernel rfl hc
  obtain ⟨s', hs'⟩ := Option.isSome_iff_exists.mp hst
  have hf := step_stored hd hs
  rw [config_after] at hf
  have hr := (hf.getSession hs).symm.trans hs'
  obtain ⟨pgwTeid, ueIp, qci, rfl, hp, -, hset⟩ := kernelReact_kept hr hmem
  have hup := setup_iff.mp (setup_up hset)
  refine ⟨tunnelOf boot.config (withTunnel s pgwTeid ueIp qci), ?_⟩
  refine callsFor_of_kernelReact hd hs ?_
  rw [kernelReact, if_pos ⟨rfl, hp⟩]
  rw [setup_calls hup] at hset ⊢
  split
  · exact List.mem_cons_self
  · rename_i ha
    rw [if_neg ha] at hset
    simp at hset

theorem tunneled_of_has {a : Effect} {k : Kernel} (hl : InLife boot m (CallsFor boot m a) h)
    (ha : k.Has a) : Tunneled boot m h := by
  cases a with
  | gtpAddTunnel t ok =>
    cases ok with
    | true => exact hl.imp fun _ _ _ hc => ⟨t, hc⟩
    | false => exact ha.elim
  | system cmd ok =>
    cases cmd <;> cases ok <;> first | exact ha.elim | exact tunneled_of_route hl
  | _ => exact ha.elim

/-! ## A step of a tidy run -/

/-- The session that the step connects is carried. -/
theorem carried_connects {pgwTeid ueIp : UInt32} {qci : UInt8} (ht : Tidy boot h x)
    (hd : deliver (boot.after h) x = some (m, .createResponse true pgwTeid ueIp qci))
    (hs : (boot.after h).getSession m = some s) (hp : s.state = .gtpCreatePending)
    (hn : NetlinkUp x.env) :
    Forwarded (kernelAfter boot (x :: h))
      ({ withTunnel s pgwTeid ueIp qci with state := .connected } : UeSession m) := by
  obtain ⟨hq, htun, hroute⟩ := ht.sets m s pgwTeid ueIp qci hd hs hp hn
  have hk := kernelAfter_stored hd hs
  rw [kernelReact, if_pos ⟨rfl, hp⟩] at hk
  refine ⟨?_, ?_, fun hne => absurd hq hne⟩
  · rw [hk, tunnels_setup hn]
    by_cases ha : x.env.gtpAddTunnel = true
    · rw [if_pos ha]
      exact ⟨_, Finset.mem_insert_self _ _, rfl, rfl, rfl⟩
    · obtain ⟨t, hmem, hfields⟩ := htun.resolve_left ha
      rw [if_neg ha]
      exact ⟨t, hmem, hfields⟩
  · rw [hk, routes_setup hn]
    split
    · exact Finset.mem_insert_self _ _
    · rename_i ha
      exact hroute.resolve_left ha

theorem Forwarded.kept {k k' : Kernel} (hf : Forwarded k s) (ht : k.tunnels ⊆ k'.tunnels)
    (hr : s.ueIp ∈ k.routes → s.ueIp ∈ k'.routes) (hk : k.dscpRules = k'.dscpRules) :
    Forwarded k' s := by
  obtain ⟨⟨t, hmem, hfields⟩, hroute, hdscp⟩ := hf
  exact ⟨⟨t, ht hmem, hfields⟩, hr hroute, hk ▸ hdscp⟩

theorem Forwarded.fields {k : Kernel} (hf : Forwarded k s) (ht : s'.gtpTeidU = s.gtpTeidU)
    (hu : s'.pgwTeidU = s.pgwTeidU) (hip : s'.ueIp = s.ueIp) (hq : s'.qci = s.qci) :
    Forwarded k s' := by
  rw [Forwarded, ht, hu, hip, hq]
  exact hf

theorem tunnels_mono (boot : Boot) (h : List Input) (x : Input) :
    (kernelAfter boot h).tunnels ⊆ (kernelAfter boot (x :: h)).tunnels := by
  intro t ht
  rw [kernelAfter, mem_tunnels_applyAll]
  exact .inl ht

theorem dscpRules_step (boot : Boot) (h : List Input) (x : Input) :
    (kernelAfter boot h).dscpRules = (kernelAfter boot (x :: h)).dscpRules := by
  rw [dscpRules_after, dscpRules_after]

/-- A connected session that the step does not concern stays carried. -/
theorem carried_other (ht : Tidy boot h x) (hs : (boot.after h).getSession m = some s)
    (hc : s.state = .connected) (hd : ∀ e, deliver (boot.after h) x ≠ some (m, e))
    (hf : Forwarded (kernelAfter boot h) s) : Forwarded (kernelAfter boot (x :: h)) s := by
  refine hf.kept (tunnels_mono boot h x) (fun hr => ?_) (dscpRules_step boot h x)
  cases kernel_view boot h x with
  | sets m' s' pgwTeid ueIp qci hd' hs' hp hk =>
    rw [hk]
    by_cases hn : NetlinkUp x.env
    · rw [routes_setup hn]
      split
      · exact Finset.mem_insert_of_mem hr
      · exact hr
    · rw [setup_down hn]
      exact hr
  | ends m' s' e hd' hs' he hk =>
    have hm : m ≠ m' := by
      rintro rfl
      exact hd e hd'
    rw [hk, routes_teardown]
    split
    · rename_i hdel
      exact Finset.mem_erase.mpr ⟨(ht.ends m' s' e hd' hs' he).2 hdel m s hm hs hc, hr⟩
    · exact hr
  | keeps hk => rwa [hk]

theorem carried_step (hc : Carried boot h) (ht : Tidy boot h x) : Carried boot (x :: h) := by
  intro m s hs hst
  cases view_after boot h x m with
  | reacts e s₀ hd hs₀ hg he =>
    have hr := hg.symm.trans hs
    cases moves hr with
    | stays hst' =>
      have hc₀ : s₀.state = .connected := hst'.symm.trans hst
      rcases react_tunnel hr with ⟨_, _, _, _, -, hp, -⟩ | ⟨hno, hu, hip, hq⟩
      · exact absurd (hp.symm.trans hc₀) (by decide)
      have hf := (hc m s₀ hs₀ hc₀).fields (react_teids hr).2 hu hip hq
      have hk := kernelAfter_stored hd hs₀
      rcases kernelReact_cases boot.config x.env s₀ e with ⟨_, _, _, _, hp, -⟩ | ⟨hends, -⟩ |
        ⟨-, hnil, -⟩
      · exact absurd (hp.symm.trans hc₀) (by decide)
      · rw [removed_iff.mpr hends] at hr
        cases hr
      · rw [hk, hnil]
        exact hf
    | asks req hq hst' => exact absurd (hst'.symm.trans hst) (by decide)
    | accepts dea hq hcode hp hst' => exact absurd (hst'.symm.trans hst) (by decide)
    | connects pgwTeid ueIp qci hq hp hst' hup =>
      subst hq
      have hf := carried_connects ht hd hs₀ hp (setup_iff.mp hup)
      rw [react, if_pos ⟨rfl, hp⟩, onTunnel] at hr
      simp only [hup, if_true, Option.some.injEq] at hr
      exact hr ▸ hf
  | attaches req c hx hm hn hc' hg he =>
    rcases attach_cases (hg.symm.trans hs) with hst' | ⟨hst', -⟩
    · exact absurd (hst'.symm.trans hst) (by decide)
    · exact absurd (hst'.symm.trans hst) (by decide)
  | refuses req c hx hm hn hc' hg he => rw [Boot.after, hg] at hs; cases hs
  | keeps hd hg =>
    have hs₀ : (boot.after h).getSession m = some s := hg ▸ hs
    refine carried_other ht hs₀ hst (fun e hd' => ?_) (hc m s hs₀ hst)
    rw [(hd e hd').1] at hs₀
    cases hs₀

/-- What removes a session is an event that ends it. -/
theorem removed_step (hst : Stored boot m h) (hn : ¬ Stored boot m (x :: h)) :
    ∃ s e, (boot.after h).getSession m = some s ∧ deliver (boot.after h) x = some (m, e) ∧
      Ends s e := by
  cases view_after boot h x m with
  | reacts e s hd hs hg he =>
    exact ⟨s, e, hs, hd, removed_iff.mp (hg.symm.trans (not_stored_iff.mp hn))⟩
  | attaches req c hx hm hn' hc hg he => exact absurd hst (not_stored_iff.mpr hn')
  | refuses req c hx hm hn' hc hg he => exact absurd hst (not_stored_iff.mpr hn')
  | keeps hd hg => exact absurd hst (not_stored_iff.mpr (hg.symm.trans (not_stored_iff.mp hn)))

theorem undone_step (ht : Tidy boot h x) : Undone boot h x := by
  intro m hst hn a hl ha
  obtain ⟨s, e, hs, hd, he⟩ := removed_step hst hn
  exact (ht.ends m s e hd hs he).1 (tunneled_of_has hl ha)

/-! ## A step that is not tidy -/

theorem tidy_of_carried (hc : Carried boot (x :: h)) (hu : Undone boot h x) : Tidy boot h x := by
  constructor
  · intro m s pgwTeid ueIp qci hd hs hp hn
    have hk := kernelAfter_stored hd hs
    rw [kernelReact, if_pos ⟨rfl, hp⟩] at hk
    have hf := step_stored hd hs
    rw [config_after, react, if_pos ⟨rfl, hp⟩, onTunnel] at hf
    simp only [setup_iff.mpr hn, if_true] at hf
    obtain ⟨⟨t, hmem, hfields⟩, hroute, hdscp⟩ := hc m _ (hf.getSession hs) rfl
    rw [dscpRules_after] at hdscp
    refine ⟨not_not.mp fun hne => absurd (hdscp hne) (Finset.notMem_empty _), ?_, ?_⟩
    · rw [hk, tunnels_setup hn] at hmem
      split at hmem
      · exact .inl (by assumption)
      · exact .inr ⟨t, hmem, hfields⟩
    · rw [hk, routes_setup hn] at hroute
      split at hroute
      · exact .inl (by assumption)
      · exact .inr hroute
  · intro m s e hd hs he
    have hf := step_stored hd hs
    rw [config_after] at hf
    refine ⟨fun htun => ?_, fun hdel m' s' hm hs' hc' => ?_⟩
    · obtain ⟨t, hl⟩ := InLife.exists htun
      have hn := not_stored_step ((hf.getSession hs).trans (removed_iff.mpr he))
      exact hu m (stored_of_eq hs) hn _ hl (tunnels_mono boot h x (tunnel_of_inLife hl))
    · have hk := kernelAfter_stored hd hs
      obtain ⟨-, hroute, -⟩ := hc m' s' ((hf.getSession_ne hm).trans hs') hc'
      rcases kernelReact_cases boot.config x.env s e with ⟨_, _, _, rfl, -⟩ | ⟨-, hr⟩ | ⟨hno, -⟩
      · exact he.elim
      · rw [hk, hr, routes_teardown, if_pos hdel] at hroute
        exact (Finset.mem_erase.mp hroute).1
      · exact absurd he hno

theorem carried_nil (boot : Boot) : Carried boot [] := by
  intro m s hs
  rw [getSession_after_nil] at hs
  cases hs

/-- In every run, the kernel has what every connected session needs, and
nothing that was installed for a session that is removed, after each step,
exactly if every step is tidy. -/
theorem carried_iff (boot : Boot) (h : List Input) :
    Throughout (fun g x => Carried boot (x :: g) ∧ Undone boot g x) h ↔
      Throughout (Tidy boot) h := by
  constructor
  · intro hc
    rw [throughout_iff] at hc ⊢
    intro g x ht
    obtain ⟨hc', hu⟩ := hc g x ht
    exact tidy_of_carried hc' hu
  · intro ht
    -- a tidy step keeps what holds before it, so the induction carries it along
    have carried : ∀ g, Throughout (Tidy boot) g → Carried boot g := by
      intro g
      induction g with
      | nil => exact fun _ => carried_nil boot
      | cons x g ih => exact fun ht => carried_step (ih ht.2) ht.1
    induction h with
    | nil => trivial
    | cons x h ih => exact ⟨⟨carried (x :: h) ht, undone_step ht.1⟩, ih ht.2⟩

theorem tidy_sample : Throughout (Tidy sampleBoot) sampleHandshake := by
  refine ⟨⟨?_, ?_⟩, ⟨?_, ?_⟩, ⟨?_, ?_⟩, trivial⟩
  · intro m s pgwTeid ueIp qci hd hs hp hn
    obtain ⟨-, -, -, -, rfl⟩ := Event.createSessionResponse.inj (deliver_createResponse hd hs).1
    exact ⟨rfl, .inl rfl, .inl ⟨rfl, rfl⟩⟩
  · intro m s e hd hs he
    simp only [deliver, sampleAt] at hd
    obtain ⟨-, rfl⟩ := deliver_teid hd hs
    exact he.elim
  · intro m s pgwTeid ueIp qci hd
    cases hd
  · rintro m s e ⟨⟩ hs he
    exact he.elim
  · intro m s pgwTeid ueIp qci hd
    cases hd
  · rintro m s e ⟨⟩ hs he
    exact he.elim

theorem carried_iff_sample :
    Throughout (Tidy sampleBoot) sampleHandshake ∧
      Throughout (fun g x => Carried sampleBoot (x :: g) ∧ Undone sampleBoot g x)
        sampleHandshake :=
  ⟨tidy_sample, (carried_iff sampleBoot sampleHandshake).mpr tidy_sample⟩

/-- The sample UE with QCI 1. -/
def sampleVoice : List Input :=
  sampleAt 30 (.createSessionResponse 1 true 7 9 1) :: sampleWaiting

/-- The sample UE, where `gtp_add_tunnel` fails. -/
def sampleUntunneled : List Input :=
  ⟨{ sampleEnv 30000000 with gtpAddTunnel := false },
    .createSessionResponse 1 true 7 9 9⟩ :: sampleWaiting

/-- After an Accounting-Stop the tunnel is still there; a connected session with
QCI 1 has no DSCP rule; and one whose tunnel could not be added has none. -/
theorem stop_leaks :
    ¬ Undone sampleBoot sampleHandshake (sampleAt 40 (.accountingStop sampleMac)) ∧
      ¬ Carried sampleBoot sampleVoice ∧ ¬ Carried sampleBoot sampleUntunneled := by
  refine ⟨fun hu => ?_, fun hc => ?_, fun hc => ?_⟩
  · have hst : Stored sampleBoot sampleMac sampleHandshake := by decide
    refine hu sampleMac hst (by decide) (.gtpAddTunnel ⟨2, 7, 9, some loopback⟩ true) ?_ ?_
    · exact .now ⟨⟨⟨.createResponse true 7 9 9, rfl⟩, by decide⟩, hst⟩
    · show (⟨2, 7, 9, some loopback⟩ : GtpTunnel) ∈ (kernelAfter sampleBoot _).tunnels
      decide
  · have hm : ((sampleBoot.after sampleVoice).getSession sampleMac).map
        (fun s => (s.state, s.qci)) = some (.connected, 1) := by decide
    obtain ⟨s, hs, hsq⟩ := Option.map_eq_some_iff.mp hm
    obtain ⟨hst, hq⟩ := Prod.mk.inj hsq
    obtain ⟨-, -, hdscp⟩ := hc sampleMac s hs hst
    rw [dscpRules_after, hq] at hdscp
    exact absurd (hdscp (by decide)) (Finset.notMem_empty _)
  · have hm : ((sampleBoot.after sampleUntunneled).getSession sampleMac).map UeSession.state =
      some .connected := by decide
    obtain ⟨s, hs, hst⟩ := Option.map_eq_some_iff.mp hm
    obtain ⟨⟨t, hmem, -⟩, -⟩ := hc sampleMac s hs hst
    have hnone : (kernelAfter sampleBoot sampleUntunneled).tunnels = ∅ := by decide
    rw [hnone] at hmem
    exact absurd hmem (Finset.notMem_empty _)

end Twag.Proof.Core

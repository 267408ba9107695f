import Twag.Proof.Core.Life
import Twag.Proof.Core.Orphan

/-!
# Re-authentication

An Access-Request moves its session back to AUTH_PENDING whatever it has come
to, and nothing that was created for it is released:

* `single_of_noReauth`: as long as no DER is sent for a session that waits for
  the P-GW or is connected, no session sends a second Create Session Request,
  and every tunnel and route that was asked for in its name is one it refers to;
* `second_request`: otherwise, the next success sends a second request for the
  same session, and the tunnel and the route of the first are forgotten.
-/

namespace Twag.Proof.Core

open Twag.Impl Twag.Spec

variable (boot : Boot) (m : Bytes)

/-- A Delete Session Request goes out for the session of `m`, or a Delete Bearer
Request arrives for it. -/
def Released (h : List Input) (x : Input) : Prop :=
  ∃ e, deliver (boot.after h) x = some (m, e) ∧
    (e = .deleteBearer ∨ ∃ teid dest ok, .deleteSessionRequest teid dest ok ∈ boot.effects h x)

/-- A Create Session Request was sent for the session that is stored, and it has
not been released since. -/
def Unreleased : List Input → Prop :=
  Since (CreateSent boot m) (fun g y => ¬ Released boot m g y ∧ Stored boot m (y :: g))

/-- The step sends no second Create Session Request for a session that has not
been released since the first. -/
def SingleRequest (h : List Input) (x : Input) : Prop :=
  ∀ m, CreateSent boot m h x → ¬ Unreleased boot m h

/-- A tunnel or a route that the session refers to. -/
def Refers {m : Bytes} (s : UeSession m) : Effect → Prop
  | .gtpAddTunnel t _ => t.iTei = s.gtpTeidU ∧ t.oTei = s.pgwTeidU ∧ t.msAddr = s.ueIp
  | .system (.routeAdd ip) _ => ip = s.ueIp
  | _ => False

/-- The step sends no DER for a session that waits for the P-GW or is connected. -/
def NoReauth (h : List Input) (x : Input) : Prop :=
  ∀ req c s, x.event = .accessRequest req c → (boot.after h).getSession req.macAddr = some s →
    s.state = .gtpCreatePending ∨ s.state = .connected →
    ¬ (x.env.fdMsgNew = true ∧ x.env.fdMsgSend = true)

variable {boot m} {h : List Input} {x : Input} {s s₀ : UeSession m}

/-! ## Releases end a life -/

theorem createSent_stored (hc : CreateSent boot m h x) : Stored boot m (x :: h) := by
  obtain ⟨s, hs, -⟩ := createSent_session hc
  exact stored_of_eq hs

theorem not_released (hst : Stored boot m (x :: h)) : ¬ Released boot m h x := by
  rintro ⟨e, hd, hr⟩
  cases view_after boot h x m with
  | reacts e' s hd' hs hg he =>
    obtain ⟨-, rfl⟩ := Prod.mk.inj (Option.some.inj (hd.symm.trans hd'))
    have hends : Ends s e := by
      rcases hr with rfl | ⟨teid, dest, ok, hmem⟩
      · trivial
      · rw [Boot.effects, he] at hmem
        exact (deleteRequest_react hmem).1
    exact not_stored_step (hg.trans (removed_iff.mpr hends)) hst
  | attaches req c hx hm hn hc hg he =>
    subst hm
    simp only [deliver, hx, Option.some.injEq, Prod.mk.injEq, true_and] at hd
    subst hd
    rcases hr with hr | ⟨teid, dest, ok, hmem⟩
    · cases hr
    · rw [Boot.effects, he] at hmem
      exact (deleteRequest_react hmem).1
  | refuses req c hx hm hn hc hg he => exact not_stored_step hg hst
  | keeps hd' hg => exact not_stored_step (hg.trans (hd' e hd).1) hst

/-- Only the end of a session releases it. -/
theorem unreleased_iff : Unreleased boot m h ↔ InLife boot m (CreateSent boot m) h := by
  constructor
  · exact Since.imp (fun _ _ hc => ⟨hc, createSent_stored hc⟩) (fun _ _ hq => hq.2)
  · exact Since.imp (fun _ _ hc => hc.1) (fun _ _ hst => ⟨not_released hst, hst⟩)

/-! ## Runs without re-authentication -/

/-- What a session has sent and asked for in its life, by how far it has come. -/
structure Single (boot : Boot) (s : UeSession m) (h : List Input) : Prop where
  request : s.state ≠ .gtpCreatePending → s.state ≠ .connected →
    ¬ InLife boot m (CreateSent boot m) h
  kernel : ∀ a, isKernelCall a = true → InLife boot m (CallsFor boot m a) h →
    s.state = .connected ∧ Refers s a

theorem refers_setup {config : TwagConfig} {env : Env} {a : Effect}
    (ha : a ∈ (setupKernelGtpuTunnel env config s).2) : Refers s a := by
  rcases mem_setup ha with ⟨ok, rfl⟩ | ⟨ok, rfl⟩
  · exact ⟨rfl, rfl, rfl⟩
  · rfl

theorem Refers.kept {a : Effect} (hr : Refers s₀ a) (ht : s.gtpTeidU = s₀.gtpTeidU)
    (hu : s.pgwTeidU = s₀.pgwTeidU) (hip : s.ueIp = s₀.ueIp) : Refers s a := by
  cases a with
  | gtpAddTunnel t ok => exact ⟨hr.1.trans ht.symm, hr.2.1.trans hu.symm, hr.2.2.trans hip.symm⟩
  | system cmd ok =>
    cases cmd with
    | routeAdd ip => exact Eq.trans hr hip.symm
    | _ => exact hr
  | _ => exact hr

/-- A call for the kernel in the life of a session was made in this step, or in
its life before. -/
theorem inLife_kernel {a : Effect} {e : UeEvent} (ha : isKernelCall a = true)
    (hd : deliver (boot.after h) x = some (m, e)) (hs₀ : (boot.after h).getSession m = some s₀)
    (hs : (boot.after (x :: h)).getSession m = some s)
    (hl : InLife boot m (CallsFor boot m a) (x :: h)) :
    a ∈ kernelReact boot.config x.env s₀ e ∨ InLife boot m (CallsFor boot m a) h := by
  rcases (inLife_cons (stored_of_eq hs)).mp hl with hc | hl
  · obtain ⟨e', s', hd', hs', hmem⟩ := callsFor_kernel ha hc
    obtain ⟨-, rfl⟩ := Prod.mk.inj (Option.some.inj (hd.symm.trans hd'))
    cases hs₀.symm.trans hs'
    exact .inl hmem
  · exact .inr hl

theorem Single.react {e : UeEvent} (hn : NoReauth boot h x) (hi : Single boot s₀ h)
    (hd : deliver (boot.after h) x = some (m, e)) (hs₀ : (boot.after h).getSession m = some s₀)
    (hs : (boot.after (x :: h)).getSession m = some s)
    (hr : (Spec.react boot.config x.env s₀ e).session = some s) : Single boot s (x :: h) := by
  -- a DER that is sent finds the session before the P-GW was asked for anything
  have fresh : ∀ req msg, e = .accessRequest req →
      .der msg true ∈ (Spec.react boot.config x.env s₀ e).effects →
      s₀.state ≠ .gtpCreatePending ∧ s₀.state ≠ .connected := by
    rintro req msg rfl hmem
    obtain ⟨c, hx, rfl⟩ := deliver_accessRequest hd
    have hn' := hn req c s₀ hx hs₀
    exact ⟨fun hp => hn' (.inl hp) (der_sent hmem), fun hc => hn' (.inr hc) (der_sent hmem)⟩
  constructor
  · intro hp hc hl
    rcases (inLife_cons (stored_of_eq hs)).mp hl with hcs | hl
    · obtain ⟨s', hs', hst'⟩ := createSent_session hcs
      cases hs.symm.trans hs'
      exact hp hst'
    · cases moves hr with
      | stays hst' => exact hi.request (hst' ▸ hp) (hst' ▸ hc) hl
      | asks req hq hst' hmem =>
        obtain ⟨hp', hc'⟩ := fresh req _ hq hmem
        exact hi.request hp' hc' hl
      | accepts dea hq hcode hp' hst' => exact hp hst'
      | connects pgwTeid ueIp qci hq hp' hst' => exact hc hst'
  · intro a ha hl
    rcases inLife_kernel ha hd hs₀ hs hl with hmem | hl
    · obtain ⟨pgwTeid, ueIp, qci, -, -, rfl, hmem⟩ := kernelReact_kept hr hmem
      exact ⟨rfl, refers_setup hmem⟩
    · obtain ⟨hc, href⟩ := hi.kernel a ha hl
      cases moves hr with
      | stays hst' =>
        refine ⟨hst'.trans hc, ?_⟩
        rcases react_tunnel hr with ⟨_, _, _, _, -, hp, -⟩ | ⟨-, hu, hip, -⟩
        · exact absurd (hp.symm.trans hc) (by decide)
        · exact href.kept (react_teids hr).2 hu hip
      | asks req hq hst' hmem => exact absurd hc (fresh req _ hq hmem).2
      | accepts dea hq hcode hp' hst' => exact absurd (hp'.symm.trans hc) (by decide)
      | connects pgwTeid ueIp qci hq hp' hst' => exact absurd (hp'.symm.trans hc) (by decide)

/-- A new session has sent no request and asked the kernel for nothing. -/
theorem Single.attach {req : AccessRequest} {c : Option Nat}
    (hx : x.event = .accessRequest req c) (hn : (boot.after h).getSession m = none)
    (hs : (boot.after (x :: h)).getSession m = some s) : Single boot s (x :: h) := by
  have hst := stored_of_eq hs
  constructor
  · intro _ _ hl
    rcases (inLife_cons hst).mp hl with ⟨dea, a, _, _, _, hx', -⟩ | hl
    · cases hx.symm.trans hx'
    · exact not_inLife hn hl
  · intro a ha hl
    rcases (inLife_cons hst).mp hl with hc | hl
    · obtain ⟨_, s', -, hs', -⟩ := callsFor_kernel ha hc
      rw [hn] at hs'
      cases hs'
    · exact absurd hl (not_inLife hn)

/-- In a run without re-authentication, every stored session has sent at most
one request, and refers to what was installed for it. -/
theorem single (hr : Throughout (NoReauth boot) h) (hs : (boot.after h).getSession m = some s) :
    Single boot s h := by
  induction hs using stored_induction with
  | reacts h x e s₀ s hs hd hs₀ hreact he ih => exact (ih hr.2).react hr.1 hd hs₀ hs hreact
  | attaches h x req c s hs hx hm hn hc hreact he => exact .attach hx hn hs
  | keeps h x s hs hs₀ hd ih =>
    have hi := ih hr.2
    constructor
    · intro hp hc hl
      rcases (inLife_cons (stored_of_eq hs)).mp hl with ⟨dea, a, _, _, _, hx, hm, -⟩ | hl
      · exact absurd (by simp only [deliver, hx, hm]) (hd (.dea dea))
      · exact hi.request hp hc hl
    · intro a ha hl
      rcases (inLife_cons (stored_of_eq hs)).mp hl with ⟨⟨e, hd'⟩, -⟩ | hl
      · exact absurd hd' (hd e)
      · exact hi.kernel a ha hl

/-! ## The first re-authentication -/

/-- The DEA `y` for `m` is a success whose Create Session Request can be sent. -/
def Success (boot : Boot) (m : Bytes) (h : List Input) (y : Input) : Prop :=
  ∃ dea a s, y.event = .dea dea a ∧ dea.macAddr = m ∧ dea.resultCode = 2001 ∧
    (boot.after h).getSession m = some s ∧ y.env.s2aSendto = true ∧
    (inetPton (pgwAddress boot m y.env s dea)).isSome

theorem createSent_of_success {y : Input} (hs : (boot.after h).getSession m = some s)
    (hp : s.state = .authPending) (hy : Success boot m h y) : CreateSent boot m h y := by
  obtain ⟨dea, a, s', hye, hm, hc, hs', hsend⟩ := hy
  cases hs.symm.trans hs'
  have hd : deliver (boot.after h) y = some (m, .dea dea) := by simp only [deliver, hye, hm]
  have hf := step_stored hd hs
  rw [config_after] at hf
  refine createSent_react hd hc hs hp hf.1 ?_
  have harm := (armed_onAnswer y.env s hc).mpr hsend
  rw [react, if_pos hp]
  cases onAnswer_cases boot.config y.env s dea with
  | accepted dest hc ho =>
    rw [ho]
    exact ⟨_, dest, List.mem_cons_of_mem _ (List.mem_singleton_self _)⟩
  | challenged hc ho => rw [ho] at harm; cases harm
  | unsent effects hc hn ho => rw [ho] at harm; cases harm
  | rejected hc ho => rw [ho] at harm; cases harm

theorem unreleased_of_reauth (hf : ¬ NoReauth boot h x) :
    ∃ m s, (boot.after (x :: h)).getSession m = some s ∧ s.state = .authPending ∧
      Unreleased boot m (x :: h) := by
  simp only [NoReauth, not_forall, not_not] at hf
  obtain ⟨req, c, s, hx, hs, hst, hn, hsend⟩ := hf
  have hd : deliver (boot.after h) x = some (req.macAddr, .accessRequest req) := by
    simp only [deliver, hx]
  have hg := (step_stored hd hs).getSession hs
  rw [react, onRequest_sent _ s req hn hsend] at hg
  have hl : InLife boot req.macAddr (CreateSent boot req.macAddr) (x :: h) :=
    (inLife_cons (stored_of_eq hg)).mpr (.inr (createSent_inLife hs hst))
  exact ⟨req.macAddr, _, hg, rfl, unreleased_iff.mpr hl⟩

/-- In every run that sends no DER for a session that waits for the P-GW or is
connected, no session that has not been released sends a second Create Session
Request, and every stored session refers to each tunnel and route that was asked
for in its name. The first step that does send one leaves a session that the
next success violates this with. -/
theorem single_of_noReauth (boot : Boot) (h : List Input) (hr : Throughout (NoReauth boot) h) :
    Throughout (SingleRequest boot) h ∧
      (∀ m s a, (boot.after h).getSession m = some s → isKernelCall a = true →
        InLife boot m (CallsFor boot m a) h → Refers s a) ∧
      ∀ x, ¬ NoReauth boot h x →
        ∃ m, ∀ y, Success boot m (x :: h) y → ¬ SingleRequest boot (x :: h) y := by
  refine ⟨?_, fun m s a hs ha hl => ((single hr hs).kernel a ha hl).2, fun x hf => ?_⟩
  · rw [throughout_iff] at hr ⊢
    intro g y ht m hc hu
    have hg : Throughout (NoReauth boot) g :=
      throughout_iff.mpr fun g' y' ht' => hr g' y' (ht'.trans ((List.suffix_cons y g).trans ht))
    obtain ⟨dea, a, s, _, _, -, -, -, hs, hp, -⟩ := hc
    refine (single hg hs).request ?_ ?_ (unreleased_iff.mp hu) <;> rw [hp] <;> decide
  · obtain ⟨m, s, hs, hp, hu⟩ := unreleased_of_reauth hf
    exact ⟨m, fun y hy hsr => hsr m (createSent_of_success hs hp hy) hu⟩

theorem single_of_noReauth_sample :
    Throughout (NoReauth sampleBoot) sampleHandshake ∧
      Throughout (SingleRequest sampleBoot) sampleHandshake := by
  have hr : Throughout (NoReauth sampleBoot) sampleHandshake := by
    refine ⟨?_, ?_, ?_, trivial⟩
    · rintro req c s ⟨⟩
    · rintro req c s ⟨⟩
    · rintro req c s ⟨⟩ hs
      rw [getSession_after_nil] at hs
      cases hs
  exact ⟨hr, (single_of_noReauth sampleBoot sampleHandshake hr).1⟩

/-- The sample UE authenticates again while it is connected. -/
def sampleReauth : List Input :=
  sampleAt 2900 (.accessRequest (sampleRequest 2 (ascii "001010000000001")) none) :: sampleHandshake

def sampleSuccess : Input := sampleAt 2950 (.dea (sampleDea 2001) (some 3))

/-- The second Create Session Response has another TEID and another address. -/
def sampleReconnected : List Input :=
  sampleAt 3000 (.createSessionResponse 1 true 8 10 9) :: sampleSuccess :: sampleReauth

/-- A second Create Session Request goes out for the session, which then refers
to the second tunnel and route only; the kernel keeps the first. -/
theorem second_request :
    ¬ SingleRequest sampleBoot sampleReauth sampleSuccess ∧
      ((sampleBoot.after sampleReconnected).getSession sampleMac).map
        (fun s => (s.gtpTeidU, s.pgwTeidU, s.ueIp)) = some (2, 8, 10) ∧
      ⟨2, 7, 9, some loopback⟩ ∈ (kernelAfter sampleBoot sampleReconnected).tunnels ∧
      9 ∈ (kernelAfter sampleBoot sampleReconnected).routes := by
  have hm : ((sampleBoot.after sampleReauth).getSession sampleMac).map UeSession.state =
    some .authPending := by decide
  obtain ⟨s, hs, hp⟩ := Option.map_eq_some_iff.mp hm
  have hy : Success sampleBoot sampleMac sampleReauth sampleSuccess := by
    refine ⟨sampleDea 2001, some 3, s, rfl, rfl, rfl, hs, rfl, ?_⟩
    show (inetPton (ascii "127.0.0.1")).isSome = true
    decide
  have hl : InLife sampleBoot sampleMac (CreateSent sampleBoot sampleMac) sampleReauth := by
    have hm' : ((sampleBoot.after sampleHandshake).getSession sampleMac).map UeSession.state =
      some .connected := by decide
    obtain ⟨s', hs', hc⟩ := Option.map_eq_some_iff.mp hm'
    exact (inLife_cons (stored_of_eq hs)).mpr (.inr (createSent_inLife hs' (.inr hc)))
  refine ⟨fun hsr => ?_, by decide, by decide, by decide⟩
  exact hsr sampleMac (createSent_of_success hs hp hy) (unreleased_iff.mpr hl)

end Twag.Proof.Core

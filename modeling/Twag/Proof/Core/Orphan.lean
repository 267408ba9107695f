import Twag.Proof.Core.History

/-!
# Sessions whose attach has failed

Of the ways an attach can fail, only the S2a timer removes the session:

* `accounted_of_proceeds`: as long as the DER of every new session is sent, and
  every answer that is waited for is a challenge or a success whose Create
  Session Request is sent, every stored session is on its way or connected;
* `failed_unsent_der`, `failed_answer`: each of the other three failures leaves
  the session stored, so that it is accounted for only by another DER without
  an answer;
* `unsent_der`: after a failing `send_der`, a new session stays in state INIT.
-/

namespace Twag.Proof.Core

open Twag.Impl Twag.Spec

variable (boot : Boot) (m : Bytes)

/-- A DEA for `m` that answers the DER at position `i`. -/
def Processes (i : Nat) (x : Input) : Prop := ∃ dea, x.event = .dea dea (some i) ∧ dea.macAddr = m

/-- A DER was sent for the session that is stored, and its DEA has not been
processed. -/
def Unanswered (h : List Input) : Prop :=
  ∃ i, Since (fun g y => g.length = i ∧ DerSent boot m g y)
    (fun g y => ¬ Processes m i y ∧ Stored boot m (y :: g)) h

/-- The step sends a RADIUS response for the session of `m`. -/
def Responds (h : List Input) (x : Input) : Prop :=
  (∃ e, deliver (boot.after h) x = some (m, e)) ∧ responses (boot.effects h x) ≠ []

/-- The last response for the session that is stored was an Access-Challenge. -/
def Challenged : List Input → Prop :=
  Since (fun g y => ∃ dea a, y.event = .dea dea a ∧ dea.macAddr = m ∧ dea.resultCode = 1001 ∧
      (responses (boot.effects g y)).map RadiusResponse.code = [accessChallenge] ∧
      Stored boot m (y :: g))
    (fun g y => ¬ Responds boot m g y ∧ Stored boot m (y :: g))

/-- What a stored session may be doing. -/
def Accounted (s : UeSession m) (h : List Input) : Prop :=
  s.state = .connected ∨ s.state = .gtpCreatePending ∨ Unanswered boot m h ∨ Challenged boot m h

/-- The P-GW an answer leads to: its own, the one that the DNS has for the APN, or
the configured one. -/
def pgwAddress (env : Env) (s : UeSession m) (dea : Dea) : Bytes :=
  let apn := if dea.apn ≠ [] then dea.apn else if s.apn = [] then boot.config.apn else s.apn
  let resolved := env.resolvePgwSnaptr (apn ++ ascii ".apn." ++ boot.config.aaaRealm)
  if dea.pgwIp ≠ [] then dea.pgwIp else if resolved ≠ [] then resolved else boot.config.pgwIp

/-- The step fails no attach: the DER of a new session is sent, and an answer
that is waited for is a challenge, or a success whose Create Session Request
can be sent. -/
def Proceeds (h : List Input) (x : Input) : Prop :=
  (∀ req c, x.event = .accessRequest req c → (boot.after h).getSession req.macAddr = none →
      (boot.after h).sessionManager.getActiveSessionsCount < boot.config.maxActiveSessions.toNat →
      x.env.fdMsgNew = true ∧ x.env.fdMsgSend = true) ∧
    ∀ dea a s, x.event = .dea dea a → (boot.after h).getSession dea.macAddr = some s →
      s.state = .authPending →
      dea.resultCode = 1001 ∨
        dea.resultCode = 2001 ∧ x.env.s2aSendto = true ∧
          (inetPton (pgwAddress boot _ x.env s dea)).isSome

variable {boot m} {h : List Input} {x : Input} {s s₀ : UeSession m}

/-! ## When the two requests are sent -/

theorem onRequest_sent {env : Env} (config : TwagConfig) (s : UeSession m) (req : AccessRequest)
    (hn : env.fdMsgNew = true) (hs : env.fdMsgSend = true) :
    onRequest config env s req = ⟨some { withRequest s req with state := .authPending },
      [.der (derOf env config m req.eapPayload) true], false⟩ := by
  simp [onRequest, sendDer, hn, hs]

theorem onRequest_unsent {env : Env} (config : TwagConfig) (s : UeSession m) (req : AccessRequest)
    (hf : ¬ (env.fdMsgNew = true ∧ env.fdMsgSend = true)) :
    (onRequest config env s req).session = some (withRequest s req) := by
  simp only [onRequest, sendDer]
  by_cases hn : env.fdMsgNew = true
  · have hs : ¬ env.fdMsgSend = true := fun hs => hf ⟨hn, hs⟩
    simp [hn, hs]
  · simp [hn]

theorem sendCreateSessionRequest_sent_iff (env : Env) (config : TwagConfig) (s : UeSession m) :
    (sendCreateSessionRequest env config s).1 = true ↔
      env.s2aSendto = true ∧ (inetPton (destIp config s)).isSome := by
  simp only [sendCreateSessionRequest]
  cases inetPton (destIp config s) with
  | none => simp
  | some dest => cases env.s2aSendto <;> simp

theorem destIp_applyProfile (env : Env) (s : UeSession m) (dea : Dea) :
    destIp boot.config (TwagCore.applyProfile boot.config env s dea) =
      pgwAddress boot m env s dea := by
  -- no address is left empty unless the configured one is
  have choice (a b c : Bytes) :
      (if (if a ≠ [] then a else if b ≠ [] then b else c) = [] then c
        else if a ≠ [] then a else if b ≠ [] then b else c) =
      if a ≠ [] then a else if b ≠ [] then b else c := by
    by_cases ha : a = [] <;> by_cases hb : b = [] <;> simp [ha, hb]
  simp only [destIp, TwagCore.applyProfile, pgwAddress, Bool.not_eq_true',
    List.isEmpty_eq_false_iff, List.isEmpty_iff]
  exact choice _ _ _

/-- The timer is armed exactly if the Create Session Request is sent. -/
theorem armed_onAnswer (env : Env) (s : UeSession m) {dea : Dea} (hc : dea.resultCode = 2001) :
    (onAnswer boot.config env s dea).armed = true ↔
      env.s2aSendto = true ∧ (inetPton (pgwAddress boot m env s dea)).isSome := by
  rw [← destIp_applyProfile, ← sendCreateSessionRequest_sent_iff]
  simp [onAnswer, hc]

/-! ## A step of a run without failures -/

/-- A session on its way: it waits for an answer, or its UE for the next round. -/
def Underway (boot : Boot) (s : UeSession m) (h : List Input) : Prop :=
  s.state = .connected ∨ s.state = .gtpCreatePending ∨
    s.state = .authPending ∧ (Unanswered boot m h ∨ Challenged boot m h)

theorem Underway.accounted (hu : Underway boot s h) : Accounted boot m s h :=
  hu.imp_right (Or.imp_right And.right)

/-- A step that answers nothing and responds to nothing for the session keeps it
on its way. -/
theorem Underway.later (hu : Underway boot s₀ h) (hst : s.state = s₀.state)
    (hs : (boot.after (x :: h)).getSession m = some s) (hp : ∀ i, ¬ Processes m i x)
    (hr : ¬ Responds boot m h x) : Underway boot s (x :: h) := by
  have stored : Stored boot m (x :: h) := stored_of_eq hs
  rcases hu with hc | hc | ⟨ha, ⟨i, hun⟩ | hch⟩
  · exact .inl (hst.trans hc)
  · exact .inr (.inl (hst.trans hc))
  · exact .inr (.inr ⟨hst.trans ha, .inl ⟨i, .later ⟨hp i, stored⟩ hun⟩⟩)
  · exact .inr (.inr ⟨hst.trans ha, .inr (.later ⟨hr, stored⟩ hch)⟩)

/-- A DEA that fails no attach keeps the session of its MAC address on its way. -/
theorem Underway.dea {dea : Dea} {a : Option Nat} (hpr : Proceeds boot h x)
    (hu : Underway boot s₀ h)
    (hx : x.event = .dea dea a) (hm : dea.macAddr = m) (hs₀ : (boot.after h).getSession m = some s₀)
    (hs : (boot.after (x :: h)).getSession m = some s)
    (he : boot.effects h x = (react boot.config x.env s₀ (.dea dea)).effects)
    (hr : (react boot.config x.env s₀ (.dea dea)).session = some s) :
    Underway boot s (x :: h) := by
  subst hm
  by_cases hp : s₀.state = .authPending
  · have hre : react boot.config x.env s₀ (.dea dea) = onAnswer boot.config x.env s₀ dea :=
      if_pos hp
    have hresp : responses (boot.effects h x) =
        [(Origin.ofSession s₀).response (passedOn dea).1 (passedOn dea).2] := by
      rw [he, responses_react, respond, if_pos hp]
    cases onAnswer_cases boot.config x.env s₀ dea with
    | challenged hc ho =>
      rw [hre, ho] at hr
      cases hr
      refine .inr (.inr ⟨hp, .inr (.now ⟨dea, a, hx, rfl, hc, ?_, stored_of_eq hs⟩)⟩)
      rw [hresp, passedOn, if_pos hc]
      rfl
    | accepted dest hc ho =>
      rw [hre, ho] at hr
      cases hr
      exact .inr (.inl rfl)
    | unsent effects hc hn ho =>
      rcases hpr.2 dea a s₀ hx hs₀ hp with h1 | ⟨-, hsent⟩
      · exact absurd (hc.symm.trans h1) (by decide)
      · have harm := (armed_onAnswer x.env s₀ hc).mpr hsent
        rw [ho] at harm
        cases harm
    | rejected hc ho =>
      rcases hpr.2 dea a s₀ hx hs₀ hp with h1 | ⟨h2, -⟩
      · exact absurd h1 hc.1
      · exact absurd h2 hc.2
  · have hk : react boot.config x.env s₀ (.dea dea) = .keep s₀ := if_neg hp
    rw [hk] at hr
    cases hr
    rcases hu with hc | hc | ⟨ha, -⟩
    · exact .inl hc
    · exact .inr (.inl hc)
    · exact absurd ha hp

/-- An event for a session that is on its way keeps it there. -/
theorem Underway.react {e : UeEvent} (hpr : Proceeds boot h x) (hu : Underway boot s₀ h)
    (hd : deliver (boot.after h) x = some (m, e)) (hs₀ : (boot.after h).getSession m = some s₀)
    (hs : (boot.after (x :: h)).getSession m = some s)
    (he : boot.effects h x = (react boot.config x.env s₀ e).effects)
    (hr : (Spec.react boot.config x.env s₀ e).session = some s) :
    Underway boot s (x :: h) := by
  by_cases hdea : ∃ dea, e = .dea dea
  · obtain ⟨dea, rfl⟩ := hdea
    obtain ⟨a, hx, hm⟩ := deliver_dea hd
    exact hu.dea hpr hx hm hs₀ hs he hr
  have hp : ∀ i, ¬ Processes m i x := by
    rintro i ⟨dea, hx, rfl⟩
    simp only [deliver, hx, Option.some.injEq, Prod.mk.injEq, true_and] at hd
    exact hdea ⟨dea, hd.symm⟩
  cases moves hr with
  | stays hst =>
    refine hu.later hst hs hp ?_
    -- only the S2a timer could respond, and it would remove the session
    rintro ⟨-, hresp⟩
    rw [he, responses_react] at hresp
    cases e with
    | dea dea => exact hdea ⟨dea, rfl⟩
    | timeout =>
      by_cases hpend : s₀.state = .gtpCreatePending
      · simp [Spec.react, hpend] at hr
      · exact hresp (if_neg hpend)
    | _ => exact hresp rfl
  | asks req hq hst hmem =>
    subst hq
    obtain ⟨c, hx, hm⟩ := deliver_accessRequest hd
    exact .inr (.inr ⟨hst, .inl ⟨h.length, .now ⟨rfl, req, c, _, hx, hm, he ▸ hmem⟩⟩⟩)
  | accepts dea hq => exact absurd ⟨dea, hq⟩ hdea
  | connects _ _ _ _ _ hst => exact .inl hst

/-- In a run that fails no attach, every stored session is on its way. -/
theorem underway_of_proceeds (hpr : Throughout (Proceeds boot) h)
    (hs : (boot.after h).getSession m = some s) : Underway boot s h := by
  induction hs using stored_induction with
  | reacts h x e s₀ s hs hd hs₀ hr he ih => exact (ih hpr.2).react hpr.1 hd hs₀ hs he hr
  | attaches h x req c s hs hx hm hn hc hr he =>
    subst hm
    obtain ⟨h₁, h₂⟩ := hpr.1.1 req c hx hn hc
    rw [react, onRequest_sent boot.config _ req h₁ h₂] at hr he
    cases hr
    have hder : DerSent boot req.macAddr h x :=
      ⟨req, c, derOf x.env boot.config req.macAddr req.eapPayload, hx, rfl, by
        rw [he]; exact List.mem_singleton_self _⟩
    exact .inr (.inr ⟨rfl, .inl ⟨h.length, .now ⟨rfl, hder⟩⟩⟩)
  | keeps h x s hs hs₀ hd ih =>
    refine (ih hpr.2).later rfl hs ?_ ?_
    · rintro i ⟨dea, hx, rfl⟩
      exact hd (.dea dea) (by simp only [deliver, hx])
    · rintro ⟨⟨e, hd'⟩, -⟩
      exact hd e hd'

/-! ## A step that fails an attach -/

theorem Challenged.stored (hc : Challenged boot m h) : Stored boot m h := by
  cases h with
  | nil => exact hc.elim
  | cons x h =>
    rcases hc with ⟨_, _, _, _, _, _, hst⟩ | ⟨⟨_, hst⟩, _⟩
    · exact hst
    · exact hst

/-- The session is stored, and neither connected nor waiting for the P-GW nor
challenged. -/
def Failed (boot : Boot) (m : Bytes) (h : List Input) : Prop :=
  ∃ s, (boot.after h).getSession m = some s ∧ (s.state = .init ∨ s.state = .authPending) ∧
    ¬ Challenged boot m h

/-- A new session whose DER is not sent stays in state INIT. -/
theorem failed_unsent_der {req : AccessRequest} {c : Option Nat}
    (hx : x.event = .accessRequest req c) (hn : (boot.after h).getSession req.macAddr = none)
    (hc : (boot.after h).sessionManager.getActiveSessionsCount <
      boot.config.maxActiveSessions.toNat)
    (hf : ¬ (x.env.fdMsgNew = true ∧ x.env.fdMsgSend = true)) :
    Failed boot req.macAddr (x :: h) := by
  have not_challenged : ¬ Challenged boot req.macAddr (x :: h) := by
    rintro (⟨dea, a, hx', -⟩ | ⟨-, hch⟩)
    · rw [hx] at hx'
      cases hx'
    · exact not_stored_iff.mpr hn (Challenged.stored hch)
  cases view_after boot h x req.macAddr with
  | attaches req' c' hx' hm hn' hc' hg he =>
    cases hx.symm.trans hx'
    rw [react, onRequest_unsent boot.config _ req hf] at hg
    exact ⟨_, hg, .inl (state_withRequest _ req), not_challenged⟩
  | reacts e s hd hs hg he => rw [hn] at hs; cases hs
  | refuses req' c' hx' hm hn' hc' hg he => omega
  | keeps hd hg => exact absurd ⟨req, c, hx, rfl⟩ (not_requests hd)

/-- A session whose answer is a rejection, or whose Create Session Request is
not sent, stays in state AUTH_PENDING. -/
theorem failed_answer {dea : Dea} {a : Option Nat} {s₀ : UeSession dea.macAddr}
    (hx : x.event = .dea dea a) (hs₀ : (boot.after h).getSession dea.macAddr = some s₀)
    (hp : s₀.state = .authPending)
    (hf : ¬ (dea.resultCode = 1001 ∨
      dea.resultCode = 2001 ∧ x.env.s2aSendto = true ∧
        (inetPton (pgwAddress boot _ x.env s₀ dea)).isSome)) :
    Failed boot dea.macAddr (x :: h) := by
  have hd : deliver (boot.after h) x = some (dea.macAddr, .dea dea) := by simp only [deliver, hx]
  have hst := step_stored hd hs₀
  rw [config_after, react, if_pos hp] at hst
  have hresp : responses (boot.effects h x) ≠ [] := by
    have := responses_react boot.config x.env s₀ (.dea dea)
    rw [react, respond, if_pos hp, if_pos hp] at this
    rw [Boot.effects, hst.1, this]
    exact List.cons_ne_nil _ _
  have not_challenged : ¬ Challenged boot dea.macAddr (x :: h) := by
    rintro (⟨dea', a', hx', -, hc, -⟩ | ⟨⟨hr, -⟩, -⟩)
    · cases hx.symm.trans hx'
      exact hf (.inl hc)
    · exact hr ⟨⟨_, hd⟩, hresp⟩
  have hg : (boot.after (x :: h)).getSession dea.macAddr =
      (onAnswer boot.config x.env s₀ dea).session := hst.getSession hs₀
  cases onAnswer_cases boot.config x.env s₀ dea with
  | challenged hc ho => exact absurd (.inl hc) hf
  | accepted dest hc ho =>
    have harm := (armed_onAnswer x.env s₀ hc).mp (by rw [ho])
    exact absurd (.inr ⟨hc, harm⟩) hf
  | unsent effects hc hn ho =>
    rw [ho] at hg
    exact ⟨_, hg, .inr hp, not_challenged⟩
  | rejected hc ho =>
    rw [ho] at hg
    exact ⟨_, hg, .inr hp, not_challenged⟩

theorem failed_of_not_proceeds (hf : ¬ Proceeds boot h x) : ∃ m, Failed boot m (x :: h) := by
  rcases not_and_or.mp hf with hf | hf
  · simp only [not_forall] at hf
    obtain ⟨req, c, hx, hn, hc, hf⟩ := hf
    exact ⟨req.macAddr, failed_unsent_der hx hn hc hf⟩
  · simp only [not_forall] at hf
    obtain ⟨dea, a, s, hx, hs, hp, hf⟩ := hf
    exact ⟨dea.macAddr, failed_answer hx hs hp hf⟩

/-- In every run that fails no attach, every stored session is accounted for;
and a step that fails one leaves a session that is accounted for only if
another DER for it is without an answer. -/
theorem accounted_of_proceeds (boot : Boot) (h : List Input) (hp : Throughout (Proceeds boot) h) :
    (∀ m s, (boot.after h).getSession m = some s → Accounted boot m s h) ∧
      ∀ x, ¬ Proceeds boot h x → ∃ m s, (boot.after (x :: h)).getSession m = some s ∧
        (Accounted boot m s (x :: h) → Unanswered boot m (x :: h)) := by
  refine ⟨fun m s hs => (underway_of_proceeds hp hs).accounted, fun x hf => ?_⟩
  obtain ⟨m, s, hs, hst, hnc⟩ := failed_of_not_proceeds hf
  refine ⟨m, s, hs, ?_⟩
  rintro (hc | hc | hun | hch)
  · rcases hst with hst | hst <;> exact absurd (hst.symm.trans hc) (by decide)
  · rcases hst with hst | hst <;> exact absurd (hst.symm.trans hc) (by decide)
  · exact hun
  · exact absurd hch hnc

theorem accounted_of_proceeds_sample :
    Throughout (Proceeds sampleBoot) sampleWaiting ∧
      ∃ s, (sampleBoot.after sampleWaiting).getSession sampleMac = some s ∧
        Accounted sampleBoot sampleMac s sampleWaiting := by
  have hp : Throughout (Proceeds sampleBoot) sampleWaiting := by
    refine ⟨⟨?_, ?_⟩, ⟨fun _ _ _ _ _ => ⟨rfl, rfl⟩, ?_⟩, trivial⟩
    · rintro req c ⟨⟩
    · rintro dea a s ⟨⟩ - -
      refine .inr ⟨rfl, rfl, ?_⟩
      show (inetPton (ascii "127.0.0.1")).isSome = true
      decide
    · rintro dea a s ⟨⟩
  obtain ⟨s, hs⟩ := Option.isSome_iff_exists.mp
    (show ((sampleBoot.after sampleWaiting).getSession sampleMac).isSome = true by decide)
  exact ⟨hp, s, hs, (accounted_of_proceeds sampleBoot sampleWaiting hp).1 sampleMac s hs⟩

/-- An Access-Request whose DER cannot be sent. -/
def sampleUnsent : Input := ⟨{ sampleEnv 0 with fdMsgSend := false }, sampleAttach⟩

/-- The session of a UE whose first DER could not be sent stays stored, and
nothing is under way for it. -/
theorem unsent_der :
    (sampleBoot.after []).sessionManager.getActiveSessionsCount = 0 ∧
      (sampleBoot.after [sampleUnsent]).sessionManager.getActiveSessionsCount = 1 ∧
      ∃ s, (sampleBoot.after [sampleUnsent]).getSession sampleMac = some s ∧
        ¬ Accounted sampleBoot sampleMac s [sampleUnsent] := by
  have hm : ((sampleBoot.after [sampleUnsent]).getSession sampleMac).map UeSession.state =
    some .init := by decide
  obtain ⟨s, hs, hst⟩ := Option.map_eq_some_iff.mp hm
  refine ⟨by decide, by decide, s, hs, ?_⟩
  have he : sampleBoot.effects [] sampleUnsent =
    [.der (derOf sampleUnsent.env sampleBoot.config sampleMac [2, 1, 0, 4]) false] := by decide
  rintro (hc | hc | ⟨i, hun⟩ | hch)
  · exact absurd (hst.symm.trans hc) (by decide)
  · exact absurd (hst.symm.trans hc) (by decide)
  · rcases hun with ⟨-, req, c, msg, -, -, hmem⟩ | ⟨-, hun⟩
    · rw [he] at hmem
      simp at hmem
    · exact hun
  · rcases hch with ⟨dea, a, hx, -⟩ | ⟨-, hch⟩
    · cases hx
    · exact hch

end Twag.Proof.Core

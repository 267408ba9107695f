import Twag.Framework.Past
import Twag.Proof.Core.React
import Twag.Proof.Core.Refine

/-!
# Histories of the gateway

* `view_after`: what a step after a history is to the session of one MAC address;
* `stored_induction`: induction over the steps that a session is stored through,
  by which later modules prove what is so of every stored session;
* `effects_stored`: every call but two kinds is made by a stored session;
* `DerSent`, `CreateSent`: the steps whose requests go out, as the histories of
  later modules speak of them;
* `requested`: a stored session holds the RADIUS fields of the last
  Access-Request for its MAC address;
* `sampleBoot`, `sampleAt`: a gateway and its inputs that runs are evaluated on.
-/

namespace Twag.Proof.Core

open Twag.Impl Twag.Spec

variable (boot : Boot) (m : Bytes)

/-- The MAC address has a stored session. -/
def Stored (h : List Input) : Prop := ((boot.after h).getSession m).isSome

instance (h : List Input) : Decidable (Stored boot m h) := inferInstanceAs (Decidable (_ = true))

/-- An Access-Request for `m`. -/
def Requests (x : Input) : Prop := ∃ req c, x.event = .accessRequest req c ∧ req.macAddr = m

/-- An Access-Request for `m` whose `send_der` succeeds. -/
def DerSent (h : List Input) (x : Input) : Prop :=
  ∃ req c msg, x.event = .accessRequest req c ∧ req.macAddr = m ∧ .der msg true ∈ boot.effects h x

/-- A DEA for `m` with result 2001, while AUTH_PENDING, whose
`send_create_session_request` succeeds. -/
def CreateSent (h : List Input) (x : Input) : Prop :=
  ∃ dea answers s req dest, x.event = .dea dea answers ∧ dea.macAddr = m ∧ dea.resultCode = 2001 ∧
    (boot.after h).getSession m = some s ∧ s.state = .authPending ∧
    .createSessionRequest req dest true ∈ boot.effects h x

/-- A DEA answers the DER of the Access-Request `req`, the step `y` after `g` of
the history `h`: the DER was sent, and its Session-Id, which the answer repeats,
gives the MAC address the DEA is handed to the core with. -/
structure Answers (h : List Input) (dea : Dea) (answers : Option Nat) (g : List Input) (y : Input)
    (req : AccessRequest) : Prop where
  taken : (y :: g) <:+ h
  position : answers = some g.length
  request : ∃ c, y.event = .accessRequest req c
  sent : ∃ msg, .der msg true ∈ boot.effects g y ∧
    msg.sessionId.bind macOfSessionId = some dea.macAddr

variable {boot m}

theorem config_after (boot : Boot) (h : List Input) : (boot.after h).config = boot.config := by
  induction h with
  | nil => exact config_armStatistics _ _
  | cons x h ih => rw [Boot.after, config_step, ih]

theorem getSession_after_nil (m : Bytes) : (boot.after []).getSession m = none := by
  simp only [Boot.after, TwagCore.initialized, TwagCore.armStatistics]
  split <;> rfl

theorem not_stored_iff {h : List Input} :
    ¬ Stored boot m h ↔ (boot.after h).getSession m = none := by
  rw [Stored, Bool.not_eq_true, Option.isSome_eq_false_iff, Option.isNone_iff_eq_none]

theorem not_stored_step {h : List Input} {x : Input}
    (hg : ((boot.after h).step x).1.getSession m = none) : ¬ Stored boot m (x :: h) :=
  not_stored_iff.mpr hg

theorem stored_of_eq {h : List Input} {s : UeSession m}
    (hs : (boot.after h).getSession m = some s) : Stored boot m h := by
  rw [Stored, hs]
  rfl

theorem view_after (boot : Boot) (h : List Input) (x : Input) (m : Bytes) :
    View boot.config (boot.after h) x m := by
  rw [← config_after boot h]
  exact view (boot.after h) x m

/-- Induction over the steps that a session is stored through: it reacts to an
event for it, is new, or is not concerned. -/
@[elab_as_elim]
theorem stored_induction
    {motive : ∀ (h : List Input) (s : UeSession m), (boot.after h).getSession m = some s → Prop}
    (reacts : ∀ h x e s₀ s (hs : (boot.after (x :: h)).getSession m = some s)
      (_ : deliver (boot.after h) x = some (m, e)) (hs₀ : (boot.after h).getSession m = some s₀)
      (_ : (react boot.config x.env s₀ e).session = some s)
      (_ : boot.effects h x = (react boot.config x.env s₀ e).effects),
      motive h s₀ hs₀ → motive (x :: h) s hs)
    (attaches : ∀ h x req c s (hs : (boot.after (x :: h)).getSession m = some s)
      (_ : x.event = .accessRequest req c) (_ : req.macAddr = m)
      (_ : (boot.after h).getSession m = none)
      (_ : (boot.after h).sessionManager.getActiveSessionsCount <
        boot.config.maxActiveSessions.toNat)
      (_ : (react boot.config x.env (born (boot.after h) x m) (.accessRequest req)).session =
        some s)
      (_ : boot.effects h x =
        (react boot.config x.env (born (boot.after h) x m) (.accessRequest req)).effects),
      motive (x :: h) s hs)
    (keeps : ∀ h x s (hs : (boot.after (x :: h)).getSession m = some s)
      (hs₀ : (boot.after h).getSession m = some s)
      (_ : ∀ e, deliver (boot.after h) x ≠ some (m, e)), motive h s hs₀ → motive (x :: h) s hs)
    {h : List Input} {s : UeSession m} (hs : (boot.after h).getSession m = some s) :
    motive h s hs := by
  induction h generalizing s with
  | nil =>
    rw [getSession_after_nil] at hs
    cases hs
  | cons x h ih =>
    cases view_after boot h x m with
    | reacts e s₀ hd hs₀ hg he => exact reacts h x e s₀ s hs hd hs₀ (hg.symm.trans hs) he (ih hs₀)
    | attaches req c hx hm hn hc hg he =>
      exact attaches h x req c s hs hx hm hn hc (hg.symm.trans hs) he
    | refuses req c hx hm hn hc hg he => cases hg.symm.trans hs
    | keeps hd hg =>
      have hs₀ : (boot.after h).getSession m = some s := hg.symm.trans hs
      refine keeps h x s hs hs₀ (fun e hd' => ?_) (ih hs₀)
      cases hs₀.symm.trans (hd e hd').1

/-- A new session stays in state INIT, unless its DER is sent. -/
theorem attach_cases {h : List Input} {x : Input} {req : AccessRequest} {s : UeSession m}
    (hr : (react boot.config x.env (born (boot.after h) x m) (.accessRequest req)).session =
      some s) :
    s.state = .init ∨ s.state = .authPending ∧
      .der (derOf x.env boot.config m req.eapPayload) true ∈
        (react boot.config x.env (born (boot.after h) x m) (.accessRequest req)).effects := by
  cases moves hr with
  | stays hst => exact .inl hst
  | asks req' hq hst hmem =>
    cases hq
    exact .inr ⟨hst, hmem⟩
  | accepts dea hq => cases hq
  | connects _ _ _ hq => cases hq

/-- A step that does not concern the session of `m` is no Access-Request for it. -/
theorem not_requests {h : List Input} {x : Input}
    (hd : ∀ e, deliver (boot.after h) x = some (m, e) →
      (boot.after h).getSession m = none ∧ ∀ req, e ≠ .accessRequest req) : ¬ Requests m x := by
  rintro ⟨req, c, hx, rfl⟩
  exact (hd (.accessRequest req) (by simp only [deliver, hx])).2 req rfl

/-- Every call is made by the session that a step is for, stored or new, or
refuses an Access-Request. -/
theorem effects_cases {h : List Input} {x : Input} {a : Effect} (ha : a ∈ boot.effects h x) :
    (∃ m e s, deliver (boot.after h) x = some (m, e) ∧ (boot.after h).getSession m = some s ∧
        a ∈ (react boot.config x.env s e).effects) ∨
      ∃ req c, x.event = .accessRequest req c ∧
        (a ∈ (react boot.config x.env (born (boot.after h) x req.macAddr)
            (.accessRequest req)).effects ∨
          a = sendResponse x.env req.clientAddr accessReject req.reqId req.reqAuth []) := by
  cases hd : deliver (boot.after h) x with
  | none =>
    have hi := step_ignored (boot.after h) x (by rw [hd]; intro _ _ h; cases h)
    rw [Boot.effects, hi.2] at ha
    cases ha
  | some target =>
    obtain ⟨m, e⟩ := target
    cases view_after boot h x m with
    | reacts e' s hd' hs hg he =>
      rw [Boot.effects, he] at ha
      exact .inl ⟨m, e', s, hd.symm.trans hd', hs, ha⟩
    | attaches req c hx hm hn hc hg he =>
      subst hm
      rw [Boot.effects, he] at ha
      exact .inr ⟨req, c, hx, .inl ha⟩
    | refuses req c hx hm hn hc hg he =>
      rw [Boot.effects, he, List.mem_singleton] at ha
      exact .inr ⟨req, c, hx, .inr ha⟩
    | keeps hd' hg =>
      obtain ⟨hn, hr⟩ := hd' e hd
      rw [Boot.effects, (step_absent hd hn hr).2] at ha
      cases ha

/-- Every call but a DER or a RADIUS response is made by a stored session. -/
theorem effects_stored {h : List Input} {x : Input} {a : Effect} (ha : a ∈ boot.effects h x)
    (hd : ∀ msg ok, a ≠ .der msg ok) (hr : ∀ resp ok, a ≠ .radiusResponse resp ok) :
    ∃ m e s, deliver (boot.after h) x = some (m, e) ∧ (boot.after h).getSession m = some s ∧
      a ∈ (react boot.config x.env s e).effects := by
  rcases effects_cases ha with hs | ⟨req, c, hx, hmem | rfl⟩
  · exact hs
  · obtain ⟨ok, hq⟩ := mem_sendDer hmem
    exact absurd hq (hd _ _)
  · exact absurd rfl (hr _ _)

theorem mac_of_sessionId {env : Env} {config : TwagConfig} {eap mac : Bytes}
    (h : (derOf env config m eap).sessionId.bind macOfSessionId = some mac) : mac = m := by
  simp only [derOf, avp] at h
  split at h <;> simp only [Option.bind_some, Option.bind_none, reduceCtorEq,
    macOfSessionId_sessionIdOf, Option.some.injEq] at h
  exact h.symm

/-- An answer comes back under the MAC address of the Access-Request. -/
theorem Answers.mac {h g : List Input} {dea : Dea} {a : Option Nat} {y : Input}
    {req : AccessRequest} (ha : Answers boot h dea a g y req) : dea.macAddr = req.macAddr := by
  obtain ⟨c, hy⟩ := ha.request
  obtain ⟨msg, hmem, hm⟩ := ha.sent
  cases view_after boot g y req.macAddr with
  | reacts e s hd hs hg he =>
    simp only [deliver, hy, Option.some.injEq, Prod.mk.injEq, true_and] at hd
    subst hd
    rw [Boot.effects, he] at hmem
    obtain ⟨_, hq, rfl⟩ := der_react hmem
    cases hq
    exact mac_of_sessionId hm
  | attaches req' c' hy' hm' hn hc hg he =>
    rw [hy] at hy'
    cases hy'
    rw [Boot.effects, he] at hmem
    obtain ⟨_, hq, rfl⟩ := der_react hmem
    cases hq
    exact mac_of_sessionId hm
  | refuses req' c' hy' hm' hn hc hg he =>
    rw [Boot.effects, he] at hmem
    simp [sendResponse] at hmem
  | keeps hd hg => exact absurd ⟨req, c, hy, rfl⟩ (not_requests hd)

/-! ## The last Access-Request -/

/-- A stored session holds the RADIUS fields of the last Access-Request for its
MAC address. -/
theorem requested (h : List Input) {s : UeSession m} (hs : (boot.after h).getSession m = some s) :
    Since (fun _ y => Requests m y ∧ ∀ req c, y.event = .accessRequest req c →
      Origin.ofSession s = Origin.ofRequest req) (fun _ y => ¬ Requests m y) h := by
  induction hs using stored_induction with
  | reacts h x e s₀ s hs hd hs₀ hr he ih =>
    rcases react_request hr with ⟨req, st, rfl, rfl⟩ | ⟨hn, ho, -⟩
    · obtain ⟨c, hx, hm⟩ := deliver_accessRequest hd
      refine .now ⟨⟨req, c, hx, hm⟩, fun req' c' hx' => ?_⟩
      cases hx.symm.trans hx'
      exact origin_withRequest s₀ req st
    · refine .later ?_ (ho ▸ ih)
      rintro ⟨req, c, hx, rfl⟩
      simp only [deliver, hx, Option.some.injEq, Prod.mk.injEq] at hd
      exact hn req hd.2.symm
  | attaches h x req c s hs hx hm hn hc hr he =>
    rcases react_request hr with ⟨req', st, hq, rfl⟩ | ⟨hn, -⟩
    · cases hq
      refine .now ⟨⟨req, c, hx, hm⟩, fun req' c' hx' => ?_⟩
      cases hx.symm.trans hx'
      exact origin_withRequest _ req st
    · exact absurd rfl (hn req)
  | keeps h x s hs hs₀ hd ih =>
    refine .later ?_ ih
    rintro ⟨req, c, hx, rfl⟩
    exact hd (.accessRequest req) (by simp only [deliver, hx])

/-! ## A gateway to evaluate runs on -/

/-- Room for two sessions, and no statistics timer. -/
def sampleBoot : Boot where
  config :=
    { pgwIp := ascii "127.0.0.1"
      aaaRealm := ascii "example.org"
      apn := ascii "internet"
      eapDomain := ascii "wlan.example.org"
      maxActiveSessions := 2
      statsLogIntervalSec := 0 }
  now := 0

/-- Every call succeeds, and the DNS has no answer. -/
def sampleEnv (now : Time) : Env where
  now := now
  memory :=
    { ueIp := 0
      pgwTeidC := 0
      pgwTeidU := 0
      radiusClientAddr := ⟨0, 0⟩
      radiusReqId := 0
      radiusReqAuth := Vector.replicate 16 0 }
  iteration := .inserted
  fdMsgNew := true
  fdMsgAvpNew := fun _ => true
  fdMsgSend := true
  radiusSendto := true
  s2aSendto := true
  dhcpSendto := true
  resolvePgwSnaptr := fun _ => []
  localIp := none
  genlSocketOpen := true
  genlLookupFamily := true
  gtpTunnelAlloc := true
  gtpAddTunnel := true
  system := fun _ => true

/-- An event at `ms` milliseconds, where every call succeeds. -/
def sampleAt (ms : Nat) (event : Event) : Input := ⟨sampleEnv (ms * 1000000), event⟩

def sampleMac : Bytes := ascii "AA:BB:CC:DD:EE:01"

def sampleOtherMac : Bytes := ascii "AA:BB:CC:DD:EE:02"

/-- The Access-Request with this id and identity. -/
def sampleRequest (id : UInt8) (imsi : Bytes) : AccessRequest where
  macAddr := sampleMac
  imsi := imsi
  eapPayload := [2, id, 0, 4]
  clientAddr := ⟨loopback, htons 1812⟩
  reqId := id
  reqAuth := Vector.replicate 16 id

/-- A DEA with this result and no profile. -/
def sampleDea (resultCode : UInt32) : Dea where
  macAddr := sampleMac
  resultCode := resultCode
  eapPayload := []
  apn := []
  pdnType := 0
  ambrUl := 0
  ambrDl := 0
  pgwIp := []

/-- A request of the sample UE that starts an EAP conversation. -/
def sampleAttach : Event := .accessRequest (sampleRequest 1 (ascii "001010000000001")) none

/-- The sample UE attaches, and waits for the P-GW. -/
def sampleWaiting : List Input :=
  [sampleAt 20 (.dea (sampleDea 2001) (some 0)), sampleAt 10 sampleAttach]

end Twag.Proof.Core

import Twag.Impl.Receive.Sta
import Twag.Proof.Core.History

/-!
# Racing disconnects

An Accounting-Stop, a Delete Bearer Request and an Abort-Session-Request end a
session each in their own handler. Whichever comes first removes it, and
nothing that comes for it later finds it (`late_ignored`); so any number of
them, in any order and mixed with late answers, does what the first one does
and no more (`race_once`).
-/

namespace Twag.Proof.Core

open Twag.Impl Twag.Spec

/-- No two stored sessions have one control TEID. -/
def DistinctTeids (core : TwagCore) : Prop :=
  ∀ m m' (s : UeSession m) (s' : UeSession m'), core.getSession m = some s →
    core.getSession m' = some s' → s.gtpTeidC = s'.gtpTeidC → m = m'

/-- A disconnect trigger for the session of `m` with the TEID `teid`. -/
def Trigger (m : Bytes) (teid : UInt32) (x : Input) : Prop :=
  x.event = .accountingStop m ∨ x.event = .deleteBearerRequest teid ∨
    ∃ msg, sessionMac msg = some m ∧ asrCb msg = some x.event

/-- A late DEA, Create Session Response, S2a timer or DHCP message for the
session of `m` with the TEID `teid`. -/
def Late (boot : Boot) (m : Bytes) (teid : UInt32) (h : List Input) (x : Input) : Prop :=
  (∃ dea a, x.event = .dea dea a ∧ dea.macAddr = m) ∨
    (∃ success pgwTeid ueIp qci, x.event = .createSessionResponse teid success pgwTeid ueIp qci) ∨
    (x.event = .timer ∧
      ∃ loop, (boot.after h).eventLoop.popDue x.env.now = some (.s2aTimeout m, loop)) ∨
    ∃ xid, x.event = .dhcpDiscover m xid ∨ x.event = .dhcpRequest m xid

/-- The peer notifications that the handler of each trigger prescribes. -/
def notices (config : TwagConfig) (env : Env) {m : Bytes} (s : UeSession m) : Event → List Effect
  | .accountingStop _ => sendStr env config m ++ sendDeleteSessionRequest env config s
  | .deleteBearerRequest _ =>
    sendStr env config m ++ [sendDisconnectRequest env s.radiusClientAddr m]
  | .abortSession _ =>
    sendDeleteSessionRequest env config s ++ [sendDisconnectRequest env s.radiusClientAddr m]
  | _ => []

/-- The calls that are not for the kernel. -/
def peerCalls (effects : List Effect) : List Effect := effects.filter (!isKernelCall ·)

/-- The calls of the steps `l` taken after the history `h`. -/
def effectsSince (boot : Boot) (h : List Input) : List Input → List Effect
  | [] => []
  | x :: l => effectsSince boot h l ++ boot.effects (l ++ h) x

variable {boot : Boot} {m : Bytes} {s : UeSession m} {h : List Input} {x : Input} {teid : UInt32}

theorem asrCb_event {msg : List Avp} {ev : Event} (hm : sessionMac msg = some m)
    (ha : asrCb msg = some ev) : ev = .abortSession m := by
  simp only [asrCb, hm, Option.getD_some] at ha
  split at ha <;> cases ha
  rfl

/-! ## The first trigger -/

/-- What a trigger asks of the session. -/
def triggered : Event → UeEvent
  | .accountingStop _ => .disconnect
  | .deleteBearerRequest _ => .deleteBearer
  | _ => .abort

theorem deliver_trigger (hs : (boot.after h).getSession m = some s)
    (hu : DistinctTeids (boot.after h)) (hx : Trigger m s.gtpTeidC x) :
    deliver (boot.after h) x = some (m, triggered x.event) := by
  rcases hx with hx | hx | ⟨msg, hm, hx⟩
  · simp only [deliver, hx, triggered]
  · have hf := SessionManager.getSessionByTeidC_of_unique x.env.iteration hs
      fun m' s' hs' ht => hu m' m s' s hs' hs ht
    simp only [deliver, hx, hf, Option.map_some, triggered]
  · simp only [deliver, asrCb_event hm hx, triggered]

theorem peerCalls_append (l l' : List Effect) :
    peerCalls (l ++ l') = peerCalls l ++ peerCalls l' :=
  List.filter_append ..

theorem ToPeers.peerCalls_eq {l : List Effect} (hl : ToPeers l) : peerCalls l = l :=
  List.filter_eq_self.mpr fun a ha => by rw [(hl a ha).1]; rfl

theorem ToKernel.peerCalls_eq {l : List Effect} (hl : ToKernel l) : peerCalls l = [] :=
  List.filter_eq_nil_iff.mpr fun a ha => by rw [hl a ha]; simp

/-- A trigger removes the session, tears its tunnel down, and notifies the peers. -/
theorem react_trigger (config : TwagConfig) (env : Env) (hx : Trigger m teid x) :
    (react config env s (triggered x.event)).session = none ∧
      kernelCalls (react config env s (triggered x.event)).effects =
        teardownKernelGtpuTunnel env s ∧
      peerCalls (react config env s (triggered x.event)).effects =
        notices config env s x.event := by
  rw [kernelCalls_react]
  rcases hx with hx | hx | ⟨msg, hm, hx⟩
  · refine ⟨by rw [hx]; rfl, by rw [hx]; rfl, ?_⟩
    simp only [hx, triggered, react, releaseEffects, notices, peerCalls_append,
      toPeers_sendStr.peerCalls_eq, toPeers_sendDelete.peerCalls_eq,
      toKernel_teardown.peerCalls_eq, List.append_nil]
  · refine ⟨by rw [hx]; rfl, by rw [hx]; rfl, ?_⟩
    simp only [hx, triggered, react, notices, peerCalls_append, toPeers_sendStr.peerCalls_eq,
      toPeers_disconnectRequest.peerCalls_eq, toKernel_teardown.peerCalls_eq, List.nil_append]
  · have hx := asrCb_event hm hx
    refine ⟨by rw [hx]; rfl, by rw [hx]; rfl, ?_⟩
    simp only [hx, triggered, react, notices, peerCalls_append, toPeers_sendDelete.peerCalls_eq,
      toPeers_disconnectRequest.peerCalls_eq, toKernel_teardown.peerCalls_eq, List.nil_append]

theorem step_trigger (hs : (boot.after h).getSession m = some s)
    (hu : DistinctTeids (boot.after h)) (hx : Trigger m s.gtpTeidC x) :
    (boot.after (x :: h)).sessionManager = (boot.after h).sessionManager.removeSession m ∧
      kernelCalls (boot.effects h x) = teardownKernelGtpuTunnel x.env s ∧
      peerCalls (boot.effects h x) = notices boot.config x.env s x.event := by
  have hf := step_stored (deliver_trigger hs hu hx) hs
  rw [config_after] at hf
  obtain ⟨hn, hk, hp⟩ := react_trigger boot.config x.env hx (s := s)
  refine ⟨?_, by rw [Boot.effects, hf.1, hk], by rw [Boot.effects, hf.1, hp]⟩
  rcases hf.2 with ⟨-, ho⟩ | hr
  · rw [hn] at ho
    cases ho
  · rw [Boot.after, hr, hn]
    rfl

/-! ## What comes later -/

/-- Nothing that comes for a session finds it once it is removed. -/
theorem late_ignored {core : SessionManager} {g : List Input} {y : Input}
    (hu : ∀ m' (s' : UeSession m'), core.getSession m' = some s' → s'.gtpTeidC = teid → m' = m)
    (hg : (boot.after g).sessionManager = core.removeSession m)
    (hy : Trigger m teid y ∨ Late boot m teid g y) :
    (boot.after (y :: g)).sessionManager = core.removeSession m ∧ boot.effects g y = [] := by
  have gone : (boot.after g).getSession m = none := by
    rw [TwagCore.getSession, hg, SessionManager.getSession_removeSession]
  have unknown : (boot.after g).sessionManager.getSessionByTeidC y.env.iteration teid = none := by
    refine SessionManager.getSessionByTeidC_eq_none_iff.mpr fun m' s' hs' ht => ?_
    have hm : m' ≠ m := by
      rintro rfl
      rw [show (boot.after g).sessionManager.getSession m' = none from gone] at hs'
      cases hs'
    rw [hg, SessionManager.getSession_removeSession_ne hm] at hs'
    exact hm (hu m' s' hs' ht)
  have to_m (e₀ : UeEvent) (hd₀ : deliver (boot.after g) y = some (m, e₀))
      (hn : ∀ req, e₀ ≠ .accessRequest req) (m' : Bytes) (e : UeEvent)
      (hd : deliver (boot.after g) y = some (m', e)) :
      (boot.after g).getSession m' = none ∧ ∀ req, e ≠ .accessRequest req := by
    cases hd₀.symm.trans hd
    exact ⟨gone, hn⟩
  have to_none (hd₀ : deliver (boot.after g) y = none) (m' : Bytes) (e : UeEvent)
      (hd : deliver (boot.after g) y = some (m', e)) :
      (boot.after g).getSession m' = none ∧ ∀ req, e ≠ .accessRequest req := by
    cases hd₀.symm.trans hd
  have ignored : ∀ m' e, deliver (boot.after g) y = some (m', e) →
      (boot.after g).getSession m' = none ∧ ∀ req, e ≠ .accessRequest req := by
    rcases hy with (hy | hy | ⟨msg, hm, hy⟩) | ⟨dea, a, hy, rfl⟩ | ⟨_, _, _, _, hy⟩ |
      ⟨hy, loop, hp⟩ | ⟨xid, hy | hy⟩
    · exact to_m .disconnect (by simp only [deliver, hy]) (by simp)
    · exact to_none (by simp only [deliver, hy, unknown, Option.map_none])
    · exact to_m .abort (by simp only [deliver, asrCb_event hm hy]) (by simp)
    · exact to_m (.dea dea) (by simp only [deliver, hy]) (by simp)
    · exact to_none (by simp only [deliver, hy, unknown, Option.map_none])
    · exact to_m .timeout (by simp only [deliver, hy, hp]) (by simp)
    · exact to_m (.dhcp xid 2) (by simp only [deliver, hy]) (by simp)
    · exact to_m (.dhcp xid 5) (by simp only [deliver, hy]) (by simp)
  obtain ⟨hsm, he⟩ := step_ignored (boot.after g) y ignored
  exact ⟨hsm.trans hg, he⟩

theorem race_later {core : SessionManager} {l : List Input}
    (hu : ∀ m' (s' : UeSession m'), core.getSession m' = some s' → s'.gtpTeidC = teid → m' = m)
    (hx : (boot.after (x :: h)).sessionManager = core.removeSession m)
    (hl : Throughout (fun g y => Trigger m teid y ∨ Late boot m teid (g ++ x :: h) y) l) :
    (boot.after (l ++ x :: h)).sessionManager = core.removeSession m ∧
      effectsSince boot (x :: h) l = [] := by
  induction l with
  | nil => exact ⟨hx, rfl⟩
  | cons y l ih =>
    obtain ⟨hg, he⟩ := ih hl.2
    obtain ⟨hg', he'⟩ := late_ignored hu hg hl.1
    exact ⟨hg', by rw [effectsSince, he, he', List.nil_append]⟩

theorem effectsSince_append (boot : Boot) (h l : List Input) (x : Input) :
    effectsSince boot h (l ++ [x]) = boot.effects h x ++ effectsSince boot (x :: h) l := by
  induction l with
  | nil => simp [effectsSince]
  | cons y l ih => simp [effectsSince, ih]

/-- From a state with distinct TEIDs, a trigger `x` for the session of `m`,
followed by any triggers for it and any late events for it, removes that session
and no other, counts one disconnection, tears one tunnel down, sends the
notifications that `x` prescribes, and calls nothing else. -/
theorem race_once (boot : Boot) (h : List Input) (m : Bytes) (s : UeSession m)
    (hs : (boot.after h).getSession m = some s) (hu : DistinctTeids (boot.after h)) (x : Input)
    (hx : Trigger m s.gtpTeidC x) (l : List Input)
    (hl : Throughout (fun g y => Trigger m s.gtpTeidC y ∨
      Late boot m s.gtpTeidC (g ++ x :: h) y) l) :
    let sm := (boot.after h).sessionManager
    let sm' := (boot.after (l ++ x :: h)).sessionManager
    (∀ m', sm'.getSession m' = if m' = m then none else sm.getSession m') ∧
      sm'.totalDisconnections = sm.totalDisconnections + 1 ∧
      sm'.totalConnections = sm.totalConnections ∧
      sm'.totalRejectedSessions = sm.totalRejectedSessions ∧
      sm'.getActiveSessionsCount + 1 = sm.getActiveSessionsCount ∧
      kernelCalls (effectsSince boot h (l ++ [x])) = teardownKernelGtpuTunnel x.env s ∧
      peerCalls (effectsSince boot h (l ++ [x])) = notices boot.config x.env s x.event := by
  intro sm sm'
  obtain ⟨hsm, hk, hp⟩ := step_trigger hs hu hx
  obtain ⟨hsm', he⟩ := race_later (fun m' s' hs' ht => hu m' m s' s hs' hs ht) hsm hl
  have heff : effectsSince boot h (l ++ [x]) = boot.effects h x := by
    rw [effectsSince_append, he, List.append_nil]
  have hm : sm.getSession m = some s := hs
  have heq : sm' = sm.removeSession m := hsm'
  obtain ⟨hconn, hdisc, hrej⟩ := SessionManager.totals_removeSession hm
  rw [heq, heff]
  refine ⟨fun m' => ?_, hdisc, hconn, hrej, SessionManager.count_removeSession hm, hk, hp⟩
  by_cases hm' : m' = m
  · rw [if_pos hm', hm', SessionManager.getSession_removeSession]
  · rw [if_neg hm', SessionManager.getSession_removeSession_ne hm']

/-- An Accounting-Stop of the sample UE. -/
def sampleStop : Input := sampleAt 50 (.accountingStop sampleMac)

/-- What comes for the sample UE after it: each other trigger, and late answers. -/
def sampleLate : List Input :=
  [sampleAt 100 (.dhcpRequest sampleMac 5), sampleAt 90 (.deleteBearerRequest 1),
    sampleAt 80 (.createSessionResponse 1 true 7 9 9), sampleAt 70 (.abortSession sampleMac),
    sampleAt 60 (.dea (sampleDea 2001) (some 0))]

theorem distinctTeids_of_keys {core : TwagCore}
    (hk : core.sessionManager.sessions.keys = [m]) : DistinctTeids core := by
  have only : ∀ m' s, core.getSession m' = some s → m' = m := by
    intro m' s hs
    have hm : m' ∈ core.sessionManager.sessions.keys := by
      refine SessionManager.mem_keys_iff.mpr ?_
      rw [show core.sessionManager.getSession m' = some s from hs]
      rfl
    rwa [hk, List.mem_singleton] at hm
  intro m₁ m₂ s₁ s₂ hs₁ hs₂ _
  exact (only m₁ s₁ hs₁).trans (only m₂ s₂ hs₂).symm

theorem distinctTeids_sample : DistinctTeids (sampleBoot.after sampleWaiting) :=
  distinctTeids_of_keys (m := sampleMac) (by decide)

theorem race_once_sample :
    ∃ s, (sampleBoot.after sampleWaiting).getSession sampleMac = some s ∧
      Trigger sampleMac s.gtpTeidC sampleStop ∧
      Throughout (fun g y => Trigger sampleMac s.gtpTeidC y ∨
        Late sampleBoot sampleMac s.gtpTeidC (g ++ sampleStop :: sampleWaiting) y) sampleLate ∧
      peerCalls (effectsSince sampleBoot sampleWaiting (sampleLate ++ [sampleStop])) =
        notices sampleBoot.config sampleStop.env s sampleStop.event := by
  have hm : ((sampleBoot.after sampleWaiting).getSession sampleMac).map UeSession.gtpTeidC =
    some 1 := by decide
  obtain ⟨s, hs, ht⟩ := Option.map_eq_some_iff.mp hm
  have hx : Trigger sampleMac s.gtpTeidC sampleStop := .inl rfl
  have habort : Trigger sampleMac s.gtpTeidC (sampleAt 70 (.abortSession sampleMac)) :=
    .inr (.inr ⟨[.mk .sessionId (some (.os (sessionIdOf sampleMac))) []], rfl, rfl⟩)
  have hl : Throughout (fun g y => Trigger sampleMac s.gtpTeidC y ∨
      Late sampleBoot sampleMac s.gtpTeidC (g ++ sampleStop :: sampleWaiting) y) sampleLate := by
    refine ⟨.inr (.inr (.inr (.inr ⟨5, .inr rfl⟩))), .inl (.inr (.inl (by rw [ht]; rfl))),
      .inr (.inr (.inl ⟨true, 7, 9, 9, by rw [ht]; rfl⟩)), .inl habort, ?_, trivial⟩
    exact .inr (.inl ⟨sampleDea 2001, some 0, rfl, rfl⟩)
  obtain ⟨-, -, -, -, -, -, hp⟩ := race_once sampleBoot sampleWaiting sampleMac s hs
    distinctTeids_sample sampleStop hx sampleLate hl
  exact ⟨s, hs, hx, hl, hp⟩

end Twag.Proof.Core

import Twag.Proof.Gateway.Arrivals

/-!
# A P-GW that rejects

`unaffected_iff`: a Create Session Response with a rejecting Cause, or with none,
leaves the sessions and the kernel as they are exactly if no session with its
TEID waits for a response. The receive path never looks at the Cause: to the
core every response is a success. `rejected_connects` is a UE that is connected
by a rejection.
-/

namespace Twag.Proof.Gateway

open Twag.Impl Twag.Spec Twag.Proof.Core

/-- The Cause of the message is missing, or a rejection. -/
def Rejects (rsp : CreateSessRsp) : Prop := ∀ cause, rsp.cause = some cause → 64 ≤ cause

/-- No session has become CONNECTED, none has been given a tunnel, an address or
a QCI, and no tunnel or route has been set up. -/
structure Unaffected (before after : TwagCore) (effects : List Effect) : Prop where
  connected : ∀ m (s' : UeSession m), after.getSession m = some s' → s'.state = .connected →
    ∃ s, before.getSession m = some s ∧ s.state = .connected
  fields : ∀ m (s s' : UeSession m), before.getSession m = some s → after.getSession m = some s' →
    s'.pgwTeidU = s.pgwTeidU ∧ s'.ueIp = s.ueIp ∧ s'.qci = s.qci
  tunnels : ∀ tunnel, .gtpAddTunnel tunnel true ∉ effects
  routes : ∀ ip, .system (.routeAdd ip) true ∉ effects

theorem Unaffected.refl (core : TwagCore) : Unaffected core core [] where
  connected _ s hs hc := ⟨s, hs, hc⟩
  fields m s s' hs hs' := by
    cases hs.symm.trans hs'
    exact ⟨rfl, rfl, rfl⟩
  tunnels _ := List.not_mem_nil
  routes _ := List.not_mem_nil

variable {core : TwagCore} {x : Input} {teid pgwTeid ueIp : UInt32} {qci : UInt8}

/-- A response that no session waits for does nothing. -/
theorem step_unawaited (hx : x.event = .createSessionResponse teid true pgwTeid ueIp qci)
    (hn : ∀ m (s : UeSession m), core.getSession m = some s → s.gtpTeidC = teid →
      s.state ≠ .gtpCreatePending) : core.step x = (core, []) := by
  simp only [TwagCore.step, hx, TwagCore.onGtpCreateResponseReceived]
  split
  · rfl
  · rename_i m s hf
    obtain ⟨hs, ht⟩ := SessionManager.getSessionByTeidC_stored hf
    rw [if_pos (hn m s hs ht)]
    rfl

/-- A response connects the session that the scan finds, if it waits for one and
netlink works. -/
theorem step_connects {m : Bytes} {s : UeSession m}
    (hx : x.event = .createSessionResponse s.gtpTeidC true pgwTeid ueIp qci)
    (hf : core.sessionManager.getSessionByTeidC x.env.iteration s.gtpTeidC = some ⟨m, s⟩)
    (hp : s.state = .gtpCreatePending)
    (hu : (setupKernelGtpuTunnel x.env core.config (withTunnel s pgwTeid ueIp qci)).1 = true) :
    ∃ s', (core.step x).1.getSession m = some s' ∧ s'.state = .connected := by
  have hd : deliver core x = some (m, .createResponse true pgwTeid ueIp qci) := by
    simp only [deliver, hx, hf, Option.map_some]
  have hs : core.getSession m = some s := (SessionManager.getSessionByTeidC_stored hf).1
  refine ⟨{ withTunnel s pgwTeid ueIp qci with state := .connected }, ?_, rfl⟩
  rw [(step_stored hd hs).getSession hs, react, if_pos ⟨rfl, hp⟩]
  simp only [onTunnel, hu, if_true]

/-- In every reachable state, a Create Session Response that is decoded and
rejects leaves everything as it is, however the kernel answers and in whatever
order the sessions are visited, exactly if no session with its TEID waits for a
response. -/
theorem unaffected_iff (boot : Boot) (h : List Arrival) (d : Datagram) (rsp : CreateSessRsp)
    (hc : S2aInterface.isCreateSessRsp d) (hd : decodeCreateSessRsp d.buffer = .ok rsp)
    (_ : Rejects rsp) :
    (∀ env, Unaffected (boot.served h) (boot.served (⟨env, .s2a d⟩ :: h))
        (boot.calls h ⟨env, .s2a d⟩)) ↔
      ∀ m s, (boot.served h).getSession m = some s →
        s.gtpTeidC = S2aInterface.destTeid d.buffer → s.state ≠ .gtpCreatePending := by
  let event := Event.createSessionResponse (S2aInterface.destTeid d.buffer) true
    (S2aInterface.pgwTeid rsp) (S2aInterface.ueIp rsp) (S2aInterface.qci rsp)
  have hi (env : Env) : (⟨env, .s2a d⟩ : Arrival).input = some ⟨env, event⟩ := by
    refine input_iff.mpr ⟨handedOn_iff.mpr ?_, rfl⟩
    rw [S2aInterface.handleUdpRx, if_pos hc, hd]
    rfl
  have hserved (env : Env) : boot.served (⟨env, .s2a d⟩ :: h) =
      ((boot.served h).step ⟨env, event⟩).1 := by
    rw [served_cons (hi env)]
    rfl
  constructor
  · intro hall m s hs ht hp
    -- the kernel answers, and the scan meets this session first
    obtain ⟨it, hf⟩ := SessionManager.exists_getSessionByTeidC hs
    let env : Env := { sampleEnv 0 with iteration := it }
    obtain ⟨s', hs', hst⟩ : ∃ s', ((boot.served h).step ⟨env, event⟩).1.getSession m = some s' ∧
        s'.state = .connected := step_connects (by rw [ht]) hf hp rfl
    obtain ⟨s₀, hs₀, hc₀⟩ := (hall env).connected m s' (by rw [hserved]; exact hs') hst
    cases hs.symm.trans hs₀
    rw [hp] at hc₀
    cases hc₀
  · intro hn env
    have hstep : (boot.served h).step ⟨env, event⟩ = (boot.served h, []) := step_unawaited rfl hn
    have hcalls : boot.calls h ⟨env, .s2a d⟩ = [] := by
      rw [calls_eq (hi env)]
      exact congrArg Prod.snd hstep
    rw [hserved, hstep, hcalls]
    exact Unaffected.refl _

/-- A response that says "No resources available", with an address all the same. -/
def sampleRejection : Datagram := sampleResponse (causeIe 73 ++ paaIe 10 1 0 5)

/-- What is decoded of it. -/
def sampleRejectionRsp : CreateSessRsp := ⟨some 73, none, some (ofOctets 10 1 0 5), []⟩

theorem sampleRejectionRsp_rejects : Rejects sampleRejectionRsp := by
  intro cause hc
  obtain rfl := Option.some.inj hc
  decide

/-- While the sample UE still waits for the AAA server, the rejection does nothing. -/
theorem unaffected_iff_sample :
    Rejects sampleRejectionRsp ∧
      ∀ env, Unaffected (sampleBoot.served sampleArrived)
        (sampleBoot.served (⟨env, .s2a sampleRejection⟩ :: sampleArrived))
        (sampleBoot.calls sampleArrived ⟨env, .s2a sampleRejection⟩) := by
  refine ⟨sampleRejectionRsp_rejects, ?_⟩
  refine (unaffected_iff sampleBoot sampleArrived sampleRejection sampleRejectionRsp (by decide)
    (by decide) sampleRejectionRsp_rejects).mpr fun m s hs ht hp => ?_
  have hk : (sampleBoot.served sampleArrived).sessionManager.sessions.keys = [sampleMac] := by
    decide
  have hmem : m ∈ (sampleBoot.served sampleArrived).sessionManager.sessions.keys :=
    SessionManager.mem_keys_iff.mpr (stored_of_eq hs)
  rw [hk, List.mem_singleton] at hmem
  subst hmem
  have hst : ((sampleBoot.served sampleArrived).getSession sampleMac).map UeSession.state =
    some .authPending := by decide
  rw [hs, Option.map_some, hp] at hst
  cases hst

/-- The rejection connects a UE that waits for the P-GW. -/
theorem rejected_connects :
    S2aInterface.isCreateSessRsp sampleRejection ∧
      decodeCreateSessRsp sampleRejection.buffer = .ok sampleRejectionRsp ∧
      Rejects sampleRejectionRsp ∧
      ((sampleBoot.served samplePending).getSession sampleMac).map UeSession.state =
        some .gtpCreatePending ∧
      ((sampleBoot.served (⟨sampleEnv 30000000, .s2a sampleRejection⟩ :: samplePending)).getSession
        sampleMac).map (fun s => (s.state, s.ueIp)) = some (.connected, ofOctets 10 1 0 5) ∧
      kernelCalls (sampleBoot.calls samplePending ⟨sampleEnv 30000000, .s2a sampleRejection⟩) ≠
        [] :=
  ⟨by decide, by decide, sampleRejectionRsp_rejects, by decide, by decide, by decide⟩

end Twag.Proof.Gateway

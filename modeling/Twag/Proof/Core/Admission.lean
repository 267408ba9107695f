import Twag.Proof.Core.History

/-!
# Admission control and the counters

The store does not bound itself: `handle_radius_access_request` looks at the
number of sessions before it creates one, and nothing else creates any.

* `conserved`: in every run, the active sessions and the disconnections are the
  connections, modulo `2⁶⁴`, and the rejected sessions are the Access-Requests
  that were refused;
* `congestion`: in every run, there are never more sessions than configured; an
  Access-Request is refused exactly if it is for a new MAC address and the store
  is full; and then it does nothing but count and answer.
-/

namespace Twag.Proof.Core

open Twag.Impl Twag.Spec

variable (boot : Boot)

/-- The step is an Access-Request, and is answered at once: only one that is
refused is. -/
def refused (h : List Input) (x : Input) : Bool :=
  match x.event with
  | .accessRequest _ _ => !(responses (boot.effects h x)).isEmpty
  | _ => false

/-- How many Access-Requests were refused. -/
def refusals : List Input → Nat
  | [] => 0
  | x :: h => refusals h + (refused boot h x).toNat

/-- The step asks to disconnect a UE that is not connected. -/
def DisconnectsUnknown (core : TwagCore) (x : Input) : Prop :=
  match x.event with
  | .abortSession mac => core.getSession mac = none
  | .accountingStop mac => core.getSession mac = none
  | .deleteBearerRequest teid => ∀ mac s, core.getSession mac = some s → s.gtpTeidC ≠ teid
  | _ => False

variable {boot} {h : List Input} {x : Input}

/-! ## Which Access-Requests are refused -/

theorem not_refused_stored {req : AccessRequest} {c : Option Nat} {s : UeSession req.macAddr}
    (hx : x.event = .accessRequest req c) (hs : (boot.after h).getSession req.macAddr = some s) :
    refused boot h x = false := by
  have hd : deliver (boot.after h) x = some (req.macAddr, .accessRequest req) := by
    simp only [deliver, hx]
  simp only [refused, hx, Boot.effects, (step_stored hd hs).1, responses_react, respond]
  rfl

theorem not_refused_admitted {req : AccessRequest} {c : Option Nat}
    (hx : x.event = .accessRequest req c) (hn : (boot.after h).getSession req.macAddr = none)
    (hc : (boot.after h).sessionManager.getActiveSessionsCount <
      (boot.after h).config.maxActiveSessions.toNat) : refused boot h x = false := by
  have hr := responses_react (boot.after h).config x.env (born (boot.after h) x req.macAddr)
    (.accessRequest req)
  simp only [refused, hx, Boot.effects, (step_created hx hn hc).1]
  rw [react] at hr
  rw [hr]
  rfl

/-- An Access-Request is refused exactly if it is for a new MAC address and the
store is full. -/
theorem refused_iff : refused boot h x = true ↔ Full (boot.after h) x := by
  constructor
  · intro hr
    by_cases hq : ∃ req c, x.event = .accessRequest req c
    · obtain ⟨req, c, hx⟩ := hq
      cases hs : (boot.after h).getSession req.macAddr with
      | some s => rw [not_refused_stored hx hs] at hr; cases hr
      | none =>
        refine ⟨req, c, hx, hs, Nat.not_lt.mp fun hc => ?_⟩
        rw [not_refused_admitted hx hs hc] at hr
        cases hr
    · rw [refused] at hr
      split at hr
      · exact absurd ⟨_, _, by assumption⟩ hq
      · cases hr
  · rintro ⟨req, c, hx, hn, hc⟩
    simp only [refused, hx, Boot.effects, step_refused hx hn hc]
    rfl

/-! ## The counters -/

/-- What the counters say of the sessions. -/
structure Balanced (boot : Boot) (h : List Input) : Prop where
  connections : (boot.after h).sessionManager.getStats.active +
    (boot.after h).sessionManager.getStats.totalDisconn =
      (boot.after h).sessionManager.getStats.totalConn
  rejected : (boot.after h).sessionManager.getStats.rejected = UInt64.ofNat (refusals boot h)

/-- A step that is not refused keeps the balance of connections. -/
theorem active_step {core : TwagCore} (hs : StoreStep core x)
    (hb : core.sessionManager.getStats.active + core.sessionManager.getStats.totalDisconn =
      core.sessionManager.getStats.totalConn) :
    (core.step x).1.sessionManager.getStats.active +
        (core.step x).1.sessionManager.getStats.totalDisconn =
      (core.step x).1.sessionManager.getStats.totalConn ∧
    (core.step x).1.sessionManager.getStats.rejected = core.sessionManager.getStats.rejected := by
  simp only [SessionManager.getStats] at hb ⊢
  cases hs with
  | keeps hsm => rw [hsm]; exact ⟨hb, rfl⟩
  | puts m s s' hs hsm => rw [hsm, SessionManager.count_put s' hs]; exact ⟨hb, rfl⟩
  | removes m s hs hsm =>
    obtain ⟨hc, hd, hr⟩ := SessionManager.totals_removeSession hs
    have hcount := SessionManager.count_removeSession hs
    rw [hsm, hc, hd, hr, ← hb, ← hcount, UInt64.ofNat_add]
    refine ⟨?_, rfl⟩
    rw [UInt64.add_comm core.sessionManager.totalDisconnections, ← UInt64.add_assoc]
    rfl
  | creates m s' hn hc hsm =>
    have hput := SessionManager.count_put s'
      (SessionManager.getSession_createSession core.sessionManager x.env.memory m)
    rw [hsm, hput, SessionManager.count_createSession x.env.memory hn, UInt64.ofNat_add]
    refine ⟨?_, rfl⟩
    show UInt64.ofNat _ + 1 + core.sessionManager.totalDisconnections =
      core.sessionManager.totalConnections + 1
    rw [← hb, UInt64.add_assoc, UInt64.add_comm 1, ← UInt64.add_assoc]

theorem balanced (boot : Boot) (h : List Input) : Balanced boot h := by
  induction h with
  | nil =>
    have hsm : (boot.after []).sessionManager = .new := by
      simp only [Boot.after, TwagCore.initialized, TwagCore.armStatistics]
      split <;> rfl
    constructor <;> rw [hsm] <;> rfl
  | cons x h ih =>
    by_cases hf : Full (boot.after h) x
    · have hr : refused boot h x = true := refused_iff.mpr hf
      obtain ⟨req, c, hx, hn, hc⟩ := hf
      refine ⟨?_, ?_⟩
      · rw [Boot.after, step_refused hx hn hc]
        exact ih.connections
      · rw [Boot.after, step_refused hx hn hc, refusals, hr, UInt64.ofNat_add, ← ih.rejected]
        rfl
    · have hr : refused boot h x = false := Bool.eq_false_iff.mpr fun hr => hf (refused_iff.mp hr)
      obtain ⟨hconn, hrej⟩ := active_step (store_step hf) ih.connections
      refine ⟨hconn, ?_⟩
      rw [Boot.after, hrej, ih.rejected, refusals, hr]
      rfl

/-- A disconnect of an unknown UE leaves the store as it is. -/
theorem sessionManager_unknown {core : TwagCore} (hu : DisconnectsUnknown core x) :
    (core.step x).1.sessionManager = core.sessionManager := by
  refine (step_ignored core x fun m e hd => ?_).1
  obtain ⟨env, ev⟩ := x
  cases ev with
  | abortSession mac => cases hd; exact ⟨hu, nofun⟩
  | accountingStop mac => cases hd; exact ⟨hu, nofun⟩
  | deleteBearerRequest teid =>
    have hn : core.sessionManager.getSessionByTeidC env.iteration teid = none :=
      SessionManager.getSessionByTeidC_eq_none_iff.mpr hu
    simp only [deliver, hn, Option.map_none, reduceCtorEq] at hd
  | _ => exact hu.elim

/-- In every run, active sessions and disconnections add up to the connections
modulo `2⁶⁴`, the rejected sessions are the Access-Requests that were refused,
and to disconnect an unknown UE changes no counter. -/
theorem conserved (boot : Boot) (h : List Input) :
    (boot.after h).sessionManager.getStats.active +
        (boot.after h).sessionManager.getStats.totalDisconn =
      (boot.after h).sessionManager.getStats.totalConn ∧
    (boot.after h).sessionManager.getStats.rejected = UInt64.ofNat (refusals boot h) ∧
    ∀ x, DisconnectsUnknown (boot.after h) x →
      (boot.after (x :: h)).sessionManager.getStats = (boot.after h).sessionManager.getStats := by
  refine ⟨(balanced boot h).connections, (balanced boot h).rejected, fun x hu => ?_⟩
  rw [Boot.after, sessionManager_unknown hu]

/-! ## The bound -/

theorem count_le_max (boot : Boot) (h : List Input) :
    (boot.after h).sessionManager.getActiveSessionsCount ≤ boot.config.maxActiveSessions.toNat := by
  induction h with
  | nil =>
    simp only [Boot.after, TwagCore.initialized, TwagCore.armStatistics]
    split <;> exact Nat.zero_le _
  | cons x h ih =>
    by_cases hf : Full (boot.after h) x
    · obtain ⟨req, c, hx, hn, hc⟩ := hf
      rw [Boot.after, step_refused hx hn hc]
      exact ih
    · rw [Boot.after]
      cases store_step hf with
      | keeps hsm => rw [hsm]; exact ih
      | puts m s s' hs hsm => rw [hsm, SessionManager.count_put s' hs]; exact ih
      | removes m s hs hsm =>
        have := SessionManager.count_removeSession hs
        rw [hsm]
        omega
      | creates m s' hn hc hsm =>
        have hput := SessionManager.count_put s'
          (SessionManager.getSession_createSession (boot.after h).sessionManager x.env.memory m)
        rw [config_after] at hc
        rw [hsm, hput, SessionManager.count_createSession x.env.memory hn]
        omega

/-- In every run, the store never holds more sessions than configured; a known
MAC address is never refused; and an Access-Request for a new one is refused
exactly if the store is full, where it only counts the refusal and sends an
Access-Reject to the client that asked. -/
theorem congestion (boot : Boot) (h : List Input) :
    (boot.after h).sessionManager.getActiveSessionsCount ≤ boot.config.maxActiveSessions.toNat ∧
    ∀ x req c, x.event = .accessRequest req c →
      (∀ s, (boot.after h).getSession req.macAddr = some s → refused boot h x = false) ∧
      ((boot.after h).getSession req.macAddr = none →
        (refused boot h x = true ↔
          (boot.after h).sessionManager.getActiveSessionsCount =
            boot.config.maxActiveSessions.toNat)) ∧
      (refused boot h x = true →
        boot.after (x :: h) = { boot.after h with
          sessionManager := (boot.after h).sessionManager.incrementRejected } ∧
        boot.effects h x = [.radiusResponse
          ⟨req.clientAddr, accessReject, req.reqId, req.reqAuth, []⟩ x.env.radiusSendto]) := by
  refine ⟨count_le_max boot h, fun x req c hx => ⟨fun s hs => not_refused_stored hx hs, ?_, ?_⟩⟩
  · intro hn
    rw [refused_iff]
    constructor
    · rintro ⟨req', c', -, -, hc⟩
      rw [config_after] at hc
      exact Nat.le_antisymm (count_le_max boot h) hc
    · intro hc
      exact ⟨req, c, hx, hn, by rw [config_after, hc]⟩
  · intro hr
    obtain ⟨req', c', hx', hn, hc⟩ := refused_iff.mp hr
    cases hx.symm.trans hx'
    rw [Boot.after, Boot.effects, step_refused hx hn hc]
    exact ⟨rfl, rfl⟩

end Twag.Proof.Core

import Twag.Proof.SessionManager.Store
import Twag.Spec.Ue

/-!
# A step of the core is a step of one UE

* `step_stored`: on an event for a stored session, the core makes the calls
  that `react` makes, and stores what `react` returns for that session;
* `step_created`: on an Access-Request that is admitted, it creates a session
  first and does the same with that;
* `step_refused`: on an Access-Request that is refused, it sends one
  Access-Reject and counts it;
* `step_ignored`: on any other event, it keeps every session and calls nothing.

`view` puts them together for the session of one MAC address.
-/

namespace Twag.Proof.Core

open Twag.Impl Twag.Spec

variable {core : TwagCore} {x : Input} {m m' : Bytes} {e : UeEvent} {s : UeSession m}

/-- The store once the session of `m` is replaced, or removed. -/
def replace (sm : SessionManager) : Option (UeSession m) → SessionManager
  | some s => sm.put s
  | none => sm.removeSession m

theorem removeSession_put {s' : UeSession m} {sm : SessionManager} (h : sm.getSession m = some s) :
    (sm.put s').removeSession m = sm.removeSession m := by
  have h₁ : (sm.sessions.lookup m).isSome := by rw [← SessionManager.getSession, h]; rfl
  simp only [SessionManager.removeSession, SessionManager.put, AList.lookup_insert,
    Option.isSome_some, h₁, ite_true]
  congr 1
  exact AList.ext (List.kerase_cons_eq rfl)

/-- What the step does to the store and calls, where `o` is the session's own outcome. -/
def Follows (core : TwagCore) (next : TwagCore × List Effect) (s : UeSession m) (o : Outcome m) :
    Prop :=
  next.2 = o.effects ∧
    (next.1.sessionManager = core.sessionManager ∧ o.session = some s ∨
      next.1.sessionManager = replace core.sessionManager o.session)

theorem follows_authenticate (core : TwagCore) (env : Env) (req : AccessRequest)
    (s : UeSession req.macAddr) :
    Follows core (core.authenticate env req s) s (onRequest core.config env s req) :=
  ⟨rfl, .inr rfl⟩

theorem follows_onDeaReceived (env : Env) (dea : Dea) {s : UeSession dea.macAddr}
    (h : core.getSession dea.macAddr = some s) :
    Follows core (core.onDeaReceived env dea) s (react core.config env s (.dea dea)) := by
  simp only [TwagCore.onDeaReceived, h, react]
  by_cases ha : s.state = .authPending
  · rw [if_neg (not_not.mpr ha), if_pos ha]
    simp only [onAnswer]
    split
    · exact ⟨rfl, .inr rfl⟩
    split
    · generalize sendCreateSessionRequest env core.config
        (TwagCore.applyProfile core.config env s dea) = r
      obtain ⟨sent, s', effects⟩ := r
      cases sent <;> exact ⟨rfl, .inr rfl⟩
    · exact ⟨rfl, .inr rfl⟩
  · rw [if_pos ha, if_neg ha]
    exact ⟨rfl, .inl ⟨rfl, rfl⟩⟩

theorem follows_onGtpCreateResponseReceived (env : Env) {teid : UInt32} (success : Bool)
    (pgwTeid ueIp : UInt32) (qci : UInt8)
    (h : core.sessionManager.getSessionByTeidC env.iteration teid = some ⟨m, s⟩) :
    Follows core (core.onGtpCreateResponseReceived env teid success pgwTeid ueIp qci) s
      (react core.config env s (.createResponse success pgwTeid ueIp qci)) := by
  simp only [TwagCore.onGtpCreateResponseReceived, h, react]
  cases success with
  | false => exact ⟨rfl, .inl ⟨rfl, rfl⟩⟩
  | true =>
    by_cases hp : s.state = .gtpCreatePending
    · have hr : true = true ∧ s.state = .gtpCreatePending := ⟨rfl, hp⟩
      rw [if_neg (by decide), if_neg (not_not.mpr hp), if_pos hr]
      exact ⟨rfl, .inr rfl⟩
    · rw [if_neg (by decide), if_pos hp, if_neg fun h => hp h.2]
      exact ⟨rfl, .inl ⟨rfl, rfl⟩⟩

theorem follows_onGtpDeleteBearerRequestReceived (env : Env) {teid : UInt32}
    (h : core.sessionManager.getSessionByTeidC env.iteration teid = some ⟨m, s⟩) :
    Follows core (core.onGtpDeleteBearerRequestReceived env teid) s
      (react core.config env s .deleteBearer) := by
  simp only [TwagCore.onGtpDeleteBearerRequestReceived, h]
  exact ⟨rfl, .inr (removeSession_put (SessionManager.getSessionByTeidC_stored h).1)⟩

theorem follows_onAaaAbortSessionReceived (env : Env) (h : core.getSession m = some s) :
    Follows core (core.onAaaAbortSessionReceived env m) s (react core.config env s .abort) := by
  simp only [TwagCore.onAaaAbortSessionReceived, h]
  exact ⟨rfl, .inr (removeSession_put h)⟩

theorem follows_disconnectUe (env : Env) (h : core.getSession m = some s) :
    Follows core (core.disconnectUe env m) s (react core.config env s .disconnect) := by
  simp only [TwagCore.disconnectUe, h]
  exact ⟨rfl, .inr rfl⟩

theorem follows_s2aTimeout (core : TwagCore) (env : Env) (h : core.getSession m = some s) :
    Follows core (core.s2aTimeout env m) s (react core.config env s .timeout) := by
  simp only [TwagCore.s2aTimeout, TwagCore.disconnectUe, h, react]
  split
  · exact ⟨rfl, .inr rfl⟩
  · exact ⟨rfl, .inl ⟨rfl, rfl⟩⟩

theorem follows_handleDhcp (env : Env) (xid : UInt32) (msgType : UInt8)
    (h : core.getSession m = some s) :
    Follows core (core.handleDhcp env m xid msgType) s
      (react core.config env s (.dhcp xid msgType)) := by
  simp only [TwagCore.handleDhcp, h, react]
  split <;> exact ⟨rfl, .inl ⟨rfl, rfl⟩⟩

/-! ## Which event asks for what -/

theorem deliver_teid {it : IterationOrder (Sigma UeSession)} {teid : UInt32} {ev : UeEvent}
    (hd : (core.sessionManager.getSessionByTeidC it teid).map (fun p => (p.1, ev)) = some (m, e))
    (hs : core.getSession m = some s) :
    core.sessionManager.getSessionByTeidC it teid = some ⟨m, s⟩ ∧ e = ev := by
  obtain ⟨⟨mac, s'⟩, hf, hp⟩ := Option.map_eq_some_iff.mp hd
  simp only [Prod.mk.injEq] at hp
  obtain ⟨rfl, rfl⟩ := hp
  have hs' := (SessionManager.getSessionByTeidC_stored hf).1
  rw [show core.sessionManager.getSession mac = some s from hs] at hs'
  cases hs'
  exact ⟨hf, rfl⟩

/-- The event that a session is asked something by. -/
theorem event_of_deliver (hd : deliver core x = some (m, e)) :
    match e with
    | .accessRequest req => ∃ continues, x.event = .accessRequest req continues ∧ req.macAddr = m
    | .dea dea => ∃ answers, x.event = .dea dea answers ∧ dea.macAddr = m
    | .createResponse success pgwTeid ueIp qci =>
      ∃ teid, x.event = .createSessionResponse teid success pgwTeid ueIp qci
    | .deleteBearer => ∃ teid, x.event = .deleteBearerRequest teid
    | .abort => x.event = .abortSession m
    | .disconnect => x.event = .accountingStop m
    | .timeout =>
      x.event = .timer ∧ ∃ loop, core.eventLoop.popDue x.env.now = some (.s2aTimeout m, loop)
    | .dhcp xid msgType =>
      x.event = .dhcpDiscover m xid ∧ msgType = 2 ∨ x.event = .dhcpRequest m xid ∧ msgType = 5 := by
  obtain ⟨env, ev⟩ := x
  cases ev <;> simp only [deliver] at hd
  case accessRequest req continues => cases hd; exact ⟨continues, rfl, rfl⟩
  case dea dea answers => cases hd; exact ⟨answers, rfl, rfl⟩
  case createSessionResponse teid _ _ _ _ =>
    obtain ⟨pair, -, hp⟩ := Option.map_eq_some_iff.mp hd
    cases hp
    exact ⟨teid, rfl⟩
  case deleteBearerRequest teid =>
    obtain ⟨pair, -, hp⟩ := Option.map_eq_some_iff.mp hd
    cases hp
    exact ⟨teid, rfl⟩
  case abortSession mac => cases hd; rfl
  case accountingStop mac => cases hd; rfl
  case timer =>
    split at hd <;> cases hd
    exact ⟨rfl, _, by assumption⟩
  case dhcpDiscover mac xid => cases hd; exact .inl ⟨rfl, rfl⟩
  case dhcpRequest mac xid => cases hd; exact .inr ⟨rfl, rfl⟩

theorem deliver_accessRequest {req : AccessRequest}
    (hd : deliver core x = some (m, .accessRequest req)) :
    ∃ continues, x.event = .accessRequest req continues ∧ req.macAddr = m :=
  event_of_deliver hd

theorem deliver_dea {dea : Dea} (hd : deliver core x = some (m, .dea dea)) :
    ∃ answers, x.event = .dea dea answers ∧ dea.macAddr = m :=
  event_of_deliver hd

theorem deliver_createResponse {success : Bool} {pgwTeid ueIp : UInt32} {qci : UInt8}
    (hd : deliver core x = some (m, .createResponse success pgwTeid ueIp qci))
    (hs : core.getSession m = some s) :
    x.event = .createSessionResponse s.gtpTeidC success pgwTeid ueIp qci ∧
      core.sessionManager.getSessionByTeidC x.env.iteration s.gtpTeidC = some ⟨m, s⟩ := by
  obtain ⟨teid, hx⟩ := event_of_deliver hd
  simp only [deliver, hx] at hd
  obtain ⟨hf, -⟩ := deliver_teid hd hs
  obtain rfl := (SessionManager.getSessionByTeidC_stored hf).2
  exact ⟨hx, hf⟩

theorem deliver_timeout (hd : deliver core x = some (m, .timeout)) :
    x.event = .timer ∧ ∃ loop, core.eventLoop.popDue x.env.now = some (.s2aTimeout m, loop) :=
  event_of_deliver hd

theorem deliver_dhcp {xid : UInt32} {msgType : UInt8}
    (hd : deliver core x = some (m, .dhcp xid msgType)) :
    x.event = .dhcpDiscover m xid ∧ msgType = 2 ∨ x.event = .dhcpRequest m xid ∧ msgType = 5 :=
  event_of_deliver hd

/-! ## The whole step -/

/-- On an event for a stored session, the core does what the session does. -/
theorem step_stored (hd : deliver core x = some (m, e)) (hs : core.getSession m = some s) :
    Follows core (core.step x) s (react core.config x.env s e) := by
  obtain ⟨env, ev⟩ := x
  cases ev with
  | accessRequest req c =>
    simp only [deliver, Option.some.injEq, Prod.mk.injEq] at hd
    obtain ⟨rfl, rfl⟩ := hd
    simp only [TwagCore.step, TwagCore.handleRadiusAccessRequest, hs]
    exact follows_authenticate core env req s
  | dea dea a =>
    simp only [deliver, Option.some.injEq, Prod.mk.injEq] at hd
    obtain ⟨rfl, rfl⟩ := hd
    exact follows_onDeaReceived env dea hs
  | createSessionResponse teid success pgwTeid ueIp qci =>
    obtain ⟨hf, rfl⟩ := deliver_teid hd hs
    exact follows_onGtpCreateResponseReceived env success pgwTeid ueIp qci hf
  | deleteBearerRequest teid =>
    obtain ⟨hf, rfl⟩ := deliver_teid hd hs
    exact follows_onGtpDeleteBearerRequestReceived env hf
  | abortSession mac =>
    simp only [deliver, Option.some.injEq, Prod.mk.injEq] at hd
    obtain ⟨rfl, rfl⟩ := hd
    exact follows_onAaaAbortSessionReceived env hs
  | accountingStop mac =>
    simp only [deliver, Option.some.injEq, Prod.mk.injEq] at hd
    obtain ⟨rfl, rfl⟩ := hd
    exact follows_disconnectUe env hs
  | timer =>
    simp only [deliver] at hd
    split at hd <;> [skip; cases hd]
    rename_i mac loop hp
    simp only [Option.some.injEq, Prod.mk.injEq] at hd
    obtain ⟨rfl, rfl⟩ := hd
    simp only [TwagCore.step, TwagCore.runTimer, hp]
    exact follows_s2aTimeout { core with eventLoop := loop } env hs
  | dhcpDiscover mac xid =>
    simp only [deliver, Option.some.injEq, Prod.mk.injEq] at hd
    obtain ⟨rfl, rfl⟩ := hd
    exact follows_handleDhcp env xid 2 hs
  | dhcpRequest mac xid =>
    simp only [deliver, Option.some.injEq, Prod.mk.injEq] at hd
    obtain ⟨rfl, rfl⟩ := hd
    exact follows_handleDhcp env xid 5 hs

/-- An event that is neither an Access-Request nor for a stored session changes no session. -/
theorem step_ignored (core : TwagCore) (x : Input)
    (h : ∀ m e, deliver core x = some (m, e) →
      core.getSession m = none ∧ ∀ req, e ≠ .accessRequest req) :
    (core.step x).1.sessionManager = core.sessionManager ∧ (core.step x).2 = [] := by
  obtain ⟨env, ev⟩ := x
  have none_of_teid : ∀ {teid : UInt32} {ue : UeEvent},
      (∀ m e, (core.sessionManager.getSessionByTeidC env.iteration teid).map
        (fun p => (p.1, ue)) = some (m, e) → core.getSession m = none) →
      core.sessionManager.getSessionByTeidC env.iteration teid = none := by
    intro teid ue hn
    cases hf : core.sessionManager.getSessionByTeidC env.iteration teid with
    | none => rfl
    | some pair =>
      have := hn pair.1 ue (by rw [hf]; rfl)
      rw [TwagCore.getSession, (SessionManager.getSessionByTeidC_stored hf).1] at this
      cases this
  cases ev with
  | accessRequest req c => exact absurd rfl ((h _ _ rfl).2 req)
  | dea dea a => simp only [TwagCore.step, TwagCore.onDeaReceived, (h _ _ rfl).1, and_self]
  | createSessionResponse teid success pgwTeid ueIp qci =>
    have hn := none_of_teid fun m e hd => (h m e hd).1
    simp only [TwagCore.step, TwagCore.onGtpCreateResponseReceived, hn, and_self]
  | deleteBearerRequest teid =>
    have hn := none_of_teid fun m e hd => (h m e hd).1
    simp only [TwagCore.step, TwagCore.onGtpDeleteBearerRequestReceived, hn, and_self]
  | abortSession mac =>
    simp only [TwagCore.step, TwagCore.onAaaAbortSessionReceived, (h _ _ rfl).1, and_self]
  | accountingStop mac => simp only [TwagCore.step, TwagCore.disconnectUe, (h _ _ rfl).1, and_self]
  | timer =>
    simp only [TwagCore.step, TwagCore.runTimer]
    simp only [deliver] at h
    split
    · exact ⟨rfl, rfl⟩
    · rename_i cb loop hp
      rw [hp] at h
      cases cb with
      | s2aTimeout mac =>
        have hn : { core with eventLoop := loop }.getSession mac = none := (h _ _ rfl).1
        simp only [TwagCore.s2aTimeout, hn, and_self]
      | logStatistics =>
        simp only [TwagCore.armStatistics, and_true]
        split <;> rfl
  | dhcpDiscover mac xid =>
    simp only [TwagCore.step, TwagCore.handleDhcpDiscover, TwagCore.handleDhcp, (h _ _ rfl).1,
      and_self]
  | dhcpRequest mac xid =>
    simp only [TwagCore.step, TwagCore.handleDhcpRequest, TwagCore.handleDhcp, (h _ _ rfl).1,
      and_self]

/-- An event for a session that is not there, unless it is an Access-Request. -/
theorem step_absent (hd : deliver core x = some (m, e)) (hn : core.getSession m = none)
    (hr : ∀ req, e ≠ .accessRequest req) :
    (core.step x).1.sessionManager = core.sessionManager ∧ (core.step x).2 = [] := by
  refine step_ignored core x fun m' e' hd' => ?_
  cases hd.symm.trans hd'
  exact ⟨hn, hr⟩

/-- An Access-Request for a new MAC address while the store is full. -/
theorem step_refused {req : AccessRequest} {c : Option Nat}
    (hx : x.event = .accessRequest req c)
    (hn : core.getSession req.macAddr = none)
    (hc : core.config.maxActiveSessions.toNat ≤ core.sessionManager.getActiveSessionsCount) :
    core.step x = ({ core with sessionManager := core.sessionManager.incrementRejected },
      [sendResponse x.env req.clientAddr accessReject req.reqId req.reqAuth []]) := by
  simp only [TwagCore.step, hx, TwagCore.handleRadiusAccessRequest, hn, if_pos hc]

/-- The session that an Access-Request creates. -/
def born (core : TwagCore) (x : Input) (m : Bytes) : UeSession m :=
  (core.sessionManager.createSession x.env.memory m).2

/-- An Access-Request for a new MAC address that is admitted: the new session
does what a stored one does. -/
theorem step_created {req : AccessRequest} {c : Option Nat}
    (hx : x.event = .accessRequest req c)
    (hn : core.getSession req.macAddr = none)
    (hc : core.sessionManager.getActiveSessionsCount < core.config.maxActiveSessions.toNat) :
    (core.step x).2 =
        (onRequest core.config x.env (born core x req.macAddr) req).effects ∧
      (core.step x).1.sessionManager =
        replace (core.sessionManager.createSession x.env.memory req.macAddr).1
          (onRequest core.config x.env (born core x req.macAddr) req).session := by
  simp only [TwagCore.step, hx, TwagCore.handleRadiusAccessRequest, hn, if_neg (Nat.not_le.mpr hc)]
  exact ⟨rfl, rfl⟩

/-! ## One session's view of a step -/

theorem getSession_replace (sm : SessionManager) (o : Option (UeSession m)) :
    (replace sm o).getSession m = o := by
  cases o <;> simp [replace]

theorem getSession_replace_ne {sm : SessionManager} (o : Option (UeSession m)) (h : m' ≠ m) :
    (replace sm o).getSession m' = sm.getSession m' := by
  cases o
  · exact SessionManager.getSession_removeSession_ne h
  · exact SessionManager.getSession_put_ne _ h

theorem Follows.getSession {next : TwagCore × List Effect} {o : Outcome m}
    (h : Follows core next s o) (hs : core.getSession m = some s) :
    next.1.getSession m = o.session := by
  rcases h.2 with ⟨hk, ho⟩ | hr
  · rw [TwagCore.getSession, hk, ho]; exact hs
  · rw [TwagCore.getSession, hr, getSession_replace]

theorem Follows.getSession_ne {next : TwagCore × List Effect} {o : Outcome m}
    (h : Follows core next s o) (hne : m' ≠ m) : next.1.getSession m' = core.getSession m' := by
  rcases h.2 with ⟨hk, -⟩ | hr
  · rw [TwagCore.getSession, hk]; rfl
  · rw [TwagCore.getSession, hr, getSession_replace_ne _ hne]; rfl

/-- What a step is to the session of `m`: the session it has, or is given by an
Access-Request, reacts to an event for it; or an Access-Request for it is
refused; or the step does not concern it. -/
inductive View (config : TwagConfig) (core : TwagCore) (x : Input) (m : Bytes) : Prop
  | reacts (e : UeEvent) (s : UeSession m) (hd : deliver core x = some (m, e))
    (hs : core.getSession m = some s)
    (hg : (core.step x).1.getSession m = (react config x.env s e).session)
    (he : (core.step x).2 = (react config x.env s e).effects)
  | attaches (req : AccessRequest) (c : Option Nat) (hx : x.event = .accessRequest req c)
    (hm : req.macAddr = m)
    (hn : core.getSession m = none)
    (hc : core.sessionManager.getActiveSessionsCount < config.maxActiveSessions.toNat)
    (hg : (core.step x).1.getSession m =
      (react config x.env (born core x m) (.accessRequest req)).session)
    (he : (core.step x).2 = (react config x.env (born core x m) (.accessRequest req)).effects)
  | refuses (req : AccessRequest) (c : Option Nat) (hx : x.event = .accessRequest req c)
    (hm : req.macAddr = m)
    (hn : core.getSession m = none)
    (hc : config.maxActiveSessions.toNat ≤ core.sessionManager.getActiveSessionsCount)
    (hg : (core.step x).1.getSession m = none)
    (he : (core.step x).2 =
      [sendResponse x.env req.clientAddr accessReject req.reqId req.reqAuth []])
  | keeps (hd : ∀ e, deliver core x = some (m, e) →
      core.getSession m = none ∧ ∀ req, e ≠ .accessRequest req)
    (hg : (core.step x).1.getSession m = core.getSession m)

/-- An event for the session of `m₀` does not concern that of another `m`. -/
theorem not_delivered {m₀ : Bytes} (hd : deliver core x = some (m₀, e)) (hm : m ≠ m₀) :
    ∀ e', deliver core x = some (m, e') →
      core.getSession m = none ∧ ∀ req, e' ≠ .accessRequest req := by
  intro e' h
  rw [hd, Option.some.injEq, Prod.mk.injEq] at h
  exact absurd h.1.symm hm

theorem view_accessRequest {req : AccessRequest} {c : Option Nat}
    (hx : x.event = .accessRequest req c)
    (hd : deliver core x = some (req.macAddr, .accessRequest req))
    (hn : core.getSession req.macAddr = none) (m : Bytes) :
    View core.config core x m := by
  rcases Nat.lt_or_ge core.sessionManager.getActiveSessionsCount
      core.config.maxActiveSessions.toNat with hc | hc
  · obtain ⟨he, hsm⟩ := step_created hx hn hc
    by_cases hm : m = req.macAddr
    · subst hm
      refine .attaches req c hx rfl hn hc ?_ he
      rw [TwagCore.getSession, hsm, getSession_replace]; rfl
    · refine .keeps (not_delivered hd hm) ?_
      rw [TwagCore.getSession, hsm, getSession_replace_ne _ hm,
        SessionManager.getSession_createSession_ne _ hm]; rfl
  · have hst := step_refused hx hn hc
    by_cases hm : m = req.macAddr
    · subst hm
      exact .refuses req c hx rfl hn hc (by rw [hst]; exact hn) (by rw [hst])
    · exact .keeps (not_delivered hd hm) (by rw [hst]; rfl)

theorem view (core : TwagCore) (x : Input) (m : Bytes) : View core.config core x m := by
  -- an event that `step_ignored` is about keeps the session of every `m`
  have ignored : (∀ m e, deliver core x = some (m, e) →
      core.getSession m = none ∧ ∀ req, e ≠ .accessRequest req) →
      View core.config core x m := fun h =>
    .keeps (h m) (by rw [TwagCore.getSession, (step_ignored core x h).1]; rfl)
  cases hd : deliver core x with
  | none => exact ignored (by rw [hd]; intro _ _ h; cases h)
  | some target =>
    obtain ⟨m₀, e⟩ := target
    cases hs : core.getSession m₀ with
    | some s =>
      have hf := step_stored hd hs
      by_cases hm : m = m₀
      · subst hm
        exact .reacts e s hd hs (hf.getSession hs) hf.1
      · exact .keeps (not_delivered hd hm) (hf.getSession_ne hm)
    | none =>
      by_cases hr : ∃ req, e = .accessRequest req
      · obtain ⟨req, rfl⟩ := hr
        obtain ⟨c, hx, rfl⟩ := deliver_accessRequest hd
        exact view_accessRequest hx hd hs m
      · refine ignored fun m' e' h => ?_
        rw [hd, Option.some.injEq, Prod.mk.injEq] at h
        obtain ⟨rfl, rfl⟩ := h
        exact ⟨hs, fun req he => hr ⟨req, he⟩⟩

/-! ## The store's view of a step -/

/-- The step is an Access-Request for a new MAC address while the store is full. -/
def Full (core : TwagCore) (x : Input) : Prop :=
  ∃ req c, x.event = .accessRequest req c ∧ core.getSession req.macAddr = none ∧
    core.config.maxActiveSessions.toNat ≤ core.sessionManager.getActiveSessionsCount

/-- What any other step is to the store. -/
inductive StoreStep (core : TwagCore) (x : Input) : Prop
  | keeps (hsm : (core.step x).1.sessionManager = core.sessionManager)
  | puts (m : Bytes) (s s' : UeSession m) (hs : core.getSession m = some s)
    (hsm : (core.step x).1.sessionManager = core.sessionManager.put s')
  | removes (m : Bytes) (s : UeSession m) (hs : core.getSession m = some s)
    (hsm : (core.step x).1.sessionManager = core.sessionManager.removeSession m)
  | creates (m : Bytes) (s' : UeSession m) (hn : core.getSession m = none)
    (hc : core.sessionManager.getActiveSessionsCount < core.config.maxActiveSessions.toNat)
    (hsm : (core.step x).1.sessionManager =
      (core.sessionManager.createSession x.env.memory m).1.put s')

theorem store_step (hf : ¬ Full core x) : StoreStep core x := by
  cases hd : deliver core x with
  | none => exact .keeps (step_ignored core x (by rw [hd]; intro _ _ h; cases h)).1
  | some target =>
    obtain ⟨m, e⟩ := target
    cases hs : core.getSession m with
    | some s =>
      rcases (step_stored hd hs).2 with ⟨hk, -⟩ | hr
      · exact .keeps hk
      · cases ho : (react core.config x.env s e).session with
        | some s' => exact .puts m s s' hs (by rw [hr, ho]; rfl)
        | none => exact .removes m s hs (by rw [hr, ho]; rfl)
    | none =>
      by_cases hr : ∃ req, e = .accessRequest req
      · obtain ⟨req, rfl⟩ := hr
        obtain ⟨c, hx, rfl⟩ := deliver_accessRequest hd
        have hc : core.sessionManager.getActiveSessionsCount <
            core.config.maxActiveSessions.toNat := Nat.not_le.mp fun hc => hf ⟨req, c, hx, hs, hc⟩
        exact .creates req.macAddr _ hs hc (step_created hx hs hc).2
      · exact .keeps (step_absent hd hs fun req he => hr ⟨req, he⟩).1

/-! ## What else a step changes -/

/-- Every event but a DEA and an expired timer changes the sessions only. -/
theorem step_other {core : TwagCore} {x : Input} (hd : ∀ dea a, x.event ≠ .dea dea a)
    (ht : x.event ≠ .timer) :
    (core.step x).1 = { core with sessionManager := (core.step x).1.sessionManager } := by
  obtain ⟨env, ev⟩ := x
  cases ev with
  | accessRequest req c =>
    simp only [TwagCore.step, TwagCore.handleRadiusAccessRequest]
    split <;> [rfl; split <;> rfl]
  | dea dea a => exact absurd rfl (hd dea a)
  | createSessionResponse teid success pgwTeid ueIp qci =>
    simp only [TwagCore.step, TwagCore.onGtpCreateResponseReceived]
    repeat' split
    all_goals rfl
  | deleteBearerRequest teid =>
    simp only [TwagCore.step, TwagCore.onGtpDeleteBearerRequestReceived]
    split <;> rfl
  | abortSession mac =>
    simp only [TwagCore.step, TwagCore.onAaaAbortSessionReceived]
    split <;> rfl
  | accountingStop mac =>
    simp only [TwagCore.step, TwagCore.disconnectUe]
    split <;> rfl
  | timer => exact absurd rfl ht
  | dhcpDiscover mac xid =>
    simp only [TwagCore.step, TwagCore.handleDhcpDiscover, TwagCore.handleDhcp]
    split <;> [rfl; split <;> rfl]
  | dhcpRequest mac xid =>
    simp only [TwagCore.step, TwagCore.handleDhcpRequest, TwagCore.handleDhcp]
    split <;> [rfl; split <;> rfl]

theorem config_armStatistics (core : TwagCore) (now : Time) :
    (core.armStatistics now).config = core.config := by
  rw [TwagCore.armStatistics]; split <;> rfl

theorem config_disconnectUe (core : TwagCore) (env : Env) (m : Bytes) :
    (core.disconnectUe env m).1.config = core.config := by
  rw [TwagCore.disconnectUe]; split <;> rfl

/-- The configuration never changes. -/
theorem config_step (core : TwagCore) (x : Input) : (core.step x).1.config = core.config := by
  by_cases hd : ∃ dea a, x.event = .dea dea a
  · obtain ⟨dea, a, hd⟩ := hd
    simp only [TwagCore.step, hd, TwagCore.onDeaReceived]
    repeat' split
    all_goals rfl
  by_cases ht : x.event = .timer
  · simp only [TwagCore.step, ht, TwagCore.runTimer]
    split
    · rfl
    · split
      · simp only [TwagCore.s2aTimeout]
        repeat' split
        all_goals first | rfl | exact config_disconnectUe _ x.env _
      · exact config_armStatistics _ _
  rw [step_other (fun dea a hx => hd ⟨dea, a, hx⟩) ht]

end Twag.Proof.Core

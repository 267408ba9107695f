import Twag.Impl.Threads
import Twag.Proof.SessionManager.Store
import Twag.Spec.Ue

/-!
# Handlers that do not overlap

A handler works on a session through a pointer, field by field, where
`TwagCore.step` replaces the stored session in one step. Run from its start to
its end while no other thread moves, it does the same: `sim_ofInput` for one
handler, `serial` for a run of the process in which no two handlers overlap.
The order in which a loop over `sessions_` finds the sessions may differ
between the two, since `step` keeps them in another arrangement.

`run_…` say what each part of a handler leaves, as one change of the session it
points to (`setObject`) and the calls it makes (`emitted`).
-/

namespace Twag.Impl.Shared

variable {mac mac' : Bytes}

@[simp] theorem object_emitted (s : Shared) (es : List Effect) (r : Ref mac) :
    (s.emitted es).object r = s.object r := rfl

@[simp] theorem object_setObject (s : Shared) (r : Ref mac) (a : UeSession mac) :
    (s.setObject r a).object r = a := by
  simp [object, setObject]

@[simp] theorem setObject_object (s : Shared) (r : Ref mac) : s.setObject r (s.object r) = s := by
  simp [object, setObject]

@[simp] theorem setObject_setObject (s : Shared) (r : Ref mac) (a b : UeSession mac) :
    (s.setObject r a).setObject r b = s.setObject r b := by
  simp [setObject]

@[simp] theorem setObject_emitted (s : Shared) (es : List Effect) (r : Ref mac)
    (a : UeSession mac) : (s.emitted es).setObject r a = (s.setObject r a).emitted es := rfl

@[simp] theorem emitted_emitted (s : Shared) (es es' : List Effect) :
    (s.emitted es).emitted es' = s.emitted (es ++ es') := by
  simp [emitted]

theorem emitted_nil (s : Shared) : s.emitted [] = s := by
  simp [emitted]

theorem object_setObject_ne (s : Shared) (r : Ref mac) (a : UeSession mac) (h : mac' ≠ mac)
    (r' : Ref mac') : (s.setObject r a).object r' = s.object r' := by
  simp [object, setObject, Function.update_of_ne h]

end Twag.Impl.Shared

namespace Twag.Proof.Threads

open Twag.Impl Twag.Spec

variable {mac : Bytes} (env : Env) (config : TwagConfig) (s : Shared) (r : Ref mac)

/-! ## The parts of the handlers -/

/-- Reading a field. The type of what is read depends on the field, so that
`simp` rewrites with this and not with `run_get`. -/
theorem exec_get (f : Field) : Access.exec (.get mac r f) s = (f.get (s.object r), s) := rfl

theorem run_get (f : Field) : (Handler.get r f).run Access.exec s = (f.get (s.object r), s) := rfl

@[simp] theorem run_set (f : Field) (v : f.Val) :
    (Handler.set r f v).run Access.exec s = ((), s.setObject r (f.set (s.object r) v)) := rfl

@[simp] theorem run_emit (e : Effect) :
    (Handler.emit e).run Access.exec s = ((), s.emitted [e]) := rfl

@[simp] theorem run_gtpTeidC :
    (Handler.gtpTeidC r).run Access.exec s = ((s.object r).gtpTeidC, s) := rfl

@[simp] theorem run_gtpTeidU :
    (Handler.gtpTeidU r).run Access.exec s = ((s.object r).gtpTeidU, s) := rfl

theorem run_getSession (mac : Bytes) :
    (Handler.getSession mac).run Access.exec s = (s.sessions.lookup mac, s) := rfl

theorem run_getSessionByTeidC (teid : UInt32) :
    (Handler.getSessionByTeidC env teid).run Access.exec s =
      ((Access.exec (.getSessionByTeidC env.iteration teid) s).1, s) := rfl

theorem run_sendDer (eap : Bytes) :
    (Handler.sendDer env config r eap).run Access.exec s =
      ((), (s.setObject r (sendDer env config (s.object r) eap).2.1).emitted
        (sendDer env config (s.object r) eap).2.2) := by
  cases hn : env.fdMsgNew <;> cases hs : env.fdMsgSend <;>
    simp [Handler.sendDer, sendDer, hn, hs, Field.set, Shared.emitted_nil]

theorem run_sendStr :
    (Handler.sendStr env config mac).run Access.exec s =
      ((), s.emitted (sendStr env config mac)) := by
  cases hn : env.fdMsgNew <;> simp [Handler.sendStr, sendStr, hn, Shared.emitted_nil]

theorem run_answer (code : UInt8) (eap : Bytes) :
    (Handler.answer env r code eap).run Access.exec s =
      ((), s.emitted [TwagCore.answer env (s.object r) code eap]) := rfl

theorem run_destIp :
    (Handler.destIp config r).run Access.exec s = (destIp config (s.object r), s) := rfl

theorem run_ambr {read : Handler UInt32} {v : UInt32}
    (h : read.run Access.exec s = (v, s)) :
    (Handler.ambr read).run Access.exec s = (if v ≠ 0 then v else 1000000, s) := by
  simp only [Handler.ambr, Prog.run_bind, h]
  split
  · exact h
  · rfl

theorem run_sendCreateSessionRequest :
    (Handler.sendCreateSessionRequest env config r).run Access.exec s =
      ((sendCreateSessionRequest env config (s.object r)).1,
        (s.setObject r (sendCreateSessionRequest env config (s.object r)).2.1).emitted
          (sendCreateSessionRequest env config (s.object r)).2.2) := by
  have hul := run_ambr s (run_get s r .ambrUl)
  have hdl := run_ambr s (run_get s r .ambrDl)
  simp only [Handler.sendCreateSessionRequest, Prog.run_bind, Handler.get, Prog.op, Prog.run,
    exec_get, run_gtpTeidC, run_destIp, sendCreateSessionRequest]
  simp only [Handler.get, Prog.op] at hul hdl
  rw [hul, hdl]
  cases inetPton (destIp config (s.object r)) with
  | none => simp [Shared.emitted_nil]
  | some dest =>
    cases env.s2aSendto with
    | false =>
      show _ = (false, (s.setObject r (s.object r)).emitted _)
      rw [Shared.setObject_object]
      rfl
    | true => rfl

theorem run_setupKernelGtpuTunnel :
    (Handler.setupKernelGtpuTunnel env config r).run Access.exec s =
      ((setupKernelGtpuTunnel env config (s.object r)).1,
        s.emitted (setupKernelGtpuTunnel env config (s.object r)).2) := by
  cases h₁ : env.genlSocketOpen <;> cases h₂ : env.genlLookupFamily <;>
    cases h₃ : env.gtpTunnelAlloc <;> cases h₄ : env.gtpAddTunnel <;>
    simp [Handler.setupKernelGtpuTunnel, setupKernelGtpuTunnel, h₁, h₂, h₃, h₄, Handler.get,
      Prog.op, Prog.run, exec_get, Field.get, Shared.emitted_nil]

theorem run_sendDeleteSessionRequest :
    (Handler.sendDeleteSessionRequest env config r).run Access.exec s =
      ((), s.emitted (sendDeleteSessionRequest env config (s.object r))) := by
  simp only [Handler.sendDeleteSessionRequest, Prog.run_bind, Handler.get, Prog.op, Prog.run,
    exec_get, run_destIp, sendDeleteSessionRequest]
  cases inetPton (destIp config (s.object r)) with
  | none => simp [Shared.emitted_nil]
  | some dest => rfl

theorem run_teardownKernelGtpuTunnel :
    (Handler.teardownKernelGtpuTunnel env r).run Access.exec s =
      ((), s.emitted (teardownKernelGtpuTunnel env (s.object r))) := by
  by_cases h : mapQciToDscp (s.object r).qci = 0 <;>
    simp [Handler.teardownKernelGtpuTunnel, teardownKernelGtpuTunnel, Handler.get, Prog.op,
      Prog.run, exec_get, Field.get, h]

theorem run_authenticate (req : AccessRequest) (r : Ref req.macAddr) :
    (Handler.authenticate env config req r).run Access.exec s =
      ((), (s.setObject r
          (sendDer env config (withRequest (s.object r) req) req.eapPayload).2.1).emitted
        (sendDer env config (withRequest (s.object r) req) req.eapPayload).2.2) := by
  cases hi : req.imsi.isEmpty <;>
    simp [Handler.authenticate, hi, run_sendDer, Field.set, withRequest]

theorem set_get (f : Field) (a : UeSession mac) : f.set a (f.get a) = a := by
  cases f <;> rfl

theorem run_setIf (c : Bool) (f : Field) (v : f.Val) :
    (Handler.setIf c r f v).run Access.exec s =
      ((), s.setObject r (f.set (s.object r) (if c then v else f.get (s.object r)))) := by
  cases c with
  | false =>
    show _ = ((), s.setObject r (f.set (s.object r) (f.get (s.object r))))
    rw [set_get, Shared.setObject_object]
    rfl
  | true => rfl

theorem run_profileApn (dea : Dea) :
    (Handler.profileApn config r dea).run Access.exec s =
      ((), s.setObject r { s.object r with apn :=
        if !dea.apn.isEmpty then dea.apn
        else if (s.object r).apn.isEmpty then config.apn else (s.object r).apn }) := by
  rw [Handler.profileApn]
  split
  · rfl
  · exact run_setIf s r _ .apn config.apn

theorem run_profilePgwIp (dea : Dea) :
    (Handler.profilePgwIp env config r dea).run Access.exec s =
      let resolvedIp := env.resolvePgwSnaptr ((s.object r).apn ++ ascii ".apn." ++ config.aaaRealm)
      ((), s.setObject r { s.object r with pgwIp :=
        if !dea.pgwIp.isEmpty then dea.pgwIp
        else if !resolvedIp.isEmpty then resolvedIp else config.pgwIp }) := by
  rw [Handler.profilePgwIp]
  split <;> rfl

theorem run_applyProfile (dea : Dea) :
    (Handler.applyProfile env config r dea).run Access.exec s =
      ((), s.setObject r (TwagCore.applyProfile config env (s.object r) dea)) := by
  simp only [Handler.applyProfile, Prog.run_bind, run_profileApn, run_setIf, run_profilePgwIp,
    Shared.object_setObject, Shared.setObject_setObject, Field.set, Field.get, decide_eq_true_eq,
    TwagCore.applyProfile]

/-! ## The same sessions, held in two ways -/

/-- What the threads share, and the core's state, hold the same. -/
structure Sim (config : TwagConfig) (s : Shared) (core : TwagCore) : Prop where
  config : core.config = config
  eventLoop : core.eventLoop = s.eventLoop
  stored : ∀ mac, core.getSession mac = s.stored mac
  /-- Every stored session is one that was made. -/
  made : ∀ mac (r : Ref mac), s.sessions.lookup mac = some r → r.id < s.made
  nextTeid : core.sessionManager.nextTeid = s.nextTeid
  connections : core.sessionManager.totalConnections = s.totalConnections
  disconnections : core.sessionManager.totalDisconnections = s.totalDisconnections
  rejected : core.sessionManager.totalRejectedSessions = s.totalRejectedSessions

namespace Sim

variable {config s} {core : TwagCore} {r : Ref mac}

/-- A stored session is the object that its key points to. -/
theorem getSession_eq (h : Sim config s core) (hr : s.sessions.lookup mac = some r) :
    core.getSession mac = some (s.object r) := by
  rw [h.stored, Shared.stored, hr]
  rfl

theorem getSession_none (h : Sim config s core) (hr : s.sessions.lookup mac = none) :
    core.getSession mac = none := by
  rw [h.stored, Shared.stored, hr]
  rfl

theorem perm (h : Sim config s core) : s.entries.Perm core.sessionManager.sessions.entries := by
  refine List.lookup_ext (.map₂ _ _ s.sessions.nodupKeys) core.sessionManager.sessions.nodupKeys ?_
  intro m a
  rw [Shared.entries, List.dlookup_map₂]
  show a ∈ s.stored m ↔ a ∈ core.getSession m
  rw [h.stored]

theorem count (h : Sim config s core) :
    core.sessionManager.getActiveSessionsCount = s.sessions.entries.length := by
  rw [SessionManager.getActiveSessionsCount, ← h.perm.length_eq, Shared.entries, List.length_map]

theorem emitted (h : Sim config s core) (es : List Effect) : Sim config (s.emitted es) core :=
  { h with }

theorem setObject (h : Sim config s core) (hr : s.sessions.lookup mac = some r)
    (a : UeSession mac) : Sim config (s.setObject r a) (core.put a) :=
  { h with
    stored := by
      intro m
      by_cases hm : m = mac
      · subst hm
        rw [Shared.stored, show (s.setObject r a).sessions.lookup m = some r from hr]
        simp [TwagCore.getSession, TwagCore.put]
      · have hobj : (s.setObject r a).stored m = s.stored m := by
          rw [Shared.stored, Shared.stored]
          congr 1
          funext r'
          exact s.object_setObject_ne r a hm r'
        rw [hobj, ← h.stored]
        exact SessionManager.getSession_put_ne a hm }

theorem addTimer (h : Sim config s core) (now : Time) (ms : UInt32) (cb : TimerCallback) :
    Sim config { s with eventLoop := s.eventLoop.addTimer now ms cb }
      { core with eventLoop := core.eventLoop.addTimer now ms cb } :=
  { h with eventLoop := by rw [h.eventLoop] }

theorem removeSession (h : Sim config s core) (mac : Bytes) :
    Sim config (Access.exec (.removeSession mac) s).2 (core.removeSession mac) := by
  have hsome : (core.sessionManager.sessions.lookup mac).isSome =
      (s.sessions.lookup mac).isSome := by
    rw [show core.sessionManager.sessions.lookup mac = s.stored mac from h.stored mac,
      Shared.stored, Option.isSome_map]
  by_cases hs : (s.sessions.lookup mac).isSome
  · have hcore : core.removeSession mac = { core with
        sessionManager := { core.sessionManager with
          sessions := core.sessionManager.sessions.erase mac
          totalDisconnections := core.sessionManager.totalDisconnections + 1 } } := by
      rw [TwagCore.removeSession, SessionManager.removeSession, if_pos (hsome.trans hs)]
    simp only [Access.exec, if_pos hs, hcore]
    refine { h with
      stored := ?_
      made := ?_
      disconnections := by rw [h.disconnections] }
    · intro m
      by_cases hm : m = mac
      · subst hm
        simp [TwagCore.getSession, SessionManager.getSession, Shared.stored]
      · have hm' := h.stored m
        simp only [TwagCore.getSession, SessionManager.getSession, Shared.stored,
          AList.lookup_erase_ne hm] at hm' ⊢
        exact hm'
    · intro m r hr
      by_cases hm : m = mac
      · subst hm
        simp at hr
      · exact h.made m r (by rwa [AList.lookup_erase_ne hm] at hr)
  · have hcore : core.removeSession mac = core := by
      rw [TwagCore.removeSession, SessionManager.removeSession, if_neg (by rw [hsome]; exact hs)]
    simp only [Access.exec, if_neg hs, hcore]
    exact h

theorem createSession (h : Sim config s core) (mem : Indeterminate) (mac : Bytes) :
    Sim config (Access.exec (.createSession mem mac) s).2
        { core with sessionManager := (core.sessionManager.createSession mem mac).1 } ∧
      (Access.exec (.createSession mem mac) s).2.object (Access.exec (.createSession mem mac) s).1 =
        (core.sessionManager.createSession mem mac).2 := by
  have hobj : (Access.exec (.createSession mem mac) s).2.object
      (Access.exec (.createSession mem mac) s).1 =
      (core.sessionManager.createSession mem mac).2 := by
    simp only [Access.exec, Shared.object, Shared.setObject, Function.update_self,
      SessionManager.createSession, h.nextTeid]
  refine ⟨{ h with
    stored := ?_
    made := ?_
    nextTeid := by simp only [SessionManager.createSession, Access.exec, h.nextTeid]
    connections := by simp only [SessionManager.createSession, Access.exec, h.connections] }, hobj⟩
  · intro m
    by_cases hm : m = mac
    · subst hm
      have hlookup : (Access.exec (.createSession mem m) s).2.sessions.lookup m =
          some (Access.exec (.createSession mem m) s).1 := by
        simp only [Access.exec, AList.lookup_insert]
      rw [Shared.stored, hlookup, Option.map_some, hobj]
      exact SessionManager.getSession_createSession _ _ _
    · have hm' := h.stored m
      rw [TwagCore.getSession] at hm' ⊢
      rw [SessionManager.getSession_createSession_ne mem hm, hm', Shared.stored, Shared.stored]
      have hlookup : (Access.exec (.createSession mem mac) s).2.sessions.lookup m =
          s.sessions.lookup m := by
        simp only [Access.exec, AList.lookup_insert_ne hm]
      rw [hlookup]
      congr 1
      funext r
      exact (s.object_setObject_ne _ _ hm r).symm
  · intro m r hr
    show r.id < s.made + 1
    by_cases hm : m = mac
    · subst hm
      simp only [Access.exec, AList.lookup_insert, Option.some.injEq] at hr
      rw [← hr]
      exact Nat.lt_succ_self _
    · simp only [Access.exec, AList.lookup_insert_ne hm] at hr
      exact Nat.lt_succ_of_lt (h.made m r hr)

end Sim

/-! ## Handlers, whole -/

/-- A handler that took `s` to `s'` did what a handler of the core does. -/
structure Matches (config : TwagConfig) (s s' : Shared) (out : TwagCore × List Effect) : Prop where
  sim : Sim config s' out.1
  effects : s'.effects = s.effects ++ out.2

section

variable {config s} {core : TwagCore}

theorem Matches.nothing (h : Sim config s core) : Matches config s s (core, []) :=
  ⟨h, (List.append_nil _).symm⟩

theorem Matches.sets {r : Ref mac} (h : Sim config s core) (hr : s.sessions.lookup mac = some r)
    (a : UeSession mac) (es : List Effect) :
    Matches config s ((s.setObject r a).emitted es) (core.put a, es) :=
  ⟨(h.setObject hr a).emitted es, rfl⟩

theorem Matches.emits (h : Sim config s core) (es : List Effect) :
    Matches config s (s.emitted es) (core, es) :=
  ⟨h.emitted es, rfl⟩

@[simp] theorem effects_removeSession (s : Shared) (mac : Bytes) :
    (Access.exec (.removeSession mac) s).2.effects = s.effects := by
  simp only [Access.exec]
  split <;> rfl

theorem sim_authenticate (req : AccessRequest) {r : Ref req.macAddr} (h : Sim config s core)
    (hr : s.sessions.lookup req.macAddr = some r) :
    Matches config s ((Handler.authenticate env config req r).run Access.exec s).2
      (core.authenticate env req (s.object r)) := by
  obtain rfl := h.config
  rw [run_authenticate]
  exact .sets h hr _ _

theorem sim_handleRadiusAccessRequest (req : AccessRequest) (h : Sim config s core) :
    Matches config s ((Handler.handleRadiusAccessRequest env config req).run Access.exec s).2
      (core.handleRadiusAccessRequest env req) := by
  obtain rfl := h.config
  rw [Handler.handleRadiusAccessRequest, Prog.run_bind, run_getSession]
  cases hr : s.sessions.lookup req.macAddr with
  | some r =>
    rw [TwagCore.handleRadiusAccessRequest, h.getSession_eq hr]
    exact sim_authenticate env req h hr
  | none =>
    simp only [TwagCore.handleRadiusAccessRequest, h.getSession_none hr, h.count]
    rw [Prog.run_bind]
    show Matches _ s (Prog.run Access.exec
      (if core.config.maxActiveSessions.toNat ≤ s.sessions.entries.length then _ else _) s).2 _
    split
    · exact ⟨{ h with rejected := by rw [SessionManager.incrementRejected, h.rejected]; rfl }, rfl⟩
    · obtain ⟨hsim, hobj⟩ := h.createSession env.memory req.macAddr
      have hm := sim_authenticate env req hsim
        (r := (Access.exec (.createSession env.memory _) s).1)
        (by simp only [Access.exec, AList.lookup_insert])
      rw [hobj] at hm
      exact ⟨hm.sim, hm.effects⟩

theorem sim_onDeaReceived (dea : Dea) (h : Sim config s core) :
    Matches config s ((Handler.onDeaReceived env config dea).run Access.exec s).2
      (core.onDeaReceived env dea) := by
  obtain rfl := h.config
  rw [Handler.onDeaReceived, Prog.run_bind, run_getSession]
  cases hr : s.sessions.lookup dea.macAddr with
  | none =>
    rw [TwagCore.onDeaReceived, h.getSession_none hr]
    exact .nothing h
  | some r =>
    simp only [TwagCore.onDeaReceived, h.getSession_eq hr]
    show Matches _ s (Prog.run Access.exec
      (if (s.object r).state ≠ .authPending then _ else _) s).2 _
    by_cases hs : (s.object r).state ≠ .authPending
    · rw [if_pos hs, if_pos hs]
      exact .nothing h
    rw [if_neg hs, if_neg hs, Prog.run_bind, run_applyProfile]
    by_cases h₁ : dea.resultCode = 1001
    · simp only [if_pos h₁, run_answer, Shared.object_setObject]
      exact .sets h hr _ _
    simp only [if_neg h₁]
    by_cases h₂ : dea.resultCode = 2001
    · simp only [if_pos h₂, Prog.run_bind, run_answer, run_sendCreateSessionRequest,
        Shared.object_setObject, Shared.object_emitted, Shared.setObject_emitted,
        Shared.setObject_setObject, Shared.emitted_emitted]
      generalize sendCreateSessionRequest env core.config _ = out
      obtain ⟨sent, session, effects⟩ := out
      have hm := Matches.sets h hr session
        (TwagCore.answer env (TwagCore.applyProfile core.config env (s.object r) dea) accessAccept
          dea.eapPayload :: effects)
      cases sent with
      | false => exact hm
      | true => exact ⟨hm.sim.addTimer _ _ _, hm.effects⟩
    · simp only [if_neg h₂, run_answer, Shared.object_setObject]
      exact .sets h hr _ _

/-- The sessions that a loop over `sessions_` finds, and those that the core finds. -/
theorem sim_scan (teid : UInt32) (it : IterationOrder (Sigma UeSession)) (h : Sim config s core) :
    ∃ it', (Access.exec (.getSessionByTeidC it teid) s).1 = none ∧
        core.sessionManager.getSessionByTeidC it' teid = none ∨
      ∃ mac, ∃ r : Ref mac, s.sessions.lookup mac = some r ∧
        (Access.exec (.getSessionByTeidC it teid) s).1 = some ⟨mac, r⟩ ∧
        core.sessionManager.getSessionByTeidC it' teid = some ⟨mac, s.object r⟩ := by
  obtain ⟨it', hfind⟩ := it.exists_find_eq h.perm
  refine ⟨it', ?_⟩
  rw [SessionManager.getSessionByTeidC, hfind]
  cases hf : it.find (fun pair => pair.2.gtpTeidC == teid) s.entries with
  | none => exact .inl ⟨by simp only [Access.exec, hf, Option.bind_none], rfl⟩
  | some pair =>
    obtain ⟨⟨m, r⟩, hmem, rfl⟩ := List.mem_map.mp (it.find_mem hf).1
    have hr : s.sessions.lookup m = some r := AList.mem_lookup_iff.mpr hmem
    refine .inr ⟨m, r, hr, ?_, rfl⟩
    simp only [Access.exec, hf, Option.bind_some, Sigma.map, id, hr, Option.map_some]

theorem setupKernelGtpuTunnel_iteration (it : IterationOrder (Sigma UeSession))
    {config : TwagConfig} (session : UeSession mac) :
    setupKernelGtpuTunnel { env with iteration := it } config session =
      setupKernelGtpuTunnel env config session := rfl

theorem sim_onGtpCreateResponseReceived (teid : UInt32) (success : Bool) (pgwTeid ueIp : UInt32)
    (qci : UInt8) (h : Sim config s core) :
    ∃ it, Matches config s
      ((Handler.onGtpCreateResponseReceived env config teid success pgwTeid ueIp qci).run
        Access.exec s).2
      (core.onGtpCreateResponseReceived { env with iteration := it } teid success pgwTeid ueIp
        qci) := by
  obtain rfl := h.config
  obtain ⟨it, hscan⟩ := sim_scan teid env.iteration h
  refine ⟨it, ?_⟩
  rw [Handler.onGtpCreateResponseReceived, Prog.run_bind, run_getSessionByTeidC,
    TwagCore.onGtpCreateResponseReceived]
  rcases hscan with ⟨hn, hcore⟩ | ⟨m, r, hr, hsome, hcore⟩
  · rw [hn, hcore]
    exact .nothing h
  rw [hsome]
  cases success with
  | false =>
    simp only [hcore]
    exact .nothing h
  | true =>
    simp only [hcore, Bool.not_true, Bool.false_eq_true, if_false]
    show Matches _ s (Prog.run Access.exec
      (if (s.object r).state ≠ .gtpCreatePending then _ else _) s).2 _
    by_cases hs : (s.object r).state ≠ .gtpCreatePending
    · rw [if_pos hs, if_pos hs]
      exact .nothing h
    rw [if_neg hs, if_neg hs]
    simp only [Prog.run_bind, run_set, run_setupKernelGtpuTunnel, Shared.object_setObject,
      Shared.setObject_setObject, Field.set]
    -- whether the tunnel is up decides about one more write, in both
    split <;> rename_i hup
    · rw [← setupKernelGtpuTunnel_iteration env it] at hup
      rw [if_pos hup]
      simp only [run_set, Shared.object_emitted, Shared.object_setObject,
        Shared.setObject_emitted, Shared.setObject_setObject, Field.set]
      exact .sets h hr _ _
    · rw [← setupKernelGtpuTunnel_iteration env it] at hup
      rw [if_neg hup]
      exact .sets h hr _ _

/-- `remove_session` at the end of a handler. -/
theorem Matches.removes {s' : Shared} {out : TwagCore × List Effect} (h : Matches config s s' out)
    (mac : Bytes) :
    Matches config s (Access.exec (.removeSession mac) s').2 (out.1.removeSession mac, out.2) :=
  ⟨h.sim.removeSession mac, by rw [effects_removeSession, h.effects]⟩

theorem sim_onGtpDeleteBearerRequestReceived (teid : UInt32) (h : Sim config s core) :
    ∃ it, Matches config s
      ((Handler.onGtpDeleteBearerRequestReceived env config teid).run Access.exec s).2
      (core.onGtpDeleteBearerRequestReceived { env with iteration := it } teid) := by
  obtain rfl := h.config
  obtain ⟨it, hscan⟩ := sim_scan teid env.iteration h
  refine ⟨it, ?_⟩
  rw [Handler.onGtpDeleteBearerRequestReceived, Prog.run_bind, run_getSessionByTeidC,
    TwagCore.onGtpDeleteBearerRequestReceived]
  rcases hscan with ⟨hn, hcore⟩ | ⟨m, r, hr, hsome, hcore⟩
  · rw [hn, hcore]
    exact .nothing h
  rw [hsome, hcore]
  simp only [Prog.run_bind, run_set, run_teardownKernelGtpuTunnel, run_sendStr, run_emit,
    Handler.get, Handler.removeSession, Prog.op, Prog.run, exec_get, Shared.object_setObject,
    Shared.object_emitted, Shared.emitted_emitted, Field.set, Field.get]
  exact (Matches.sets h hr { s.object r with state := .disconnecting } _).removes m

theorem sim_onAaaAbortSessionReceived (mac : Bytes) (h : Sim config s core) :
    Matches config s ((Handler.onAaaAbortSessionReceived env config mac).run Access.exec s).2
      (core.onAaaAbortSessionReceived env mac) := by
  obtain rfl := h.config
  rw [Handler.onAaaAbortSessionReceived, Prog.run_bind, run_getSession]
  cases hr : s.sessions.lookup mac with
  | none =>
    rw [TwagCore.onAaaAbortSessionReceived, h.getSession_none hr]
    exact .nothing h
  | some r =>
    simp only [TwagCore.onAaaAbortSessionReceived, h.getSession_eq hr, Prog.run_bind, run_set,
      run_teardownKernelGtpuTunnel, run_sendDeleteSessionRequest, run_emit, Handler.get,
      Handler.removeSession, Prog.op, Prog.run, exec_get, Shared.object_setObject,
      Shared.object_emitted, Shared.emitted_emitted, Field.set, Field.get]
    exact (Matches.sets h hr { s.object r with state := .disconnecting } _).removes mac

theorem sim_disconnectUe (mac : Bytes) (h : Sim config s core) :
    Matches config s ((Handler.disconnectUe env config mac).run Access.exec s).2
      (core.disconnectUe env mac) := by
  obtain rfl := h.config
  rw [Handler.disconnectUe, Prog.run_bind, run_getSession]
  cases hr : s.sessions.lookup mac with
  | none =>
    rw [TwagCore.disconnectUe, h.getSession_none hr]
    exact .nothing h
  | some r =>
    simp only [TwagCore.disconnectUe, h.getSession_eq hr, Prog.run_bind, run_sendStr,
      run_sendDeleteSessionRequest, run_teardownKernelGtpuTunnel, Handler.removeSession, Prog.op,
      Prog.run, Shared.object_emitted, Shared.emitted_emitted]
    exact (Matches.emits h _).removes mac

theorem sim_s2aTimeout (mac : Bytes) (h : Sim config s core) :
    Matches config s ((Handler.s2aTimeout env config mac).run Access.exec s).2
      (core.s2aTimeout env mac) := by
  obtain rfl := h.config
  rw [Handler.s2aTimeout, Prog.run_bind, run_getSession]
  cases hr : s.sessions.lookup mac with
  | none =>
    rw [TwagCore.s2aTimeout, h.getSession_none hr]
    exact .nothing h
  | some r =>
    simp only [TwagCore.s2aTimeout, h.getSession_eq hr]
    show Matches _ s (Prog.run Access.exec
      (if (s.object r).state = .gtpCreatePending then _ else _) s).2 _
    split
    · rw [Prog.run_bind, run_answer]
      have hm := sim_disconnectUe env mac
        (h.emitted [TwagCore.answer env (s.object r) accessReject []])
      refine ⟨hm.sim, hm.effects.trans ?_⟩
      rw [Shared.emitted, List.append_assoc]
      rfl
    · exact .nothing h

theorem sim_runTimer (h : Sim config s core) :
    Matches config s ((Handler.runTimer env config).run Access.exec s).2 (core.runTimer env) := by
  obtain rfl := h.config
  rw [Handler.runTimer, Prog.run_bind, TwagCore.runTimer, h.eventLoop]
  cases hp : s.eventLoop.popDue env.now with
  | none =>
    simp only [Handler.popDue, Prog.op, Prog.run, Access.exec, hp]
    exact .nothing h
  | some due =>
    obtain ⟨callback, eventLoop⟩ := due
    have hsim : Sim core.config { s with eventLoop := eventLoop }
        { core with eventLoop := eventLoop } := { h with eventLoop := rfl }
    simp only [Handler.popDue, Prog.op, Prog.run, Access.exec, hp]
    cases callback with
    | s2aTimeout mac =>
      have hm := sim_s2aTimeout env mac hsim
      exact ⟨hm.sim, hm.effects⟩
    | logStatistics =>
      simp only [Handler.logStatistics, TwagCore.armStatistics]
      rw [Prog.run_bind]
      split
      · exact ⟨hsim.addTimer _ _ _, (List.append_nil _).symm⟩
      · exact ⟨hsim, (List.append_nil _).symm⟩

theorem sim_handleDhcp (mac : Bytes) (xid : UInt32) (msgType : UInt8) (h : Sim config s core) :
    Matches config s ((Handler.handleDhcp env mac xid msgType).run Access.exec s).2
      (core.handleDhcp env mac xid msgType) := by
  rw [Handler.handleDhcp, Prog.run_bind, run_getSession]
  cases hr : s.sessions.lookup mac with
  | none =>
    rw [TwagCore.handleDhcp, h.getSession_none hr]
    exact .nothing h
  | some r =>
    simp only [TwagCore.handleDhcp, h.getSession_eq hr]
    show Matches _ s (Prog.run Access.exec (if (s.object r).state ≠ .connected then _ else _) s).2 _
    by_cases hs : (s.object r).state = .connected
    · rw [if_neg (not_not.mpr hs)]
      show Matches _ s (Prog.run Access.exec (if (s.object r).ueIp = 0 then _ else _) s).2 _
      by_cases hip : (s.object r).ueIp = 0
      · rw [if_pos hip, if_neg (fun hc => hc.2 hip)]
        exact .nothing h
      · rw [if_neg hip, if_pos ⟨hs, hip⟩]
        exact .emits h _
    · rw [if_pos hs, if_neg (fun hc => hs hc.1)]
      exact .nothing h

/-- Every handler, run alone, does what the core does in one step. -/
theorem sim_ofInput (x : Input) (h : Sim config s core) :
    ∃ it, Matches config s ((Handler.ofInput config x).run Access.exec s).2
      (core.step { x with env := { x.env with iteration := it } }) := by
  obtain ⟨env, event⟩ := x
  cases event with
  | accessRequest req c => exact ⟨env.iteration, sim_handleRadiusAccessRequest env req h⟩
  | dea dea c => exact ⟨env.iteration, sim_onDeaReceived env dea h⟩
  | createSessionResponse teid success pgwTeid ueIp qci =>
    exact sim_onGtpCreateResponseReceived env teid success pgwTeid ueIp qci h
  | deleteBearerRequest teid => exact sim_onGtpDeleteBearerRequestReceived env teid h
  | abortSession mac => exact ⟨env.iteration, sim_onAaaAbortSessionReceived env mac h⟩
  | accountingStop mac => exact ⟨env.iteration, sim_disconnectUe env mac h⟩
  | timer => exact ⟨env.iteration, sim_runTimer env h⟩
  | dhcpDiscover mac xid => exact ⟨env.iteration, sim_handleDhcp env mac xid 2 h⟩
  | dhcpRequest mac xid => exact ⟨env.iteration, sim_handleDhcp env mac xid 5 h⟩

end

/-! ## Runs without overlap -/

variable (boot : Boot) (heap : (mac : Bytes) → Nat → UeSession mac)

/-- What the threads share after a run in which each handler ends before the next
one starts, on whatever thread; the newest event first. -/
def serialAfter : List Input → Shared
  | [] => .initialized boot.config boot.now heap
  | x :: h => ((Handler.ofInput boot.config x).run Access.exec (serialAfter h)).2

/-- The calls made in a history, the oldest first. -/
def effectsAlong : List Input → List Effect
  | [] => []
  | x :: h => effectsAlong h ++ boot.effects h x

/-- Two inputs that differ at most in the order in which `sessions_` is visited. -/
def SameButOrder (x x' : Input) : Prop :=
  ∃ it, x' = { x with env := { x.env with iteration := it } }

variable {boot heap}

theorem sim_initialized : Sim boot.config (.initialized boot.config boot.now heap)
    (.initialized boot.config boot.now) := by
  refine ⟨?_, rfl, ?_, ?_, ?_, ?_, ?_, ?_⟩
  case refine_2 =>
    intro m
    simp only [TwagCore.initialized, TwagCore.armStatistics]
    split <;> rfl
  case refine_3 =>
    intro m r hr
    cases hr
  all_goals
    simp only [TwagCore.initialized, TwagCore.armStatistics]
    split <;> rfl

/-- An access that is atomic is one that may be made among others. -/
theorem racy_exec (o : Access) (s : Shared) :
    Access.Racy o s (Access.exec o s).1 (Access.exec o s).2 := by
  cases o with
  | get => rfl
  | set m r f v =>
    refine ⟨_, rfl, fun m' id => ?_⟩
    by_cases hm : m' = m
    · subst hm
      rw [Function.update_self]
      by_cases hid : id = r.id
      · subst hid
        rw [Function.update_self]
        cases f <;> exact ⟨rfl, rfl⟩
      · rw [Function.update_of_ne hid]
        exact ⟨rfl, rfl⟩
    · rw [Function.update_of_ne hm]
      exact ⟨rfl, rfl⟩
  | addTimer => exact ⟨_, rfl⟩
  | popDue now =>
    simp only [Access.exec]
    cases s.eventLoop.popDue now with
    | none => exact ⟨s.eventLoop, rfl⟩
    | some due => exact ⟨_, rfl⟩
  | _ => rfl

/-- Every event has a thread that runs its handler. -/
theorem exists_handles (e : Event) : ∃ t : ThreadId, t.handles e = true := by
  cases e with
  | dea | abortSession => exact ⟨.dispatch 0, rfl⟩
  | _ => exact ⟨.loop, rfl⟩

/-- From a state in which no thread runs a handler, one handler may run alone. -/
theorem moves_ofInput (config : TwagConfig) (s : Shared) (x : Input) :
    Pool.Moves Access.Racy (ThreadId.Job config) (.idle s : Process)
      (.idle ((Handler.ofInput config x).run Access.exec s).2) := by
  obtain ⟨t, ht⟩ := exists_handles x.event
  exact Pool.moves_job racy_exec ⟨x, ht, rfl⟩ s

variable (boot heap) in
theorem reaches_serialAfter (h : List Input) :
    boot.Reaches heap (.idle (serialAfter boot heap h)) := by
  induction h with
  | nil => exact .refl
  | cons x h ih => exact Relation.ReflTransGen.trans ih (moves_ofInput _ _ x)

/-- Every run of the process in which no two handlers overlap is a run of the
core: it ends with the same sessions, timers and counters, and has made the
same calls. -/
theorem serial (h : List Input) :
    boot.Reaches heap (.idle (serialAfter boot heap h)) ∧
    ∃ h', List.Forall₂ SameButOrder h h' ∧
      Sim boot.config (serialAfter boot heap h) (boot.after h') ∧
      (serialAfter boot heap h).effects = effectsAlong boot h' := by
  refine ⟨reaches_serialAfter boot heap h, ?_⟩
  induction h with
  | nil => exact ⟨[], .nil, sim_initialized, rfl⟩
  | cons x h ih =>
    obtain ⟨h', hsame, hsim, heffects⟩ := ih
    obtain ⟨it, hm⟩ := sim_ofInput x hsim
    refine ⟨_ :: h', .cons ⟨it, rfl⟩ hsame, hm.sim, ?_⟩
    rw [effectsAlong, ← heffects]
    exact hm.effects

end Twag.Proof.Threads

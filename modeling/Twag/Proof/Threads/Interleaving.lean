import Twag.Framework.Size
import Twag.Proof.Core.History
import Twag.Proof.SessionManager.Teid
import Twag.Proof.Threads.Serial

/-!
# The session store, whatever the threads' interleaving

`handle_radius_access_request` looks for a session, then counts the sessions,
then creates one: three operations, and other threads may go on between them.
Only the event loop's thread creates sessions, so what the dispatch threads do
in between is at most to remove some (`Shrinks`), and both answers still hold
when the session is created. In every interleaving, and whatever racing
accesses to the fields of the sessions and to `timers_` read and leave:

* `interleaved`: the counters balance, the configured number of sessions is not
  exceeded, and every stored session is one of its own, with the TEIDs of its
  number;
* `removed_for_good`: a session that has been removed is never stored again.
-/

namespace Twag.Proof.Threads

open Twag.Impl Twag.Proof.Core Twag.Proof.SessionManager

variable {config : TwagConfig} {s s' : Shared} {mac mac' : Bytes}

/-! ## The invariant and what the threads do to the store -/

/-- What holds of the store in every interleaving. -/
structure Sound (config : TwagConfig) (s : Shared) : Prop where
  /-- What `get_stats` would report. -/
  balance : UInt64.ofNat s.sessions.entries.length + s.totalDisconnections = s.totalConnections
  limit : s.sessions.entries.length ≤ config.maxActiveSessions.toNat
  connections : s.totalConnections = UInt64.ofNat s.made
  nextTeid : s.nextTeid = teidC s.made
  made : ∀ mac (r : Ref mac), s.sessions.lookup mac = some r → r.id < s.made
  teids : ∀ mac (r : Ref mac), s.sessions.lookup mac = some r →
    (s.object r).gtpTeidC = teidC r.id ∧ (s.object r).gtpTeidU = teidU r.id
  /-- An object is stored under one key only. -/
  apart : ∀ mac (r : Ref mac) mac' (r' : Ref mac'), s.sessions.lookup mac = some r →
    s.sessions.lookup mac' = some r' → r.id = r'.id → mac = mac'

/-- Sessions are removed only. -/
structure Shrinks (s s' : Shared) : Prop where
  made : s'.made = s.made
  length : s'.sessions.entries.length ≤ s.sessions.entries.length
  stored : ∀ mac (r : Ref mac), s'.sessions.lookup mac = some r → s.sessions.lookup mac = some r

/-- Sessions that appear are new. -/
structure Ages (s s' : Shared) : Prop where
  made : s.made ≤ s'.made
  stored : ∀ mac (r : Ref mac), s'.sessions.lookup mac = some r →
    s.sessions.lookup mac = some r ∨ s.made ≤ r.id

theorem Shrinks.refl (s : Shared) : Shrinks s s := ⟨rfl, Nat.le_refl _, fun _ _ h => h⟩

theorem Shrinks.trans {a b c : Shared} (h : Shrinks a b) (h' : Shrinks b c) : Shrinks a c :=
  ⟨h'.made.trans h.made, h'.length.trans h.length, fun m r hr => h.stored m r (h'.stored m r hr)⟩

theorem Shrinks.ages (h : Shrinks s s') : Ages s s' :=
  ⟨Nat.le_of_eq h.made.symm, fun m r hr => .inl (h.stored m r hr)⟩

theorem Shrinks.absent (h : Shrinks s s') (hn : s.sessions.lookup mac = none) :
    s'.sessions.lookup mac = none := by
  cases hs : s'.sessions.lookup mac with
  | none => rfl
  | some r =>
    rw [h.stored mac r hs] at hn
    cases hn

theorem Ages.refl (s : Shared) : Ages s s := (Shrinks.refl s).ages

theorem Ages.trans {a b c : Shared} (h : Ages a b) (h' : Ages b c) : Ages a c := by
  refine ⟨h.made.trans h'.made, fun m r hr => ?_⟩
  rcases h'.stored m r hr with hb | hb
  · exact h.stored m r hb
  · exact .inr (h.made.trans hb)

/-! ## What each access does -/

/-- The store and its counters are the same, and so are the TEIDs of the sessions. -/
structure SameStore (s s' : Shared) : Prop where
  sessions : s'.sessions = s.sessions
  made : s'.made = s.made
  nextTeid : s'.nextTeid = s.nextTeid
  connections : s'.totalConnections = s.totalConnections
  disconnections : s'.totalDisconnections = s.totalDisconnections
  teidC : ∀ mac id, (s'.heap mac id).gtpTeidC = (s.heap mac id).gtpTeidC
  teidU : ∀ mac id, (s'.heap mac id).gtpTeidU = (s.heap mac id).gtpTeidU

theorem SameStore.refl (s : Shared) : SameStore s s :=
  ⟨rfl, rfl, rfl, rfl, rfl, fun _ _ => rfl, fun _ _ => rfl⟩

theorem SameStore.sound (h : SameStore s s') (hs : Sound config s) : Sound config s' where
  balance := by rw [h.sessions, h.disconnections, h.connections]; exact hs.balance
  limit := by rw [h.sessions]; exact hs.limit
  connections := by rw [h.connections, h.made]; exact hs.connections
  nextTeid := by rw [h.nextTeid, h.made]; exact hs.nextTeid
  made := by rw [h.sessions, h.made]; exact hs.made
  teids := by
    intro m r hr
    rw [h.sessions] at hr
    rw [Shared.object, h.teidC, h.teidU]
    exact hs.teids m r hr
  apart := by rw [h.sessions]; exact hs.apart

theorem SameStore.shrinks (h : SameStore s s') : Shrinks s s' :=
  ⟨h.made, by rw [h.sessions], fun m r hr => by rwa [h.sessions] at hr⟩

/-- `remove_session`, on a store that has the session. -/
theorem lookup_removed {r : Ref mac'}
    (hr : (s.sessions.erase mac).lookup mac' = some r) : s.sessions.lookup mac' = some r := by
  by_cases hm : mac' = mac
  · subst hm
    rw [AList.lookup_erase] at hr
    cases hr
  · rwa [AList.lookup_erase_ne hm] at hr

theorem length_removed (h : (s.sessions.lookup mac).isSome) :
    (s.sessions.erase mac).entries.length + 1 = s.sessions.entries.length :=
  length_entries_erase (AList.mem_keys.mp (AList.lookup_isSome.mp h))

theorem sound_removeSession (hs : Sound config s) :
    Sound config (Access.exec (.removeSession mac) s).2 ∧
      Shrinks s (Access.exec (.removeSession mac) s).2 := by
  by_cases h : (s.sessions.lookup mac).isSome
  · have hlen := length_removed h
    simp only [Access.exec, if_pos h]
    refine ⟨{ hs with
      balance := ?_
      limit := ?_
      made := fun m r hr => hs.made m r (lookup_removed hr)
      teids := fun m r hr => hs.teids m r (lookup_removed hr)
      apart := fun m r m' r' hr hr' =>
        hs.apart m r m' r' (lookup_removed hr) (lookup_removed hr') },
      rfl, ?_, fun m r hr => lookup_removed hr⟩
    · show UInt64.ofNat _ + (s.totalDisconnections + 1) = s.totalConnections
      rw [← hs.balance, ← hlen, UInt64.ofNat_add, UInt64.add_assoc,
        UInt64.add_comm s.totalDisconnections]
      rfl
    · have hlimit := hs.limit
      show (s.sessions.erase mac).entries.length ≤ _
      omega
    · show (s.sessions.erase mac).entries.length ≤ _
      omega
  · simp only [Access.exec, if_neg h]
    exact ⟨hs, .refl s⟩

/-- The accesses that `create_session` is not one of. -/
def Quiet : Access → Prop
  | .createSession _ _ => False
  | _ => True

/-- Every access but `create_session` keeps the invariant and adds no session. -/
theorem quiet_racy {o : Access} (ho : Quiet o) {ans : o.Ans} (hs : Sound config s)
    (h : Access.Racy o s ans s') : Sound config s' ∧ Shrinks s s' := by
  have same (hsame : SameStore s s') : Sound config s' ∧ Shrinks s s' :=
    ⟨hsame.sound hs, hsame.shrinks⟩
  cases o with
  | createSession => exact ho.elim
  | removeSession m =>
    obtain rfl := congrArg Prod.snd h
    exact sound_removeSession hs
  | get m r f =>
    obtain rfl : s' = s := h
    exact same (.refl s')
  | set m r f v =>
    obtain ⟨heap, rfl, hheap⟩ := h
    exact same ⟨rfl, rfl, rfl, rfl, rfl, fun m id => (hheap m id).1, fun m id => (hheap m id).2⟩
  | addTimer now ms cb =>
    obtain ⟨loop, rfl⟩ := h
    exact same ⟨rfl, rfl, rfl, rfl, rfl, fun _ _ => rfl, fun _ _ => rfl⟩
  | popDue now =>
    obtain ⟨loop, rfl⟩ := h
    exact same ⟨rfl, rfl, rfl, rfl, rfl, fun _ _ => rfl, fun _ _ => rfl⟩
  | getSession | getSessionByTeidC | incrementRejected | getActiveSessionsCount | getStats
  | gtpTeidC | gtpTeidU | emit =>
    obtain rfl := congrArg Prod.snd h
    exact same ⟨rfl, rfl, rfl, rfl, rfl, fun _ _ => rfl, fun _ _ => rfl⟩

/-! ## `create_session` -/

theorem lookup_created {mem : Indeterminate} {r : Ref mac'}
    (hr : (Access.exec (.createSession mem mac) s).2.sessions.lookup mac' = some r) :
    (mac' = mac ∧ r.id = s.made) ∨ (mac' ≠ mac ∧ s.sessions.lookup mac' = some r) := by
  by_cases hm : mac' = mac
  · subst hm
    simp only [Access.exec, AList.lookup_insert, Option.some.injEq] at hr
    exact .inl ⟨rfl, by rw [← hr]⟩
  · simp only [Access.exec, AList.lookup_insert_ne hm] at hr
    exact .inr ⟨hm, hr⟩

/-- A new object is made where none was, so the others are as they were. -/
theorem object_created_of_lt {mem : Indeterminate} {r : Ref mac'} (h : r.id < s.made) :
    (Access.exec (.createSession mem mac) s).2.object r = s.object r := by
  simp only [Access.exec, Shared.object, Shared.setObject]
  by_cases hm : mac' = mac
  · subst hm
    rw [Function.update_self, Function.update_of_ne (Nat.ne_of_lt h)]
  · rw [Function.update_of_ne hm]

/-- `create_session` where there is room and no session of this key. -/
theorem sound_createSession {mem : Indeterminate} (hs : Sound config s)
    (hn : s.sessions.lookup mac = none)
    (hroom : s.sessions.entries.length < config.maxActiveSessions.toNat) :
    Sound config (Access.exec (.createSession mem mac) s).2 ∧
      Ages s (Access.exec (.createSession mem mac) s).2 := by
  have hlen : (Access.exec (.createSession mem mac) s).2.sessions.entries.length =
      s.sessions.entries.length + 1 :=
    length_entries_insert_notMem _ fun hm => AList.lookup_eq_none.mp hn (AList.mem_keys.mpr hm)
  refine ⟨⟨?_, ?_, ?_, ?_, ?_, ?_, ?_⟩, Nat.le_succ _, ?_⟩
  · rw [hlen, UInt64.ofNat_add]
    show _ + s.totalDisconnections = s.totalConnections + 1
    rw [← hs.balance, UInt64.add_assoc, UInt64.add_comm _ s.totalDisconnections,
      ← UInt64.add_assoc]
    rfl
  · rw [hlen]
    exact hroom
  · show s.totalConnections + 1 = UInt64.ofNat (s.made + 1)
    rw [hs.connections, UInt64.ofNat_add]
    rfl
  · show s.nextTeid + 2 = teidC (s.made + 1)
    rw [hs.nextTeid, teidC_add_two]
  · intro m r hr
    show r.id < s.made + 1
    rcases lookup_created hr with ⟨-, hid⟩ | ⟨-, hr⟩
    · omega
    · exact Nat.lt_succ_of_lt (hs.made m r hr)
  · intro m r hr
    rcases lookup_created hr with ⟨rfl, hid⟩ | ⟨-, hr⟩
    · have hobj : (Access.exec (.createSession mem m) s).2.object r =
          { UeSession.new mem m with gtpTeidC := s.nextTeid, gtpTeidU := s.nextTeid + 1 } := by
        simp only [Access.exec, Shared.object, Shared.setObject, hid, Function.update_self]
      rw [hobj, hid, ← hs.nextTeid, ← teidC_add_one, ← hs.nextTeid]
      exact ⟨rfl, rfl⟩
    · rw [object_created_of_lt (hs.made m r hr)]
      exact hs.teids m r hr
  · intro m r m' r' hr hr' hid
    -- the number of the new object is larger than that of every stored one
    rcases lookup_created hr with ⟨hm, h₁⟩ | ⟨-, hold⟩ <;>
      rcases lookup_created hr' with ⟨hm', h₂⟩ | ⟨-, hold'⟩
    · exact hm.trans hm'.symm
    · have := hs.made m' r' hold'
      omega
    · have := hs.made m r hold
      omega
    · exact hs.apart m r m' r' hold hold' hid
  · intro m r hr
    rcases lookup_created hr with ⟨-, hid⟩ | ⟨-, hr⟩
    · exact .inr (Nat.le_of_eq hid.symm)
    · exact .inl hr

/-! ## The handlers that create no session -/

/-- A program that creates no session. -/
abbrev Plain {α : Type} (p : Handler α) : Prop := p.Uses Quiet

section

variable {α β : Type}

theorem plain_pure (a : α) : Plain (pure a : Handler α) := trivial

theorem plain_op {o : Access} (h : Quiet o) : Plain (Prog.op o) := ⟨h, fun _ => trivial⟩

theorem plain_ite {c : Prop} [Decidable c] {p q : Handler α} (hp : Plain p) (hq : Plain q) :
    Plain (if c then p else q) := by
  split
  · exact hp
  · exact hq

theorem plain_bind {p : Handler α} {f : α → Handler β} (hp : Plain p) (hf : ∀ a, Plain (f a)) :
    Plain (p >>= f) :=
  Prog.uses_bind hp hf

end

namespace Plain

open Handler

variable (env : Env) (config : TwagConfig) (r : Ref mac)

theorem get (f : Field) : Plain (Handler.get r f) := plain_op trivial
theorem set (f : Field) (v : f.Val) : Plain (Handler.set r f v) := plain_op trivial
theorem emit (e : Effect) : Plain (Handler.emit e) := plain_op trivial

theorem sendDer (eap : Bytes) : Plain (Handler.sendDer env config r eap) :=
  plain_ite (plain_pure _) (plain_bind (emit _) fun _ => plain_ite (set r _ _) (plain_pure _))

theorem sendStr : Plain (Handler.sendStr env config mac) :=
  plain_ite (plain_pure _) (emit _)

theorem answer (code : UInt8) (eap : Bytes) : Plain (Handler.answer env r code eap) :=
  plain_bind (get r _) fun _ => plain_bind (get r _) fun _ => plain_bind (get r _) fun _ => emit _

theorem destIp : Plain (Handler.destIp config r) :=
  plain_bind (get r _) fun _ => plain_pure _

theorem ambr (f : Handler UInt32) (hf : Plain f) : Plain (Handler.ambr f) :=
  plain_bind hf fun _ => plain_ite hf (plain_pure _)

theorem sendCreateSessionRequest : Plain (Handler.sendCreateSessionRequest env config r) := by
  refine plain_bind (get r _) fun _ => plain_bind (get r _) fun _ =>
    plain_bind (plain_op trivial) fun _ => plain_bind (get r _) fun _ =>
    plain_bind (get r _) fun _ => plain_bind (ambr _ (get r _)) fun _ =>
    plain_bind (ambr _ (get r _)) fun _ => plain_bind (destIp config r) fun ip => ?_
  cases inetPton ip with
  | none => exact plain_pure _
  | some dest =>
    exact plain_bind (emit _) fun _ =>
      plain_ite (plain_bind (set r _ _) fun _ => plain_pure _) (plain_pure _)

theorem setupKernelGtpuTunnel : Plain (Handler.setupKernelGtpuTunnel env config r) := by
  refine plain_ite (plain_pure _) (plain_ite (plain_pure _) (plain_ite (plain_pure _) ?_))
  refine plain_bind (plain_op trivial) fun _ => plain_bind (get r _) fun _ =>
    plain_bind (get r _) fun _ => plain_bind (emit _) fun _ => plain_ite ?_ (plain_pure _)
  exact plain_bind (get r _) fun _ => plain_bind (emit _) fun _ => plain_pure _

theorem sendDeleteSessionRequest : Plain (Handler.sendDeleteSessionRequest env config r) := by
  refine plain_bind (get r _) fun _ => plain_bind (destIp config r) fun ip => ?_
  cases inetPton ip with
  | none => exact plain_pure _
  | some dest => exact emit _

theorem teardownKernelGtpuTunnel : Plain (Handler.teardownKernelGtpuTunnel env r) :=
  plain_bind (get r _) fun _ => plain_bind (emit _) fun _ => plain_bind (get r _) fun _ =>
    plain_ite (emit _) (plain_pure _)

theorem authenticate (req : AccessRequest) (r : Ref req.macAddr) :
    Plain (Handler.authenticate env config req r) := by
  have hrest : Plain (do
      Handler.set r .radiusClientAddr req.clientAddr
      Handler.set r .radiusReqId req.reqId
      Handler.set r .radiusReqAuth req.reqAuth
      Handler.sendDer env config r req.eapPayload) :=
    plain_bind (set r _ _) fun _ => plain_bind (set r _ _) fun _ =>
      plain_bind (set r _ _) fun _ => sendDer env config r _
  exact plain_ite (plain_bind (set r _ _) fun _ => hrest) hrest

theorem setIf (c : Bool) (f : Field) (v : f.Val) : Plain (Handler.setIf c r f v) :=
  plain_ite (set r f v) (plain_pure _)

theorem applyProfile (dea : Dea) : Plain (Handler.applyProfile env config r dea) :=
  plain_bind (plain_ite (set r _ _) (plain_bind (get r _) fun _ => setIf r _ _ _)) fun _ =>
    plain_bind (setIf r _ _ _) fun _ => plain_bind (setIf r _ _ _) fun _ =>
    plain_bind (setIf r _ _ _) fun _ =>
    plain_ite (set r _ _) (plain_bind (get r _) fun _ => set r _ _)

theorem onDeaReceived (dea : Dea) : Plain (Handler.onDeaReceived env config dea) := by
  refine plain_bind (plain_op trivial) fun o => ?_
  cases o with
  | none => exact plain_pure _
  | some r =>
    refine plain_bind (get r _) fun _ => plain_ite (plain_pure _) ?_
    refine plain_bind (applyProfile env config r dea) fun _ => plain_ite (answer env r _ _) ?_
    refine plain_ite (plain_bind (answer env r _ _) fun _ => ?_) (answer env r _ _)
    exact plain_bind (sendCreateSessionRequest env config r) fun _ =>
      plain_ite (plain_op trivial) (plain_pure _)

theorem onGtpCreateResponseReceived (teid : UInt32) (success : Bool) (pgwTeid ueIp : UInt32)
    (qci : UInt8) :
    Plain (Handler.onGtpCreateResponseReceived env config teid success pgwTeid ueIp qci) := by
  refine plain_bind (plain_op trivial) fun o => ?_
  cases o with
  | none => exact plain_pure _
  | some pair =>
    obtain ⟨m, r⟩ := pair
    refine plain_ite (plain_pure _) (plain_bind (get r _) fun _ => plain_ite (plain_pure _) ?_)
    exact plain_bind (set r _ _) fun _ => plain_bind (set r _ _) fun _ =>
      plain_bind (set r _ _) fun _ => plain_bind (setupKernelGtpuTunnel env config r) fun _ =>
      plain_ite (set r _ _) (plain_pure _)

theorem onGtpDeleteBearerRequestReceived (teid : UInt32) :
    Plain (Handler.onGtpDeleteBearerRequestReceived env config teid) := by
  refine plain_bind (plain_op trivial) fun o => ?_
  cases o with
  | none => exact plain_pure _
  | some pair =>
    obtain ⟨m, r⟩ := pair
    exact plain_bind (set r _ _) fun _ => plain_bind (teardownKernelGtpuTunnel env r) fun _ =>
      plain_bind (sendStr env config) fun _ => plain_bind (get r _) fun _ =>
      plain_bind (emit _) fun _ => plain_op trivial

theorem onAaaAbortSessionReceived (mac : Bytes) :
    Plain (Handler.onAaaAbortSessionReceived env config mac) := by
  refine plain_bind (plain_op trivial) fun o => ?_
  cases o with
  | none => exact plain_pure _
  | some r =>
    exact plain_bind (set r _ _) fun _ => plain_bind (teardownKernelGtpuTunnel env r) fun _ =>
      plain_bind (sendDeleteSessionRequest env config r) fun _ => plain_bind (get r _) fun _ =>
      plain_bind (emit _) fun _ => plain_op trivial

theorem disconnectUe (mac : Bytes) : Plain (Handler.disconnectUe env config mac) := by
  refine plain_bind (plain_op trivial) fun o => ?_
  cases o with
  | none => exact plain_pure _
  | some r =>
    exact plain_bind (sendStr env config) fun _ =>
      plain_bind (sendDeleteSessionRequest env config r) fun _ =>
      plain_bind (teardownKernelGtpuTunnel env r) fun _ => plain_op trivial

theorem runTimer : Plain (Handler.runTimer env config) := by
  refine plain_bind (plain_op trivial) fun o => ?_
  rcases o with _ | (m | _)
  · exact plain_pure _
  · refine plain_bind (plain_op trivial) fun o => ?_
    cases o with
    | none => exact plain_pure _
    | some r =>
      exact plain_bind (get r _) fun _ => plain_ite
        (plain_bind (answer env r _ _) fun _ => disconnectUe env config m) (plain_pure _)
  · exact plain_bind (plain_op trivial) fun _ => plain_ite (plain_op trivial) (plain_pure _)

theorem handleDhcp (mac : Bytes) (xid : UInt32) (msgType : UInt8) :
    Plain (Handler.handleDhcp env mac xid msgType) := by
  refine plain_bind (plain_op trivial) fun o => ?_
  cases o with
  | none => exact plain_pure _
  | some r =>
    exact plain_bind (get r _) fun _ => plain_ite (plain_pure _) (plain_bind (get r _) fun _ =>
      plain_ite (plain_pure _) (plain_bind (get r _) fun _ => emit _))

end Plain

/-- Every handler but that of an Access-Request creates no session. -/
theorem plain_ofInput (config : TwagConfig) (x : Input)
    (h : ∀ req c, x.event ≠ .accessRequest req c) :
    Plain (Handler.ofInput config x) := by
  rw [Handler.ofInput]
  split
  · exact absurd (by assumption) (h _ _)
  · exact Plain.onDeaReceived _ _ _
  · exact Plain.onGtpCreateResponseReceived _ _ _ _ _ _ _
  · exact Plain.onGtpDeleteBearerRequestReceived _ _ _
  · exact Plain.onAaaAbortSessionReceived _ _ _
  · exact Plain.disconnectUe _ _ _
  · exact Plain.runTimer _ _
  · exact Plain.handleDhcp _ _ _ _
  · exact Plain.handleDhcp _ _ _ _

/-! ## The threads together -/

/-- The event loop's thread may create sessions, and only it. -/
def Guarantees : ThreadId → Shared → Shared → Prop
  | .loop => Ages
  | .dispatch _ => Shrinks

def ReliesOn : ThreadId → Shared → Shared → Prop
  | .loop => Shrinks
  | .dispatch _ => fun _ _ => True

theorem Plain.ages {p : Handler Unit} (hp : Plain p) (s : Shared) :
    p.Keeps Access.Racy (Sound config) Shrinks Ages (fun _ _ => True) s := by
  refine Prog.Uses.keeps hp (fun o ho s ans s' hs h => ?_) s
  obtain ⟨hsound, hshrinks⟩ := quiet_racy ho hs h
  exact ⟨hsound, hshrinks.ages⟩

theorem Plain.shrinks {p : Handler Unit} (hp : Plain p) (s : Shared) :
    p.Keeps Access.Racy (Sound config) (fun _ _ => True) Shrinks (fun _ _ => True) s :=
  Prog.Uses.keeps hp (fun _ ho _ _ _ hs h => quiet_racy ho hs h) s

/-- The handler of an Access-Request: neither a session of the UE nor more
sessions can appear before it creates one. -/
theorem keeps_accessRequest (env : Env) (config : TwagConfig) (req : AccessRequest) (s : Shared) :
    (Handler.handleRadiusAccessRequest env config req).Keeps Access.Racy (Sound config) Shrinks Ages
      (fun _ _ => True) s := by
  refine Prog.keeps_bind (fun o s => o = s.sessions.lookup req.macAddr)
    (Prog.keeps_op fun s₁ _ hs ans s₂ h => ?_) fun o s₂ ho => ?_
  · obtain ⟨rfl, rfl⟩ := Prod.ext_iff.mp h
    exact ⟨hs, .refl s₁, rfl⟩
  cases o with
  | some r => exact Plain.ages (Plain.authenticate env config req r) s₂
  | none =>
    refine Prog.keeps_bind
      (fun n s => n = s.sessions.entries.length ∧ s.sessions.lookup req.macAddr = none)
      (Prog.keeps_op fun s₃ hr hs ans s₄ h => ?_) fun n s₄ hn => ?_
    · obtain ⟨rfl, rfl⟩ := Prod.ext_iff.mp h
      exact ⟨hs, .refl s₃, rfl, hr.absent ho.symm⟩
    obtain ⟨rfl, habsent⟩ := hn
    by_cases hfull : config.maxActiveSessions.toNat ≤ s₄.sessions.entries.length
    · rw [if_pos hfull]
      exact Plain.ages
        (plain_bind (plain_op (o := .incrementRejected) trivial) fun _ => Plain.emit _) s₄
    · rw [if_neg hfull]
      refine Prog.keeps_bind (fun _ _ => True)
        (Prog.keeps_op fun s₅ hr hs ans s₆ h => ?_)
        fun r s₆ _ => Plain.ages (Plain.authenticate env config req r) s₆
      obtain ⟨rfl, rfl⟩ := Prod.ext_iff.mp h
      have hroom := Nat.lt_of_le_of_lt hr.length (Nat.not_le.mp hfull)
      obtain ⟨hsound, hages⟩ := sound_createSession hs (hr.absent habsent) hroom
      exact ⟨hsound, hages, trivial⟩

theorem fits (config : TwagConfig) :
    Pool.Fits Access.Racy (ThreadId.Job config) (Sound config) ReliesOn Guarantees where
  refl := by
    intro t s
    cases t with
    | loop => exact Shrinks.refl s
    | dispatch n => trivial
  trans := by
    intro t a b c hab hbc
    cases t with
    | loop => exact Shrinks.trans hab hbc
    | dispatch n => trivial
  relied := by
    intro t u htu s s' h
    cases u with
    | dispatch n => trivial
    | loop =>
      cases t with
      | loop => exact absurd rfl htu
      | dispatch n => exact h
  keeps := by
    intro t p s hjob _
    obtain ⟨x, hx, rfl⟩ := hjob
    by_cases hreq : ∃ req c, x.event = .accessRequest req c
    · obtain ⟨req, c, hreq⟩ := hreq
      cases t with
      | loop =>
        rw [Handler.ofInput, hreq]
        exact keeps_accessRequest x.env config req s
      | dispatch n =>
        rw [hreq] at hx
        cases hx
    · have hplain := plain_ofInput config x fun req c h => hreq ⟨req, c, h⟩
      cases t with
      | loop => exact Plain.ages hplain s
      | dispatch n => exact Plain.shrinks hplain s

theorem sound_initialized (config : TwagConfig) (now : Time)
    (heap : (mac : Bytes) → Nat → UeSession mac) :
    Sound config (.initialized config now heap) where
  balance := rfl
  limit := Nat.zero_le _
  connections := rfl
  nextTeid := rfl
  made := by
    intro m r hr
    cases hr
  teids := by
    intro m r hr
    cases hr
  apart := by
    intro m r m' r' hr
    cases hr

variable {boot : Boot} {heap : (mac : Bytes) → Nat → UeSession mac} {p p' : Process}

/-- In every interleaving, the store is sound. -/
theorem interleaved (hp : boot.Reaches heap p) : Sound boot.config p.shared :=
  Pool.invariant (fits boot.config) (sound_initialized boot.config boot.now heap) hp

/-- Memory before any session is made. -/
def sampleHeap (mac : Bytes) (_ : Nat) : UeSession mac := .new (sampleEnv 0).memory mac

/-- A UE is attached; its next Access-Request and an abort of its session are
both being handled. -/
def sampleOverlap : Process where
  shared := serialAfter sampleBoot sampleHeap [sampleAt 0 sampleAttach]
  thread := Function.update
    (Function.update (fun _ => .done ()) .loop
      (Handler.ofInput sampleBoot.config (sampleAt 1 sampleAttach)))
    (.dispatch 0) (Handler.ofInput sampleBoot.config (sampleAt 1 (.abortSession sampleMac)))

theorem reaches_sampleOverlap : sampleBoot.Reaches sampleHeap sampleOverlap := by
  have hidle := reaches_serialAfter sampleBoot sampleHeap [sampleAt 0 sampleAttach]
  have hloop := hidle.tail (.start .loop _ rfl ⟨sampleAt 1 sampleAttach, rfl, rfl⟩)
  refine Relation.ReflTransGen.tail hloop
    (Pool.Move.start (ThreadId.dispatch 0) _ ?_ ⟨sampleAt 1 (.abortSession sampleMac), rfl, rfl⟩)
  rfl

theorem interleaved_overlap : sampleOverlap.shared.sessions.entries.length = 1 ∧
    Sound sampleBoot.config sampleOverlap.shared :=
  ⟨by decide, interleaved reaches_sampleOverlap⟩

/-- A session that was made and is not stored is never stored again, whatever
the threads that still point to it do. -/
theorem removed_for_good (hp : boot.Reaches heap p)
    (hm : Pool.Moves Access.Racy (ThreadId.Job boot.config) p p') {r : Ref mac}
    (hmade : r.id < p.shared.made) (hr : p.shared.sessions.lookup mac ≠ some r) :
    p'.shared.sessions.lookup mac ≠ some r := by
  have hob := (Pool.Obliged.idle (sound_initialized boot.config boot.now heap)).moves
    (fits boot.config) hp
  have hages : Ages p.shared p'.shared := by
    refine Pool.path (fits boot.config) Ages.refl (fun _ _ _ => Ages.trans) ?_ hob hm
    intro t s s' h
    cases t with
    | loop => exact h
    | dispatch n => exact Shrinks.ages h
  intro hr'
  rcases hages.stored mac r hr' with h | h
  · exact hr h
  · omega

/-- The session of a UE that was aborted and has attached again is a new one. -/
theorem removed_for_good_reattached :
    (serialAfter sampleBoot sampleHeap [sampleAt 2 sampleAttach,
      sampleAt 1 (.abortSession sampleMac), sampleAt 0 sampleAttach]).sessions.lookup sampleMac ≠
      some ⟨0⟩ :=
  removed_for_good (r := ⟨0⟩) (reaches_serialAfter sampleBoot sampleHeap
      [sampleAt 1 (.abortSession sampleMac), sampleAt 0 sampleAttach])
    (moves_ofInput _ _ (sampleAt 2 sampleAttach)) (by decide) (by decide)

end Twag.Proof.Threads

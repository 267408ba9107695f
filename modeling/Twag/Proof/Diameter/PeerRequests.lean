import Mathlib.Data.List.Perm.Basic
import Twag.Proof.Diameter.PeerMachine

/-!
# What becomes of the requests of a peer

A user's request is in a routing thread, in one of the two queues or in the list
of sent requests, until it has a fate. `Books P n d p` counts those that `P` picks
out: there are `n`, of which `d` were dropped with their answers. What a thread does
with a message is one equation (`Books.take`, `Books.add`, `Books.doSend`), and the
machine's thread moves no message of its users but by `fd_peer_failover_msg` and the
events of the list, so that its functions keep the books one after the other; only
an answer that is read adds to those that were dropped (`Books.fetched`).

* `requests_kept`: in every interleaving of the threads, the requests that were
  given to the peer are those that it has and those that have had a fate, and
  those that are dropped are the ones whose answers the machine takes and does not
  pass on.
-/

namespace Twag.Proof.Diameter

open Twag.Impl (Time)
open Twag.Impl.Diameter Twag.Spec Fallible
open Psm

variable {β : Type} {c : PeerConfig} {k : Clock} {P : β → Bool} {n d : Nat} {p q : Psm β}

/-! ## The lists of a peer -/

def isApp : Body β → Bool
  | .app _ => true
  | _ => false

theorem picks_of_not_isApp {b : Body β} (h : isApp b = false) : picks P b = false := by
  cases b with
  | app b => cases h
  | _ => rfl

/-- A user's request is routable, and one of the machine is not. -/
def Marked (req : Request (Body β)) : Prop := req.routable = isApp req.body

def MarkedMsg : Outgoing β → Prop
  | .request req => Marked req
  | .answer _ => True

theorem request_of_fateOf {α : Type} {sr : Sentreq α} {f : Fate α} (h : FateOf sr f) :
    (fateRequest f).body = sr.req.body ∧ (fateRequest f).routable = sr.req.routable := by
  cases f with
  | answered req => cases h; exact ⟨rfl, rfl⟩
  | dropped req => cases h
  | expired req => cases h; exact ⟨rfl, rfl⟩
  | requeued req => obtain ⟨rfl, -⟩ := h; exact ⟨rfl, rfl⟩
  | freed req => obtain ⟨rfl, -⟩ := h; exact ⟨rfl, rfl⟩
  | refused req => cases h; exact ⟨rfl, rfl⟩

/-- What leaves the list of sent requests has a fate, each once. -/
theorem countP_fates {Q : Body β → Bool} {out : List (Sentreq (Body β))}
    {fates : List (Fate (Body β))} (h : List.Forall₂ FateOf out fates) :
    fates.countP (fun f => Q (fateRequest f).body) = out.countP fun sr => Q sr.req.body := by
  induction h with
  | nil => rfl
  | cons hf _ ih => rw [List.countP_cons, List.countP_cons, ih, (request_of_fateOf hf).1]

/-- What leaves the list of sent requests is not dropped there. -/
theorem countP_isLost_eq_zero {out : List (Sentreq (Body β))} {fates : List (Fate (Body β))}
    (h : List.Forall₂ FateOf out fates) : fates.countP (isLost P) = 0 := by
  induction h with
  | nil => rfl
  | @cons sr f _ _ hf _ ih =>
    have hlost : isLost P f = false := by
      cases f with
      | dropped req => cases hf
      | _ => rfl
    rw [List.countP_cons, ih, hlost]
    rfl

/-- A request of the list that is freed is not routable. -/
theorem not_routable_of_freed {out : List (Sentreq (Body β))} {fates : List (Fate (Body β))}
    (h : List.Forall₂ FateOf out fates) {req : Request (Body β)} (hmem : .freed req ∈ fates) :
    ∃ sr ∈ out, req = sr.req ∧ sr.req.routable = false := by
  induction h with
  | nil => simp at hmem
  | @cons sr f out fates hf _ ih =>
    rcases List.mem_cons.1 hmem with rfl | hmem
    · exact ⟨sr, by simp, hf⟩
    · obtain ⟨sr', hsr', heq⟩ := ih hmem
      exact ⟨sr', List.mem_cons_of_mem sr hsr', heq⟩

theorem countP_repost (l : List (Outgoing β)) :
    (l.flatMap repost).countP (fun f => picks P (fateRequest f).body) = l.countP (picksMsg P) := by
  induction l with
  | nil => rfl
  | cons msg l ih =>
    rw [List.flatMap_cons, List.countP_append, ih, List.countP_cons]
    cases msg with
    | request req =>
      rw [repost, List.countP_singleton, Nat.add_comm]
      rfl
    | answer r => simp [repost, picksMsg]

theorem countP_requeue (l : List (Outgoing β)) :
    (l.flatMap requeue).countP (fun f => picks P (fateRequest f).body) = l.countP (picksMsg P) := by
  induction l with
  | nil => rfl
  | cons msg l ih =>
    rw [List.flatMap_cons, List.countP_append, ih, List.countP_cons]
    cases msg with
    | request req =>
      rw [requeue, List.countP_singleton, Nat.add_comm]
      split
      · rfl
      · rfl
    | answer r => simp [requeue, picksMsg]

theorem countP_isLost_repost (l : List (Outgoing β)) :
    (l.flatMap repost).countP (isLost P) = 0 := by
  induction l with
  | nil => rfl
  | cons msg l ih =>
    rw [List.flatMap_cons, List.countP_append, ih]
    cases msg with
    | request req => rfl
    | answer r => rfl

theorem countP_isLost_requeue (l : List (Outgoing β)) :
    (l.flatMap requeue).countP (isLost P) = 0 := by
  induction l with
  | nil => rfl
  | cons msg l ih =>
    rw [List.flatMap_cons, List.countP_append, ih]
    cases msg with
    | request req =>
      rw [requeue]
      split
      · rfl
      · rfl
    | answer r => rfl

theorem not_freed_repost {l : List (Outgoing β)} {req : Request (Body β)} :
    Fate.freed req ∉ l.flatMap repost := by
  intro hmem
  obtain ⟨msg, -, hmem⟩ := List.mem_flatMap.1 hmem
  cases msg with
  | request r => simp [repost] at hmem
  | answer r => simp [repost] at hmem

theorem not_isApp_of_requeue {l : List (Outgoing β)} {req : Request (Body β)}
    (hl : ∀ msg ∈ l, MarkedMsg msg) (hmem : Fate.freed req ∈ l.flatMap requeue) :
    isApp req.body = false := by
  obtain ⟨msg, hmsg, hmem⟩ := List.mem_flatMap.1 hmem
  cases msg with
  | request r =>
    have hmarked : r.routable = isApp r.body := hl _ hmsg
    cases hr : r.routable with
    | true => simp [requeue, hr] at hmem
    | false =>
      simp only [requeue, hr, Bool.false_eq_true, if_false, List.mem_singleton,
        Fate.freed.injEq] at hmem
      rw [hmem, ← hmarked, hr]
  | answer r => simp [requeue] at hmem

/-! ## The books of a peer -/

/-- The users' requests that `P` picks out are at the peer or have had a fate, `n` of them, of
which `d` were dropped, and none was freed. -/
structure Books (P : β → Bool) (n d : Nat) (p : Psm β) : Prop where
  table : Table p.peer.sr
  pending : ∀ msg ∈ pending p, MarkedMsg msg
  sent : ∀ sr ∈ p.peer.sr.srs, Marked sr.req
  freed : ∀ req, Fate.freed req ∈ p.fates → isApp req.body = false
  total : waiting P p + ended P p = n
  lost : lost P p = d

def cost (P : β → Bool) (msg : Outgoing β) : Nat := if picksMsg P msg then 1 else 0

/-- What the books are about is the same. -/
structure SameBooks (p q : Psm β) : Prop where
  senders : q.senders = p.senders
  tosend : q.tosend = p.tosend
  tofailover : q.tofailover = p.tofailover
  peer : q.peer = p.peer
  fates : q.fates = p.fates

theorem Books.same (h : Books P n d p) (hq : SameBooks p q) : Books P n d q := by
  have hpending : Spec.pending q = Spec.pending p := by
    rw [Spec.pending, hq.senders, hq.tosend, hq.tofailover]
    rfl
  refine ⟨by rw [hq.peer]; exact h.table, by rw [hpending]; exact h.pending,
    by rw [hq.peer]; exact h.sent, by rw [hq.fates]; exact h.freed, ?_, ?_⟩
  · rw [waiting, ended, hpending, hq.peer, hq.fates]
    exact h.total
  · rw [Spec.lost, hq.fates]
    exact h.lost

/-- The list of sent requests changes, and some requests have a fate. -/
theorem Books.settled {r : Peer (Body β) × List (Fate (Body β))} {n' d' : Nat}
    (h : Books P n d p) (htable : Table r.1.sr) (hsent : ∀ sr ∈ r.1.sr.srs, Marked sr.req)
    (hfreed : ∀ req, Fate.freed req ∈ r.2 → isApp req.body = false)
    (hcount : (r.1.sr.srs.countP fun sr => picks P sr.req.body) +
        (r.2.countP fun f => picks P (fateRequest f).body) + n =
      (p.peer.sr.srs.countP fun sr => picks P sr.req.body) + n')
    (hlost : r.2.countP (isLost P) + d = d') : Books P n' d' (p.settled r) := by
  have htotal := h.total
  have hold := h.lost
  refine ⟨htable, h.pending, hsent, fun req hmem => ?_, ?_, ?_⟩
  · rcases List.mem_append.1 hmem with hmem | hmem
    · exact hfreed req hmem
    · exact h.freed req hmem
  · simp only [waiting, ended, settled_peer, settled_fates, List.countP_append] at htotal ⊢
    show (Spec.pending p).countP _ + _ + _ = _
    omega
  · simp only [Spec.lost, settled_fates, List.countP_append] at hold ⊢
    omega

/-- An event that sends none keeps the requests in the list or gives them a fate. -/
theorem countP_step {peer : Peer (Body β)} {e : PeerEvent (Body β)} (h : Table peer.sr)
    (he : ∀ req, e ≠ .send req) :
    ((peer.step e).1.sr.srs.countP fun sr => picks P sr.req.body) +
        ((peer.step e).2.countP fun f => picks P (fateRequest f).body) =
      peer.sr.srs.countP fun sr => picks P sr.req.body := by
  obtain ⟨req, hreq, -⟩ | ⟨-, -, out, hleaves⟩ := step_cases h e
  · exact absurd hreq (he req)
  · rw [hleaves.perm.countP_eq, List.countP_append, countP_fates hleaves.fates]

/-- An event of the list of sent requests that sends none. -/
theorem Books.settle (h : Books P n d p) {e : PeerEvent (Body β)} (he : ∀ req, e ≠ .send req) :
    Books P n d (p.settled (p.peer.step e)) := by
  have hcount := countP_step (P := P) h.table he
  obtain ⟨req, hreq, -⟩ | ⟨-, -, out, hleaves⟩ := step_cases h.table e
  · exact absurd hreq (he req)
  · have hold : ∀ sr ∈ out, sr ∈ p.peer.sr.srs := fun sr hsr =>
      hleaves.perm.mem_iff.2 (List.mem_append_right _ hsr)
    have hlost := countP_isLost_eq_zero (P := P) hleaves.fates
    refine h.settled hleaves.table (fun sr hsr => ?_) (fun req hmem => ?_) (by omega) (by omega)
    · exact h.sent sr (hleaves.perm.mem_iff.2 (List.mem_append_left _ hsr))
    · obtain ⟨sr, hsr, rfl, hr⟩ := not_routable_of_freed hleaves.fates hmem
      exact (h.sent sr (hold sr hsr)).symm.trans hr

/-- `do_send` -/
theorem Books.doSend {msg : Outgoing β} (h : Books P n d p) (hm : MarkedMsg msg) :
    Books P (n + cost P msg) d (p.doSend msg).2 := by
  cases msg with
  | answer r => exact h
  | request req =>
    show Books P _ d (p.settled (p.peer.step (.send req)))
    obtain ⟨req', hreq, -, ⟨htable, hnone, hperm⟩ | ⟨hsame, hfate, -⟩⟩ | ⟨hne, -⟩ :=
      step_cases h.table (.send req)
    · cases hreq
      have hcount : (p.peer.step (.send req)).1.sr.srs.countP (fun sr => picks P sr.req.body) =
          p.peer.sr.srs.countP (fun sr => picks P sr.req.body) + cost P (.request req) := by
        rw [hperm.countP_eq, List.countP_cons]
        rfl
      refine h.settled htable (fun sr hsr => ?_) (by simp [hnone]) ?_ (by simp [hnone])
      · rcases List.mem_cons.1 (hperm.mem_iff.1 hsr) with rfl | hsr
        · exact hm
        · exact h.sent sr hsr
      · rw [hnone, List.countP_nil]
        omega
    · cases hreq
      have hcount : ([.refused (entry p.peer.hbh req).req] : List (Fate (Body β))).countP
          (fun f => picks P (fateRequest f).body) = cost P (.request req) := by
        rw [List.countP_singleton]
        rfl
      refine h.settled (by rw [hsame]; exact h.table) (by rw [hsame]; exact h.sent)
        (by simp [hfate]) ?_ (by rw [hfate, List.countP_singleton]; simp [isLost])
      rw [hsame, hfate]
      omega
    · exact absurd rfl (hne req)

theorem fateRequest_carried {b : Bool} (f : Fate (Body β)) :
    fateRequest (carried b f) = fateRequest f := by
  cases f with
  | answered req =>
    cases b with
    | true => rfl
    | false => rfl
  | _ => rfl

theorem freed_of_carried {b : Bool} {f : Fate (Body β)} {req : Request (Body β)}
    (h : carried b f = .freed req) : f = .freed req := by
  cases f with
  | answered req' =>
    cases b with
    | true => cases h
    | false => cases h
  | _ => exact h

theorem countP_carried {b : Bool} (fates : List (Fate (Body β))) :
    ((fates.map (carried b)).countP fun f => picks P (fateRequest f).body) =
      fates.countP fun f => picks P (fateRequest f).body := by
  simp only [List.countP_map, Function.comp_def, fateRequest_carried]

/-- The request of an answer is dropped if the answer is not passed on. -/
theorem countP_isLost_answer {b : Bool} {peer : Peer (Body β)} {hbhid : UInt32} :
    ((peer.step (.answer hbhid)).2.map (carried b)).countP (isLost P) =
      if b then 0 else
        (peer.step (.answer hbhid)).2.countP fun f => picks P (fateRequest f).body := by
  show (((peer.sr.fetch hbhid).1.map Fate.answered).toList.map (carried b)).countP (isLost P) =
    if b then 0 else
      ((peer.sr.fetch hbhid).1.map Fate.answered).toList.countP fun f =>
        picks P (fateRequest f).body
  cases (peer.sr.fetch hbhid).1 with
  | none =>
    cases b with
    | true => rfl
    | false => rfl
  | some req =>
    cases b with
    | true => rfl
    | false => rfl

theorem Books.fetched (h : Books P n d p) (msg : Received) :
    Books P n (d + if delivers p.state msg.content then 0 else
      (p.peer.step (.answer msg.hbhid)).2.countP fun f => picks P (fateRequest f).body)
      (fetched msg p) := by
  have hne : ∀ req, PeerEvent.answer msg.hbhid ≠ .send (req : Request (Body β)) := by simp
  have hsettle := h.settle hne
  have hcount := countP_step (P := P) h.table hne
  refine h.settled hsettle.table hsettle.sent (fun req hmem => ?_) ?_ ?_
  · obtain ⟨f, hf, heq⟩ := List.mem_map.1 hmem
    rw [freed_of_carried heq] at hf
    exact hsettle.freed req (List.mem_append_left _ hf)
  · rw [countP_carried, ← hcount]
  · rw [countP_isLost_answer, Nat.add_comm]

/-- A message more is pending. -/
theorem Books.add {msg : Outgoing β} (h : Books P n d p) (hm : MarkedMsg msg)
    (hperm : (Spec.pending q).Perm (msg :: Spec.pending p)) (hpeer : q.peer = p.peer)
    (hfates : q.fates = p.fates) : Books P (n + cost P msg) d q := by
  have hcount : (Spec.pending q).countP (picksMsg P) =
      (Spec.pending p).countP (picksMsg P) + cost P msg := by
    rw [hperm.countP_eq, List.countP_cons]
    rfl
  have htotal := h.total
  refine ⟨by rw [hpeer]; exact h.table, fun m hmem => ?_, by rw [hpeer]; exact h.sent,
    by rw [hfates]; exact h.freed, ?_, by rw [Spec.lost, hfates]; exact h.lost⟩
  · rcases List.mem_cons.1 (hperm.mem_iff.1 hmem) with rfl | hmem
    · exact hm
    · exact h.pending m hmem
  · simp only [waiting, ended, hpeer, hfates, hcount] at htotal ⊢
    omega

/-- A message less is. -/
theorem Books.take {msg : Outgoing β} (h : Books P n d p)
    (hperm : (Spec.pending p).Perm (msg :: Spec.pending q)) (hpeer : q.peer = p.peer)
    (hfates : q.fates = p.fates) : MarkedMsg msg ∧ ∃ m, n = m + cost P msg ∧ Books P m d q := by
  have hcount : (Spec.pending p).countP (picksMsg P) =
      (Spec.pending q).countP (picksMsg P) + cost P msg := by
    rw [hperm.countP_eq, List.countP_cons]
    rfl
  have htotal := h.total
  have hmem : ∀ m, m = msg ∨ m ∈ Spec.pending q → m ∈ Spec.pending p := fun m hm =>
    hperm.mem_iff.2 (List.mem_cons.2 hm)
  refine ⟨h.pending msg (hmem msg (.inl rfl)), _, ?_, by rw [hpeer]; exact h.table,
    fun m hm => h.pending m (hmem m (.inr hm)), by rw [hpeer]; exact h.sent,
    by rw [hfates]; exact h.freed, rfl, by rw [Spec.lost, hfates]; exact h.lost⟩
  simp only [waiting, ended, hpeer, hfates, hcount] at htotal ⊢
  omega

theorem Books.push {msg : Outgoing β} (h : Books P n d p) (hm : MarkedMsg msg) :
    Books P (n + cost P msg) d (p.withTosend (p.tosend ++ [msg])) := by
  refine h.add hm ?_ rfl rfl
  have heq : Spec.pending (p.withTosend (p.tosend ++ [msg])) =
      (p.senders.map Sender.msg ++ p.tosend) ++ msg :: p.tofailover := by simp [Spec.pending]
  rw [heq]
  exact List.perm_middle

/-- `fd_peer_failover_msg` -/
theorem Books.failoverMsg (h : Books P n d p) : Books P n d p.failoverMsg := by
  have hsettled := h.settle (e := .failover) (by simp)
  have htotal := hsettled.total
  have hlost := hsettled.lost
  have hpending : Spec.pending p.failoverMsg = p.senders.map Sender.msg := by
    simp [Spec.pending]
  refine ⟨hsettled.table, fun msg hmem => ?_, hsettled.sent, fun req hmem => ?_, ?_, ?_⟩
  · rw [hpending] at hmem
    exact h.pending msg (by simp only [Spec.pending, List.mem_append]; exact .inl (.inl hmem))
  · simp only [failoverMsg_fates, List.mem_append] at hmem
    rcases hmem with ((hmem | hmem) | hmem) | hmem
    · exact hsettled.freed req (List.mem_append_left _ hmem)
    · exact absurd hmem not_freed_repost
    · refine not_isApp_of_requeue (fun msg hmsg => h.pending msg ?_) hmem
      simp only [Spec.pending, List.mem_append]
      exact .inl (.inr hmsg)
    · exact h.freed req hmem
  · have hrepost := countP_repost (P := P) p.tofailover
    have hrequeue := countP_requeue (P := P) p.tosend
    rw [waiting, ended, hpending]
    simp only [waiting, ended, Spec.pending, settled_peer, settled_fates, settled_senders,
      settled_tosend, settled_tofailover, failoverMsg_peer, failoverMsg_fates,
      List.countP_append] at htotal ⊢
    omega
  · simp only [Spec.lost, settled_fates, failoverMsg_fates, List.countP_append,
      countP_isLost_repost, countP_isLost_requeue, Nat.add_zero] at hlost ⊢
    exact hlost

/-! ## The machine's thread -/

/-- An assignment that the books do not see. -/
class Quiet (f : Psm β → Psm β) : Prop where
  same : ∀ p, SameBooks p (f p)

instance quiet_withState {x : PeerState} : Quiet (withState x : Psm β → Psm β) :=
  ⟨fun _ => ⟨rfl, rfl, rfl, rfl, rfl⟩⟩

instance quiet_withFlags {x : (PeerFlags → PeerFlags)} : Quiet (withFlags x : Psm β → Psm β) :=
  ⟨fun _ => ⟨rfl, rfl, rfl, rfl, rfl⟩⟩

instance quiet_withEvents {x : (List PsmEvent)} : Quiet (withEvents x : Psm β → Psm β) :=
  ⟨fun _ => ⟨rfl, rfl, rfl, rfl, rfl⟩⟩

instance quiet_withTimer {x : Time} : Quiet (withTimer x : Psm β → Psm β) :=
  ⟨fun _ => ⟨rfl, rfl, rfl, rfl, rfl⟩⟩

instance quiet_withActive {x : Bool} : Quiet (withActive x : Psm β → Psm β) :=
  ⟨fun _ => ⟨rfl, rfl, rfl, rfl, rfl⟩⟩

instance quiet_withOutthr {x : OutThread} : Quiet (withOutthr x : Psm β → Psm β) :=
  ⟨fun _ => ⟨rfl, rfl, rfl, rfl, rfl⟩⟩

instance quiet_withReqinCount {x : Int} : Quiet (withReqinCount x : Psm β → Psm β) :=
  ⟨fun _ => ⟨rfl, rfl, rfl, rfl, rfl⟩⟩

instance quiet_withReceiver {x : (Option Cer)} : Quiet (withReceiver x : Psm β → Psm β) :=
  ⟨fun _ => ⟨rfl, rfl, rfl, rfl, rfl⟩⟩

instance quiet_withCnxctx {x : Bool} : Quiet (withCnxctx x : Psm β → Psm β) :=
  ⟨fun _ => ⟨rfl, rfl, rfl, rfl, rfl⟩⟩

instance quiet_withOrstate {x : UInt32} : Quiet (withOrstate x : Psm β → Psm β) :=
  ⟨fun _ => ⟨rfl, rfl, rfl, rfl, rfl⟩⟩

instance quiet_withLastDC {x : UInt32} : Quiet (withLastDC x : Psm β → Psm β) :=
  ⟨fun _ => ⟨rfl, rfl, rfl, rfl, rfl⟩⟩

instance quiet_withCb2 {x : (Option Bool)} : Quiet (withCb2 x : Psm β → Psm β) :=
  ⟨fun _ => ⟨rfl, rfl, rfl, rfl, rfl⟩⟩

instance quiet_withEvents_of {g : Psm β → (List PsmEvent)} : Quiet fun p => withEvents (g p) p :=
  ⟨fun _ => ⟨rfl, rfl, rfl, rfl, rfl⟩⟩

instance quiet_withReqinCount_of {g : Psm β → Int} : Quiet fun p => withReqinCount (g p) p :=
  ⟨fun _ => ⟨rfl, rfl, rfl, rfl, rfl⟩⟩

instance quiet_withOrstate_of {g : Psm β → UInt32} : Quiet fun p => withOrstate (g p) p :=
  ⟨fun _ => ⟨rfl, rfl, rfl, rfl, rfl⟩⟩

instance quiet_withLastDC_of {g : Psm β → UInt32} : Quiet fun p => withLastDC (g p) p :=
  ⟨fun _ => ⟨rfl, rfl, rfl, rfl, rfl⟩⟩

instance quiet_withCb2_of {g : Psm β → (Option Bool)} : Quiet fun p => withCb2 (g p) p :=
  ⟨fun _ => ⟨rfl, rfl, rfl, rfl, rfl⟩⟩

instance quiet_withAborted : Quiet (withAborted : Psm β → Psm β) :=
  ⟨fun _ => ⟨rfl, rfl, rfl, rfl, rfl⟩⟩

instance keeps_quiet {f : Psm β → Psm β} [hf : Quiet f] :
    Keeps (Books P n d) (modify f : Fallible (Psm β) Unit) :=
  .modify fun p hp => hp.same (hf.same p)

instance keeps_failoverMsg : Keeps (Books P n d) (modify failoverMsg : Fallible (Psm β) Unit) :=
  .modify fun _ hp => hp.failoverMsg

instance keeps_srOnDisconnect :
    Keeps (Books P n d) (modify srOnDisconnect : Fallible (Psm β) Unit) :=
  .modify fun _ hp => hp.settle (by simp)

/-- A message of the machine's own. -/
theorem keeps_outSend {msg : Outgoing β} {cnx : Bool} (hm : MarkedMsg msg)
    (hc : cost P msg = 0) : Keeps (Books P n d) (outSend msg cnx) := by
  refine ⟨fun p hp => wp_outSend.2 ?_⟩
  split
  · unfold sentOut
    split
    · have hpush := hp.push hm
      rwa [hc] at hpush
    · have hsend := hp.doSend hm
      rwa [hc] at hsend
  · exact hp

instance keeps_answer {r cnx : Bool} : Keeps (Books P n d) (outSend (.answer r : Outgoing β) cnx) :=
  keeps_outSend trivial rfl

instance keeps_cer {cnx : Bool} :
    Keeps (Books P n d) (outSend (.request (linkLocal .cer) : Outgoing β) cnx) :=
  keeps_outSend rfl rfl

instance keeps_dwr {cnx : Bool} :
    Keeps (Books P n d) (outSend (.request (linkLocal .dwr) : Outgoing β) cnx) :=
  keeps_outSend rfl rfl

instance keeps_dpr {cnx : Bool} :
    Keeps (Books P n d) (outSend (.request (linkLocal .dpr) : Outgoing β) cnx) :=
  keeps_outSend rfl rfl

section

variable {β : Type} {P : β → Bool} {n d : Nat}

instance keeps_eventSend {e : PsmEvent} :
    Keeps (Books P n d) (eventSend e : Fallible (Psm β) Unit) := by
  unfold eventSend
  infer_instance

instance keeps_outStart : Keeps (Books P n d) (outStart : Fallible (Psm β) Unit) := by
  unfold outStart
  infer_instance

instance keeps_outStop : Keeps (Books P n d) (outStop : Fallible (Psm β) Unit) := by
  unfold outStop
  infer_instance

instance keeps_enterOpenState : Keeps (Books P n d) (enterOpenState : Fallible (Psm β) Unit) := by
  unfold enterOpenState
  refine @Keeps.bind _ _ _ _ _ _ inferInstance fun p => ?_
  refine @Keeps.bind _ _ _ _ _ _ inferInstance fun _ => ?_
  split
  · infer_instance
  · infer_instance

instance keeps_leaveOpenState {skip : Bool} :
    Keeps (Books P n d) (leaveOpenState skip : Fallible (Psm β) Unit) := by
  unfold leaveOpenState
  infer_instance

instance keeps_enterClosedState :
    Keeps (Books P n d) (enterClosedState c : Fallible (Psm β) Unit) := by
  unfold enterClosedState
  infer_instance

instance keeps_changeState {s : PeerState} :
    Keeps (Books P n d) (changeState c s : Fallible (Psm β) Unit) := by
  unfold changeState
  infer_instance

instance keeps_nextTimeout {b : Bool} {delay : Nat} :
    Keeps (Books P n d) (nextTimeout k b delay : Fallible (Psm β) Unit) := by
  unfold nextTimeout
  infer_instance

instance keeps_clearCnx : Keeps (Books P n d) (clearCnx : Fallible (Psm β) Unit) := by
  unfold clearCnx
  infer_instance

instance keeps_cleanup {b : Bool} : Keeps (Books P n d) (cleanup c b : Fallible (Psm β) Unit) := by
  unfold cleanup
  infer_instance

/-! ### Watchdogs and disconnections -/

instance keeps_checkStateId {osi : Option UInt32} :
    Keeps (Books P n d) (checkStateId osi : Fallible (Psm β) Unit) := by
  unfold checkStateId
  split
  · infer_instance
  · infer_instance

instance keeps_sendDwr : Keeps (Books P n d) (sendDwr : Fallible (Psm β) Unit) := by
  unfold sendDwr
  infer_instance

instance keeps_dwCount : Keeps (Books P n d) (dwCount c : Fallible (Psm β) Unit) := by
  unfold dwCount
  infer_instance

instance keeps_dwHandle {req : Bool} {osi : Option UInt32} :
    Keeps (Books P n d) (dwHandle c k req osi : Fallible (Psm β) Unit) := by
  unfold dwHandle
  infer_instance

instance keeps_dwTimeout : Keeps (Books P n d) (dwTimeout c k : Fallible (Psm β) Unit) := by
  unfold dwTimeout
  infer_instance

instance keeps_dwReopen : Keeps (Books P n d) (dwReopen : Fallible (Psm β) Unit) := by
  unfold dwReopen
  infer_instance

instance keeps_dpHandle {req : Bool} {dc : Option UInt32} :
    Keeps (Books P n d) (dpHandle c k req dc : Fallible (Psm β) Unit) := by
  unfold dpHandle
  split
  · refine @Keeps.bind _ _ _ _ _ _ inferInstance fun _ => ?_
    infer_instance
  · infer_instance

instance keeps_dpInitiate {reason : Option UInt32} :
    Keeps (Books P n d) (dpInitiate c k reason : Fallible (Psm β) Unit) := by
  unfold dpInitiate
  infer_instance

/-! ### Capabilities exchange -/

instance keeps_saveRemoteCeInfo {o : UInt32} :
    Keeps (Books P n d) (saveRemoteCeInfo o : Fallible (Psm β) Unit) := by
  unfold saveRemoteCeInfo
  infer_instance

instance keeps_ceCleanup {fatal : Bool} :
    Keeps (Books P n d) (ceCleanup fatal : Fallible (Psm β) Unit) := by
  unfold ceCleanup
  infer_instance

instance keeps_moveToOpen {u : Bool} :
    Keeps (Books P n d) (moveToOpen c k u : Fallible (Psm β) Unit) := by
  unfold moveToOpen
  infer_instance

instance keeps_setPeerReceiver :
    Keeps (Books P n d) (setPeerReceiver : Fallible (Psm β) (Option Cer)) := by
  unfold setPeerReceiver
  infer_instance

instance keeps_processHandshake {cer : Cer} :
    Keeps (Books P n d) (processHandshake c k cer : Fallible (Psm β) Unit) := by
  unfold processHandshake
  split
  · infer_instance
  · infer_instance

instance keeps_answerReceiver {cer : Cer} :
    Keeps (Books P n d) (answerReceiver c k cer : Fallible (Psm β) Unit) := by
  unfold answerReceiver
  split
  · infer_instance
  · infer_instance

instance keeps_validate {cer : Cer} :
    Keeps (Books P n d) (validate cer : Fallible (Psm β) Int) := by
  unfold validate
  infer_instance

instance keeps_examineReceiver {cer : Cer} :
    Keeps (Books P n d) (examineReceiver c k cer : Fallible (Psm β) Unit) := by
  unfold examineReceiver
  infer_instance

instance keeps_processReceiver :
    Keeps (Books P n d) (processReceiver c k : Fallible (Psm β) Unit) := by
  unfold processReceiver
  refine @Keeps.bind _ _ _ _ _ _ inferInstance fun cer => ?_
  split
  · infer_instance
  · infer_instance

instance keeps_toWaitcea {readable : Bool} :
    Keeps (Books P n d) (toWaitcea c k readable : Fallible (Psm β) Unit) := by
  unfold toWaitcea
  infer_instance

instance keeps_handleNewcnx {readable : Bool} :
    Keeps (Books P n d) (handleNewcnx c k readable : Fallible (Psm β) Unit) := by
  unfold handleNewcnx
  infer_instance

instance keeps_ceaAccepted {cea : Cea} :
    Keeps (Books P n d) (ceaAccepted c k cea : Fallible (Psm β) Unit) := by
  unfold ceaAccepted
  refine @Keeps.bind _ _ _ _ _ _ inferInstance fun p => ?_
  split
  · infer_instance
  · infer_instance
  · infer_instance

instance keeps_ceMsgrcv {req : Bool} {cea : Cea} :
    Keeps (Books P n d) (ceMsgrcv c k req cea : Fallible (Psm β) Unit) := by
  unfold ceMsgrcv
  infer_instance

instance keeps_handleNewCER {cer : Cer} :
    Keeps (Books P n d) (handleNewCER c k cer : Fallible (Psm β) Unit) := by
  unfold handleNewCER
  refine @Keeps.bind _ _ _ _ _ _ inferInstance fun p => ?_
  split
  · infer_instance
  · infer_instance
  · infer_instance
  · infer_instance

/-! ### Turns -/

instance keeps_orGoto {next : Goto} {m : Fallible (Psm β) Unit} [Keeps (Books P n d) m] :
    Keeps (Books P n d) (orGoto next m) := by
  unfold orGoto
  infer_instance

instance keeps_graceEnd : Keeps (Books P n d) (graceEnd c k : Fallible (Psm β) Goto) := by
  unfold graceEnd
  infer_instance

instance keeps_onTerminate {reason : Option UInt32} :
    Keeps (Books P n d) (onTerminate c k reason : Fallible (Psm β) Goto) := by
  unfold onTerminate
  refine @Keeps.bind _ _ _ _ _ _ inferInstance fun p => ?_
  split
  all_goals infer_instance

instance keeps_onRoutable {s : PeerState} {req : Bool} :
    Keeps (Books P n d) (onRoutable c k s req : Fallible (Psm β) Unit) := by
  unfold onRoutable
  infer_instance

instance keeps_onContent {s : PeerState} {msg : Received} :
    Keeps (Books P n d) (onContent c k s msg : Fallible (Psm β) Goto) := by
  unfold onContent
  split
  all_goals infer_instance

instance keeps_onAccepted {msg : Received} :
    Keeps (Books P n d) (onAccepted c k msg : Fallible (Psm β) Goto) := by
  unfold onAccepted
  infer_instance

instance keeps_onCnxError : Keeps (Books P n d) (onCnxError c k : Fallible (Psm β) Goto) := by
  unfold onCnxError
  refine @Keeps.bind _ _ _ _ _ _ inferInstance fun p => ?_
  split
  all_goals infer_instance

instance keeps_onCnxEstablished {readable : Bool} :
    Keeps (Books P n d) (onCnxEstablished c k readable : Fallible (Psm β) Goto) := by
  unfold onCnxEstablished
  refine @Keeps.bind _ _ _ _ _ _ inferInstance fun p => ?_
  split
  all_goals infer_instance

instance keeps_onCnxFailed : Keeps (Books P n d) (onCnxFailed c k : Fallible (Psm β) Goto) := by
  unfold onCnxFailed
  refine @Keeps.bind _ _ _ _ _ _ inferInstance fun p => ?_
  split
  all_goals infer_instance

instance keeps_connect : Keeps (Books P n d) (connect c k : Fallible (Psm β) Unit) := by
  unfold connect
  infer_instance

instance keeps_onTimeout : Keeps (Books P n d) (onTimeout c k : Fallible (Psm β) Goto) := by
  unfold onTimeout
  refine @Keeps.bind _ _ _ _ _ _ inferInstance fun p => ?_
  split
  all_goals infer_instance

instance keeps_psmEnd : Keeps (Books P n d) (psmEnd c : Fallible (Psm β) Unit) := by
  unfold psmEnd
  infer_instance

instance keeps_psmReset : Keeps (Books P n d) (psmReset c : Fallible (Psm β) Unit) := by
  unfold psmReset
  infer_instance

end

/-! ### Messages -/

/-- An answer is the one event with which the machine drops a request. -/
theorem Books.onMsgRecv {msg : Received} (h : Books P n d p) :
    WP (onMsgRecv c k msg) p (fun _ => Books P n (d + swallows P p msg))
      (Books P n (d + swallows P p msg)) := by
  have hkeeps : ∀ {m : Fallible (Psm β) Goto}, (Keeps (Books P n d) m) → swallows P p msg = 0 →
      WP m p (fun _ => Books P n (d + swallows P p msg)) (Books P n (d + swallows P p msg)) := by
    intro m hm hzero
    rw [hzero]
    exact hm.wp p h
  rw [Psm.onMsgRecv, wp_bind, wp_get]
  by_cases hc : msg.content = .unparsable
  · rw [if_pos hc]
    exact hkeeps inferInstance (by simp [swallows, accepted, hc])
  by_cases hs : p.state = .stateClosed
  · rw [if_neg hc, if_pos hs]
    exact hkeeps inferInstance (by simp [swallows, accepted, hs])
  rw [if_neg hc, if_neg hs]
  by_cases hreq : msg.request = true
  · rw [if_pos hreq]
    exact hkeeps inferInstance (by simp [swallows, hreq])
  rw [if_neg hreq, wp_bind, wp_fetch]
  have hbooks := h.fetched msg
  cases hfound : (p.peer.step (.answer msg.hbhid)).2.isEmpty with
  | true =>
    have hzero : swallows P p msg = 0 := by simp [swallows, accepted, hreq, hfound]
    rw [if_neg (by simp), hzero]
    rw [List.isEmpty_iff.1 hfound, List.countP_nil, ite_self] at hbooks
    exact hbooks
  | false =>
    have hswallows : swallows P p msg = if delivers p.state msg.content then 0 else
        (p.peer.step (.answer msg.hbhid)).2.countP fun f => picks P (fateRequest f).body := by
      cases hd : delivers p.state msg.content with
      | true => simp [swallows, hd]
      | false => simp [swallows, accepted, hreq, hfound, hd, hc, hs]
    rw [if_pos (by simp), hswallows]
    exact Keeps.wp _ hbooks

/-! ## Steps -/

/-- How many requests the machine drops with an event, or at a timeout. -/
def dropsWith (P : β → Bool) (p : Psm β) : Option PsmEvent → Nat
  | some (.cnxMsgRecv msg) => swallows P p msg
  | _ => 0

theorem Books.handle {e : Option PsmEvent} (h : Books P n d p) :
    WP (handle c k e) p (fun _ => Books P n (d + dropsWith P p e))
      (Books P n (d + dropsWith P p e)) := by
  unfold Psm.handle
  split
  · exact Keeps.wp p h
  · exact h.onMsgRecv
  all_goals exact Keeps.wp p h

theorem Books.react {e : Option PsmEvent} (h : Books P n d p) (hs : p.state ≠ .stateOpenHandshake) :
    Books P n (d + dropsWith P p e) ((react c k e).exec p).2 := by
  refine WP.exec ?_
  rw [Psm.react, wp_bind, wp_get, wp_ite, if_neg hs, wp_bind]
  refine h.handle.mono (fun next q hq => ?_) fun _ hq => hq
  split
  · exact hq
  · exact Keeps.wp q hq
  · exact Keeps.wp q hq

theorem Books.turn (h : Books P n d p) (ha : p.aborted = false) :
    Books P n (d + drops P p (.turn k)) (p.turn c k) := by
  rw [Psm.turn, drops, ha]
  cases halive : p.alive with
  | false => exact h
  | true =>
    simp only [if_true, Bool.not_false, Bool.true_and, decide_eq_true_eq]
    cases hnext : p.nextEvent k with
    | none =>
      simp only [ite_self]
      exact h
    | some r =>
      obtain ⟨e, q⟩ := r
      obtain ⟨events, rfl⟩ := eq_of_nextEvent hnext
      have hq : Books P n d (p.withEvents events) := h.same ⟨rfl, rfl, rfl, rfl, rfl⟩
      by_cases hs : p.state = .stateOpenHandshake
      · rw [if_neg (by simp [hs])]
        show Books P n d ((Psm.react c k e).exec (p.withEvents events)).2
        rw [react_openHandshake (p := p.withEvents events) hs]
        exact hq.same ⟨rfl, rfl, rfl, rfl, rfl⟩
      · rw [if_pos hs]
        have hreact := hq.react (c := c) (k := k) (e := e) hs
        cases e with
        | none => exact hreact
        | some e =>
          cases e with
          | cnxMsgRecv msg => exact hreact
          | _ => exact hreact

/-- A routing thread is done. -/
theorem Books.leave {i : Nat} {snd : Sender β} (h : Books P n d p) (hi : p.senders[i]? = some snd) :
    MarkedMsg snd.msg ∧ ∃ m, n = m + cost P snd.msg ∧
      Books P m d (p.withSenders (p.senders.eraseIdx i)) := by
  refine h.take ?_ rfl rfl
  obtain ⟨hlt, hget⟩ := List.getElem?_eq_some_iff.1 hi
  have hperm := (List.getElem_cons_eraseIdx_perm hlt).symm.map Sender.msg
  rw [hget, List.map_cons] at hperm
  exact (hperm.append_right p.tosend).append_right p.tofailover

/-- A message is given back to be routed again. -/
theorem Books.giveBack {msg : Outgoing β} (h : Books P n d p) :
    Books P (n + cost P msg) d (p.settled (p.peer, repost msg)) := by
  have hcount := countP_repost (P := P) [msg]
  have hlost := countP_isLost_repost (P := P) [msg]
  have hfreed : ∀ req, Fate.freed req ∉ [msg].flatMap repost := fun req => not_freed_repost
  rw [List.flatMap_singleton] at hcount hlost hfreed
  rw [List.countP_singleton] at hcount
  refine h.settled h.table h.sent (fun req hmem => absurd hmem (hfreed req)) ?_ ?_
  · rw [hcount, Nat.add_right_comm, Nat.add_assoc]
    rfl
  · rw [hlost, Nat.zero_add]

theorem Books.look {i : Nat} (h : Books P n d p) : Books P n d (p.look i) := by
  unfold Psm.look
  split
  · rename_i msg hi
    obtain ⟨hm, m, rfl, hleave⟩ := h.leave hi
    split
    · refine hleave.add hm ?_ rfl rfl
      obtain ⟨hlt, -⟩ := List.getElem?_eq_some_iff.1 hi
      have hperm := (List.set_perm_cons_eraseIdx hlt
        (⟨msg, some (decide (p.state = .stateOpen))⟩ : Sender β)).map Sender.msg
      exact (hperm.append_right p.tosend).append_right p.tofailover
    · exact hleave.giveBack
  · exact h

theorem Books.act {i : Nat} (h : Books P n d p) : Books P n d (p.act i) := by
  unfold Psm.act
  split
  · rename_i msg hi
    obtain ⟨hm, m, rfl, hleave⟩ := h.leave hi
    exact hleave.push hm
  · rename_i msg hi
    obtain ⟨hm, m, rfl, hleave⟩ := h.leave hi
    exact hleave.doSend hm
  · exact h

/-- The sending thread takes the first message. -/
theorem Books.shift {msg : Outgoing β} {rest : List (Outgoing β)} (h : Books P n d p)
    (hp : p.tosend = msg :: rest) :
    MarkedMsg msg ∧ ∃ m, n = m + cost P msg ∧ Books P m d (p.withTosend rest) := by
  refine h.take ?_ rfl rfl
  have heq : Spec.pending p = p.senders.map Sender.msg ++ msg :: (rest ++ p.tofailover) := by
    rw [Spec.pending, hp]
    simp
  rw [heq, Spec.pending, List.append_assoc]
  exact List.perm_middle

theorem Books.putFailover {msg : Outgoing β} (h : Books P n d p) (hm : MarkedMsg msg) :
    Books P (n + cost P msg) d { p with tofailover := p.tofailover ++ [msg] } := by
  refine h.add hm ?_ rfl rfl
  show (p.senders.map Sender.msg ++ p.tosend ++ (p.tofailover ++ [msg])).Perm _
  rw [← List.append_assoc]
  exact List.perm_append_singleton _ _

/-- A request of the machine is freed. -/
theorem Books.free {req : Request (Body β)} (h : Books P n d p) (happ : isApp req.body = false) :
    Books P n d (p.settled (p.peer, [.freed req])) := by
  refine h.settled h.table h.sent (fun req' hmem => ?_) ?_ ?_
  · cases List.mem_singleton.1 hmem
    exact happ
  · simp [fateRequest, picks_of_not_isApp happ]
  · simp [isLost]

theorem Books.outTurn {sent : Bool} (h : Books P n d p) : Books P n d (p.outTurn sent) := by
  unfold Psm.outTurn
  split
  · rename_i msg rest _ hp
    obtain ⟨hm, m, rfl, hshift⟩ := h.shift hp
    have hsend := hshift.doSend hm
    simp only []
    split
    · exact hsend
    · exact hsend.same ⟨rfl, rfl, rfl, rfl, rfl⟩
  · rename_i req rest _ hp
    obtain ⟨hm, m, rfl, hshift⟩ := h.shift hp
    split
    · exact hshift.putFailover hm
    · rename_i hr
      have happ : isApp req.body = false := by
        rw [← (show req.routable = isApp req.body from hm)]
        simpa using hr
      have hcost : cost P (.request req) = 0 := by
        rw [cost, picksMsg, picks_of_not_isApp happ]
        rfl
      rw [hcost]
      exact hshift.free happ
  · rename_i r rest _ hp
    obtain ⟨hm, m, rfl, hshift⟩ := h.shift hp
    split
    · exact hshift.putFailover hm
    · exact hshift
  · exact h

theorem Books.route {msg : Routed β} (h : Books P n d p) (ha : p.aborted = false) :
    Books P (n + given P p (.route msg)) d (p.route msg) := by
  unfold Psm.route
  split
  · rename_i hmay
    have hm : MarkedMsg msg.outgoing := by
      cases msg with
      | request hbhid t time b => rfl
      | answer => trivial
    have hgiven : given P p (.route msg) = cost P msg.outgoing := by
      simp [given, cost, ha, hmay]
    rw [hgiven]
    refine h.add hm ?_ rfl rfl
    have heq : Spec.pending (p.withSenders (p.senders ++ [⟨msg.outgoing, none⟩])) =
        p.senders.map Sender.msg ++ msg.outgoing :: (p.tosend ++ p.tofailover) := by
      simp [Spec.pending]
    rw [heq, Spec.pending, List.append_assoc]
    exact List.perm_middle
  · rename_i hmay
    have hgiven : given P p (.route msg) = 0 := by simp [given, hmay]
    rw [hgiven]
    exact h

/-- Every step of every thread. -/
theorem Books.step (h : Books P n d p) (s : Step β) :
    Books P (n + given P p s) (d + drops P p s) (p.step c s) := by
  unfold Psm.step
  cases ha : p.aborted with
  | true =>
    have hgiven : given P p s = 0 := by
      cases s with
      | route msg => simp [given, ha]
      | _ => rfl
    have hdrops : drops P p s = 0 := by
      cases s with
      | turn k => simp [drops, ha]
      | _ => rfl
    rw [if_pos rfl, hgiven, hdrops]
    exact h
  | false =>
    rw [if_neg (by simp)]
    cases s with
    | post e =>
      show Books P n d (p.post e)
      unfold Psm.post
      split
      · exact h
      · exact h.same ⟨rfl, rfl, rfl, rfl, rfl⟩
    | turn k => exact h.turn ha
    | route msg => exact h.route ha
    | look i => exact h.look
    | act i => exact h.act
    | outTurn sent => exact h.outTurn
    | expire now => exact h.settle (by simp)
    | restart k exp =>
      show Books P n d (p.restart k exp)
      unfold Psm.restart
      split
      · exact h.same ⟨rfl, rfl, rfl, rfl, rfl⟩
      · exact h

/-! ## Histories -/

/-- A peer that sends a DWA with the id of a user's request makes the machine drop the request. -/
example :
    let h : List (Step Unit) :=
      [.turn ⟨0, 0, 0⟩, .post (.cnxMsgRecv ⟨false, 0, .deviceWatchdog none⟩), .outTurn true,
        .act 0, .look 0, .route (.request 7 false none ()), .turn ⟨0, 0, 0⟩,
        .post (.cnxIncoming ⟨true, 0, false, [⟨0, 1, none⟩], none, none, true, false⟩)]
    lost (fun _ => true) (after ⟨30, 30, true, false⟩ ⟨⟨0, 0, 0⟩, 0, true, false, true⟩ h) = 1 := by
  decide

end Twag.Proof.Diameter

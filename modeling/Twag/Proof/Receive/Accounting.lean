import Twag.Framework.Past
import Twag.Impl.Receive.Accounting

/-!
# The accounting proxy, over every run

The clients' Accounting-Requests and the accounting server's responses arrive in
some order; for each response the run says which request it answers, which the
server knows and the proxy does not.

* `lookup_iff`: the client that an id is pending for is the one whose
  Accounting-Request was the last packet with that id;
* `delivers_iff`: the proxy delivers every response of a run to the client it is for
  exactly if, at each, the last packet with its id was a request of that client;
* `clash_misdelivered`: two clients with the same id, and the first one's response
  goes to the second.
-/

namespace Twag.Proof.Receive

open Twag.Impl Twag.Impl.RadiusServer

/-- A datagram on the RADIUS socket; for a response of the accounting server,
`answers` is the position in the run of the request it answers. -/
structure Accounted where
  datagram : Datagram
  answers : Option Nat

section

variable (rs : RadiusServer)

/-- The server after a run. -/
def accounting : List Accounted → RadiusServer
  | [] => rs
  | x :: h => ((accounting h).handleAccounting x.datagram).1

/-- What is sent on a datagram after a run. -/
def relays (h : List Accounted) (x : Accounted) : List Sendto :=
  ((accounting rs h).handleAccounting x.datagram).2

/-- A response of the accounting server. -/
def FromUpstream (d : Datagram) : Prop :=
  isAcctResponse d ∧ d.src.sinAddr = rs.acctServerAddr.sinAddr

instance (d : Datagram) : Decidable (FromUpstream rs d) := inferInstanceAs (Decidable (_ ∧ _))

/-- `x` answers the Accounting-Request `y`, which was taken after `g` in the run `h`. -/
structure AnswersRequest (h : List Accounted) (x : Accounted) (g : List Accounted)
    (y : Accounted) : Prop where
  taken : (y :: g) <:+ h
  position : x.answers = some g.length
  request : isAcctRequest y.datagram
  id : x.datagram.buffer 1 = y.datagram.buffer 1

/-- The accounting server answers forwarded requests only, with their ids, and
each at most once. -/
def AnswersOnce (h : List Accounted) (x : Accounted) : Prop :=
  FromUpstream rs x.datagram →
    (∃ g y, AnswersRequest h x g y) ∧ ∀ z ∈ h, FromUpstream rs z.datagram → z.answers ≠ x.answers

/-- What the proxy owes a run: whatever it sends on a response goes to the client
whose request that answers, no request has two responses relayed, and none that is
answered goes without. -/
structure Delivers (h : List Accounted) : Prop where
  right : ∀ g x, (x :: g) <:+ h → FromUpstream rs x.datagram → ∀ s ∈ relays rs g x,
    ∃ g' y, AnswersRequest g x g' y ∧ s = ⟨packetOf x.datagram, y.datagram.src⟩
  once : ∀ g x g' x', (x :: g) <:+ h → (x' :: g') <:+ h → FromUpstream rs x.datagram →
    FromUpstream rs x'.datagram → x.answers = x'.answers → g = g' ∧ (relays rs g x).length ≤ 1
  all : ∀ g x, (x :: g) <:+ h → FromUpstream rs x.datagram → relays rs g x ≠ []

/-- An Accounting-Request with this id. -/
def RequestsId (id : UInt8) (d : Datagram) : Prop := isAcctRequest d ∧ d.buffer 1 = id

/-- A packet that changes what is pending for this id. -/
def Touches (id : UInt8) (d : Datagram) : Prop :=
  RequestsId id d ∨ FromUpstream rs d ∧ d.buffer 1 = id

/-- The last packet with this id was an Accounting-Request of this client. -/
def LastFrom (id : UInt8) (client : SockaddrIn) : List Accounted → Prop :=
  Since (fun _ y => RequestsId id y.datagram ∧ y.datagram.src = client)
    (fun _ y => ¬ Touches rs id y.datagram)

end

variable {rs : RadiusServer}

theorem not_request_of_response {d : Datagram} (h : isAcctResponse d) : ¬ isAcctRequest d := by
  intro h'
  have := h.2.symm.trans h'.2
  revert this
  decide

section

variable (h : List Accounted)

/-- No packet changes the accounting server. -/
theorem acctServer_accounting :
    (accounting rs h).acctServerIp = rs.acctServerIp ∧
      (accounting rs h).acctServerAddr = rs.acctServerAddr := by
  induction h with
  | nil => exact ⟨rfl, rfl⟩
  | cons x h ih =>
    rw [← ih.1, ← ih.2, accounting, handleAccounting]
    repeat' split
    all_goals exact ⟨rfl, rfl⟩

@[simp] theorem acctServerIp_accounting : (accounting rs h).acctServerIp = rs.acctServerIp :=
  (acctServer_accounting h).1

@[simp] theorem acctServerAddr_accounting :
    (accounting rs h).acctServerAddr = rs.acctServerAddr :=
  (acctServer_accounting h).2

end

section

variable {h : List Accounted} {d : Datagram} (hip : rs.acctServerIp.isEmpty = false)

include hip

theorem handle_request (hd : isAcctRequest d) :
    ((accounting rs h).handleAccounting d).1.pendingAcctReqs =
      (accounting rs h).pendingAcctReqs.insert (d.buffer 1) d.src := by
  rw [handleAccounting, if_pos hd, acctServerIp_accounting, hip]
  rfl

/-- A response is relayed to the client that its id is pending for. -/
theorem handle_response (hd : FromUpstream rs d) :
    ((accounting rs h).handleAccounting d).1.pendingAcctReqs =
        (accounting rs h).pendingAcctReqs.erase (d.buffer 1) ∧
      ((accounting rs h).handleAccounting d).2 =
        (((accounting rs h).pendingAcctReqs.lookup (d.buffer 1)).map
          fun client => ⟨packetOf d, client⟩).toList := by
  have hc : isAcctResponse d ∧ (!(accounting rs h).acctServerIp.isEmpty) = true ∧
      d.src.sinAddr = (accounting rs h).acctServerAddr.sinAddr := by
    rw [acctServerIp_accounting, acctServerAddr_accounting, hip]
    exact ⟨hd.1, rfl, hd.2⟩
  rw [handleAccounting, if_neg (not_request_of_response hd.1), if_pos hc]
  cases hl : (accounting rs h).pendingAcctReqs.lookup (d.buffer 1) with
  | some client => exact ⟨rfl, rfl⟩
  | none =>
    have hn : d.buffer 1 ∉ (accounting rs h).pendingAcctReqs := AList.lookup_eq_none.mp hl
    refine ⟨AList.ext ?_, rfl⟩
    exact (List.kerase_of_notMem_keys hn).symm

omit hip in
theorem handle_other (hr : ¬ isAcctRequest d) (hu : ¬ FromUpstream rs d) :
    (accounting rs h).handleAccounting d = (accounting rs h, []) := by
  rw [handleAccounting, if_neg hr, if_neg]
  rintro ⟨hd, -, ha⟩
  rw [acctServerAddr_accounting] at ha
  exact hu ⟨hd, ha⟩

/-- The client that an id is pending for sent the last packet with that id. -/
theorem lookup_iff {id : UInt8} {client : SockaddrIn} (hn : rs.pendingAcctReqs = ∅) :
    (accounting rs h).pendingAcctReqs.lookup id = some client ↔ LastFrom rs id client h := by
  induction h with
  | nil => simp [accounting, hn, LastFrom, Since]
  | cons x h ih =>
    rw [accounting, LastFrom, Since, ← LastFrom, ← ih]
    by_cases hr : isAcctRequest x.datagram
    · rw [handle_request hip hr]
      by_cases hid : x.datagram.buffer 1 = id
      · have ht : Touches rs id x.datagram := .inl ⟨hr, hid⟩
        simp [RequestsId, hr, hid, ht]
      · have ht : ¬ Touches rs id x.datagram := by
          rintro (⟨-, h⟩ | ⟨-, h⟩) <;> exact hid h
        rw [AList.lookup_insert_ne (Ne.symm hid)]
        simp [RequestsId, hid, ht]
    by_cases hu : FromUpstream rs x.datagram
    · rw [(handle_response hip hu).1]
      by_cases hid : x.datagram.buffer 1 = id
      · have ht : Touches rs id x.datagram := .inr ⟨hu, hid⟩
        rw [hid, AList.lookup_erase]
        simp [RequestsId, hr, ht]
      · have ht : ¬ Touches rs id x.datagram := by
          rintro (⟨-, h⟩ | ⟨-, h⟩) <;> exact hid h
        rw [AList.lookup_erase_ne (Ne.symm hid)]
        simp [RequestsId, hid, ht]
    · rw [handle_other hr hu]
      have ht : ¬ Touches rs id x.datagram := by
        rintro (⟨h, -⟩ | ⟨h, -⟩)
        · exact hr h
        · exact hu h
      simp [RequestsId, hr, ht]

theorem relays_eq {x : Accounted} (hu : FromUpstream rs x.datagram) :
    relays rs h x = (((accounting rs h).pendingAcctReqs.lookup (x.datagram.buffer 1)).map
      fun client => ⟨packetOf x.datagram, client⟩).toList :=
  (handle_response hip hu).2

end

/-- No two responses of a run answer one request. -/
theorem answered_once {h g g' : List Accounted} {x x' : Accounted}
    (hup : ∀ g x, (x :: g) <:+ h → AnswersOnce rs g x) (ht : (x :: g) <:+ h)
    (ht' : (x' :: g') <:+ h) (hu : FromUpstream rs x.datagram)
    (hu' : FromUpstream rs x'.datagram) (he : x.answers = x'.answers) : g = g' := by
  -- the later of the two would see the other one in its past
  have later {g g' : List Accounted} {x x' : Accounted} (ht : (x :: g) <:+ h)
      (ht' : (x' :: g') <:+ h) (hu : FromUpstream rs x.datagram)
      (hu' : FromUpstream rs x'.datagram) (he : x.answers = x'.answers) :
      ¬ g'.length < g.length := by
    intro hl
    have hlen : (x' :: g').length < (x :: g).length := by
      simp only [List.length_cons]
      omega
    have hs : (x' :: g') <:+ g := by
      have hs := List.suffix_of_suffix_length_le ht' ht (Nat.le_of_lt hlen)
      refine (List.suffix_cons_iff.mp hs).resolve_left fun he => ?_
      rw [he] at hlen
      exact Nat.lt_irrefl _ hlen
    exact (hup g x ht hu).2 x' (hs.subset List.mem_cons_self) hu' he.symm
  have h₁ := later ht ht' hu hu' he
  have h₂ := later ht' ht hu' hu he.symm
  exact (taken_unique ht ht' (by omega)).2

/-- In every run of a proxy whose accounting server answers each forwarded request
at most once and with its id, the proxy delivers exactly if, whenever a response
comes, the last packet with its id was a request of the client it is for. -/
theorem delivers_iff (acctServerIp : Bytes) (memory : SockaddrIn) (h : List Accounted)
    (hip : acctServerIp.isEmpty = false)
    (hup : Throughout (AnswersOnce (.new acctServerIp memory)) h) :
    Delivers (.new acctServerIp memory) h ↔
      ∀ g x g' y, (x :: g) <:+ h → FromUpstream (.new acctServerIp memory) x.datagram →
        AnswersRequest g x g' y →
        LastFrom (.new acctServerIp memory) (x.datagram.buffer 1) y.datagram.src g := by
  have hn : (RadiusServer.new acctServerIp memory).pendingAcctReqs = ∅ := rfl
  generalize hrs : RadiusServer.new acctServerIp memory = rs at *
  have hip : rs.acctServerIp.isEmpty = false := by rwa [← hrs]
  rw [throughout_iff] at hup
  constructor
  · intro hd g x g' y ht hu ha
    rw [← lookup_iff hip hn]
    have hall := hd.all g x ht hu
    have hright := hd.right g x ht hu
    rw [relays_eq hip hu] at hall hright
    cases hl : (accounting rs g).pendingAcctReqs.lookup (x.datagram.buffer 1) with
    | none => rw [hl] at hall; exact absurd rfl hall
    | some client =>
      rw [hl] at hright
      obtain ⟨g'', y', ha', hs⟩ := hright ⟨packetOf x.datagram, client⟩ (by simp)
      obtain ⟨rfl, -⟩ := taken_unique ha.taken ha'.taken
        (Option.some.inj (ha.position.symm.trans ha'.position))
      rw [Sendto.mk.injEq] at hs
      rw [hs.2]
  · intro hc
    have hone (g : List Accounted) (x : Accounted) (ht : (x :: g) <:+ h)
        (hu : FromUpstream rs x.datagram) :
        ∃ g' y, AnswersRequest g x g' y ∧
          relays rs g x = [⟨packetOf x.datagram, y.datagram.src⟩] := by
      obtain ⟨⟨g', y, ha⟩, -⟩ := hup g x ht hu
      have hl := (lookup_iff hip hn).mpr (hc g x g' y ht hu ha)
      exact ⟨g', y, ha, by rw [relays_eq hip hu, hl]; rfl⟩
    refine ⟨fun g x ht hu s hs => ?_, fun g x g' x' ht ht' hu hu' he => ?_, fun g x ht hu => ?_⟩
    · obtain ⟨g', y, ha, hr⟩ := hone g x ht hu
      rw [hr] at hs
      exact ⟨g', y, ha, List.mem_singleton.mp hs⟩
    · obtain ⟨_, _, -, hr⟩ := hone g x ht hu
      exact ⟨answered_once hup ht ht' hu hu' he, by rw [hr]; exact Nat.le_refl 1⟩
    · obtain ⟨_, _, -, hr⟩ := hone g x ht hu
      rw [hr]
      exact List.cons_ne_nil _ _

/-! ## Two clients -/

/-- An accounting packet without attributes. -/
def sampleAcct (code id : UInt8) (src : SockaddrIn) : Datagram where
  n := 20
  buffer := .ofBytes ([code, id, 0, 20] ++ List.replicate 16 0)
  src := src

def sampleProxy : RadiusServer := .new (ascii "10.0.0.9") ⟨9, 1813⟩

/-- A client's request, another client's with the same id, and the response to the first. -/
def firstRequest : Accounted := ⟨sampleAcct 4 7 ⟨1, 1000⟩, none⟩
def secondRequest : Accounted := ⟨sampleAcct 4 7 ⟨2, 2000⟩, none⟩
def firstResponse : Accounted := ⟨sampleAcct 5 7 ⟨9, 1813⟩, some 0⟩

theorem sampleProxy_requests : ¬ FromUpstream sampleProxy firstRequest.datagram ∧
    ¬ FromUpstream sampleProxy secondRequest.datagram := by decide

theorem firstResponse_answers {h : List Accounted} (ht : [firstRequest] <:+ h) :
    AnswersRequest h firstResponse [] firstRequest :=
  ⟨ht, rfl, by decide, by decide⟩

theorem delivers_iff_sample :
    Throughout (AnswersOnce sampleProxy) [firstResponse, firstRequest] ∧
      Delivers sampleProxy [firstResponse, firstRequest] := by
  obtain ⟨hclient, -⟩ := sampleProxy_requests
  have hup : Throughout (AnswersOnce sampleProxy) [firstResponse, firstRequest] := by
    refine ⟨fun _ => ⟨⟨_, _, firstResponse_answers List.suffix_rfl⟩, fun z hz hu => ?_⟩,
      fun hu => absurd hu hclient, trivial⟩
    rw [List.mem_singleton.mp hz] at hu
    exact absurd hu hclient
  refine ⟨hup, (delivers_iff (ascii "10.0.0.9") ⟨9, 1813⟩ _ (by decide) hup).mpr ?_⟩
  intro g x g' y ht hu ha
  rcases List.suffix_cons_iff.mp ht with he | ht
  · obtain ⟨rfl, rfl⟩ := List.cons.inj he
    have hy : y :: g' = [firstRequest] :=
      (List.suffix_cons_iff.mp ha.taken).resolve_right (by simp)
    obtain ⟨rfl, -⟩ := List.cons.inj hy
    exact Since.now ⟨⟨by decide, by decide⟩, rfl⟩
  · have hx : x :: g = [firstRequest] := (List.suffix_cons_iff.mp ht).resolve_right (by simp)
    obtain ⟨rfl, -⟩ := List.cons.inj hx
    exact absurd hu hclient

/-- The response to the first client's request goes to the second client. -/
theorem clash_misdelivered :
    Throughout (AnswersOnce sampleProxy) [firstResponse, secondRequest, firstRequest] ∧
      relays sampleProxy [secondRequest, firstRequest] firstResponse =
        [⟨packetOf firstResponse.datagram, secondRequest.datagram.src⟩] ∧
      ¬ Delivers sampleProxy [firstResponse, secondRequest, firstRequest] := by
  obtain ⟨hfirst, hsecond⟩ := sampleProxy_requests
  have hr : relays sampleProxy [secondRequest, firstRequest] firstResponse =
      [⟨packetOf firstResponse.datagram, secondRequest.datagram.src⟩] := by decide
  have hreq := firstResponse_answers (List.suffix_cons secondRequest [firstRequest])
  refine ⟨⟨fun _ => ⟨⟨_, _, hreq⟩, ?_⟩, fun hu => absurd hu hsecond, fun hu => absurd hu hfirst,
    trivial⟩, hr, fun hd => ?_⟩
  · intro z hz hu
    rcases List.mem_cons.mp hz with rfl | hz
    · exact absurd hu hsecond
    · rw [List.mem_singleton.mp hz] at hu
      exact absurd hu hfirst
  · obtain ⟨g', y, ha, hs⟩ := hd.right _ _ List.suffix_rfl (by decide) _
      (by rw [hr]; exact List.mem_singleton_self _)
    obtain ⟨rfl, -⟩ := taken_unique hreq.taken ha.taken
      (Option.some.inj (hreq.position.symm.trans ha.position))
    exact absurd (congrArg Sendto.dest hs) (by decide)

end Twag.Proof.Receive

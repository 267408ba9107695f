import Twag.Proof.Core.History

/-!
# Which Access-Request a DEA is passed on to

A session has one place for the RADIUS fields and one for the identity, and
every Access-Request writes them. So a response goes to the last Access-Request
for the MAC address, which need not be the one whose DER was answered:

* `correlated_of_inTurn`: if the answers that are waited for come back before
  the next Access-Request, and no other conversation of the same UE comes
  between the requests of one, then each response goes to the Access-Request
  that caused the DER, and the Create Session Request carries the identity of
  that conversation;
* `overlapping_requests`: with two Access-Requests before the first answer, it
  does not.
-/

namespace Twag.Proof.Core

open Twag.Impl Twag.Spec

/-- The IMSI that an EAP conversation has established by the Access-Request at
the head of the history: its own, or that of the request it continues. -/
inductive Identifies : List Input → Bytes → Prop
  | own {g : List Input} {y : Input} {req : AccessRequest} {c : Option Nat}
    (hy : y.event = .accessRequest req c) (hi : req.imsi ≠ []) : Identifies (y :: g) req.imsi
  | continued {g g' : List Input} {y z : Input} {req req' : AccessRequest} {c : Option Nat}
    {imsi : Bytes} (hy : y.event = .accessRequest req (some g'.length)) (hi : req.imsi = [])
    (ht : (z :: g') <:+ g) (hz : z.event = .accessRequest req' c) (hm : req'.macAddr = req.macAddr)
    (hc : Identifies (z :: g') imsi) : Identifies (y :: g) imsi

variable (boot : Boot)

/-- A DEA that answers the DER of an Access-Request is passed on to that
Access-Request, and a Create Session Request that follows carries the IMSI of
its conversation. -/
def Correlated (h : List Input) (x : Input) : Prop :=
  ∀ dea a g y req, x.event = .dea dea a → Answers boot h dea a g y req →
    (∀ r ∈ responses (boot.effects h x), Origin.ofResponse r = Origin.ofRequest req) ∧
      ∀ c ∈ createRequests (boot.effects h x), ∀ imsi, Identifies (y :: g) imsi →
        c.imsiNumberDigits = encodeImsiBcd imsi

/-- The step at position `i` is the Access-Request `req`, and since then its
session has been stored and no other Access-Request for the MAC address has
come, only repetitions of this one. -/
def Current (req : AccessRequest) (i : Nat) : List Input → Prop :=
  Since (fun g y => g.length = i ∧ (∃ c, y.event = .accessRequest req c) ∧
      Stored boot req.macAddr (y :: g))
    (fun g y =>
      (∀ req' c, y.event = .accessRequest req' c → req'.macAddr = req.macAddr → req' = req) ∧
        Stored boot req.macAddr (y :: g))

/-- Requests and answers take turns: an Access-Request that relies on the
identity of the one it continues, and an answer that is waited for, come while
that Access-Request is the current one for the MAC address. -/
def InTurn (h : List Input) (x : Input) : Prop :=
  (∀ req g y req' c imsi, x.event = .accessRequest req (some g.length) → req.imsi = [] →
      (y :: g) <:+ h → y.event = .accessRequest req' c → req'.macAddr = req.macAddr →
      Identifies (y :: g) imsi → Current boot req' g.length h) ∧
    ∀ dea a g y req s, x.event = .dea dea a → Answers boot h dea a g y req →
      (boot.after h).getSession dea.macAddr = some s → s.state = .authPending →
      Current boot req g.length h

variable {boot} {h : List Input} {req : AccessRequest} {i : Nat}

theorem Current.stored (hc : Current boot req i h) : Stored boot req.macAddr h := by
  cases h with
  | nil => exact hc.elim
  | cons x h =>
    rcases hc with hx | ⟨hx, -⟩
    · exact hx.2.2
    · exact hx.2

/-- An Access-Request that gives an IMSI identifies its conversation by it. -/
theorem Identifies.own_eq {g : List Input} {y : Input} {c : Option Nat} {imsi : Bytes}
    (hid : Identifies (y :: g) imsi) (hy : y.event = .accessRequest req c) (hi : req.imsi ≠ []) :
    imsi = req.imsi := by
  cases hid with
  | own hy' hi' => cases hy.symm.trans hy'; rfl
  | continued hy' hi' => cases hy.symm.trans hy'; exact absurd hi' hi

/-- The session has the identity of the conversation of the request at position `i`. -/
def HasIdentity (h : List Input) (i : Nat) {m : Bytes} (s : UeSession m) : Prop :=
  ∀ g y imsi, (y :: g) <:+ h → g.length = i → Identifies (y :: g) imsi → s.imsi = imsi

/-- A new request, written to a session: it is the current one. -/
theorem hasIdentity_now {x : Input} {c : Option Nat} {m : Bytes} {s₀ : UeSession m}
    (st : SessionState) (hx : x.event = .accessRequest req c)
    (hs₀ : ∀ g y req' c' imsi, c = some g.length → req.imsi = [] → (y :: g) <:+ h →
      y.event = .accessRequest req' c' → req'.macAddr = req.macAddr → Identifies (y :: g) imsi →
      s₀.imsi = imsi) :
    HasIdentity (x :: h) h.length ({ withRequest s₀ req with state := st } : UeSession m) := by
  intro g y imsi ht hl hid
  obtain ⟨rfl, rfl⟩ := taken_unique ht (List.suffix_rfl : (x :: h) <:+ (x :: h)) hl
  rw [imsi_withRequest]
  cases hid with
  | own hy hi =>
    cases hx.symm.trans hy
    rw [if_neg (by simpa using hi)]
  | continued hy hi ht' hz hm hc =>
    cases hx.symm.trans hy
    rw [if_pos (by simp [hi])]
    exact hs₀ _ _ _ _ _ rfl hi ht' hz hm hc

/-- A repetition of the current request changes neither of the two. -/
theorem hasIdentity_again {x : Input} {m : Bytes} {s₀ : UeSession m} (st : SessionState)
    (hlt : i < h.length)
    (hreq : ∀ g y, (y :: g) <:+ h → g.length = i → ∃ c, y.event = .accessRequest req c)
    (hs₀ : HasIdentity h i s₀) :
    HasIdentity (x :: h) i ({ withRequest s₀ req with state := st } : UeSession m) := by
  intro g y imsi ht hl hid
  rcases List.suffix_cons_iff.mp ht with he | ht
  · cases he
    omega
  · rw [imsi_withRequest]
    split
    · exact hs₀ g y imsi ht hl hid
    · rename_i hi
      obtain ⟨c, hy⟩ := hreq g y ht hl
      exact (hid.own_eq hy (by simpa using hi)).symm

theorem HasIdentity.later {x : Input} {m : Bytes} {s s₀ : UeSession m} (hlt : i < h.length)
    (hs₀ : HasIdentity h i s₀) (hi : s.imsi = s₀.imsi) : HasIdentity (x :: h) i s := by
  intro g y imsi ht hl hid
  rcases List.suffix_cons_iff.mp ht with he | ht
  · cases he
    omega
  · rw [hi]
    exact hs₀ g y imsi ht hl hid

theorem Current.request (hc : Current boot req i h) (g : List Input) (y : Input)
    (ht : (y :: g) <:+ h) (hl : g.length = i) : ∃ c, y.event = .accessRequest req c := by
  obtain ⟨g', y', ht', hl', hy', -⟩ := hc.taken
  obtain ⟨rfl, rfl⟩ := taken_unique ht ht' (hl.trans hl'.symm)
  exact hy'

/-- As long as requests take turns, the session holds the RADIUS fields of the
current request and the identity of its conversation. -/
theorem Current.held {m : Bytes} {s : UeSession m} (ht : Throughout (InTurn boot) h)
    (hc : Current boot req i h) (hm : req.macAddr = m)
    (hs : (boot.after h).getSession m = some s) :
    Origin.ofSession s = Origin.ofRequest req ∧ HasIdentity h i s := by
  induction hs using stored_induction generalizing req i with
  | reacts h x e s₀ s hs hd hs₀ hr he ih =>
    obtain ⟨⟨hreq, -⟩, ht⟩ := ht
    rcases hc with ⟨rfl, ⟨c, hx⟩, -⟩ | ⟨⟨hrep, -⟩, hc⟩
    · -- the request itself
      simp only [deliver, hx, Option.some.injEq, Prod.mk.injEq] at hd
      obtain ⟨-, rfl⟩ := hd
      rcases react_request hr with ⟨req', st, hq, rfl⟩ | ⟨hne, -⟩
      · cases hq
        refine ⟨origin_withRequest s₀ req st, hasIdentity_now st hx ?_⟩
        rintro g y req' c' imsi rfl hem hty hy hm' hid
        have hcur := hreq req g y req' c' imsi hx hem hty hy hm' hid
        exact (ih ht hcur (hm'.trans hm)).2 g y imsi hty rfl hid
      · exact absurd rfl (hne req)
    · -- a later step
      have hcur : Current boot req i h := hc
      have hlt : i < h.length := Since.lt_length hc
      obtain ⟨ho, hid⟩ := ih ht hcur hm
      rcases react_request hr with ⟨req', st, rfl, rfl⟩ | ⟨-, ho', hi'⟩
      · obtain ⟨c', hx', hm'⟩ := deliver_accessRequest hd
        obtain rfl := hrep req' c' hx' (hm'.trans hm.symm)
        exact ⟨origin_withRequest s₀ req' st, hasIdentity_again st hlt hcur.request hid⟩
      · exact ⟨ho'.trans ho, hid.later hlt hi'⟩
  | attaches h x req₀ c₀ s hs hx hm₀ hn hcount hr he =>
    -- a session that is still stored is not new
    have not_stored {req' : AccessRequest} {j : Nat} (hm' : req'.macAddr = m) :
        ¬ Current boot req' j h := fun hcur => not_stored_iff.mpr hn (hm' ▸ hcur.stored)
    rcases hc with ⟨rfl, ⟨c, hx'⟩, -⟩ | ⟨-, hc⟩
    · cases hx.symm.trans hx'
      rcases react_request hr with ⟨req', st, hq, rfl⟩ | ⟨hne, -⟩
      · cases hq
        refine ⟨origin_withRequest _ req₀ st, hasIdentity_now st hx ?_⟩
        rintro g y req' c' imsi rfl hem hty hy hm' hid
        have hcur := ht.1.1 req₀ g y req' c' imsi hx hem hty hy hm' hid
        exact absurd hcur (not_stored (hm'.trans hm))
      · exact absurd rfl (hne req₀)
    · exact absurd hc (not_stored hm)
  | keeps h x s hs hs₀ hd ih =>
    rcases hc with ⟨-, ⟨c, hx⟩, -⟩ | ⟨-, hc⟩
    · exact absurd (by simp only [deliver, hx, hm]) (hd (.accessRequest req))
    · obtain ⟨ho, hid⟩ := ih ht.2 hc hm
      exact ⟨ho, hid.later (Since.lt_length hc) rfl⟩

theorem origin_response (o : Origin) (code : UInt8) (eap : Bytes) :
    Origin.ofResponse (o.response code eap) = o := rfl

theorem correlated_step {x : Input} (ht : Throughout (InTurn boot) h) (hx : InTurn boot h x) :
    Correlated boot h x := by
  intro dea a g y req hxe ha
  have hd : deliver (boot.after h) x = some (dea.macAddr, .dea dea) := by simp only [deliver, hxe]
  cases hs : (boot.after h).getSession dea.macAddr with
  | none =>
    have he : boot.effects h x = [] := (step_absent hd hs (by simp)).2
    simp [he, responses, createRequests]
  | some s =>
    have he : boot.effects h x = (react boot.config x.env s (.dea dea)).effects := by
      rw [← config_after boot h]
      exact (step_stored hd hs).1
    rw [he, responses_react, respond]
    by_cases hp : s.state = .authPending
    · have hc := hx.2 dea a g y req s hxe ha hs hp
      obtain ⟨ho, hid⟩ := hc.held ht ha.mac.symm hs
      constructor
      · intro r hr
        rw [if_pos hp, List.mem_singleton] at hr
        rw [hr, origin_response]
        exact ho
      · intro csr hcsr imsi hid'
        obtain ⟨dest, ok, hcsr⟩ := mem_createRequests.mp hcsr
        obtain ⟨dea', hq, -, -, rfl, -⟩ := createRequest_react hcsr
        have hi : s.imsi = imsi := hid g y imsi ha.taken rfl hid'
        rw [← hi]
        rfl
    · rw [if_neg hp]
      refine ⟨by simp, fun csr hcsr => ?_⟩
      obtain ⟨dest, ok, hcsr⟩ := mem_createRequests.mp hcsr
      obtain ⟨-, -, hp', -⟩ := createRequest_react hcsr
      exact absurd hp' hp

/-- In every run whose requests and answers take turns, every response goes to
the Access-Request whose DER was answered, and every Create Session Request
carries the identity of that conversation. -/
theorem correlated_of_inTurn (boot : Boot) (h : List Input) (ht : Throughout (InTurn boot) h) :
    Throughout (Correlated boot) h := by
  induction h with
  | nil => trivial
  | cons x h ih => exact ⟨correlated_step ht.2 ht.1, ih ht.2⟩

/-- The position an event points back to, as an answer or as the next round. -/
def pointsTo : Event → Option Nat
  | .accessRequest _ c => c
  | .dea _ a => a
  | _ => none

/-- A step is in turn if the Access-Request it points back to is the current one. -/
theorem inTurn_of_current {x : Input}
    (hc : ∀ i, pointsTo x.event = some i → ∃ req, Current boot req i h) : InTurn boot h x := by
  constructor
  · rintro req g y req' c imsi hx - ht hy - -
    obtain ⟨req₀, hc⟩ := hc g.length (by rw [hx]; rfl)
    obtain ⟨c', hy'⟩ := hc.request g y ht rfl
    cases hy.symm.trans hy'
    exact hc
  · rintro dea a g y req s hx ha - -
    obtain ⟨req₀, hc⟩ := hc g.length (by rw [hx]; exact ha.position)
    obtain ⟨c', hy'⟩ := hc.request g y ha.taken rfl
    obtain ⟨c, hy⟩ := ha.request
    cases hy.symm.trans hy'
    exact hc

/-- Two rounds of one conversation: the second request leaves out the identity. -/
def sampleRounds : List Input :=
  [sampleAt 40 (.dea (sampleDea 2001) (some 2)),
    sampleAt 30 (.accessRequest (sampleRequest 2 []) (some 0)),
    sampleAt 20 (.dea (sampleDea 1001) (some 0)), sampleAt 10 sampleAttach]

theorem correlated_of_inTurn_sample :
    Throughout (InTurn sampleBoot) sampleRounds ∧
      Throughout (Correlated sampleBoot) sampleRounds := by
  have ht : Throughout (InTurn sampleBoot) sampleRounds := by
    refine ⟨inTurn_of_current ?_, inTurn_of_current ?_, inTurn_of_current ?_, inTurn_of_current ?_,
      trivial⟩
    · rintro i ⟨⟩
      exact ⟨sampleRequest 2 [], Or.inl ⟨rfl, ⟨some 0, rfl⟩, by decide⟩⟩
    · rintro i ⟨⟩
      exact ⟨sampleRequest 1 (ascii "001010000000001"),
        Or.inr ⟨⟨nofun, by decide⟩, Or.inl ⟨rfl, ⟨none, rfl⟩, by decide⟩⟩⟩
    · rintro i ⟨⟩
      exact ⟨sampleRequest 1 (ascii "001010000000001"), Or.inl ⟨rfl, ⟨none, rfl⟩, by decide⟩⟩
    · rintro i ⟨⟩
  exact ⟨ht, correlated_of_inTurn sampleBoot sampleRounds ht⟩

/-- Two Access-Requests of one UE, of two conversations, before the first answer. -/
def sampleOverlap : List Input :=
  [sampleAt 20 (.accessRequest (sampleRequest 2 (ascii "001010000000002")) none),
    sampleAt 10 sampleAttach]

/-- The answer to the DER of the first of them. -/
def sampleFirstAnswer : Input := sampleAt 30 (.dea (sampleDea 2001) (some 0))

theorem sampleOverlap_answers :
    Answers sampleBoot sampleOverlap (sampleDea 2001) (some 0) [] (sampleAt 10 sampleAttach)
      (sampleRequest 1 (ascii "001010000000001")) where
  taken := ⟨[_], rfl⟩
  position := rfl
  request := ⟨none, rfl⟩
  sent := ⟨derOf (sampleEnv 10) sampleBoot.config sampleMac [2, 1, 0, 4], by decide, rfl⟩

/-- The answer to the first of two Access-Requests is passed on to the second,
and the session is requested for the identity of the second. -/
theorem overlapping_requests :
    ¬ Correlated sampleBoot sampleOverlap sampleFirstAnswer ∧
      (responses (sampleBoot.effects sampleOverlap sampleFirstAnswer)).map RadiusResponse.id = [2] ∧
      (createRequests (sampleBoot.effects sampleOverlap sampleFirstAnswer)).map
        CreateSessReq.imsiNumberDigits = [encodeImsiBcd (ascii "001010000000002")] := by
  have hr : (responses (sampleBoot.effects sampleOverlap sampleFirstAnswer)).map RadiusResponse.id =
    [2] := by decide
  have hc : (createRequests (sampleBoot.effects sampleOverlap sampleFirstAnswer)).map
    CreateSessReq.imsiNumberDigits = [encodeImsiBcd (ascii "001010000000002")] := by decide
  refine ⟨fun hcorr => ?_, hr, hc⟩
  have h2 : (2 : UInt8) ∈ [2] := List.mem_singleton_self 2
  rw [← hr] at h2
  obtain ⟨r, hmem, hid⟩ := List.mem_map.mp h2
  have ho := (hcorr _ _ _ _ _ rfl sampleOverlap_answers).1 r hmem
  have h1 : r.id = 1 := congrArg Origin.id ho
  rw [h1] at hid
  exact absurd hid (by decide)

end Twag.Proof.Core

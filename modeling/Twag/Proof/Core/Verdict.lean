import Twag.Proof.Core.History

/-!
# How often an Access-Request is answered

A response is sent for the Access-Request whose RADIUS fields the session
holds, the last one for the MAC address (`addressed`). Whether it has been
answered before is not recorded; only the state of the session keeps a second
answer back:

* `verdicts`: every response goes to one Access-Request, and is the only one of
  its step. Where two final responses go to the same Access-Request, the first
  was sent by `on_dea_received`; unless that left the session in AUTH_PENDING,
  it was the Access-Accept, and the second is the Access-Reject of the S2a
  timer;
* `accept_then_reject`: and that happens, if the P-GW does not answer.
-/

namespace Twag.Proof.Core

open Twag.Impl Twag.Spec

variable (boot : Boot) (m : Bytes)

/-- The step at position `i` is the last Access-Request for `m`. -/
def LastRequest (i : Nat) : List Input → Prop :=
  Since (fun g y => g.length = i ∧ Requests m y) (fun _ y => ¬ Requests m y)

/-- A response of step `x` is for the Access-Request at position `i`: an
Access-Request itself, or else the last one for the session the event is for. -/
def Addressed (h : List Input) (x : Input) (i : Nat) : Prop :=
  (∃ req c, x.event = .accessRequest req c ∧ i = h.length) ∨
    ∃ m e, deliver (boot.after h) x = some (m, e) ∧ (∀ req, e ≠ .accessRequest req) ∧
      LastRequest m i h

/-- An Access-Accept or an Access-Reject. -/
def Final (r : RadiusResponse) : Prop := r.code = accessAccept ∨ r.code = accessReject

/-- Step `x` sends the final response `r` to the Access-Request at position `i`. -/
def Settles (h : List Input) (x : Input) (i : Nat) (r : RadiusResponse) : Prop :=
  r ∈ responses (boot.effects h x) ∧ Final r ∧ Addressed boot h x i

variable {boot m} {h g : List Input} {x y : Input} {i : Nat} {r : RadiusResponse}

/-! ## The responses of one step -/

/-- Which Access-Requests are answered at once. -/
theorem response_request {req : AccessRequest} {c : Option Nat}
    (hx : x.event = .accessRequest req c) (hr : r ∈ responses (boot.effects h x)) :
    ¬ Stored boot req.macAddr (x :: h) ∧ Origin.ofResponse r = Origin.ofRequest req ∧
      (responses (boot.effects h x)).length ≤ 1 := by
  cases view_after boot h x req.macAddr with
  | reacts e s hd hs hg he =>
    simp only [deliver, hx, Option.some.injEq, Prod.mk.injEq, true_and] at hd
    subst hd
    rw [Boot.effects, he, responses_react] at hr
    cases hr
  | attaches req' c' hx' hm hn hc hg he =>
    rw [Boot.effects, he, responses_react] at hr
    cases hr
  | refuses req' c' hx' hm hn hc hg he =>
    cases hx.symm.trans hx'
    rw [Boot.effects, he] at hr ⊢
    rw [Stored, Boot.after, hg]
    obtain rfl := List.mem_singleton.mp hr
    exact ⟨Bool.false_ne_true, rfl, Nat.le_refl 1⟩
  | keeps hd hg => exact absurd ⟨req, c, hx, rfl⟩ (not_requests hd)

/-- Which other events are answered, and how. -/
theorem response_deliver {e : UeEvent} (hd : deliver (boot.after h) x = some (m, e))
    (he : ∀ req, e ≠ .accessRequest req) (hr : r ∈ responses (boot.effects h x)) :
    ∃ s, (boot.after h).getSession m = some s ∧ responses (boot.effects h x) = [r] ∧
      Origin.ofResponse r = Origin.ofSession s ∧
      ((∃ dea, e = .dea dea ∧ s.state = .authPending ∧ r.code = (passedOn dea).1) ∨
        (e = .timeout ∧ s.state = .gtpCreatePending ∧ r.code = accessReject)) := by
  cases hs : (boot.after h).getSession m with
  | none =>
    rw [Boot.effects, (step_absent hd hs he).2] at hr
    cases hr
  | some s =>
    have hresp : responses (boot.effects h x) = respond s e := by
      rw [Boot.effects, (step_stored hd hs).1, responses_react]
    rw [hresp] at hr ⊢
    exact ⟨s, rfl, mem_respond hr⟩

/-! ## Which Access-Request a response is for -/

/-- A stored session has a last Access-Request, and holds its RADIUS fields. -/
theorem last_request {s : UeSession m} (hs : (boot.after h).getSession m = some s) :
    ∃ i, LastRequest m i h ∧ ∃ g y req c, (y :: g) <:+ h ∧ g.length = i ∧
      y.event = .accessRequest req c ∧ Origin.ofSession s = Origin.ofRequest req := by
  obtain ⟨i, hi⟩ := (requested h hs).position
  refine ⟨i, hi.imp (fun _ _ hy => ⟨hy.1, hy.2.1⟩) (fun _ _ hy => hy), ?_⟩
  obtain ⟨g, y, ht, hl, ⟨req, c, hy, -⟩, ho⟩ := hi.taken
  exact ⟨g, y, req, c, ht, hl, hy, ho req c hy⟩

/-- Every response is for one Access-Request, whose client address, id and
authenticator it carries, and is the only one of its step. -/
theorem addressed (hr : r ∈ responses (boot.effects h x)) :
    responses (boot.effects h x) = [r] ∧ ∃ i, Addressed boot h x i ∧
      ∃ g y req c, (y :: g) <:+ (x :: h) ∧ g.length = i ∧ y.event = .accessRequest req c ∧
        Origin.ofResponse r = Origin.ofRequest req := by
  by_cases hq : ∃ req c, x.event = .accessRequest req c
  · obtain ⟨req, c, hx⟩ := hq
    obtain ⟨-, ho, hl⟩ := response_request hx hr
    refine ⟨?_, h.length, .inl ⟨req, c, hx, rfl⟩, h, x, req, c, List.suffix_rfl, rfl, hx, ho⟩
    obtain ⟨r', hr'⟩ := List.length_eq_one_iff.mp
      (Nat.le_antisymm hl (List.length_pos_of_mem hr))
    rw [hr'] at hr ⊢
    rw [List.mem_singleton.mp hr]
  · cases hd : deliver (boot.after h) x with
    | none =>
      have he := (step_ignored (boot.after h) x (by rw [hd]; intro _ _ h; cases h)).2
      rw [Boot.effects, he] at hr
      cases hr
    | some target =>
      obtain ⟨m, e⟩ := target
      have he : ∀ req, e ≠ .accessRequest req := by
        rintro req rfl
        obtain ⟨c, hx, -⟩ := deliver_accessRequest hd
        exact hq ⟨req, c, hx⟩
      obtain ⟨s, hs, h1, ho, -⟩ := response_deliver hd he hr
      obtain ⟨i, hl, g, y, req, c, ht, hi, hy, ho'⟩ := last_request hs
      exact ⟨h1, i, .inr ⟨m, e, hd, he, hl⟩, g, y, req, c, ht.trans (List.suffix_cons x h), hi, hy,
        ho.trans ho'⟩

/-! ## What comes after a response -/

/-- A session that waits for no answer. -/
def Resolved (boot : Boot) (m : Bytes) (h : List Input) : Prop :=
  ∀ s, (boot.after h).getSession m = some s → s.state = .gtpCreatePending ∨ s.state = .connected

theorem absent_step (hx : ¬ Requests m x) (hn : ¬ Stored boot m h) : ¬ Stored boot m (x :: h) := by
  rw [not_stored_iff] at hn ⊢
  cases view_after boot h x m with
  | reacts e s hd hs => rw [hn] at hs; cases hs
  | attaches req c hxe hm => exact absurd ⟨req, c, hxe, hm⟩ hx
  | refuses req c hxe hm => exact absurd ⟨req, c, hxe, hm⟩ hx
  | keeps hd hg => rw [Boot.after, hg, hn]

/-- Only an Access-Request makes a session wait for an answer. -/
theorem resolved_step (hx : ¬ Requests m x) (hr : Resolved boot m h) :
    Resolved boot m (x :: h) := by
  intro s hs
  cases view_after boot h x m with
  | reacts e s₀ hd hs₀ hg he =>
    cases moves (hg.symm.trans hs) with
    | stays hst => rw [hst]; exact hr s₀ hs₀
    | asks req hq =>
      subst hq
      obtain ⟨c, hxe, hm⟩ := deliver_accessRequest hd
      exact absurd ⟨req, c, hxe, hm⟩ hx
    | accepts dea hq hc hp hst => exact .inl hst
    | connects _ _ _ _ _ hst => exact .inr hst
  | attaches req c hxe hm => exact absurd ⟨req, c, hxe, hm⟩ hx
  | refuses req c hxe hm => exact absurd ⟨req, c, hxe, hm⟩ hx
  | keeps hd hg => exact hr s (hg.symm.trans hs)

/-- One position is the last Access-Request of one MAC address. -/
theorem LastRequest.mac_unique {m' : Bytes} (hl : LastRequest m i g) (hl' : LastRequest m' i h)
    (ht : g <:+ h) : m = m' := by
  obtain ⟨g₁, y₁, ht₁, hi₁, req, c, hy, rfl⟩ := hl.taken
  obtain ⟨g₂, y₂, ht₂, hi₂, req', c', hy', rfl⟩ := hl'.taken
  obtain ⟨rfl, rfl⟩ := taken_unique (ht₁.trans ht) ht₂ (hi₁.trans hi₂.symm)
  cases hy.symm.trans hy'
  rfl

/-- What a later final response to the same Access-Request is. -/
theorem later_response {g' : List Input} {x' : Input} {r' : RadiusResponse}
    (ht : (x :: g) <:+ g') (hl : LastRequest m i g') (hi : i ≤ g.length)
    {e' : UeEvent} (hd' : deliver (boot.after g') x' = some (m, e'))
    (he' : ∀ req, e' ≠ .accessRequest req) (hr' : r' ∈ responses (boot.effects g' x'))
    (hres : Resolved boot m (x :: g)) :
    Stored boot m (x :: g) ∧ x'.event = .timer ∧ r'.code = accessReject := by
  obtain ⟨s', hs', -, -, hcase⟩ := response_deliver hd' he' hr'
  have hi' : i < (x :: g).length := by rw [List.length_cons]; omega
  have hres' : Resolved boot m g' :=
    Since.kept (Resolved boot m) hl (fun _ _ hn hp => resolved_step hn hp) ht hi' hres
  refine ⟨?_, ?_⟩
  · by_contra hns
    have hns' : ¬ Stored boot m g' :=
      Since.kept (fun g => ¬ Stored boot m g) hl (fun _ _ hn hp => absent_step hn hp) ht hi' hns
    exact hns' (stored_of_eq hs')
  · rcases hcase with ⟨dea, rfl, hp, -⟩ | ⟨rfl, -, hc⟩
    · rcases hres' s' hs' with hst | hst <;> exact absurd (hst.symm.trans hp) (by decide)
    · exact ⟨(deliver_timeout hd').1, hc⟩

/-- A final response of `on_dea_received` leaves the session waiting for an
answer, or it is an Access-Accept and the session waits for the P-GW. -/
theorem verdict_dea {dea : Dea} {s : UeSession m}
    (hd : deliver (boot.after h) x = some (m, .dea dea))
    (hs : (boot.after h).getSession m = some s) (hp : s.state = .authPending)
    (hc : r.code = (passedOn dea).1) (hf : Final r) :
    (∃ s', (boot.after (x :: h)).getSession m = some s' ∧ s'.state = .authPending) ∨
      r.code = accessAccept ∧ Resolved boot m (x :: h) := by
  have hg : (boot.after (x :: h)).getSession m = (onAnswer boot.config x.env s dea).session := by
    rw [Boot.after, (step_stored hd hs).getSession hs, config_after, react, if_pos hp]
  cases onAnswer_cases boot.config x.env s dea with
  | challenged hrc ho =>
    have hch : r.code = accessChallenge := by rw [hc, passedOn, if_pos hrc]
    rcases hf with hf | hf <;> exact absurd (hch.symm.trans hf) (by decide)
  | accepted dest hrc ho =>
    refine .inr ⟨?_, fun s' hs' => ?_⟩
    · rw [hc, passedOn, if_neg (by rw [hrc]; decide), if_pos hrc]
    · rw [hg, ho] at hs'
      cases hs'
      exact .inl rfl
  | unsent effects hrc hn ho =>
    rw [ho] at hg
    exact .inl ⟨_, hg, hp⟩
  | rejected hrc ho =>
    rw [ho] at hg
    exact .inl ⟨_, hg, hp⟩

/-- In every run, each response goes to one Access-Request and is the only one
of its step; and where two final responses go to the same Access-Request, the
first was sent by `on_dea_received`, and either left the session in
AUTH_PENDING, or was the Access-Accept that the S2a timer takes back. -/
theorem verdicts (boot : Boot) (h : List Input) :
    (∀ g x r, (x :: g) <:+ h → r ∈ responses (boot.effects g x) →
      responses (boot.effects g x) = [r] ∧ ∃ i, Addressed boot g x i ∧
        ∃ g₀ y req c, (y :: g₀) <:+ (x :: g) ∧ g₀.length = i ∧ y.event = .accessRequest req c ∧
          Origin.ofResponse r = Origin.ofRequest req) ∧
    ∀ g x r g' x' r' i, (x :: g) <:+ g' → (x' :: g') <:+ h →
      Settles boot g x i r → Settles boot g' x' i r' →
      ∃ dea a, x.event = .dea dea a ∧
        ((∃ s, (boot.after (x :: g)).getSession dea.macAddr = some s ∧ s.state = .authPending) ∨
          r.code = accessAccept ∧ x'.event = .timer ∧ r'.code = accessReject) := by
  refine ⟨fun g x r _ hr => addressed hr, ?_⟩
  rintro g x r g' x' r' i ht - ⟨hr, hf, ha⟩ ⟨hr', -, ha'⟩
  -- the second is no refusal, since it is for an earlier Access-Request
  have hlen : i < g'.length := by
    have hle := ht.length_le
    rw [List.length_cons] at hle
    rcases ha with ⟨-, -, -, rfl⟩ | ⟨m, e, -, -, hl⟩
    · omega
    · have := Since.lt_length hl
      omega
  rcases ha' with ⟨-, -, -, rfl⟩ | ⟨m, e', hd', he', hl'⟩
  · omega
  rcases ha with ⟨req, c, hx, rfl⟩ | ⟨m₁, e, hd, he, hl⟩
  · -- a refused UE has no session until its next Access-Request
    obtain ⟨hns, -⟩ := response_request hx hr
    obtain ⟨g₀, y, ht₀, hi₀, req₀, c₀, hy, rfl⟩ := hl'.taken
    obtain ⟨rfl, rfl⟩ := taken_unique ht₀ ht hi₀
    cases hx.symm.trans hy
    have hres : Resolved boot req.macAddr (y :: g₀) := by
      intro s hs
      exact absurd (stored_of_eq hs) hns
    exact absurd (later_response ht hl' (Nat.le_refl _) hd' he' hr' hres).1 hns
  · obtain rfl := hl.mac_unique hl' ((List.suffix_cons x g).trans ht)
    have hi : i ≤ g.length := (Since.lt_length hl).le
    obtain ⟨s, hs, -, -, ⟨dea, rfl, hp, hc⟩ | ⟨rfl, hp, -⟩⟩ := response_deliver hd he hr
    · obtain ⟨a, hx, rfl⟩ := deliver_dea hd
      refine ⟨dea, a, hx, ?_⟩
      rcases verdict_dea hd hs hp hc hf with hst | ⟨hacc, hres⟩
      · exact .inl hst
      · exact .inr ⟨hacc, (later_response ht hl' hi hd' he' hr' hres).2⟩
    · -- the timer has removed the session
      have hn : (boot.after (x :: g)).getSession m₁ = none := by
        rw [Boot.after, (step_stored hd hs).getSession hs, react, if_pos hp]
      have hres : Resolved boot m₁ (x :: g) := by
        intro s' hs'
        rw [hn] at hs'
        cases hs'
      have hst := (later_response ht hl' hi hd' he' hr' hres).1
      exact absurd hst (not_stored_iff.mpr hn)

/-- The DEA of the sample UE's first Access-Request. -/
def sampleAccept : Input := sampleAt 20 (.dea (sampleDea 2001) (some 0))

/-- An Access-Request is accepted, and rejected when the P-GW has not answered
for 3 s. -/
theorem accept_then_reject :
    ∃ r r', Settles sampleBoot [sampleAt 10 sampleAttach] sampleAccept 0 r ∧ r.code = accessAccept ∧
      Settles sampleBoot [sampleAccept, sampleAt 10 sampleAttach] (sampleAt 3020 .timer) 0 r' ∧
      r'.code = accessReject ∧ Origin.ofResponse r = Origin.ofResponse r' := by
  have hr : (Origin.ofRequest (sampleRequest 1 [])).response accessAccept [] ∈
    responses (sampleBoot.effects [sampleAt 10 sampleAttach] sampleAccept) := by decide
  have hr' : (Origin.ofRequest (sampleRequest 1 [])).response accessReject [] ∈
    responses (sampleBoot.effects [sampleAccept, sampleAt 10 sampleAttach]
      (sampleAt 3020 .timer)) := by decide
  refine ⟨_, _, ⟨hr, .inl rfl, ?_⟩, rfl, ⟨hr', .inr rfl, ?_⟩, rfl, rfl⟩
  · exact .inr ⟨sampleMac, .dea (sampleDea 2001), rfl, nofun, Or.inl ⟨rfl, _, _, rfl, rfl⟩⟩
  · refine .inr ⟨sampleMac, .timeout, rfl, nofun, Or.inr ⟨?_, Or.inl ⟨rfl, _, _, rfl, rfl⟩⟩⟩
    rintro ⟨req, c, hx, -⟩
    cases hx

end Twag.Proof.Core

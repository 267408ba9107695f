import Twag.Proof.Core.Handshake

/-!
# The life of a session

A session is known by its MAC address for as long as it is stored; the next
session of that MAC address is another one. `InLife` speaks of the steps since
the session that is stored now was created:

* `inLife_cons`: what a step adds to a life;
* `callsFor_kernel`: the calls for the kernel in a life are those that
  `kernelReact` says;
* `createSent_inLife`: a session that waits for the P-GW, or is connected, has
  sent a Create Session Request in its life;
* `connected_since`: a connected session has what the response that has
  connected it gave it.
-/

namespace Twag.Proof.Core

open Twag.Impl Twag.Spec

variable (boot : Boot) (m : Bytes)

/-- In the life of the session that `m` has now, a step satisfied `p`. -/
def InLife (p : List Input → Input → Prop) : List Input → Prop :=
  Since (fun g y => p g y ∧ Stored boot m (y :: g)) (fun g y => Stored boot m (y :: g))

/-- The step makes the call `a` for the session of `m`. -/
def CallsFor (a : Effect) (h : List Input) (x : Input) : Prop :=
  (∃ e, deliver (boot.after h) x = some (m, e)) ∧ a ∈ boot.effects h x

variable {boot m} {p : List Input → Input → Prop} {h : List Input} {x : Input} {a : Effect}

theorem not_inLife (hn : (boot.after h).getSession m = none) : ¬ InLife boot m p h := by
  intro hl
  cases h with
  | nil => exact hl
  | cons x h =>
    rcases hl with ⟨-, hs⟩ | ⟨hs, -⟩
    · exact not_stored_iff.mpr hn hs
    · exact not_stored_iff.mpr hn hs

theorem inLife_cons (hs : Stored boot m (x :: h)) :
    InLife boot m p (x :: h) ↔ p h x ∨ InLife boot m p h := by
  constructor
  · rintro (⟨hp, -⟩ | ⟨-, hl⟩)
    · exact .inl hp
    · exact .inr hl
  · rintro (hp | hl)
    · exact .now ⟨hp, hs⟩
    · exact .later hs hl

theorem InLife.imp {p' : List Input → Input → Prop}
    (hp : ∀ g y, Stored boot m (y :: g) → p g y → p' g y) (hl : InLife boot m p h) :
    InLife boot m p' h :=
  Since.imp (fun g y hy => ⟨hp g y hy.2 hy.1, hy.2⟩) (fun _ _ hq => hq) hl

theorem InLife.exists {α : Type} {p : α → List Input → Input → Prop}
    (hl : InLife boot m (fun g y => ∃ t, p t g y) h) : ∃ t, InLife boot m (p t) h := by
  induction h with
  | nil => exact hl.elim
  | cons x h ih =>
    rcases hl with ⟨⟨t, ht⟩, hs⟩ | ⟨hs, hl⟩
    · exact ⟨t, .now ⟨ht, hs⟩⟩
    · obtain ⟨t, ht⟩ := ih hl
      exact ⟨t, .later hs ht⟩

/-- A call for the kernel is made by a stored session. -/
theorem callsFor_kernel (ha : isKernelCall a = true) (hc : CallsFor boot m a h x) :
    ∃ e s, deliver (boot.after h) x = some (m, e) ∧ (boot.after h).getSession m = some s ∧
      a ∈ kernelReact boot.config x.env s e := by
  obtain ⟨⟨e, hd⟩, hmem⟩ := hc
  obtain ⟨m', e', s, hd', hs, hmem⟩ := effects_stored hmem (fun _ _ hq => by subst hq; cases ha)
    fun _ _ hq => by subst hq; cases ha
  cases hd.symm.trans hd'
  refine ⟨e, s, hd, hs, ?_⟩
  rw [← kernelCalls_react]
  exact List.mem_filter.mpr ⟨hmem, ha⟩

theorem callsFor_of_kernelReact {e : UeEvent} {s : UeSession m}
    (hd : deliver (boot.after h) x = some (m, e)) (hs : (boot.after h).getSession m = some s)
    (ha : a ∈ kernelReact boot.config x.env s e) : CallsFor boot m a h x := by
  refine ⟨⟨e, hd⟩, ?_⟩
  rw [← kernelCalls_react] at ha
  rw [Boot.effects, (step_stored hd hs).1, config_after]
  exact (List.mem_filter.mp ha).1

/-- A session that waits for the P-GW, or is connected, has sent its request. -/
theorem createSent_inLife {s : UeSession m} (hs : (boot.after h).getSession m = some s)
    (hst : s.state = .gtpCreatePending ∨ s.state = .connected) :
    InLife boot m (CreateSent boot m) h := by
  induction hs using stored_induction with
  | reacts h x e s₀ s hs hd hs₀ hr he ih =>
    rw [inLife_cons (stored_of_eq hs)]
    cases moves hr with
    | stays hs' => exact .inr (ih (by rwa [← hs']))
    | asks req hq hs' => rw [hs'] at hst; rcases hst with hst | hst <;> cases hst
    | accepts dea hq hc hp hs' hcsr =>
      subst hq
      exact .inl (createSent_react hd hc hs₀ hp he ⟨_, hcsr⟩)
    | connects pgwTeid ueIp qci hq hp => exact .inr (ih (.inl hp))
  | attaches h x req c s hs hx hm hn hc hr he =>
    rcases attach_cases hr with hs' | ⟨hs', -⟩ <;> rw [hs'] at hst <;>
      rcases hst with hst | hst <;> cases hst
  | keeps h x s hs hs₀ hd ih => exact .later (stored_of_eq hs) (ih hst)

/-- The step leaves the state of `m`'s session as it is. -/
def SameState (boot : Boot) (m : Bytes) (h : List Input) (x : Input) : Prop :=
  ((boot.after (x :: h)).getSession m).map UeSession.state =
    ((boot.after h).getSession m).map UeSession.state

theorem sameState {s s₀ : UeSession m} (hs₀ : (boot.after h).getSession m = some s₀)
    (hs : (boot.after (x :: h)).getSession m = some s) (hst : s.state = s₀.state) :
    SameState boot m h x := by
  rw [SameState, hs, hs₀, Option.map_some, Option.map_some, hst]

/-- A Create Session Response connects the session of `m`, with what the session
`s` has of it: its address, and the P-GW that it was waited for from. -/
def ConnectedBy (boot : Boot) {m : Bytes} (s : UeSession m) (h : List Input) (x : Input) : Prop :=
  ∃ s₀ pgwTeid qci, (boot.after h).getSession m = some s₀ ∧ s₀.state = .gtpCreatePending ∧
    x.event = .createSessionResponse s₀.gtpTeidC true pgwTeid s.ueIp qci ∧
    (boot.after h).sessionManager.getSessionByTeidC x.env.iteration s₀.gtpTeidC = some ⟨m, s₀⟩ ∧
    ((boot.after (x :: h)).getSession m).map UeSession.state = some .connected ∧
    s.pgwIp = s₀.pgwIp ∧ s.pgwTeidC = s₀.pgwTeidC

theorem ConnectedBy.congr {s s' : UeSession m} (hc : ConnectedBy boot s h x)
    (hip : s'.ueIp = s.ueIp) (hpgw : s'.pgwIp = s.pgwIp) (hteid : s'.pgwTeidC = s.pgwTeidC) :
    ConnectedBy boot s' h x := by
  rw [ConnectedBy, hip, hpgw, hteid]
  exact hc

/-- A connected session has what the response that has connected it gave it. -/
theorem connected_since {s : UeSession m} (hs : (boot.after h).getSession m = some s)
    (hc : s.state = .connected) :
    Since (ConnectedBy boot s) (SameState boot m) h := by
  induction hs using stored_induction with
  | reacts h x e s₀ s hs hd hs₀ hr he ih =>
    obtain ⟨hteid, hpgw⟩ := react_pgw hr
    cases moves hr with
    | stays hst =>
      have hc₀ : s₀.state = .connected := hst.symm.trans hc
      rcases react_tunnel hr with ⟨_, _, _, _, -, hp, -⟩ | ⟨-, -, hip, -⟩
      · exact absurd (hp.symm.trans hc₀) (by decide)
      · have hpgw := hpgw (by rw [hc₀]; decide)
        exact .later (sameState hs₀ hs hst)
          ((ih hc₀).imp (fun _ _ hy => hy.congr hip hpgw hteid) fun _ _ hq => hq)
    | asks req hq hst => rw [hc] at hst; cases hst
    | accepts dea hq hcode hp hst => rw [hc] at hst; cases hst
    | connects pgwTeid ueIp qci hq hp =>
      subst hq
      obtain ⟨hx, hf⟩ := deliver_createResponse hd hs₀
      rcases react_tunnel hr with ⟨_, _, _, st, hq, -, rfl⟩ | ⟨hn, -⟩
      · cases hq
        exact .now ⟨s₀, pgwTeid, qci, hs₀, hp, hx, hf, by rw [hs, Option.map_some, hc],
          hpgw (by rw [hp]; decide), hteid⟩
      · exact absurd hp (hn _ _ _ rfl)
  | attaches h x req c s hs hx hm hn hcount hr he =>
    rcases attach_cases hr with hst | ⟨hst, -⟩ <;> rw [hc] at hst <;> cases hst
  | keeps h x s hs hs₀ hd ih => exact .later (sameState hs₀ hs rfl) (ih hc)

end Twag.Proof.Core

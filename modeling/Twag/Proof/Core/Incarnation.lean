import Twag.Proof.Core.History

/-!
# Late answers for a removed session

The Session-Id of every DER for one UE is the same, so a DEA for a session that
has been removed is handed to the session the UE has now. Only the state of
that session keeps it out:

* `untouched_iff`: a DEA leaves the session of its UE alone exactly if that
  is not waiting for an answer of its own;
* `isolated_iff`: so it is in whole runs;
* `late_accept`: otherwise, the answer to the old DER is the outcome of the new
  attempt.
-/

namespace Twag.Proof.Core

open Twag.Impl Twag.Spec

variable (boot : Boot) (m : Bytes)

/-- A DEA for the session of `m` that answers a DER sent before that session was
removed. -/
def LateDea (h : List Input) (x : Input) : Prop :=
  ∃ dea a g y req, x.event = .dea dea a ∧ dea.macAddr = m ∧ Answers boot h dea a g y req ∧
    ∃ g', (y :: g) <:+ g' ∧ g' <:+ h ∧ ¬ Stored boot m g'

/-- The state and the profile of a session. -/
def profile {m : Bytes} (s : UeSession m) :
    SessionState × Bytes × UInt32 × UInt32 × UInt32 × Bytes :=
  (s.state, s.apn, s.pdnType, s.ambrUl, s.ambrDl, s.pgwIp)

/-- The step changes neither the state nor the profile of the session of `m`,
and nothing is answered or requested in its name. -/
def Untouched (h : List Input) (x : Input) : Prop :=
  ((boot.after (x :: h)).getSession m).map profile = ((boot.after h).getSession m).map profile ∧
    responses (boot.effects h x) = [] ∧ createRequests (boot.effects h x) = []

/-- The session of `m` waits for an answer. -/
def AwaitsAnswer (h : List Input) : Prop :=
  ((boot.after h).getSession m).map UeSession.state = some .authPending

variable {boot m}

/-- A DEA leaves the session of its MAC address alone exactly if that does not
wait for an answer. -/
theorem untouched_iff {h : List Input} {x : Input} {dea : Dea} {a : Option Nat}
    (hx : x.event = .dea dea a) (hm : dea.macAddr = m) :
    Untouched boot m h x ↔ ¬ AwaitsAnswer boot m h := by
  have hd : deliver (boot.after h) x = some (m, .dea dea) := by simp only [deliver, hx, hm]
  cases hs : (boot.after h).getSession m with
  | none =>
    obtain ⟨hsm, he⟩ := step_absent hd hs (by simp)
    have hg : (boot.after (x :: h)).getSession m = (boot.after h).getSession m := by
      rw [Boot.after, TwagCore.getSession, hsm]
      rfl
    have he' : boot.effects h x = [] := he
    simp [Untouched, AwaitsAnswer, hg, he', hs, responses, createRequests]
  | some s =>
    have hf := step_stored hd hs
    rw [config_after] at hf
    have he : boot.effects h x = (react boot.config x.env s (.dea dea)).effects := hf.1
    have hg : (boot.after (x :: h)).getSession m = (react boot.config x.env s (.dea dea)).session :=
      hf.getSession hs
    rw [AwaitsAnswer, hs, Option.map_some, Option.some.injEq]
    constructor
    · rintro ⟨-, hr, -⟩ hp
      rw [he, responses_react, respond, if_pos hp] at hr
      cases hr
    · intro hp
      have hk : react boot.config x.env s (.dea dea) = .keep s := if_neg hp
      rw [Untouched, hg, he, hk, hs]
      exact ⟨rfl, rfl, rfl⟩

/-- In every run, late answers leave the new sessions alone exactly if none
comes while the new session waits for an answer of its own. -/
theorem isolated_iff (boot : Boot) (h : List Input) :
    Throughout (fun g x => ∀ m, LateDea boot m g x → Untouched boot m g x) h ↔
      Throughout (fun g x => ∀ m, LateDea boot m g x → ¬ AwaitsAnswer boot m g) h := by
  have step : ∀ g x m, LateDea boot m g x →
      (Untouched boot m g x ↔ ¬ AwaitsAnswer boot m g) := by
    rintro g x m ⟨dea, a, -, -, -, hx, hm, -⟩
    exact untouched_iff hx hm
  simp only [throughout_iff]
  constructor
  · intro hu g x ht m hl
    exact (step g x m hl).mp (hu g x ht m hl)
  · intro hn g x ht m hl
    exact (step g x m hl).mpr (hn g x ht m hl)

/-- An attach, an Accounting-Stop, and another attach. -/
def sampleReattach : List Input :=
  [sampleAt 30 (.accessRequest (sampleRequest 2 (ascii "001010000000002")) none),
    sampleAt 20 (.accountingStop sampleMac), sampleAt 10 sampleAttach]

/-- The answer to the DER of the first attach. -/
def sampleLateAnswer : Input := sampleAt 40 (.dea (sampleDea 2001) (some 0))

/-- The answer to the DER of the removed session accepts the new attempt. -/
theorem late_accept :
    LateDea sampleBoot sampleMac sampleReattach sampleLateAnswer ∧
      ¬ Untouched sampleBoot sampleMac sampleReattach sampleLateAnswer ∧
      ((sampleBoot.after (sampleLateAnswer :: sampleReattach)).getSession sampleMac).map
        UeSession.state = some .gtpCreatePending ∧
      (responses (sampleBoot.effects sampleReattach sampleLateAnswer)).map
        (fun r => (r.code, r.id)) = [(accessAccept, 2)] := by
  have hr : (responses (sampleBoot.effects sampleReattach sampleLateAnswer)).map
      (fun r => (r.code, r.id)) = [(accessAccept, 2)] := by decide
  refine ⟨?_, ?_, by decide, hr⟩
  · refine ⟨sampleDea 2001, some 0, [], sampleAt 10 sampleAttach,
      sampleRequest 1 (ascii "001010000000001"), rfl, rfl, ?_, ?_⟩
    · exact ⟨⟨[_, _], rfl⟩, rfl, ⟨none, rfl⟩,
        ⟨derOf (sampleEnv 10) sampleBoot.config sampleMac [2, 1, 0, 4], by decide, rfl⟩⟩
    · exact ⟨[sampleAt 20 (.accountingStop sampleMac), sampleAt 10 sampleAttach], ⟨[_], rfl⟩,
        ⟨[_], rfl⟩, by decide⟩
  · rintro ⟨-, hn, -⟩
    rw [hn] at hr
    cases hr

end Twag.Proof.Core

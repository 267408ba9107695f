import Twag.Proof.Gateway.Arrivals

/-!
# Who is let in

`admitted_of_success`: an Access-Accept and a Create Session Request go out for
a UE only on a DEA for its Session-Id, and only if the Result-Code of the DEA is
2001 or 3002, or none is found in it. The callback takes a missing Result-Code
for success, and so do its comments; `missing_result_code` is a UE that is let
in without one.
-/

namespace Twag.Proof.Gateway

open Twag.Impl Twag.Spec Twag.Proof.Core

/-- The Result-Code that the callback finds in an answer. -/
def foundResultCode (dict : AvpName → Bool) (msg : List Avp) : Option UInt32 :=
  (dictSearchAvp dict msg .resultCode).bind Avp.u32

/-- An Access-Accept, or a Create Session Request. -/
def IsAdmission : Effect → Prop
  | .radiusResponse resp _ => resp.code = accessAccept
  | .createSessionRequest _ _ _ => True
  | _ => False

/-- The message is for the UE of this session. -/
def IsFor {m : Bytes} (s : UeSession m) : Effect → Prop
  | .radiusResponse resp _ => Origin.ofResponse resp = Origin.ofSession s
  | .createSessionRequest req _ _ => req.teidGreKey = s.gtpTeidC
  | _ => False

/-- What the callback takes for success. -/
theorem resultCodeOf_iff {dict : AvpName → Bool} {msg : List Avp} :
    resultCodeOf dict msg = 2001 ↔ foundResultCode dict msg = none ∨
      foundResultCode dict msg = some 2001 ∨ foundResultCode dict msg = some 3002 := by
  rw [resultCodeOf, foundResultCode]
  cases (dictSearchAvp dict msg .resultCode).bind Avp.u32 with
  | none => simp
  | some code =>
    by_cases hc : code = 3002
    · simp [hc]
    · simp [hc]

theorem deaCb_fields {dict : AvpName → Bool} {msg : List Avp} {dea : Dea}
    (hd : deaCb dict msg = some dea) :
    sessionMac msg = some dea.macAddr ∧ dea.resultCode = resultCodeOf dict msg := by
  obtain ⟨mac, hm, rfl⟩ := Option.map_eq_some_iff.mp hd
  exact ⟨hm, rfl⟩

/-- A session is admitted by the DEA with DIAMETER_SUCCESS that it waits for. -/
theorem admission_react {config : TwagConfig} {env : Env} {m : Bytes} {s : UeSession m}
    {ev : UeEvent} {e : Effect} (he : e ∈ (react config env s ev).effects) (hk : IsAdmission e) :
    ∃ dea, ev = .dea dea ∧ dea.resultCode = 2001 ∧ s.state = .authPending ∧ IsFor s e := by
  cases sends he with
  | radiusResponse resp ok hr =>
    have hcode : resp.code = accessAccept := hk
    rcases mem_respond hr with ⟨-, ho, ⟨dea, hev, hp, hc⟩ | ⟨-, -, hc⟩⟩
    · refine ⟨dea, hev, ?_, hp, ho⟩
      rw [hcode, passedOn] at hc
      split at hc <;> [cases hc; skip]
      split at hc <;> [assumption; cases hc]
    · cases hcode.symm.trans hc
  | createSessionRequest dea dest ok hev hp hc => exact ⟨dea, hev, hc, hp, rfl⟩
  | _ => exact hk.elim

theorem admission_step {boot : Boot} {h : List Input} {x : Input} {e : Effect}
    (he : e ∈ boot.effects h x) (hk : IsAdmission e) :
    ∃ dea answers s, x.event = .dea dea answers ∧ dea.resultCode = 2001 ∧
      (boot.after h).getSession dea.macAddr = some s ∧ s.state = .authPending ∧ IsFor s e := by
  rcases effects_cases he with ⟨m, ev, s, hd, hs, he⟩ | ⟨req, c, hx, he | rfl⟩
  · obtain ⟨dea, rfl, hc, hp, hf⟩ := admission_react he hk
    obtain ⟨answers, hx, rfl⟩ := deliver_dea hd
    exact ⟨dea, answers, s, hx, hc, hs, hp, hf⟩
  · obtain ⟨dea, hev, -⟩ := admission_react he hk
    cases hev
  · cases hk

/-- An Access-Accept or a Create Session Request is for a UE whose Session-Id is
in the DEA that it is sent on, and that DEA has a Result-Code of 2001 or 3002, or
none that the callback finds. -/
theorem admitted_of_success (boot : Boot) (h : List Arrival) (a : Arrival) (e : Effect)
    (he : e ∈ boot.calls h a) (hk : IsAdmission e) :
    ∃ dict msg answers m s, a.packet = .dea dict msg answers ∧ sessionMac msg = some m ∧
      (boot.served h).getSession m = some s ∧ s.state = .authPending ∧ IsFor s e ∧
      (foundResultCode dict msg = none ∨ foundResultCode dict msg = some 2001 ∨
        foundResultCode dict msg = some 3002) := by
  obtain ⟨x, hev, -, he⟩ := mem_calls he
  obtain ⟨dea, answers, s, hx, hc, hs, hp, hf⟩ := admission_step he hk
  rw [hx] at hev
  generalize hpk : a.packet = p at hev
  cases comes hev with
  | dea dict msg answers dea hd =>
    obtain ⟨hm, hr⟩ := deaCb_fields hd
    exact ⟨dict, msg, answers, dea.macAddr, s, rfl, hm, hs, hp, hf,
      resultCodeOf_iff.mp (hr.symm.trans hc)⟩

/-! ## Two UEs that are let in -/

/-- The Access-Accept for the sample UE. -/
def sampleAccessAccept : Effect :=
  .radiusResponse ⟨⟨loopback, htons 1812⟩, accessAccept, 1, Vector.replicate 16 0, []⟩ true

theorem admitted_of_success_sample :
    sampleAccessAccept ∈ sampleBoot.calls sampleArrived sampleSuccessAnswer ∧
      ∃ dict msg answers m s, sampleSuccessAnswer.packet = .dea dict msg answers ∧
        sessionMac msg = some m ∧ (sampleBoot.served sampleArrived).getSession m = some s ∧
        IsFor s sampleAccessAccept := by
  have he : sampleAccessAccept ∈ sampleBoot.calls sampleArrived sampleSuccessAnswer := by decide
  obtain ⟨dict, msg, answers, m, s, hp, hm, hs, -, hf, -⟩ :=
    admitted_of_success sampleBoot sampleArrived sampleSuccessAnswer sampleAccessAccept he rfl
  exact ⟨he, dict, msg, answers, m, s, hp, hm, hs, hf⟩

/-- In a run whose only DEA has no Result-Code, the UE gets an Access-Accept, and
a Create Session Request goes out for it. -/
theorem missing_result_code :
    (∀ a ∈ sampleAnswer [] :: sampleArrived, ∀ dict msg answers,
        a.packet = .dea dict msg answers → ∀ avp ∈ msg, avp.name ≠ .resultCode) ∧
      sampleAccessAccept ∈ sampleBoot.calls sampleArrived (sampleAnswer []) ∧
      createRequests (sampleBoot.calls sampleArrived (sampleAnswer [])) ≠ [] := by
  refine ⟨?_, by decide, by decide⟩
  intro a ha dict msg answers hp avp hmem
  rcases List.mem_pair.mp ha with rfl | rfl
  · cases hp
    rw [List.mem_singleton.mp hmem]
    decide
  · cases hp

end Twag.Proof.Gateway

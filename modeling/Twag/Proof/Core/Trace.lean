import Twag.Proof.Core.History
import Twag.Spec.Trace

/-!
# The gateway is its UEs side by side

`side_by_side`: over every history, the session of a MAC address and the calls
made for it are those of a machine that sees this UE's inputs only. A step that
is for no UE makes no call, and no step is for two.
-/

namespace Twag.Proof.Core

open Twag.Impl Twag.Spec

variable {boot : Boot} {m m' : Bytes} {h : List Input} {x : Input}

/-- What a step is to the UE of `m`: its input gives the session and the calls, or it has none and
keeps its session. -/
theorem step_inputOf (boot : Boot) (h : List Input) (x : Input) (m : Bytes) :
    (∃ y, inputOf (boot.after h) x m = some y ∧
      (boot.after (x :: h)).getSession m =
        (y.outcome boot.config ((boot.after h).getSession m)).session ∧
      boot.effects h x = (y.outcome boot.config ((boot.after h).getSession m)).effects) ∨
    (inputOf (boot.after h) x m = none ∧
      (boot.after (x :: h)).getSession m = (boot.after h).getSession m) := by
  cases view_after boot h x m with
  | reacts e s hd hs hg he =>
    refine .inl ⟨.asked x.env e, by simp [inputOf, hd, hs], ?_, ?_⟩
    · rw [hs]
      exact hg
    · rw [hs]
      exact he
  | attaches req c hx hm hn hc hg he =>
    have hd : deliver (boot.after h) x = some (m, .accessRequest req) := by
      simp only [deliver, hx, hm]
    have hroom : ¬ (boot.after h).config.maxActiveSessions.toNat ≤
        (boot.after h).sessionManager.getActiveSessionsCount := by
      rw [config_after]
      exact Nat.not_le.2 hc
    have hin : inputOf (boot.after h) x m =
        some (.admitted x.env (born (boot.after h) x m) req) := by
      simp only [inputOf, hd, hn, if_neg hroom]
      exact if_pos trivial
    exact .inl ⟨_, hin, hg, he⟩
  | refuses req c hx hm hn hc hg he =>
    have hd : deliver (boot.after h) x = some (m, .accessRequest req) := by
      simp only [deliver, hx, hm]
    have hfull : (boot.after h).config.maxActiveSessions.toNat ≤
        (boot.after h).sessionManager.getActiveSessionsCount := by
      rw [config_after]
      exact hc
    have hin : inputOf (boot.after h) x m = some (.refused x.env req) := by
      simp only [inputOf, hd, hn, if_pos hfull]
      exact if_pos trivial
    exact .inl ⟨_, hin, hg, he⟩
  | keeps hd hg =>
    refine .inr ⟨?_, hg⟩
    unfold inputOf
    split
    · rfl
    · rename_i target e hde
      split
      · rename_i heq
        obtain ⟨hn, hreq⟩ := hd e (heq ▸ hde)
        rw [hn]
        cases e with
        | accessRequest req => exact absurd rfl (hreq req)
        | _ => rfl
      · rfl

/-- The session of a UE is what its own inputs make of it. -/
theorem getSession_eq_ueAfter (boot : Boot) (m : Bytes) (h : List Input) :
    (boot.after h).getSession m = ueAfter boot.config (inputsOf boot m h) := by
  induction h with
  | nil => exact getSession_after_nil m
  | cons x h ih =>
    obtain ⟨y, hy, hsession, -⟩ | ⟨hnone, hsession⟩ := step_inputOf boot h x m
    · rw [hsession, inputsOf, hy, ih]
      rfl
    · rw [hsession, inputsOf, hnone, ih]
      rfl

theorem callsOf_eq_ueCalls (boot : Boot) (m : Bytes) (h : List Input) :
    callsOf boot m h = ueCalls boot.config (inputsOf boot m h) := by
  induction h with
  | nil => rfl
  | cons x h ih =>
    obtain ⟨y, hy, -, hcalls⟩ | ⟨hnone, -⟩ := step_inputOf boot h x m
    · rw [callsOf, inputsOf, hy, ih, hcalls, getSession_eq_ueAfter]
      rfl
    · rw [callsOf, inputsOf, hnone, ih]
      exact List.append_nil _

/-- An event is for one UE. -/
theorem deliver_of_inputOf {core : TwagCore} (h : (inputOf core x m).isSome) :
    ∃ e, deliver core x = some (m, e) := by
  unfold inputOf at h
  split at h
  · cases h
  · rename_i target e hd
    split at h
    · rename_i heq
      exact ⟨e, heq ▸ hd⟩
    · cases h

/-- A step that is for no UE makes no call. -/
theorem effects_eq_nil_of_inputOf (hnone : ∀ m, inputOf (boot.after h) x m = none) :
    boot.effects h x = [] := by
  refine (step_ignored (boot.after h) x fun m e hd => ?_).2
  have hm := hnone m
  simp only [inputOf, hd, if_true] at hm
  cases hs : (boot.after h).getSession m with
  | some s => simp [hs] at hm
  | none =>
    refine ⟨rfl, fun req he => ?_⟩
    subst he
    simp only [hs] at hm
    split at hm
    · cases hm
    · cases hm

/-- Over every history, the session of a UE and the calls made in its steps are those of its own
inputs; no step is for two UEs, and one that is for none makes no call. -/
theorem side_by_side (boot : Boot) (h : List Input) :
    (∀ m, (boot.after h).getSession m = ueAfter boot.config (inputsOf boot m h) ∧
      callsOf boot m h = ueCalls boot.config (inputsOf boot m h)) ∧
    ∀ x, (∀ m m', (inputOf (boot.after h) x m).isSome → (inputOf (boot.after h) x m').isSome →
        m = m') ∧
      ((∀ m, inputOf (boot.after h) x m = none) → boot.effects h x = []) := by
  refine ⟨fun m => ⟨getSession_eq_ueAfter boot m h, callsOf_eq_ueCalls boot m h⟩, fun x =>
    ⟨fun m m' hm hm' => ?_, effects_eq_nil_of_inputOf⟩⟩
  obtain ⟨e, hd⟩ := deliver_of_inputOf hm
  obtain ⟨e', hd'⟩ := deliver_of_inputOf hm'
  rw [hd, Option.some.injEq, Prod.mk.injEq] at hd'
  exact hd'.1

end Twag.Proof.Core

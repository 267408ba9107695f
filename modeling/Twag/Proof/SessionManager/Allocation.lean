import Twag.Impl.Receive.S2a
import Twag.Proof.SessionManager.Teid

/-!
# How TEIDs are allocated

The calls of a `SessionManager` in any order, also a `create_session` that
overwrites a stored session, and what its callers write to the sessions they
are given. The `k`-th `create_session` assigns the control TEID `2k - 1` and the
user TEID `2k`, modulo `2³²` (`teidLaw`). So the two are never the same, and a
control TEID is never 0, which is what a message without a TEID is looked up
with.
-/

namespace Twag.Proof.SessionManager

open Twag.Impl

/-- A call of a `SessionManager`, or a write to the fields of a stored session
other than its TEIDs. -/
inductive Op where
  | createSession (mem : Indeterminate) (mac : Bytes)
  | removeSession (mac : Bytes)
  | incrementRejected
  | getSession (mac : Bytes)
  | getSessionByTeidC (it : IterationOrder (Sigma UeSession)) (teid : UInt32)
  | getActiveSessionsCount
  | getStats
  | write (mac : Bytes) (fields : UeSession mac)

/-- The stored session of `mac` with these fields, and its own TEIDs. -/
def writeFields (sm : SessionManager) {mac : Bytes} (fields : UeSession mac) : SessionManager :=
  match sm.getSession mac with
  | none => sm
  | some s =>
    let session : UeSession mac :=
      { fields with gtpTeidC := s.gtpTeidC, gtpTeidU := s.gtpTeidU }
    sm.put session

def perform (sm : SessionManager) : Op → SessionManager
  | .createSession mem mac => (sm.createSession mem mac).1
  | .removeSession mac => sm.removeSession mac
  | .incrementRejected => sm.incrementRejected
  | .write _ fields => writeFields sm fields
  | .getSession _ | .getSessionByTeidC _ _ | .getActiveSessionsCount | .getStats => sm

/-- The store after these operations, the newest first. -/
def performed : List Op → SessionManager
  | [] => .new
  | op :: h => perform (performed h) op

/-- How many times `create_session` was called. -/
def creations : List Op → Nat
  | [] => 0
  | .createSession _ _ :: h => creations h + 1
  | _ :: h => creations h

/-- The `k`-th `create_session` has assigned these TEIDs. -/
def Assigned (h : List Op) (k : Nat) (c u : UInt32) : Prop :=
  ∃ g mem mac, (.createSession mem mac :: g) <:+ h ∧ creations g + 1 = k ∧
    ((performed g).createSession mem mac).2.gtpTeidC = c ∧
    ((performed g).createSession mem mac).2.gtpTeidU = u

variable {h g : List Op} {op : Op} {mac : Bytes} {k k' : Nat} {c u c' u' : UInt32}

/-! ## One operation -/

theorem nextTeid_writeFields (sm : SessionManager) (fields : UeSession mac) :
    (writeFields sm fields).nextTeid = sm.nextTeid := by
  unfold writeFields
  split <;> rfl

/-- A write leaves every stored session its TEIDs. -/
theorem getSession_writeFields {sm : SessionManager} {mac' : Bytes} {fields : UeSession mac'}
    {s : UeSession mac} (hs : (writeFields sm fields).getSession mac = some s) :
    ∃ s₀, sm.getSession mac = some s₀ ∧ s.gtpTeidC = s₀.gtpTeidC ∧ s.gtpTeidU = s₀.gtpTeidU := by
  unfold writeFields at hs
  split at hs
  · exact ⟨s, hs, rfl, rfl⟩
  · rename_i s' hs'
    by_cases hm : mac = mac'
    · subst hm
      rw [SessionManager.getSession_put] at hs
      cases hs
      exact ⟨s', hs', rfl, rfl⟩
    · rw [SessionManager.getSession_put_ne _ hm] at hs
      exact ⟨s, hs, rfl, rfl⟩

/-- The counter is the next session's control TEID. -/
theorem nextTeid_performed (h : List Op) : (performed h).nextTeid = teidC (creations h) := by
  induction h with
  | nil => rfl
  | cons op h ih =>
    cases op with
    | createSession mem mac =>
      show (performed h).nextTeid + 2 = teidC (creations h + 1)
      rw [ih, teidC_add_two]
    | removeSession mac =>
      show ((performed h).removeSession mac).nextTeid = teidC (creations h)
      rw [SessionManager.nextTeid_removeSession, ih]
    | write mac fields =>
      show (writeFields (performed h) fields).nextTeid = teidC (creations h)
      rw [nextTeid_writeFields, ih]
    | _ => exact ih

/-- A stored session has been created, or was stored before with these TEIDs. -/
theorem stored_step {s : UeSession mac} (hs : (performed (op :: h)).getSession mac = some s) :
    (∃ mem, op = .createSession mem mac ∧ s = ((performed h).createSession mem mac).2) ∨
      ∃ s₀, (performed h).getSession mac = some s₀ ∧
        s.gtpTeidC = s₀.gtpTeidC ∧ s.gtpTeidU = s₀.gtpTeidU := by
  cases op with
  | createSession mem mac' =>
    by_cases hm : mac = mac'
    · subst hm
      have hs' := hs.symm.trans (SessionManager.getSession_createSession (performed h) mem mac)
      exact .inl ⟨mem, rfl, Option.some.inj hs'⟩
    · have hs' := (SessionManager.getSession_createSession_ne mem hm).symm.trans hs
      exact .inr ⟨s, hs', rfl, rfl⟩
  | removeSession mac' =>
    by_cases hm : mac = mac'
    · subst hm
      have hs' := hs.symm.trans (SessionManager.getSession_removeSession (performed h) mac)
      cases hs'
    · have hs' := (SessionManager.getSession_removeSession_ne hm).symm.trans hs
      exact .inr ⟨s, hs', rfl, rfl⟩
  | write mac' fields => exact .inr (getSession_writeFields hs)
  | _ => exact .inr ⟨s, hs, rfl, rfl⟩

/-! ## Runs -/

theorem Assigned.mono (ht : g <:+ h) (ha : Assigned g k c u) : Assigned h k c u := by
  obtain ⟨g', mem, mac, ht', ha⟩ := ha
  exact ⟨g', mem, mac, ht'.trans ht, ha⟩

/-- What is assigned follows from the number of the call. -/
theorem Assigned.teids (ha : Assigned h k c u) :
    ∃ n, k = n + 1 ∧ c = teidC n ∧ u = teidU n := by
  obtain ⟨g, mem, mac, -, hk, hc, hu⟩ := ha
  have hn := nextTeid_performed g
  refine ⟨creations g, hk.symm, ?_, ?_⟩
  · rw [← hc, ← hn]
    rfl
  · rw [← hu, ← teidC_add_one, ← hn]
    rfl

/-- Every stored session has the TEIDs that its `create_session` assigned. -/
theorem stored_assigned {s : UeSession mac} (hs : (performed h).getSession mac = some s) :
    ∃ k, Assigned h k s.gtpTeidC s.gtpTeidU := by
  induction h generalizing s with
  | nil => cases hs
  | cons op h ih =>
    rcases stored_step hs with ⟨mem, rfl, rfl⟩ | ⟨s₀, hs₀, hc, hu⟩
    · exact ⟨_, h, mem, mac, List.suffix_rfl, rfl, rfl, rfl⟩
    · obtain ⟨k, ha⟩ := ih hs₀
      rw [hc, hu]
      exact ⟨k, ha.mono (List.suffix_cons op h)⟩

theorem exists_assigned (hk : 1 ≤ k) (hle : k ≤ creations h) : ∃ c u, Assigned h k c u := by
  induction h with
  | nil => exact absurd (hk.trans hle) (by decide)
  | cons op h ih =>
    have older (hle : k ≤ creations h) : ∃ c u, Assigned (op :: h) k c u := by
      obtain ⟨c, u, ha⟩ := ih hle
      exact ⟨c, u, ha.mono (List.suffix_cons op h)⟩
    cases op with
    | createSession mem mac =>
      rcases Nat.lt_or_eq_of_le (show k ≤ creations h + 1 from hle) with hlt | heq
      · exact older (Nat.le_of_lt_succ hlt)
      · exact ⟨_, _, h, mem, mac, List.suffix_rfl, heq.symm, rfl, rfl⟩
    | _ => exact older hle

theorem toNat_teidC (n : Nat) : (teidC n).toNat = (2 * (n + 1) - 1) % 2 ^ 32 := by
  rw [teidC, UInt32.toNat_ofNat', show 1 + 2 * n = 2 * (n + 1) - 1 by omega]

theorem toNat_teidU (n : Nat) : (teidU n).toNat = 2 * (n + 1) % 2 ^ 32 := by
  rw [teidU, UInt32.toNat_ofNat', show 2 + 2 * n = 2 * (n + 1) by omega]

theorem teidC_ne_zero (n : Nat) : teidC n ≠ 0 := by
  intro h
  have hn := congrArg UInt32.toNat h
  rw [toNat_teidC] at hn
  change _ = 0 at hn
  omega

/-- No stored session is found with the TEID 0. -/
theorem getSessionByTeidC_zero (h : List Op) (it : IterationOrder (Sigma UeSession)) :
    (performed h).getSessionByTeidC it 0 = none := by
  refine SessionManager.getSessionByTeidC_eq_none_iff.mpr fun mac s hs => ?_
  obtain ⟨k, ha⟩ := stored_assigned hs
  obtain ⟨n, -, hc, -⟩ := ha.teids
  rw [hc]
  exact teidC_ne_zero n

/-- The law of allocation. -/
structure TeidLaw (h : List Op) : Prop where
  /-- Each call assigns TEIDs. -/
  exist : ∀ k, 1 ≤ k → k ≤ creations h → ∃ c u, Assigned h k c u
  /-- They follow from the call's number. -/
  value : ∀ k c u, Assigned h k c u →
    c.toNat = (2 * k - 1) % 2 ^ 32 ∧ u.toNat = 2 * k % 2 ^ 32
  /-- Stored sessions have TEIDs that were assigned. -/
  stored : ∀ mac s, (performed h).getSession mac = some s →
    ∃ k, Assigned h k s.gtpTeidC s.gtpTeidU
  parity : ∀ k c u, Assigned h k c u → c.toNat % 2 = 1 ∧ u.toNat % 2 = 0
  disjoint : ∀ k c u k' c' u', Assigned h k c u → Assigned h k' c' u' → c ≠ u'
  nonzero : ∀ k c u, Assigned h k c u → c ≠ 0
  /-- A message without a TEID matches no session. -/
  noTeid : ∀ it buf, teidFlag buf = false →
    (performed h).getSessionByTeidC it (S2aInterface.destTeid buf) = none
  again : ∀ k c u k' c' u', Assigned h k c u → Assigned h k' c' u' →
    (c = c' ↔ 2 ^ 31 ∣ (k : Int) - k')

/-- In every run, of any length, TEIDs are allocated by the law. -/
theorem teidLaw (h : List Op) : TeidLaw h where
  exist := fun _ => exists_assigned
  value := by
    intro k c u ha
    obtain ⟨n, rfl, rfl, rfl⟩ := ha.teids
    exact ⟨toNat_teidC n, toNat_teidU n⟩
  stored := fun _ _ => stored_assigned
  parity := by
    intro k c u ha
    obtain ⟨n, rfl, rfl, rfl⟩ := ha.teids
    rw [toNat_teidC, toNat_teidU]
    omega
  disjoint := by
    intro k c u k' c' u' ha ha'
    obtain ⟨n, -, rfl, -⟩ := ha.teids
    obtain ⟨n', -, -, rfl⟩ := ha'.teids
    exact teidC_ne_teidU n n'
  nonzero := by
    intro k c u ha
    obtain ⟨n, -, rfl, -⟩ := ha.teids
    exact teidC_ne_zero n
  noTeid := by
    intro it buf hf
    rw [S2aInterface.destTeid, hf]
    exact getSessionByTeidC_zero h it
  again := by
    intro k c u k' c' u' ha ha'
    obtain ⟨n, rfl, rfl, -⟩ := ha.teids
    obtain ⟨n', rfl, rfl, -⟩ := ha'.teids
    rw [teidC_eq_iff]
    omega

end Twag.Proof.SessionManager

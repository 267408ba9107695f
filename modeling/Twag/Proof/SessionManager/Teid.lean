import Twag.Proof.SessionManager.Store

/-!
# TEIDs of the stored sessions

`next_teid_` is 32 bits wide and moves by two with every session, so the TEIDs
of the `n`-th session are `1 + 2n` and `2 + 2n` modulo `2³²` (`birth_stored`),
and they come back after `2³¹` sessions:

* `teid_routing`: a control TEID is never a user TEID, two sessions share their
  TEIDs exactly if their numbers are congruent modulo `2³¹`, and as long as no
  stored session is older than `2³¹` sessions, the scan finds exactly the
  session that advertised a TEID;
* `teid_reused`: a session that outlives `2³¹ - 1` others shares its TEIDs with
  the next one.
-/

namespace Twag.Proof.SessionManager

open Twag.Impl

/-- The calls that `TwagCore` makes to add and remove sessions. -/
inductive Call where
  | create (mem : Indeterminate) (mac : Bytes)
  | remove (mac : Bytes)

/-- `TwagCore` creates a session only where `get_session` has found none. -/
def call (sm : SessionManager) : Call → SessionManager
  | .create mem mac => if (sm.getSession mac).isSome then sm else (sm.createSession mem mac).1
  | .remove mac => sm.removeSession mac

/-- The store after a history of calls, the newest first. -/
def after : List Call → SessionManager
  | [] => .new
  | c :: h => call (after h) c

/-- How many sessions were created. -/
def created : List Call → Nat
  | [] => 0
  | .create _ mac :: h => if ((after h).getSession mac).isSome then created h else created h + 1
  | .remove _ :: h => created h

/-- How many sessions were created before the stored session of `mac`. -/
def birth (mac : Bytes) : List Call → Option Nat
  | [] => none
  | .create _ mac' :: h =>
    if mac' = mac then
      if ((after h).getSession mac').isSome then birth mac h else some (created h)
    else birth mac h
  | .remove mac' :: h => if mac' = mac then none else birth mac h

/-- The control TEID of session number `n`. -/
def teidC (n : Nat) : UInt32 := UInt32.ofNat (1 + 2 * n)

/-- The user TEID of session number `n`. -/
def teidU (n : Nat) : UInt32 := UInt32.ofNat (2 + 2 * n)

/-! ## Arithmetic of the counter -/

theorem ofNat_eq_iff (a b : Nat) : UInt32.ofNat a = UInt32.ofNat b ↔ a % 2 ^ 32 = b % 2 ^ 32 := by
  rw [← UInt32.toNat_inj, UInt32.toNat_ofNat', UInt32.toNat_ofNat']

theorem teidC_eq_iff (n n' : Nat) : teidC n = teidC n' ↔ n % 2 ^ 31 = n' % 2 ^ 31 := by
  rw [teidC, teidC, ofNat_eq_iff]
  omega

theorem teidU_eq_iff (n n' : Nat) : teidU n = teidU n' ↔ n % 2 ^ 31 = n' % 2 ^ 31 := by
  rw [teidU, teidU, ofNat_eq_iff]
  omega

theorem teidC_ne_teidU (n n' : Nat) : teidC n ≠ teidU n' := by
  rw [teidC, teidU, ne_eq, ofNat_eq_iff]
  omega

theorem teidC_add_one (n : Nat) : teidC n + 1 = teidU n := by
  rw [← UInt32.toNat_inj, UInt32.toNat_add, teidC, teidU, UInt32.toNat_ofNat', UInt32.toNat_ofNat']
  show ((1 + 2 * n) % 2 ^ 32 + 1) % 2 ^ 32 = (2 + 2 * n) % 2 ^ 32
  omega

theorem teidC_add_two (n : Nat) : teidC n + 2 = teidC (n + 1) := by
  rw [← UInt32.toNat_inj, UInt32.toNat_add, teidC, teidC, UInt32.toNat_ofNat', UInt32.toNat_ofNat']
  show ((1 + 2 * n) % 2 ^ 32 + 2) % 2 ^ 32 = (1 + 2 * (n + 1)) % 2 ^ 32
  omega

/-! ## Runs -/

/-- The counter is the next session's control TEID. -/
theorem nextTeid_after (h : List Call) : (after h).nextTeid = teidC (created h) := by
  induction h with
  | nil => rfl
  | cons c h ih =>
    cases c with
    | create mem mac =>
      simp only [after, call, created]
      split
      · exact ih
      · show (after h).nextTeid + 2 = teidC (created h + 1)
        rw [ih, teidC_add_two]
    | remove mac => rw [after, call, SessionManager.nextTeid_removeSession, ih, created]

/-- A session is stored exactly if it has a number. -/
theorem birth_isSome (h : List Call) (mac : Bytes) :
    (birth mac h).isSome = ((after h).getSession mac).isSome := by
  induction h with
  | nil => rfl
  | cons c h ih =>
    cases c with
    | create mem mac' =>
      simp only [birth, after, call]
      by_cases hm : mac' = mac
      · subst hm
        rw [if_pos rfl]
        split
        · exact ih
        · rw [SessionManager.getSession_createSession]
          rfl
      · rw [if_neg hm, ih]
        split
        · rfl
        · rw [SessionManager.getSession_createSession_ne mem (Ne.symm hm)]
    | remove mac' =>
      simp only [birth, after, call]
      by_cases hm : mac' = mac
      · subst hm
        rw [if_pos rfl, SessionManager.getSession_removeSession]
        rfl
      · rw [if_neg hm, ih, SessionManager.getSession_removeSession_ne (Ne.symm hm)]

/-- The TEIDs of a stored session are those of its number. -/
theorem birth_stored {h : List Call} {mac : Bytes} {s : UeSession mac}
    (hs : (after h).getSession mac = some s) :
    ∃ n < created h, birth mac h = some n ∧ s.gtpTeidC = teidC n ∧ s.gtpTeidU = teidU n := by
  induction h with
  | nil => cases hs
  | cons c h ih =>
    cases c with
    | create mem mac' =>
      simp only [after, call] at hs
      simp only [birth, created]
      by_cases hp : ((after h).getSession mac').isSome
      · rw [if_pos hp] at hs
        simp only [if_pos hp, ite_self]
        exact ih hs
      · rw [if_neg hp] at hs
        simp only [if_neg hp]
        by_cases hm : mac' = mac
        · subst hm
          rw [SessionManager.getSession_createSession] at hs
          cases hs
          refine ⟨created h, by omega, if_pos rfl, nextTeid_after h, ?_⟩
          show (after h).nextTeid + 1 = teidU (created h)
          rw [nextTeid_after, teidC_add_one]
        · rw [SessionManager.getSession_createSession_ne mem (Ne.symm hm)] at hs
          obtain ⟨n, hn, hb, ht⟩ := ih hs
          exact ⟨n, by omega, by rw [if_neg hm]; exact hb, ht⟩
    | remove mac' =>
      by_cases hm : mac' = mac
      · subst hm
        rw [after, call, SessionManager.getSession_removeSession] at hs
        cases hs
      · rw [after, call, SessionManager.getSession_removeSession_ne (Ne.symm hm)] at hs
        obtain ⟨n, hn, hb, ht⟩ := ih hs
        exact ⟨n, hn, by rw [birth, if_neg hm]; exact hb, ht⟩

theorem stored_of_birth {h : List Call} {mac : Bytes} {n : Nat} (hb : birth mac h = some n) :
    n < created h ∧
      ∃ s, (after h).getSession mac = some s ∧ s.gtpTeidC = teidC n ∧ s.gtpTeidU = teidU n := by
  have hs := birth_isSome h mac
  rw [hb, Option.isSome_some] at hs
  obtain ⟨s, hs⟩ := Option.isSome_iff_exists.mp hs.symm
  obtain ⟨n', hn, hb', ht⟩ := birth_stored hs
  cases hb.symm.trans hb'
  exact ⟨hn, s, hs, ht⟩

/-- Two stored sessions have two numbers. -/
theorem birth_ne {h : List Call} {mac mac' : Bytes} {n n' : Nat} (hne : mac ≠ mac')
    (hb : birth mac h = some n) (hb' : birth mac' h = some n') : n ≠ n' := by
  induction h with
  | nil => cases hb
  | cons c h ih =>
    cases c with
    | create mem m =>
      simp only [birth] at hb hb'
      by_cases hp : ((after h).getSession m).isSome
      · simp only [if_pos hp, ite_self] at hb hb'
        exact ih hb hb'
      · simp only [if_neg hp] at hb hb'
        by_cases hm : m = mac
        · -- the session of `mac` is the new one
          rw [if_pos hm] at hb
          rw [if_neg (by rw [hm]; exact hne)] at hb'
          have := (stored_of_birth hb').1
          cases hb
          omega
        · rw [if_neg hm] at hb
          by_cases hm' : m = mac'
          · rw [if_pos hm'] at hb'
            have := (stored_of_birth hb).1
            cases hb'
            omega
          · rw [if_neg hm'] at hb'
            exact ih hb hb'
    | remove m =>
      simp only [birth] at hb hb'
      split at hb <;> [cases hb; skip]
      split at hb' <;> [cases hb'; skip]
      exact ih hb hb'

/-! ## Routing by TEID -/

/-- Since the creation of each stored session, itself included, at most `2³¹`
sessions were created. -/
def Young (h : List Call) : Prop := ∀ mac n, birth mac h = some n → created h ≤ n + 2 ^ 31

/-- Two stored sessions that are young have different TEIDs. -/
theorem Young.teids_ne {h : List Call} (hy : Young h) {mac mac' : Bytes} {s : UeSession mac}
    {s' : UeSession mac'} (hne : mac ≠ mac') (hs : (after h).getSession mac = some s)
    (hs' : (after h).getSession mac' = some s') :
    s.gtpTeidC ≠ s'.gtpTeidC ∧ s.gtpTeidU ≠ s'.gtpTeidU := by
  obtain ⟨n, hn, hb, hc, hu⟩ := birth_stored hs
  obtain ⟨n', hn', hb', hc', hu'⟩ := birth_stored hs'
  have h₁ := hy mac n hb
  have h₂ := hy mac' n' hb'
  have h₃ := birth_ne hne hb hb'
  have hmod : n % 2 ^ 31 ≠ n' % 2 ^ 31 := by omega
  rw [hc, hc', hu, hu', ne_eq, ne_eq, teidC_eq_iff, teidU_eq_iff]
  exact ⟨hmod, hmod⟩

/-- In every run: a control TEID is never a user TEID; two stored sessions share
their TEIDs exactly if their numbers are congruent modulo `2³¹`; the scan finds
nothing exactly if no stored session has the TEID; and while the sessions are
young, all TEIDs are different and the scan finds exactly the session that has
it, in whatever order it goes. -/
theorem teid_routing (h : List Call) :
    (∀ mac mac' s s', (after h).getSession mac = some s → (after h).getSession mac' = some s' →
      s.gtpTeidC ≠ s'.gtpTeidU) ∧
    (∀ mac mac' s s' n n', (after h).getSession mac = some s → birth mac h = some n →
      (after h).getSession mac' = some s' → birth mac' h = some n' →
      (s.gtpTeidC = s'.gtpTeidC ↔ n % 2 ^ 31 = n' % 2 ^ 31) ∧
        (s.gtpTeidU = s'.gtpTeidU ↔ n % 2 ^ 31 = n' % 2 ^ 31)) ∧
    (∀ it t, (after h).getSessionByTeidC it t = none ↔
      ∀ mac s, (after h).getSession mac = some s → s.gtpTeidC ≠ t) ∧
    (Young h →
      (∀ mac mac' s s', mac ≠ mac' → (after h).getSession mac = some s →
        (after h).getSession mac' = some s' →
        s.gtpTeidC ≠ s'.gtpTeidC ∧ s.gtpTeidU ≠ s'.gtpTeidU) ∧
      ∀ it t mac s, (after h).getSessionByTeidC it t = some ⟨mac, s⟩ ↔
        (after h).getSession mac = some s ∧ s.gtpTeidC = t) := by
  refine ⟨?_, ?_, fun it t => SessionManager.getSessionByTeidC_eq_none_iff, fun hy => ⟨?_, ?_⟩⟩
  · intro mac mac' s s' hs hs'
    obtain ⟨n, -, -, hc, -⟩ := birth_stored hs
    obtain ⟨n', -, -, -, hu⟩ := birth_stored hs'
    rw [hc, hu]
    exact teidC_ne_teidU n n'
  · intro mac mac' s s' n n' hs hb hs' hb'
    obtain ⟨k, -, hk, hc, hu⟩ := birth_stored hs
    obtain ⟨k', -, hk', hc', hu'⟩ := birth_stored hs'
    cases hb.symm.trans hk
    cases hb'.symm.trans hk'
    rw [hc, hc', hu, hu']
    exact ⟨teidC_eq_iff n n', teidU_eq_iff n n'⟩
  · intro mac mac' s s' hne hs hs'
    exact hy.teids_ne hne hs hs'
  · intro it t mac s
    refine ⟨SessionManager.getSessionByTeidC_stored, fun ⟨hs, ht⟩ => ?_⟩
    subst ht
    refine SessionManager.getSessionByTeidC_of_unique it hs fun mac' s' hs' ht => ?_
    by_contra hne
    exact (hy.teids_ne hne hs' hs).1 ht

/-! ## A session that stays too long -/

/-- The UE `mac` comes and goes `k` times. -/
def churn (mem : Indeterminate) (mac : Bytes) : Nat → List Call → List Call
  | 0, h => h
  | k + 1, h => .remove mac :: .create mem mac :: churn mem mac k h

theorem churn_spec (mem : Indeterminate) {mac : Bytes} {h : List Call}
    (hn : (after h).getSession mac = none) (k : Nat) :
    (after (churn mem mac k h)).getSession mac = none ∧
      created (churn mem mac k h) = created h + k ∧
      ∀ mac', mac ≠ mac' → birth mac' (churn mem mac k h) = birth mac' h := by
  induction k with
  | zero => exact ⟨hn, rfl, fun _ _ => rfl⟩
  | succ k ih =>
    obtain ⟨hg, hc, hb⟩ := ih
    have hs : ¬ ((after (churn mem mac k h)).getSession mac).isSome := by
      rw [hg]
      exact Bool.false_ne_true
    refine ⟨SessionManager.getSession_removeSession _ _, ?_, fun mac' hm => ?_⟩
    · simp only [churn, created, if_neg hs]
      omega
    · simp only [churn, birth, if_neg hm]
      exact hb mac' hm

/-- The UE `[0]` attaches and stays, and then `[1]` comes and goes `k` times and
attaches once more. -/
def overstay (k : Nat) : List Call :=
  let mem : Indeterminate := ⟨0, 0, 0, ⟨0, 0⟩, 0, Vector.replicate 16 0⟩
  .create mem [1] :: churn mem [1] k [.create mem [0]]

theorem teid_routing_overstay :
    Young (overstay 0) ∧
      ∀ it, ((after (overstay 0)).getSessionByTeidC it 3).map Sigma.fst = some [1] := by
  have hy : Young (overstay 0) := by
    intro mac n _
    have hc : created (overstay 0) = 2 := rfl
    omega
  have hm : ((after (overstay 0)).getSession [1]).map UeSession.gtpTeidC = some 3 := by decide
  obtain ⟨s, hs, ht⟩ := Option.map_eq_some_iff.mp hm
  refine ⟨hy, fun it => ?_⟩
  rw [(((teid_routing (overstay 0)).2.2.2 hy).2 it 3 [1] s).mpr ⟨hs, ht⟩]
  rfl

theorem birth_overstay (k : Nat) :
    birth [0] (overstay k) = some 0 ∧ birth [1] (overstay k) = some (k + 1) := by
  simp only [overstay]
  generalize (⟨0, 0, 0, ⟨0, 0⟩, 0, Vector.replicate 16 0⟩ : Indeterminate) = mem
  have hne : ([1] : Bytes) ≠ [0] := by decide
  have h₀ : (after [.create mem [0]]).getSession [1] = none := rfl
  obtain ⟨hg, hc, hb⟩ := churn_spec mem h₀ k
  have hn : ¬ ((after (churn mem [1] k [.create mem [0]])).getSession [1]).isSome := by
    rw [hg]
    exact Bool.false_ne_true
  constructor
  · rw [birth, if_neg hne, hb [0] hne]
    rfl
  · rw [birth, if_pos rfl, if_neg hn, hc, Nat.add_comm]
    rfl

/-- Two sessions with the TEIDs of one: the scan cannot find both. -/
theorem ambiguous_of_birth {h : List Call} {mac mac' : Bytes} {n n' : Nat} (hne : mac ≠ mac')
    (hb : birth mac h = some n) (hb' : birth mac' h = some n') (hmod : n % 2 ^ 31 = n' % 2 ^ 31) :
    ∃ (s : UeSession mac) (s' : UeSession mac'),
      (after h).getSession mac = some s ∧ (after h).getSession mac' = some s' ∧
      s.gtpTeidC = s'.gtpTeidC ∧ s.gtpTeidU = s'.gtpTeidU ∧
      ∀ it, (after h).getSessionByTeidC it s.gtpTeidC ≠ some ⟨mac, s⟩ ∨
        (after h).getSessionByTeidC it s.gtpTeidC ≠ some ⟨mac', s'⟩ := by
  obtain ⟨-, s, hs, hc, hu⟩ := stored_of_birth hb
  obtain ⟨-, s', hs', hc', hu'⟩ := stored_of_birth hb'
  refine ⟨s, s', hs, hs', ?_, ?_, fun it => ?_⟩
  · rw [hc, hc', teidC_eq_iff, hmod]
  · rw [hu, hu', teidU_eq_iff, hmod]
  · by_cases hf : (after h).getSessionByTeidC it s.gtpTeidC = some ⟨mac, s⟩
    · refine .inr fun hf' => hne ?_
      have he := hf.symm.trans hf'
      simp only [Option.some.injEq, Sigma.mk.injEq] at he
      exact he.1
    · exact .inl hf

/-- After `2³¹ - 1` other sessions, the next one gets the TEIDs of the first,
which is still stored. -/
theorem teid_reused :
    ∃ (h : List Call) (mac mac' : Bytes) (s : UeSession mac) (s' : UeSession mac'), mac ≠ mac' ∧
      (after h).getSession mac = some s ∧ (after h).getSession mac' = some s' ∧
      s.gtpTeidC = s'.gtpTeidC ∧ s.gtpTeidU = s'.gtpTeidU ∧
      ∀ it, (after h).getSessionByTeidC it s.gtpTeidC ≠ some ⟨mac, s⟩ ∨
        (after h).getSessionByTeidC it s.gtpTeidC ≠ some ⟨mac', s'⟩ := by
  obtain ⟨hb, hb'⟩ := birth_overstay (2 ^ 31 - 1)
  have hne : ([0] : Bytes) ≠ [1] := by decide
  obtain ⟨s, s', hr⟩ := ambiguous_of_birth hne hb hb' (by decide)
  exact ⟨overstay (2 ^ 31 - 1), [0], [1], s, s', hne, hr⟩

end Twag.Proof.SessionManager

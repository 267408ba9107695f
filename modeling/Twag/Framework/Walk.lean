import Mathlib.Data.Fintype.Pigeonhole
import Mathlib.Data.List.Basic

/-!
# Loops over a buffer

A parser's loop `while (more(i)) { visit(s, i); i = next(i); }`: how it moves
does not depend on what it has read. `walk` runs it, and `trail` is the list of
the positions it visits:

* `walk_ok_iff`: what the loop leaves is `visit` folded over its trail;
* `foldlM_ok`: an invariant of the visits, over the positions visited so far;
* `walk_total`: a loop that only moves forward, and stops at a bound, ends;
* `trail_eq_none_iff`: where the loop is after some turns, and that it does not end
  exactly if it may go on after each of the turns it is given;
* `trail_bounded_iff`: a loop over a bounded range ends exactly if it never comes
  back to a position;
* `walk_congr`: two loops that do the same wherever the first one comes to do the
  same altogether.
-/

namespace Twag

/-- What a loop can end in that is not a result. -/
inductive Fault where
  /-- It never ends. -/
  | diverges
  /-- It writes outside the object it fills. -/
  | outOfBounds
deriving DecidableEq, Repr

section

variable {σ : Type} (more : Nat → Bool) (next : Nat → Nat) (visit : σ → Nat → Except Fault σ)

/-- The loop from position `i` and state `s`: where it stops, and the state. It
diverges if `fuel` tests of its condition are not enough. -/
def walk : Nat → Nat → σ → Except Fault (Nat × σ)
  | 0, _, _ => .error .diverges
  | fuel + 1, i, s =>
    if more i then (visit s i).bind (walk fuel (next i)) else .ok (i, s)

/-- The positions that the loop from `i` visits. -/
def trail : Nat → Nat → Option (List Nat)
  | 0, _ => none
  | fuel + 1, i => if more i then (trail fuel (next i)).map (i :: ·) else some []

end

variable {σ : Type} {more : Nat → Bool} {next : Nat → Nat} {visit : σ → Nat → Except Fault σ}

theorem bind_ok_iff {ε α β : Type} {r : Except ε α} {f : α → Except ε β} {b : β} :
    r.bind f = .ok b ↔ ∃ a, r = .ok a ∧ f a = .ok b := by
  cases r with
  | error e => simp [Except.bind]
  | ok a => simp [Except.bind]

theorem map_ok_iff {ε α β : Type} {r : Except ε α} {f : α → β} {b : β} :
    r.map f = .ok b ↔ ∃ a, r = .ok a ∧ f a = b := by
  cases r with
  | error e => simp [Except.map]
  | ok a => simp [Except.map]

theorem foldlM_cons_ok_iff {i : Nat} {l : List Nat} {s s' : σ} :
    (i :: l).foldlM visit s = .ok s' ↔ ∃ s₁, visit s i = .ok s₁ ∧ l.foldlM visit s₁ = .ok s' := by
  rw [List.foldlM_cons]
  exact bind_ok_iff

theorem walk_ok_iff {fuel i : Nat} {s s' : σ} :
    (∃ j, walk more next visit fuel i s = .ok (j, s')) ↔
      ∃ l, trail more next fuel i = some l ∧ l.foldlM visit s = .ok s' := by
  induction fuel generalizing i s with
  | zero => simp [walk, trail]
  | succ fuel ih =>
    cases hm : more i with
    | false =>
      simp only [walk, trail, hm, Bool.false_eq_true, if_false, Except.ok.injEq, Prod.mk.injEq,
        exists_eq_left', Option.some.injEq, List.foldlM_nil]
      exact ⟨congrArg Except.ok, Except.ok.inj⟩
    | true =>
      simp only [walk, trail, hm, if_true, bind_ok_iff, Option.map_eq_some_iff]
      constructor
      · rintro ⟨j, s₁, hv, hw⟩
        obtain ⟨l, hl, hf⟩ := ih.mp ⟨j, hw⟩
        exact ⟨i :: l, ⟨l, hl, rfl⟩, foldlM_cons_ok_iff.mpr ⟨s₁, hv, hf⟩⟩
      · rintro ⟨_, ⟨l, hl, rfl⟩, hf⟩
        obtain ⟨s₁, hv, hf⟩ := foldlM_cons_ok_iff.mp hf
        obtain ⟨j, hw⟩ := ih.mpr ⟨l, hl, hf⟩
        exact ⟨j, s₁, hv, hw⟩

/-- What a visit makes of an invariant over the positions before it holds, at
the end, over all of them. -/
theorem foldlM_ok (p : List Nat → σ → Prop) {l : List Nat} {s s' : σ}
    (hv : ∀ l i s s', p l s → visit s i = .ok s' → p (l ++ [i]) s')
    (h : l.foldlM visit s = .ok s') (hp : p [] s) : p l s' := by
  suffices ∀ (l l₀ : List Nat) (s : σ), p l₀ s → l.foldlM visit s = .ok s' → p (l₀ ++ l) s' from
    this l [] s hp h
  intro l
  induction l with
  | nil =>
    intro l₀ s hp h
    cases h
    rwa [List.append_nil]
  | cons i l ih =>
    intro l₀ s hp h
    obtain ⟨s₁, hs, h⟩ := foldlM_cons_ok_iff.mp h
    have := ih (l₀ ++ [i]) s₁ (hv l₀ i s s₁ hp hs) h
    rwa [List.append_assoc] at this

/-- A loop whose position only grows, up to `bound`, ends. -/
theorem walk_total {bound fuel i : Nat} {s : σ}
    (hn : ∀ i, more i = true → i < next i ∧ i < bound)
    (hv : ∀ s i, more i = true → ∃ s', visit s i = .ok s') (hf : bound - i < fuel) :
    ∃ j s', walk more next visit fuel i s = .ok (j, s') := by
  induction fuel generalizing i s with
  | zero => omega
  | succ fuel ih =>
    cases hm : more i with
    | false => exact ⟨i, s, by rw [walk, hm]; rfl⟩
    | true =>
      obtain ⟨s₁, hs⟩ := hv s i hm
      obtain ⟨hi, hb⟩ := hn i hm
      obtain ⟨j, s', hw⟩ := ih (i := next i) (s := s₁) (by omega)
      exact ⟨j, s', by rw [walk, hm, if_pos rfl, hs]; exact hw⟩

/-! ## Loops that come back -/

/-- The loop does not end in `fuel` tests exactly if it may go on at each. -/
theorem trail_eq_none_iff {fuel i : Nat} :
    trail more next fuel i = none ↔ ∀ k < fuel, more (next^[k] i) = true := by
  induction fuel generalizing i with
  | zero => simp [trail]
  | succ fuel ih =>
    cases hm : more i with
    | false =>
      simp only [trail, hm, Bool.false_eq_true, if_false, reduceCtorEq, false_iff, not_forall]
      exact ⟨0, Nat.succ_pos fuel, by simp [hm]⟩
    | true =>
      simp only [trail, hm, if_true, Option.map_eq_none_iff, ih]
      constructor
      · intro h k hk
        cases k with
        | zero => exact hm
        | succ k => exact h k (by omega)
      · intro h k hk
        exact h (k + 1) (by omega)

/-- A loop that is back at a position goes on for ever. -/
theorem more_of_back {i a b : Nat} (hab : a < b) (hm : ∀ k < b, more (next^[k] i) = true)
    (he : next^[a] i = next^[b] i) (k : Nat) : more (next^[k] i) = true := by
  induction k using Nat.strongRecOn with
  | ind k ih =>
    rcases Nat.lt_or_ge k b with hk | hk
    · exact hm k hk
    · -- the turn `k` is the turn `k - b + a` again
      have hback : next^[k] i = next^[k - b + a] i := by
        rw [Function.iterate_add_apply, he, ← Function.iterate_add_apply, Nat.sub_add_cancel hk]
      rw [hback]
      exact ih (k - b + a) (by omega)

/-- A loop over positions below a bound ends exactly if it never comes back to one. -/
theorem trail_bounded_iff {bound fuel i : Nat} (hb : ∀ p, more p = true → p < bound)
    (hf : bound < fuel) :
    trail more next fuel i = none ↔
      ∃ a b, a < b ∧ (∀ k < b, more (next^[k] i) = true) ∧ next^[a] i = next^[b] i := by
  rw [trail_eq_none_iff]
  constructor
  · intro h
    -- of the first `bound + 1` positions two are the same
    let f (k : Fin (bound + 1)) : Fin bound := ⟨next^[k] i, hb _ (h k (by omega))⟩
    obtain ⟨a, b, hne, he⟩ := Fintype.exists_ne_map_eq_of_card_lt f (by simp)
    have he : next^[a] i = next^[b] i := congrArg Fin.val he
    rcases Nat.lt_or_gt_of_ne (fun hv => hne (Fin.ext hv)) with hab | hab
    · exact ⟨a, b, hab, fun k hk => h k (by omega), he⟩
    · exact ⟨b, a, hab, fun k hk => h k (by omega), he.symm⟩
  · rintro ⟨a, b, hab, hm, he⟩ k -
    exact more_of_back hab hm he k

/-- A loop that neither moves nor changes its state never ends. -/
theorem walk_stuck {i : Nat} {s : σ} (hm : more i = true) (hn : next i = i)
    (hv : visit s i = .ok s) (fuel : Nat) : walk more next visit fuel i s = .error .diverges := by
  induction fuel with
  | zero => rfl
  | succ fuel ih => rw [walk, if_pos hm, hv, Except.bind, hn, ih]

/-! ## What a loop comes to -/

section

variable (more next visit)

/-- The loop from `i` and `s` comes to position `j`, with the state `t`. -/
inductive Reaches : Nat → σ → Nat → σ → Prop where
  | here {i : Nat} {s : σ} (hm : more i = true) : Reaches i s i s
  | later {i j : Nat} {s s₁ t : σ} (hm : more i = true) (hv : visit s i = .ok s₁)
      (h : Reaches (next i) s₁ j t) : Reaches i s j t

end

/-- Two loops that do the same wherever the first one comes to do the same. -/
theorem walk_congr {next' : Nat → Nat} {visit' : σ → Nat → Except Fault σ} {fuel i : Nat} {s : σ}
    (h : ∀ j t, Reaches more next visit i s j t → next' j = next j ∧ visit' t j = visit t j) :
    walk more next' visit' fuel i s = walk more next visit fuel i s := by
  induction fuel generalizing i s with
  | zero => rfl
  | succ fuel ih =>
    cases hm : more i with
    | false => simp only [walk, hm, Bool.false_eq_true, if_false]
    | true =>
      obtain ⟨hn, hv⟩ := h i s (.here hm)
      simp only [walk, hm, if_true, hn, hv]
      cases hs : visit s i with
      | error e => rfl
      | ok s₁ => exact ih fun j t hj => h j t (.later hm hs hj)

end Twag

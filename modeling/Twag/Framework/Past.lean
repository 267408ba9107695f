import Mathlib.Data.List.Basic

/-!
# Past-time operators on histories

A history is the list of the steps taken so far, the newest first, so that a
step `x` taken after the history `h` makes the history `x :: h`. A property of
a step may look at the history before it. `Since a q` holds if some step
satisfied `a`, and every step after it `q`; `Throughout q` if every step
satisfied `q`. Step `x` was taken after `g` in the history `h` if `x :: g` is a
suffix of `h`; `Since.taken` and `throughout_iff` say the operators so.
-/

namespace Twag

variable {ι : Type}

/-- A step satisfied `a`, and every later one `q`. -/
def Since (a q : List ι → ι → Prop) : List ι → Prop
  | [] => False
  | x :: h => a h x ∨ (q h x ∧ Since a q h)

/-- Every step satisfied `q`. -/
def Throughout (q : List ι → ι → Prop) : List ι → Prop
  | [] => True
  | x :: h => q h x ∧ Throughout q h

variable {a a' q q' : List ι → ι → Prop} {h g : List ι} {x : ι}

theorem Since.now (ha : a h x) : Since a q (x :: h) := .inl ha

theorem Since.later (hq : q h x) (hs : Since a q h) : Since a q (x :: h) := .inr ⟨hq, hs⟩

theorem Since.imp (ha : ∀ g y, a g y → a' g y) (hq : ∀ g y, q g y → q' g y) (hs : Since a q h) :
    Since a' q' h := by
  induction h with
  | nil => exact hs
  | cons x h ih =>
    rcases hs with hx | ⟨hx, hs⟩
    · exact .now (ha h x hx)
    · exact .later (hq h x hx) (ih hs)

/-- Two `Since` speak of one step if each speaks of the last step that satisfied `r`. -/
theorem Since.and (r : List ι → ι → Prop) (ha : ∀ g y, a g y → r g y) (hq : ∀ g y, q g y → ¬ r g y)
    (ha' : ∀ g y, a' g y → r g y) (hq' : ∀ g y, q' g y → ¬ r g y)
    (hs : Since a q h) (hs' : Since a' q' h) :
    Since (fun g y => a g y ∧ a' g y) (fun g y => q g y ∧ q' g y) h := by
  induction h with
  | nil => exact hs
  | cons x h ih =>
    rcases hs with hx | ⟨hx, hs⟩ <;> rcases hs' with hx' | ⟨hx', hs'⟩
    · exact Or.inl ⟨hx, hx'⟩
    · exact absurd (ha h x hx) (hq' h x hx')
    · exact absurd (ha' h x hx') (hq h x hx)
    · exact Or.inr ⟨⟨hx, hx'⟩, ih hs hs'⟩

/-- What every step satisfied, the step that a `Since` speaks of satisfied. -/
theorem Since.throughout (hs : Since a q h) (ht : Throughout q' h) :
    Since (fun g y => a g y ∧ q' g y) q h := by
  induction h with
  | nil => exact hs
  | cons x h ih =>
    rcases hs with hx | ⟨hx, hs⟩
    · exact Or.inl ⟨hx, ht.1⟩
    · exact .later hx (ih hs ht.2)

theorem Since.taken (hs : Since a q h) : ∃ g y, (y :: g) <:+ h ∧ a g y := by
  induction h with
  | nil => exact hs.elim
  | cons x h ih =>
    rcases hs with hx | ⟨-, hs⟩
    · exact ⟨h, x, List.suffix_rfl, hx⟩
    · obtain ⟨g, y, ht, hy⟩ := ih hs
      exact ⟨g, y, ht.trans (List.suffix_cons x h), hy⟩

theorem Since.position (hs : Since a q h) : ∃ i, Since (fun g y => g.length = i ∧ a g y) q h := by
  induction h with
  | nil => exact hs.elim
  | cons x h ih =>
    rcases hs with hx | ⟨hx, hs⟩
    · exact ⟨h.length, Or.inl ⟨rfl, hx⟩⟩
    · obtain ⟨i, hi⟩ := ih hs
      exact ⟨i, .later hx hi⟩

theorem Since.lt_length {i : Nat} (hs : Since (fun g y => g.length = i ∧ a g y) q h) :
    i < h.length := by
  obtain ⟨g, y, ht, hi, -⟩ := hs.taken
  have hle := ht.length_le
  rw [List.length_cons] at hle
  omega

/-- What held after a step, and is kept by every step since, holds. -/
theorem Since.kept (p : List ι → Prop) {i : Nat} (hs : Since (fun g y => g.length = i ∧ a g y) q h)
    (hk : ∀ g y, q g y → p g → p (y :: g)) (ht : g <:+ h) (hi : i < g.length) (hp : p g) : p h := by
  induction h with
  | nil => exact hs.elim
  | cons x h ih =>
    rcases List.suffix_cons_iff.mp ht with rfl | ht
    · exact hp
    · rcases hs with ⟨hl, -⟩ | ⟨hx, hs⟩
      · have hle := ht.length_le
        omega
      · exact hk h x hx (ih hs ht)

/-- Every step after the one a `Since` speaks of satisfied what it says of them. -/
theorem Since.of_lt {i : Nat} (hs : Since (fun g y => g.length = i ∧ a g y) q h)
    (ht : (x :: g) <:+ h) (hi : i < g.length) : q g x := by
  induction h with
  | nil => exact hs.elim
  | cons y h ih =>
    rcases List.suffix_cons_iff.mp ht with he | ht
    · cases he
      rcases hs with ⟨hl, -⟩ | ⟨hq, -⟩
      · omega
      · exact hq
    · rcases hs with ⟨hl, -⟩ | ⟨-, hs⟩
      · have hle := ht.length_le
        rw [List.length_cons] at hle
        omega
      · exact ih hs ht

/-- A step that satisfied `a`, and after which every step satisfied `q`. -/
theorem since_of_taken (ht : (x :: g) <:+ h) (ha : a g x)
    (hq : ∀ g' y, (y :: g') <:+ h → g.length < g'.length → q g' y) : Since a q h := by
  induction h with
  | nil => exact absurd (List.suffix_nil.mp ht) (List.cons_ne_nil x g)
  | cons y h ih =>
    rcases List.suffix_cons_iff.mp ht with he | ht
    · cases he
      exact .now ha
    · have hlt : g.length < h.length := ht.length_le
      refine .later (hq h y List.suffix_rfl hlt) (ih ht fun g' z ht' => ?_)
      exact hq g' z (ht'.trans (List.suffix_cons y h))

theorem throughout_iff : Throughout q h ↔ ∀ g y, (y :: g) <:+ h → q g y := by
  induction h with
  | nil =>
    refine ⟨fun _ g y ht => ?_, fun _ => trivial⟩
    exact absurd (List.suffix_nil.mp ht) (List.cons_ne_nil y g)
  | cons x h ih =>
    constructor
    · intro hq g y ht
      rcases List.suffix_cons_iff.mp ht with he | ht
      · cases he
        exact hq.1
      · exact ih.mp hq.2 g y ht
    · intro hq
      exact ⟨hq h x List.suffix_rfl, ih.mpr fun g y ht => hq g y (ht.trans (List.suffix_cons x h))⟩

/-- A position in a history names one step. -/
theorem taken_unique {y y' : ι} {g g' : List ι} (ht : (y :: g) <:+ h) (ht' : (y' :: g') <:+ h)
    (hl : g.length = g'.length) : y = y' ∧ g = g' := by
  have hle : (y :: g).length ≤ (y' :: g').length := by simp only [List.length_cons]; omega
  have he := (List.suffix_of_suffix_length_le ht ht' hle).eq_of_length (by simp [hl])
  exact List.cons.inj he

end Twag

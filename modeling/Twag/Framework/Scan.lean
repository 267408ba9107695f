import Mathlib.Data.List.Basic

/-!
# Scanning an unordered container

An unordered container holds its elements in some order that its user does
not know and that any operation may change. `IterationOrder` is such an order:
for every list of elements a permutation of it. `find` is a first-match scan
in that order. Whatever the order, it finds only elements that match
(`find_mem`), finds one if there is one (`find_eq_none_iff`), and finds a given
one if no other matches (`find_eq_of_unique`); any that matches may be the one
that is found (`exists_find`).
-/

namespace Twag

/-- The order in which an unordered container visits its elements. -/
structure IterationOrder (α : Type) where
  order : List α → List α
  perm (l : List α) : (order l).Perm l

namespace IterationOrder

variable {α : Type} (it : IterationOrder α) {p : α → Bool} {l : List α} {a : α}

def inserted : IterationOrder α := ⟨id, fun l => .refl l⟩

/-- The first element that matches. -/
def find (p : α → Bool) (l : List α) : Option α := (it.order l).find? p

theorem find_mem (h : it.find p l = some a) : a ∈ l ∧ p a = true :=
  ⟨(it.perm l).mem_iff.mp (List.mem_of_find?_eq_some h), List.find?_some h⟩

theorem find_eq_none_iff : it.find p l = none ↔ ∀ a ∈ l, p a = false := by
  simp only [find, List.find?_eq_none, (it.perm l).mem_iff, Bool.not_eq_true]

theorem find_eq_of_unique (ha : a ∈ l) (hp : p a = true) (hu : ∀ b ∈ l, p b = true → b = a) :
    it.find p l = some a := by
  cases h : it.find p l with
  | none => rw [it.find_eq_none_iff.mp h a ha] at hp; cases hp
  | some b => rw [hu b (it.find_mem h).1 (it.find_mem h).2]

theorem exists_find (ha : a ∈ l) (hp : p a = true) :
    ∃ it : IterationOrder α, it.find p l = some a := by
  classical
  obtain ⟨l₁, l₂, rfl⟩ := List.append_of_mem ha
  -- the order that visits `a` before the rest of this list
  let order (l : List α) : List α := if l = l₁ ++ a :: l₂ then a :: (l₁ ++ l₂) else l
  have hperm (l : List α) : (order l).Perm l := by
    by_cases hl : l = l₁ ++ a :: l₂
    · rw [show order l = a :: (l₁ ++ l₂) from if_pos hl, hl]
      exact List.perm_middle.symm
    · rw [show order l = l from if_neg hl]
  refine ⟨⟨order, hperm⟩, ?_⟩
  show (order (l₁ ++ a :: l₂)).find? p = some a
  rw [show order (l₁ ++ a :: l₂) = a :: (l₁ ++ l₂) from if_pos rfl, List.find?_cons_of_pos hp]

/-- Where a container holds the same elements in another arrangement, some order finds the
same in it. -/
theorem exists_find_eq {l' : List α} (h : l.Perm l') :
    ∃ it' : IterationOrder α, ∀ p, it'.find p l' = it.find p l := by
  classical
  let order (k : List α) : List α := if k = l' then it.order l else k
  have hperm (k : List α) : (order k).Perm k := by
    by_cases hk : k = l'
    · rw [show order k = it.order l from if_pos hk, hk]
      exact (it.perm l).trans h
    · rw [show order k = k from if_neg hk]
  refine ⟨⟨order, hperm⟩, fun p => ?_⟩
  show (order l').find? p = _
  rw [show order l' = it.order l from if_pos rfl, find]

end IterationOrder

end Twag

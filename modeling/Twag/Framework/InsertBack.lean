import Mathlib.Data.List.DropRight

/-!
# Insertion from the end

An ordered list that is searched from its end for the place of a new element:
the elements that are `later` are passed over, and the new one goes behind the
first that is not. Whatever `later` is, the list gets the one element
(`perm_insertBack`); if it agrees with the order, the list stays ordered
(`pairwise_insertBack`).
-/

namespace Twag

variable {α : Type} {later : α → Bool} {a : α} {l : List α}

/-- `a` behind the last element that is not `later`. -/
def insertBack (later : α → Bool) (a : α) (l : List α) : List α :=
  l.rdropWhile later ++ a :: l.rtakeWhile later

theorem rdropWhile_append_rtakeWhile (p : α → Bool) (l : List α) :
    l.rdropWhile p ++ l.rtakeWhile p = l := by
  rw [List.rdropWhile, List.rtakeWhile, ← List.reverse_append, List.takeWhile_append_dropWhile,
    List.reverse_reverse]

theorem perm_insertBack : (insertBack later a l).Perm (a :: l) := by
  have hl := rdropWhile_append_rtakeWhile later l
  have hmiddle : (insertBack later a l).Perm (a :: (l.rdropWhile later ++ l.rtakeWhile later)) :=
    List.perm_middle
  rwa [hl] at hmiddle

/-- The elements that are passed over are `later`. -/
theorem later_of_mem_rtakeWhile {x : α} (h : x ∈ l.rtakeWhile later) : later x = true := by
  rw [List.rtakeWhile, List.mem_reverse] at h
  exact List.mem_takeWhile_imp h

/-- The element that the new one goes behind is not `later`. -/
theorem not_later_of_getLast? {x : α} (h : (l.rdropWhile later).getLast? = some x) :
    later x = false := by
  have hne : l.rdropWhile later ≠ [] := List.ne_nil_of_mem (List.mem_of_getLast? h)
  have hlast := List.rdropWhile_last_not later l hne
  rw [List.getLast?_eq_some_getLast hne, Option.some.injEq] at h
  rw [h] at hlast
  simpa using hlast

theorem pairwise_insertBack {R : α → α → Prop} (htrans : ∀ x y z, R x y → R y z → R x z)
    (h : l.Pairwise R) (hlater : ∀ x ∈ l, later x = true → R a x)
    (hprev : ∀ x, (l.rdropWhile later).getLast? = some x → R x a) :
    (insertBack later a l).Pairwise R := by
  have hl := rdropWhile_append_rtakeWhile later l
  rw [← hl, List.pairwise_append] at h
  obtain ⟨hdrop, htake, hcross⟩ := h
  -- what is before the place of `a` is before its last element or is that element
  have hbefore : ∀ x ∈ l.rdropWhile later, R x a := by
    intro x hx
    obtain ⟨init, y, hy⟩ : ∃ init y, l.rdropWhile later = init ++ [y] :=
      ⟨_, _, (List.dropLast_append_getLast (List.ne_nil_of_mem hx)).symm⟩
    have hya : R y a := hprev y (by rw [hy, List.getLast?_concat])
    rw [hy] at hx hdrop
    obtain hx | hx := List.mem_append.1 hx
    · exact htrans x y a ((List.pairwise_append.1 hdrop).2.2 x hx y (List.mem_singleton_self y)) hya
    · rw [List.mem_singleton.1 hx]
      exact hya
  have hafter : ∀ x ∈ l.rtakeWhile later, R a x := fun x hx =>
    hlater x (hl ▸ List.mem_append_right _ hx) (later_of_mem_rtakeWhile hx)
  rw [insertBack, List.pairwise_append]
  refine ⟨hdrop, List.pairwise_cons.2 ⟨hafter, htake⟩, fun x hx y hy => ?_⟩
  obtain rfl | hy := List.mem_cons.1 hy
  · exact hbefore x hx
  · exact hcross x hx y hy

end Twag

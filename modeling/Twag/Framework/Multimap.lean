import Mathlib.Order.Lattice

/-!
# Ordered multimaps

`std::multimap`: a list of pairs in ascending order of their keys, where an
insertion goes behind every pair with the same key. The order is a field of
the structure, so an unordered multimap cannot be built:

* `mem_insert`, `countP_insert`: an insertion adds one pair and keeps the
  others;
* `pairwise_insertEntry`: what an insertion keeps of a relation between pairs
  in their order;
* `popFirst_cases`: taking the first pair off leaves the others, none of
  which has a smaller key;
* `map_insert`, `popFirst_map`: no operation looks at the values.
-/

namespace Twag

/-- The pairs of a multimap, smallest key first. -/
structure Multimap (K V : Type) [LinearOrder K] where
  entries : List (K × V)
  sorted : entries.Pairwise fun a b => a.1 ≤ b.1

namespace Multimap

variable {K V : Type} [LinearOrder K]

/-- Insertion behind every pair whose key is not larger. -/
def insertEntry (k : K) (v : V) : List (K × V) → List (K × V)
  | [] => [(k, v)]
  | e :: l => if k < e.1 then (k, v) :: e :: l else e :: insertEntry k v l

theorem perm_insertEntry (k : K) (v : V) (l : List (K × V)) :
    (insertEntry k v l).Perm ((k, v) :: l) := by
  induction l with
  | nil => exact List.Perm.refl _
  | cons a l ih =>
    simp only [insertEntry]
    split
    · exact List.Perm.refl _
    · exact (ih.cons a).trans (List.Perm.swap (k, v) a l)

theorem mem_insertEntry {k : K} {v : V} {e : K × V} {l : List (K × V)} :
    e ∈ insertEntry k v l ↔ e = (k, v) ∨ e ∈ l :=
  (perm_insertEntry k v l).mem_iff.trans List.mem_cons

/-- An insertion leaves the pairs of another kind as they are. -/
theorem filter_insertEntry {p : K × V → Bool} {k : K} {v : V} (h : p (k, v) = false)
    (l : List (K × V)) : (insertEntry k v l).filter p = l.filter p := by
  induction l with
  | nil => simp [insertEntry, h]
  | cons a l ih =>
    simp only [insertEntry]
    split
    · exact List.filter_cons_of_neg (by simp [h])
    · rw [List.filter_cons, List.filter_cons, ih]

/-- What holds between every two pairs in their order still does after an
insertion, if it does between the new pair and those before and behind it. -/
theorem pairwise_insertEntry {R : K × V → K × V → Prop} {k : K} {v : V} {l : List (K × V)}
    (hs : l.Pairwise fun a b => a.1 ≤ b.1) (hl : l.Pairwise R)
    (hb : ∀ e ∈ l, e.1 ≤ k → R e (k, v)) (ha : ∀ e ∈ l, k < e.1 → R (k, v) e) :
    (insertEntry k v l).Pairwise R := by
  induction l with
  | nil => simp [insertEntry]
  | cons a l ih =>
    obtain ⟨hsa, hs'⟩ := List.pairwise_cons.mp hs
    obtain ⟨hla, hl'⟩ := List.pairwise_cons.mp hl
    simp only [insertEntry]
    split
    · rename_i hk
      refine List.pairwise_cons.mpr ⟨fun b hb' => ha b hb' ?_, hl⟩
      rcases List.mem_cons.mp hb' with rfl | hb'
      · exact hk
      · exact hk.trans_le (hsa b hb')
    · rename_i hk
      have hrest := ih hs' hl' (fun e he => hb e (List.mem_cons_of_mem _ he))
        (fun e he => ha e (List.mem_cons_of_mem _ he))
      refine List.pairwise_cons.mpr ⟨fun b hb' => ?_, hrest⟩
      rcases mem_insertEntry.mp hb' with rfl | hb'
      · exact hb a List.mem_cons_self (not_lt.mp hk)
      · exact hla b hb'

theorem sorted_insertEntry (k : K) (v : V) {l : List (K × V)}
    (h : l.Pairwise fun a b => a.1 ≤ b.1) :
    (insertEntry k v l).Pairwise fun a b => a.1 ≤ b.1 :=
  pairwise_insertEntry h h (fun _ _ hle => hle) (fun _ _ hlt => hlt.le)

/-- `multimap::insert`. -/
def insert (t : Multimap K V) (k : K) (v : V) : Multimap K V :=
  ⟨insertEntry k v t.entries, sorted_insertEntry k v t.sorted⟩

def empty : Multimap K V := ⟨[], List.Pairwise.nil⟩

@[simp] theorem entries_empty : (empty : Multimap K V).entries = [] := rfl

theorem mem_insert {t : Multimap K V} {k : K} {v : V} {e : K × V} :
    e ∈ (t.insert k v).entries ↔ e = (k, v) ∨ e ∈ t.entries := mem_insertEntry

theorem countP_insert (p : K × V → Bool) (t : Multimap K V) (k : K) (v : V) :
    (t.insert k v).entries.countP p = t.entries.countP p + if p (k, v) then 1 else 0 :=
  ((perm_insertEntry k v t.entries).countP_eq p).trans List.countP_cons

/-- `begin()`, and the multimap after `erase(begin())`. -/
def popFirst (t : Multimap K V) : Option ((K × V) × Multimap K V) :=
  match t with
  | ⟨[], _⟩ => none
  | ⟨e :: l, h⟩ => some (e, ⟨l, (List.pairwise_cons.mp h).2⟩)

theorem popFirst_cases {t t' : Multimap K V} {e : K × V} (h : t.popFirst = some (e, t')) :
    t.entries = e :: t'.entries ∧ ∀ b ∈ t'.entries, e.1 ≤ b.1 := by
  obtain ⟨_ | ⟨a, l⟩, hs⟩ := t
  · simp [popFirst] at h
  · simp only [popFirst, Option.some.injEq, Prod.mk.injEq] at h
    obtain ⟨rfl, rfl⟩ := h
    exact ⟨rfl, (List.pairwise_cons.mp hs).1⟩

/-! ## Mapping the values -/

variable {W : Type}

/-- The multimap with every value mapped. -/
def map (f : V → W) (t : Multimap K V) : Multimap K W :=
  ⟨t.entries.map fun e => (e.1, f e.2), List.pairwise_map.mpr t.sorted⟩

theorem insertEntry_map (f : V → W) (k : K) (v : V) (l : List (K × V)) :
    insertEntry k (f v) (l.map fun e => (e.1, f e.2)) =
      (insertEntry k v l).map fun e => (e.1, f e.2) := by
  induction l with
  | nil => rfl
  | cons a l ih =>
    simp only [List.map_cons, insertEntry]
    split
    · rfl
    · rw [ih, List.map_cons]

theorem map_insert (f : V → W) (t : Multimap K V) (k : K) (v : V) :
    (t.insert k v).map f = (t.map f).insert k (f v) := by
  simp only [map, insert, insertEntry_map]

theorem popFirst_map (f : V → W) (t : Multimap K V) :
    (t.map f).popFirst = t.popFirst.map fun r => ((r.1.1, f r.1.2), r.2.map f) := by
  obtain ⟨_ | ⟨e, l⟩, hs⟩ := t <;> rfl

end Multimap

end Twag

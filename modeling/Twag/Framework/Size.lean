import Mathlib.Data.List.AList

/-!
# The number of entries of an association list

`AList` keeps at most one entry for each key: inserting under a key in use
keeps the number of entries, under a new key adds one, and erasing a key in use
takes one off.
-/

namespace Twag

variable {α : Type} {β : α → Type} {a : α} {s : AList β}

theorem length_entries (s : AList β) : s.entries.length = s.keys.length := by
  simp [AList.keys, List.keys]

variable [DecidableEq α]

theorem length_entries_insert_mem (b : β a) (h : a ∈ s.keys) :
    (s.insert a b).entries.length = s.entries.length := by
  have := List.length_pos_of_mem h
  rw [length_entries, length_entries, AList.keys_insert, List.length_cons,
    List.length_erase_of_mem h]
  omega

theorem length_entries_insert_notMem (b : β a) (h : a ∉ s.keys) :
    (s.insert a b).entries.length = s.entries.length + 1 := by
  rw [length_entries, length_entries, AList.keys_insert, List.length_cons, List.erase_of_not_mem h]

theorem length_entries_erase (h : a ∈ s.keys) :
    (s.erase a).entries.length + 1 = s.entries.length := by
  have := List.length_pos_of_mem h
  rw [length_entries, length_entries, AList.keys_erase, List.length_erase_of_mem h]
  omega

end Twag

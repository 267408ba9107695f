import Mathlib.Data.List.Basic

/-!
# Records with a length octet

A record is a type octet, a length octet and a value; the length counts the two
octets before the value too, so a value has at most 253 octets. `Tlv.stream`
writes records one after the other, and `Tlv.parse` reads them back as far as
they are well formed:

* `next_bytes`, `next_eq_some`: one record is read exactly where one was written;
* `parse_eq`, `parse_of_eq`: the records read, written again, and the octets left
  are the input, and this determines them;
* `parse_of_next_some`, `parse_of_next_none`: how the reader goes on;
* `parse_longest`: any other records that the input starts with are the first ones
  of those read;
* `exists_cut`, `length_stream`: a value that is too long for one record can be
  cut into several, and how long they are.
-/

namespace Twag

/-- A record. -/
structure Tlv where
  type : UInt8
  value : List UInt8
  length_le : value.length ≤ 253
deriving DecidableEq, Repr

namespace Tlv

/-- A record as it is written. -/
def bytes (t : Tlv) : List UInt8 := t.type :: UInt8.ofNat (t.value.length + 2) :: t.value

/-- Records one after the other. -/
def stream (ts : List Tlv) : List UInt8 := ts.flatMap bytes

/-- The record that the input starts with, and what follows it. -/
def next : List UInt8 → Option (Tlv × List UInt8)
  | type :: len :: rest =>
    if h : 2 ≤ len.toNat ∧ len.toNat - 2 ≤ rest.length then
      some (⟨type, rest.take (len.toNat - 2), by have := len.toNat_lt; simp; omega⟩,
        rest.drop (len.toNat - 2))
    else none
  | _ => none

/-- At most `fuel` records. -/
def parseLoop : Nat → List UInt8 → List Tlv × List UInt8
  | 0, l => ([], l)
  | fuel + 1, l =>
    match next l with
    | none => ([], l)
    | some (t, rest) => ((parseLoop fuel rest).map (t :: ·) id)

/-- The records that the input starts with, up to the first octet that does not
start one, and the octets from there on. -/
def parse (l : List UInt8) : List Tlv × List UInt8 := parseLoop l.length l

/-- The values of the records of one type. -/
def valuesOf (type : UInt8) (ts : List Tlv) : List (List UInt8) :=
  (ts.filter fun t => t.type == type).map value

variable {t : Tlv} {ts ts' : List Tlv} {l r r' : List UInt8}

@[simp] theorem stream_nil : stream [] = [] := rfl

@[simp] theorem stream_cons : stream (t :: ts) = t.bytes ++ stream ts := rfl

@[simp] theorem length_bytes : t.bytes.length = t.value.length + 2 := rfl

theorem toNat_length (t : Tlv) : (UInt8.ofNat (t.value.length + 2)).toNat = t.value.length + 2 := by
  have := t.length_le
  rw [UInt8.toNat_ofNat']
  omega

theorem next_bytes (t : Tlv) (r : List UInt8) : next (t.bytes ++ r) = some (t, r) := by
  have h : 2 ≤ t.value.length + 2 ∧ t.value.length ≤ (t.value ++ r).length := by
    rw [List.length_append]
    omega
  simp only [bytes, List.cons_append, next, toNat_length, Nat.add_sub_cancel, List.take_left,
    List.drop_left, dif_pos h]

theorem next_eq_some (h : next l = some (t, r)) : l = t.bytes ++ r := by
  match l, h with
  | type :: len :: rest, h =>
    simp only [next] at h
    split at h
    · rename_i hl
      cases h
      simp only [bytes, List.length_take, Nat.min_eq_left hl.2, Nat.sub_add_cancel hl.1,
        UInt8.ofNat_toNat, List.cons_append, List.take_append_drop]
    · cases h

theorem length_next (h : next l = some (t, r)) : r.length + 2 ≤ l.length := by
  rw [next_eq_some h, List.length_append, length_bytes]
  omega

theorem parseLoop_eq {fuel : Nat} (hf : l.length ≤ fuel) :
    l = stream (parseLoop fuel l).1 ++ (parseLoop fuel l).2 ∧ next (parseLoop fuel l).2 = none := by
  induction fuel generalizing l with
  | zero =>
    have hl : l = [] := List.length_eq_zero_iff.mp (by omega)
    subst hl
    exact ⟨rfl, rfl⟩
  | succ fuel ih =>
    cases hn : next l with
    | none => simp [parseLoop, hn]
    | some x =>
      obtain ⟨t, r⟩ := x
      have hr := length_next hn
      obtain ⟨h₁, h₂⟩ := ih (l := r) (by omega)
      simp only [parseLoop, hn, Prod.map_fst, Prod.map_snd, id, stream_cons, List.append_assoc,
        ← h₁]
      exact ⟨next_eq_some hn, h₂⟩

/-- What is read, and that nothing more can be. -/
theorem parse_eq (l : List UInt8) :
    l = stream (parse l).1 ++ (parse l).2 ∧ next (parse l).2 = none :=
  parseLoop_eq (Nat.le_refl _)

theorem stream_append_inj (h : stream ts ++ r = stream ts' ++ r') (hr : next r = none) :
    ts' <+: ts := by
  induction ts' generalizing ts with
  | nil => exact List.nil_prefix
  | cons t' ts' ih =>
    cases ts with
    | nil =>
      rw [stream_nil, List.nil_append, stream_cons, List.append_assoc] at h
      rw [h, next_bytes] at hr
      cases hr
    | cons t ts =>
      rw [stream_cons, stream_cons, List.append_assoc, List.append_assoc] at h
      have hn := congrArg next h
      rw [next_bytes, next_bytes] at hn
      obtain ⟨rfl, hts⟩ := Prod.mk.inj (Option.some.inj hn)
      exact (List.prefix_cons_inj t).mpr (ih hts)

/-- Any records that the input starts with are the first ones of those read. -/
theorem parse_longest (h : l = stream ts ++ r) : ts <+: (parse l).1 :=
  stream_append_inj ((parse_eq l).1.symm.trans h) (parse_eq l).2

theorem parse_of_eq (h : l = stream ts ++ r) (hr : next r = none) : parse l = (ts, r) := by
  have h₁ := parse_longest h
  have h₂ : (parse l).1 <+: ts := stream_append_inj (h.symm.trans (parse_eq l).1) hr
  have hts : (parse l).1 = ts := h₂.eq_of_length_le h₁.length_le
  have hl := (parse_eq l).1.symm.trans h
  rw [hts] at hl
  exact Prod.ext hts (List.append_cancel_left hl)

theorem parse_of_next_none (h : next l = none) : parse l = ([], l) := parse_of_eq rfl h

theorem parse_of_next_some (h : next l = some (t, r)) :
    parse l = (t :: (parse r).1, (parse r).2) := by
  refine parse_of_eq ?_ (parse_eq r).2
  rw [stream_cons, List.append_assoc, ← (parse_eq r).1]
  exact next_eq_some h

theorem parse_stream (ts : List Tlv) : parse (stream ts) = (ts, []) :=
  parse_of_eq (List.append_nil _).symm rfl

/-! ## Values that are cut -/

@[simp] theorem valuesOf_nil (type : UInt8) : valuesOf type [] = [] := rfl

theorem valuesOf_cons_self {type : UInt8} (h : t.type = type) :
    valuesOf type (t :: ts) = t.value :: valuesOf type ts := by
  simp [valuesOf, h]

theorem valuesOf_cons_of_ne {type : UInt8} (h : t.type ≠ type) :
    valuesOf type (t :: ts) = valuesOf type ts := by
  simp [valuesOf, h]

/-- A record adds its value, or nothing. -/
theorem length_valuesOf_cons_le (type : UInt8) (t : Tlv) (ts : List Tlv) :
    (valuesOf type (t :: ts)).flatten.length ≤
      t.value.length + (valuesOf type ts).flatten.length := by
  by_cases h : t.type = type
  · refine Nat.le_of_eq ?_
    rw [valuesOf_cons_self h, List.flatten_cons, List.length_append]
  · rw [valuesOf_cons_of_ne h]
    exact Nat.le_add_left _ _

/-- Every record has two octets that are not of its value. -/
theorem length_valuesOf_le (type : UInt8) (ts : List Tlv) :
    (valuesOf type ts).flatten.length + 2 * ts.length ≤ (stream ts).length := by
  induction ts with
  | nil => exact Nat.le_refl 0
  | cons t ts ih =>
    have hcons := length_valuesOf_cons_le type t ts
    rw [stream_cons, List.length_append, length_bytes, List.length_cons]
    omega

theorem length_stream {type : UInt8} (h : ∀ t ∈ ts, t.type = type) :
    (stream ts).length = (valuesOf type ts).flatten.length + 2 * ts.length := by
  induction ts with
  | nil => rfl
  | cons t ts ih =>
    rw [valuesOf_cons_self (h t List.mem_cons_self), stream_cons, List.flatten_cons,
      List.length_append, List.length_append, length_bytes, List.length_cons,
      ih fun t ht => h t (List.mem_cons_of_mem _ ht)]
    omega

theorem length_valuesOf_le_mul (type : UInt8) (ts : List Tlv) :
    (valuesOf type ts).flatten.length ≤ 253 * ts.length := by
  induction ts with
  | nil => exact Nat.zero_le _
  | cons t ts ih =>
    have ht := t.length_le
    have hcons := length_valuesOf_cons_le type t ts
    rw [List.length_cons]
    omega

/-- What has room in `k` records can be cut into at most `k`. -/
theorem exists_cut (type : UInt8) (k : Nat) {v : List UInt8} (hv : v.length ≤ 253 * k) :
    ∃ ts : List Tlv, (∀ t ∈ ts, t.type = type) ∧ (valuesOf type ts).flatten = v ∧
      ts.length ≤ k := by
  induction k generalizing v with
  | zero =>
    have : v = [] := List.length_eq_zero_iff.mp (by omega)
    exact ⟨[], by simp, this.symm, Nat.le_refl 0⟩
  | succ k ih =>
    obtain ⟨ts, ht, hc, hk⟩ := ih (v := v.drop 253) (by rw [List.length_drop]; omega)
    let t : Tlv := ⟨type, v.take 253, List.length_take_le _ _⟩
    refine ⟨t :: ts, List.forall_mem_cons.mpr ⟨rfl, ht⟩, ?_, Nat.succ_le_succ hk⟩
    rw [valuesOf_cons_self (show t.type = type from rfl), List.flatten_cons, hc]
    exact List.take_append_drop 253 v

end Tlv

end Twag

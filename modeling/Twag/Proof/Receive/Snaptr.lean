import Mathlib.Data.List.MinMax
import Mathlib.Data.Prod.Lex
import Twag.Impl.Snaptr

/-!
# The P-GW that the DNS names

The loop over the records of an answer takes the first record whatever its service
is, and from then on records for the service that are before the best so far:

* `selectNaptr_cons`: so it leaves the least of its first record and the records for
  the service;
* `selects_iff`: which answers it selects the right record of, in every order;
* `inBounds_iff`: which records are read within their RDATA.
-/

namespace Twag.Proof.Receive

open Twag.Impl

/-! ## The record that is selected -/

/-- Records are compared by their order, and then by their preference. -/
def naptrKey (r : Naptr) : ℕ ×ₗ ℕ := toLex (r.order, r.pref)

theorem naptrKey_lt_iff {r r' : Naptr} : naptrKey r < naptrKey r' ↔
    r.order < r'.order ∨ r.order = r'.order ∧ r.pref < r'.pref := Prod.Lex.lt_iff

/-- The replacement is that of a least record for the service. -/
def PicksLeast (records : List Naptr) : Prop :=
  ∃ r ∈ records, r.isTargetService = true ∧ selectNaptr records = r.best ∧
    ∀ r' ∈ records, r'.isTargetService = true → naptrKey r ≤ naptrKey r'

/-- What the selection owes an answer: the replacement of a least record for the
service, if there is one, and the same order and preference however the records are
permuted. -/
structure Selects (records : List Naptr) : Prop where
  least (h : ∃ r ∈ records, r.isTargetService = true) : PicksLeast records
  permuted (records' : List Naptr) (h : records'.Perm records) :
    (selectNaptr records').order = (selectNaptr records).order ∧
      (selectNaptr records').pref = (selectNaptr records).pref

/-- A first record of another service has one for the service before it, or one that
says the same; and every record of another service has one for the service that is not
behind it, or there is none, and all records have one order and preference. -/
structure Unambiguous (records : List Naptr) : Prop where
  first (h : ∃ r ∈ records, r.isTargetService = true) (r : Naptr) (hr : records.head? = some r) :
    r.isTargetService = true ∨ ∃ r' ∈ records, r'.isTargetService = true ∧
      (naptrKey r' < naptrKey r ∨ r'.best = r.best)
  foreign (r : Naptr) (hr : r ∈ records) (hs : r.isTargetService = false) :
    (∃ r' ∈ records, r'.isTargetService = true ∧ naptrKey r' ≤ naptrKey r) ∨
      ∀ r' ∈ records, r'.isTargetService = false ∧ naptrKey r' = naptrKey r

variable {records : List Naptr} {b r : Naptr}

/-- Once there is a best record, only a record for the service that is before it is taken. -/
theorem considerNaptr_best (hb : b.replacement ≠ []) (r : Naptr) :
    considerNaptr b.best r =
      if r.isTargetService = true ∧ naptrKey r < naptrKey b then r.best else b.best := by
  have he : b.best.replacement.isEmpty = false := by simp [Naptr.best, hb]
  rw [considerNaptr, he, Bool.or_false, Bool.false_or]
  cases r.isTargetService with
  | false => simp
  | true => simp only [if_true, true_and, naptrKey_lt_iff, Bool.or_eq_true, decide_eq_true_eq]; rfl

/-- The loop goes on from a record as a search for the least. -/
theorem foldl_considerNaptr (hne : ∀ r ∈ records, r.replacement ≠ []) (hb : b.replacement ≠ []) :
    ∃ m ∈ (b :: records.filter Naptr.isTargetService).argmin naptrKey,
      records.foldl considerNaptr b.best = m.best := by
  induction records generalizing b with
  | nil => exact ⟨b, rfl, rfl⟩
  | cons r records ih =>
    have hr : r.replacement ≠ [] := hne r List.mem_cons_self
    have hne' : ∀ r ∈ records, r.replacement ≠ [] := fun r h => hne r (List.mem_cons_of_mem _ h)
    rw [List.foldl_cons, considerNaptr_best hb]
    by_cases hs : r.isTargetService = true
    · rw [List.filter_cons_of_pos hs]
      by_cases hlt : naptrKey r < naptrKey b
      · rw [if_pos ⟨hs, hlt⟩]
        obtain ⟨m, hm, he⟩ := ih hne' hr
        refine ⟨m, ?_, he⟩
        simp only [List.argmin, List.foldl_cons, List.argAux, if_pos hlt] at hm ⊢
        exact hm
      · rw [if_neg fun h => hlt h.2]
        obtain ⟨m, hm, he⟩ := ih hne' hb
        refine ⟨m, ?_, he⟩
        simp only [List.argmin, List.foldl_cons, List.argAux, if_neg hlt] at hm ⊢
        exact hm
    · rw [List.filter_cons_of_neg hs, if_neg fun h => hs h.1]
      exact ih hne' hb

/-- What the loop leaves of an answer: its first record, or a record for the service that
is before that, and no record for the service is before what it leaves. -/
theorem selectNaptr_cons (hne : ∀ r ∈ b :: records, r.replacement ≠ []) :
    ∃ m ∈ b :: records, selectNaptr (b :: records) = m.best ∧
      (m = b ∨ m.isTargetService = true ∧ naptrKey m < naptrKey b) ∧
      ∀ r ∈ b :: records, r.isTargetService = true → naptrKey m ≤ naptrKey r := by
  have hstart : considerNaptr .start b = b.best := by simp [considerNaptr, Best.start]
  obtain ⟨m, hm, he⟩ := foldl_considerNaptr (fun r h => hne r (List.mem_cons_of_mem _ h))
    (hne b List.mem_cons_self)
  have hmem : m = b ∨ m ∈ records.filter Naptr.isTargetService :=
    List.mem_cons.mp (List.argmin_mem hm)
  refine ⟨m, List.mem_cons.mpr (hmem.imp_right List.mem_of_mem_filter),
    by rw [selectNaptr, List.foldl_cons, hstart, he], ?_, fun r hr hs => ?_⟩
  · rcases hmem with hmb | hmr
    · exact .inl hmb
    · by_cases hlt : naptrKey m < naptrKey b
      · exact .inr ⟨(List.mem_filter.mp hmr).2, hlt⟩
      · -- the first of equal records is left
        refine .inl ?_
        have hi := List.index_of_argmin hm List.mem_cons_self (not_lt.mp hlt)
        rw [List.idxOf_cons_self, Nat.le_zero, List.idxOf_cons] at hi
        by_contra hmb
        rw [beq_false_of_ne (Ne.symm hmb)] at hi
        cases hi
  · refine List.le_of_mem_argmin ?_ hm
    rcases List.mem_cons.mp hr with rfl | hr
    · exact List.mem_cons_self
    · exact List.mem_cons_of_mem _ (List.mem_filter.mpr ⟨hr, hs⟩)

theorem best_order_pref_iff {m m' : Naptr} :
    m'.best.order = m.best.order ∧ m'.best.pref = m.best.pref ↔ naptrKey m' = naptrKey m := by
  rw [naptrKey, naptrKey, toLex_inj, Prod.mk.injEq]
  rfl

/-- Any record may be the first one. -/
theorem exists_perm_cons (hr : r ∈ records) : ∃ rest, (r :: rest).Perm records :=
  ⟨records.erase r, (List.perm_cons_erase hr).symm⟩

/-- What is left of an answer that has `r` in front. -/
theorem Selects.front (h : Selects records) (hne : ∀ r ∈ records, r.replacement ≠ [])
    {m : Naptr} (hm : selectNaptr records = m.best) (hr : r ∈ records) :
    ∃ m' ∈ records, naptrKey m' = naptrKey m ∧
      (m' = r ∨ m'.isTargetService = true ∧ naptrKey m' < naptrKey r) := by
  obtain ⟨rest, hp⟩ := exists_perm_cons hr
  obtain ⟨m', hmem, he, hcases, -⟩ :=
    selectNaptr_cons fun r h => hne r (hp.mem_iff.mp h)
  have hkey := h.permuted _ hp
  rw [he, hm, best_order_pref_iff] at hkey
  exact ⟨m', hp.mem_iff.mp hmem, hkey, hcases⟩

/-- A record that no record for the service is before is before none at all. -/
theorem Unambiguous.key_le (h : Unambiguous records) {m m' : Naptr} (hm : m ∈ records)
    (hle : ∀ r ∈ records, r.isTargetService = true → naptrKey m ≤ naptrKey r)
    (hm' : m' ∈ records) : naptrKey m ≤ naptrKey m' := by
  cases hs : m'.isTargetService with
  | true => exact hle m' hm' hs
  | false =>
    rcases h.foreign m' hm' hs with ⟨r, hr, ht, hk⟩ | hall
    · exact (hle r hr ht).trans hk
    · exact (hall m hm).2.le

theorem unambiguous_of_selects (hne : ∀ r ∈ records, r.replacement ≠ []) (h : Selects records) :
    Unambiguous records := by
  cases records with
  | nil => exact ⟨fun ⟨r, hr, _⟩ => (List.not_mem_nil hr).elim, nofun⟩
  | cons b records =>
    obtain ⟨m, hm, he, hcases, -⟩ := selectNaptr_cons hne
    refine ⟨fun ht r hr => ?_, fun r hr hs => ?_⟩
    · cases hr
      obtain ⟨r, hr, hs, hbest, -⟩ := h.least ht
      rcases hcases with rfl | ⟨hsm, hlt⟩
      · exact .inr ⟨r, hr, hs, .inr (hbest.symm.trans he)⟩
      · exact .inr ⟨m, hm, hsm, .inl hlt⟩
    · obtain ⟨m', -, hk', hc'⟩ := h.front hne he hr
      have hle : naptrKey m ≤ naptrKey r := by
        rw [← hk']
        rcases hc' with rfl | ⟨-, hlt⟩
        · exact le_rfl
        · exact hlt.le
      by_cases ht : ∃ t ∈ b :: records, t.isTargetService = true
      · -- with a record for the service in front, one of these is left
        obtain ⟨t, htm, hts⟩ := ht
        obtain ⟨m₁, hm₁, hk₁, hc₁⟩ := h.front hne he htm
        have hs₁ : m₁.isTargetService = true := by
          rcases hc₁ with rfl | ⟨hs₁, -⟩
          · exact hts
          · exact hs₁
        exact .inl ⟨m₁, hm₁, hs₁, hk₁.trans_le hle⟩
      · -- whichever is in front is left
        have hfront (r : Naptr) (hr : r ∈ b :: records) : naptrKey r = naptrKey m := by
          obtain ⟨m₁, hm₁, hk₁, rfl | ⟨hs₁, -⟩⟩ := h.front hne he hr
          · exact hk₁
          · exact absurd ⟨m₁, hm₁, hs₁⟩ ht
        refine .inr fun r' hr' => ⟨?_, (hfront r' hr').trans (hfront r hr).symm⟩
        exact Bool.eq_false_iff.mpr fun hs' => ht ⟨r', hr', hs'⟩

theorem selects_of_unambiguous (hne : ∀ r ∈ records, r.replacement ≠ [])
    (h : Unambiguous records) : Selects records := by
  cases records with
  | nil =>
    refine ⟨fun ⟨r, hr, _⟩ => (List.not_mem_nil hr).elim, fun records' hp => ?_⟩
    rw [hp.eq_nil]
    exact ⟨rfl, rfl⟩
  | cons b records =>
    obtain ⟨m, hm, he, hcases, hle⟩ := selectNaptr_cons hne
    refine ⟨fun ht => ?_, fun records' hp => ?_⟩
    · cases hs : m.isTargetService with
      | true => exact ⟨m, hm, hs, he, hle⟩
      | false =>
        rcases hcases with rfl | ⟨hsm, -⟩
        · rcases h.first ht m rfl with hs' | ⟨r, hr, hsr, hlt | hbest⟩
          · exact absurd (hs.symm.trans hs') Bool.false_ne_true
          · exact absurd hlt (not_lt.mpr (hle r hr hsr))
          · have hkey : naptrKey r = naptrKey m :=
              best_order_pref_iff.mp ⟨congrArg Best.order hbest, congrArg Best.pref hbest⟩
            exact ⟨r, hr, hsr, he.trans hbest.symm, fun r' hr' hs' =>
              hkey.trans_le (hle r' hr' hs')⟩
        · exact absurd (hs.symm.trans hsm) Bool.false_ne_true
    · cases records' with
      | nil => exact absurd hp.symm.eq_nil (List.cons_ne_nil _ _)
      | cons b' records' =>
        obtain ⟨m', hm', he', -, hle'⟩ := selectNaptr_cons fun r hr => hne r (hp.mem_iff.mp hr)
        rw [he, he', best_order_pref_iff]
        have hle' : ∀ r ∈ b :: records, r.isTargetService = true → naptrKey m' ≤ naptrKey r :=
          fun r hr => hle' r (hp.mem_iff.mpr hr)
        have hm' : m' ∈ b :: records := hp.mem_iff.mp hm'
        exact le_antisymm (h.key_le hm' hle' hm) (h.key_le hm hle hm')

/-- The right record of an answer is selected, in every order of its records, exactly if
no record of another service is before those for the service, and a first one is behind
one of them, or says the same. -/
theorem selects_iff (records : List Naptr) (hne : ∀ r ∈ records, r.replacement ≠ []) :
    Selects records ↔ Unambiguous records :=
  ⟨unambiguous_of_selects hne, selects_of_unambiguous hne⟩

/-- A record for the service, with this order, preference 10 and this replacement. -/
def sampleNaptr (order : Nat) (replacement : Bytes) : Naptr :=
  ⟨order, 10, ascii "x-3gpp-pgw:x-s2a-gtp", replacement⟩

/-- A record of another service. -/
def sampleForeign (order : Nat) (replacement : Bytes) : Naptr :=
  ⟨order, 10, ascii "x-3gpp-pgw:x-s5-gtp", replacement⟩

theorem selects_iff_sample :
    Selects [sampleNaptr 20 (ascii "b"), sampleForeign 30 (ascii "c"),
      sampleNaptr 10 (ascii "a")] := by
  refine (selects_iff _ (by decide)).mpr ⟨fun _ r hr => ?_, fun r hr _ => .inl ?_⟩
  · cases hr
    exact .inl (by decide)
  · refine ⟨sampleNaptr 10 (ascii "a"), by decide, by decide, ?_⟩
    revert r
    decide

/-- A record of another service in front of one for the service, with a smaller order. -/
theorem foreign_selected :
    selectNaptr [sampleForeign 10 (ascii "a"), sampleNaptr 20 (ascii "b")] =
        (sampleForeign 10 (ascii "a")).best ∧
      ¬ Selects [sampleForeign 10 (ascii "a"), sampleNaptr 20 (ascii "b")] := by
  have hsel : selectNaptr [sampleForeign 10 (ascii "a"), sampleNaptr 20 (ascii "b")] =
    (sampleForeign 10 (ascii "a")).best := by decide
  refine ⟨hsel, fun h => ?_⟩
  obtain ⟨r, hr, hs, he, -⟩ := h.least ⟨sampleNaptr 20 (ascii "b"), by decide, by decide⟩
  rw [hsel] at he
  revert r
  decide

/-! ## The bytes of a record -/

/-- What the walk over a record owes its RDATA: it reads nothing else, so that order,
preference and services follow from it, and a record whose strings are longer is skipped. -/
structure InBounds (dns : Resolver) (rr : Rr) : Prop where
  reads (i : Nat) (h : NaptrReads rr.rdata i) : i < rr.rdlen
  same (rdata : Memory) (h : ∀ i < rr.rdlen, rdata i = rr.rdata i) :
    naptrOrder rdata = naptrOrder rr.rdata ∧ naptrPref rdata = naptrPref rr.rdata ∧
      naptrServices rdata = naptrServices rr.rdata
  skipped (h : rr.rdlen < replacementPos rr.rdata) : parseNaptr dns rr = none

section

variable {rdata rdata' : Memory}

theorem svcPos_le_regPos : svcPos rdata ≤ regPos rdata := by
  rw [regPos]
  omega

theorem five_le_svcPos : 5 ≤ svcPos rdata := Nat.le_add_right 5 _

/-- Order, preference and services are made of the bytes that are read. -/
theorem naptr_congr (h : ∀ i, NaptrReads rdata i → rdata' i = rdata i) :
    naptrOrder rdata' = naptrOrder rdata ∧ naptrPref rdata' = naptrPref rdata ∧
      naptrServices rdata' = naptrServices rdata := by
  have hhead (i : Nat) (hi : i < 5) : rdata' i = rdata i := h i (.inl hi)
  have hpos : svcPos rdata' = svcPos rdata := by rw [svcPos, svcPos, hhead 4 (by decide)]
  have hlen : svcLen rdata' = svcLen rdata := by
    rw [svcLen, svcLen, hpos, h _ (.inr ⟨Nat.le_refl _, svcPos_le_regPos⟩)]
  refine ⟨?_, ?_, ?_⟩
  · rw [naptrOrder, naptrOrder, be16, be16, hhead 0 (by decide), hhead 1 (by decide)]
  · rw [naptrPref, naptrPref, be16, be16, hhead 2 (by decide), hhead 3 (by decide)]
  · rw [naptrServices, naptrServices, hpos, hlen]
    refine slice_congr fun i hi hi' => h i (.inr ⟨by omega, ?_⟩)
    rw [regPos]
    omega

end

/-- A NAPTR record is read within its RDATA exactly if that has the octet of the regexp's
length, and the regexp too, or there is no name behind it. -/
theorem inBounds_iff (dns : Resolver) (rr : Rr) (ht : rr.type = 35) (hl : 4 ≤ rr.rdlen) :
    InBounds dns rr ↔ regPos rr.rdata < rr.rdlen ∧
      (replacementPos rr.rdata ≤ rr.rdlen ∨ dns.dnExpand rr (replacementPos rr.rdata) = none) := by
  have hparse : parseNaptr dns rr = none ↔
      dns.dnExpand rr (replacementPos rr.rdata) = none := by
    rw [parseNaptr, if_pos ⟨ht, hl⟩, Option.map_eq_none_iff]
  constructor
  · intro h
    refine ⟨h.reads _ (.inr ⟨svcPos_le_regPos, Nat.le_refl _⟩), ?_⟩
    rcases Nat.lt_or_ge rr.rdlen (replacementPos rr.rdata) with hlt | hge
    · exact .inr (hparse.mp (h.skipped hlt))
    · exact .inl hge
  · rintro ⟨hreg, hname⟩
    have hreads (i : Nat) (hi : NaptrReads rr.rdata i) : i < rr.rdlen := by
      have h₁ : 5 ≤ svcPos rr.rdata := five_le_svcPos
      have h₂ : svcPos rr.rdata ≤ regPos rr.rdata := svcPos_le_regPos
      rcases hi with hi | ⟨-, hi⟩ <;> omega
    refine ⟨hreads, fun rdata hb => naptr_congr fun i hi => hb i (hreads i hi), fun hlt => ?_⟩
    exact hparse.mpr (hname.resolve_left (Nat.not_le.mpr hlt))

/-- A resolver that finds the same name everywhere. -/
def sampleResolver : Resolver where
  resQuery := fun _ => none
  dnExpand := fun _ _ => some (ascii "pgw.example")
  getaddrinfo := fun _ => none

/-- A record with these bytes of RDATA, and `behind` them in memory. -/
def sampleRr (rdata behind : Bytes) : Rr := ⟨35, .ofBytes (rdata ++ behind), rdata.length⟩

theorem inBounds_iff_sample :
    InBounds sampleResolver (sampleRr [0, 10, 0, 10, 1, 97, 2, 120, 121, 0, 0] []) :=
  (inBounds_iff _ _ rfl (by decide)).mpr ⟨by decide, .inl (by decide)⟩

/-- The services of a record of four bytes are what is behind it in memory. -/
theorem services_behind :
    parseNaptr sampleResolver (sampleRr [0, 10, 0, 10] [0, 2, 120, 121, 0]) =
        some ⟨10, 10, ascii "xy", ascii "pgw.example"⟩ ∧
      parseNaptr sampleResolver (sampleRr [0, 10, 0, 10] [0, 1, 122, 0]) =
        some ⟨10, 10, ascii "z", ascii "pgw.example"⟩ ∧
      ¬ InBounds sampleResolver (sampleRr [0, 10, 0, 10] [0, 2, 120, 121, 0]) := by
  refine ⟨by decide, by decide, fun h => ?_⟩
  have hread := h.reads 4 (.inl (by decide))
  revert hread
  decide

end Twag.Proof.Receive

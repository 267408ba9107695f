import Twag.Framework.Past
import Twag.Impl.Run

/-!
# Timers of a running event loop

In a run of `EventLoop::run`, whatever its callbacks and handlers do, each
timer fires once at most, never early, and in the order of the expiries, those
of one expiry in the order in which they were added (`firesRight`).

Two timers may have the same expiry and the same callback, so the proof tells
them apart by a number: timer `i` is the one that input `i` of the history
added. `numbered` gives every callback its number, and `map_after` says that
the loop does the same with the callbacks as they were, since it never looks at
them. Timer `i` is pending from the input that adds it to the one that invokes
it (`pending_iff`).
-/

namespace Twag.Impl.EventLoop

variable {κ κ' : Type}

/-! ## The loop does not look at the callbacks -/

def map (f : κ → κ') (loop : EventLoop κ) : EventLoop κ' := ⟨loop.timers.map f⟩

theorem map_addTimer (f : κ → κ') (loop : EventLoop κ) (now : Time) (ms : UInt32) (cb : κ) :
    (loop.addTimer now ms cb).map f = (loop.map f).addTimer now ms (f cb) := by
  simp only [map, addTimer, Multimap.map_insert]

theorem popDue_map (f : κ → κ') (loop : EventLoop κ) (now : Time) :
    (loop.map f).popDue now = (loop.popDue now).map fun r => (f r.1, r.2.map f) := by
  simp only [popDue, map, Multimap.popFirst_map]
  cases loop.timers.popFirst with
  | none => rfl
  | some r =>
    simp only [Option.map_some]
    split <;> rfl

theorem timeoutMs_map (f : κ → κ') (loop : EventLoop κ) (now : Time) :
    (loop.map f).timeoutMs now = loop.timeoutMs now := by
  obtain ⟨⟨_ | ⟨e, l⟩, hs⟩⟩ := loop <;> rfl

def Point.map (f : κ → κ') : Point κ → Point κ'
  | .outside => .outside
  | .head => .head
  | .waiting timeoutMs => .waiting timeoutMs
  | .draining n now => .draining n now
  | .calling n cb => .calling n (f cb)
  | .handling n => .handling n

def Input.map (f : κ → κ') : Input κ → Input κ'
  | .addTimer now ms cb => .addTimer now ms (f cb)
  | .stop => .stop
  | .run => .run
  | .advance now wait => .advance now wait

namespace Run

def map (f : κ → κ') (r : Run κ) : Run κ' := ⟨r.loop.map f, r.running, r.point.map f⟩

theorem map_advance (f : κ → κ') (r : Run κ) (now : Time) (wait : Wait) :
    (r.advance now wait).map f = (r.map f).advance now wait := by
  obtain ⟨loop, running, point⟩ := r
  cases point with
  | outside => rfl
  | head =>
    simp only [advance, map, Point.map, timeoutMs_map]
    cases running <;> rfl
  | waiting timeoutMs => cases wait <;> rfl
  | draining n last =>
    simp only [advance, map, Point.map, popDue_map]
    cases loop.popDue last <;> rfl
  | calling n cb => rfl
  | handling n => cases n <;> rfl

theorem map_step (f : κ → κ') (r : Run κ) (x : Input κ) :
    (r.step x).map f = (r.map f).step (x.map f) := by
  cases x with
  | addTimer now ms cb => simp only [step, map, Input.map, map_addTimer]
  | stop => rfl
  | run =>
    obtain ⟨loop, running, point⟩ := r
    cases point <;> rfl
  | advance now wait => exact map_advance f r now wait

theorem map_after (f : κ → κ') (h : List (Input κ)) :
    (after h).map f = after (h.map (Input.map f)) := by
  induction h with
  | nil => rfl
  | cons x h ih => rw [after, map_step, ih, List.map_cons, after]

/-! ## What one step does -/

/-- Everything a step does with the timers. -/
inductive Moves (r : Run κ) : Input κ → Run κ → Prop
  | adds (now : Time) (ms : UInt32) (cb : κ) :
    Moves r (.addTimer now ms cb) { r with loop := r.loop.addTimer now ms cb }
  | invokes {n : Nat} {last now : Time} {wait : Wait} {cb : κ} {loop : EventLoop κ}
    (hpt : r.point = .draining n last) (hp : r.loop.popDue last = some (cb, loop)) :
    Moves r (.advance now wait) { r with loop := loop, point := .calling n cb }
  | exits {n : Nat} {last now : Time} {wait : Wait}
    (hpt : r.point = .draining n last) (hp : r.loop.popDue last = none) :
    Moves r (.advance now wait) { r with point := .handling n }
  | passes {x : Input κ} {r' : Run κ} (hx : ∀ now ms cb, x ≠ .addTimer now ms cb)
    (hl : r'.loop = r.loop) (hpt : ∀ n last, r.point = .draining n last → r'.point = r.point) :
    Moves r x r'

theorem moves (r : Run κ) (x : Input κ) : Moves r x (r.step x) := by
  cases x with
  | addTimer now ms cb => exact .adds now ms cb
  | stop => exact .passes (fun _ _ _ hx => by cases hx) rfl (fun _ _ _ => rfl)
  | run =>
    obtain ⟨loop, running, point⟩ := r
    refine .passes (fun _ _ _ hx => by cases hx) ?_ fun n last hpt => ?_
    · cases point <;> rfl
    · cases hpt
      rfl
  | advance now wait =>
    obtain ⟨loop, running, point⟩ := r
    have hx (now' : Time) (ms : UInt32) (cb : κ) :
        Input.advance now wait ≠ .addTimer now' ms cb := fun hx => by cases hx
    cases point with
    | draining n last =>
      simp only [step, advance]
      cases hp : loop.popDue last with
      | none => exact .exits rfl hp
      | some p => exact .invokes rfl hp
    | outside => exact .passes hx rfl (fun _ _ hpt => by cases hpt)
    | head => exact .passes hx rfl (fun _ _ hpt => by cases hpt)
    | waiting timeoutMs =>
      refine .passes hx ?_ (fun _ _ hpt => by cases hpt)
      cases wait <;> rfl
    | calling n cb => exact .passes hx rfl (fun _ _ hpt => by cases hpt)
    | handling n =>
      refine .passes hx ?_ (fun _ _ hpt => by cases hpt)
      cases n <;> rfl

theorem entries_of_calling {r : Run κ} {x : Input κ} {n m : Nat} {now : Time} {cb : κ}
    (hpt : r.point = .draining n now) (hc : (r.step x).point = .calling m cb) :
    ∃ t ≤ now, r.loop.timers.entries = (t, cb) :: (r.step x).loop.timers.entries := by
  have hm := moves r x
  generalize r.step x = r' at hm hc ⊢
  cases hm with
  | adds now ms cb => rw [hpt] at hc; cases hc
  | invokes hpt' hp =>
    cases hpt.symm.trans hpt'
    cases hc
    exact popDue_cases hp
  | exits => cases hc
  | passes _ _ hk => rw [hk _ _ hpt, hpt] at hc; cases hc

theorem popDue_of_handling {r : Run κ} {x : Input κ} {n m : Nat} {now : Time}
    (hpt : r.point = .draining n now) (hc : (r.step x).point = .handling m) :
    r.loop.popDue now = none ∧ (r.step x).loop = r.loop := by
  have hm := moves r x
  generalize r.step x = r' at hm hc ⊢
  cases hm with
  | adds now ms cb => rw [hpt] at hc; cases hc
  | invokes => cases hc
  | exits hpt' hp =>
    cases hpt.symm.trans hpt'
    exact ⟨hp, rfl⟩
  | passes _ _ hk => rw [hk _ _ hpt, hpt] at hc; cases hc

/-! ## Numbered timers -/

/-- The history, with the callback of each timer paired with the timer's number. -/
def numbered : List (Input κ) → List (Input (Nat × κ))
  | [] => []
  | x :: h => x.map (fun cb => (h.length, cb)) :: numbered h

theorem map_numbered (h : List (Input κ)) : (numbered h).map (Input.map Prod.snd) = h := by
  induction h with
  | nil => rfl
  | cons x h ih => cases x <;> simp only [numbered, List.map_cons, Input.map, ih]

/-- The numbers do not change what the loop does. -/
theorem map_after_numbered (h : List (Input κ)) : (after (numbered h)).map Prod.snd = after h := by
  rw [map_after, map_numbered]

/-- The pending timers, each with its expiry, number and callback. -/
def pending (h : List (Input κ)) : List (Time × Nat × κ) :=
  (after (numbered h)).loop.timers.entries

/-- The input adds a timer that expires at `t`. -/
def Adds (t : Time) (cb : κ) (x : Input κ) : Prop :=
  ∃ now ms, x = .addTimer now ms cb ∧ t = now + milliseconds ms

/-- Timer `i` was added, to expire at `t`. -/
def Added (h : List (Input κ)) (i : Nat) (t : Time) (cb : κ) : Prop :=
  ∃ g x, (x :: g) <:+ h ∧ g.length = i ∧ Adds t cb x

/-- After the history `h`, in which the clock last read `now`, the input has the
loop invoke timer `i`. -/
def Invokes (h : List (Input κ)) (x : Input κ) (now : Time) (i : Nat) (cb : κ) : Prop :=
  ∃ n, (after (numbered h)).point = .draining n now ∧
    (after (numbered (x :: h))).point = .calling n (i, cb)

/-- After the history `h`, in which the clock last read `now`, the input has the
loop over expired timers exit. -/
def Exits (h : List (Input κ)) (x : Input κ) (now : Time) : Prop :=
  ∃ n, (after (numbered h)).point = .draining n now ∧
    (after (numbered (x :: h))).point = .handling n

variable {h g : List (Input κ)} {x : Input κ} {i j : Nat} {t t' now : Time} {cb cb' : κ}

theorem Added.unique (ha : Added h i t cb) (ha' : Added h i t' cb') : t = t' ∧ cb = cb' := by
  obtain ⟨g, x, ht, hl, now, ms, hx, rfl⟩ := ha
  obtain ⟨g', x', ht', hl', now', ms', hx', rfl⟩ := ha'
  obtain ⟨he, -⟩ := taken_unique ht ht' (hl.trans hl'.symm)
  rw [he, hx'] at hx
  cases hx
  exact ⟨rfl, rfl⟩

theorem Added.mono (ht : g <:+ h) (ha : Added g i t cb) : Added h i t cb := by
  obtain ⟨g₀, x, ht₀, ha⟩ := ha
  exact ⟨g₀, x, ht₀.trans ht, ha⟩

theorem Added.lt_length (ha : Added h i t cb) : i < h.length := by
  obtain ⟨g, x, ht, rfl, -⟩ := ha
  exact ht.length_le

/-- An invoked timer was the first of those pending, and due. -/
theorem Invokes.pops (hi : Invokes h x now i cb) :
    ∃ t ≤ now, pending h = (t, i, cb) :: pending (x :: h) := by
  obtain ⟨n, hpt, hc⟩ := hi
  exact entries_of_calling hpt hc

/-- What an input does with the pending timers. -/
theorem pending_cases (h : List (Input κ)) (x : Input κ) :
    (∃ now ms cb, x = .addTimer now ms cb ∧
      pending (x :: h) =
        Multimap.insertEntry (now + milliseconds ms) (h.length, cb) (pending h)) ∨
      (∀ now ms cb, x ≠ .addTimer now ms cb) ∧
        ((∃ now i cb, Invokes h x now i cb) ∨ pending (x :: h) = pending h) := by
  have hm := moves (after (numbered h)) (x.map fun cb => (h.length, cb))
  generalize hy : x.map (fun cb => (h.length, cb)) = y at hm
  generalize hr : (after (numbered h)).step y = r at hm
  have hr' : after (numbered (x :: h)) = r := by rw [numbered, hy, after, hr]
  cases hm with
  | adds now ms c =>
    cases x <;> cases hy
    exact .inl ⟨now, ms, _, rfl, by rw [pending, hr']; rfl⟩
  | invokes hpt hp =>
    rename_i n last now wait c loop
    refine .inr ⟨fun now ms cb hx => ?_, .inl ⟨last, c.1, c.2, n, hpt, by rw [hr']⟩⟩
    subst hx
    cases hy
  | exits hpt hp =>
    refine .inr ⟨fun now ms cb hx => ?_, .inr (by rw [pending, hr']; rfl)⟩
    subst hx
    cases hy
  | passes hx hl _ =>
    refine .inr ⟨fun now ms cb hx' => hx now ms (h.length, cb) ?_, .inr ?_⟩
    · rw [← hy, hx']
      rfl
    · rw [pending, hr', hl]
      rfl

/-- The order in which timers are invoked. -/
def Before (a b : Time × Nat × κ) : Prop :=
  (a.1 < b.1 ∨ a.1 = b.1 ∧ a.2.1 < b.2.1) ∧ a.2.1 ≠ b.2.1

theorem pending_ordered (h : List (Input κ)) :
    (pending h).Pairwise Before ∧ ∀ e ∈ pending h, e.2.1 < h.length := by
  induction h with
  | nil => exact ⟨List.Pairwise.nil, fun e he => absurd he List.not_mem_nil⟩
  | cons x h ih =>
    obtain ⟨ho, hlt⟩ := ih
    rcases pending_cases h x with ⟨now, ms, cb, -, hp⟩ | ⟨-, ⟨now, i, cb, hi⟩ | hp⟩
    · -- the new timer has the largest number, and goes behind its equals
      rw [hp]
      refine ⟨Multimap.pairwise_insertEntry (after (numbered h)).loop.timers.sorted ho
        (fun e he hle => ?_) (fun e he hk => ?_), fun e he => ?_⟩
      · have hl := hlt e he
        refine ⟨?_, Nat.ne_of_lt hl⟩
        rcases Nat.lt_or_eq_of_le hle with hk | hk
        · exact .inl hk
        · exact .inr ⟨hk, hl⟩
      · exact ⟨.inl hk, (Nat.ne_of_lt (hlt e he)).symm⟩
      · rw [List.length_cons]
        rcases Multimap.mem_insertEntry.mp he with rfl | he
        · exact Nat.lt_succ_self _
        · exact Nat.lt_succ_of_lt (hlt e he)
    · obtain ⟨t, -, hp⟩ := hi.pops
      rw [hp] at ho hlt
      refine ⟨(List.pairwise_cons.mp ho).2, fun e he => ?_⟩
      exact Nat.lt_succ_of_lt (hlt e (List.mem_cons_of_mem _ he))
    · rw [hp]
      exact ⟨ho, fun e he => Nat.lt_succ_of_lt (hlt e he)⟩

/-- A pending timer was added or was pending before, and was not invoked. -/
theorem pending_step (h : List (Input κ)) (x : Input κ) (i : Nat) (t : Time) (cb : κ) :
    (t, i, cb) ∈ pending (x :: h) ↔
      (h.length = i ∧ Adds t cb x) ∨
        (¬ ∃ now cb', Invokes h x now i cb') ∧ (t, i, cb) ∈ pending h := by
  obtain ⟨ho, hlt⟩ := pending_ordered h
  rcases pending_cases h x with ⟨now, ms, c, rfl, hp⟩ | ⟨hx, hp⟩
  · have hn : ¬ ∃ now' cb', Invokes h (.addTimer now ms c) now' i cb' := by
      rintro ⟨now', cb', n, hpt, hc⟩
      have hs : (after (numbered (.addTimer now ms c :: h))).point =
        (after (numbered h)).point := rfl
      rw [hs, hpt] at hc
      cases hc
    rw [hp, Multimap.mem_insertEntry]
    simp only [hn, not_false_eq_true, true_and, Adds, Input.addTimer.injEq, Prod.mk.injEq]
    constructor
    · rintro (⟨rfl, rfl, rfl⟩ | hm)
      · exact .inl ⟨rfl, now, ms, ⟨rfl, rfl, rfl⟩, rfl⟩
      · exact .inr hm
    · rintro (⟨rfl, _, _, ⟨rfl, rfl, rfl⟩, rfl⟩ | hm)
      · exact .inl ⟨rfl, rfl, rfl⟩
      · exact .inr hm
  · have hn : ¬ (h.length = i ∧ Adds t cb x) := fun ⟨_, now, ms, he, _⟩ => hx now ms cb he
    simp only [hn, false_or]
    rcases hp with ⟨now, k, c, hi⟩ | hp
    · obtain ⟨t₀, -, hp⟩ := hi.pops
      rw [hp] at ho ⊢
      constructor
      · intro hm
        refine ⟨?_, List.mem_cons_of_mem _ hm⟩
        rintro ⟨now', cb', hi'⟩
        obtain ⟨t₁, -, hp'⟩ := hi'.pops
        rw [hp] at hp'
        cases hp'
        exact ((List.pairwise_cons.mp ho).1 _ hm).2 rfl
      · rintro ⟨hni, hm⟩
        rcases List.mem_cons.mp hm with he | hm
        · cases he
          exact absurd ⟨now, cb, hi⟩ hni
        · exact hm
    · rw [hp]
      refine ⟨fun hm => ⟨?_, hm⟩, fun hm => hm.2⟩
      rintro ⟨now', cb', hi⟩
      obtain ⟨t₁, -, hp'⟩ := hi.pops
      rw [hp] at hp'
      exact absurd (congrArg List.length hp') (Nat.ne_of_lt (Nat.lt_succ_self _))

/-- A timer is pending from the input that adds it to the one that invokes it. -/
theorem pending_iff (h : List (Input κ)) (i : Nat) (t : Time) (cb : κ) :
    (t, i, cb) ∈ pending h ↔
      Since (fun g y => g.length = i ∧ Adds t cb y)
        (fun g y => ¬ ∃ now cb', Invokes g y now i cb') h := by
  induction h with
  | nil => exact ⟨fun hm => absurd hm List.not_mem_nil, fun hs => hs.elim⟩
  | cons x h ih => rw [pending_step, ih]; rfl

theorem added_of_pending (hm : (t, i, cb) ∈ pending h) : Added h i t cb :=
  ((pending_iff h i t cb).mp hm).taken

/-! ## Runs -/

/-- What a run does with its timers. The numbers are those of `numbered`. -/
structure FiresRight (h : List (Input κ)) : Prop where
  /-- The numbered timers are those of the run. -/
  same : (after (numbered h)).map Prod.snd = after h
  /-- An invoked timer is not pending any more, and no other input invokes it. -/
  once : ∀ g x now i cb, (x :: g) <:+ h → Invokes g x now i cb →
    (∀ t cb', (t, i, cb') ∉ pending h) ∧
      ∀ g' x' now' cb', (x' :: g') <:+ h → Invokes g' x' now' i cb' → x' = x ∧ g' = g
  /-- An invoked timer was added, has expired, and is ahead of all that are then pending. -/
  order : ∀ g x now i cb, (x :: g) <:+ h → Invokes g x now i cb →
    ∃ t ≤ now, Added g i t cb ∧
      ∀ j t' cb', (t', j, cb') ∈ pending (x :: g) → t < t' ∨ t = t' ∧ i < j
  /-- Of two timers with one expiry, the one added first is invoked first. -/
  insertion : ∀ i j t cb cb', i < j → Added h i t cb → Added h j t cb' →
    ∀ g x now, (x :: g) <:+ h → Invokes g x now j cb' →
      ∃ g' x' now', (x' :: g') <:+ g ∧ Invokes g' x' now' i cb
  /-- The loop over expired timers exits when none is left. -/
  exit : ∀ g x now, (x :: g) <:+ h → Exits g x now →
    ∀ i t cb, (t, i, cb) ∈ pending (x :: g) → now < t

theorem not_pending_of_invoked (ht : (x :: g) <:+ h) (hi : Invokes g x now i cb) :
    (t, i, cb') ∉ pending h := by
  intro hm
  obtain ⟨t₀, -, hp⟩ := hi.pops
  have hlt : i < g.length :=
    (pending_ordered g).2 (t₀, i, cb) (by rw [hp]; exact List.mem_cons_self)
  exact ((pending_iff h i t cb').mp hm).of_lt ht hlt ⟨now, cb, hi⟩

theorem not_invoked_twice {g' : List (Input κ)} {x' : Input κ} {now' : Time}
    (ht : (x :: g) <:+ h) (hi : Invokes g x now i cb) (ht' : (x' :: g') <:+ h)
    (hi' : Invokes g' x' now' i cb') : ¬ g.length < g'.length := by
  intro hlt
  obtain ⟨t₀, -, hp⟩ := hi'.pops
  have hg : (x :: g) <:+ g' :=
    List.suffix_of_suffix_length_le ht ((List.suffix_cons x' g').trans ht') hlt
  exact not_pending_of_invoked hg hi (hp ▸ List.mem_cons_self)

theorem Invokes.ahead (hi : Invokes g x now i cb) :
    ∃ t ≤ now, Added g i t cb ∧ pending g = (t, i, cb) :: pending (x :: g) ∧
      ∀ j t' cb', (t', j, cb') ∈ pending (x :: g) → t < t' ∨ t = t' ∧ i < j := by
  obtain ⟨t, hle, hp⟩ := hi.pops
  have hm : (t, i, cb) ∈ pending g := by rw [hp]; exact List.mem_cons_self
  have ho := (pending_ordered g).1
  rw [hp] at ho
  refine ⟨t, hle, added_of_pending hm, hp, fun j t' cb' hm' => ?_⟩
  exact ((List.pairwise_cons.mp ho).1 _ hm').1

theorem insertion_order (hij : i < j) (ha : Added h i t cb) (ha' : Added h j t cb')
    (ht : (x :: g) <:+ h) (hi : Invokes g x now j cb') :
    ∃ g' x' now', (x' :: g') <:+ g ∧ Invokes g' x' now' i cb := by
  have hg : g <:+ h := (List.suffix_cons x g).trans ht
  obtain ⟨t₀, -, hadd, hp, hahead⟩ := hi.ahead
  obtain ⟨rfl, -⟩ := (hadd.mono hg).unique ha'
  have hlt : i < g.length := hij.trans hadd.lt_length
  obtain ⟨g₁, x₁, ht₁, hl₁, hx₁⟩ := ha
  have ht₁' : (x₁ :: g₁) <:+ g := by
    refine List.suffix_of_suffix_length_le ht₁ hg ?_
    rw [List.length_cons]
    omega
  by_contra hnot
  -- if it was not invoked, timer `i` is still pending, though timer `j` is the first
  have hm : (t₀, i, cb) ∈ pending g := by
    refine (pending_iff g i t₀ cb).mpr (since_of_taken ht₁' ⟨hl₁, hx₁⟩ fun g' y hg' _ => ?_)
    rintro ⟨now', cb₁, hi'⟩
    obtain ⟨t₁, -, hadd', -⟩ := hi'.ahead
    have hg₁ : g' <:+ g := (List.suffix_cons y g').trans hg'
    obtain ⟨-, rfl⟩ := (hadd'.mono hg₁).unique ⟨g₁, x₁, ht₁', hl₁, hx₁⟩
    exact hnot ⟨g', y, now', hg', hi'⟩
  rw [hp] at hm
  rcases List.mem_cons.mp hm with he | hm
  · cases he
    exact absurd hij (Nat.lt_irrefl _)
  · rcases hahead i t₀ cb hm with hlt' | ⟨-, hlt'⟩
    · exact absurd hlt' (Nat.lt_irrefl _)
    · exact absurd (hij.trans hlt') (Nat.lt_irrefl _)

theorem due_of_exits (he : Exits g x now) (hm : (t, i, cb) ∈ pending (x :: g)) : now < t := by
  obtain ⟨n, hpt, hh⟩ := he
  obtain ⟨hnone, hl⟩ := popDue_of_handling hpt hh
  have hp : (after (numbered g)).loop.Pending t (i, cb) := by
    rw [← hl]
    exact hm
  exact not_due_of_popDue hnone hp

/-- In every run of the loop, whatever its callbacks and handlers do, timers
fire once, never early and in order. -/
theorem firesRight (h : List (Input κ)) : FiresRight h where
  same := map_after_numbered h
  once := by
    intro g x now i cb ht hi
    refine ⟨fun t cb' => not_pending_of_invoked ht hi, fun g' x' now' cb' ht' hi' => ?_⟩
    have hle := Nat.not_lt.mp (not_invoked_twice ht hi ht' hi')
    have hge := Nat.not_lt.mp (not_invoked_twice ht' hi' ht hi)
    exact taken_unique ht' ht (Nat.le_antisymm hle hge)
  order := by
    intro g x now i cb ht hi
    obtain ⟨t, hle, hadd, -, hahead⟩ := hi.ahead
    exact ⟨t, hle, hadd, hahead⟩
  insertion := by
    intro i j t cb cb' hij ha ha' g x now ht hi
    exact insertion_order hij ha ha' ht hi
  exit := by
    intro g x now ht he i t cb hm
    exact due_of_exits he hm

-- `a` and `b` expire at 5; `a` adds `c` without a delay, and `b` is still called next
example : (after [.advance 7 .interrupted, .advance 6 .interrupted, .addTimer 5 0 'c',
    .advance 5 .interrupted, .advance 5 (.ready 1), .advance 2 .interrupted, .run,
    .addTimer 5 0 'b', .addTimer 5 0 'a']).point = .calling 1 'b' := by decide

end Run

end Twag.Impl.EventLoop

import Mathlib.Logic.Function.Basic
import Mathlib.Logic.Relation

/-!
# Threads on a shared state

A program is a tree of operations on a shared state: each operation is atomic,
and what the program does next depends on its answer. `run` runs a program
alone. A `Pool` holds the programs of several threads, and a `Move` lets one of
them go one operation further, or gives a new program to one that is idle, so
that the operations of different threads interleave in any order.

`Keeps` is the obligation of one thread: whenever the others have changed the
shared state within `rely`, its next operation keeps the invariant and stays
within `guar`. `Pool.invariant` and `Pool.path` put the obligations together:
if what one thread does is what the others rely on, the invariant holds in
every interleaving, and any two states of it, one after the other, are related.
-/

namespace Twag

variable {Op : Type} {Ans : Op → Type} {α β σ ι : Type}

/-- A program that makes operations of `Op`, where `op` is answered by `Ans op`. -/
inductive Prog (Ans : Op → Type) (α : Type) where
  | done (a : α)
  | call (op : Op) (next : Ans op → Prog Ans α)

namespace Prog

/-- One operation. -/
def op (o : Op) : Prog Ans (Ans o) := .call o .done

protected def bind : Prog Ans α → (α → Prog Ans β) → Prog Ans β
  | .done a, f => f a
  | .call o next, f => .call o fun ans => (next ans).bind f

instance : Monad (Prog Ans) where
  pure := .done
  bind := .bind

/-! ## A program alone -/

/-- What a program returns and the state it leaves, where no other thread runs. -/
def run (exec : (o : Op) → σ → Ans o × σ) : Prog Ans α → σ → α × σ
  | .done a, s => (a, s)
  | .call o next, s => (next (exec o s).1).run exec (exec o s).2

variable {exec : (o : Op) → σ → Ans o × σ}

@[simp] theorem run_pure (a : α) (s : σ) : (pure a : Prog Ans α).run exec s = (a, s) := rfl

@[simp] theorem run_op (o : Op) (s : σ) : (op o : Prog Ans (Ans o)).run exec s = exec o s := rfl

@[simp] theorem run_bind (p : Prog Ans α) (f : α → Prog Ans β) (s : σ) :
    (p >>= f).run exec s = (f (p.run exec s).1).run exec (p.run exec s).2 := by
  show (p.bind f).run exec s = _
  induction p generalizing s with
  | done a => rfl
  | call o next ih => exact ih (exec o s).1 (exec o s).2

/-! ## A program among others -/

variable {sem : (o : Op) → σ → Ans o → σ → Prop} {inv : σ → Prop} {rely guar : σ → σ → Prop}
  {post : α → σ → Prop}

/-- From the state `s` on, every operation of the program keeps `inv` and stays
within `guar`, if the other threads keep `inv` and stay within `rely`; where it
ends, `post` holds. -/
def Keeps (sem : (o : Op) → σ → Ans o → σ → Prop) (inv : σ → Prop) (rely guar : σ → σ → Prop)
    (post : α → σ → Prop) : Prog Ans α → σ → Prop
  | .done a, s => post a s
  | .call o next, s => ∀ s₁, rely s s₁ → inv s₁ → ∀ ans s₂, sem o s₁ ans s₂ →
      inv s₂ ∧ guar s₁ s₂ ∧ (next ans).Keeps sem inv rely guar post s₂

theorem keeps_pure {a : α} {s : σ} (h : post a s) :
    (pure a : Prog Ans α).Keeps sem inv rely guar post s := h

theorem keeps_op {o : Op} {s : σ} {post : Ans o → σ → Prop}
    (h : ∀ s₁, rely s s₁ → inv s₁ → ∀ ans s₂, sem o s₁ ans s₂ →
      inv s₂ ∧ guar s₁ s₂ ∧ post ans s₂) :
    (op o).Keeps sem inv rely guar post s := h

theorem keeps_bind (post : α → σ → Prop) {p : Prog Ans α} {f : α → Prog Ans β} {s : σ}
    {post' : β → σ → Prop} (hp : p.Keeps sem inv rely guar post s)
    (hf : ∀ a s, post a s → (f a).Keeps sem inv rely guar post' s) :
    (p >>= f).Keeps sem inv rely guar post' s := by
  show (p.bind f).Keeps sem inv rely guar post' s
  induction p generalizing s with
  | done a => exact hf a s hp
  | call o next ih =>
    intro s₁ hr hi ans s₂ hs
    obtain ⟨hi', hg, hk⟩ := hp s₁ hr hi ans s₂ hs
    exact ⟨hi', hg, ih ans hk⟩

/-- What the other threads do does not break an obligation. -/
theorem Keeps.undisturbed (htrans : ∀ a b c, rely a b → rely b c → rely a c)
    {p : Prog Ans Unit} {s s' : σ} (hp : p.Keeps sem inv rely guar (fun _ _ => True) s)
    (hr : rely s s') :
    p.Keeps sem inv rely guar (fun _ _ => True) s' := by
  cases p with
  | done a => trivial
  | call o next => exact fun s₁ hr₁ => hp s₁ (htrans _ _ _ hr hr₁)

/-- Every operation the program can make is one of `allowed`. -/
def Uses (allowed : Op → Prop) : Prog Ans α → Prop
  | .done _ => True
  | .call o next => allowed o ∧ ∀ ans, (next ans).Uses allowed

theorem uses_bind {allowed : Op → Prop} {p : Prog Ans α} {f : α → Prog Ans β}
    (hp : p.Uses allowed) (hf : ∀ a, (f a).Uses allowed) : (p >>= f).Uses allowed := by
  show (p.bind f).Uses allowed
  induction p with
  | done a => exact hf a
  | call o next ih => exact ⟨hp.1, fun ans => ih ans (hp.2 ans)⟩

/-- A program none of whose operations needs to know the state meets its
obligation from any state. -/
theorem Uses.keeps {allowed : Op → Prop} {p : Prog Ans α} (hp : p.Uses allowed)
    (h : ∀ o, allowed o → ∀ s ans s', inv s → sem o s ans s' → inv s' ∧ guar s s') (s : σ) :
    p.Keeps sem inv rely guar (fun _ _ => True) s := by
  induction p generalizing s with
  | done a => trivial
  | call o next ih =>
    intro s₁ _ hi ans s₂ hs
    obtain ⟨hi', hg⟩ := h o hp.1 s₁ ans s₂ hi hs
    exact ⟨hi', hg, ih ans (hp.2 ans) s₂⟩

end Prog

/-! ## Pools -/

/-- A shared state, and what each thread has still to do. -/
structure Pool (ι : Type) (Ans : Op → Type) (σ : Type) where
  shared : σ
  thread : ι → Prog Ans Unit

namespace Pool

/-- No thread has anything to do. -/
def idle (s : σ) : Pool ι Ans σ := ⟨s, fun _ => .done ()⟩

variable [DecidableEq ι]

/-- One thread starts a program that is a job for it, or goes one operation further. -/
inductive Move (sem : (o : Op) → σ → Ans o → σ → Prop) (job : ι → Prog Ans Unit → Prop) :
    Pool ι Ans σ → Pool ι Ans σ → Prop
  | start {pool : Pool ι Ans σ} (t : ι) (p : Prog Ans Unit) (hidle : pool.thread t = .done ())
      (hjob : job t p) : Move sem job pool ⟨pool.shared, Function.update pool.thread t p⟩
  | call {pool : Pool ι Ans σ} (t : ι) (o : Op) (next : Ans o → Prog Ans Unit) (ans : Ans o)
      (s' : σ) (hcall : pool.thread t = .call o next) (hsem : sem o pool.shared ans s') :
      Move sem job pool ⟨s', Function.update pool.thread t (next ans)⟩

/-- Any number of moves, of any threads in any order. -/
abbrev Moves (sem : (o : Op) → σ → Ans o → σ → Prop) (job : ι → Prog Ans Unit → Prop) :
    Pool ι Ans σ → Pool ι Ans σ → Prop :=
  Relation.ReflTransGen (Move sem job)

variable {sem : (o : Op) → σ → Ans o → σ → Prop} {job : ι → Prog Ans Unit → Prop}
  {inv : σ → Prop} {rely guar : ι → σ → σ → Prop} {pool pool' : Pool ι Ans σ}

/-- The threads' obligations, together. -/
structure Obliged (sem : (o : Op) → σ → Ans o → σ → Prop) (inv : σ → Prop)
    (rely guar : ι → σ → σ → Prop) (pool : Pool ι Ans σ) : Prop where
  kept : inv pool.shared
  thread : ∀ t, (pool.thread t).Keeps sem inv (rely t) (guar t) (fun _ _ => True) pool.shared

/-- That the threads' obligations fit together: what one guarantees the others
rely on, and every job meets its thread's obligation. -/
structure Fits (sem : (o : Op) → σ → Ans o → σ → Prop) (job : ι → Prog Ans Unit → Prop)
    (inv : σ → Prop) (rely guar : ι → σ → σ → Prop) : Prop where
  refl : ∀ t s, rely t s s
  trans : ∀ t a b c, rely t a b → rely t b c → rely t a c
  relied : ∀ t u, t ≠ u → ∀ s s', guar t s s' → rely u s s'
  keeps : ∀ t p s, job t p → inv s → p.Keeps sem inv (rely t) (guar t) (fun _ _ => True) s

omit [DecidableEq ι] in
theorem Obliged.idle {s : σ} (h : inv s) : Obliged sem inv rely guar (.idle s : Pool ι Ans σ) :=
  ⟨h, fun _ => trivial⟩

/-- A move keeps the obligations, and stays within one thread's guarantee if it
changes the shared state. -/
theorem Obliged.move (hfit : Fits sem job inv rely guar) (h : Obliged sem inv rely guar pool)
    (hm : Move sem job pool pool') :
    Obliged sem inv rely guar pool' ∧
      (pool'.shared = pool.shared ∨ ∃ t, guar t pool.shared pool'.shared) := by
  cases hm with
  | start t p hidle hjob =>
    refine ⟨⟨h.kept, fun u => ?_⟩, .inl rfl⟩
    by_cases hu : u = t
    · subst hu
      simpa only [Function.update_self] using hfit.keeps u p _ hjob h.kept
    · simpa only [Function.update_of_ne hu] using h.thread u
  | call t o next ans s' hcall hsem =>
    have ht := h.thread t
    rw [hcall] at ht
    obtain ⟨hi, hg, hk⟩ := ht _ (hfit.refl t _) h.kept ans s' hsem
    refine ⟨⟨hi, fun u => ?_⟩, .inr ⟨t, hg⟩⟩
    by_cases hu : u = t
    · subst hu
      simpa only [Function.update_self] using hk
    · have hrely := hfit.relied t u (Ne.symm hu) _ _ hg
      have hkept := Prog.Keeps.undisturbed (hfit.trans u) (h.thread u) hrely
      simpa only [Function.update_of_ne hu] using hkept

theorem Obliged.moves (hfit : Fits sem job inv rely guar) (h : Obliged sem inv rely guar pool)
    (hm : Moves sem job pool pool') : Obliged sem inv rely guar pool' := by
  induction hm with
  | refl => exact h
  | tail _ hlast ih => exact (ih.move hfit hlast).1

/-- The invariant holds in every interleaving. -/
theorem invariant (hfit : Fits sem job inv rely guar) {s : σ} (hs : inv s)
    (hm : Moves sem job (.idle s) pool) : inv pool.shared :=
  ((Obliged.idle hs).moves hfit hm).kept

/-- A relation that every guarantee is within relates any two states of an
interleaving, one after the other. -/
theorem path (hfit : Fits sem job inv rely guar) {R : σ → σ → Prop} (hrefl : ∀ s, R s s)
    (htrans : ∀ a b c, R a b → R b c → R a c) (hguar : ∀ t s s', guar t s s' → R s s')
    (h : Obliged sem inv rely guar pool) (hm : Moves sem job pool pool') :
    R pool.shared pool'.shared := by
  induction hm with
  | refl => exact hrefl _
  | tail hfirst hlast ih =>
    refine htrans _ _ _ ih ?_
    obtain heq | ⟨t, hg⟩ := ((h.moves hfit hfirst).move hfit hlast).2
    · rw [heq]
      exact hrefl _
    · exact hguar t _ _ hg

/-- A thread that runs its program to the end while no other thread moves does
what the program does alone. -/
theorem moves_run {exec : (o : Op) → σ → Ans o × σ}
    (hexec : ∀ o s, sem o s (exec o s).1 (exec o s).2) (t : ι) (p : Prog Ans Unit) (s : σ)
    (thread : ι → Prog Ans Unit) (ht : thread t = p) :
    Moves sem job ⟨s, thread⟩ ⟨(p.run exec s).2, Function.update thread t (.done ())⟩ := by
  induction p generalizing s thread with
  | done a =>
    have hsame : Function.update thread t (.done ()) = thread := by
      rw [← show thread t = .done () from ht, Function.update_eq_self]
    rw [hsame]
    exact .refl
  | call o next ih =>
    have hfirst : Move sem job ⟨s, thread⟩
        ⟨(exec o s).2, Function.update thread t (next (exec o s).1)⟩ :=
      .call t o next _ _ ht (hexec o s)
    have hrest := ih (exec o s).1 (exec o s).2 (Function.update thread t (next (exec o s).1))
      (Function.update_self t _ thread)
    rw [Function.update_idem] at hrest
    exact .head hfirst hrest

/-- From a state in which no thread has anything to do, one job may run alone. -/
theorem moves_job {exec : (o : Op) → σ → Ans o × σ}
    (hexec : ∀ o s, sem o s (exec o s).1 (exec o s).2) {t : ι} {p : Prog Ans Unit}
    (hjob : job t p) (s : σ) : Moves sem job (.idle s) (.idle (p.run exec s).2) := by
  have hstart : Move sem job (.idle s) ⟨s, Function.update (fun _ => .done ()) t p⟩ :=
    .start t p rfl hjob
  have hrun : Moves sem job ⟨s, Function.update (fun _ => .done ()) t p⟩ _ :=
    moves_run hexec t p s _ (Function.update_self t p fun _ => Prog.done ())
  rw [Function.update_idem, Function.update_eq_self] at hrun
  exact .head hstart hrun

end Pool

end Twag

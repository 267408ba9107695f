import Twag.Framework.Thread

/-!
# Threads that stay apart

Each thread has a `part` of the shared state, and its operations are within that
part as long as it only makes those that it may (`ok`). A thread is then
understood alone: `Prog.Safe` runs one program, on its own part, through every
answer that the operations can give, and `Pool.safe` gives what holds of one
program alone in every interleaving of them.
-/

namespace Twag

variable {Op : Type} {Ans : Op → Type} {α β σ ι : Type}
  {sem : (o : Op) → σ → Ans o → σ → Prop}

namespace Prog

/-- Run alone from `s`, the program makes only operations that are `ok` where it makes them;
where it ends, `post` holds. -/
def Safe (sem : (o : Op) → σ → Ans o → σ → Prop) (ok : Op → σ → Prop) (post : α → σ → Prop) :
    Prog Ans α → σ → Prop
  | .done a, s => post a s
  | .call o next, s => ok o s ∧ ∀ ans s', sem o s ans s' → (next ans).Safe sem ok post s'

variable {ok : Op → σ → Prop} {post : α → σ → Prop} {s : σ}

theorem safe_op {o : Op} {post : Ans o → σ → Prop} (hok : ok o s)
    (h : ∀ ans s', sem o s ans s' → post ans s') : (op o).Safe sem ok post s :=
  ⟨hok, h⟩

theorem safe_bind (post : α → σ → Prop) {p : Prog Ans α} {f : α → Prog Ans β}
    {post' : β → σ → Prop} (hp : p.Safe sem ok post s)
    (hf : ∀ a s, post a s → (f a).Safe sem ok post' s) : (p >>= f).Safe sem ok post' s := by
  show (p.bind f).Safe sem ok post' s
  induction p generalizing s with
  | done a => exact hf a s hp
  | call o next ih => exact ⟨hp.1, fun ans s' hs => ih ans (hp.2 ans s' hs)⟩

theorem Safe.mono {p : Prog Ans α} {post' : α → σ → Prop} (hp : p.Safe sem ok post s)
    (h : ∀ a s, post a s → post' a s) : p.Safe sem ok post' s := by
  induction p generalizing s with
  | done a => exact h a s hp
  | call o next ih => exact ⟨hp.1, fun ans s' hs => ih ans (hp.2 ans s' hs)⟩

end Prog

namespace Pool

/-- What a thread may do is done in its own part, and leaves the other parts as they are. -/
structure Apart (part : ι → σ → σ) (sem : (o : Op) → σ → Ans o → σ → Prop)
    (ok : ι → Op → σ → Prop) : Prop where
  own : ∀ t o s ans s', ok t o (part t s) → sem o s ans s' → sem o (part t s) ans (part t s')
  others : ∀ t o s ans s', ok t o (part t s) → sem o s ans s' → ∀ u, u ≠ t → part u s' = part u s

variable [DecidableEq ι] {job : ι → Prog Ans Unit → Prop} {part : ι → σ → σ}
  {ok : ι → Op → σ → Prop} {rest : ι → σ → Prop} {pool pool' : Pool ι Ans σ}

/-- One move keeps every thread's rest of its program safe. -/
theorem safe_move (hapart : Apart part sem ok)
    (hjob : ∀ t p s, job t p → rest t s → p.Safe sem (ok t) (fun _ => rest t) s)
    (h : ∀ t, (pool.thread t).Safe sem (ok t) (fun _ => rest t) (part t pool.shared))
    (hm : Move sem job pool pool') (t : ι) :
    (pool'.thread t).Safe sem (ok t) (fun _ => rest t) (part t pool'.shared) := by
  cases hm with
  | start u p hidle hstart =>
    by_cases ht : t = u
    · subst ht
      have hrest := h t
      rw [hidle] at hrest
      simpa only [Function.update_self] using hjob t p _ hstart hrest
    · simpa only [Function.update_of_ne ht] using h t
  | call u o next ans s' hcall hsem =>
    have hu := h u
    rw [hcall] at hu
    by_cases ht : t = u
    · subst ht
      simpa only [Function.update_self] using hu.2 ans _ (hapart.own t o _ ans s' hu.1 hsem)
    · simpa only [Function.update_of_ne ht, hapart.others u o _ ans s' hu.1 hsem t ht] using h t

/-- Threads whose programs are safe alone are safe in every interleaving. -/
theorem safe (hapart : Apart part sem ok)
    (hjob : ∀ t p s, job t p → rest t s → p.Safe sem (ok t) (fun _ => rest t) s)
    {s : σ} (hs : ∀ t, rest t (part t s)) (hm : Moves sem job (.idle s) pool) (t : ι) :
    (pool.thread t).Safe sem (ok t) (fun _ => rest t) (part t pool.shared) := by
  induction hm generalizing t with
  | refl => exact hs t
  | tail _ hlast ih => exact safe_move hapart hjob ih hlast t

end Pool

end Twag

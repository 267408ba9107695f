/-!
# Functions that can fail half way

A C function that returns an error code changes the state it works on, and what
it has changed stays changed if it then fails. `WP m s Q E`: run from `s`, `m`
ends with a value and a state of `Q`, or fails in a state of `E`. The rules for
the constructs of such a function are simp lemmas, so that `simp` takes a
program to the calls it makes; `WP.mono` puts their specifications in. `Keeps`
is for an invariant that every call keeps: its instances follow the program, so
that only what the program assigns is left to prove.
-/

namespace Twag

/-- A computation on a state that can fail, and that leaves the state as it is then. -/
abbrev Fallible (σ : Type) := OptionT (StateM σ)

namespace Fallible

variable {σ α β : Type}

/-- The value, if it does not fail, and the state at the end. -/
def exec (m : Fallible σ α) (s : σ) : Option α × σ := m.run.run s

/-- Whether `m` succeeds. -/
def outcome (m : Fallible σ α) : Fallible σ Bool :=
  OptionT.mk do
    let r ← m.run
    pure (some r.isSome)

/-- `m`, and go on if it fails. -/
def attempt (m : Fallible σ Unit) : Fallible σ Unit := do
  let _ ← m.outcome

/-- Fail unless `b`. -/
def check (b : Bool) : Fallible σ Unit := if b then pure () else failure

/-- `m` if `c`. -/
def whenever (c : Bool) (m : Fallible σ Unit) : Fallible σ Unit := if c then m else pure ()

def WP (m : Fallible σ α) (s : σ) (Q : α → σ → Prop) (E : σ → Prop) : Prop :=
  match m.exec s with
  | (some a, s') => Q a s'
  | (none, s') => E s'

variable {m : Fallible σ α} {s : σ} {Q Q' : α → σ → Prop} {E E' : σ → Prop}

@[simp] theorem wp_pure {a : α} : WP (pure a) s Q E ↔ Q a s := Iff.rfl

@[simp] theorem wp_failure : WP (failure : Fallible σ α) s Q E ↔ E s := Iff.rfl

@[simp] theorem wp_bind {f : α → Fallible σ β} {Q : β → σ → Prop} :
    WP (m >>= f) s Q E ↔ WP m s (fun a s' => WP (f a) s' Q E) E := by
  have hexec : (m >>= f).exec s = match m.exec s with
      | (some a, s') => (f a).exec s'
      | (none, s') => (none, s') := by
    simp only [exec, OptionT.run_bind, Option.elimM, StateT.run_bind]
    show (m.run.run s).1.elim (pure none : StateM σ (Option β)) (fun a => (f a).run) (m.run.run s).2
      = _
    rcases m.run.run s with ⟨r, s'⟩
    cases r with
    | none => rfl
    | some a => rfl
  unfold WP
  rw [hexec]
  rcases m.exec s with ⟨r, s'⟩
  cases r with
  | none => rfl
  | some a => rfl

@[simp] theorem wp_get {Q : σ → σ → Prop} : WP (get : Fallible σ σ) s Q E ↔ Q s s := Iff.rfl

@[simp] theorem wp_modify {f : σ → σ} {Q : Unit → σ → Prop} :
    WP (modify f : Fallible σ Unit) s Q E ↔ Q () (f s) := Iff.rfl

@[simp] theorem wp_outcome {Q : Bool → σ → Prop} :
    WP m.outcome s Q E ↔ WP m s (fun _ => Q true) (Q false) := by
  have hexec : m.outcome.exec s = (some (m.exec s).1.isSome, (m.exec s).2) := rfl
  unfold WP
  rw [hexec]
  rcases m.exec s with ⟨r, s'⟩
  cases r with
  | none => rfl
  | some a => rfl

@[simp] theorem wp_attempt {m : Fallible σ Unit} {Q : Unit → σ → Prop} :
    WP m.attempt s Q E ↔ WP m s Q (Q ()) := by
  rw [attempt, wp_bind, wp_outcome]
  rfl

@[simp] theorem wp_check {b : Bool} {Q : Unit → σ → Prop} :
    WP (check b) s Q E ↔ if b then Q () s else E s := by
  cases b with
  | false => rfl
  | true => rfl

@[simp] theorem wp_whenever {c : Bool} {m : Fallible σ Unit} {Q : Unit → σ → Prop} :
    WP (whenever c m) s Q E ↔ if c then WP m s Q E else Q () s := by
  cases c with
  | false => rfl
  | true => rfl

@[simp] theorem wp_ite {c : Prop} [Decidable c] {m' : Fallible σ α} :
    WP (if c then m else m') s Q E ↔ if c then WP m s Q E else WP m' s Q E := by
  split
  · rfl
  · rfl

theorem WP.mono (h : WP m s Q E) (hQ : ∀ a s', Q a s' → Q' a s') (hE : ∀ s', E s' → E' s') :
    WP m s Q' E' := by
  unfold WP at h ⊢
  split at h
  · exact hQ _ _ h
  · exact hE _ h

/-- What holds of the state at the end, however it ends. -/
theorem WP.exec {P : σ → Prop} (h : WP m s (fun _ => P) P) : P (m.exec s).2 := by
  unfold WP at h
  split at h
  · rename_i heq
    rwa [heq]
  · rename_i heq
    rwa [heq]

/-! ## Invariants -/

/-- `m` keeps `I`, whether it fails or not. The instances follow the program. -/
class Keeps (I : σ → Prop) (m : Fallible σ α) : Prop where
  wp : ∀ s, I s → WP m s (fun _ => I) I

namespace Keeps

variable {I : σ → Prop} {m' : Fallible σ α} {f : α → Fallible σ β} {n : Fallible σ Unit}

instance pure {a : α} : Keeps I (Pure.pure a : Fallible σ α) := ⟨fun _ h => h⟩

instance failure : Keeps I (Alternative.failure : Fallible σ α) := ⟨fun _ h => h⟩

instance get : Keeps I (MonadState.get : Fallible σ σ) := ⟨fun _ h => h⟩

instance bind [hm : Keeps I m] [hf : ∀ a, Keeps I (f a)] : Keeps I (m >>= f) :=
  ⟨fun s h => wp_bind.2 ((hm.wp s h).mono (fun a s' h' => (hf a).wp s' h') fun _ h' => h')⟩

instance check {b : Bool} : Keeps I (check b : Fallible σ Unit) := by
  refine ⟨fun s h => wp_check.2 ?_⟩
  split
  · exact h
  · exact h

instance outcome [hm : Keeps I m] : Keeps I m.outcome := ⟨fun s h => wp_outcome.2 (hm.wp s h)⟩

instance attempt [hn : Keeps I n] : Keeps I n.attempt := ⟨fun s h => wp_attempt.2 (hn.wp s h)⟩

instance whenever {b : Bool} [hn : Keeps I n] : Keeps I (whenever b n) := by
  refine ⟨fun s h => wp_whenever.2 ?_⟩
  split
  · exact hn.wp s h
  · exact h

instance ite {b : Prop} [Decidable b] [hm : Keeps I m] [hm' : Keeps I m'] :
    Keeps I (if b then m else m') := by
  split
  · exact hm
  · exact hm'

theorem modify {g : σ → σ} (h : ∀ s, I s → I (g s)) :
    Keeps I (modify g : Fallible σ Unit) := ⟨h⟩

theorem exec (hm : Keeps I m) (h : I s) : I (m.exec s).2 := (hm.wp s h).exec

end Keeps

end Fallible

end Twag

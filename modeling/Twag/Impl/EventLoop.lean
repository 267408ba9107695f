import Mathlib.Data.Nat.Basic
import Twag.Framework.Multimap
import Twag.Impl.Basic

/-!
# Timers of the event loop (`event_loop.cpp`)

`timers_` is a multimap from expiry times to callbacks; the callbacks are a
parameter here. `addTimer` and `popDue` are the two things `EventLoop` does
with it: `popDue now` is one test of the loop condition
`!timers_.empty() && timers_.begin()->first <= now` of `run`, and where it
holds, the callback and the timers without it. `timeoutMs` is how long `run`
lets `epoll_wait` wait.
-/

namespace Twag.Impl

/-- `EventLoop`, less its file descriptors. -/
structure EventLoop (κ : Type) where
  timers : Multimap Time κ

namespace EventLoop

variable {κ : Type}

def new : EventLoop κ := ⟨.empty⟩

/-- `add_timer`, where `now` is the reading of the clock. -/
def addTimer (loop : EventLoop κ) (now : Time) (ms : UInt32) (callback : κ) : EventLoop κ :=
  ⟨loop.timers.insert (now + milliseconds ms) callback⟩

/-- The first timer if it has expired at `now`, taken off. -/
def popDue (loop : EventLoop κ) (now : Time) : Option (κ × EventLoop κ) :=
  match loop.timers.popFirst with
  | some ((expire, callback), timers) => if expire ≤ now then some (callback, ⟨timers⟩) else none
  | none => none

/-- `timeout_ms` of `run`, where `now` is the reading of the clock: the cast to
`int` keeps the low 32 bits of the milliseconds left, as a signed number. -/
def timeoutMs (loop : EventLoop κ) (now : Time) : Int :=
  match loop.timers.entries with
  | [] => 1000
  | (firstExpire, _) :: _ =>
    if firstExpire ≤ now then 0
    else min (Int.bmod ((firstExpire - now) / 1000000 : Nat) (2 ^ 32)) 1000

/-- Some timer with this callback is pending and expires at `expire`. -/
def Pending (loop : EventLoop κ) (expire : Time) (callback : κ) : Prop :=
  (expire, callback) ∈ loop.timers.entries

/-- How many timers have expired at `now`. -/
def due (loop : EventLoop κ) (now : Time) : Nat :=
  loop.timers.entries.countP fun e => e.1 ≤ now

@[simp] theorem not_pending_new (t : Time) (cb : κ) : ¬ (new : EventLoop κ).Pending t cb := by
  simp [Pending, new]

theorem pending_addTimer {loop : EventLoop κ} {now t : Time} {ms : UInt32} {cb cb' : κ} :
    (loop.addTimer now ms cb).Pending t cb' ↔
      (t = now + milliseconds ms ∧ cb' = cb) ∨ loop.Pending t cb' := by
  simp only [Pending, addTimer, Multimap.mem_insert, Prod.mk.injEq]

/-- A timer taken off was due; every other pending timer stays, and nothing is added. -/
theorem popDue_cases {loop loop' : EventLoop κ} {now : Time} {cb : κ}
    (h : loop.popDue now = some (cb, loop')) :
    ∃ t ≤ now, loop.timers.entries = (t, cb) :: loop'.timers.entries := by
  simp only [popDue] at h
  split at h <;> [skip; cases h]
  rename_i e timers hp
  split at h <;> [skip; cases h]
  rename_i hle
  simp only [Option.some.injEq, Prod.mk.injEq] at h
  obtain ⟨rfl, rfl⟩ := h
  exact ⟨_, hle, (Multimap.popFirst_cases hp).1⟩

theorem pending_of_popDue {loop loop' : EventLoop κ} {now t : Time} {cb cb' : κ}
    (h : loop.popDue now = some (cb, loop')) (hp : loop'.Pending t cb') : loop.Pending t cb' := by
  obtain ⟨_, -, he⟩ := popDue_cases h
  rw [Pending, he]
  exact List.mem_cons_of_mem _ hp

theorem pending_popDue {loop loop' : EventLoop κ} {now t : Time} {cb cb' : κ}
    (h : loop.popDue now = some (cb, loop')) (hp : loop.Pending t cb') (hne : cb' ≠ cb) :
    loop'.Pending t cb' := by
  obtain ⟨_, -, he⟩ := popDue_cases h
  rw [Pending, he] at hp
  exact (List.mem_cons.mp hp).resolve_left fun heq => hne (congrArg Prod.snd heq)

theorem due_popDue {loop loop' : EventLoop κ} {now : Time} {cb : κ}
    (h : loop.popDue now = some (cb, loop')) : loop.due now = loop'.due now + 1 := by
  obtain ⟨t, ht, he⟩ := popDue_cases h
  rw [due, he, List.countP_cons, if_pos (by simpa using ht)]
  rfl

/-- A timer with a delay is not due at once. -/
theorem due_addTimer {loop : EventLoop κ} {now : Time} {ms : UInt32} {cb : κ}
    (h : 0 < milliseconds ms) : (loop.addTimer now ms cb).due now = loop.due now := by
  have hn : ¬ now + milliseconds ms ≤ now := Nat.not_le.mpr (Nat.lt_add_of_pos_right h)
  rw [due, addTimer, Multimap.countP_insert, if_neg (by simpa using hn)]
  rfl

/-- Where no timer is taken off, none is due. -/
theorem not_due_of_popDue {loop : EventLoop κ} {now t : Time} {cb : κ}
    (h : loop.popDue now = none) (hp : loop.Pending t cb) : now < t := by
  obtain ⟨⟨_ | ⟨e, l⟩, hs⟩⟩ := loop
  · simp [Pending] at hp
  · simp only [popDue, Multimap.popFirst, ite_eq_right_iff, reduceCtorEq, imp_false,
      not_le] at h
    rcases List.mem_cons.mp hp with rfl | hp
    · exact h
    · exact h.trans_le ((List.pairwise_cons.mp hs).1 _ hp)

end EventLoop

end Twag.Impl

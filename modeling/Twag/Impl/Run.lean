import Twag.Impl.EventLoop

/-!
# `EventLoop::run` (`event_loop.cpp`)

`run` as a machine. Its state is the timers, `running_` and the point the
control has reached; `advance` takes it from one point to the next, with a
reading of the clock and an answer of `epoll_wait`, of which it uses what that
part of the source asks for. `add_timer` and `stop` may be called at every
point: before `run`, and by the callbacks and handlers that it calls. What a
callback or a handler does is not fixed.
-/

namespace Twag.Impl.EventLoop

/-- What `epoll_wait` returns: the number of ready descriptors, or an error,
which is `EINTR` or another one. -/
inductive Wait
  | ready (n : Nat)
  | interrupted
  | failed
deriving DecidableEq, Repr

/-- A point of `run`. -/
inductive Point (κ : Type)
  /-- `run` has not been called, or has returned. -/
  | outside
  /-- Before a test of `running_`. -/
  | head
  /-- In `epoll_wait`. -/
  | waiting (timeoutMs : Int)
  /-- Before a test of the condition of the loop over expired timers; `now` is
  the last reading of the clock, and `n` descriptors are ready. -/
  | draining (n : Nat) (now : Time)
  /-- In `cb()`. -/
  | calling (n : Nat) (callback : κ)
  /-- In the loop over the ready descriptors, `n` of which are left. -/
  | handling (n : Nat)
deriving DecidableEq, Repr

/-- `EventLoop`, and where its `run` is. -/
structure Run (κ : Type) where
  loop : EventLoop κ
  running : Bool
  point : Point κ

/-- What happens to an event loop. -/
inductive Input (κ : Type)
  | addTimer (now : Time) (ms : UInt32) (callback : κ)
  | stop
  | run
  | advance (now : Time) (wait : Wait)

namespace Run

variable {κ : Type}

def new : Run κ := ⟨.new, false, .outside⟩

/-- `run`, from one point to the next. -/
def advance (r : Run κ) (now : Time) (wait : Wait) : Run κ :=
  match r.point with
  | .outside => r
  | .head => { r with point := if r.running then .waiting (r.loop.timeoutMs now) else .outside }
  | .waiting _ =>
    match wait with
    | .ready n => { r with point := .draining n now }
    | .interrupted => { r with point := .head }
    | .failed => { r with point := .outside }
  | .draining n last =>
    match r.loop.popDue last with
    | some (callback, loop) => { r with loop := loop, point := .calling n callback }
    | none => { r with point := .handling n }
  | .calling n _ => { r with point := .draining n now }
  | .handling 0 => { r with point := .head }
  | .handling (n + 1) => { r with point := .handling n }

def step (r : Run κ) : Input κ → Run κ
  | .addTimer now ms callback => { r with loop := r.loop.addTimer now ms callback }
  | .stop => { r with running := false }
  | .run =>
    match r.point with
    | .outside => { r with running := true, point := .head }
    | _ => r
  | .advance now wait => r.advance now wait

/-- The state after a history, the newest input first. -/
def after : List (Input κ) → Run κ
  | [] => new
  | x :: h => (after h).step x

end Run

end Twag.Impl.EventLoop

import Twag.Proof.Core.Timeout

/-!
# The arithmetic of timers

`log_statistics` arms its own timer again, with a delay in milliseconds that is
a 32-bit product; and `run` computes for `epoll_wait` the milliseconds left to
the first expiry, and casts them to `int`. `timers_exact_iff` says where both
are what they stand for:

* if the product fits into 32 bits (`StatisticsRight`), there is always one
  statistics timer, a whole interval after the last callback (`statistics_after`);
* if the milliseconds left, modulo 2³², are below 2³¹ (`TimeoutRight`).
-/

namespace Twag.Proof.Core

open Twag.Impl Twag.Spec

variable {boot : Boot} {h g : List Input} {x : Input}

/-! ## The statistics timer -/

/-- The pending timers of `log_statistics`. -/
def statistics (loop : EventLoop TimerCallback) : List (Time × TimerCallback) :=
  loop.timers.entries.filter fun e => e.2 = .logStatistics

/-- The step runs `log_statistics`. -/
def Logs (boot : Boot) (h : List Input) (x : Input) : Prop :=
  x.event = .timer ∧
    ∃ loop, (boot.after h).eventLoop.popDue x.env.now = some (.logStatistics, loop)

/-- The delay handed to `add_timer` for `log_statistics`. -/
def delay (boot : Boot) : Time := milliseconds (boot.config.statsLogIntervalSec * 1000)

theorem statistics_s2a (loop : EventLoop TimerCallback) (now : Time) (ms : UInt32) (m : Bytes) :
    statistics (loop.addTimer now ms (.s2aTimeout m)) = statistics loop :=
  Multimap.filter_insertEntry (by simp) _

theorem statistics_log {loop : EventLoop TimerCallback} (now : Time) (ms : UInt32)
    (hl : statistics loop = []) :
    statistics (loop.addTimer now ms .logStatistics) =
      [(now + milliseconds ms, .logStatistics)] := by
  have hp := (Multimap.perm_insertEntry (now + milliseconds ms) TimerCallback.logStatistics
    loop.timers.entries).filter fun e => e.2 = .logStatistics
  rw [List.filter_cons_of_pos (by simp), show loop.timers.entries.filter _ = [] from hl] at hp
  exact List.perm_singleton.mp hp

theorem armStatistics_eq {core : TwagCore} (now : Time)
    (hpos : 0 < core.config.statsLogIntervalSec) :
    (core.armStatistics now).eventLoop =
      core.eventLoop.addTimer now (core.config.statsLogIntervalSec * 1000) .logStatistics := by
  rw [TwagCore.armStatistics, if_pos hpos]

/-- The callback runs when the first statistics timer is due. -/
theorem Logs.due (hl : Logs boot h x) : ∃ t ≤ x.env.now, ∃ rest,
    statistics (boot.after h).eventLoop = (t, .logStatistics) :: rest := by
  obtain ⟨-, loop, hp⟩ := hl
  obtain ⟨t, hle, he⟩ := EventLoop.popDue_cases hp
  refine ⟨t, hle, statistics loop, ?_⟩
  rw [statistics, he, List.filter_cons_of_pos (by simp)]
  rfl

/-- A step leaves the statistics timers as they are, unless it runs the callback of the
first of them: then a timer takes its place if it was the only one. -/
theorem statistics_step (hpos : 0 < boot.config.statsLogIntervalSec) (h : List Input) (x : Input) :
    (¬ Logs boot h x ∧
      statistics (boot.after (x :: h)).eventLoop = statistics (boot.after h).eventLoop) ∨
    Logs boot h x ∧ ∀ t, statistics (boot.after h).eventLoop = [(t, .logStatistics)] →
      statistics (boot.after (x :: h)).eventLoop = [(x.env.now + delay boot, .logStatistics)] := by
  rw [Boot.after]
  cases loop_step (boot.after h) x with
  | keeps hp hl =>
    refine .inl ⟨fun hlog => ?_, congrArg statistics hl⟩
    obtain ⟨hx, loop, hp'⟩ := hlog
    rw [hp hx] at hp'
    cases hp'
  | arms hx _ _ hl =>
    refine .inl ⟨fun hlog => ?_, by rw [hl, statistics_s2a]⟩
    cases hx.symm.trans hlog.1
  | fires hx hp hl =>
    refine .inl ⟨fun hlog => ?_, ?_⟩
    · obtain ⟨-, loop, hp'⟩ := hlog
      cases hp.symm.trans hp'
    · obtain ⟨t, -, he⟩ := EventLoop.popDue_cases hp
      rw [hl, statistics, statistics, he, List.filter_cons_of_neg (by simp)]
  | logs hx hp hl =>
    refine .inr ⟨⟨hx, _, hp⟩, fun t hst => ?_⟩
    obtain ⟨t', -, he⟩ := EventLoop.popDue_cases hp
    rw [statistics, he, List.filter_cons_of_pos (by simp)] at hst
    have hcfg := config_after boot h
    rw [hl, armStatistics_eq x.env.now (by rw [hcfg]; exact hpos),
      statistics_log _ _ (List.cons.inj hst).2, delay, hcfg]

/-- In every run there is one statistics timer. It was armed by the last
callback, or when the gateway was started, and does not run before its delay. -/
theorem statistics_after (hpos : 0 < boot.config.statsLogIntervalSec) (h : List Input) :
    ∃ t, statistics (boot.after h).eventLoop = [(t, .logStatistics)] ∧
      ∀ g x, (x :: g) <:+ h → Logs boot g x → x.env.now + delay boot ≤ t := by
  induction h with
  | nil =>
    refine ⟨boot.now + delay boot, ?_, fun g x ht => ?_⟩
    · show statistics (TwagCore.armStatistics _ boot.now).eventLoop = _
      rw [armStatistics_eq boot.now hpos]
      exact statistics_log boot.now _ rfl
    · exact absurd (List.suffix_nil.mp ht) (List.cons_ne_nil x g)
  | cons x h ih =>
    obtain ⟨t, hst, hle⟩ := ih
    rcases statistics_step hpos h x with ⟨hn, hsame⟩ | ⟨hx, harmed⟩
    · refine ⟨t, hsame.trans hst, fun g y ht hlog => ?_⟩
      rcases List.suffix_cons_iff.mp ht with he | ht
      · cases he
        exact absurd hlog hn
      · exact hle g y ht hlog
    · obtain ⟨t', hdue, rest, hst'⟩ := hx.due
      rw [hst] at hst'
      cases hst'
      refine ⟨x.env.now + delay boot, harmed t hst, fun g y ht hlog => ?_⟩
      rcases List.suffix_cons_iff.mp ht with he | ht
      · cases he
        exact Nat.le_refl _
      · calc y.env.now + delay boot ≤ t := hle g y ht hlog
          _ ≤ x.env.now := hdue
          _ ≤ x.env.now + delay boot := Nat.le_add_right _ _

/-- Between two statistics callbacks lies the delay. -/
theorem logs_apart (hpos : 0 < boot.config.statsLogIntervalSec) (ht : (x :: g) <:+ h)
    (hx : Logs boot g x) {y : Input} (hy : Logs boot h y) :
    x.env.now + delay boot ≤ y.env.now := by
  obtain ⟨t, hst, hle⟩ := statistics_after hpos h
  obtain ⟨t', hdue, rest, hst'⟩ := hy.due
  rw [hst] at hst'
  cases hst'
  exact (hle g x ht hx).trans hdue

/-! ## The interval -/

/-- With this interval, statistics are logged as configured. -/
structure StatisticsRight (interval : UInt32) : Prop where
  /-- The timer is armed with the interval in milliseconds. -/
  delay : ∀ (core : TwagCore) (now : Time), core.config.statsLogIntervalSec = interval →
    ∃ ms : UInt32, ms.toNat = interval.toNat * 1000 ∧
      (core.armStatistics now).eventLoop = core.eventLoop.addTimer now ms .logStatistics
  /-- Between two callbacks lies the interval. -/
  apart : ∀ (boot : Boot), boot.config.statsLogIntervalSec = interval →
    ∀ h g x y, (x :: g) <:+ h → Logs boot g x → Logs boot h y →
      x.env.now + interval.toNat * 1000000000 ≤ y.env.now
  /-- The loop over expired timers ends, even if the clock stands. -/
  ends : ∀ (boot : Boot), boot.config.statsLogIntervalSec = interval →
    ∀ h now envs, (∀ env ∈ envs, env.now = now) →
      (boot.after h).eventLoop.due now < envs.length → ((boot.after h).drain envs).isSome

theorem milliseconds_mul {interval : UInt32} (hlt : interval.toNat * 1000 < 2 ^ 32) :
    (interval * 1000).toNat = interval.toNat * 1000 := by
  rw [UInt32.toNat_mul]
  exact Nat.mod_eq_of_lt hlt

theorem statisticsRight {interval : UInt32} (hpos : 0 < interval)
    (hlt : interval.toNat * 1000 < 2 ^ 32) : StatisticsRight interval where
  delay := by
    intro core now hi
    subst hi
    exact ⟨_, milliseconds_mul hlt, armStatistics_eq now hpos⟩
  apart := by
    intro boot hi h g x y ht hx hy
    subst hi
    have hle := logs_apart hpos ht hx hy
    rw [Core.delay, milliseconds, milliseconds_mul hlt, Nat.mul_assoc] at hle
    exact hle
  ends := by
    intro boot hi h now envs hnow hlen
    subst hi
    have hpos' : 0 < boot.config.statsLogIntervalSec.toNat := UInt32.lt_iff_toNat_lt.mp hpos
    have hst : 0 < milliseconds ((boot.after h).config.statsLogIntervalSec * 1000) := by
      rw [config_after, milliseconds, milliseconds_mul hlt]
      exact Nat.mul_pos (Nat.mul_pos hpos' (by decide)) (by decide)
    obtain ⟨r, hr⟩ := drain_ends hnow (fun _ => hst) hlen
    rw [hr]
    rfl

theorem lt_of_statisticsRight {interval : UInt32} (hr : StatisticsRight interval) :
    interval.toNat * 1000 < 2 ^ 32 := by
  obtain ⟨ms, hms, -⟩ := hr.delay
    ⟨{ sampleBoot.config with statsLogIntervalSec := interval }, .new, .new⟩ 0 rfl
  rw [← hms]
  exact ms.toNat_lt

/-! ## The timeout of `epoll_wait` -/

/-- The timeout is between 0 and 1000 ms, and not longer than the time left to
the first expiry. -/
structure TimeoutRight {κ : Type} (loop : EventLoop κ) (now : Time) : Prop where
  nonneg : 0 ≤ loop.timeoutMs now
  le_second : loop.timeoutMs now ≤ 1000
  le_left : ∀ t cb rest, loop.timers.entries = (t, cb) :: rest →
    loop.timeoutMs now * 1000000 ≤ (t - now : Nat)

theorem bmod_nonneg_iff (n : Nat) : 0 ≤ Int.bmod n (2 ^ 32) ↔ n % 2 ^ 32 < 2 ^ 31 := by
  rw [Int.bmod_def]
  split <;> omega

theorem timeoutRight_iff {κ : Type} (loop : EventLoop κ) (now : Time) :
    TimeoutRight loop now ↔
      ∀ t cb rest, loop.timers.entries = (t, cb) :: rest →
        (t - now) / 1000000 % 2 ^ 32 < 2 ^ 31 := by
  obtain ⟨⟨_ | ⟨⟨t, cb⟩, rest⟩, hs⟩⟩ := loop
  · constructor
    · intro _ t cb rest he
      cases he
    · intro _
      refine ⟨?_, Int.le_refl _, fun t cb rest he => ?_⟩
      · show (0 : Int) ≤ 1000
        omega
      · cases he
  · have hto : EventLoop.timeoutMs ⟨⟨(t, cb) :: rest, hs⟩⟩ now =
      if t ≤ now then 0 else min (Int.bmod ((t - now) / 1000000 : Nat) (2 ^ 32)) 1000 := rfl
    have hsign := bmod_nonneg_iff ((t - now) / 1000000)
    have hle : Int.bmod ((t - now) / 1000000 : Nat) (2 ^ 32) ≤ ((t - now) / 1000000 : Nat) :=
      toInt32_le _
    constructor
    · intro ⟨hnn, _, _⟩ t' cb' rest' he
      cases he
      rw [hto] at hnn
      split at hnn
      · rename_i hdue
        rw [Nat.sub_eq_zero_of_le hdue]
        decide
      · exact hsign.mp (by omega)
    · intro hlt
      have hnn := hsign.mpr (hlt t cb rest rfl)
      have hdiv := Nat.div_mul_le_self (t - now) 1000000
      refine ⟨?_, ?_, fun t' cb' rest' he => ?_⟩
      · rw [hto]
        split <;> omega
      · rw [hto]
        split <;> omega
      · cases he
        rw [hto]
        split <;> omega

/-- For every interval and every timer set, exactly when the 32-bit product and
the cast lose nothing, timers are armed and waited for as they should be. -/
theorem timers_exact_iff {κ : Type} (interval : UInt32) (hpos : 0 < interval)
    (loop : EventLoop κ) (now : Time) :
    (StatisticsRight interval ↔ interval.toNat * 1000 < 2 ^ 32) ∧
      (TimeoutRight loop now ↔
        ∀ t cb rest, loop.timers.entries = (t, cb) :: rest →
          (t - now) / 1000000 % 2 ^ 32 < 2 ^ 31) := by
  exact ⟨⟨lt_of_statisticsRight, statisticsRight hpos⟩, timeoutRight_iff loop now⟩

/-- The gateway started with this interval. -/
def sampleStatistics (interval : UInt32) : Boot :=
  { sampleBoot with config := { sampleBoot.config with statsLogIntervalSec := interval } }

theorem timers_exact_iff_sample :
    StatisticsRight 60 ∧ TimeoutRight ((sampleStatistics 60).after []).eventLoop 0 := by
  obtain ⟨hst, hto⟩ := timers_exact_iff 60 (by decide) ((sampleStatistics 60).after []).eventLoop 0
  refine ⟨hst.mpr (by decide), hto.mpr fun t cb rest he => ?_⟩
  have he' : (60000000000, TimerCallback.logStatistics) :: [] = (t, cb) :: rest := he
  cases he'
  decide

/-- A timer that arms itself again at once keeps the loop busy while the clock stands. -/
theorem drain_endless {core : TwagCore} {now : Time}
    (hp : (core.eventLoop.popDue now).isSome)
    (hr : ∀ env : Env, env.now = now → (core.runTimer env).1 = core) (envs : List Env)
    (hnow : ∀ env ∈ envs, env.now = now) : core.drain envs = none := by
  induction envs with
  | nil => rfl
  | cons env envs ih =>
    have he : env.now = now := hnow env List.mem_cons_self
    obtain ⟨p, hp⟩ := Option.isSome_iff_exists.mp hp
    have hrest := ih fun env' he' => hnow env' (List.mem_cons_of_mem _ he')
    simp only [TwagCore.drain, he, hp, hr env he, hrest, Option.map_none]

/-- With 2²⁹ seconds, the delay is 0, and the loop over expired timers runs for
as long as the clock stands; with 2147484 seconds, `epoll_wait` is given a
negative timeout, without an end. -/
theorem delay_wraps :
    ((sampleStatistics 536870912).config.statsLogIntervalSec * 1000 = 0 ∧
        ∀ envs : List Env, (∀ env ∈ envs, env.now = 0) →
          ((sampleStatistics 536870912).after []).drain envs = none) ∧
      ((sampleStatistics 2147484).after []).eventLoop.timeoutMs 0 = -2147483296 := by
  refine ⟨⟨by decide, fun envs hnow => ?_⟩, by decide⟩
  refine drain_endless (by decide) (fun env he => ?_) envs hnow
  rw [TwagCore.runTimer, he]
  rfl

end Twag.Proof.Core

import Twag.Impl.Config
import Twag.Proof.Core.Admission
import Twag.Proof.Core.Statistics

/-!
# What follows from the configuration file

Two gateways that are started with one file may differ in what the memory of
their `TwagConfig` held before, where the file leaves it as it is (`load_eq`).
`determined_iff` says for which files they take the same decision on every
Access-Request, arm the same statistics timer, and admit as many sessions as the
file says.
-/

namespace Twag.Proof.Core

open Twag.Impl Twag.Spec

variable {file : Option Json}

/-- The integer that the file has for `key`. -/
def fileInteger (file : Option Json) (key : String) : Option Int := file.bind (·.integer? key)

/-! ## Loading -/

theorem integer?_of_not_isObject {json : Json} (h : ¬ json.isObject = true) (key : String) :
    json.integer? key = none := by
  cases json with
  | object fields => exact absurd rfl h
  | _ => rfl

theorem load_of_not_isObject {json : Json} (h : ¬ json.isObject = true) (mem : ConfigMemory) :
    ConfigManager.load mem (some json) = ConfigManager.defaults mem := by
  simp only [ConfigManager.load, if_neg h]

/-- The memory shows in two fields, where the file has no integer for them. -/
theorem load_eq (mem : ConfigMemory) (file : Option Json) :
    ConfigManager.load mem file =
      { ConfigManager.load ⟨0, 0⟩ file with
        maxActiveSessions :=
          ((fileInteger file "max_active_sessions").map toUInt32).getD mem.maxActiveSessions
        statsLogIntervalSec :=
          ((fileInteger file "stats_log_interval_sec").map toUInt32).getD
            mem.statsLogIntervalSec } := by
  cases file with
  | none => rfl
  | some json =>
    by_cases ho : json.isObject = true
    · simp only [ConfigManager.load, if_pos ho, fileInteger, Option.bind_some]
      rfl
    · simp only [load_of_not_isObject ho, fileInteger, Option.bind_some,
        integer?_of_not_isObject ho]
      rfl

theorem maxActiveSessions_load (mem : ConfigMemory) (file : Option Json) :
    (ConfigManager.load mem file).maxActiveSessions =
      ((fileInteger file "max_active_sessions").map toUInt32).getD mem.maxActiveSessions := by
  rw [load_eq]

theorem statsLogIntervalSec_load (mem : ConfigMemory) (file : Option Json) :
    (ConfigManager.load mem file).statsLogIntervalSec =
      ((fileInteger file "stats_log_interval_sec").map toUInt32).getD mem.statsLogIntervalSec := by
  rw [load_eq]

theorem toNat_toUInt32 (i : Int) : ((toUInt32 i).toNat : Int) = i % 2 ^ 32 := by
  rw [toUInt32, UInt32.toNat_ofNat']
  omega

/-! ## Two gateways with one file -/

/-- What a gateway does about admission and statistics follows from the file. -/
structure Determined (file : Option Json) : Prop where
  /-- The same decision on every Access-Request, after any history. -/
  admission : ∀ mem mem' now h x,
    refused (.ofFile mem file now) h x = refused (.ofFile mem' file now) h x
  /-- The same statistics timer, after any history. -/
  timer : ∀ mem mem' now h,
    statistics ((Boot.ofFile mem file now).after h).eventLoop =
      statistics ((Boot.ofFile mem' file now).after h).eventLoop
  /-- The limit is the integer in the file. -/
  limit : ∀ mem i, fileInteger file "max_active_sessions" = some i →
    ((ConfigManager.load mem file).maxActiveSessions.toNat : Int) = i

/-- A request for a new session, when there is none. -/
theorem refused_first (boot : Boot) {x : Input} {req : AccessRequest} {c : Option Nat}
    (hx : x.event = .accessRequest req c) :
    refused boot [] x = true ↔ boot.config.maxActiveSessions = 0 := by
  have hcount : (boot.after []).sessionManager.getActiveSessionsCount = 0 := by
    show (TwagCore.armStatistics _ boot.now).sessionManager.getActiveSessionsCount = 0
    rw [TwagCore.armStatistics]
    split <;> rfl
  rw [refused_iff]
  constructor
  · intro hr
    obtain ⟨req', c', -, -, hc⟩ := hr
    rw [hcount, config_after] at hc
    exact UInt32.toNat_inj.mp (Nat.le_zero.mp hc)
  · intro hz
    refine ⟨req, c, hx, getSession_after_nil req.macAddr, ?_⟩
    rw [hcount, config_after, hz]
    exact Nat.le_refl 0

theorem statistics_first (boot : Boot) :
    statistics (boot.after []).eventLoop =
      if 0 < boot.config.statsLogIntervalSec then
        [(boot.now + delay boot, .logStatistics)] else [] := by
  show statistics (TwagCore.armStatistics _ boot.now).eventLoop = _
  by_cases hpos : 0 < boot.config.statsLogIntervalSec
  · rw [armStatistics_eq boot.now hpos, if_pos hpos]
    exact statistics_log boot.now _ rfl
  · rw [TwagCore.armStatistics, if_neg hpos, if_neg hpos]
    rfl

/-- Without an integer in the file, the memory may hold a limit of 0 or of 1. -/
theorem Determined.max (hd : Determined file) :
    ∃ i, fileInteger file "max_active_sessions" = some i := by
  cases hf : fileInteger file "max_active_sessions" with
  | some i => exact ⟨i, rfl⟩
  | none =>
    have hmax (n : UInt32) : (Boot.ofFile ⟨n, 0⟩ file 0).config.maxActiveSessions = n := by
      show (ConfigManager.load ⟨n, 0⟩ file).maxActiveSessions = n
      rw [maxActiveSessions_load, hf]
      rfl
    have hx : (sampleAt 10 sampleAttach).event = sampleAttach := rfl
    have hsame := hd.admission ⟨0, 0⟩ ⟨1, 0⟩ 0 [] (sampleAt 10 sampleAttach)
    have h₀ := (refused_first (.ofFile ⟨0, 0⟩ file 0) hx).mpr (hmax 0)
    have h₁ := (refused_first (.ofFile ⟨1, 0⟩ file 0) hx).mp (hsame ▸ h₀)
    rw [hmax 1] at h₁
    exact absurd h₁ (by decide)

/-- Without one, a timer is armed or not. -/
theorem Determined.stats (hd : Determined file) :
    ∃ i, fileInteger file "stats_log_interval_sec" = some i := by
  cases hf : fileInteger file "stats_log_interval_sec" with
  | some i => exact ⟨i, rfl⟩
  | none =>
    have hstats (n : UInt32) : (Boot.ofFile ⟨0, n⟩ file 0).config.statsLogIntervalSec = n := by
      show (ConfigManager.load ⟨0, n⟩ file).statsLogIntervalSec = n
      rw [statsLogIntervalSec_load, hf]
      rfl
    have hsame := hd.timer ⟨0, 0⟩ ⟨0, 1⟩ 0 []
    rw [statistics_first, statistics_first, hstats 0, hstats 1, if_neg (by decide),
      if_pos (by decide)] at hsame
    cases hsame

/-- What a gateway does follows from its file exactly if the file has integers
for the two fields without a default, and that for the limit fits. -/
theorem determined_iff (file : Option Json) :
    Determined file ↔
      (∃ i, fileInteger file "max_active_sessions" = some i ∧ 0 ≤ i ∧ i < 2 ^ 32) ∧
        ∃ i, fileInteger file "stats_log_interval_sec" = some i := by
  constructor
  · intro hd
    obtain ⟨i, hi⟩ := hd.max
    have hl := hd.limit ⟨0, 0⟩ i hi
    rw [maxActiveSessions_load, hi, Option.map_some, Option.getD_some, toNat_toUInt32] at hl
    exact ⟨⟨i, hi, by omega, by omega⟩, hd.stats⟩
  · intro ⟨⟨i, hi, hnn, hlt⟩, j, hj⟩
    have hload (mem mem' : ConfigMemory) :
        ConfigManager.load mem file = ConfigManager.load mem' file := by
      rw [load_eq mem, load_eq mem', hi, hj]
      rfl
    have hboot (mem mem' : ConfigMemory) (now : Time) :
        Boot.ofFile mem file now = Boot.ofFile mem' file now := by
      rw [Boot.ofFile, hload mem mem', Boot.ofFile]
    refine ⟨fun mem mem' now h x => ?_, fun mem mem' now h => ?_, fun mem i' hi' => ?_⟩
    · rw [hboot mem mem' now]
    · rw [hboot mem mem' now]
    · cases hi.symm.trans hi'
      rw [maxActiveSessions_load, hi, Option.map_some, Option.getD_some, toNat_toUInt32]
      omega

/-- A file with this limit, and an interval. -/
def sampleFile (limit : Json) : Option Json :=
  some (.object [(ascii "max_active_sessions", limit),
    (ascii "stats_log_interval_sec", .integer 60)])

/-- Without a limit in the file, the memory decides on the first session; and a
limit that does not fit becomes another one. -/
theorem memory_decides :
    refused (.ofFile ⟨0, 0⟩ none 0) [] (sampleAt 10 sampleAttach) = true ∧
      refused (.ofFile ⟨5, 0⟩ none 0) [] (sampleAt 10 sampleAttach) = false ∧
      refused (.ofFile ⟨0, 0⟩ (sampleFile (.string (ascii "5"))) 0) []
        (sampleAt 10 sampleAttach) = true ∧
      refused (.ofFile ⟨5, 0⟩ (sampleFile (.string (ascii "5"))) 0) []
        (sampleAt 10 sampleAttach) = false ∧
      (ConfigManager.load ⟨0, 0⟩ (sampleFile (.integer 4294967301))).maxActiveSessions = 5 := by
  decide

end Twag.Proof.Core

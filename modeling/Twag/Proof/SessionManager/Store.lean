import Twag.Framework.Size
import Twag.Impl.SessionManager

/-!
# The session store, operation by operation

What each operation of `SessionManager` does to the stored sessions
(`getSession`), to their number (`getActiveSessionsCount`) and to the
counters, so that no later proof looks into the store:

* `getSession_put`, `getSession_createSession`, `getSession_removeSession`;
* `count_put`, `count_createSession`, `count_removeSession`;
* `getSessionByTeidC_stored`, `getSessionByTeidC_of_unique`,
  `exists_getSessionByTeidC`: the scan finds only stored sessions with the TEID it
  looks for, it finds the only one, and it may find any of several.
-/

namespace Twag.Impl.SessionManager

variable {sm : SessionManager} {mac mac' : Bytes}

/-! ## Lookups -/

@[simp] theorem getSession_put (sm : SessionManager) (s : UeSession mac) :
    (sm.put s).getSession mac = some s := by
  simp [getSession, put]

theorem getSession_put_ne (s : UeSession mac) (h : mac' ≠ mac) :
    (sm.put s).getSession mac' = sm.getSession mac' := by
  simp [getSession, put, AList.lookup_insert_ne h]

theorem getSession_createSession (sm : SessionManager) (mem : Indeterminate) (mac : Bytes) :
    (sm.createSession mem mac).1.getSession mac = some (sm.createSession mem mac).2 := by
  simp [getSession, createSession]

theorem getSession_createSession_ne (mem : Indeterminate) (h : mac' ≠ mac) :
    (sm.createSession mem mac).1.getSession mac' = sm.getSession mac' := by
  simp [getSession, createSession, AList.lookup_insert_ne h]

@[simp] theorem getSession_removeSession (sm : SessionManager) (mac : Bytes) :
    (sm.removeSession mac).getSession mac = none := by
  simp only [getSession, removeSession]
  split
  · exact AList.lookup_erase _ _
  · rename_i h
    simpa using h

theorem getSession_removeSession_ne (h : mac' ≠ mac) :
    (sm.removeSession mac).getSession mac' = sm.getSession mac' := by
  simp only [getSession, removeSession]
  split
  · exact AList.lookup_erase_ne h
  · rfl

theorem getSession_eq_some_iff {s : UeSession mac} :
    sm.getSession mac = some s ↔ ⟨mac, s⟩ ∈ sm.sessions.entries := by
  rw [getSession, ← Option.mem_def, AList.mem_lookup_iff]

/-- Whatever the iteration order, a session found by its control TEID is stored
and has that TEID. -/
theorem getSessionByTeidC_stored {it : IterationOrder (Sigma UeSession)} {teid : UInt32}
    {s : UeSession mac} (h : sm.getSessionByTeidC it teid = some ⟨mac, s⟩) :
    sm.getSession mac = some s ∧ s.gtpTeidC = teid := by
  obtain ⟨hm, ht⟩ := it.find_mem h
  exact ⟨getSession_eq_some_iff.mpr hm, by simpa using ht⟩

theorem getSessionByTeidC_eq_none_iff {it : IterationOrder (Sigma UeSession)} {teid : UInt32} :
    sm.getSessionByTeidC it teid = none ↔
      ∀ mac (s : UeSession mac), sm.getSession mac = some s → s.gtpTeidC ≠ teid := by
  simp only [getSessionByTeidC, it.find_eq_none_iff, getSession_eq_some_iff, beq_eq_false_iff_ne,
    Sigma.forall]

theorem getSessionByTeidC_of_unique (it : IterationOrder (Sigma UeSession)) {s : UeSession mac}
    (hs : sm.getSession mac = some s)
    (hu : ∀ mac' (s' : UeSession mac'), sm.getSession mac' = some s' →
      s'.gtpTeidC = s.gtpTeidC → mac' = mac) :
    sm.getSessionByTeidC it s.gtpTeidC = some ⟨mac, s⟩ := by
  refine it.find_eq_of_unique (getSession_eq_some_iff.mp hs) (beq_self_eq_true _) ?_
  rintro ⟨mac', s'⟩ hm ht
  have hs' := getSession_eq_some_iff.mpr hm
  obtain rfl := hu mac' s' hs' (eq_of_beq ht)
  cases hs.symm.trans hs'
  rfl

theorem exists_getSessionByTeidC {s : UeSession mac} (hs : sm.getSession mac = some s) :
    ∃ it, sm.getSessionByTeidC it s.gtpTeidC = some ⟨mac, s⟩ :=
  IterationOrder.exists_find (getSession_eq_some_iff.mp hs) (beq_self_eq_true _)

/-! ## The number of sessions -/

theorem mem_keys_iff : mac ∈ sm.sessions.keys ↔ (sm.getSession mac).isSome := by
  rw [getSession, AList.lookup_isSome, AList.mem_keys]

theorem count_put {s' : UeSession mac} (s : UeSession mac) (h : sm.getSession mac = some s') :
    (sm.put s).getActiveSessionsCount = sm.getActiveSessionsCount :=
  length_entries_insert_mem s (mem_keys_iff.mpr (by rw [h]; rfl))

theorem count_createSession (mem : Indeterminate) (h : sm.getSession mac = none) :
    (sm.createSession mem mac).1.getActiveSessionsCount = sm.getActiveSessionsCount + 1 :=
  length_entries_insert_notMem _ (by rw [mem_keys_iff, h]; simp)

theorem count_removeSession {s : UeSession mac} (h : sm.getSession mac = some s) :
    (sm.removeSession mac).getActiveSessionsCount + 1 = sm.getActiveSessionsCount := by
  have hs : (sm.sessions.lookup mac).isSome := by rw [← getSession, h]; rfl
  rw [removeSession, if_pos hs]
  exact length_entries_erase (mem_keys_iff.mpr hs)

/-! ## The counters -/

theorem totals_removeSession {s : UeSession mac} (h : sm.getSession mac = some s) :
    (sm.removeSession mac).totalConnections = sm.totalConnections ∧
      (sm.removeSession mac).totalDisconnections = sm.totalDisconnections + 1 ∧
      (sm.removeSession mac).totalRejectedSessions = sm.totalRejectedSessions := by
  have hs : (sm.sessions.lookup mac).isSome := by rw [← getSession, h]; rfl
  rw [removeSession, if_pos hs]
  exact ⟨rfl, rfl, rfl⟩

theorem nextTeid_removeSession (sm : SessionManager) (mac : Bytes) :
    (sm.removeSession mac).nextTeid = sm.nextTeid := by
  rw [removeSession]
  split <;> rfl

end Twag.Impl.SessionManager

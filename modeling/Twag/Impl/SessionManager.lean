import Mathlib.Data.List.AList
import Twag.Framework.Scan
import Twag.Impl.UeSession

/-!
# The session store (`session_manager.cpp`)

`sessions_` is an `AList`: at most one session for each key. The order in
which the scan of `getSessionByTeidC` visits them is an argument, since an
`unordered_map` promises none. Sessions are shared pointers in the source: a
handler changes the stored session in place, which is `put` here.
-/

namespace Twag.Impl

/-- `SessionManager`. -/
structure SessionManager where
  sessions : AList UeSession
  nextTeid : UInt32
  totalConnections : UInt64
  totalDisconnections : UInt64
  totalRejectedSessions : UInt64

/-- The counters `get_stats` reports. -/
structure Stats where
  active : UInt64
  totalConn : UInt64
  totalDisconn : UInt64
  rejected : UInt64
deriving DecidableEq, Repr

namespace SessionManager

/-- The constructor. -/
def new : SessionManager where
  sessions := ∅
  nextTeid := 1
  totalConnections := 0
  totalDisconnections := 0
  totalRejectedSessions := 0

/-- `create_session`: an existing entry is overwritten. -/
def createSession (sm : SessionManager) (mem : Indeterminate) (mac : Bytes) :
    SessionManager × UeSession mac :=
  let session : UeSession mac := { UeSession.new mem mac with
    gtpTeidC := sm.nextTeid
    gtpTeidU := sm.nextTeid + 1 }
  ({ sm with
      sessions := sm.sessions.insert mac session
      nextTeid := sm.nextTeid + 2
      totalConnections := sm.totalConnections + 1 }, session)

/-- `get_session`. -/
def getSession (sm : SessionManager) (mac : Bytes) : Option (UeSession mac) :=
  sm.sessions.lookup mac

/-- `get_session_by_teid_c`. -/
def getSessionByTeidC (sm : SessionManager) (it : IterationOrder (Sigma UeSession))
    (teid : UInt32) : Option (Sigma UeSession) :=
  it.find (fun pair => pair.2.gtpTeidC == teid) sm.sessions.entries

/-- `remove_session`. -/
def removeSession (sm : SessionManager) (mac : Bytes) : SessionManager :=
  if (sm.sessions.lookup mac).isSome then
    { sm with
      sessions := sm.sessions.erase mac
      totalDisconnections := sm.totalDisconnections + 1 }
  else sm

/-- `increment_rejected`. -/
def incrementRejected (sm : SessionManager) : SessionManager :=
  { sm with totalRejectedSessions := sm.totalRejectedSessions + 1 }

/-- `get_active_sessions_count`. -/
def getActiveSessionsCount (sm : SessionManager) : Nat := sm.sessions.entries.length

/-- `get_stats`. -/
def getStats (sm : SessionManager) : Stats where
  active := UInt64.ofNat sm.getActiveSessionsCount
  totalConn := sm.totalConnections
  totalDisconn := sm.totalDisconnections
  rejected := sm.totalRejectedSessions

/-- The store after the session of `mac` was changed in place. -/
def put (sm : SessionManager) {mac : Bytes} (session : UeSession mac) : SessionManager :=
  { sm with sessions := sm.sessions.insert mac session }

end SessionManager

end Twag.Impl

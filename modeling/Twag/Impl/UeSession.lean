import Twag.Impl.Basic

/-!
# A UE's session (`ue_session.hpp`)

The MAC address of a session is fixed by its constructor and is also the key
it is stored under, so it is a parameter of the type: a session cannot be
stored under another key. `ip_address_` and `diameter_session_id_` are never
read or written, and are left out.
-/

namespace Twag.Impl

/-- `SessionState`. -/
inductive SessionState where
  | init
  | authPending
  | gtpCreatePending
  | connected
  | disconnecting
deriving DecidableEq, Repr

/-- `UeSession`, with `get_mac() = mac`. -/
structure UeSession (mac : Bytes) where
  state : SessionState
  imsi : Bytes
  ueIp : UInt32
  gtpTeidC : UInt32
  gtpTeidU : UInt32
  pgwTeidC : UInt32
  pgwTeidU : UInt32
  pgwIp : Bytes
  apn : Bytes
  pdnType : UInt32
  ambrUl : UInt32
  ambrDl : UInt32
  qci : UInt8
  radiusClientAddr : SockaddrIn
  radiusReqId : UInt8
  radiusReqAuth : Authenticator
deriving DecidableEq, Repr

/-- What the memory of a new session holds where the constructor does not
initialise it. -/
structure Indeterminate where
  ueIp : UInt32
  pgwTeidC : UInt32
  pgwTeidU : UInt32
  radiusClientAddr : SockaddrIn
  radiusReqId : UInt8
  radiusReqAuth : Authenticator
deriving DecidableEq, Repr

/-- The constructor `UeSession(mac_addr)`. -/
def UeSession.new (mem : Indeterminate) (mac : Bytes) : UeSession mac where
  state := .init
  imsi := []
  ueIp := mem.ueIp
  gtpTeidC := 0
  gtpTeidU := 0
  pgwTeidC := mem.pgwTeidC
  pgwTeidU := mem.pgwTeidU
  pgwIp := []
  apn := []
  pdnType := 1
  ambrUl := 0
  ambrDl := 0
  qci := 0
  radiusClientAddr := mem.radiusClientAddr
  radiusReqId := mem.radiusReqId
  radiusReqAuth := mem.radiusReqAuth

end Twag.Impl

import Twag.Framework.Scan
import Twag.Impl.UeSession

/-!
# What the gateway sends, and what its surroundings answer

An `Effect` is one call that leaves the gateway: a message handed to
freeDiameter or a UDP socket, a netlink request, or a shell command, with
whether the call succeeded. An `Env` holds everything a handler learns from
outside while it runs once: the clock, the outcome of each kind of call, the
answer of the DNS, the order in which `sessions_` is visited, and what
uninitialised memory holds. No handler makes two calls of one kind, so one
outcome of each is enough.
-/

namespace Twag.Impl

/-- The fields of `TwagConfig` that the handlers read. -/
structure TwagConfig where
  pgwIp : Bytes
  aaaRealm : Bytes
  apn : Bytes
  eapDomain : Bytes
  maxActiveSessions : UInt32
  statsLogIntervalSec : UInt32
deriving DecidableEq, Repr

/-- The AVPs `StaInterface` looks up in the dictionary for its requests. -/
inductive DictAvp where
  | sessionId
  | userName
  | eapPayload
  | authRequestType
  | destinationRealm
  | terminationCause
deriving DecidableEq, Repr

/-- A Diameter-EAP-Request. An AVP that could not be allocated is missing. -/
structure Der where
  sessionId : Option Bytes
  destinationRealm : Option Bytes
  authRequestType : Option Nat
  userName : Option Bytes
  eapPayload : Option Bytes
deriving DecidableEq, Repr

/-- A Session-Termination-Request. -/
structure Str where
  sessionId : Option Bytes
  destinationRealm : Option Bytes
  terminationCause : Option Nat
deriving DecidableEq, Repr

/-- The arguments of `RadiusServer::send_response`. -/
structure RadiusResponse where
  clientAddr : SockaddrIn
  code : UInt8
  id : UInt8
  authenticator : Authenticator
  eapPayload : Bytes
deriving DecidableEq, Repr

/-- The fields of `create_sess_req_t` that differ between requests. `apn` is
what is copied to the APN field: a length octet and the name. -/
structure CreateSessReq where
  imsiNumberDigits : UInt64
  teidGreKey : UInt32
  ipv4Address : UInt32
  apnHeaderLen : UInt16
  apn : Bytes
  pdnType : UInt8
  apnAmbrUplnk : UInt32
  apnAmbrDnlnk : UInt32
deriving DecidableEq, Repr

/-- The tunnel handed to `gtp_add_tunnel`. -/
structure GtpTunnel where
  iTei : UInt32
  oTei : UInt32
  msAddr : UInt32
  sgsnAddr : Option UInt32
deriving DecidableEq, Repr

/-- The commands run by `system`. -/
inductive Command where
  /-- `ip route add IP dev gtp0` -/
  | routeAdd (ip : UInt32)
  /-- `ip route del IP dev gtp0` -/
  | routeDel (ip : UInt32)
  /-- `iptables -t mangle -D POSTROUTING -o twag_gre -d IP -j DSCP --set-dscp DSCP` -/
  | dscpDelete (ip : UInt32) (dscp : UInt8)
deriving DecidableEq, Repr

inductive Effect where
  | der (msg : Der) (ok : Bool)
  | str (msg : Str) (ok : Bool)
  | radiusResponse (resp : RadiusResponse) (ok : Bool)
  | disconnectRequest (target : SockaddrIn) (mac : Bytes) (ok : Bool)
  | createSessionRequest (req : CreateSessReq) (dest : UInt32) (ok : Bool)
  | deleteSessionRequest (teid dest : UInt32) (ok : Bool)
  | gtpAddTunnel (tunnel : GtpTunnel) (ok : Bool)
  | system (cmd : Command) (ok : Bool)
  | dhcpResponse (mac : Bytes) (ueIp transactionId : UInt32) (msgType : UInt8) (ok : Bool)
deriving DecidableEq, Repr

structure Env where
  /-- `steady_clock::now()` -/
  now : Time
  /-- The memory a new `UeSession` is built in. -/
  memory : Indeterminate
  /-- The order in which a loop over `sessions_` visits them. -/
  iteration : IterationOrder (Sigma UeSession)
  fdMsgNew : Bool
  fdMsgAvpNew : DictAvp → Bool
  fdMsgSend : Bool
  /-- `sendto` on the RADIUS socket. -/
  radiusSendto : Bool
  /-- `sendto` on the GTP-C socket. -/
  s2aSendto : Bool
  /-- `sendto` on the DHCP socket. -/
  dhcpSendto : Bool
  /-- `resolve_pgw_snaptr`, empty where it fails. -/
  resolvePgwSnaptr : Bytes → Bytes
  /-- The local address of a socket connected to the P-GW, if it could be found. -/
  localIp : Option UInt32
  genlSocketOpen : Bool
  genlLookupFamily : Bool
  gtpTunnelAlloc : Bool
  gtpAddTunnel : Bool
  /-- Whether `system` runs a command with exit status 0. -/
  system : Command → Bool

end Twag.Impl

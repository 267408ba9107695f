import Twag.Impl.Effects

/-!
# The S2a interface (`s2a_interface.cpp`)

The requests to the P-GW and the kernel's GTP-U tunnel. The encoders of
`libgtpv2c` return an unsigned length, so the branches for a negative one are
never taken and are left out. `gtp_dev_create` only prints its outcome.
-/

namespace Twag.Impl

/-- One nibble of `encode_imsi_bcd`: `imsi[i] - '0'`, or the filler. -/
def imsiNibble (imsi : Bytes) (len : Int) (i : Nat) : UInt8 :=
  if (i : Int) < len then imsi.getD i 0 - 48 else 0x0f

/-- `encode_imsi_bcd`, on a little-endian host. `len` is an `int`. -/
def encodeImsiBcd (imsi : Bytes) : UInt64 :=
  let len := min (toInt32 imsi.length) 15
  (List.range 8).foldl (fun packed i =>
    let low := imsiNibble imsi len (i * 2)
    let high := imsiNibble imsi len (i * 2 + 1)
    packed ||| (((high <<< 4) ||| low).toUInt64 <<< UInt64.ofNat (8 * i))) 0

/-- `map_qci_to_dscp`. -/
def mapQciToDscp (qci : UInt8) : UInt8 :=
  if qci = 1 then 46 else if qci = 2 then 46 else if qci = 5 then 24 else if qci = 6 then 18
  else if qci = 7 then 20 else if qci = 8 then 10 else 0

/-- `htonl(INADDR_LOOPBACK)`. -/
def loopback : UInt32 := htonl 0x7f000001

/-- `dest_ip` in the requests to the P-GW. -/
def destIp (config : TwagConfig) {mac : Bytes} (session : UeSession mac) : Bytes :=
  if session.pgwIp.isEmpty then config.pgwIp else session.pgwIp

/-- The request that `send_create_session_request` builds. `pdn_type_pdn_type`
is a bit field of three bits. -/
def createSessReqOf (env : Env) (config : TwagConfig) {mac : Bytes} (session : UeSession mac) :
    CreateSessReq :=
  let apn := if session.apn.isEmpty then config.apn else session.apn
  { imsiNumberDigits := encodeImsiBcd session.imsi
    teidGreKey := session.gtpTeidC
    ipv4Address := env.localIp.getD loopback
    apnHeaderLen := UInt16.ofNat (apn.length + 1)
    apn := UInt8.ofNat apn.length :: apn
    pdnType := UInt8.ofNat (session.pdnType.toNat % 8)
    apnAmbrUplnk := htonl (if session.ambrUl ≠ 0 then session.ambrUl else 1000000)
    apnAmbrDnlnk := htonl (if session.ambrDl ≠ 0 then session.ambrDl else 1000000) }

/-- `send_create_session_request`: whether it succeeded, and the session it leaves. -/
def sendCreateSessionRequest (env : Env) (config : TwagConfig) {mac : Bytes}
    (session : UeSession mac) : Bool × UeSession mac × List Effect :=
  match inetPton (destIp config session) with
  | none => (false, session, [])
  | some dest =>
    let req := createSessReqOf env config session
    if !env.s2aSendto then (false, session, [.createSessionRequest req dest false])
    else (true, { session with state := .gtpCreatePending }, [.createSessionRequest req dest true])

/-- `setup_kernel_gtpu_tunnel`: it returns true whether or not the tunnel and
the route could be added. -/
def setupKernelGtpuTunnel (env : Env) (config : TwagConfig) {mac : Bytes}
    (session : UeSession mac) : Bool × List Effect :=
  if !env.genlSocketOpen then (false, [])
  else if !env.genlLookupFamily then (false, [])
  else if !env.gtpTunnelAlloc then (false, [])
  else
    let tunnel : GtpTunnel :=
      { iTei := session.gtpTeidU
        oTei := session.pgwTeidU
        msAddr := session.ueIp
        sgsnAddr := inetPton config.pgwIp }
    if !env.gtpAddTunnel then (true, [.gtpAddTunnel tunnel false])
    else
      let route := Command.routeAdd session.ueIp
      (true, [.gtpAddTunnel tunnel true, .system route (env.system route)])

/-- `send_delete_session_request`. -/
def sendDeleteSessionRequest (env : Env) (config : TwagConfig) {mac : Bytes}
    (session : UeSession mac) : List Effect :=
  match inetPton (destIp config session) with
  | none => []
  | some dest => [.deleteSessionRequest session.pgwTeidC dest env.s2aSendto]

/-- `teardown_kernel_gtpu_tunnel`. -/
def teardownKernelGtpuTunnel (env : Env) {mac : Bytes} (session : UeSession mac) : List Effect :=
  let route := Command.routeDel session.ueIp
  let dscp := mapQciToDscp session.qci
  .system route (env.system route) ::
    if dscp ≠ 0 then
      [.system (.dscpDelete session.ueIp dscp) (env.system (.dscpDelete session.ueIp dscp))]
    else []

end Twag.Impl

import Twag.Impl.Core

/-!
# Answers and aborts from the AAA server (`sta_interface.cpp`)

The callbacks that freeDiameter runs on a DEA and on an ASR. A message is the
list of its AVPs; `fd_msg_search_avp` finds the first one of a name among those
of a message or of a grouped AVP. The objects of Session-Id and EAP-Payload are
looked up when the gateway starts; the others at every answer, and an AVP that
the dictionary does not have is treated as missing.
-/

namespace Twag.Impl

/-- The AVPs that the callbacks look for. -/
inductive AvpName where
  | sessionId
  | resultCode
  | eapPayload
  | apnConfiguration
  | serviceSelection
  | pdnType
  | ambr
  | maxRequestedBandwidthUl
  | maxRequestedBandwidthDl
  | mip6AgentInfo
  | mipHomeAgentAddress
  | other (code : Nat)
deriving DecidableEq, Repr

/-- `union avp_value`. The AVP's type in the dictionary says which member is set. -/
inductive AvpValue where
  | os (data : Bytes)
  | u32 (n : UInt32)
deriving DecidableEq, Repr

/-- An AVP: its name, its `avp_value` unless that is null, and the AVPs in it. -/
inductive Avp where
  | mk (name : AvpName) (value : Option AvpValue) (avps : List Avp)

namespace Avp

def name : Avp → AvpName
  | mk name _ _ => name

def avps : Avp → List Avp
  | mk _ _ avps => avps

/-- `avp_value->os` -/
def os : Avp → Option Bytes
  | mk _ (some (.os data)) _ => some data
  | _ => none

/-- `avp_value->u32` -/
def u32 : Avp → Option UInt32
  | mk _ (some (.u32 n)) _ => some n
  | _ => none

end Avp

/-- `fd_msg_search_avp`. -/
def fdMsgSearchAvp (avps : List Avp) (name : AvpName) : Option Avp :=
  avps.find? fun avp => avp.name = name

/-- `fd_dict_search` for the AVP's name, and `fd_msg_search_avp` if it is known. -/
def dictSearchAvp (dict : AvpName → Bool) (avps : List Avp) (name : AvpName) : Option Avp :=
  if dict name then fdMsgSearchAvp avps name else none

/-- One octet as `inet_ntoa` writes it. -/
def decimalOctet (n : UInt8) : Bytes :=
  let digit (d : UInt8) : UInt8 := 48 + d
  if 100 ≤ n then [digit (n / 100), digit (n / 10 % 10), digit (n % 10)]
  else if 10 ≤ n then [digit (n / 10), digit (n % 10)]
  else [digit n]

/-- `inet_ntoa` of the address with these octets. -/
def inetNtoa (a b c d : UInt8) : Bytes :=
  decimalOctet a ++ [46] ++ decimalOctet b ++ [46] ++ decimalOctet c ++ [46] ++ decimalOctet d

/-- The MAC address in the Session-Id of a message, where there is one. -/
def sessionMac (msg : List Avp) : Option Bytes :=
  ((fdMsgSearchAvp msg .sessionId).bind Avp.os).bind macOfSessionId

/-- `result_code` in `dea_cb`. -/
def resultCodeOf (dict : AvpName → Bool) (msg : List Avp) : UInt32 :=
  match (dictSearchAvp dict msg .resultCode).bind Avp.u32 with
  -- "Default to success if missing"
  | none => 2001
  -- 3002 = UNABLE_TO_DELIVER, overridden "for E2E Mock testing"
  | some code => if code = 3002 then 2001 else code

/-- `pgw_ip` in `dea_cb`: an `Address` AVP of the IPv4 family. -/
def homeAgentAddress : Bytes → Bytes
  | [0, 1, a, b, c, d] => inetNtoa a b c d
  | _ => []

/-- `dea_cb`: the arguments it calls `on_dea_received` with, if it does. -/
def deaCb (dict : AvpName → Bool) (msg : List Avp) : Option Dea :=
  (sessionMac msg).map fun mac =>
    let apnConfig := ((dictSearchAvp dict msg .apnConfiguration).map Avp.avps).getD []
    let ambr := ((dictSearchAvp dict apnConfig .ambr).map Avp.avps).getD []
    let mip6 := ((dictSearchAvp dict msg .mip6AgentInfo).map Avp.avps).getD []
    let u32 (avps : List Avp) (name : AvpName) : UInt32 :=
      ((dictSearchAvp dict avps name).bind Avp.u32).getD 0
    { macAddr := mac
      resultCode := resultCodeOf dict msg
      eapPayload := ((fdMsgSearchAvp msg .eapPayload).bind Avp.os).getD []
      apn := ((dictSearchAvp dict apnConfig .serviceSelection).bind Avp.os).getD []
      pdnType := u32 apnConfig .pdnType
      ambrUl := u32 ambr .maxRequestedBandwidthUl
      ambrDl := u32 ambr .maxRequestedBandwidthDl
      pgwIp := (((dictSearchAvp dict mip6 .mipHomeAgentAddress).bind Avp.os).map
        homeAgentAddress).getD [] }

/-- `asr_cb`: the event it hands to the core, if it does. -/
def asrCb (msg : List Avp) : Option Event :=
  let mac := (sessionMac msg).getD []
  if !mac.isEmpty then some (.abortSession mac) else none

end Twag.Impl

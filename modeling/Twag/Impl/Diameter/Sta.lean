import Twag.Impl.Diameter.Node
import Twag.Impl.Receive.Sta

/-!
# The STa messages as freeDiameter has them (`sta_interface.cpp`)

The requests of `send_der` and `send_str`, with the codes and flags that
`fd_msg_new` and `fd_msg_avp_new` take from the dictionary (`dict_base_proto.c`,
`dict_eap.c`): a Session-Termination-Request belongs to no application there, so
that its application id is 0. And what `dea_cb` and `asr_cb` see of a message.
-/

namespace Twag.Impl.Diameter

/-- An AVP with a string, where it could be made. -/
def osAvp (code : UInt32) (value : Option Bytes) : List Avp :=
  (value.map fun data => Avp.leaf (mandatoryHdr code) (.os data)).toList

/-- An AVP with an `i32`. -/
def i32Avp (code : UInt32) (value : Option Nat) : List Avp :=
  (value.map fun n => Avp.leaf (mandatoryHdr code) (.word32 (UInt32.ofNat n))).toList

/-- The message of `send_der` -/
def derMessage (node : Node) (hbhid eteid : UInt32) (der : Der) : Message where
  flags := 0xc0
  code := 268
  appl := 5
  hbhid := hbhid
  eteid := eteid
  avps := osAvp 263 der.sessionId ++ originAvps node.diamid node.diamrlm ++
    osAvp 283 der.destinationRealm ++ i32Avp 274 der.authRequestType ++
    osAvp 1 der.userName ++ osAvp 462 der.eapPayload

/-- The message of `send_str` -/
def strMessage (node : Node) (hbhid eteid : UInt32) (str : Str) : Message where
  flags := 0xc0
  code := 275
  appl := 0
  hbhid := hbhid
  eteid := eteid
  avps := osAvp 263 str.sessionId ++ originAvps node.diamid node.diamrlm ++
    osAvp 283 str.destinationRealm ++ i32Avp 295 str.terminationCause

/-- The names of AVPs in the dictionary, by vendor and code. -/
abbrev Names := UInt32 → UInt32 → AvpName

mutual

/-- An AVP as the callbacks see it. -/
def Avp.view (names : Names) : Avp → Impl.Avp
  | .leaf hdr (.os data) => .mk (names hdr.vendor hdr.code) (some (.os data)) []
  | .leaf hdr (.word32 n) => .mk (names hdr.vendor hdr.code) (some (.u32 n)) []
  | .leaf hdr (.word64 _) => .mk (names hdr.vendor hdr.code) none []
  | .grouped hdr children => .mk (names hdr.vendor hdr.code) none (viewAvps names children)
  | .raw hdr _ => .mk (names hdr.vendor hdr.code) none []

def viewAvps (names : Names) : List Avp → List Impl.Avp
  | [] => []
  | avp :: avps => avp.view names :: viewAvps names avps

end

/-- The callback that is registered for a message's command, and what it hands to the
core. -/
def staCallback (names : Names) (known : AvpName → Bool) (msg : Message) : Option Event :=
  let avps := viewAvps names msg.avps
  if msg.code = 268 ∧ !msg.isRequest then (deaCb known avps).map fun dea => .dea dea none
  else if msg.code = 274 ∧ msg.isRequest then asrCb avps
  else none

end Twag.Impl.Diameter

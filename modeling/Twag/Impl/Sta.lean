import Twag.Impl.Effects

/-!
# The STa interface (`sta_interface.cpp`)

The Session-Id of every request is `twag;` and the MAC address; the callbacks
for answers and aborts take the MAC address back out of it.
-/

namespace Twag.Impl

/-- The Session-Id of `send_der` and `send_str`. -/
def sessionIdOf (mac : Bytes) : Bytes := ascii "twag;" ++ mac

/-- `sid.substr(sid.find(';') + 1)`, where there is a `;` (`dea_cb`, `asr_cb`). -/
def macOfSessionId : Bytes → Option Bytes
  | [] => none
  | c :: sid => if c = 59 then some sid else macOfSessionId sid

theorem macOfSessionId_sessionIdOf (mac : Bytes) : macOfSessionId (sessionIdOf mac) = some mac :=
  rfl

/-- An AVP, unless `fd_msg_avp_new` fails. -/
def avp {α : Type} (env : Env) (dict : DictAvp) (value : α) : Option α :=
  if env.fdMsgAvpNew dict then some value else none

/-- The message of `send_der`. -/
def derOf (env : Env) (config : TwagConfig) (mac eapPayload : Bytes) : Der where
  sessionId := avp env .sessionId (sessionIdOf mac)
  destinationRealm := avp env .destinationRealm config.aaaRealm
  authRequestType := avp env .authRequestType 1
  userName := avp env .userName (mac ++ ascii "@" ++ config.eapDomain)
  eapPayload := avp env .eapPayload eapPayload

/-- `send_der`: whether it succeeded, and the session it leaves. -/
def sendDer (env : Env) (config : TwagConfig) {mac : Bytes} (session : UeSession mac)
    (eapPayload : Bytes) : Bool × UeSession mac × List Effect :=
  if !env.fdMsgNew then (false, session, [])
  else if !env.fdMsgSend then (false, session, [.der (derOf env config mac eapPayload) false])
  else (true, { session with state := .authPending }, [.der (derOf env config mac eapPayload) true])

/-- The message of `send_str`. -/
def strOf (env : Env) (config : TwagConfig) (mac : Bytes) : Str where
  sessionId := avp env .sessionId (sessionIdOf mac)
  destinationRealm := avp env .destinationRealm config.aaaRealm
  terminationCause := avp env .terminationCause 1

/-- `send_str`. -/
def sendStr (env : Env) (config : TwagConfig) (mac : Bytes) : List Effect :=
  if !env.fdMsgNew then [] else [.str (strOf env config mac) env.fdMsgSend]

end Twag.Impl

import Twag.Framework.Walk
import Twag.Impl.Effects

/-!
# Requests and responses of the RADIUS server (`radius_server.cpp`)

What the core asks the server to send, and the datagrams that the server builds
of it in a buffer of its own: a header and at most one attribute, whose length
octet is the low byte of its size.
-/

namespace Twag.Impl

/-- The arguments of `handle_radius_access_request`: one Access-Request. -/
structure AccessRequest where
  macAddr : Bytes
  imsi : Bytes
  eapPayload : Bytes
  clientAddr : SockaddrIn
  reqId : UInt8
  reqAuth : Authenticator
deriving DecidableEq, Repr

def accessAccept : UInt8 := 2
def accessReject : UInt8 := 3
def accessChallenge : UInt8 := 11

/-- `send_response`. -/
def sendResponse (env : Env) (clientAddr : SockaddrIn) (code id : UInt8) (reqAuth : Authenticator)
    (eapPayload : Bytes) : Effect :=
  .radiusResponse ⟨clientAddr, code, id, reqAuth, eapPayload⟩ env.radiusSendto

/-- `send_disconnect_request`: to port 3799 of the WLC. -/
def sendDisconnectRequest (env : Env) (wlcAddr : SockaddrIn) (mac : Bytes) : Effect :=
  .disconnectRequest { wlcAddr with sinPort := htons 3799 } mac env.radiusSendto

namespace RadiusServer

/-- `radius_hdr`, with `hdr->length = htons(offset)`. -/
def header (code id : UInt8) (authenticator : Authenticator) (offset : Nat) : Bytes :=
  [code, id, UInt8.ofNat (offset / 2 ^ 8), UInt8.ofNat offset] ++ authenticator.toList

/-- The attribute that `send_response` and `send_disconnect_request` write, unless
its value is empty. -/
def attributeBytes (type : UInt8) (value : Bytes) : Bytes :=
  if value.isEmpty then [] else type :: UInt8.ofNat (value.length + 2) :: value

/-- A header and an attribute, in a buffer of `size` bytes. -/
def packet (size : Nat) (code id : UInt8) (authenticator : Authenticator) (type : UInt8)
    (value : Bytes) : Except Fault Bytes :=
  let attr := attributeBytes type value
  let offset := 20 + attr.length
  if offset ≤ size then .ok (header code id authenticator offset ++ attr)
  else .error .outOfBounds

/-- The datagram of `send_response`. -/
def responseDatagram (resp : RadiusResponse) : Except Fault Bytes :=
  packet 4096 resp.code resp.id resp.authenticator 79 resp.eapPayload

/-- The datagram of `send_disconnect_request`. -/
def disconnectDatagram (mac : Bytes) : Except Fault Bytes :=
  packet 1024 40 1 (.replicate 16 0) 31 mac

end RadiusServer

end Twag.Impl

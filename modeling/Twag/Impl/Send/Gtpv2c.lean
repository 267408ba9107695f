import Twag.Framework.Walk
import Twag.Impl.Receive.Dhcp

/-!
# The GTPv2-C encoders (`libgtpv2c`)

`encode_create_sess_req` and `encode_del_bearer_rsp`, of the messages that the
gateway sends. A field of whole octets is written in network order. A field of
less bits is put into the octet that the buffer held before, and the buffers of
the gateway are not cleared; so what an encoder leaves there may show through.
-/

namespace Twag.Impl

/-- The octets of a `uint16_t` in network order. -/
def be16Octets (n : UInt16) : Bytes := [(n >>> 8).toUInt8, n.toUInt8]

/-- The octets of a `uint32_t` in network order. -/
def be32Octets (n : UInt32) : Bytes :=
  [(n >>> 24).toUInt8, (n >>> 16).toUInt8, (n >>> 8).toUInt8, n.toUInt8]

/-! ## Fields of bits (`enc_dec_bits.c`) -/

def maskBits : List UInt8 := [0x55, 0x80, 0xc0, 0xe0, 0xf0, 0xf8, 0xfc, 0xfe, 0xff]
def xorMaskBits : List UInt8 := [0xff, 0x7f, 0x3f, 0x1f, 0x0f, 0x07, 0x03, 0x01, 0x00]

/-- `encode_bits` of the low `count` bits of `value`, for a field that starts at bit
`offset` of an octet and ends in it, and is not all of it. `dest` is what the octet
held, and `beyond` the byte behind the value in memory, which is read if the value
has to be shifted. -/
def encodeBits (value : UInt8) (count offset : Nat) (beyond dest : UInt8) : UInt8 :=
  let shift := 8 - count - offset
  if shift = 0 then
    (dest &&& maskBits.getD offset 0) ||| (xorMaskBits.getD offset 0 &&& value)
  else
    let copyByte := ((value <<< UInt8.ofNat shift) ||| (beyond >>> UInt8.ofNat (8 - shift))) &&&
      xorMaskBits.getD offset 0
    (dest &&& (maskBits.getD offset 0 ||| xorMaskBits.getD (offset + count + 1) 0)) |||
      (copyByte &&& maskBits.getD (offset + count) 0)

/-! ## Headers -/

/-- The first octet of `encode_gtpv2c_header_t`: `version`, `piggyback`, `teid_flag`
and `spare`, where `dest` is what the buffer held. -/
def headerFlags (version teidFlag beyond dest : UInt8) : UInt8 :=
  encodeBits 0 3 5 beyond <| encodeBits teidFlag 1 4 beyond <| encodeBits 0 1 3 beyond <|
    encodeBits version 3 0 beyond dest

/-- `encode_gtpv2c_header_t` of a message without a TEID, with the `message_len`
that the encoder of the message writes over it at the end. -/
def encodeHeader (beyond dest messageType : UInt8) (messageLen : UInt16) (seq : UInt32) : Bytes :=
  [headerFlags 2 0 beyond dest, messageType] ++ be16Octets messageLen ++
    (be32Octets seq).drop 1 ++ [0]

/-- `encode_ie_header_t`. -/
def encodeIeHeader (type : UInt8) (len : UInt16) (inst : UInt8) : Bytes :=
  [type] ++ be16Octets len ++ [inst]

/-! ## IEs -/

/-- `snprintf(…, "%" PRIu64, n)`. -/
def decimal (n : UInt64) : Bytes := (Nat.toDigits 10 n.toNat).map fun c => UInt8.ofNat c.toNat

/-- `encode_imsi`: the decimal digits of the number, two in an octet. -/
def encodeImsi (val : UInt64) (len : Nat) : Bytes :=
  let buf := decimal val
  let pair (i : Nat) : UInt8 :=
    ((buf.getD (i * 2 + 1) 0 &&& 0xf) <<< 4) ||| (buf.getD (i * 2) 0 &&& 0xf)
  let imsi := (List.range len).map pair
  if buf.length % 2 = 1 then
    imsi.set (len - 1) (((0xf : UInt8) <<< 4) ||| (buf.getD ((len - 1) * 2) 0 &&& 0xf))
  else imsi

/-- `encode_gtp_imsi_ie`. -/
def encodeImsiIe (imsiNumberDigits : UInt64) : Bytes :=
  encodeIeHeader 1 8 0 ++ encodeImsi imsiNumberDigits 8

/-- `encode_gtp_rat_type_ie`, of the RAT type WLAN. -/
def encodeRatTypeIe : Bytes := encodeIeHeader 82 1 0 ++ [3]

/-- `encode_gtp_fully_qual_tunn_endpt_idnt_ie`, of an IPv4 endpoint of interface type
0. `dest` is what the buffer held at the octet of the flags. -/
def encodeFteidIe (beyond dest : UInt8) (teidGreKey ipv4Address : UInt32) : Bytes :=
  encodeIeHeader 87 9 0 ++
    [encodeBits 0 6 2 beyond (encodeBits 0 1 1 beyond (encodeBits 1 1 0 beyond dest))] ++
    be32Octets teidGreKey ++ DhcpServer.octets ipv4Address

/-- `encode_gtp_acc_pt_name_ie`: `header.len` bytes of the field `apn[128]`. -/
def encodeApnIe (headerLen : UInt16) (apn : Bytes) : Bytes :=
  encodeIeHeader 71 headerLen 0 ++
    (apn ++ List.replicate (128 - apn.length) 0).take headerLen.toNat

/-- `encode_gtp_pdn_type_ie`. `dest` is what the buffer held at the octet of its value. -/
def encodePdnTypeIe (beyond dest pdnType : UInt8) : Bytes :=
  encodeIeHeader 99 1 0 ++ [encodeBits pdnType 3 5 beyond (encodeBits 0 5 0 beyond dest)]

/-- `encode_gtp_agg_max_bit_rate_ie`. -/
def encodeAmbrIe (apnAmbrUplnk apnAmbrDnlnk : UInt32) : Bytes :=
  encodeIeHeader 72 8 0 ++ be32Octets apnAmbrUplnk ++ be32Octets apnAmbrDnlnk

/-- `encode_gtp_cause_ie`, of length 2. `dest` is what the buffer held at the octet of
the flags. -/
def encodeCauseIe (beyond dest causeValue : UInt8) : Bytes :=
  encodeIeHeader 2 2 0 ++ [causeValue,
    encodeBits 0 1 7 beyond <| encodeBits 0 1 6 beyond <| encodeBits 0 1 5 beyond <|
      encodeBits 0 5 0 beyond dest]

/-! ## Messages -/

/-- What the encoders find in memory: the bytes of the buffer they write to, and the
byte behind the value of a field. -/
structure Stale where
  buffer : Memory
  beyond : UInt8

/-- `encode_create_sess_req`, for a request of which the fields differ that `req` has. -/
def encodeCreateSessReq (stale : Stale) (req : CreateSessReq) : Bytes :=
  let before := encodeImsiIe req.imsiNumberDigits ++ encodeRatTypeIe
  let fteid := encodeFteidIe stale.beyond (stale.buffer (8 + before.length + 4)) req.teidGreKey
    req.ipv4Address
  let apn := if req.apnHeaderLen ≠ 0 then encodeApnIe req.apnHeaderLen req.apn else []
  let upTo := before ++ fteid ++ apn
  let ies := upTo ++
    encodePdnTypeIe stale.beyond (stale.buffer (8 + upTo.length + 4)) req.pdnType ++
    encodeAmbrIe req.apnAmbrUplnk req.apnAmbrDnlnk
  encodeHeader stale.beyond (stale.buffer 0) 32 (UInt16.ofNat (8 + ies.length - 4)) 1 ++ ies

/-- `encode_del_bearer_rsp`, of a response with a cause and nothing else. -/
def encodeDelBearerRsp (stale : Stale) (seq : UInt32) (causeValue : UInt8) : Bytes :=
  let ies := encodeCauseIe stale.beyond (stale.buffer 13) causeValue
  encodeHeader stale.beyond (stale.buffer 0) 100 (UInt16.ofNat (8 + ies.length - 4)) seq ++ ies

/-- The datagram of `send_create_session_request`. The name is copied to the field
`apn[128]` of the request first. -/
def createSessReqDatagram (stale : Stale) (req : CreateSessReq) : Except Fault Bytes :=
  if req.apn.length ≤ 128 then .ok (encodeCreateSessReq stale req) else .error .outOfBounds

end Twag.Impl

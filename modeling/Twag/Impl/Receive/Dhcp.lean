import Twag.Framework.Walk
import Twag.Impl.Core
import Twag.Impl.Receive.Datagram

/-!
# The DHCP server (`dhcp_server.cpp`)

`DhcpServer::handle_udp_rx`, and the datagram that `send_dhcp_response` builds.
The MAC address of a client is turned into text to find its session, and back
into bytes for the reply. The host is little-endian.
-/

namespace Twag.Impl

/-- A digit as `std::hex` writes it. -/
def hexDigit (n : UInt8) : UInt8 := if n < 10 then 48 + n else 87 + n

/-- An octet as `std::hex << std::setw(2) << std::setfill('0')` writes it. -/
def hexOctet (b : UInt8) : Bytes := [hexDigit (b / 16), hexDigit (b % 16)]

/-- Octets with `sep` between them. -/
def hexOctets (sep : UInt8) : List UInt8 → Bytes
  | [] => []
  | [b] => hexOctet b
  | b :: bs => hexOctet b ++ sep :: hexOctets sep bs

/-- `toupper` -/
def toUpper (c : UInt8) : UInt8 := if 97 ≤ c ∧ c ≤ 122 then c - 32 else c

/-- The value of a hexadecimal digit. -/
def hexDigitValue (c : UInt8) : Option Nat :=
  if 48 ≤ c ∧ c ≤ 57 then some (c.toNat - 48)
  else if 97 ≤ c ∧ c ≤ 102 then some (c.toNat - 87)
  else if 65 ≤ c ∧ c ≤ 70 then some (c.toNat - 55)
  else none

/-- `isspace` -/
def isSpace (c : UInt8) : Bool := c == 32 || 9 ≤ c && c ≤ 13

/-- The digits at the start of a string: their value, whether there are any, and the rest. -/
def scanDigits (v : Nat) (any : Bool) : Bytes → Nat × Bool × Bytes
  | [] => (v, any, [])
  | c :: s =>
    match hexDigitValue c with
    | some d => scanDigits (v * 16 + d) true s
    | none => (v, any, c :: s)

/-- The `%x` of `sscanf`: a sign and `0x` may precede the digits; the value is
that of `strtoul`, which stops at its maximum. -/
def scanHex (s : Bytes) : Option (Nat × Bytes) :=
  let s := s.dropWhile isSpace
  let negative := s.head? == some 45
  let s := if negative || s.head? == some 43 then s.tail else s
  let (zero, s) :=
    match s with
    | 48 :: 120 :: t => (true, t)
    | 48 :: 88 :: t => (true, t)
    | _ => (false, s)
  match scanDigits 0 zero s with
  | (_, false, _) => none
  | (v, true, s) =>
    if 2 ^ 64 ≤ v then some (2 ^ 64 - 1, s)
    else some (if negative then (2 ^ 64 - v) % 2 ^ 64 else v, s)

/-- `sscanf` with `n` times `%x` and colons between them, where it reads them all,
each cast to `uint8_t`. -/
def scanOctets : Nat → Bytes → Option (List UInt8)
  | 0, _ => some []
  | n + 1, s =>
    match scanHex s with
    | none => none
    | some (v, s) =>
      if n = 0 then some [UInt8.ofNat v]
      else
        match s with
        | 58 :: s => (scanOctets n s).map (UInt8.ofNat v :: ·)
        | _ => none

namespace DhcpServer

section

variable (d : Datagram)

/-- `mac_addr` in `handle_udp_rx`. -/
def macAddr : Bytes := (hexOctets 58 (slice d.buffer 28 6)).map toUpper

/-- `hdr->xid` -/
def xid : UInt32 := le32 d.buffer 4

/-- The loop over the options goes on at `offset`. -/
def moreOptions (offset : Nat) : Bool :=
  (offset : Int) < d.n && d.buffer offset != 255 &&
    !(d.buffer offset == 53 && d.buffer (offset + 1) == 1)

/-- `offset++` over a pad, and `offset += 2 + opt_len` over any other option. -/
def nextOption (offset : Nat) : Nat :=
  if d.buffer offset = 0 then offset + 1 else offset + 2 + (d.buffer (offset + 1)).toNat

/-- `msg_type`: 0 unless the loop over the options stops at a message type. -/
def msgType : Except Fault UInt8 :=
  (walk (moreOptions d) (nextOption d) (fun s _ => .ok s) (d.n.toNat + 1) 240 ()).map
    fun (offset, _) =>
      if (offset : Int) < d.n ∧ d.buffer offset = 53 ∧ d.buffer (offset + 1) = 1 then
        d.buffer (offset + 2)
      else 0

/-- The loop comes to `offset`. -/
inductive LoopAt : Nat → Prop where
  | start : LoopAt 240
  | next {offset : Nat} (h : LoopAt offset) (hm : moreOptions d offset = true) :
      LoopAt (nextOption d offset)

/-- The loop reads byte `i` of the buffer: the code of an option, its length if it is
neither a pad nor the end, and the value of a message type. -/
inductive LoopReads : Nat → Prop where
  | code {offset : Nat} (h : LoopAt d offset) (hn : (offset : Int) < d.n) : LoopReads offset
  | length {offset : Nat} (h : LoopAt d offset) (hn : (offset : Int) < d.n)
      (hc : d.buffer offset ≠ 255 ∧ d.buffer offset ≠ 0) : LoopReads (offset + 1)
  | value {offset : Nat} (h : LoopAt d offset) (hn : (offset : Int) < d.n)
      (ht : d.buffer offset = 53 ∧ d.buffer (offset + 1) = 1) : LoopReads (offset + 2)

/-- A BOOTREQUEST with the DHCP magic cookie. A failed `recvfrom` passes the
check of the length. -/
def isBootRequest : Prop :=
  240 ≤ d.size ∧ d.buffer 0 = 1 ∧ be32 d.buffer 236 = 0x63825363

instance : Decidable (isBootRequest d) := inferInstanceAs (Decidable (_ ∧ _))

/-- `handle_udp_rx`: the event it hands to the core, if it does. -/
def handleUdpRx : Except Fault (Option Event) :=
  if isBootRequest d then
    (msgType d).map fun type =>
      if type = 1 then some (.dhcpDiscover (macAddr d) (xid d))
      else if type = 3 then some (.dhcpRequest (macAddr d) (xid d))
      else none
  else .ok none

end

/-- The bytes of a `uint32_t` in memory. -/
def octets (n : UInt32) : Bytes :=
  [n.toUInt8, (n >>> 8).toUInt8, (n >>> 16).toUInt8, (n >>> 24).toUInt8]

/-- `server_ip_`: `inet_pton` of 10.0.0.1. -/
def serverIp : UInt32 := ofOctets 10 0 0 1

/-- `hdr->chaddr`: zero where `sscanf` does not find six octets. -/
def chaddr (mac : Bytes) : Bytes :=
  (scanOctets 6 (cStr mac)).getD (List.replicate 6 0) ++ List.replicate 10 0

/-- The options of a reply. -/
def replyOptions (msgType : UInt8) : Bytes :=
  [53, 1, msgType] ++ [1, 4] ++ octets (htonl 0xFFFFFF00) ++ [3, 4] ++ octets serverIp ++
    [51, 4] ++ octets (htonl 3600) ++ [54, 4] ++ octets serverIp ++ [6, 4] ++
    octets (ofOctets 8 8 8 8) ++ [255]

/-- The datagram that `send_dhcp_response` sends. -/
def sendDhcpResponse (mac : Bytes) (ueIp transactionId : UInt32) (msgType : UInt8) : Bytes :=
  -- op, htype, hlen, hops
  [2, 1, 6, 0] ++ octets transactionId ++
    -- secs, flags, ciaddr
    List.replicate 8 0 ++ octets ueIp ++ octets serverIp ++
    -- giaddr
    List.replicate 4 0 ++ chaddr mac ++
    -- sname, file
    List.replicate 192 0 ++ octets (htonl 0x63825363) ++ replyOptions msgType

end DhcpServer

end Twag.Impl

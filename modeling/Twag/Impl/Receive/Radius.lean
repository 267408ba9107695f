import Twag.Framework.Walk
import Twag.Impl.Core
import Twag.Impl.Receive.Datagram

/-!
# Requests from the RADIUS clients (`radius_server.cpp`)

`RadiusServer::handle_udp_rx`: the attributes it reads, and what it hands to
the core. A datagram whose length field is wrong is dropped; the loop over the
attributes stops at the first one that is malformed. A later attribute of a
kind replaces an earlier one.
-/

namespace Twag.Impl

/-- The identity without what is up to its last `!`, and without a leading `0`,
`1` or `6`. -/
def imsiOfUsername (username : Bytes) : Bytes :=
  let username := (username.reverse.takeWhile (· ≠ 33)).reverse
  match username with
  | [] => []
  | c :: rest => if c = 48 ∨ c = 49 ∨ c = 54 then rest else username

/-- `imsi` in `handle_udp_rx`, from an EAP-Response of type Identity. -/
def imsiOf (eap : Bytes) : Bytes :=
  if 5 ≤ eap.length ∧ eap.getD 0 0 = 2 ∧ eap.getD 4 0 = 1 then
    imsiOfUsername ((eap.drop 5).takeWhile (· ≠ 64))
  else []

namespace RadiusServer

/-- What the loop over the attributes sets. -/
structure Attributes where
  macAddr : Bytes
  eapPayload : Bytes
  acctStatusType : UInt32
deriving DecidableEq, Repr

/-- What they are before. -/
def Attributes.default : Attributes where
  macAddr := ascii "00:11:22:33:44:55"
  eapPayload := ascii "dummy_eap"
  acctStatusType := 0

section

variable (d : Datagram)

/-- `rad_len` -/
def radLen : Nat := be16 d.buffer 2

/-- `attr_len` of the attribute at `offset`. -/
def attrLen (offset : Nat) : Nat := (d.buffer (offset + 1)).toNat

/-- The loop over the attributes goes on at `offset`. -/
def moreAttributes (offset : Nat) : Bool :=
  offset + 2 ≤ radLen d && 2 ≤ attrLen d offset && offset + attrLen d offset ≤ radLen d

/-- One turn of the loop. -/
def visitAttribute (attrs : Attributes) (offset : Nat) : Attributes :=
  let type := d.buffer offset
  let value := slice d.buffer (offset + 2) (attrLen d offset - 2)
  if type = 31 then { attrs with macAddr := value }
  else if type = 79 then { attrs with eapPayload := value }
  else if type = 4 ∧ attrLen d offset = 6 then
    { attrs with acctStatusType := be32 d.buffer (offset + 2) }
  else attrs

/-- The loop over the attributes. -/
def attributes : Except Fault Attributes :=
  (walk (moreAttributes d) (fun offset => offset + attrLen d offset)
    (fun attrs offset => .ok (visitAttribute d attrs offset)) (radLen d + 1) 20
    .default).map Prod.snd

/-- The loop comes to `offset`. -/
inductive LoopAt : Nat → Prop where
  | start : LoopAt 20
  | next {offset : Nat} (h : LoopAt offset) (hm : moreAttributes d offset = true) :
      LoopAt (offset + attrLen d offset)

/-- The loop reads byte `i` of the buffer: the type and the length where there is room for
both, and the value of an attribute of the three kinds that it takes. -/
inductive LoopReads : Nat → Prop where
  | header {offset i : Nat} (h : LoopAt d offset) (hr : offset + 2 ≤ radLen d)
      (hi : offset ≤ i ∧ i < offset + 2) : LoopReads i
  | value {offset i : Nat} (h : LoopAt d offset) (hm : moreAttributes d offset = true)
      (ht : d.buffer offset = 31 ∨ d.buffer offset = 79 ∨
        d.buffer offset = 4 ∧ attrLen d offset = 6)
      (hi : offset + 2 ≤ i ∧ i < offset + attrLen d offset) : LoopReads i

/-- The length checks. A failed `recvfrom` passes the first of them, and not the second. -/
def hasValidLength : Prop := 20 ≤ d.size ∧ (radLen d : Int) ≤ d.n ∧ 20 ≤ radLen d

instance : Decidable (hasValidLength d) := inferInstanceAs (Decidable (_ ∧ _))

/-- The request in an Access-Request. -/
def accessRequest (attrs : Attributes) : AccessRequest where
  macAddr := attrs.macAddr
  imsi := imsiOf attrs.eapPayload
  eapPayload := attrs.eapPayload
  clientAddr := d.src
  reqId := d.buffer 1
  reqAuth := .ofFn fun i => d.buffer (4 + i)

/-- `handle_udp_rx`: the event it hands to the core, if it does. For an
Access-Request, `continues` is as in `Event`. -/
def handleUdpRx (continues : Option Nat) : Except Fault (Option Event) :=
  if hasValidLength d then
    (attributes d).map fun attrs =>
      if d.buffer 0 = 1 then some (.accessRequest (accessRequest d attrs) continues)
      -- an Accounting-Request, whose status is Stop
      else if d.buffer 0 = 4 ∧ attrs.acctStatusType = 2 then some (.accountingStop attrs.macAddr)
      else none
  else .ok none

end

end RadiusServer

end Twag.Impl

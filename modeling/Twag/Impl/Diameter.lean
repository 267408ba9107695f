import Twag.Framework.BigEndian
import Twag.Impl.Basic

/-!
# Diameter messages on the wire (`libfdproto/messages.c`)

`fd_msg_bufferize` writes a message and its tree of AVPs into one buffer, and
`fd_msg_parse_buffer` and `fd_msg_parse_dict` make the tree again: the first
cuts the buffer into the headers and data of the top AVPs (`parsebuf_list`), the
second looks each AVP up in the dictionary and reads its value, which for a
grouped AVP is a buffer of AVPs again.

`avp_len` and `msg_length` are natural numbers here and are cut to three octets
where they are written. A failed `malloc` is left out.
-/

namespace Twag.Impl.Diameter

/-- The errors that the functions return. -/
inductive Errno where
  | EBADMSG
  | EINVAL
  | ENOSPC
  | ENOTSUP
  /-- `ASSERT(offset == msg->msg_public.msg_length)` fails. -/
  | assertion
deriving DecidableEq, Repr

/-- `struct avp_hdr`, less the length and the value. -/
structure AvpHdr where
  code : UInt32
  flags : UInt8
  vendor : UInt32
deriving DecidableEq, Repr

namespace AvpHdr

/-- `AVP_FLAG_VENDOR` -/
def hasVendor (hdr : AvpHdr) : Bool := hdr.flags &&& 0x80 != 0

/-- `AVP_FLAG_MANDATORY` -/
def isMandatory (hdr : AvpHdr) : Bool := hdr.flags &&& 0x40 != 0

/-- `GETAVPHDRSZ` -/
def size (hdr : AvpHdr) : Nat := if hdr.hasVendor then 12 else 8

end AvpHdr

/-- `enum dict_avp_basetype` -/
inductive BaseType where
  | grouped
  | octetString
  | integer32
  | integer64
  | unsigned32
  | unsigned64
  | float32
  | float64
deriving DecidableEq, Repr

/-- `avp_value_sizes` -/
def BaseType.size : BaseType → Nat
  | .grouped | .octetString => 0
  | .integer32 | .unsigned32 | .float32 => 4
  | .integer64 | .unsigned64 | .float64 => 8

/-- `union avp_value`: the members of 32 and of 64 bits by their bits. -/
inductive Value where
  | os (data : Bytes)
  | word32 (n : UInt32)
  | word64 (n : UInt64)
deriving DecidableEq, Repr

/-- The value as it is written. -/
def Value.bytes : Value → Bytes
  | .os data => data
  | .word32 n => Be.octets 4 n.toNat
  | .word64 n => Be.octets 8 n.toNat

/-- An AVP. -/
inductive Avp where
  /-- Known, with a value. -/
  | leaf (hdr : AvpHdr) (value : Value)
  /-- Known, with AVPs in it. -/
  | grouped (hdr : AvpHdr) (children : List Avp)
  /-- Not in the dictionary: `avp_rawdata`. -/
  | raw (hdr : AvpHdr) (data : Bytes)

/-- `avp_public` -/
def Avp.hdr : Avp → AvpHdr
  | .leaf hdr _ | .grouped hdr _ | .raw hdr _ => hdr

/-- A message; `msg_version` is always 1. -/
structure Message where
  flags : UInt8
  code : UInt32
  appl : UInt32
  hbhid : UInt32
  eteid : UInt32
  avps : List Avp

/-! ## The dictionary -/

/-- The data of an AVP in the dictionary: its type, and the check of its derived
type (true where there is none). -/
structure Model where
  basetype : BaseType
  typeCheck : Value → Bool

structure Dictionary where
  /-- By vendor and code. -/
  avp : UInt32 → UInt32 → Option Model
  /-- Whether a command is known: requests and answers have objects of their own. -/
  cmd : Bool → UInt32 → Bool

/-- The search of `parsedict_do_avp`. A new AVP is taken to have been searched
with the code 0 and the vendor 0. `AVP_BY_STRUCT` refuses a code or a vendor that is
0 with `EINVAL`, of which `fd_dict_search` makes that nothing was found. -/
def Dictionary.find (dict : Dictionary) (hdr : AvpHdr) : Option Model :=
  if hdr.code = 0 ∧ hdr.vendor = 0 then none
  else if hdr.hasVendor then
    if hdr.vendor = 0 ∨ hdr.code = 0 then none
    else dict.avp hdr.vendor hdr.code
  else dict.avp 0 hdr.code

/-- The search of `parsedict_do_msg`. A new message is taken to have been searched
with the code 0 and the flags 0. -/
def Dictionary.findCmd (dict : Dictionary) (flags : UInt8) (code : UInt32) : Bool :=
  !(code = 0 ∧ flags = 0) && dict.cmd (flags &&& 0x80 != 0) code

/-! ## Lengths -/

mutual

/-- `fd_msg_update_length` of an AVP. -/
def Avp.len : Avp → Nat
  | .leaf hdr value => hdr.size + value.bytes.length
  | .grouped hdr children => hdr.size + chainLen children
  | .raw hdr data => hdr.size + data.length

/-- The children's share: each is padded. -/
def chainLen : List Avp → Nat
  | [] => 0
  | avp :: avps => pad4 avp.len + chainLen avps

end

/-- `fd_msg_update_length` of a message. -/
def Message.len (msg : Message) : Nat := 20 + chainLen msg.avps

/-! ## Writing -/

/-- The header that `bufferize_avp` writes: the flags overwrite the highest octet of the length. -/
def avpHeader (hdr : AvpHdr) (len : Nat) : Bytes :=
  Be.octets 4 hdr.code.toNat ++ hdr.flags :: Be.octets 3 len ++
    if hdr.hasVendor then Be.octets 4 hdr.vendor.toNat else []

/-- Data with the zeros that the buffer holds behind it. -/
def padded (data : Bytes) : Bytes := data ++ List.replicate (pad4 data.length - data.length) 0

mutual

/-- `bufferize_avp`, where `room` octets are left in the buffer. -/
def bufferizeAvp (room : Nat) (avp : Avp) : Except Errno Bytes :=
  if room < avp.len then .error .ENOSPC
  else
    match avp with
    | .leaf hdr value => .ok (avpHeader hdr avp.len ++ padded value.bytes)
    | .grouped hdr children => do
      let body ← bufferizeChain (room - hdr.size) children
      .ok (avpHeader hdr (hdr.size + chainLen children) ++ body)
    | .raw hdr data => .ok (avpHeader hdr avp.len ++ padded data)

/-- `bufferize_chain` -/
def bufferizeChain (room : Nat) : List Avp → Except Errno Bytes
  | [] => .ok []
  | avp :: avps => do
    let first ← bufferizeAvp room avp
    let rest ← bufferizeChain (room - first.length) avps
    .ok (first ++ rest)

end

/-- `bufferize_msg` -/
def msgHeader (msg : Message) : Bytes :=
  1 :: Be.octets 3 msg.len ++ msg.flags :: Be.octets 3 msg.code.toNat ++
    Be.octets 4 msg.appl.toNat ++ Be.octets 4 msg.hbhid.toNat ++ Be.octets 4 msg.eteid.toNat

/-- `fd_msg_bufferize` -/
def bufferize (msg : Message) : Except Errno Bytes := do
  let body ← bufferizeChain (msg.len - 20) msg.avps
  let buf := msgHeader msg ++ body
  if buf.length = msg.len then .ok buf else .error .assertion

/-! ## Reading -/

/-- An AVP that is not looked up yet: its header, and its data in the buffer. -/
structure Source where
  hdr : AvpHdr
  data : Bytes
deriving DecidableEq, Repr

/-- The header of an AVP at the start of what is left of the buffer, `avp_len`, and what
follows. The vendor is 0 unless the V flag is set. -/
def readHdr : Bytes → Except Errno (AvpHdr × Nat × Bytes)
  | c₀ :: c₁ :: c₂ :: c₃ :: flags :: l₀ :: l₁ :: l₂ :: rest =>
    let hdr : AvpHdr := ⟨UInt32.ofNat (Be.number [c₀, c₁, c₂, c₃]), flags, 0⟩
    let len := Be.number [l₀, l₁, l₂]
    if hdr.hasVendor then
      match rest with
      | v₀ :: v₁ :: v₂ :: v₃ :: rest =>
        .ok ({ hdr with vendor := UInt32.ofNat (Be.number [v₀, v₁, v₂, v₃]) }, len, rest)
      | _ => .error .EBADMSG
    else .ok (hdr, len, rest)
  | _ => .error .EBADMSG

/-- One turn of the loop of `parsebuf_list`, on what is left of the buffer: the
AVP, and what is left after its padding. -/
def nextAvp (buf : Bytes) : Except Errno (Source × Bytes) :=
  match readHdr buf with
  | .error e => .error e
  | .ok (hdr, len, rest) =>
    if len < hdr.size then .error .EBADMSG
    else if hdr.size < len ∧ rest.length < len - hdr.size then .error .EBADMSG
    else .ok (⟨hdr, rest.take (len - hdr.size)⟩, rest.drop (pad4 (len - hdr.size)))

theorem length_readHdr {buf : Bytes} {hdr : AvpHdr} {len : Nat} {rest : Bytes}
    (h : readHdr buf = .ok (hdr, len, rest)) : rest.length + hdr.size = buf.length := by
  rw [readHdr.eq_def] at h
  split at h <;> [skip; cases h]
  dsimp only at h
  split at h
  · rename_i hv
    split at h <;> [skip; cases h]
    simp only [Except.ok.injEq, Prod.mk.injEq] at h
    obtain ⟨rfl, -, rfl⟩ := h
    rw [AvpHdr.hasVendor] at hv
    rw [AvpHdr.size, AvpHdr.hasVendor, if_pos hv]
    simp only [List.length_cons]
  · rename_i hv
    simp only [Except.ok.injEq, Prod.mk.injEq] at h
    obtain ⟨rfl, -, rfl⟩ := h
    rw [AvpHdr.size, if_neg hv]
    simp only [List.length_cons]

theorem AvpHdr.size_ge (hdr : AvpHdr) : 8 ≤ hdr.size := by
  unfold AvpHdr.size
  split <;> omega

theorem length_nextAvp {buf : Bytes} {avp : Source} {rest : Bytes}
    (h : nextAvp buf = .ok (avp, rest)) : avp.data.length + 8 + rest.length ≤ buf.length := by
  rw [nextAvp] at h
  split at h
  · cases h
  rename_i hdr len rest' hhdr
  split at h
  · cases h
  split at h
  · cases h
  cases h
  have hlen := length_readHdr hhdr
  have hsize := hdr.size_ge
  have hpad := le_pad4 (len - hdr.size)
  simp only [List.length_take, List.length_drop]
  omega

/-- `parsebuf_list` -/
def parsebufList (buf : Bytes) : Except Errno (List Source) :=
  if buf.isEmpty then .ok []
  else
    match _h : nextAvp buf with
    | .error e => .error e
    | .ok (avp, rest) => (parsebufList rest).map (avp :: ·)
termination_by buf.length
decreasing_by
  have := length_nextAvp _h
  omega

/-- The room that AVPs need in a buffer. -/
def sourceSize (avps : List Source) : Nat := (avps.map fun avp => avp.data.length + 8).sum

theorem sourceSize_le {buf : Bytes} {avps : List Source} (h : parsebufList buf = .ok avps) :
    sourceSize avps ≤ buf.length := by
  induction hn : buf.length using Nat.strongRecOn generalizing buf avps with
  | _ n ih =>
    rw [parsebufList] at h
    split at h
    · cases h
      exact Nat.zero_le _
    split at h
    · cases h
    · rename_i avp rest hnext
      have hlen := length_nextAvp hnext
      cases hrest : parsebufList rest with
      | error e => rw [hrest] at h; cases h
      | ok avps' =>
        rw [hrest] at h
        cases h
        have := ih rest.length (by omega) hrest rfl
        simp only [sourceSize, List.map_cons, List.sum_cons] at this ⊢
        omega

/-- The value of an AVP that is not grouped. -/
def readValue (basetype : BaseType) (data : Bytes) : Value :=
  match basetype with
  | .grouped | .octetString => .os data
  | .integer32 | .unsigned32 | .float32 => .word32 (UInt32.ofNat (Be.number data))
  | .integer64 | .unsigned64 | .float64 => .word64 (UInt64.ofNat (Be.number data))

mutual

/-- `parsedict_do_avp` of an AVP that is not looked up yet. `mandatory` is
whether an unknown AVP with the M flag is refused. -/
def parsedictAvp (dict : Dictionary) (mandatory : Bool) (avp : Source) : Except Errno Avp :=
  match dict.find avp.hdr with
  | none =>
    if mandatory && avp.hdr.isMandatory then .error .ENOTSUP else .ok (.raw avp.hdr avp.data)
  | some model =>
    if model.basetype.size ≠ 0 ∧ avp.data.length ≠ model.basetype.size then .error .EBADMSG
    else if model.basetype = .grouped then
      match _h : parsebufList avp.data with
      | .error e => .error e
      | .ok children =>
        (parsedictChain dict (mandatory && avp.hdr.isMandatory) children).map (.grouped avp.hdr)
    else
      let value := readValue model.basetype avp.data
      if model.typeCheck value then .ok (.leaf avp.hdr value) else .error .EINVAL
termination_by avp.data.length + 1
decreasing_by
  have := sourceSize_le _h
  show sourceSize children < _
  omega

/-- `parsedict_do_chain` -/
def parsedictChain (dict : Dictionary) (mandatory : Bool) :
    List Source → Except Errno (List Avp)
  | [] => .ok []
  | avp :: avps => do
    let first ← parsedictAvp dict mandatory avp
    let rest ← parsedictChain dict mandatory avps
    .ok (first :: rest)
termination_by avps => sourceSize avps
decreasing_by
  · simp only [sourceSize, List.map_cons, List.sum_cons]
    omega
  · simp only [sourceSize, List.map_cons, List.sum_cons]
    omega

end

/-- `fd_msg_parse_buffer`: the header, and the AVPs in the whole buffer. -/
def parseBuffer (buf : Bytes) : Except Errno (Message × List Source) :=
  if buf.length < 20 then .error .EINVAL
  else
    match buf with
    | version :: l₀ :: l₁ :: l₂ :: flags :: c₀ :: c₁ :: c₂ :: rest =>
      let msglen := Be.number [l₀, l₁, l₂]
      if version ≠ 1 then .error .EBADMSG
      else if buf.length < msglen then .error .EBADMSG
      else if msglen < 20 then .error .EBADMSG
      else
        (parsebufList (rest.drop 12)).map fun avps =>
          ({ flags := flags
             code := UInt32.ofNat (Be.number [c₀, c₁, c₂])
             appl := UInt32.ofNat (Be.number (rest.take 4))
             hbhid := UInt32.ofNat (Be.number ((rest.drop 4).take 4))
             eteid := UInt32.ofNat (Be.number ((rest.drop 8).take 4))
             avps := [] }, avps)
    | _ => .error .EINVAL

/-- `fd_msg_parse_dict` of a message that `fd_msg_parse_buffer` made. -/
def parse (dict : Dictionary) (buf : Bytes) : Except Errno Message := do
  let (msg, avps) ← parseBuffer buf
  if !dict.findCmd msg.flags msg.code then .error .ENOTSUP
  else
    let avps ← parsedictChain dict true avps
    .ok { msg with avps := avps }

/-- `fd_msg_search_avp`: the first AVP of a code and vendor. -/
def searchAvp (avps : List Avp) (vendor code : UInt32) : Option Avp :=
  avps.find? fun avp => avp.hdr.code = code ∧ avp.hdr.vendor = vendor

end Twag.Impl.Diameter

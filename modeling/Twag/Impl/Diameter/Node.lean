import Twag.Impl.Diameter.Rules

/-!
# A freeDiameter node (`libfdcore/routing_dispatch.c`, `libfdcore/messages.c`)

`msg_rt_in` decides whether a received request is handled here, sent on or
refused; `msg_dispatch` looks up what is handled here in the dictionary, checks
its rules, and gives it to the callbacks. A request that breaks a rule is
answered with an error. An answer that breaks one is dropped, unless its
Result-Code is an error already.

Here are the messages whose AVPs were all looked up: `fd_msg_parse_or_error`
of a message that the dictionary refuses is left out, as are the callbacks of
other extensions.
-/

namespace Twag.Impl.Diameter

/-- The configuration of a node. -/
structure Node where
  diamid : Bytes
  diamrlm : Bytes
  /-- `cnf_apps`, by rising ids. -/
  apps : List UInt32
  noFwd : Bool
  dict : Dictionary
  grammar : Grammar
  /-- `cmd_flag_val` of the answer to a command. -/
  answerFlags : UInt32 → UInt8
  /-- Whether the dictionary has an application. -/
  application : UInt32 → Bool

/-- `fd_app_check` -/
def appCheck : List UInt32 → UInt32 → Bool
  | [], _ => false
  | a :: apps, aid => if a < aid then appCheck apps aid else a = aid

/-! ## Decorated names -/

/-- `nai_get_indexes` from the octet at `i`: the first `!` and the `@`, 0 where there is none. -/
def naiGetIndexes (i excl : Nat) : Bytes → Nat × Nat
  | [] => (excl, 0)
  | c :: un =>
    if c = 33 then naiGetIndexes (i + 1) (if excl = 0 then i else excl) un
    else if c = 64 then (excl, i)
    else if c = 0 then (excl, 0)
    -- a backslash hides the octet after it
    else if c = 92 then
      match un with
      | [] => (excl, 0)
      | _ :: un => naiGetIndexes (i + 2) excl un
    else naiGetIndexes (i + 1) excl un

/-- `fd_os_is_valid_DiameterIdentity` -/
def isValidDiameterIdentity (os : Bytes) : Bool :=
  os.all fun c => (97 ≤ c ∧ c ≤ 122) ∨ (65 ≤ c ∧ c ≤ 90) ∨ c = 45 ∨ c = 46 ∨ (48 ≤ c ∧ c ≤ 57)

/-- `process_decorated_NAI`: the new User-Name and Destination-Realm of a decorated one. -/
def processDecoratedNai (un : Bytes) : Option (Bytes × Bytes) :=
  let (sep, at_) := naiGetIndexes 0 0 un
  if sep = 0 ∨ at_ < sep ∨ !isValidDiameterIdentity (un.take sep) then none
  else some ((un.drop (sep + 1)).take (at_ - sep) ++ un.take sep, un.take sep)

/-! ## `msg_rt_in` -/

inductive Status where
  | UNKNOWN
  | YES
  | NO
deriving DecidableEq, Repr

/-- The variables that the loop over the AVPs sets. -/
structure Scan where
  isDestHost : Status
  isDestRealm : Status
  un : Option Bytes
deriving DecidableEq, Repr

/-- What becomes of a message. -/
inductive Route where
  /-- `fd_g_local` -/
  | toLocal
  /-- `fd_g_outgoing` -/
  | outgoing
  /-- `fd_g_incoming` again, with another User-Name and Destination-Realm. -/
  | again (un dr : Bytes)
  /-- `return_error` -/
  | returnError (code : ErrCode) (message : Option Bytes)
  /-- An AVP that routing reads does not parse. -/
  | failed (e : Errno)
deriving DecidableEq, Repr

/-- `asciitolower` -/
def asciitolower (a : UInt8) : UInt8 := if 65 ≤ a ∧ a ≤ 90 then a + 32 else a

/-- `!fd_os_almostcasesrch(...)` -/
def almostCaseEq (os1 os2 : Bytes) : Bool := os1.map asciitolower = os2.map asciitolower

/-- `fd_msg_parse_dict` of an AVP that must have a string. -/
def routingValue (node : Node) (src : Source) : Except Route Bytes :=
  match parsedictAvp node.dict false src with
  | .ok (.leaf _ (.os data)) => .ok data
  | .ok _ => .error (.failed .assertion)
  | .error e => .error (.failed e)

/-- The loop's body. -/
def scanAvp (node : Node) (st : Scan) (src : Source) : Except Route Scan :=
  let is (a b : Bytes) : Status := if almostCaseEq a b then .YES else .NO
  if src.hdr.hasVendor then .ok st
  else if src.hdr.code = 293 then do
    .ok { st with isDestHost := is (← routingValue node src) node.diamid }
  else if src.hdr.code = 283 then do
    .ok { st with isDestRealm := is (← routingValue node src) node.diamrlm }
  else if src.hdr.code = 1 then do .ok { st with un := some (← routingValue node src) }
  else if src.hdr.code = 282 then do
    if almostCaseEq (← routingValue node src) node.diamid then
      .error (.returnError .DIAMETER_LOOP_DETECTED none)
    else .ok st
  else .ok st

/-- The loop, which stops when it has found all three. -/
def scanAvps (node : Node) (st : Scan) : List Source → Except Route Scan
  | [] => .ok st
  | src :: srcs => do
    let st ← scanAvp node st src
    if st.isDestHost ≠ .UNKNOWN ∧ st.isDestRealm ≠ .UNKNOWN ∧ st.un.isSome then .ok st
    else scanAvps node st srcs

/-- `msg_rt_in` of a request -/
def msgRtIn (node : Node) (msg : Message) (srcs : List Source) : Route :=
  if msg.isError then
    .returnError .DIAMETER_INVALID_HDR_BITS (some (ascii "R & E bits were set"))
  else if msg.appl = 0 ∨ msg.appl = 0xffffffff then
    .returnError .DIAMETER_APPLICATION_UNSUPPORTED
      (some (ascii "Routable message with application id 0 or relay"))
  else
    let isLocalApp := appCheck node.apps msg.appl
    match scanAvps node ⟨.UNKNOWN, .UNKNOWN, none⟩ srcs with
    | .error route => route
    | .ok st =>
      if st.isDestRealm = .UNKNOWN then
        .returnError .DIAMETER_COMMAND_UNSUPPORTED (some (ascii ("Non-routable message not " ++
          "supported (invalid bit ? missing Destination-Realm ?)")))
      else if st.isDestHost = .YES then
        if isLocalApp then .toLocal else .returnError .DIAMETER_APPLICATION_UNSUPPORTED none
      else if st.isDestHost = .NO ∨ st.isDestRealm = .NO then
        if node.noFwd then
          .returnError .DIAMETER_UNABLE_TO_DELIVER (some (ascii "I am not a Diameter agent"))
        else .outgoing
      else
        match st.un.bind processDecoratedNai with
        | some (un, dr) => .again un dr
        | none =>
          if isLocalApp then .toLocal
          else if node.noFwd then .returnError .DIAMETER_APPLICATION_UNSUPPORTED none
          else .outgoing

/-! ## Answers -/

/-- A header without a vendor, with the M flag. -/
def mandatoryHdr (code : UInt32) : AvpHdr := ⟨code, 0x40, 0⟩

/-- `avp_value->os` -/
def Avp.osValue : Avp → Option Bytes
  | .leaf _ (.os data) => some data
  | _ => none

/-- `avp_value->u32` -/
def Avp.u32Value : Avp → Option UInt32
  | .leaf _ (.word32 n) => some n
  | _ => none

/-- The session of `fd_msg_sess_get`, if the message has one. -/
def Message.session (msg : Message) : Option Bytes :=
  ((searchAvp msg.avps 0 263).bind Avp.osValue).filter fun sid => !sid.isEmpty

/-- `fd_msg_new_answer_from_req`; a Proxy-Info is copied. -/
def newAnswerFromReq (node : Node) (req : Message) (error : Bool) : Message where
  flags := if error then 0x20 else node.answerFlags req.code
  code := req.code
  appl := req.appl
  hbhid := req.hbhid
  eteid := req.eteid
  avps := (req.session.map fun sid => Avp.leaf (mandatoryHdr 263) (.os sid)).toList ++
    req.avps.filter fun avp => avp.hdr.code = 284 ∧ avp.hdr.vendor = 0

/-- `fd_msg_add_origin` -/
def originAvps (host realm : Bytes) : List Avp :=
  [.leaf (mandatoryHdr 264) (.os host), .leaf (mandatoryHdr 296) (.os realm)]

/-- The copy of an AVP in Failed-AVP: that of a grouped one is empty, and of another one
the header is kept and the data is zeros. -/
def failedCopy : Avp → Avp
  | .grouped hdr _ => .grouped hdr []
  | .leaf hdr value => .raw hdr (List.replicate value.bytes.length 0)
  | .raw hdr data => .raw hdr (List.replicate data.length 0)

/-- `fd_msg_rescode_set` with `type_id` 1: the flags, and the AVPs it adds. -/
def rescodeSet (node : Node) (msg : Message) (code : ErrCode) (errormsg : Option Bytes)
    (failed : Option Avp) : Message :=
  let setEBit := code.value / 1000 = 3
  let text : Option Bytes := if code.value / 1000 = 1 ∨ code.value / 1000 = 2 then errormsg
    else some (errormsg.getD code.name)
  { msg with
    flags := if setEBit then msg.flags ||| 0x20 else msg.flags &&& 0xdf
    avps := msg.avps ++ originAvps node.diamid node.diamrlm ++
      [.leaf (mandatoryHdr 268) (.word32 code.value)] ++
      (failed.map fun avp => Avp.grouped (mandatoryHdr 279) [failedCopy avp]).toList ++
      (text.map fun text => Avp.leaf ⟨281, 0, 0⟩ (.os text)).toList }

/-! ## `msg_dispatch` -/

inductive Dispatch where
  /-- The answer is sent. -/
  | reply (ans : Message)
  | dropped
  /-- The callbacks registered for the command are called. -/
  | callbacks

/-- Whether an answer that breaks a rule is rescued: its Result-Code is no success. -/
def isRescued (msg : Message) : Bool :=
  let rc := msg.avps.find? fun avp => avp.hdr.code = 268 ∧ avp.hdr.hasVendor = false
  match rc.bind Avp.u32Value with
  | none => false
  | some n => n / 1000 ≠ 1 ∧ n / 1000 ≠ 2

/-- `msg_dispatch` -/
def msgDispatch (node : Node) (msg : Message) : Dispatch :=
  let accepted : Except Dispatch Unit :=
    match parseRules node.grammar msg with
    | .ok () => .ok ()
    | .error pei =>
      if msg.isRequest then
        .error (.reply (rescodeSet node (newAnswerFromReq node msg false) pei.errcode pei.message
          (some pei.avp)))
      else if isRescued msg then .ok ()
      else .error .dropped
  match accepted with
  | .error d => d
  | .ok () =>
    if node.application msg.appl then .callbacks
    else if msg.isRequest then
      .reply (rescodeSet node (newAnswerFromReq node msg false) .DIAMETER_APPLICATION_UNSUPPORTED
        none none)
    else .dropped

end Twag.Impl.Diameter

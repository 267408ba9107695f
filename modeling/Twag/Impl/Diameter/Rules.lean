import Twag.Impl.Diameter

/-!
# The rules of Diameter messages (`fd_msg_parse_rules`)

A command and a grouped AVP have rules in the dictionary: how often an AVP may
stand in them, and where. `parserules_do` goes down the tree of a message that
was looked up in the dictionary, and checks the rules of the AVPs in an object
before those of the object. What it finds first is left in a `struct fd_pei`,
from which `fd_msg_parse_or_error` makes the answer to a request.
-/

namespace Twag.Impl.Diameter

/-- `enum rule_position` -/
inductive RulePosition where
  | fixedHead
  | required
  | optional
  | fixedTail
deriving DecidableEq, Repr

/-- `struct dict_rule_data`. Of `rule_avp` it has the header that
`fd_msg_avp_new` gives to an AVP of that model, and the type. -/
structure Rule where
  avp : AvpHdr
  basetype : BaseType
  position : RulePosition
  order : Nat
  min : Int
  max : Int
deriving DecidableEq, Repr

/-- The rules in the dictionary, in the order in which `fd_dict_iterate_rules` visits them. -/
structure Grammar where
  /-- Of a request or an answer, by its code. -/
  cmd : Bool → UInt32 → List Rule
  /-- `dict_cmd_error` -/
  error : List Rule
  /-- Of a grouped AVP, by vendor and code. -/
  avp : UInt32 → UInt32 → List Rule

/-- The texts of `pei_errcode`. -/
inductive ErrCode where
  | DIAMETER_COMMAND_UNSUPPORTED
  | DIAMETER_APPLICATION_UNSUPPORTED
  | DIAMETER_INVALID_HDR_BITS
  | DIAMETER_UNABLE_TO_DELIVER
  | DIAMETER_LOOP_DETECTED
  | DIAMETER_INVALID_AVP_VALUE
  | DIAMETER_AVP_UNSUPPORTED
  | DIAMETER_MISSING_AVP
  | DIAMETER_AVP_NOT_ALLOWED
  | DIAMETER_AVP_OCCURS_TOO_MANY_TIMES
deriving DecidableEq, Repr

namespace ErrCode

/-- The value of the name in the dictionary. -/
def value : ErrCode → UInt32
  | DIAMETER_COMMAND_UNSUPPORTED => 3001
  | DIAMETER_UNABLE_TO_DELIVER => 3002
  | DIAMETER_LOOP_DETECTED => 3005
  | DIAMETER_APPLICATION_UNSUPPORTED => 3007
  | DIAMETER_INVALID_HDR_BITS => 3008
  | DIAMETER_AVP_UNSUPPORTED => 5001
  | DIAMETER_INVALID_AVP_VALUE => 5004
  | DIAMETER_MISSING_AVP => 5005
  | DIAMETER_AVP_NOT_ALLOWED => 5008
  | DIAMETER_AVP_OCCURS_TOO_MANY_TIMES => 5009

def name : ErrCode → Bytes
  | DIAMETER_COMMAND_UNSUPPORTED => ascii "DIAMETER_COMMAND_UNSUPPORTED"
  | DIAMETER_UNABLE_TO_DELIVER => ascii "DIAMETER_UNABLE_TO_DELIVER"
  | DIAMETER_LOOP_DETECTED => ascii "DIAMETER_LOOP_DETECTED"
  | DIAMETER_APPLICATION_UNSUPPORTED => ascii "DIAMETER_APPLICATION_UNSUPPORTED"
  | DIAMETER_INVALID_HDR_BITS => ascii "DIAMETER_INVALID_HDR_BITS"
  | DIAMETER_AVP_UNSUPPORTED => ascii "DIAMETER_AVP_UNSUPPORTED"
  | DIAMETER_INVALID_AVP_VALUE => ascii "DIAMETER_INVALID_AVP_VALUE"
  | DIAMETER_MISSING_AVP => ascii "DIAMETER_MISSING_AVP"
  | DIAMETER_AVP_NOT_ALLOWED => ascii "DIAMETER_AVP_NOT_ALLOWED"
  | DIAMETER_AVP_OCCURS_TOO_MANY_TIMES => ascii "DIAMETER_AVP_OCCURS_TOO_MANY_TIMES"

end ErrCode

/-- `struct fd_pei`; `pei_protoerr` is not set by these functions. -/
structure Pei where
  errcode : ErrCode
  message : Option Bytes
  avp : Avp

/-! ## One rule -/

/-- Whether the AVP's model is `rule_avp`. An AVP that is not in the dictionary has none. -/
def Avp.hasModel (avp : Avp) (rule : Rule) : Bool :=
  match avp with
  | .leaf hdr _ | .grouped hdr _ => hdr.vendor = rule.avp.vendor ∧ hdr.code = rule.avp.code
  | .raw _ _ => false

/-- The variables of `parserules_stat_avps`. -/
structure Stat where
  curpos : Nat
  count : Nat
  firstpos : Nat
  lastpos : Nat
deriving DecidableEq, Repr

/-- One turn of its loop. -/
def Stat.next (rule : Rule) (st : Stat) (avp : Avp) : Stat :=
  let curpos := st.curpos + 1
  let lastpos := if st.lastpos ≠ 0 then st.lastpos + 1 else st.lastpos
  if avp.hasModel rule then
    { curpos := curpos
      count := st.count + 1
      firstpos := if st.firstpos = 0 then curpos else st.firstpos
      lastpos := 1 }
  else { st with curpos := curpos, lastpos := lastpos }

/-- `parserules_stat_avps` -/
def statAvps (rule : Rule) (avps : List Avp) : Stat := avps.foldl (Stat.next rule) ⟨0, 0, 0, 0⟩

/-- `empty_avp` -/
def emptyAvp (rule : Rule) : Avp :=
  match rule.basetype with
  | .grouped => .grouped rule.avp []
  | .octetString => .leaf rule.avp (.os [0])
  | .integer32 | .unsigned32 | .float32 => .leaf rule.avp (.word32 0)
  | .integer64 | .unsigned64 | .float64 => .leaf rule.avp (.word64 0)

/-- The least number of AVPs that a rule asks for. -/
def Rule.atLeast (rule : Rule) : Int :=
  if rule.min = -1 then if rule.position = .optional then 0 else 1 else rule.min

/-- `parserules_check_one_rule` -/
def checkOneRule (rule : Rule) (avps : List Avp) : Except Pei Unit :=
  let st := statAvps rule avps
  if st.count < rule.atLeast then .error ⟨.DIAMETER_MISSING_AVP, none, emptyAvp rule⟩
  else if rule.max ≠ -1 ∧ rule.max < st.count then
    .error ⟨if rule.max = 0 then .DIAMETER_AVP_NOT_ALLOWED
      else .DIAMETER_AVP_OCCURS_TOO_MANY_TIMES, none, emptyAvp rule⟩
  else
    match rule.position with
    | .optional | .required => .ok ()
    | .fixedHead =>
      if rule.order < st.firstpos then
        .error ⟨.DIAMETER_MISSING_AVP, some (ascii "AVP was not in its fixed position"),
          emptyAvp rule⟩
      else .ok ()
    | .fixedTail =>
      if rule.order < st.lastpos then
        .error ⟨.DIAMETER_MISSING_AVP, some (ascii "AVP was not in its fixed position"),
          emptyAvp rule⟩
      else .ok ()

/-- `fd_dict_iterate_rules` with `parserules_check_one_rule` -/
def checkRules (avps : List Avp) : List Rule → Except Pei Unit
  | [] => .ok ()
  | rule :: rules => do
    checkOneRule rule avps
    checkRules avps rules

/-! ## The tree -/

mutual

/-- `parserules_do` of an AVP -/
def parserulesAvp (grammar : Grammar) (mandatory : Bool) (avp : Avp) : Except Pei Unit :=
  match avp with
  | .raw hdr data =>
    if mandatory && hdr.isMandatory then
      .error ⟨.DIAMETER_AVP_UNSUPPORTED, none, .raw hdr data⟩
    else .ok ()
  | .leaf _ _ => .ok ()
  | .grouped hdr children => do
    parserulesChain grammar (mandatory && hdr.isMandatory) children
    checkRules children (grammar.avp hdr.vendor hdr.code)

/-- `parserules_do` of each AVP in an object -/
def parserulesChain (grammar : Grammar) (mandatory : Bool) : List Avp → Except Pei Unit
  | [] => .ok ()
  | avp :: avps => do
    parserulesAvp grammar mandatory avp
    parserulesChain grammar mandatory avps

end

/-- `CMD_FLAG_REQUEST` -/
def Message.isRequest (msg : Message) : Bool := msg.flags &&& 0x80 != 0

/-- `CMD_FLAG_ERROR` -/
def Message.isError (msg : Message) : Bool := msg.flags &&& 0x20 != 0

/-- The rules of a message: those of an error message differ. -/
def Grammar.rules (grammar : Grammar) (msg : Message) : List Rule :=
  if msg.isError then grammar.error else grammar.cmd msg.isRequest msg.code

/-- `fd_msg_parse_rules` of a message that was looked up in the dictionary -/
def parseRules (grammar : Grammar) (msg : Message) : Except Pei Unit := do
  parserulesChain grammar true msg.avps
  checkRules msg.avps (grammar.rules msg)

end Twag.Impl.Diameter

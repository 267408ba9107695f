import Twag.Impl.Diameter.Sta
import Twag.Proof.Diameter.RoundTrip
import Twag.Proof.Diameter.Rules

/-!
# The gateway's requests at a freeDiameter server

`send_der` adds no Auth-Application-Id, which `dict_eap.c` requires of a
Diameter-EAP-Request. `der_refused` follows such a request through the octets to
the server that handles it, and the server's answer back to `dea_cb`: the user
is rejected, whatever its credentials.

The two nodes are proved against the message between them: `parseRules_der` is
the server's half, and `reads_errorAnswer` and `dispatch_errorAnswer` are the
gateway's, which gets the Failed-AVP back as an AVP of its own dictionary.

`teardown_unrouted`: a Session-Termination-Request has the application id 0 and
is refused by every node; and a node without applications of its own, such as
the gateway, handles no request at all, so that `asr_cb` is not called.
-/

namespace Twag.Proof.Diameter

open Twag.Impl (Bytes ascii Der Str AvpName Dea Env TwagCore sessionIdOf deaCb sessionMac
  fdMsgSearchAvp dictSearchAvp resultCodeOf accessReject macOfSessionId_sessionIdOf)
open Twag.Impl.Diameter

/-! ## Dictionaries -/

/-- The dictionary has an AVP of this header and type, without a check of its value. -/
def Defines (dict : Dictionary) (hdr : AvpHdr) (basetype : BaseType) : Prop :=
  HdrWf hdr ∧ ∃ model, dict.find hdr = some model ∧ model.basetype = basetype ∧
    ∀ value, model.typeCheck value = true

/-- The dictionary has what the two messages use. -/
structure HasSta (dict : Dictionary) : Prop where
  strings : ∀ code ∈ ([263, 264, 296, 283, 1, 462] : List UInt32),
    Defines dict (mandatoryHdr code) .octetString
  authRequestType : Defines dict (mandatoryHdr 274) .integer32
  resultCode : Defines dict (mandatoryHdr 268) .unsigned32
  failedAvp : Defines dict (mandatoryHdr 279) .grouped
  errorMessage : Defines dict ⟨281, 0, 0⟩ .octetString
  der : dict.findCmd 0xc0 268 = true
  dea : dict.findCmd 0x40 268 = true

theorem avpWf_leaf {dict : Dictionary} {hdr : AvpHdr} {basetype : BaseType} {value : Value}
    (h : Defines dict hdr basetype) (hfits : Fits value basetype) (mandatory : Bool) :
    AvpWf dict mandatory (.leaf hdr value) := by
  obtain ⟨hhdr, model, hfind, rfl, hcheck⟩ := h
  rw [AvpWf]
  exact ⟨hhdr, model, hfind, hfits, hcheck value⟩

theorem avpWf_os {dict : Dictionary} {hdr : AvpHdr} (h : Defines dict hdr .octetString)
    (data : Bytes) (mandatory : Bool) : AvpWf dict mandatory (.leaf hdr (.os data)) :=
  avpWf_leaf h (show Fits (.os data) .octetString from rfl) mandatory

theorem avpWf_word32 {dict : Dictionary} {hdr : AvpHdr} {basetype : BaseType}
    (h : Defines dict hdr basetype) (hsize : basetype.size = 4) (n : UInt32) (mandatory : Bool) :
    AvpWf dict mandatory (.leaf hdr (.word32 n)) :=
  avpWf_leaf h (show Fits (.word32 n) basetype from hsize) mandatory

theorem chainWf_append {dict : Dictionary} {mandatory : Bool} {a b : List Avp}
    (ha : ChainWf dict mandatory a) (hb : ChainWf dict mandatory b) :
    ChainWf dict mandatory (a ++ b) := by
  induction a with
  | nil => exact hb
  | cons avp a ih =>
    rw [ChainWf] at ha
    rw [List.cons_append, ChainWf]
    exact ⟨ha.1, ih ha.2⟩

theorem chainWf_singleton {dict : Dictionary} {mandatory : Bool} {avp : Avp}
    (h : AvpWf dict mandatory avp) : ChainWf dict mandatory [avp] := by
  rw [ChainWf, ChainWf]
  exact ⟨h, trivial⟩

theorem chainWf_osAvp {dict : Dictionary} {mandatory : Bool} {code : UInt32}
    (h : Defines dict (mandatoryHdr code) .octetString) (value : Option Bytes) :
    ChainWf dict mandatory (osAvp code value) := by
  cases value with
  | none => exact trivial
  | some data => exact chainWf_singleton (avpWf_os h data mandatory)

theorem chainWf_i32Avp {dict : Dictionary} {mandatory : Bool} {code : UInt32}
    (h : Defines dict (mandatoryHdr code) .integer32) (value : Option Nat) :
    ChainWf dict mandatory (i32Avp code value) := by
  cases value with
  | none => exact trivial
  | some n => exact chainWf_singleton (avpWf_word32 h rfl _ mandatory)

theorem chainWf_originAvps {dict : Dictionary} {mandatory : Bool} (h : HasSta dict)
    (host realm : Bytes) : ChainWf dict mandatory (originAvps host realm) := by
  rw [originAvps, ChainWf]
  exact ⟨avpWf_os (h.strings 264 (by decide)) host mandatory,
    chainWf_singleton (avpWf_os (h.strings 296 (by decide)) realm mandatory)⟩

theorem messageWf_der {dict : Dictionary} (h : HasSta dict) (gateway : Node) (hbhid eteid : UInt32)
    (der : Der) : MessageWf dict (derMessage gateway hbhid eteid der) := by
  refine ⟨show UInt32.toNat 268 < 2 ^ 24 by decide, h.der, ?_⟩
  refine chainWf_append (chainWf_append (chainWf_append (chainWf_append (chainWf_append ?_ ?_) ?_)
    ?_) ?_) ?_
  · exact chainWf_osAvp (h.strings 263 (by decide)) _
  · exact chainWf_originAvps h _ _
  · exact chainWf_osAvp (h.strings 283 (by decide)) _
  · exact chainWf_i32Avp h.authRequestType _
  · exact chainWf_osAvp (h.strings 1 (by decide)) _
  · exact chainWf_osAvp (h.strings 462 (by decide)) _

/-! ## The server refuses the request -/

/-- The AVPs of a Diameter-EAP-Request, by their codes. -/
def derCodes : List UInt32 := [263, 264, 296, 283, 274, 1, 462]

theorem mem_osAvp {code : UInt32} {value : Option Bytes} {avp : Avp} (h : avp ∈ osAvp code value) :
    ∃ v, avp = .leaf (mandatoryHdr code) v := by
  rw [osAvp, Option.mem_toList, Option.map_eq_some_iff] at h
  obtain ⟨data, -, rfl⟩ := h
  exact ⟨_, rfl⟩

theorem mem_i32Avp {code : UInt32} {value : Option Nat} {avp : Avp} (h : avp ∈ i32Avp code value) :
    ∃ v, avp = .leaf (mandatoryHdr code) v := by
  rw [i32Avp, Option.mem_toList, Option.map_eq_some_iff] at h
  obtain ⟨n, -, rfl⟩ := h
  exact ⟨_, rfl⟩

theorem mem_originAvps {host realm : Bytes} {avp : Avp} (h : avp ∈ originAvps host realm) :
    ∃ code ∈ derCodes, ∃ v, avp = .leaf (mandatoryHdr code) v := by
  rw [originAvps] at h
  simp only [List.mem_cons, List.not_mem_nil, or_false] at h
  obtain rfl | rfl := h
  · exact ⟨264, by decide, _, rfl⟩
  · exact ⟨296, by decide, _, rfl⟩

theorem mem_derMessage {gateway : Node} {hbhid eteid : UInt32} {der : Der} {avp : Avp}
    (h : avp ∈ (derMessage gateway hbhid eteid der).avps) :
    ∃ code ∈ derCodes, ∃ v, avp = .leaf (mandatoryHdr code) v := by
  simp only [derMessage, List.mem_append] at h
  obtain ((((h | h) | h) | h) | h) | h := h
  · exact ⟨263, by decide, mem_osAvp h⟩
  · exact mem_originAvps h
  · exact ⟨283, by decide, mem_osAvp h⟩
  · exact ⟨274, by decide, mem_i32Avp h⟩
  · exact ⟨1, by decide, mem_osAvp h⟩
  · exact ⟨462, by decide, mem_osAvp h⟩

/-- A rule that asks for an Auth-Application-Id. -/
def AsksForAuthApplicationId (rule : Rule) : Prop :=
  rule.avp.code = 258 ∧ rule.position = .required ∧ rule.min = -1

theorem not_obeys_der {rule : Rule} (h : AsksForAuthApplicationId rule) (gateway : Node)
    (hbhid eteid : UInt32) (der : Der) :
    ¬ Obeys rule (derMessage gateway hbhid eteid der).avps := by
  obtain ⟨hcode, hpos, hmin⟩ := h
  have hcount : (derMessage gateway hbhid eteid der).avps.countP (·.hasModel rule) = 0 := by
    rw [List.countP_eq_zero]
    intro avp havp hmodel
    obtain ⟨code, hc, v, rfl⟩ := mem_derMessage havp
    simp only [Avp.hasModel, mandatoryHdr, hcode, decide_eq_true_eq] at hmodel
    rw [hmodel.2] at hc
    exact absurd hc (by decide)
  intro hobeys
  have hle := hobeys.min
  rw [hcount, Rule.atLeast, if_pos hmin, hpos, if_neg (by decide)] at hle
  exact absurd hle (by decide)

theorem checkRules_error {avps : List Avp} {rules : List Rule} {pei : Pei}
    (h : checkRules avps rules = .error pei) :
    ∃ rule ∈ rules, checkOneRule rule avps = .error pei := by
  induction rules with
  | nil => cases h
  | cons rule rules ih =>
    rw [checkRules] at h
    cases hone : checkOneRule rule avps with
    | error e =>
      rw [hone] at h
      cases h
      exact ⟨rule, .head _, hone⟩
    | ok u =>
      rw [hone] at h
      obtain ⟨r, hr, hpei⟩ := ih h
      exact ⟨r, .tail _ hr, hpei⟩

/-- The errors of a broken rule: permanent failures, with a short text. -/
structure Breach (code : ErrCode) (message : Option Bytes) : Prop where
  permanent : code.value / 1000 = 5
  text : (message.getD code.name).length ≤ 34

theorem checkOneRule_error {rule : Rule} {avps : List Avp} {pei : Pei}
    (h : checkOneRule rule avps = .error pei) :
    pei.avp = emptyAvp rule ∧ Breach pei.errcode pei.message := by
  have hmissing : Breach .DIAMETER_MISSING_AVP none := ⟨by decide, by decide⟩
  have hposition : Breach .DIAMETER_MISSING_AVP
      (some (ascii "AVP was not in its fixed position")) := ⟨by decide, by decide⟩
  rw [checkOneRule] at h
  split at h
  · cases h
    exact ⟨rfl, hmissing⟩
  split at h
  · cases h
    refine ⟨rfl, ?_⟩
    by_cases hmax : rule.max = 0
    · simp only [hmax, if_true]
      exact ⟨by decide, by decide⟩
    · simp only [hmax, if_false]
      exact ⟨by decide, by decide⟩
  split at h
  · cases h
  · cases h
  · split at h <;> cases h
    exact ⟨rfl, hposition⟩
  · split at h <;> cases h
    exact ⟨rfl, hposition⟩

theorem isRequest_der (gateway : Node) (hbhid eteid : UInt32) (der : Der) :
    (derMessage gateway hbhid eteid der).isRequest = true := by
  show ((0xc0 : UInt8) &&& 0x80 != 0) = true
  decide

theorem parseRules_der {grammar : Grammar} {rule : Rule} (hrule : rule ∈ grammar.cmd true 268)
    (hasks : AsksForAuthApplicationId rule) (gateway : Node) (hbhid eteid : UInt32) (der : Der) :
    ∃ pei, parseRules grammar (derMessage gateway hbhid eteid der) = .error pei ∧
      ∃ r ∈ grammar.cmd true 268,
        checkOneRule r (derMessage gateway hbhid eteid der).avps = .error pei := by
  have hrules : grammar.rules (derMessage gateway hbhid eteid der) = grammar.cmd true 268 := by
    have herror : (derMessage gateway hbhid eteid der).isError = false := by
      show ((0xc0 : UInt8) &&& 0x20 != 0) = false
      decide
    rw [Grammar.rules, herror, isRequest_der]
    rfl
  have hchain :
      parserulesChain grammar true (derMessage gateway hbhid eteid der).avps = .ok () := by
    rw [parserulesChain_iff]
    intro m avp hocc
    cases hocc with
    | here havp =>
      obtain ⟨code, -, v, rfl⟩ := mem_derMessage havp
      exact trivial
    | inside hgroup =>
      obtain ⟨code, -, v, hleaf⟩ := mem_derMessage hgroup
      cases hleaf
  cases hcheck : checkRules (derMessage gateway hbhid eteid der).avps (grammar.cmd true 268) with
  | ok u =>
    exact absurd ((checkRules_iff _ _).1 hcheck rule hrule) (not_obeys_der hasks _ _ _ _)
  | error pei =>
    refine ⟨pei, ?_, checkRules_error hcheck⟩
    rw [parseRules, hchain, hrules]
    exact hcheck

/-! ## The answer -/

/-- The answer to a request that broke a rule, as it is read. -/
def errorAnswer (server : Node) (hbhid eteid : UInt32) (sid : Bytes) (code : ErrCode)
    (message : Option Bytes) (rule : Rule) : Message where
  flags := 0x40
  code := 268
  appl := 5
  hbhid := hbhid
  eteid := eteid
  avps := [.leaf (mandatoryHdr 263) (.os sid), .leaf (mandatoryHdr 264) (.os server.diamid),
    .leaf (mandatoryHdr 296) (.os server.diamrlm), .leaf (mandatoryHdr 268) (.word32 code.value),
    .grouped (mandatoryHdr 279) [emptyAvp rule],
    .leaf ⟨281, 0, 0⟩ (.os (message.getD code.name))]

/-- The copy in Failed-AVP is written as the AVP it was made of, which is empty. -/
theorem failedCopy_emptyAvp (rule : Rule) :
    (failedCopy (emptyAvp rule)).len = (emptyAvp rule).len ∧
      (failedCopy (emptyAvp rule)).hdr = (emptyAvp rule).hdr ∧
      bodyOf (failedCopy (emptyAvp rule)) = bodyOf (emptyAvp rule) := by
  unfold emptyAvp
  cases rule.basetype <;>
    simp only [failedCopy, Avp.hdr, Avp.len, bodyOf, List.length_replicate] <;>
    exact ⟨trivial, trivial, by trivial⟩

theorem avps_der {gateway : Node} {hbhid eteid : UInt32} {der : Der} {sid : Bytes}
    (hsid : der.sessionId = some sid) :
    ∃ avps, (derMessage gateway hbhid eteid der).avps =
      .leaf (mandatoryHdr 263) (.os sid) :: avps := by
  simp only [derMessage, hsid, osAvp, Option.map_some, Option.toList_some, List.cons_append,
    List.nil_append, List.append_assoc]
  exact ⟨_, rfl⟩

theorem session_der {gateway : Node} {hbhid eteid : UInt32} {der : Der} {sid : Bytes}
    (hsid : der.sessionId = some sid) (hne : sid.isEmpty = false) :
    (derMessage gateway hbhid eteid der).session = some sid := by
  obtain ⟨avps, havps⟩ := avps_der hsid
  rw [Message.session, havps, searchAvp, List.find?_cons_of_pos (by rfl), Option.bind_some,
    Avp.osValue, Option.filter_some, hne]
  rfl

theorem length_le_der {gateway : Node} {hbhid eteid : UInt32} {der : Der} {sid : Bytes}
    (hsid : der.sessionId = some sid) : sid.length ≤ (derMessage gateway hbhid eteid der).len := by
  obtain ⟨avps, havps⟩ := avps_der hsid
  have hpad := le_pad4 (Avp.leaf (mandatoryHdr 263) (.os sid)).len
  rw [Avp.len, Value.bytes] at hpad
  rw [Message.len, havps, chainLen, Avp.len, Value.bytes]
  omega

theorem proxyInfo_der (gateway : Node) (hbhid eteid : UInt32) (der : Der) :
    ((derMessage gateway hbhid eteid der).avps.filter fun avp =>
      avp.hdr.code = 284 ∧ avp.hdr.vendor = 0) = [] := by
  rw [List.filter_eq_nil_iff]
  intro avp havp
  obtain ⟨code, hc, v, rfl⟩ := mem_derMessage havp
  simp only [Avp.hdr, mandatoryHdr, decide_eq_true_eq]
  intro h284
  rw [h284.1] at hc
  exact absurd hc (by decide)

/-- The answer that is sent, up to the AVP in its Failed-AVP. -/
theorem rescodeSet_der {gateway server : Node} {hbhid eteid : UInt32} {der : Der} {sid : Bytes}
    (hsid : der.sessionId = some sid) (hne : sid.isEmpty = false)
    (hflags : server.answerFlags 268 = 0x40) {code : ErrCode} {message : Option Bytes}
    (hbreach : Breach code message) (rule : Rule) :
    rescodeSet server (newAnswerFromReq server (derMessage gateway hbhid eteid der) false) code
        message (some (emptyAvp rule)) =
      { errorAnswer server hbhid eteid sid code message rule with
        avps := [.leaf (mandatoryHdr 263) (.os sid), .leaf (mandatoryHdr 264) (.os server.diamid),
          .leaf (mandatoryHdr 296) (.os server.diamrlm),
          .leaf (mandatoryHdr 268) (.word32 code.value),
          .grouped (mandatoryHdr 279) [failedCopy (emptyAvp rule)],
          .leaf ⟨281, 0, 0⟩ (.os (message.getD code.name))] } := by
  have hclass := hbreach.permanent
  have h3 : ¬ (5 : UInt32) = 3 := by decide
  have h12 : ¬ ((5 : UInt32) = 1 ∨ (5 : UInt32) = 2) := by decide
  have hflag : (0x40 : UInt8) &&& 0xdf = 0x40 := by decide
  rw [rescodeSet, newAnswerFromReq, session_der hsid hne, proxyInfo_der]
  simp only [hclass, if_neg h3, if_neg h12, errorAnswer, derMessage, hflags, hflag,
    Bool.false_eq_true, if_false, Option.map_some, Option.toList_some, originAvps,
    List.append_nil, List.cons_append, List.nil_append]

theorem encodeAvp_failed (rule : Rule) :
    encodeAvp (.grouped (mandatoryHdr 279) [failedCopy (emptyAvp rule)]) =
        encodeAvp (.grouped (mandatoryHdr 279) [emptyAvp rule]) ∧
      (Avp.grouped (mandatoryHdr 279) [failedCopy (emptyAvp rule)]).len =
        (Avp.grouped (mandatoryHdr 279) [emptyAvp rule]).len := by
  obtain ⟨hlen, hhdr, hbody⟩ := failedCopy_emptyAvp rule
  have hgroup : (Avp.grouped (mandatoryHdr 279) [failedCopy (emptyAvp rule)]).len =
      (Avp.grouped (mandatoryHdr 279) [emptyAvp rule]).len := by
    simp only [Avp.len, chainLen, hlen]
  refine ⟨?_, hgroup⟩
  rw [encodeAvp, encodeAvp, hgroup]
  simp only [bodyOf, encodeChain, hlen, hhdr, hbody, Avp.hdr.eq_2]

theorem hasVendor_mandatoryHdr (code : UInt32) : (mandatoryHdr code).hasVendor = false := by
  show ((0x40 : UInt8) &&& 0x80 != 0) = false
  decide

theorem size_mandatoryHdr (code : UInt32) : (mandatoryHdr code).size = 8 := by
  rw [AvpHdr.size, hasVendor_mandatoryHdr]
  rfl

theorem len_emptyAvp (rule : Rule) : (emptyAvp rule).len ≤ 20 := by
  have hsize : rule.avp.size ≤ 12 := by
    unfold AvpHdr.size
    split <;> omega
  unfold emptyAvp
  cases rule.basetype <;>
    simp only [Avp.len, chainLen, Value.bytes, Be.length_octets, List.length_singleton] <;> omega

theorem avpWf_emptyAvp {dict : Dictionary} {rule : Rule} (h : Defines dict rule.avp rule.basetype)
    (mandatory : Bool) : AvpWf dict mandatory (emptyAvp rule) := by
  unfold emptyAvp
  cases hb : rule.basetype <;> rw [hb] at h
  case grouped =>
    obtain ⟨hhdr, model, hfind, hg, -⟩ := h
    dsimp only
    rw [AvpWf, ChainWf]
    exact ⟨hhdr, ⟨model, hfind, hg⟩, trivial⟩
  all_goals
    refine avpWf_leaf h ?_ mandatory
    rfl

theorem messageWf_errorAnswer {dict : Dictionary} (h : HasSta dict) {server : Node}
    {hbhid eteid : UInt32} {sid : Bytes} {code : ErrCode} {message : Option Bytes} {rule : Rule}
    (hrule : Defines dict rule.avp rule.basetype) :
    MessageWf dict (errorAnswer server hbhid eteid sid code message rule) := by
  refine ⟨show UInt32.toNat 268 < 2 ^ 24 by decide, h.dea, ?_⟩
  simp only [errorAnswer, ChainWf]
  refine ⟨avpWf_os (h.strings 263 (by decide)) _ _, avpWf_os (h.strings 264 (by decide)) _ _,
    avpWf_os (h.strings 296 (by decide)) _ _, avpWf_word32 h.resultCode rfl _ _, ?_,
    avpWf_os h.errorMessage _ _, trivial⟩
  obtain ⟨hhdr, model, hfind, hg, -⟩ := h.failedAvp
  rw [AvpWf]
  exact ⟨hhdr, ⟨model, hfind, hg⟩, chainWf_singleton (avpWf_emptyAvp hrule _)⟩

theorem len_errorAnswer {server : Node} {hbhid eteid : UInt32} {sid : Bytes} {code : ErrCode}
    {message : Option Bytes} {rule : Rule} (hbreach : Breach code message)
    (hlen : sid.length + server.diamid.length + server.diamrlm.length + 256 < 2 ^ 24) :
    (errorAnswer server hbhid eteid sid code message rule).len < 2 ^ 24 := by
  have hempty := len_emptyAvp rule
  have htext := hbreach.text
  have hpad := pad4_le (emptyAvp rule).len
  have hsize : AvpHdr.size ⟨281, 0, 0⟩ = 8 := by decide
  have h1 := pad4_le (8 + sid.length)
  have h2 := pad4_le (8 + server.diamid.length)
  have h3 := pad4_le (8 + server.diamrlm.length)
  have h4 := pad4_le (8 + 4)
  have h5 := pad4_le (8 + (pad4 (emptyAvp rule).len + 0))
  have h6 := pad4_le (8 + (message.getD code.name).length)
  simp only [Message.len, errorAnswer, chainLen, Avp.len, Value.bytes, Be.length_octets,
    size_mandatoryHdr, hsize]
  omega

/-- The octets of the answer are read as the answer with the empty AVP itself. -/
theorem reads_errorAnswer {dict : Dictionary} (h : HasSta dict) (gateway : Node) {server : Node}
    (hbhid eteid : UInt32) {der : Der} {sid : Bytes} (hsid : der.sessionId = some sid)
    (hne : sid.isEmpty = false) (hflags : server.answerFlags 268 = 0x40) {code : ErrCode}
    {message : Option Bytes} (hbreach : Breach code message) {rule : Rule}
    (hrule : Defines dict rule.avp rule.basetype)
    (hlen : sid.length + server.diamid.length + server.diamrlm.length + 256 < 2 ^ 24) :
    ∃ buf, bufferize (rescodeSet server (newAnswerFromReq server
        (derMessage gateway hbhid eteid der) false) code message (some (emptyAvp rule))) = .ok buf ∧
      parse dict buf = .ok (errorAnswer server hbhid eteid sid code message rule) := by
  obtain ⟨hencode, hgroup⟩ := encodeAvp_failed rule
  refine ⟨_, bufferize_eq _, ?_⟩
  rw [← parse_encoded (messageWf_errorAnswer h hrule) (len_errorAnswer hbreach hlen),
    rescodeSet_der hsid hne hflags hbreach]
  congr 2
  · simp only [msgHeader, Message.len, errorAnswer, chainLen, hgroup]
  · simp only [errorAnswer, encodeChain_cons, hencode]

theorem isRescued_errorAnswer {server : Node} {hbhid eteid : UInt32} {sid : Bytes} {code : ErrCode}
    {message : Option Bytes} {rule : Rule} (hbreach : Breach code message) :
    isRescued (errorAnswer server hbhid eteid sid code message rule) = true := by
  have hclass := hbreach.permanent
  have hrc : ((errorAnswer server hbhid eteid sid code message rule).avps.find? fun avp =>
      avp.hdr.code = 268 ∧ avp.hdr.hasVendor = false) =
      some (.leaf (mandatoryHdr 268) (.word32 code.value)) := by
    have hcode (code : UInt32) : (mandatoryHdr code).code = code := rfl
    simp [errorAnswer, Avp.hdr, hasVendor_mandatoryHdr, hcode]
  rw [isRescued, hrc]
  show decide (code.value / 1000 ≠ 1 ∧ code.value / 1000 ≠ 2) = true
  rw [hclass]
  decide

theorem dispatch_errorAnswer {gateway server : Node} (happ : gateway.application 5 = true)
    {hbhid eteid : UInt32} {sid : Bytes} {code : ErrCode} {message : Option Bytes} {rule : Rule}
    (hbreach : Breach code message) :
    msgDispatch gateway (errorAnswer server hbhid eteid sid code message rule) = .callbacks := by
  have hrequest : (errorAnswer server hbhid eteid sid code message rule).isRequest = false := by
    show ((0x40 : UInt8) &&& 0x80 != 0) = false
    decide
  have happ' : gateway.application (errorAnswer server hbhid eteid sid code message rule).appl =
    true := happ
  rw [msgDispatch, isRescued_errorAnswer hbreach, hrequest, happ']
  cases parseRules gateway.grammar (errorAnswer server hbhid eteid sid code message rule) with
  | ok u => rfl
  | error pei => rfl

/-! ## The exchange -/

/-- A gateway and a server that handles its requests, with the dictionaries of the
repository: what the exchange uses of them. -/
structure Peers (gateway server : Node) (names : Names) (known : AvpName → Bool) : Prop where
  gatewayDict : HasSta gateway.dict
  serverDict : HasSta server.dict
  asks : ∃ rule ∈ server.grammar.cmd true 268, AsksForAuthApplicationId rule
  rules : ∀ rule ∈ server.grammar.cmd true 268, Defines gateway.dict rule.avp rule.basetype
  answerFlags : server.answerFlags 268 = 0x40
  application : gateway.application 5 = true
  sessionId : ∀ vendor code, names vendor code = .sessionId ↔ vendor = 0 ∧ code = 263
  resultCode : ∀ vendor code, names vendor code = .resultCode ↔ vendor = 0 ∧ code = 268
  known : known .resultCode = true

theorem deaCb_of_sessionMac (known : AvpName → Bool) {msg : List Impl.Avp} {mac : Bytes}
    (h : sessionMac msg = some mac) :
    ∃ dea, deaCb known msg = some dea ∧ dea.macAddr = mac ∧
      dea.resultCode = resultCodeOf known msg := by
  rw [deaCb, h, Option.map_some]
  exact ⟨_, rfl, rfl, rfl⟩

theorem staCallback_errorAnswer {gateway server : Node} {names : Names} {known : AvpName → Bool}
    (h : Peers gateway server names known) (hbhid eteid : UInt32) (mac : Bytes) {code : ErrCode}
    {message : Option Bytes} (hbreach : Breach code message) (rule : Rule) :
    ∃ dea : Dea, staCallback names known
        (errorAnswer server hbhid eteid (sessionIdOf mac) code message rule) =
          some (.dea dea none) ∧ dea.macAddr = mac ∧ dea.resultCode = code.value := by
  have h263 : names 0 263 = .sessionId := (h.sessionId 0 263).2 ⟨rfl, rfl⟩
  have h268 : names 0 268 = .resultCode := (h.resultCode 0 268).2 ⟨rfl, rfl⟩
  have hother (code : UInt32) (hc : code ≠ 268) : names 0 code ≠ .resultCode := fun hn =>
    hc ((h.resultCode 0 code).1 hn).2
  have hrequest : (errorAnswer server hbhid eteid (sessionIdOf mac) code message rule).isRequest =
      false := by
    show ((0x40 : UInt8) &&& 0x80 != 0) = false
    decide
  have hmac : sessionMac (viewAvps names
      (errorAnswer server hbhid eteid (sessionIdOf mac) code message rule).avps) = some mac := by
    simp [sessionMac, fdMsgSearchAvp, errorAnswer, viewAvps, Avp.view, mandatoryHdr, h263,
      Impl.Avp.name, Impl.Avp.os, macOfSessionId_sessionIdOf]
  have hclass := hbreach.permanent
  have hcode : resultCodeOf known (viewAvps names
      (errorAnswer server hbhid eteid (sessionIdOf mac) code message rule).avps) = code.value := by
    have hfind : fdMsgSearchAvp (viewAvps names
        (errorAnswer server hbhid eteid (sessionIdOf mac) code message rule).avps) .resultCode =
        some (.mk .resultCode (some (.u32 code.value)) []) := by
      simp [fdMsgSearchAvp, errorAnswer, viewAvps, Avp.view, mandatoryHdr, h263, h268,
        Impl.Avp.name, hother 264 (by decide), hother 296 (by decide)]
    rw [resultCodeOf, dictSearchAvp, h.known, if_pos rfl, hfind]
    show (if code.value = 3002 then 2001 else code.value) = code.value
    refine if_neg fun h3 => ?_
    rw [h3] at hclass
    exact absurd hclass (by decide)
  obtain ⟨dea, hdea, hmacAddr, hresult⟩ := deaCb_of_sessionMac known hmac
  refine ⟨dea, ?_, hmacAddr, hresult.trans hcode⟩
  rw [staCallback, if_pos ⟨rfl, by rw [hrequest]; rfl⟩, hdea]
  rfl

/-- What the core does with a permanent failure: at most an Access-Reject. -/
theorem rejects {dea : Dea} (h : dea.resultCode / 1000 = 5) (core : TwagCore) (env : Env) :
    (core.onDeaReceived env dea).2 = [] ∨
      ∃ session : Sigma Impl.UeSession,
        (core.onDeaReceived env dea).2 = [TwagCore.answer env session.2 accessReject []] := by
  have hcode (n : UInt32) (hn : n / 1000 ≠ 5) : dea.resultCode ≠ n := fun heq => hn (heq ▸ h)
  rw [TwagCore.onDeaReceived]
  split
  · exact .inl rfl
  split
  · exact .inl rfl
  rw [if_neg (hcode 1001 (by decide)), if_neg (hcode 2001 (by decide))]
  exact .inr ⟨⟨_, _⟩, rfl⟩

/-- Every request of `send_der` is refused by a server that handles it with the rules of
`dict_eap.c`, and the answer makes the gateway reject the user. -/
theorem der_refused {gateway server : Node} {names : Names} {known : AvpName → Bool}
    (h : Peers gateway server names known) {der : Der} {mac : Bytes}
    (hder : der.sessionId = some (sessionIdOf mac)) (hbhid eteid : UInt32)
    (hlen : (derMessage gateway hbhid eteid der).len + server.diamid.length +
      server.diamrlm.length + 256 < 2 ^ 24) :
    ∃ buf reply buf' ans dea,
      bufferize (derMessage gateway hbhid eteid der) = .ok buf ∧
      parse server.dict buf = .ok (derMessage gateway hbhid eteid der) ∧
      msgDispatch server (derMessage gateway hbhid eteid der) = .reply reply ∧
      bufferize reply = .ok buf' ∧ parse gateway.dict buf' = .ok ans ∧
      msgDispatch gateway ans = .callbacks ∧
      staCallback names known ans = some (.dea dea none) ∧ dea.macAddr = mac ∧
      dea.resultCode / 1000 = 5 ∧
      ∀ (core : TwagCore) (env : Env), (core.onDeaReceived env dea).2 = [] ∨
        ∃ session : Sigma Impl.UeSession,
          (core.onDeaReceived env dea).2 = [TwagCore.answer env session.2 accessReject []] := by
  obtain ⟨rule, hrule, hasks⟩ := h.asks
  obtain ⟨pei, hpei, broken, hbroken, hone⟩ := parseRules_der hrule hasks gateway hbhid eteid der
  obtain ⟨havp, hbreach⟩ := checkOneRule_error hone
  have hne : (sessionIdOf mac).isEmpty = false := rfl
  have hsid : (sessionIdOf mac).length ≤ (derMessage gateway hbhid eteid der).len :=
    length_le_der hder
  obtain ⟨buf', hbuf', hparse'⟩ := reads_errorAnswer h.gatewayDict gateway hbhid eteid hder hne
    h.answerFlags hbreach (h.rules broken hbroken) (by omega)
  obtain ⟨dea, hdea, hmac, hcode⟩ := staCallback_errorAnswer h hbhid eteid mac hbreach broken
  have hclass : dea.resultCode / 1000 = 5 := hcode ▸ hbreach.permanent
  refine ⟨_, _, buf', _, dea, bufferize_eq _, parse_encoded (messageWf_der h.serverDict gateway
    hbhid eteid der) (by omega), ?_, hbuf', hparse', dispatch_errorAnswer h.application hbreach,
    hdea, hmac, hclass, rejects hclass⟩
  rw [msgDispatch, hpei, isRequest_der, ← havp]
  rfl

/-! A gateway and a server with a part of the dictionary. -/

def sampleRules : List Rule :=
  [⟨mandatoryHdr 258, .unsigned32, .required, 0, -1, 1⟩,
    ⟨mandatoryHdr 263, .octetString, .fixedHead, 1, -1, 1⟩,
    ⟨mandatoryHdr 462, .octetString, .required, 0, -1, 1⟩]

def sampleNode (host : Bytes) : Node where
  diamid := host
  diamrlm := ascii "epc.mnc001.mcc001.3gppnetwork.org"
  apps := [5]
  noFwd := false
  dict := sampleDictionary
  grammar := ⟨fun _ _ => sampleRules, [], fun _ _ => []⟩
  answerFlags _ := 0x40
  application appl := appl = 5

def sampleNames : Names := fun vendor code =>
  if vendor = 0 ∧ code = 263 then .sessionId
  else if vendor = 0 ∧ code = 268 then .resultCode
  else .other code.toNat

theorem defines_sample {code : UInt32} {basetype : BaseType} (hne : code ≠ 0)
    (h : sampleType code = some basetype) :
    Defines sampleDictionary (mandatoryHdr code) basetype := by
  refine ⟨fun _ => rfl, ⟨basetype, fun _ => true⟩, ?_, rfl, fun _ => rfl⟩
  have hhdr : (mandatoryHdr code).code = code := rfl
  rw [Dictionary.find, if_neg (fun hc => hne hc.1), hasVendor_mandatoryHdr,
    if_neg (by decide), hhdr]
  show (sampleType code).map _ = _
  rw [h]
  rfl

theorem hasSta_sample : HasSta sampleDictionary where
  strings := by
    simp only [List.forall_mem_cons, List.not_mem_nil, false_imp_iff, implies_true, and_true]
    exact ⟨defines_sample (by decide) (by decide), defines_sample (by decide) (by decide),
      defines_sample (by decide) (by decide), defines_sample (by decide) (by decide),
      defines_sample (by decide) (by decide), defines_sample (by decide) (by decide)⟩
  authRequestType := defines_sample (by decide) (by decide)
  resultCode := defines_sample (by decide) (by decide)
  failedAvp := defines_sample (by decide) (by decide)
  errorMessage := ⟨fun _ => rfl, ⟨.octetString, fun _ => true⟩, rfl, rfl, fun _ => rfl⟩
  der := by decide
  dea := by decide

theorem peers_sample (gateway server : Bytes) :
    Peers (sampleNode gateway) (sampleNode server) sampleNames (fun _ => true) where
  gatewayDict := hasSta_sample
  serverDict := hasSta_sample
  asks := ⟨_, .head _, rfl, rfl, rfl⟩
  rules := by
    show ∀ rule ∈ sampleRules, _
    simp only [sampleRules, List.forall_mem_cons, List.not_mem_nil, false_imp_iff, implies_true,
      and_true]
    exact ⟨defines_sample (by decide) (by decide), defines_sample (by decide) (by decide),
      defines_sample (by decide) (by decide)⟩
  answerFlags := rfl
  application := rfl
  sessionId vendor code := by
    rw [sampleNames]
    split
    · rename_i h
      exact ⟨fun _ => h, fun _ => rfl⟩
    · rename_i h
      refine ⟨fun hn => ?_, fun hn => absurd hn h⟩
      split at hn <;> cases hn
  resultCode vendor code := by
    rw [sampleNames]
    split
    · rename_i h
      refine ⟨fun hn => (nomatch hn), fun hn => ?_⟩
      rw [h.2] at hn
      exact absurd hn.2 (by decide)
    · split
      · rename_i h
        exact ⟨fun _ => h, fun _ => rfl⟩
      · rename_i h
        exact ⟨fun hn => (nomatch hn), fun hn => absurd hn h⟩
  known := rfl

def sampleDerMessage : Der where
  sessionId := some (sessionIdOf (ascii "00:11:22:33:44:55"))
  destinationRealm := some (ascii "epc.mnc001.mcc001.3gppnetwork.org")
  authRequestType := some 1
  userName := none
  eapPayload := some [2, 1, 0, 4]

theorem der_refused_sample :
    ∃ reply ans dea,
      msgDispatch (sampleNode (ascii "aaa")) (derMessage (sampleNode (ascii "twag")) 1 1
        sampleDerMessage) = .reply reply ∧
      msgDispatch (sampleNode (ascii "twag")) ans = .callbacks ∧
      staCallback sampleNames (fun _ => true) ans = some (.dea dea none) ∧
      dea.macAddr = ascii "00:11:22:33:44:55" := by
  obtain ⟨-, reply, -, ans, dea, -, -, hreply, -, -, hans, hdea, hmac, -⟩ :=
    der_refused (peers_sample (ascii "twag") (ascii "aaa"))
      (show sampleDerMessage.sessionId = some (sessionIdOf (ascii "00:11:22:33:44:55")) from rfl)
      1 1 (by decide)
  exact ⟨reply, ans, dea, hreply, hans, hdea, hmac⟩

/-! ## Requests that are not routed -/

theorem routingValue_ne_toLocal (node : Node) (src : Source) :
    routingValue node src ≠ .error .toLocal := by
  rw [routingValue]
  split <;> exact fun h => (nomatch h)

theorem scanAvp_ne_toLocal (node : Node) (st : Scan) (src : Source) :
    scanAvp node st src ≠ .error .toLocal := by
  have hvalue := routingValue_ne_toLocal node src
  intro h
  rw [scanAvp] at h
  split at h
  · cases h
  cases hv : routingValue node src with
  | error route =>
    have hroute : route ≠ .toLocal := fun heq => hvalue (heq ▸ hv)
    rw [hv] at h
    repeat' split at h
    all_goals first | exact hroute (Except.error.inj h) | cases h
  | ok value =>
    rw [hv] at h
    split at h
    · cases h
    split at h
    · cases h
    split at h
    · cases h
    split at h
    · change (if almostCaseEq value node.diamid then _ else _) = _ at h
      split at h <;> cases h
    · cases h

theorem scanAvps_ne_toLocal (node : Node) (st : Scan) (srcs : List Source) :
    scanAvps node st srcs ≠ .error .toLocal := by
  induction srcs generalizing st with
  | nil => exact fun h => (nomatch h)
  | cons src srcs ih =>
    rw [scanAvps]
    cases hscan : scanAvp node st src with
    | error route =>
      intro h
      cases h
      exact scanAvp_ne_toLocal node st src hscan
    | ok st' =>
      show (if _ then _ else _) ≠ _
      split
      · exact fun h => (nomatch h)
      · exact ih st'

/-- A request is handled at a node only for an application that the node has registered. -/
theorem appCheck_of_toLocal {node : Node} {msg : Message} {srcs : List Source}
    (h : msgRtIn node msg srcs = .toLocal) : appCheck node.apps msg.appl = true := by
  rw [msgRtIn] at h
  split at h
  · cases h
  split at h
  · cases h
  dsimp only at h
  split at h
  · rename_i route hscan
    exact absurd (h ▸ hscan) (scanAvps_ne_toLocal node _ srcs)
  split at h
  · cases h
  split at h
  · split at h
    · assumption
    · cases h
  split at h
  · split at h <;> cases h
  split at h
  · cases h
  split at h
  · assumption
  · split at h <;> cases h

/-- Session teardown does not pass freeDiameter. A request to end a session that the
gateway sends is refused by every node, and a node without applications of its own,
such as the gateway, gives no request to the callbacks. -/
theorem teardown_unrouted {gateway : Node} (happs : gateway.apps = []) :
    (∀ (node : Node) (hbhid eteid : UInt32) (str : Str) (srcs : List Source), ∃ text,
      msgRtIn node (strMessage gateway hbhid eteid str) srcs =
        .returnError .DIAMETER_APPLICATION_UNSUPPORTED text) ∧
    ∀ (msg : Message) (srcs : List Source), msgRtIn gateway msg srcs ≠ .toLocal := by
  refine ⟨fun node hbhid eteid str srcs => ?_, fun msg srcs h => ?_⟩
  · have herror : (strMessage gateway hbhid eteid str).isError = false := by
      show ((0xc0 : UInt8) &&& 0x20 != 0) = false
      decide
    rw [msgRtIn, herror, if_neg (by decide), if_pos (.inl rfl)]
    exact ⟨_, rfl⟩
  · have hcheck := appCheck_of_toLocal h
    rw [happs, appCheck] at hcheck
    cases hcheck

theorem teardown_unrouted_sample :
    { sampleNode (ascii "twag") with apps := [] }.apps = [] ∧
      ∀ (msg : Message) (srcs : List Source),
        msgRtIn { sampleNode (ascii "twag") with apps := [] } msg srcs ≠ .toLocal :=
  ⟨rfl, (teardown_unrouted rfl).2⟩

end Twag.Proof.Diameter

import Twag.Impl.Diameter

/-!
# Diameter messages, written and read

* `written_read`: a message whose length fits into three octets is written without
  an error into exactly the buffer that was allocated, and reading that buffer gives
  the message back if and only if it is well formed (`MessageWf`);
* `read_written`: a message that was read from a buffer, whatever its padding, is
  well formed and as long as the buffer with its padding, so that it can be written,
  and if it is not too long it is read again as the same message.

`encodeAvp` is what `bufferize_avp` writes where it succeeds. The reader is
stepped through it one AVP at a time: `readHdr_avpHeader`, `nextAvp_encodeAvp`,
`parsebufList_encodeChain`.
-/

namespace Twag.Proof.Diameter

open Twag.Impl (Bytes)
open Twag.Impl.Diameter

/-! ## Messages that can be read back -/

/-- The vendor is 0 where it is not written. -/
def HdrWf (hdr : AvpHdr) : Prop := hdr.hasVendor = false → hdr.vendor = 0

/-- The member of the union that the AVP's type has set. -/
def Fits : Value → BaseType → Prop
  | .os _, t => t = .octetString
  | .word32 _, t => t.size = 4
  | .word64 _, t => t.size = 8

mutual

/-- What `parsedict_do_avp` makes of an AVP in the dictionary, or of one it may ignore. -/
def AvpWf (dict : Dictionary) (mandatory : Bool) : Avp → Prop
  | .leaf hdr value => HdrWf hdr ∧ ∃ model, dict.find hdr = some model ∧
      Fits value model.basetype ∧ model.typeCheck value = true
  | .grouped hdr children => HdrWf hdr ∧
      (∃ model, dict.find hdr = some model ∧ model.basetype = .grouped) ∧
      ChainWf dict (mandatory && hdr.isMandatory) children
  | .raw hdr _ => HdrWf hdr ∧ dict.find hdr = none ∧ (mandatory && hdr.isMandatory) = false

def ChainWf (dict : Dictionary) (mandatory : Bool) : List Avp → Prop
  | [] => True
  | avp :: avps => AvpWf dict mandatory avp ∧ ChainWf dict mandatory avps

end

/-- The command is known, and its code has three octets. -/
structure MessageWf (dict : Dictionary) (msg : Message) : Prop where
  code : msg.code.toNat < 2 ^ 24
  cmd : dict.findCmd msg.flags msg.code = true
  avps : ChainWf dict true msg.avps

/-! ## What is written -/

mutual

/-- The data of an AVP. -/
def bodyOf : Avp → Bytes
  | .leaf _ value => value.bytes
  | .grouped _ children => encodeChain children
  | .raw _ data => data

/-- AVPs one after the other, each with its padding. -/
def encodeChain : List Avp → Bytes
  | [] => []
  | avp :: avps => avpHeader avp.hdr avp.len ++ padded (bodyOf avp) ++ encodeChain avps

end

def encodeAvp (avp : Avp) : Bytes := avpHeader avp.hdr avp.len ++ padded (bodyOf avp)

theorem encodeChain_cons (avp : Avp) (avps : List Avp) :
    encodeChain (avp :: avps) = encodeAvp avp ++ encodeChain avps := by
  rw [encodeChain, encodeAvp]

theorem dvd_size (hdr : AvpHdr) : 4 ∣ hdr.size := by
  unfold AvpHdr.size
  split <;> decide

@[simp] theorem length_avpHeader (hdr : AvpHdr) (len : Nat) :
    (avpHeader hdr len).length = hdr.size := by
  unfold avpHeader AvpHdr.size
  split <;> simp

@[simp] theorem length_padded (data : Bytes) : (padded data).length = pad4 data.length := by
  have := le_pad4 data.length
  simp only [padded, List.length_append, List.length_replicate]
  omega

theorem dvd_chainLen (avps : List Avp) : 4 ∣ chainLen avps := by
  induction avps with
  | nil => exact Nat.dvd_zero 4
  | cons avp avps ih =>
    rw [chainLen]
    exact Nat.dvd_add (dvd_pad4 _) ih

mutual

theorem len_eq (avp : Avp) : avp.len = avp.hdr.size + (bodyOf avp).length := by
  cases avp with
  | leaf hdr value => rw [Avp.len, Avp.hdr, bodyOf]
  | grouped hdr children => rw [Avp.len, Avp.hdr, bodyOf, length_encodeChain children]
  | raw hdr data => rw [Avp.len, Avp.hdr, bodyOf]

theorem length_encodeChain (avps : List Avp) : (encodeChain avps).length = chainLen avps := by
  match avps with
  | [] => rfl
  | avp :: avps =>
    rw [encodeChain, List.length_append, List.length_append, length_avpHeader, length_padded,
      length_encodeChain avps, chainLen, len_eq avp, pad4_add (dvd_size _)]

end

theorem length_encodeAvp (avp : Avp) : (encodeAvp avp).length = pad4 avp.len := by
  rw [encodeAvp, List.length_append, length_avpHeader, length_padded, len_eq,
    pad4_add (dvd_size _)]

/-- The data of a grouped AVP needs no padding. -/
theorem padded_encodeChain (avps : List Avp) : padded (encodeChain avps) = encodeChain avps := by
  rw [padded, length_encodeChain, pad4_of_dvd (dvd_chainLen avps), Nat.sub_self,
    List.replicate_zero, List.append_nil]

mutual

/-- `bufferize_avp` succeeds where the AVP and its padding have room. -/
theorem bufferizeAvp_eq (room : Nat) (avp : Avp) (h : pad4 avp.len ≤ room) :
    bufferizeAvp room avp = .ok (encodeAvp avp) := by
  have hroom : ¬ room < avp.len := Nat.not_lt.mpr (Nat.le_trans (le_pad4 _) h)
  match avp with
  | .leaf hdr value => rw [bufferizeAvp, if_neg hroom, encodeAvp, Avp.hdr, bodyOf]
  | .raw hdr data => rw [bufferizeAvp, if_neg hroom, encodeAvp, Avp.hdr, bodyOf]
  | .grouped hdr children =>
    have hlen : Avp.len (.grouped hdr children) = hdr.size + chainLen children := by rw [Avp.len]
    have hbody : chainLen children ≤ room - hdr.size := by
      rw [hlen, pad4_add (dvd_size _)] at h
      have := le_pad4 (chainLen children)
      omega
    rw [bufferizeAvp, if_neg hroom]
    simp only [bufferizeChain_eq (room - hdr.size) children hbody]
    rw [encodeAvp, Avp.hdr, bodyOf, hlen, padded_encodeChain]
    rfl

theorem bufferizeChain_eq (room : Nat) (avps : List Avp) (h : chainLen avps ≤ room) :
    bufferizeChain room avps = .ok (encodeChain avps) := by
  match avps with
  | [] => rw [bufferizeChain, encodeChain]
  | avp :: avps =>
    rw [chainLen] at h
    have hfirst := bufferizeAvp_eq room avp (by omega)
    have hrest := bufferizeChain_eq (room - (encodeAvp avp).length) avps
      (by rw [length_encodeAvp]; omega)
    rw [bufferizeChain, hfirst]
    show (bufferizeChain (room - (encodeAvp avp).length) avps >>= fun rest =>
      .ok (encodeAvp avp ++ rest)) = _
    rw [hrest, encodeChain_cons]
    rfl

end

theorem length_msgHeader (msg : Message) : (msgHeader msg).length = 20 := by
  simp only [msgHeader, List.length_append, List.length_cons, Be.length_octets]

theorem length_encoded (msg : Message) :
    (msgHeader msg ++ encodeChain msg.avps).length = msg.len := by
  rw [List.length_append, length_msgHeader, length_encodeChain, Message.len]

/-- `ENOSPC` is not returned, and the assertion holds: the buffer is as long as
what is written. -/
theorem bufferize_eq (msg : Message) :
    bufferize msg = .ok (msgHeader msg ++ encodeChain msg.avps) := by
  have hroom : chainLen msg.avps ≤ msg.len - 20 := by
    rw [Message.len]
    omega
  rw [bufferize, bufferizeChain_eq _ _ hroom]
  exact if_pos (length_encoded msg)

/-! ## Reading what was written -/

/-- The octets of a number of four octets, one by one. -/
theorem octets_four (n : Nat) : ∃ a b c d, Be.octets 4 n = [a, b, c, d] := ⟨_, _, _, _, rfl⟩

theorem octets_three (n : Nat) : ∃ a b c, Be.octets 3 n = [a, b, c] := ⟨_, _, _, rfl⟩

theorem ofNat_octets_four (n : UInt32) : UInt32.ofNat (Be.number (Be.octets 4 n.toNat)) = n := by
  rw [Be.number_octets_of_lt (Nat.lt_of_lt_of_eq n.toNat_lt (by decide)), UInt32.ofNat_toNat]

theorem ofNat_octets_eight (n : UInt64) : UInt64.ofNat (Be.number (Be.octets 8 n.toNat)) = n := by
  rw [Be.number_octets_of_lt (Nat.lt_of_lt_of_eq n.toNat_lt (by decide)), UInt64.ofNat_toNat]

theorem readHdr_avpHeader {hdr : AvpHdr} {len : Nat} (hwf : HdrWf hdr) (hlen : len < 2 ^ 24)
    (rest : Bytes) : readHdr (avpHeader hdr len ++ rest) = .ok (hdr, len, rest) := by
  have hcode := ofNat_octets_four hdr.code
  have hlen' := Be.number_octets_of_lt (k := 3) (Nat.lt_of_lt_of_eq hlen (by decide))
  have hvendor := ofNat_octets_four hdr.vendor
  obtain ⟨c₀, c₁, c₂, c₃, hc⟩ := octets_four hdr.code.toNat
  obtain ⟨l₀, l₁, l₂, hl⟩ := octets_three len
  obtain ⟨v₀, v₁, v₂, v₃, hv⟩ := octets_four hdr.vendor.toNat
  rw [hc] at hcode
  rw [hl] at hlen'
  rw [hv] at hvendor
  obtain ⟨code, flags, vendor⟩ := hdr
  cases hb : AvpHdr.hasVendor ⟨code, flags, vendor⟩ with
  | false =>
    have hz : vendor = 0 := hwf hb
    rw [AvpHdr.hasVendor] at hb
    simp only [avpHeader, hc, hl, AvpHdr.hasVendor, hb, Bool.false_eq_true, if_false,
      List.cons_append, List.nil_append, List.append_nil, readHdr, hcode, hlen', hz]
  | true =>
    rw [AvpHdr.hasVendor] at hb
    simp only [avpHeader, hc, hl, hv, AvpHdr.hasVendor, hb, if_true, List.cons_append,
      List.nil_append, readHdr, hcode, hlen', hvendor]

/-- The header and data that the reader finds of an AVP. -/
def sourceOf (avp : Avp) : Source := ⟨avp.hdr, bodyOf avp⟩

theorem nextAvp_encodeAvp {avp : Avp} (hwf : HdrWf avp.hdr) (hlen : avp.len < 2 ^ 24)
    (rest : Bytes) : nextAvp (encodeAvp avp ++ rest) = .ok (sourceOf avp, rest) := by
  have hsize := len_eq avp
  have hbody : avp.len - avp.hdr.size = (bodyOf avp).length := by omega
  have hpad := le_pad4 (bodyOf avp).length
  have hroom : (padded (bodyOf avp) ++ rest).length = pad4 (bodyOf avp).length + rest.length := by
    rw [List.length_append, length_padded]
  rw [nextAvp, encodeAvp, List.append_assoc, readHdr_avpHeader hwf hlen]
  simp only [hbody]
  rw [if_neg (by omega), if_neg (by omega)]
  have htake : (padded (bodyOf avp) ++ rest).take (bodyOf avp).length = bodyOf avp := by
    rw [padded, List.append_assoc, List.take_left]
  have hdrop : (padded (bodyOf avp) ++ rest).drop (pad4 (bodyOf avp).length) = rest := by
    rw [← length_padded, List.drop_left]
  rw [htake, hdrop, sourceOf]

theorem encodeAvp_ne_nil (avp : Avp) (rest : Bytes) :
    (encodeAvp avp ++ rest).isEmpty = false := by
  rw [List.isEmpty_eq_false_iff, ← List.length_pos_iff, List.length_append, length_encodeAvp]
  have hsize := avp.hdr.size_ge
  have hpad := le_pad4 avp.len
  have hlen := len_eq avp
  omega

theorem hdrWf_of_avpWf {dict : Dictionary} {mandatory : Bool} {avp : Avp}
    (h : AvpWf dict mandatory avp) : HdrWf avp.hdr := by
  cases avp with
  | leaf hdr value => rw [AvpWf] at h; exact h.1
  | grouped hdr children => rw [AvpWf] at h; exact h.1
  | raw hdr data => rw [AvpWf] at h; exact h.1

theorem parsebufList_encodeChain {dict : Dictionary} {mandatory : Bool} {avps : List Avp}
    (hwf : ChainWf dict mandatory avps) (hlen : chainLen avps < 2 ^ 24) :
    parsebufList (encodeChain avps) = .ok (avps.map sourceOf) := by
  induction avps with
  | nil =>
    rw [encodeChain, parsebufList]
    rfl
  | cons avp avps ih =>
    rw [ChainWf] at hwf
    rw [chainLen] at hlen
    have hpad := le_pad4 avp.len
    have hnext := nextAvp_encodeAvp (hdrWf_of_avpWf hwf.1) (by omega) (encodeChain avps)
    have hrest := ih hwf.2 (by omega)
    rw [parsebufList, encodeChain_cons, encodeAvp_ne_nil, if_neg (by decide)]
    split
    · rename_i e he
      rw [hnext] at he
      cases he
    · rename_i src rest he
      rw [hnext] at he
      cases he
      rw [hrest]
      rfl

theorem readValue_bytes {value : Value} {basetype : BaseType} (h : Fits value basetype) :
    readValue basetype value.bytes = value := by
  cases value with
  | os data =>
    rw [show basetype = .octetString from h]
    rfl
  | word32 n =>
    have hn := ofNat_octets_four n
    cases basetype <;> first | exact congrArg Value.word32 hn | cases h
  | word64 n =>
    have hn := ofNat_octets_eight n
    cases basetype <;> first | exact congrArg Value.word64 hn | cases h

/-- A value has the size that its type asks for. -/
theorem length_bytes_of_fits {value : Value} {basetype : BaseType} (h : Fits value basetype) :
    ¬ (basetype.size ≠ 0 ∧ value.bytes.length ≠ basetype.size) := by
  cases value with
  | os data =>
    rw [show basetype = .octetString from h]
    exact fun hc => hc.1 rfl
  | word32 n =>
    exact fun hc => hc.2 (by rw [show basetype.size = 4 from h]; exact Be.length_octets _ _)
  | word64 n =>
    exact fun hc => hc.2 (by rw [show basetype.size = 8 from h]; exact Be.length_octets _ _)

theorem not_grouped_of_fits {value : Value} {basetype : BaseType} (h : Fits value basetype) :
    basetype ≠ .grouped := by
  rintro rfl
  cases value <;> cases h

mutual

theorem parsedictAvp_sourceOf (dict : Dictionary) (mandatory : Bool) (avp : Avp)
    (hwf : AvpWf dict mandatory avp) (hlen : avp.len < 2 ^ 24) :
    parsedictAvp dict mandatory (sourceOf avp) = .ok avp := by
  match avp with
  | .leaf hdr value =>
    rw [AvpWf] at hwf
    obtain ⟨-, model, hfind, hfits, hcheck⟩ := hwf
    have hbody : bodyOf (.leaf hdr value) = value.bytes := by rw [bodyOf]
    rw [parsedictAvp, sourceOf, Avp.hdr, hbody]
    simp only [hfind]
    rw [if_neg (length_bytes_of_fits hfits), if_neg (not_grouped_of_fits hfits),
      readValue_bytes hfits, if_pos hcheck]
  | .raw hdr data =>
    rw [AvpWf] at hwf
    obtain ⟨-, hfind, hm⟩ := hwf
    have hbody : bodyOf (.raw hdr data) = data := by rw [bodyOf]
    rw [parsedictAvp, sourceOf, Avp.hdr, hbody]
    simp only [hfind, hm, Bool.false_eq_true, if_false]
  | .grouped hdr children =>
    rw [AvpWf] at hwf
    obtain ⟨-, ⟨model, hfind, htype⟩, hchildren⟩ := hwf
    have hbody : bodyOf (.grouped hdr children) = encodeChain children := by rw [bodyOf]
    have hchain : chainLen children < 2 ^ 24 := by
      rw [Avp.len] at hlen
      omega
    have hparse := parsebufList_encodeChain hchildren hchain
    have hrec := parsedictChain_sourceOf dict _ children hchildren hchain
    rw [parsedictAvp, sourceOf, Avp.hdr, hbody]
    simp only [hfind, htype]
    rw [if_neg (fun hc => hc.1 rfl), if_pos trivial]
    split
    · rename_i e he
      rw [hparse] at he
      cases he
    · rename_i srcs he
      rw [hparse] at he
      cases he
      rw [hrec]
      rfl

theorem parsedictChain_sourceOf (dict : Dictionary) (mandatory : Bool) (avps : List Avp)
    (hwf : ChainWf dict mandatory avps) (hlen : chainLen avps < 2 ^ 24) :
    parsedictChain dict mandatory (avps.map sourceOf) = .ok avps := by
  match avps with
  | [] =>
    rw [List.map_nil, parsedictChain]
  | avp :: avps =>
    rw [ChainWf] at hwf
    rw [chainLen] at hlen
    have hpad := le_pad4 avp.len
    rw [List.map_cons, parsedictChain, parsedictAvp_sourceOf dict mandatory avp hwf.1 (by omega)]
    show (parsedictChain dict mandatory (avps.map sourceOf) >>= fun rest => .ok (avp :: rest)) = _
    rw [parsedictChain_sourceOf dict mandatory avps hwf.2 (by omega)]
    rfl

end

theorem parseBuffer_msgHeader {msg : Message} (hlen : msg.len < 2 ^ 24)
    (hcode : msg.code.toNat < 2 ^ 24) {body : Bytes} (hbody : 20 + body.length = msg.len) :
    parseBuffer (msgHeader msg ++ body) =
      (parsebufList body).map fun avps => ({ msg with avps := [] }, avps) := by
  have hlength : (msgHeader msg ++ body).length = msg.len := by
    rw [List.length_append, length_msgHeader, hbody]
  have hl' := Be.number_octets_of_lt (k := 3) (Nat.lt_of_lt_of_eq hlen (by decide))
  have hc' := Be.number_octets_of_lt (k := 3) (Nat.lt_of_lt_of_eq hcode (by decide))
  have ha' := ofNat_octets_four msg.appl
  have hh' := ofNat_octets_four msg.hbhid
  have he' := ofNat_octets_four msg.eteid
  obtain ⟨l₀, l₁, l₂, hl⟩ := octets_three msg.len
  obtain ⟨c₀, c₁, c₂, hc⟩ := octets_three msg.code.toNat
  obtain ⟨a₀, a₁, a₂, a₃, ha⟩ := octets_four msg.appl.toNat
  obtain ⟨h₀, h₁, h₂, h₃, hh⟩ := octets_four msg.hbhid.toNat
  obtain ⟨e₀, e₁, e₂, e₃, he⟩ := octets_four msg.eteid.toNat
  rw [hl] at hl'
  rw [hc] at hc'
  rw [ha] at ha'
  rw [hh] at hh'
  rw [he] at he'
  simp only [msgHeader, hl, hc, ha, hh, he, List.cons_append, List.nil_append] at hlength ⊢
  rw [parseBuffer, hlength]
  simp only [hl', hc']
  rw [if_neg (by omega), if_neg (by decide), if_neg (by omega), if_neg (by omega)]
  simp only [List.drop_succ_cons, List.drop_zero, List.take_succ_cons, List.take_zero, ha', hh',
    he', UInt32.ofNat_toNat]

theorem parse_encoded {dict : Dictionary} {msg : Message} (h : MessageWf dict msg)
    (hlen : msg.len < 2 ^ 24) : parse dict (msgHeader msg ++ encodeChain msg.avps) = .ok msg := by
  have hbody : 20 + (encodeChain msg.avps).length = msg.len := by
    rw [length_encodeChain, Message.len]
  have hchain : chainLen msg.avps < 2 ^ 24 := by
    rw [Message.len] at hlen
    omega
  rw [parse, parseBuffer_msgHeader hlen h.code hbody, parsebufList_encodeChain h.avps hchain]
  show (if !dict.findCmd msg.flags msg.code then _ else _) = _
  rw [h.cmd, parsedictChain_sourceOf dict true msg.avps h.avps hchain]
  rfl

/-! ## What was read can be written -/

theorem hdrWf_readHdr {buf : Bytes} {hdr : AvpHdr} {len : Nat} {rest : Bytes}
    (h : readHdr buf = .ok (hdr, len, rest)) : HdrWf hdr := by
  rw [readHdr.eq_def] at h
  split at h <;> [skip; cases h]
  dsimp only at h
  split at h
  · rename_i hv
    split at h <;> [skip; cases h]
    simp only [Except.ok.injEq, Prod.mk.injEq] at h
    obtain ⟨rfl, -, -⟩ := h
    intro hb
    rw [AvpHdr.hasVendor] at hv hb
    exact absurd (hv.symm.trans hb) (by decide)
  · simp only [Except.ok.injEq, Prod.mk.injEq] at h
    obtain ⟨rfl, -, -⟩ := h
    exact fun _ => rfl

/-- The room of an AVP in a buffer, with its padding. -/
def Source.room (src : Source) : Nat := pad4 (src.hdr.size + src.data.length)

theorem nextAvp_ok {buf : Bytes} {src : Source} {rest : Bytes} (h : nextAvp buf = .ok (src, rest)) :
    HdrWf src.hdr ∧ Source.room src + pad4 rest.length = pad4 buf.length := by
  rw [nextAvp] at h
  split at h
  · cases h
  rename_i hdr len body hhdr
  split at h
  · cases h
  rename_i hsize
  split at h
  · cases h
  rename_i hdata
  cases h
  refine ⟨hdrWf_readHdr hhdr, ?_⟩
  have hbuf := length_readHdr hhdr
  have hfits : len - hdr.size ≤ body.length := by omega
  have htake : (body.take (len - hdr.size)).length = len - hdr.size := by
    rw [List.length_take, Nat.min_eq_left hfits]
  have hdvd := dvd_size hdr
  show pad4 (hdr.size + (body.take _).length) + pad4 (body.drop _).length = _
  rw [htake, List.length_drop, ← hbuf, Nat.add_comm body.length, pad4_add hdvd, pad4_add hdvd]
  -- the last AVP of a buffer may be without its padding
  generalize len - hdr.size = n at hfits ⊢
  unfold pad4
  omega

theorem parsebufList_ok {buf : Bytes} {srcs : List Source} (h : parsebufList buf = .ok srcs) :
    (∀ src ∈ srcs, HdrWf src.hdr) ∧ (srcs.map Source.room).sum = pad4 buf.length := by
  induction hn : buf.length using Nat.strongRecOn generalizing buf srcs with
  | _ n ih =>
    rw [parsebufList] at h
    split at h
    · rename_i hempty
      cases h
      rw [List.isEmpty_iff] at hempty
      subst hempty
      subst hn
      exact ⟨fun src hsrc => absurd hsrc List.not_mem_nil, rfl⟩
    split at h
    · cases h
    · rename_i src rest hnext
      obtain ⟨hhdr, hroom⟩ := nextAvp_ok hnext
      have hlen := length_nextAvp hnext
      cases hrest : parsebufList rest with
      | error e => rw [hrest] at h; cases h
      | ok srcs' =>
        rw [hrest] at h
        cases h
        obtain ⟨hall, hsum⟩ := ih rest.length (by omega) hrest rfl
        refine ⟨List.forall_mem_cons.2 ⟨hhdr, hall⟩, ?_⟩
        rw [List.map_cons, List.sum_cons, hsum, hroom, hn]

theorem fits_readValue {basetype : BaseType} (hg : basetype ≠ .grouped) (data : Bytes) :
    Fits (readValue basetype data) basetype := by
  cases basetype <;> first | exact absurd rfl hg | rfl

theorem length_readValue {basetype : BaseType} {data : Bytes}
    (h : ¬ (basetype.size ≠ 0 ∧ data.length ≠ basetype.size)) :
    (readValue basetype data).bytes.length = data.length := by
  have hsize : basetype.size = 0 ∨ data.length = basetype.size := by
    by_cases h0 : basetype.size = 0
    · exact .inl h0
    · exact .inr (not_not.1 fun hne => h ⟨h0, hne⟩)
  cases basetype <;>
    first | rfl | exact (Be.length_octets _ _).trans (hsize.resolve_left (by decide)).symm

/-- An AVP that was looked up has the room of its source, whatever the padding inside;
`ih` is for the children. -/
theorem parsedictAvp_ok {dict : Dictionary} {mandatory : Bool} {src : Source} {avp : Avp}
    (ih : ∀ (srcs : List Source) (mandatory : Bool) (avps : List Avp),
      sourceSize srcs ≤ src.data.length → (∀ src ∈ srcs, HdrWf src.hdr) →
      parsedictChain dict mandatory srcs = .ok avps →
      ChainWf dict mandatory avps ∧ chainLen avps = (srcs.map Source.room).sum)
    (hhdr : HdrWf src.hdr) (h : parsedictAvp dict mandatory src = .ok avp) :
    AvpWf dict mandatory avp ∧ pad4 avp.len = Source.room src := by
  rw [parsedictAvp] at h
  split at h
  · rename_i hfind
    split at h
    · cases h
    rename_i hm
    cases h
    rw [AvpWf, Avp.len]
    exact ⟨⟨hhdr, hfind, Bool.eq_false_of_not_eq_true hm⟩, rfl⟩
  rename_i model hfind
  split at h
  · cases h
  rename_i hsize
  split at h
  · rename_i hg
    split at h
    · cases h
    rename_i children hparse
    obtain ⟨hall, hsum⟩ := parsebufList_ok hparse
    cases hc : parsedictChain dict (mandatory && src.hdr.isMandatory) children with
    | error e => rw [hc] at h; cases h
    | ok avps =>
      rw [hc] at h
      cases h
      obtain ⟨hwf, hlen⟩ := ih children _ avps (sourceSize_le hparse) hall hc
      rw [AvpWf, Avp.len, hlen, hsum, Source.room, pad4_add (dvd_size _), pad4_add (dvd_size _),
        pad4_pad4]
      exact ⟨⟨hhdr, ⟨model, hfind, hg⟩, hwf⟩, rfl⟩
  · rename_i hg
    dsimp only at h
    split at h <;> [skip; cases h]
    rename_i hcheck
    cases h
    rw [AvpWf, Avp.len, length_readValue hsize]
    exact ⟨⟨hhdr, model, hfind, fits_readValue hg _, hcheck⟩, rfl⟩

theorem parsedictChain_ok {dict : Dictionary} (srcs : List Source) (mandatory : Bool)
    (avps : List Avp) (hhdr : ∀ src ∈ srcs, HdrWf src.hdr)
    (h : parsedictChain dict mandatory srcs = .ok avps) :
    ChainWf dict mandatory avps ∧ chainLen avps = (srcs.map Source.room).sum := by
  -- the children of the first AVP and the AVPs behind it both need less room
  induction hn : sourceSize srcs using Nat.strongRecOn generalizing srcs mandatory avps with
  | _ n ih =>
    cases srcs with
    | nil =>
      rw [parsedictChain] at h
      cases h
      rw [ChainWf, chainLen]
      exact ⟨trivial, rfl⟩
    | cons src srcs =>
      have hsize : src.data.length + 8 + sourceSize srcs = n := by
        rw [← hn, sourceSize, sourceSize, List.map_cons, List.sum_cons]
      rw [parsedictChain] at h
      cases hfirst : parsedictAvp dict mandatory src with
      | error e => rw [hfirst] at h; cases h
      | ok first =>
        cases hrest : parsedictChain dict mandatory srcs with
        | error e => rw [hfirst, hrest] at h; cases h
        | ok rest =>
          rw [hfirst, hrest] at h
          cases h
          obtain ⟨hsrc, hsrcs⟩ := List.forall_mem_cons.1 hhdr
          obtain ⟨hwf, hlen⟩ := parsedictAvp_ok
            (fun srcs' m avps' hle hall hok => ih _ (by omega) srcs' m avps' hall hok rfl) hsrc
            hfirst
          obtain ⟨hwfs, hlens⟩ := ih _ (by omega) srcs mandatory rest hsrcs hrest rfl
          rw [ChainWf, chainLen, hlen, hlens, List.map_cons, List.sum_cons]
          exact ⟨⟨hwf, hwfs⟩, rfl⟩

theorem parseBuffer_ok {buf : Bytes} {msg : Message} {srcs : List Source}
    (h : parseBuffer buf = .ok (msg, srcs)) :
    msg.code.toNat < 2 ^ 24 ∧ 20 ≤ buf.length ∧ parsebufList (buf.drop 20) = .ok srcs := by
  rw [parseBuffer.eq_def] at h
  split at h
  · cases h
  rename_i hlen
  split at h <;> [skip; cases h]
  rename_i version l₀ l₁ l₂ flags c₀ c₁ c₂ rest
  dsimp only at h
  split at h
  · cases h
  split at h
  · cases h
  split at h
  · cases h
  cases hlist : parsebufList (rest.drop 12) with
  | error e => rw [hlist] at h; cases h
  | ok avps =>
    rw [hlist] at h
    simp only [Except.map, Except.ok.injEq, Prod.mk.injEq] at h
    obtain ⟨rfl, rfl⟩ := h
    have hcode : Be.number [c₀, c₁, c₂] < 2 ^ 24 := Nat.lt_of_lt_of_eq (Be.number_lt _) (by simp)
    refine ⟨?_, by omega, hlist⟩
    show (UInt32.ofNat _).toNat < _
    rw [UInt32.toNat_ofNat']
    exact Nat.lt_of_le_of_lt (Nat.mod_le _ _) hcode

/-- A message that is accepted is well formed, and has the length of its buffer up to the
padding of the last AVP. -/
theorem messageWf_of_parse {dict : Dictionary} {buf : Bytes} {msg : Message}
    (h : parse dict buf = .ok msg) : MessageWf dict msg ∧ msg.len = pad4 buf.length := by
  cases hbuf : parseBuffer buf with
  | error e => rw [parse, hbuf] at h; cases h
  | ok p =>
    obtain ⟨hdr, srcs⟩ := p
    obtain ⟨hcode, hge, hlist⟩ := parseBuffer_ok hbuf
    obtain ⟨hall, hsum⟩ := parsebufList_ok hlist
    rw [parse, hbuf] at h
    change (if !dict.findCmd hdr.flags hdr.code then _ else _) = _ at h
    split at h
    · cases h
    rename_i hcmd
    cases hchain : parsedictChain dict true srcs with
    | error e => rw [hchain] at h; cases h
    | ok avps =>
      rw [hchain] at h
      cases h
      obtain ⟨hwf, hroom⟩ := parsedictChain_ok srcs true avps hall hchain
      refine ⟨⟨hcode, by simpa using hcmd, hwf⟩, ?_⟩
      rw [Message.len, hroom, hsum, List.length_drop, ← pad4_add ⟨5, rfl⟩]
      congr 1
      omega

/-! ## Both ways -/

/-- A message that fits is written into the buffer that was computed for it, so that no AVP
finds it too small, and what is read of that buffer is the message if it is well formed, and
is not otherwise. -/
theorem written_read (dict : Dictionary) {msg : Message} (hlen : msg.len < 2 ^ 24) :
    ∃ buf, bufferize msg = .ok buf ∧ buf.length = msg.len ∧
      (parse dict buf = .ok msg ↔ MessageWf dict msg) :=
  ⟨_, bufferize_eq msg, length_encoded msg, fun h => (messageWf_of_parse h).1,
    fun h => parse_encoded h hlen⟩

def sampleType (code : UInt32) : Option BaseType :=
  if code = 263 ∨ code = 264 ∨ code = 296 ∨ code = 283 ∨ code = 1 ∨ code = 462 ∨ code = 281 then
    some .octetString
  else if code = 274 then some .integer32
  else if code = 258 ∨ code = 268 then some .unsigned32
  else if code = 279 then some .grouped
  else none

def sampleDictionary : Dictionary where
  avp vendor code := if vendor = 0 then (sampleType code).map fun t => ⟨t, fun _ => true⟩ else none
  cmd _ code := code = 268

def sampleMessage : Message where
  flags := 0x40
  code := 268
  appl := 5
  hbhid := 1
  eteid := 2
  avps := [.leaf ⟨263, 0x40, 0⟩ (.os [116, 119, 97, 103, 59]),
    .grouped ⟨279, 0x40, 0⟩ [.leaf ⟨258, 0x40, 0⟩ (.word32 0)], .raw ⟨1430, 0x80, 10415⟩ [1, 2, 3],
    .raw ⟨264, 0x80, 0⟩ [4]]

theorem messageWf_sample : MessageWf sampleDictionary sampleMessage where
  code := by decide
  cmd := by decide
  avps := by
    simp only [sampleMessage, ChainWf, AvpWf]
    exact ⟨⟨fun _ => rfl, ⟨.octetString, fun _ => true⟩, rfl, rfl, rfl⟩,
      ⟨fun _ => rfl, ⟨⟨.grouped, fun _ => true⟩, rfl, rfl⟩,
        ⟨fun _ => rfl, ⟨.unsigned32, fun _ => true⟩, rfl, rfl, rfl⟩, trivial⟩,
      ⟨fun h => absurd h (by decide), rfl, rfl⟩, ⟨fun _ => rfl, rfl, rfl⟩, trivial⟩

theorem written_read_sample :
    ∃ buf, bufferize sampleMessage = .ok buf ∧ buf.length = 88 ∧
      parse sampleDictionary buf = .ok sampleMessage := by
  obtain ⟨buf, hbuf, hlen, hiff⟩ :=
    written_read sampleDictionary (show sampleMessage.len < 2 ^ 24 by decide)
  exact ⟨buf, hbuf, hlen, hiff.2 messageWf_sample⟩

end Twag.Proof.Diameter

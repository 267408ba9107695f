import Twag.Proof.Core.Race
import Twag.Proof.Gateway.Arrivals
import Twag.Proof.Receive.Ends
import Twag.Proof.Send.Gtpv2c
import Twag.Proof.SessionManager.Allocation

/-!
# Release by the P-GW

A Delete Bearer Request is answered, and then looked up by the TEID in its
header, or by 0 if it has none. The store of a gateway is the store after some
calls of its operations (`exists_performed`), so no session is ever found with
0; and a request removes the session it is for, and nothing else, in every
state in which TEIDs are distinct (`release_exact`).
-/

namespace Twag.Proof.Gateway

open Twag.Impl Twag.Spec Twag.Proof.Core Twag.Proof.Receive Twag.Proof.Send
open Twag.Proof.SessionManager

/-! ## The store of a gateway -/

/-- A step of the core leaves every stored session its TEIDs. -/
theorem teids_step {boot : Boot} {h : List Input} {x : Input} {m : Bytes} {s s' : UeSession m}
    (hs : (boot.after h).getSession m = some s)
    (hs' : (boot.after (x :: h)).getSession m = some s') :
    s'.gtpTeidC = s.gtpTeidC ∧ s'.gtpTeidU = s.gtpTeidU := by
  cases view_after boot h x m with
  | reacts e s₀ _ hs₀ hg _ =>
    cases hs.symm.trans hs₀
    exact react_teids (hg.symm.trans hs')
  | attaches req c _ _ hn => cases hs.symm.trans hn
  | refuses req c _ _ hn => cases hs.symm.trans hn
  | keeps _ hg =>
    cases (hs'.symm.trans hg).trans hs
    exact ⟨rfl, rfl⟩

/-- A session that is new has the TEIDs that it was created with. -/
theorem teids_born {boot : Boot} {h : List Input} {x : Input} {m : Bytes} {s' : UeSession m}
    (hn : (boot.after h).getSession m = none)
    (hs' : (boot.after (x :: h)).getSession m = some s') :
    s'.gtpTeidC = (born (boot.after h) x m).gtpTeidC ∧
      s'.gtpTeidU = (born (boot.after h) x m).gtpTeidU := by
  cases view_after boot h x m with
  | reacts e s₀ _ hs₀ => cases hn.symm.trans hs₀
  | attaches req c _ _ _ _ hg => exact react_teids (hg.symm.trans hs')
  | refuses req c _ _ _ _ hg => cases hg.symm.trans hs'
  | keeps _ hg => cases (hs'.symm.trans hg).trans hn

theorem writeFields_eq {sm : SessionManager} {m : Bytes} {s s' : UeSession m}
    (hs : sm.getSession m = some s) (ht : s'.gtpTeidC = s.gtpTeidC ∧ s'.gtpTeidU = s.gtpTeidU) :
    writeFields sm s' = sm.put s' := by
  simp only [writeFields, hs, ← ht.1, ← ht.2]

/-- The store of a gateway comes from calls of its operations. -/
theorem exists_performed (boot : Boot) (h : List Input) :
    ∃ ops, performed ops = (boot.after h).sessionManager := by
  induction h with
  | nil =>
    refine ⟨[], ?_⟩
    show SessionManager.new = (TwagCore.armStatistics _ boot.now).sessionManager
    rw [TwagCore.armStatistics]
    split <;> rfl
  | cons x h ih =>
    obtain ⟨ops, hops⟩ := ih
    by_cases hf : Full (boot.after h) x
    · obtain ⟨req, c, hx, hn, hc⟩ := hf
      refine ⟨.incrementRejected :: ops, ?_⟩
      rw [Boot.after, step_refused hx hn hc, performed, perform, hops]
    cases store_step hf with
    | keeps hsm => exact ⟨ops, hops.trans hsm.symm⟩
    | puts m s s' hs hsm =>
      refine ⟨.write m s' :: ops, ?_⟩
      have hs' : (boot.after (x :: h)).getSession m = some s' := by
        rw [TwagCore.getSession, Boot.after, hsm, SessionManager.getSession_put]
      rw [Boot.after, hsm, performed, perform, hops]
      exact writeFields_eq hs (teids_step hs hs')
    | removes m s hs hsm => exact ⟨.removeSession m :: ops, by rw [Boot.after, hsm, ← hops]; rfl⟩
    | creates m s' hn _ hsm =>
      refine ⟨.write m s' :: .createSession x.env.memory m :: ops, ?_⟩
      have hs' : (boot.after (x :: h)).getSession m = some s' := by
        rw [TwagCore.getSession, Boot.after, hsm, SessionManager.getSession_put]
      rw [Boot.after, hsm, performed, performed, perform, perform, hops]
      exact writeFields_eq (SessionManager.getSession_createSession _ _ _) (teids_born hn hs')

/-! ## Requests -/

/-- A well-formed Delete Bearer Request: its header says how long it is, and IEs
whose values have the lengths `ns` fill it; there are no more bearers and CSIDs
than a request can have. -/
structure DelBearerReq (d : Datagram) (ns : List Nat) : Prop where
  type : d.buffer 1 = 99
  received : d.n = iesStart d.buffer + total ns
  length : be16 d.buffer 2 + 4 = iesStart d.buffer + total ns
  laidOut : LaidOut d.buffer (iesStart d.buffer) ns
  bearers : (positions (iesStart d.buffer) ns).countP (isIe d.buffer · 73 1) ≤ 14
  csids : ∀ p ∈ positions (iesStart d.buffer) ns,
    (isIe d.buffer p 132 0 || isIe d.buffer p 132 1) = true → d.buffer (p + 4) &&& 0x0f ≤ 8

/-- What a Delete Bearer Response says, to who reads it as the gateway reads requests. -/
structure DelBearerRsp (bytes : Bytes) (seq : UInt32) (cause : UInt8) : Prop where
  type : bytes.getD 1 0 = 100
  noTeid : teidFlag (.ofBytes bytes) = false
  seq : S2aInterface.seq (.ofBytes bytes) = seq
  length : be16 (.ofBytes bytes) 2 + 4 = bytes.length
  laidOut : LaidOut (.ofBytes bytes) 8 [2] ∧ bytes.length = 8 + total [2]
  cause : isIe (.ofBytes bytes) 8 2 0 = true ∧ Memory.ofBytes bytes 12 = cause

variable {d : Datagram} {ns : List Nat}

theorem DelBearerReq.iesLen (hw : DelBearerReq d ns) : iesLen d.buffer = total ns := by
  have hl := hw.length
  have hb : be16 d.buffer 2 < 2 ^ 16 := by
    have h₁ := (d.buffer 2).toNat_lt
    have h₂ := (d.buffer (2 + 1)).toNat_lt
    rw [be16]
    omega
  rw [iesStart] at hl
  rw [Impl.iesLen]
  split at hl
  · rename_i hf
    rw [if_pos hf]
    omega
  · rename_i hf
    rw [if_neg hf]
    omega

theorem DelBearerReq.not_overflows (hw : DelBearerReq d ns) {p : Nat}
    (hp : p ∈ positions (iesStart d.buffer) ns)
    (hi : (isIe d.buffer p 132 0 || isIe d.buffer p 132 1) = true) :
    overflows d.buffer p = false := by
  have hle := hw.csids p hp hi
  have htype : d.buffer p = 132 := by
    rcases Bool.or_eq_true_iff.mp hi with hi | hi
    · exact isIe_type hi
    · exact isIe_type hi
  have hother {type : UInt8} (ht : type ≠ 132) (inst : UInt8) :
      isIe d.buffer p type inst = false := by
    rw [Bool.eq_false_iff]
    exact fun h => ht ((isIe_type h).symm.trans htype)
  rw [overflows, hother (by decide) 0, hother (by decide) 0, Bool.false_and, Bool.false_and,
    Bool.or_false, Bool.false_or, hi, Bool.true_and]
  exact decide_eq_false (UInt8.not_lt.mpr hle)

/-- The decoder comes to an end with a well-formed request. -/
theorem DelBearerReq.decoded (hw : DelBearerReq d ns) :
    ∃ n, decodeDelBearerReq d.buffer = .ok n := by
  have hlt : total ns < 2 ^ 16 := hw.iesLen ▸ iesLen_lt
  rw [decodeDelBearerReq, hw.iesLen, walkIes_laidOut hw.laidOut hlt]
  refine (visitsDelBearerReq_end_iff (Nat.zero_le 14)).mpr ⟨fun p hp => hw.not_overflows hp, ?_⟩
  rw [Nat.zero_add]
  exact hw.bearers

theorem DelBearerReq.isDelBearerReq (hw : DelBearerReq d ns) : S2aInterface.isDelBearerReq d := by
  refine ⟨?_, hw.type⟩
  have hn := hw.received
  rw [iesStart] at hn
  split at hn <;> omega

theorem DelBearerReq.not_isCreateSessRsp (hw : DelBearerReq d ns) :
    ¬ S2aInterface.isCreateSessRsp d :=
  fun hc => absurd (hc.2.symm.trans hw.type) (by decide)

/-! ## The response -/

theorem seq_lt (buf : Memory) : (S2aInterface.seq buf).toNat < 2 ^ 24 := by
  simp only [S2aInterface.seq, ofOctets, UInt32.toNat_ofNat']
  generalize (if teidFlag buf then 8 else 4) = i
  have h₀ := (buf i).toNat_lt
  have h₁ := (buf (i + 1)).toNat_lt
  have h₂ := (buf (i + 2)).toNat_lt
  omega

/-- The first octet of a sequence number is not sent. -/
theorem ofOctets_seq {n : UInt32} (h : n.toNat < 2 ^ 24) :
    ofOctets n.toUInt8.toNat (n >>> 8).toUInt8.toNat (n >>> 16).toUInt8.toNat 0 = n := by
  have hhigh : (n >>> 24).toUInt8.toNat = 0 := by
    rw [UInt32.toNat_toUInt8, UInt32.toNat_shiftRight]
    simp [Nat.shiftRight_eq_div_pow]
    omega
  rw [← hhigh]
  exact ofOctets_octets n

/-- A Delete Bearer Response with these octets of the sequence number. -/
theorem delBearerRsp_octets (a b c cause flags : UInt8) :
    DelBearerRsp [0x40, 100, 0, 10, a, b, c, 0, 2, 0, 2, 0, cause, flags]
      (ofOctets c.toNat b.toNat a.toNat 0) cause := by
  have hb := has_ofBytes [0x40, 100, 0, 10, a, b, c, 0, 2, 0, 2, 0, cause, flags]
  simp only [has_cons, Nat.reduceAdd] at hb
  obtain ⟨h₀, -, h₂, h₃, h₄, h₅, h₆, -, h₈, h₉, h₁₀, h₁₁, h₁₂, -⟩ := hb
  have hflag (buf : Memory) (h : buf 0 = 0x40) : teidFlag buf = false := by
    rw [teidFlag, h]
    decide
  refine ⟨rfl, hflag _ h₀, ?_, ?_, ⟨⟨?_, trivial⟩, rfl⟩, ?_, h₁₂⟩
  · generalize Memory.ofBytes _ = buf at *
    rw [S2aInterface.seq, hflag buf h₀, ← h₄, ← h₅, ← h₆]
    rfl
  · rw [be16, h₂, h₃]
    show (0 : UInt8).toNat * 2 ^ 8 + (10 : UInt8).toNat + 4 = 14
    decide
  · rw [ieLen, be16, h₉, h₁₀]
    rfl
  · rw [isIe, h₈, h₁₁]
    rfl

theorem encodeDelBearerRsp_eq (stale : Stale) (seq : UInt32) (cause : UInt8) :
    ∃ flags : UInt8, encodeDelBearerRsp stale seq cause =
      ([0x40, 100, 0, 10, (seq >>> 16).toUInt8, (seq >>> 8).toUInt8, seq.toUInt8, 0,
        2, 0, 2, 0, cause, flags] : Bytes) := by
  have hlen : be16Octets (UInt16.ofNat 10) = [0, 10] := by decide
  have hcause : encodeIeHeader 2 2 0 = [2, 0, 2, 0] := by decide
  rw [encodeDelBearerRsp, encodeHeader, headerFlags_eq, encodeCauseIe, hcause]
  generalize encodeBits 0 1 7 _ _ = flags
  refine ⟨flags, ?_⟩
  show [0x40, 100] ++ be16Octets (UInt16.ofNat 10) ++ (be32Octets seq).drop 1 ++ [0] ++ _ = _
  rw [hlen]
  rfl

theorem delBearerRsp_encoded (stale : Stale) {seq : UInt32} (h : seq.toNat < 2 ^ 24)
    (cause : UInt8) : DelBearerRsp (encodeDelBearerRsp stale seq cause) seq cause := by
  obtain ⟨flags, he⟩ := encodeDelBearerRsp_eq stale seq cause
  have hr := delBearerRsp_octets (seq >>> 16).toUInt8 (seq >>> 8).toUInt8 seq.toUInt8 cause flags
  rw [ofOctets_seq h] at hr
  rw [he]
  exact hr

/-! ## What a request does -/

variable {boot : Boot} {h : List Arrival} {env : Env}

theorem DelBearerReq.input (hw : DelBearerReq d ns) (env : Env) :
    Arrival.input ⟨env, .s2a d⟩ =
      some ⟨env, .deleteBearerRequest (S2aInterface.destTeid d.buffer)⟩ := by
  obtain ⟨n, hn⟩ := hw.decoded
  refine input_iff.mpr ⟨handedOn_iff.mpr ?_, rfl⟩
  rw [S2aInterface.handleUdpRx, if_neg hw.not_isCreateSessRsp, if_pos hw.isDelBearerReq, hn]
  rfl

/-- Exactly one response is sent, to where the request came from. -/
theorem DelBearerReq.response (hw : DelBearerReq d ns) (stale : Stale) :
    ∃ bytes, S2aInterface.handleUdpRxSends stale d = .ok (some ⟨bytes, d.src⟩) ∧
      DelBearerRsp bytes (S2aInterface.seq d.buffer) 16 := by
  obtain ⟨n, hn⟩ := hw.decoded
  refine ⟨_, ?_, delBearerRsp_encoded stale (seq_lt d.buffer) 16⟩
  rw [S2aInterface.handleUdpRxSends, if_neg hw.not_isCreateSessRsp, if_pos hw.isDelBearerReq, hn]
  rfl

/-- A request for a TEID that no session has changes no session. -/
theorem sessionManager_unmatched {boot : Boot} {h : List Input} {env : Env} {teid : UInt32}
    (hn : ∀ it, (boot.after h).sessionManager.getSessionByTeidC it teid = none) :
    (boot.after (⟨env, .deleteBearerRequest teid⟩ :: h)).sessionManager =
      (boot.after h).sessionManager := by
  refine (step_ignored (boot.after h) ⟨env, .deleteBearerRequest teid⟩ fun m e hd => ?_).1
  simp only [deliver, hn, Option.map_none] at hd
  cases hd

/-- In every state of a run in which no two sessions have one control TEID, a
well-formed Delete Bearer Request is answered by one response, that says
"Request accepted" to its sequence number. It removes the session whose control
TEID is in its header; and if there is none, or no TEID, it changes nothing in
the store. -/
theorem release_exact (boot : Boot) (h : List Arrival) (hu : DistinctTeids (boot.served h))
    (env : Env) (d : Datagram) (ns : List Nat) (hw : DelBearerReq d ns) :
    (∀ stale, ∃ bytes, S2aInterface.handleUdpRxSends stale d = .ok (some ⟨bytes, d.src⟩) ∧
      DelBearerRsp bytes (S2aInterface.seq d.buffer) 16) ∧
    (∀ m s, teidFlag d.buffer = true → (boot.served h).getSession m = some s →
      s.gtpTeidC = be32 d.buffer 4 →
      (boot.served (⟨env, .s2a d⟩ :: h)).sessionManager =
        (boot.served h).sessionManager.removeSession m) ∧
    ((teidFlag d.buffer = true →
        ∀ m s, (boot.served h).getSession m = some s → s.gtpTeidC ≠ be32 d.buffer 4) →
      (boot.served (⟨env, .s2a d⟩ :: h)).sessionManager = (boot.served h).sessionManager) := by
  refine ⟨hw.response, fun m s hf hs ht => ?_, fun hno => ?_⟩
  · rw [served_cons (hw.input env), S2aInterface.destTeid, if_pos hf, ← ht]
    exact (step_trigger hs hu (.inr (.inl rfl))).1
  · rw [served_cons (hw.input env)]
    refine sessionManager_unmatched fun it => ?_
    by_cases hf : teidFlag d.buffer = true
    · rw [S2aInterface.destTeid, if_pos hf]
      exact SessionManager.getSessionByTeidC_eq_none_iff.mpr fun m s hs => hno hf m s hs
    · rw [S2aInterface.destTeid, if_neg hf]
      obtain ⟨ops, hops⟩ := exists_performed boot (inputs h)
      rw [← hops]
      exact getSessionByTeidC_zero ops it

/-- A Delete Bearer Request for TEID 1 and the default bearer, with the sequence
number 0x010203. -/
def sampleRelease : Datagram where
  n := 17
  buffer := .ofBytes [0x48, 99, 0, 13, 0, 0, 0, 1, 1, 2, 3, 0, 73, 0, 1, 0, 5]
  src := ⟨loopback, htons 2123⟩

theorem delBearerReq_sampleRelease : DelBearerReq sampleRelease [1] where
  type := by decide
  received := by decide
  length := by decide
  laidOut := ⟨by decide, trivial⟩
  bearers := by decide
  csids := by decide

theorem release_exact_sample :
    (∃ s, (sampleBoot.served samplePending).getSession sampleMac = some s) ∧
      (sampleBoot.served (⟨sampleEnv 40000000, .s2a sampleRelease⟩ :: samplePending)).getSession
        sampleMac = none ∧
      ∃ bytes, S2aInterface.handleUdpRxSends ⟨fun _ => 0, 0⟩ sampleRelease =
          .ok (some ⟨bytes, sampleRelease.src⟩) ∧ DelBearerRsp bytes 0x010203 16 := by
  have hm : ((sampleBoot.served samplePending).getSession sampleMac).map UeSession.gtpTeidC =
    some 1 := by decide
  obtain ⟨s, hs, ht⟩ := Option.map_eq_some_iff.mp hm
  have hu : DistinctTeids (sampleBoot.served samplePending) :=
    distinctTeids_of_keys (m := sampleMac) (by decide)
  obtain ⟨hrsp, hremove, -⟩ := release_exact sampleBoot samplePending hu (sampleEnv 40000000)
    sampleRelease [1] delBearerReq_sampleRelease
  have hrem := hremove sampleMac s (by decide) hs (ht.trans (by decide))
  refine ⟨⟨s, hs⟩, ?_, hrsp _⟩
  rw [TwagCore.getSession, hrem, SessionManager.getSession_removeSession]

end Twag.Proof.Gateway

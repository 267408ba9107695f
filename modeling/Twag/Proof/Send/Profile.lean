import Twag.Impl.Receive.Sta
import Twag.Proof.Send.Imsi

/-!
# The subscriber profile in a Create Session Request

What a P-GW reads in the request of a session (`decode_request`), next to what the
session and the answer of the AAA server say (`ProfileSurvives`). The TEID and the
address are right. The bit rates are swapped twice, once by `htonl` and once by the
encoder; and the PDN type is the number of the AAA server, where GTP's is one more
(`profile_survives_iff`).
-/

namespace Twag.Proof.Send

open Twag.Impl Twag.Impl.TwagCore Twag.Proof.Core

/-- A bit rate, where 0 stands for none. -/
def orDefault (ambr : UInt32) : UInt32 := if ambr ≠ 0 then ambr else 1000000

section

variable {stale : Stale} {env : Env} {config : TwagConfig} {mac : Bytes} {session : UeSession mac}
  {b : Bytes}

/-- What is decoded of a request. -/
theorem decode_request (hb : requestOf stale env config session = .ok b) :
    decodeCreateSessReq (Memory.ofBytes b) = .ok
      { senderFteidCtlPlane := some ⟨true, session.gtpTeidC, some (env.localIp.getD loopback)⟩
        pdnType := some (UInt8.ofNat (session.pdnType.toNat % 8))
        apnAmbr := some (htonl (orDefault session.ambrUl), htonl (orDefault session.ambrDl)) } := by
  obtain ⟨-, h⟩ := sent_of_ok hb
  obtain ⟨octet, hoctet, hpdn⟩ := h.pdnType
  obtain ⟨hflags, hteid, hip⟩ : Memory.ofBytes b 29 = 0x80 ∧ _ ∧ _ := by
    have := h.fteid.value
    rw [has_cons, has_append] at this
    exact this
  obtain ⟨hul, hdl⟩ := has_append.mp h.apnAmbr.value
  have hip : le32 (Memory.ofBytes b) (25 + 9) = env.localIp.getD loopback := hip.le32
  have hdl : be32 (Memory.ofBytes b) (48 + (apnOf config session).length + 8) =
      htonl (orDefault session.ambrDl) := hdl.be32
  have hvalue := (has_cons.mp hpdn.value).1
  have hfteid : decodeFteid (Memory.ofBytes b) 25 =
      ⟨true, session.gtpTeidC, some (env.localIp.getD loopback)⟩ := by
    simp only [decodeFteid, teidGreKey, hflags, hteid.be32, hip]
    rfl
  simp only [decodeCreateSessReq, h.walkIes, List.foldlM_cons, List.foldlM_nil,
    visitCreateSessReq, h.imsi.isIe, h.ratType.isIe, h.fteid.isIe, h.apn.isIe, hpdn.isIe,
    h.apnAmbr.isIe, hfteid, hvalue, hoctet, hul.be32, hdl]
  rfl

end

/-! ## What the AAA server has given -/

/-- The PDN-Type AVP of an answer, if it has one. -/
def pdnTypeGiven (dict : AvpName → Bool) (msg : List Avp) : Option UInt32 :=
  (dictSearchAvp dict (((dictSearchAvp dict msg .apnConfiguration).map Avp.avps).getD [])
    .pdnType).bind Avp.u32

theorem pdnType_of_deaCb {dict : AvpName → Bool} {msg : List Avp} {dea : Dea}
    (h : deaCb dict msg = some dea) : dea.pdnType = (pdnTypeGiven dict msg).getD 0 := by
  obtain ⟨mac, -, rfl⟩ := Option.map_eq_some_iff.mp h
  rfl

/-- IPv4, IPv6 and IPv4v6 are 0, 1 and 2 to the AAA server, and 1, 2 and 3 in GTP. -/
def gtpPdnType (n : UInt32) : Option UInt8 :=
  if n = 0 then some 1 else if n = 1 then some 2 else if n = 2 then some 3 else none

/-- The PDN type of a session after an answer that gives one of the three is right for
IPv4 only, and then only because it was before. -/
theorem pdnType_right_iff (n before : UInt32) :
    (∀ t, gtpPdnType n = some t →
        UInt8.ofNat ((if n ≠ 0 then n else before).toNat % 8) = t) ↔
      (n < 3 → n = 0 ∧ before.toNat % 8 = 1) := by
  by_cases h0 : n = 0
  · subst h0
    have hmod : (UInt8.ofNat (before.toNat % 8)).toNat = before.toNat % 8 := by
      rw [UInt8.toNat_ofNat']
      omega
    have hone : UInt8.ofNat (before.toNat % 8) = 1 ↔ before.toNat % 8 = 1 := by
      rw [← UInt8.toNat_inj, hmod]
      rfl
    simp [gtpPdnType, hone]
  by_cases h1 : n = 1
  · subst h1
    have hne : UInt8.ofNat ((if (1 : UInt32) ≠ 0 then 1 else before).toNat % 8) ≠ 2 := by
      rw [if_pos h0]
      decide
    exact iff_of_false (fun h => hne (h 2 rfl)) fun h => h0 (h (by decide)).1
  by_cases h2 : n = 2
  · subst h2
    have hne : UInt8.ofNat ((if (2 : UInt32) ≠ 0 then 2 else before).toNat % 8) ≠ 3 := by
      rw [if_pos h0]
      decide
    exact iff_of_false (fun h => hne (h 3 rfl)) fun h => h0 (h (by decide)).1
  · have hlt : ¬ n < 3 := by
      simp only [← UInt32.toNat_inj, UInt32.lt_iff_toNat_lt, UInt32.reduceToNat] at h0 h1 h2 ⊢
      omega
    simp [gtpPdnType, h0, h1, h2, hlt]

/-- Where a session has got its PDN type from: an answer that gives `given` has been
applied to a session with the PDN type `before`, or nothing is said about it. -/
inductive Answered (config : TwagConfig) {mac : Bytes} :
    Option UInt32 → UInt32 → UeSession mac → Prop where
  | silent (before : UInt32) (session : UeSession mac) : Answered config none before session
  | answer {dict : AvpName → Bool} {msg : List Avp} {dea : Dea} (hdea : deaCb dict msg = some dea)
      (env : Env) (session : UeSession mac) :
      Answered config (pdnTypeGiven dict msg) session.pdnType (applyProfile config env session dea)

theorem Answered.pdnType {config : TwagConfig} {mac : Bytes} {before n : UInt32}
    {session : UeSession mac} (h : Answered config (some n) before session) :
    session.pdnType = if n ≠ 0 then n else before := by
  generalize hg : some n = given at h
  cases h with
  | silent => cases hg
  | answer hdea env session =>
    have := pdnType_of_deaCb hdea
    rw [← hg, Option.getD_some] at this
    rw [applyProfile, this]

section

variable (stale : Stale) (env : Env) (config : TwagConfig) {mac : Bytes}
  (session : UeSession mac)

/-- A P-GW that decodes the request of a session gets its TEID, the local address, its
bit rates, the PDN type that was given, and a length that is right. -/
def ProfileSurvives (given : Option UInt32) : Prop :=
  ∃ b req, requestOf stale env config session = .ok b ∧
    decodeCreateSessReq (Memory.ofBytes b) = .ok req ∧
    req.senderFteidCtlPlane = some ⟨true, session.gtpTeidC, some (env.localIp.getD loopback)⟩ ∧
    req.apnAmbr = some (orDefault session.ambrUl, orDefault session.ambrDl) ∧
    (∀ n t, given = some n → gtpPdnType n = some t → req.pdnType = some t) ∧
    be16 (Memory.ofBytes b) 2 = b.length - 4

end

/-- An answer for the sample UE with a PDN-Type and bit rates. -/
def sampleProfile (pdnType ambr : UInt32) : List Avp :=
  [.mk .sessionId (some (.os (sessionIdOf sampleMac))) [],
   .mk .apnConfiguration none
    [.mk .pdnType (some (.u32 pdnType)) [],
     .mk .ambr none
      [.mk .maxRequestedBandwidthUl (some (.u32 ambr)) [],
       .mk .maxRequestedBandwidthDl (some (.u32 ambr)) []]]]

/-- What `dea_cb` makes of it. -/
def sampleGiven (pdnType ambr : UInt32) : Dea :=
  { sampleDea 2001 with pdnType := pdnType, ambrUl := ambr, ambrDl := ambr }

/-- The sample UE's session after this answer. -/
def sampleAnswered (pdnType ambr : UInt32) : UeSession sampleMac :=
  applyProfile sampleBoot.config (sampleEnv 0) (sampleSession []) (sampleGiven pdnType ambr)

theorem sampleAnswered_answered (pdnType ambr : UInt32) :
    Answered sampleBoot.config (some pdnType) 1 (sampleAnswered pdnType ambr) := by
  have hdea : deaCb (fun _ => true) (sampleProfile pdnType ambr) =
      some (sampleGiven pdnType ambr) := rfl
  exact .answer hdea (sampleEnv 0) (sampleSession [])

section

variable {stale : Stale} {env : Env} {config : TwagConfig} {mac : Bytes} {session : UeSession mac}
  {given : Option UInt32}

theorem ProfileSurvives.fits (h : ProfileSurvives stale env config session given) :
    (apnOf config session).length ≤ 127 := by
  obtain ⟨b, -, hb, -⟩ := h
  exact request_ok_iff.mp ⟨b, hb⟩

theorem ProfileSurvives.ambr (h : ProfileSurvives stale env config session given) :
    htonl (orDefault session.ambrUl) = orDefault session.ambrUl ∧
      htonl (orDefault session.ambrDl) = orDefault session.ambrDl := by
  obtain ⟨b, req, hb, hreq, -, hambr, -⟩ := h
  rw [decode_request hb] at hreq
  cases hreq
  exact Prod.mk.inj (Option.some.inj hambr)

theorem ProfileSurvives.pdnType (h : ProfileSurvives stale env config session given) {n : UInt32}
    {t : UInt8} (hg : given = some n) (ht : gtpPdnType n = some t) :
    UInt8.ofNat (session.pdnType.toNat % 8) = t := by
  obtain ⟨b, req, hb, hreq, -, -, htype, -⟩ := h
  rw [decode_request hb] at hreq
  cases hreq
  exact Option.some.inj (htype n t hg ht)

/-- The profile survives exactly if the name of the APN fits, the bit rates read the
same from both ends, and IPv4 is given to a session that has it. -/
theorem profile_survives_iff {before : UInt32} (h : Answered config given before session) :
    ProfileSurvives stale env config session given ↔
      (apnOf config session).length ≤ 127 ∧
        htonl (orDefault session.ambrUl) = orDefault session.ambrUl ∧
        htonl (orDefault session.ambrDl) = orDefault session.ambrDl ∧
        ∀ n, given = some n → n < 3 → n = 0 ∧ before.toNat % 8 = 1 := by
  have hpdn (n : UInt32) (hg : given = some n) :
      (∀ t, gtpPdnType n = some t → UInt8.ofNat (session.pdnType.toNat % 8) = t) ↔
        (n < 3 → n = 0 ∧ before.toNat % 8 = 1) := by
    subst hg
    rw [h.pdnType]
    exact pdnType_right_iff n before
  constructor
  · intro hs
    exact ⟨hs.fits, hs.ambr.1, hs.ambr.2,
      fun n hg => (hpdn n hg).mp fun t ht => hs.pdnType hg ht⟩
  · rintro ⟨hn, hul, hdl, htype⟩
    obtain ⟨b, hb⟩ := request_ok_iff.mpr hn
    obtain ⟨hlen, hsent⟩ := sent_of_ok hb
    refine ⟨b, _, hb, decode_request hb, rfl, by rw [hul, hdl], fun n t hg ht => ?_, ?_⟩
    · rw [(hpdn n hg).mpr (htype n hg) t ht]
    · rw [hsent.messageLen, hlen]
      omega

theorem profile_survives_iff_sample :
    ProfileSurvives sampleStale (sampleEnv 0) sampleBoot.config (sampleAnswered 0 16777217)
      (some 0) := by
  refine (profile_survives_iff (sampleAnswered_answered 0 16777217)).mpr
    ⟨by decide, by decide, by decide, fun n hn _ => ⟨?_, by decide⟩⟩
  exact (Option.some.inj hn).symm

end

/-- The default bit rate does not survive, and no PDN type but IPv4. -/
theorem sampleProfile_lost :
    ¬ ProfileSurvives sampleStale (sampleEnv 0) sampleBoot.config (sampleAnswered 0 0) (some 0) ∧
      ¬ ProfileSurvives sampleStale (sampleEnv 0) sampleBoot.config (sampleAnswered 1 16777217)
        (some 1) :=
  ⟨fun h => absurd h.ambr.1 (by decide), fun h => absurd (h.pdnType rfl rfl) (by decide)⟩

end Twag.Proof.Send

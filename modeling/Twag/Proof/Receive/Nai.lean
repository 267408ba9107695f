import Mathlib.Data.List.TakeWhile
import Twag.Proof.Core.Refine
import Twag.Proof.Core.React
import Twag.Proof.Receive.Radius

/-!
# The IMSI in an identity

`handle_udp_rx` reads the IMSI in an EAP-Response of type Identity: up to the
first `@`, behind the last `!`, and without a leading `0`, `1` or `6`.

* `imsi_of_nai`: so it gives back the IMSI of every root or decorated NAI,
  whatever follows the `@`; and from any other EAP packet nothing is taken, so
  that the session keeps the IMSI it has;
* `keptWhole_iff`: an identity that is the IMSI alone is kept whole exactly if
  its first digit is none of the three.
-/

namespace Twag.Proof.Receive

open Twag.Impl Twag.Impl.RadiusServer Twag.Spec Twag.Proof.Core

/-! ## Identities -/

/-- An EAP-Response of type Identity, with these length octets. -/
def identityResponse (id l₁ l₂ : UInt8) (identity : Bytes) : Bytes :=
  [2, id, l₁, l₂, 1] ++ identity

def IsDigit (b : UInt8) : Prop := 48 ≤ b ∧ b ≤ 57

instance (b : UInt8) : Decidable (IsDigit b) := inferInstanceAs (Decidable (_ ∧ _))

/-- A leading `0`, `1` or `6`, which says how the UE authenticates. -/
def IsLead (b : UInt8) : Prop := b = 48 ∨ b = 49 ∨ b = 54

instance (b : UInt8) : Decidable (IsLead b) := inferInstanceAs (Decidable (_ ∨ _))

/-- `@` and a realm, or nothing. -/
def atRealm : Option Bytes → Bytes
  | none => []
  | some realm => 64 :: realm

/-- A root NAI, or one that is decorated with home realms. -/
structure Nai where
  realms : List Bytes
  lead : UInt8
  imsi : Bytes
  visited : Option Bytes
  realms_no_at : ∀ realm ∈ realms, 64 ∉ realm
  lead_isLead : IsLead lead
  imsi_isDigit : ∀ b ∈ imsi, IsDigit b

def Nai.bytes (n : Nai) : Bytes :=
  n.realms.flatMap (· ++ [33]) ++ n.lead :: n.imsi ++ atRealm n.visited

/-- Neither `@` nor `!` is among digits. -/
theorem notMem_of_isDigit {w : Bytes} {c : UInt8} (h : ∀ b ∈ w, IsDigit b) (hc : ¬ IsDigit c) :
    c ∉ w := fun hb => hc (h c hb)

theorem forall_isDigit {w : Bytes} (h : (w.all fun b => decide (IsDigit b)) = true) :
    ∀ b ∈ w, IsDigit b := fun b hb => of_decide_eq_true (List.all_eq_true.mp h b hb)

theorem IsLead.isDigit {b : UInt8} (h : IsLead b) : IsDigit b := by
  rcases h with h | h | h <;> subst h <;> decide

/-! ## What is read in an identity -/

/-- `imsiOfUsername`, once what is up to the last `!` is off. -/
def stripLead : Bytes → Bytes
  | [] => []
  | c :: rest => if IsLead c then rest else c :: rest

/-- What is behind the last `!`. -/
def afterBang (username : Bytes) : Bytes := (username.reverse.takeWhile (· ≠ 33)).reverse

theorem imsiOfUsername_eq (username : Bytes) :
    imsiOfUsername username = stripLead (afterBang username) := by
  show (match afterBang username with
    | [] => []
    | c :: rest => if c = 48 ∨ c = 49 ∨ c = 54 then rest else afterBang username) = _
  cases afterBang username <;> rfl

theorem length_stripLead_le (w : Bytes) : (stripLead w).length ≤ w.length := by
  cases w with
  | nil => exact Nat.le_refl 0
  | cons c rest =>
    rw [stripLead]
    split
    · exact Nat.le_succ _
    · exact Nat.le_refl _

theorem length_afterBang_le (w : Bytes) : (afterBang w).length ≤ w.length := by
  have hrev : (w.reverse.takeWhile (· ≠ 33)).length ≤ w.reverse.length :=
    (List.takeWhile_prefix _).length_le
  rw [List.length_reverse] at hrev
  rw [afterBang, List.length_reverse]
  exact hrev

/-- An IMSI is shorter than the EAP packet it is read in. -/
theorem length_imsiOf (eap : Bytes) : (imsiOf eap).length ≤ eap.length - 5 := by
  rw [imsiOf]
  split
  · rw [imsiOfUsername_eq]
    calc (stripLead (afterBang ((eap.drop 5).takeWhile (· ≠ 64)))).length
        ≤ (afterBang ((eap.drop 5).takeWhile (· ≠ 64))).length := length_stripLead_le _
      _ ≤ ((eap.drop 5).takeWhile (· ≠ 64)).length := length_afterBang_le _
      _ ≤ (eap.drop 5).length := (List.takeWhile_prefix _).length_le
      _ = eap.length - 5 := List.length_drop
  · exact Nat.zero_le _

theorem afterBang_of_not_mem {w : Bytes} (h : 33 ∉ w) : afterBang w = w := by
  have hw : w.reverse.takeWhile (· ≠ 33) = w.reverse := by
    refine List.takeWhile_eq_self_iff.mpr fun b hb => ?_
    have hne : b ≠ 33 := fun he => h (he ▸ List.mem_reverse.mp hb)
    simpa using hne
  rw [afterBang, hw, List.reverse_reverse]

theorem afterBang_bang (realm w : Bytes) : afterBang (realm ++ 33 :: w) = afterBang w := by
  have hw : (w.reverse ++ 33 :: realm.reverse).takeWhile (· ≠ 33) =
      w.reverse.takeWhile (· ≠ 33) := by
    rw [List.takeWhile_append]
    split
    · rename_i hl
      have he := (List.takeWhile_prefix (p := (· ≠ 33)) (l := w.reverse)).eq_of_length hl
      rw [he]
      simp
    · rfl
  rw [afterBang, List.reverse_append, List.reverse_cons, List.append_assoc, List.singleton_append,
    hw, afterBang]

/-- The home realms are passed over. -/
theorem afterBang_realms (realms : List Bytes) {w : Bytes} (h : 33 ∉ w) :
    afterBang (realms.flatMap (· ++ [33]) ++ w) = w := by
  induction realms with
  | nil => exact afterBang_of_not_mem h
  | cons realm realms ih =>
    rw [List.flatMap_cons, List.append_assoc, List.append_assoc, List.singleton_append,
      afterBang_bang]
    exact ih

/-- What follows the first `@` is passed over. -/
theorem takeWhile_atRealm {w : Bytes} (visited : Option Bytes) (h : 64 ∉ w) :
    (w ++ atRealm visited).takeWhile (· ≠ 64) = w := by
  have hw : ∀ b ∈ w, decide (b ≠ 64) = true := by
    intro b hb
    have hne : b ≠ 64 := fun he => h (he ▸ hb)
    simpa using hne
  rw [List.takeWhile_append_of_pos hw]
  cases visited with
  | none => exact List.append_nil w
  | some realm => exact List.append_nil w

theorem imsiOf_identityResponse (id l₁ l₂ : UInt8) (identity : Bytes) :
    imsiOf (identityResponse id l₁ l₂ identity) =
      stripLead (afterBang (identity.takeWhile (· ≠ 64))) := by
  rw [← imsiOfUsername_eq]
  have hc : 5 ≤ (identityResponse id l₁ l₂ identity).length ∧
      (identityResponse id l₁ l₂ identity).getD 0 0 = 2 ∧
      (identityResponse id l₁ l₂ identity).getD 4 0 = 1 :=
    ⟨Nat.le_add_left 5 identity.length, rfl, rfl⟩
  rw [imsiOf, if_pos hc]
  rfl

theorem Nai.imsi_eq (n : Nai) (id l₁ l₂ : UInt8) :
    imsiOf (identityResponse id l₁ l₂ n.bytes) = n.imsi := by
  have hdigit : ∀ b ∈ n.lead :: n.imsi, IsDigit b := by
    intro b hb
    rcases List.mem_cons.mp hb with he | hb
    · exact he ▸ n.lead_isLead.isDigit
    · exact n.imsi_isDigit b hb
  have hbang : 33 ∉ n.lead :: n.imsi := notMem_of_isDigit hdigit (by decide)
  have hat : 64 ∉ n.realms.flatMap (· ++ [33]) ++ n.lead :: n.imsi := by
    intro hb
    rcases List.mem_append.mp hb with hb | hb
    · obtain ⟨realm, hr, hb⟩ := List.mem_flatMap.mp hb
      rcases List.mem_append.mp hb with hb | hb
      · exact n.realms_no_at realm hr hb
      · exact absurd (List.mem_singleton.mp hb) (by decide)
    · exact notMem_of_isDigit hdigit (by decide) hb
  rw [imsiOf_identityResponse, Nai.bytes, takeWhile_atRealm n.visited hat,
    afterBang_realms n.realms hbang]
  exact if_pos n.lead_isLead

/-! ## What is handed to the core -/

/-- An Access-Request with this EAP packet for its last EAP-Message. -/
structure CarriesEap (d : Datagram) (eap : Bytes) : Prop where
  valid : hasValidLength d
  code : d.buffer 0 = 1
  last : ∃ ts, attributeArea d = Tlv.stream ts ∧ (Tlv.valuesOf 79 ts).getLast? = some eap

theorem CarriesEap.request {d : Datagram} {eap : Bytes} (h : CarriesEap d eap) (c : Option Nat) :
    ∃ req, RadiusServer.handleUdpRx d c = .ok (some (.accessRequest req c)) ∧
      req.imsi = imsiOf eap := by
  obtain ⟨ts, ht, hl⟩ := h.last
  refine ⟨_, handleUdpRx_request c h.valid h.code ht, ?_⟩
  show imsiOf ((Tlv.valuesOf 79 ts).getLast?.getD _) = imsiOf eap
  rw [hl, Option.getD_some]

/-- A request without an IMSI leaves the session's as it is. -/
theorem imsi_kept {core : TwagCore} {req : AccessRequest} {s : UeSession req.macAddr} (env : Env)
    (hi : req.imsi = []) (hs : core.getSession req.macAddr = some s) :
    ∃ s', (core.handleRadiusAccessRequest env req).1.getSession req.macAddr = some s' ∧
      s'.imsi = s.imsi := by
  have hf : Follows core (core.handleRadiusAccessRequest env req) s
      (onRequest core.config env s req) := by
    simp only [TwagCore.handleRadiusAccessRequest, hs]
    exact follows_authenticate core env req s
  obtain ⟨st, hst⟩ := session_onRequest core.config env s req
  refine ⟨_, (hf.getSession hs).trans hst, ?_⟩
  rw [imsi_withRequest, hi]
  rfl

/-- The IMSI of a root or decorated NAI is handed to the core; and where the EAP
packet is not an EAP-Response of type Identity, none is, and the session keeps
the one it has. -/
theorem imsi_of_nai {d : Datagram} {eap : Bytes} (h : CarriesEap d eap) (c : Option Nat) :
    ∃ req, RadiusServer.handleUdpRx d c = .ok (some (.accessRequest req c)) ∧
      (∀ (n : Nai) (id l₁ l₂ : UInt8), eap = identityResponse id l₁ l₂ n.bytes →
        req.imsi = n.imsi) ∧
      (eap.length < 5 ∨ eap.getD 0 0 ≠ 2 ∨ eap.getD 4 0 ≠ 1 →
        req.imsi = [] ∧
          ∀ core env s, TwagCore.getSession core req.macAddr = some s →
            ∃ s', (core.handleRadiusAccessRequest env req).1.getSession req.macAddr = some s' ∧
              s'.imsi = s.imsi) := by
  obtain ⟨req, hreq, hi⟩ := h.request c
  refine ⟨req, hreq, fun n id l₁ l₂ he => ?_, fun hn => ?_⟩
  · rw [hi, he, n.imsi_eq]
  · have hnil : req.imsi = [] := by
      rw [hi, imsiOf, if_neg]
      intro ⟨h₁, h₂, h₃⟩
      rcases hn with hn | hn | hn
      · omega
      · exact hn h₂
      · exact hn h₃
    exact ⟨hnil, fun core env s hs => imsi_kept env hnil hs⟩

/-- An Access-Request with this EAP packet for its only attribute. -/
def sampleEap (eap : Bytes) : Datagram where
  n := eap.length + 22
  buffer := .ofBytes ([1, 7, 0, UInt8.ofNat (eap.length + 22)] ++ List.replicate 16 0 ++
    79 :: UInt8.ofNat (eap.length + 2) :: eap)
  src := ⟨0, 0⟩

theorem carriesEap_sampleEap {eap : Bytes} (h : eap.length ≤ 233) :
    CarriesEap (sampleEap eap) eap := by
  have hrad : radLen (sampleEap eap) = eap.length + 22 := by
    show 0 * 2 ^ 8 + (UInt8.ofNat (eap.length + 22)).toNat = eap.length + 22
    rw [UInt8.toNat_ofNat']
    omega
  refine ⟨⟨?_, ?_, ?_⟩, rfl, [⟨79, eap, by omega⟩], ?_, rfl⟩
  · show 20 ≤ (((eap.length : Int) + 22) % 2 ^ 64).toNat
    omega
  · rw [hrad]
    show ((eap.length + 22 : Nat) : Int) ≤ (eap.length : Int) + 22
    omega
  · rw [hrad]
    omega
  · rw [attributeArea, hrad, Tlv.stream_cons, Tlv.stream_nil, List.append_nil]
    exact slice_ofBytes ([1, 7, 0, UInt8.ofNat (eap.length + 22)] ++ List.replicate 16 0)
      (79 :: UInt8.ofNat (eap.length + 2) :: eap)

/-- A decorated NAI with an `@` and a `!` behind its first `@`. -/
def sampleNai : Nai where
  realms := [ascii "home", []]
  lead := 48
  imsi := ascii "001010123456789"
  visited := some (ascii "a!b@c")
  realms_no_at := by decide
  lead_isLead := by decide
  imsi_isDigit := forall_isDigit (by decide)

theorem imsi_of_nai_sample :
    ∃ req, RadiusServer.handleUdpRx (sampleEap (identityResponse 7 0 0 sampleNai.bytes)) none =
        .ok (some (.accessRequest req none)) ∧ req.imsi = ascii "001010123456789" := by
  have hlen : (identityResponse 7 0 0 sampleNai.bytes).length ≤ 233 := by decide
  obtain ⟨req, hreq, hi, -⟩ := imsi_of_nai (carriesEap_sampleEap hlen) none
  exact ⟨req, hreq, hi sampleNai 7 0 0 rfl⟩

/-! ## An IMSI without a leading digit before it -/

/-- An IMSI of 15 digits. -/
structure Imsi where
  digits : Bytes
  length_eq : digits.length = 15
  isDigit : ∀ b ∈ digits, IsDigit b

/-- An Access-Request whose identity is the IMSI, and perhaps a realm. -/
def BareIdentity (d : Datagram) (i : Imsi) : Prop :=
  ∃ id l₁ l₂ realm, CarriesEap d (identityResponse id l₁ l₂ (i.digits ++ atRealm realm))

/-- The Access-Request is handed to the core with this IMSI. -/
def HandsImsi (d : Datagram) (imsi : Bytes) : Prop :=
  ∀ c, ∃ req, RadiusServer.handleUdpRx d c = .ok (some (.accessRequest req c)) ∧ req.imsi = imsi

/-- The IMSI is handed to the core as it is, and no other IMSI is handed to it as the same. -/
structure KeptWhole (i : Imsi) : Prop where
  kept : ∀ d, BareIdentity d i → HandsImsi d i.digits
  own : ∀ i' : Imsi, i'.digits ≠ i.digits → ∀ d d' imsi, BareIdentity d i → BareIdentity d' i' →
    HandsImsi d imsi → ¬ HandsImsi d' imsi

theorem HandsImsi.unique {d : Datagram} {imsi imsi' : Bytes} (h : HandsImsi d imsi)
    (h' : HandsImsi d imsi') : imsi = imsi' := by
  obtain ⟨req, hreq, hi⟩ := h none
  obtain ⟨req', hreq', hi'⟩ := h' none
  rw [hreq] at hreq'
  cases hreq'
  exact hi.symm.trans hi'

/-- What is handed to the core for a bare IMSI. -/
theorem BareIdentity.hands {d : Datagram} {i : Imsi} (h : BareIdentity d i) :
    HandsImsi d (stripLead i.digits) := by
  obtain ⟨id, l₁, l₂, realm, h⟩ := h
  intro c
  obtain ⟨req, hreq, hi⟩ := h.request c
  refine ⟨req, hreq, ?_⟩
  have hat : 64 ∉ i.digits := notMem_of_isDigit i.isDigit (by decide)
  have hbang : 33 ∉ i.digits := notMem_of_isDigit i.isDigit (by decide)
  rw [hi, imsiOf_identityResponse, takeWhile_atRealm realm hat, afterBang_of_not_mem hbang]

theorem exists_bareIdentity (i : Imsi) : ∃ d, BareIdentity d i := by
  have hlen : (identityResponse 7 0 20 (i.digits ++ atRealm none)).length ≤ 233 := by
    simp [identityResponse, atRealm, i.length_eq]
  exact ⟨_, 7, 0, 20, none, carriesEap_sampleEap hlen⟩

theorem stripLead_eq_self_iff {l : Bytes} :
    stripLead l = l ↔ ∀ b, l.head? = some b → ¬ IsLead b := by
  cases l with
  | nil => simp [stripLead]
  | cons b l =>
    by_cases hb : IsLead b
    · simp [stripLead, hb]
    · simp [stripLead, hb]

/-- What is not stripped is as long as it was, and what is stripped is not. -/
theorem stripLead_injective {l l' : Bytes} (hl : l.length = l'.length) (hk : stripLead l = l)
    (he : stripLead l' = stripLead l) : l' = l := by
  cases l' with
  | nil => exact (List.length_eq_zero_iff.mp hl).symm
  | cons b l' =>
    by_cases hb : IsLead b
    · have hs : stripLead (b :: l') = l' := if_pos hb
      rw [hk, hs] at he
      rw [← he, List.length_cons] at hl
      omega
    · have hs : stripLead (b :: l') = b :: l' := if_neg hb
      rw [← hs, he, hk]

/-- A bare IMSI is kept whole exactly if it does not start with a digit that is
taken for the one before an IMSI. -/
theorem keptWhole_iff (i : Imsi) : KeptWhole i ↔ ∀ b, i.digits.head? = some b → ¬ IsLead b := by
  rw [← stripLead_eq_self_iff]
  constructor
  · intro h
    obtain ⟨d, hd⟩ := exists_bareIdentity i
    exact hd.hands.unique (h.kept d hd)
  · intro hs
    refine ⟨fun d hd => hs ▸ hd.hands, fun i' hne d d' imsi hd hd' hi hi' => hne ?_⟩
    refine stripLead_injective (i.length_eq.trans i'.length_eq.symm) hs ?_
    rw [hd.hands.unique hi, hd'.hands.unique hi']

/-- An IMSI with this first digit. -/
def sampleImsi (b : UInt8) (h : IsDigit b) : Imsi where
  digits := b :: ascii "01010123456781"
  length_eq := rfl
  isDigit := by
    have hall : ∀ b' ∈ ascii "01010123456781", IsDigit b' := forall_isDigit (by decide)
    intro b' hb
    rcases List.mem_cons.mp hb with he | hb
    · exact he ▸ h
    · exact hall b' hb

/-- Two UEs with different IMSIs are given the same one. -/
theorem bare_imsi_cut :
    (sampleImsi 48 (by decide)).digits = ascii "001010123456781" ∧
      (sampleImsi 49 (by decide)).digits = ascii "101010123456781" ∧
      ∃ d d', BareIdentity d (sampleImsi 48 (by decide)) ∧
        BareIdentity d' (sampleImsi 49 (by decide)) ∧
        HandsImsi d (ascii "01010123456781") ∧ HandsImsi d' (ascii "01010123456781") := by
  obtain ⟨d, hd⟩ := exists_bareIdentity (sampleImsi 48 (by decide))
  obtain ⟨d', hd'⟩ := exists_bareIdentity (sampleImsi 49 (by decide))
  exact ⟨by decide, by decide, d, d', hd, hd', hd.hands, hd'.hands⟩

end Twag.Proof.Receive

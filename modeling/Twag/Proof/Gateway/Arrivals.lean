import Twag.Impl.Gateway
import Twag.Proof.Core.Life

/-!
# From what arrives to the core

A run of the gateway is a list of arrivals, the newest first, and its core runs
on the events that they lead to:

* `comes`: which packet an event of the core comes from, and what was read in it;
* `attributes_ends`, `msgType_ends`: the RADIUS and the DHCP server come to an
  end with every datagram;
* `mem_calls`: the calls on an arrival are those of the core's step;
* `since_inputs`: what holds since a step of the core holds since an arrival;
* `connected_since_arrival`: what a connected session has of the datagram that
  has connected it;
* `sampleArrived`, `samplePending`: runs of the sample gateway as they arrive.
-/

namespace Twag.Proof.Gateway

open Twag.Impl Twag.Spec Twag.Proof.Core

/-! ## What the handlers hand on -/

theorem handedOn_iff {r : Except Fault (Option Event)} {ev : Event} :
    handedOn r = some ev ↔ r = .ok (some ev) := by
  cases r with
  | error f => simp [handedOn]
  | ok e => simp [handedOn]

/-- The packet that an event comes from. -/
inductive Comes : Packet → Event → Prop
  | accessRequest (d : Datagram) (c : Option Nat) (attrs : RadiusServer.Attributes)
    (hl : RadiusServer.hasValidLength d) (ha : RadiusServer.attributes d = .ok attrs)
    (hc : d.buffer 0 = 1) :
    Comes (.radius d c) (.accessRequest (RadiusServer.accessRequest d attrs) c)
  | accountingStop (d : Datagram) (c : Option Nat) (attrs : RadiusServer.Attributes)
    (hl : RadiusServer.hasValidLength d) (ha : RadiusServer.attributes d = .ok attrs)
    (hc : d.buffer 0 = 4 ∧ attrs.acctStatusType = 2) :
    Comes (.radius d c) (.accountingStop attrs.macAddr)
  | createSessionResponse (d : Datagram) (rsp : CreateSessRsp)
    (hc : S2aInterface.isCreateSessRsp d) (hd : decodeCreateSessRsp d.buffer = .ok rsp) :
    Comes (.s2a d) (.createSessionResponse (S2aInterface.destTeid d.buffer) true
      (S2aInterface.pgwTeid rsp) (S2aInterface.ueIp rsp) (S2aInterface.qci rsp))
  | deleteBearerRequest (d : Datagram) (n : Nat) (hc : S2aInterface.isDelBearerReq d)
    (hd : decodeDelBearerReq d.buffer = .ok n) :
    Comes (.s2a d) (.deleteBearerRequest (S2aInterface.destTeid d.buffer))
  | dhcpDiscover (d : Datagram) (hb : DhcpServer.isBootRequest d)
    (ht : DhcpServer.msgType d = .ok 1) :
    Comes (.dhcp d) (.dhcpDiscover (DhcpServer.macAddr d) (DhcpServer.xid d))
  | dhcpRequest (d : Datagram) (hb : DhcpServer.isBootRequest d)
    (ht : DhcpServer.msgType d = .ok 3) :
    Comes (.dhcp d) (.dhcpRequest (DhcpServer.macAddr d) (DhcpServer.xid d))
  | dea (dict : AvpName → Bool) (msg : List Avp) (answers : Option Nat) (dea : Dea)
    (hd : deaCb dict msg = some dea) : Comes (.dea dict msg answers) (.dea dea answers)
  | abortSession (msg : List Avp) (mac : Bytes) : Comes (.asr msg) (.abortSession mac)
  | timer : Comes .timer .timer

theorem comes_radius {d : Datagram} {c : Option Nat} {ev : Event}
    (he : RadiusServer.handleUdpRx d c = .ok (some ev)) : Comes (.radius d c) ev := by
  rw [RadiusServer.handleUdpRx] at he
  split at he <;> [skip; cases he]
  rename_i hl
  obtain ⟨attrs, ha, hev⟩ := map_ok_iff.mp he
  split at hev
  · cases hev
    exact .accessRequest d c attrs hl ha (by assumption)
  · split at hev <;> cases hev
    exact .accountingStop d c attrs hl ha (by assumption)

theorem comes_s2a {d : Datagram} {ev : Event} (he : S2aInterface.handleUdpRx d = .ok (some ev)) :
    Comes (.s2a d) ev := by
  rw [S2aInterface.handleUdpRx] at he
  split at he
  · obtain ⟨rsp, hd, hev⟩ := map_ok_iff.mp he
    cases hev
    exact .createSessionResponse d rsp (by assumption) hd
  · split at he <;> [skip; cases he]
    obtain ⟨n, hd, hev⟩ := map_ok_iff.mp he
    cases hev
    exact .deleteBearerRequest d n (by assumption) hd

theorem comes_dhcp {d : Datagram} {ev : Event} (he : DhcpServer.handleUdpRx d = .ok (some ev)) :
    Comes (.dhcp d) ev := by
  rw [DhcpServer.handleUdpRx] at he
  split at he <;> [skip; cases he]
  rename_i hb
  obtain ⟨type, ht, hev⟩ := map_ok_iff.mp he
  split at hev
  · rename_i h1
    cases hev
    exact .dhcpDiscover d hb (h1 ▸ ht)
  · split at hev <;> cases hev
    rename_i h3
    exact .dhcpRequest d hb (h3 ▸ ht)

theorem comes {p : Packet} {ev : Event} (he : p.event = some ev) : Comes p ev := by
  cases p with
  | radius d c => exact comes_radius (handedOn_iff.mp he)
  | s2a d => exact comes_s2a (handedOn_iff.mp he)
  | dhcp d => exact comes_dhcp (handedOn_iff.mp he)
  | dea dict msg answers =>
    obtain ⟨dea, hd, rfl⟩ := Option.map_eq_some_iff.mp he
    exact .dea dict msg answers dea hd
  | asr msg =>
    simp only [Packet.event, asrCb] at he
    split at he <;> cases he
    exact .abortSession msg _
  | timer =>
    cases he
    exact .timer

/-! ## Handlers that come to an end -/

/-- The loop over the attributes ends on every datagram. -/
theorem attributes_ends (d : Datagram) : ∃ attrs, RadiusServer.attributes d = .ok attrs := by
  have hstep (offset : Nat) (hm : RadiusServer.moreAttributes d offset = true) :
      offset < offset + RadiusServer.attrLen d offset ∧ offset < RadiusServer.radLen d := by
    simp only [RadiusServer.moreAttributes, Bool.and_eq_true, decide_eq_true_eq] at hm
    omega
  obtain ⟨j, attrs, hw⟩ := walk_total (s := RadiusServer.Attributes.default) (i := 20) hstep
    (fun attrs offset _ => ⟨RadiusServer.visitAttribute d attrs offset, rfl⟩)
    (show RadiusServer.radLen d - 20 < RadiusServer.radLen d + 1 by omega)
  exact ⟨attrs, map_ok_iff.mpr ⟨(j, attrs), hw, rfl⟩⟩

/-- The loop over the options ends on every datagram. -/
theorem msgType_ends (d : Datagram) : ∃ type, DhcpServer.msgType d = .ok type := by
  have hstep (offset : Nat) (hm : DhcpServer.moreOptions d offset = true) :
      offset < DhcpServer.nextOption d offset ∧ offset < d.n.toNat := by
    simp only [DhcpServer.moreOptions, Bool.and_eq_true, decide_eq_true_eq] at hm
    refine ⟨?_, by omega⟩
    rw [DhcpServer.nextOption]
    split <;> omega
  obtain ⟨j, u, hw⟩ := walk_total (s := ()) (i := 240) hstep (fun u _ _ => ⟨u, rfl⟩)
    (show d.n.toNat - 240 < d.n.toNat + 1 by omega)
  exact ⟨_, map_ok_iff.mpr ⟨(j, u), hw, rfl⟩⟩

/-! ## The core behind the sockets -/

variable {boot : Boot} {h : List Arrival} {a : Arrival} {x : Input}

theorem input_iff : a.input = some x ↔ a.packet.event = some x.event ∧ x.env = a.env := by
  rw [Arrival.input, Option.map_eq_some_iff]
  constructor
  · rintro ⟨e, he, rfl⟩
    exact ⟨he, rfl⟩
  · rintro ⟨he, henv⟩
    exact ⟨x.event, he, by rw [← henv]⟩

theorem calls_eq (hx : a.input = some x) : boot.calls h a = boot.effects (inputs h) x := by
  rw [Boot.calls, hx]
  rfl

theorem mem_calls {e : Effect} (he : e ∈ boot.calls h a) :
    ∃ x, a.packet.event = some x.event ∧ x.env = a.env ∧ e ∈ boot.effects (inputs h) x := by
  cases hx : a.input with
  | none =>
    rw [Boot.calls, hx] at he
    cases he
  | some x =>
    obtain ⟨hev, henv⟩ := input_iff.mp hx
    exact ⟨x, hev, henv, calls_eq hx ▸ he⟩

theorem since_inputs {p q : List Input → Input → Prop} (hs : Since p q (inputs h)) :
    Since (fun g b => ∃ y, b.input = some y ∧ p (inputs g) y)
      (fun g b => ∀ y, b.input = some y → q (inputs g) y) h := by
  induction h with
  | nil => exact hs
  | cons a h ih =>
    cases hx : a.input with
    | none =>
      rw [inputs, List.filterMap_cons_none hx] at hs
      exact .later (fun y hy => by rw [hx] at hy; cases hy) (ih hs)
    | some x =>
      rw [inputs, List.filterMap_cons_some hx] at hs
      rcases hs with hp | ⟨hq, hs⟩
      · exact .now ⟨x, hx, hp⟩
      · refine .later (fun y hy => ?_) (ih hs)
        cases hx.symm.trans hy
        exact hq

theorem served_cons (hx : a.input = some x) :
    boot.served (a :: h) = boot.after (x :: inputs h) := by
  rw [Boot.served, inputs, List.filterMap_cons_some hx]
  rfl

theorem served_cons_none (hx : a.input = none) : boot.served (a :: h) = boot.served h := by
  rw [Boot.served, inputs, List.filterMap_cons_none hx]
  rfl

/-! ## The datagram that connected a session -/

section

variable (boot : Boot) (m : Bytes)

/-- The datagram on an arrival makes the session of `m` CONNECTED. -/
def Connects (d : Datagram) (h : List Arrival) (a : Arrival) : Prop :=
  a.packet = .s2a d ∧ S2aInterface.isCreateSessRsp d ∧
    ((boot.served h).getSession m).map UeSession.state = some .gtpCreatePending ∧
    ((boot.served (a :: h)).getSession m).map UeSession.state = some .connected

/-- An arrival leaves the state of `m`'s session as it is. -/
def Keeps (h : List Arrival) (a : Arrival) : Prop :=
  ((boot.served (a :: h)).getSession m).map UeSession.state =
    ((boot.served h).getSession m).map UeSession.state

end

/-- A connected session has what was decoded of the datagram that has connected
it, and the P-GW of the session `s₀` that waited for it. -/
theorem connected_since_arrival {m : Bytes} {s : UeSession m}
    (hs : (boot.served h).getSession m = some s) (hc : s.state = .connected) :
    Since (fun g b => ∃ d rsp s₀, Connects boot m d g b ∧ decodeCreateSessRsp d.buffer = .ok rsp ∧
        s₀.state = .gtpCreatePending ∧
        (boot.served g).sessionManager.getSessionByTeidC b.env.iteration
          (S2aInterface.destTeid d.buffer) = some ⟨m, s₀⟩ ∧
        s.ueIp = S2aInterface.ueIp rsp ∧ s.pgwIp = s₀.pgwIp ∧ s.pgwTeidC = s₀.pgwTeidC)
      (Keeps boot m) h := by
  refine (since_inputs (connected_since hs hc)).imp ?_ ?_
  · rintro g b ⟨y, hy, s₀, pgwTeid, qci, hs₀, hp, hev, hf, hc, hpgw⟩
    obtain ⟨hpk, henv⟩ := input_iff.mp hy
    rw [hev] at hpk
    generalize hpq : b.packet = p at hpk
    generalize hue : s.ueIp = ip at hpk
    generalize hteid : s₀.gtpTeidC = teid at hpk
    cases comes hpk with
    | createSessionResponse d rsp hcs hd =>
      refine ⟨d, rsp, s₀, ⟨hpq, hcs, ?_, ?_⟩, hd, hp, ?_, rfl, hpgw⟩
      · rw [Boot.served, hs₀, Option.map_some, hp]
      · rw [served_cons hy]
        exact hc
      · rw [← hteid, ← henv]
        exact hf
  · intro g b hq
    cases hb : b.input with
    | none => rw [Keeps, served_cons_none hb]
    | some y =>
      rw [Keeps, served_cons hb]
      exact hq y hb

/-! ## Packets to evaluate runs on -/

/-- A RADIUS datagram with this code and these attributes. -/
def sampleRadius (code : UInt8) (attributes : Bytes) : Datagram :=
  let bytes := [code, 1, 0, UInt8.ofNat (20 + attributes.length)] ++ List.replicate 16 0 ++
    attributes
  ⟨bytes.length, .ofBytes bytes, ⟨loopback, htons 1812⟩⟩

/-- The sample UE attaches. -/
def sampleArrived : List Arrival :=
  [⟨sampleEnv 10000000, .radius (sampleRadius 1 ([31, 19] ++ sampleMac)) none⟩]

/-- A DEA for the sample UE: its Session-Id, and more AVPs. -/
def sampleAnswer (avps : List Avp) : Arrival :=
  ⟨sampleEnv 20000000, .dea (fun _ => true)
    (.mk .sessionId (some (.os (sessionIdOf sampleMac))) [] :: avps) (some 0)⟩

/-- A DEA with DIAMETER_SUCCESS. -/
def sampleSuccessAnswer : Arrival := sampleAnswer [.mk .resultCode (some (.u32 2001)) []]

/-- The sample UE attaches, and waits for the P-GW. -/
def samplePending : List Arrival := sampleSuccessAnswer :: sampleArrived

/-- A Create Session Response for TEID 1 with these IEs. -/
def sampleResponse (ies : Bytes) : Datagram :=
  let bytes := [0x48, 33, 0, UInt8.ofNat (8 + ies.length), 0, 0, 0, 1, 0, 0, 1, 0] ++ ies
  ⟨bytes.length, .ofBytes bytes, ⟨loopback, htons 2123⟩⟩

/-- A Cause IE. -/
def causeIe (cause : UInt8) : Bytes := [2, 0, 2, 0, cause, 0]

/-- A PAA IE with an IPv4 address. -/
def paaIe (a b c d : UInt8) : Bytes := [79, 0, 5, 0, 1, a, b, c, d]

/-- The P-GW accepts the sample UE, and assigns it 10.1.0.5. -/
def sampleConnected : List Arrival :=
  ⟨sampleEnv 30000000, .s2a (sampleResponse (causeIe 16 ++ paaIe 10 1 0 5))⟩ :: samplePending

/-- A DHCP datagram of this type from the sample UE's hardware address. -/
def sampleDhcp (type : UInt8) : Datagram :=
  let bytes := [1, 1, 6, 0] ++ [0x12, 0x34, 0x56, 0x78] ++ List.replicate 20 0 ++
    [0xaa, 0xbb, 0xcc, 0xdd, 0xee, 0x01] ++ List.replicate 202 0 ++ [0x63, 0x82, 0x53, 0x63] ++
    [53, 1, type, 255]
  ⟨bytes.length, .ofBytes bytes, ⟨0, htons 68⟩⟩

end Twag.Proof.Gateway

import Twag.Proof.Gateway.Dhcp

/-!
# Who a UE is, to RADIUS and to DHCP

The RADIUS server takes a session's key from the Calling-Station-Id as it
stands; the DHCP server makes it of the hardware address, in upper case and with
colons. `agree_iff`: DHCP finds the session of a UE exactly if the UE attached
under that text; and if the Access-Requests for a MAC address have that text,
the address has one session. `hyphens_part` is a UE that attached with hyphens:
DHCP does not find it, and another text makes a second session for it.
-/

namespace Twag.Proof.Gateway

open Twag.Impl Twag.Spec Twag.Proof.Core Twag.Proof.Receive

/-- A DHCP Discover or Request from this hardware address. -/
def AsksFor (mac : Vector UInt8 6) (d : Datagram) : Prop :=
  DhcpServer.isBootRequest d ∧ (DhcpServer.msgType d = .ok 1 ∨ DhcpServer.msgType d = .ok 3) ∧
    slice d.buffer 28 6 = mac.toList

/-- An arrival is answered from the session `s` of `m`. -/
def AnsweredFrom (boot : Boot) (h : List Arrival) (a : Arrival) {m : Bytes} (s : UeSession m) :
    Prop :=
  ∃ xid type ok, .dhcpResponse m s.ueIp xid type ok ∈ boot.calls h a

/-- An Access-Request whose Calling-Station-Id is this MAC address has the DHCP
server's text of it. -/
def NamesAlike (mac : Vector UInt8 6) (a : Arrival) : Prop :=
  ∀ d c attrs, a.packet = .radius d c → d.buffer 0 = 1 → RadiusServer.attributes d = .ok attrs →
    Renders mac.toList attrs.macAddr → attrs.macAddr = upperMac mac.toList

variable {boot : Boot} {h : List Arrival} {mac : Vector UInt8 6} {m : Bytes} {s : UeSession m}

theorem answered_iff (hs : (boot.served h).getSession m = some s) (hc : s.state = .connected)
    (hip : s.ueIp ≠ 0) (env : Env) {d : Datagram} (hd : AsksFor mac d) :
    AnsweredFrom boot h ⟨env, .dhcp d⟩ s ↔ m = upperMac mac.toList := by
  obtain ⟨hb, ht, hmac⟩ := hd
  have hkey : DhcpServer.macAddr d = upperMac mac.toList := by rw [← hmac]; rfl
  constructor
  · rintro ⟨xid, type, ok, he⟩
    obtain ⟨d', s', hp, hm, -⟩ := reply_cases he
    cases hp
    exact hm.trans hkey
  · intro hm
    rw [← hkey] at hm
    subst hm
    have hx : ∃ x type, (⟨env, .dhcp d⟩ : Arrival).input = some x ∧
        deliver (boot.served h) x =
          some (DhcpServer.macAddr d, .dhcp (DhcpServer.xid d) type) := by
      rcases ht with ht | ht
      · refine ⟨⟨env, .dhcpDiscover (DhcpServer.macAddr d) (DhcpServer.xid d)⟩, 2, ?_, rfl⟩
        refine input_iff.mpr ⟨handedOn_iff.mpr ?_, rfl⟩
        rw [DhcpServer.handleUdpRx, if_pos hb, ht]
        rfl
      · refine ⟨⟨env, .dhcpRequest (DhcpServer.macAddr d) (DhcpServer.xid d)⟩, 5, ?_, rfl⟩
        refine input_iff.mpr ⟨handedOn_iff.mpr ?_, rfl⟩
        rw [DhcpServer.handleUdpRx, if_pos hb, ht]
        rfl
    obtain ⟨x, type, hx, hdel⟩ := hx
    refine ⟨DhcpServer.xid d, type, x.env.dhcpSendto, ?_⟩
    have he : boot.calls h ⟨env, .dhcp d⟩ = _ := (calls_eq hx).trans (step_stored hdel hs).1
    rw [he, react, if_pos ⟨hc, hip⟩]
    exact List.mem_singleton_self _

/-- A stored session was asked for by an Access-Request with its key. -/
theorem key_of_request (hs : (boot.served h).getSession m = some s) :
    ∃ a ∈ h, ∃ d c attrs, a.packet = .radius d c ∧ d.buffer 0 = 1 ∧
      RadiusServer.attributes d = .ok attrs ∧ attrs.macAddr = m := by
  obtain ⟨g, y, ht, ⟨req, c, hy, hm⟩, -⟩ := (requested (inputs h) hs).taken
  obtain ⟨a, ha, hi⟩ := List.mem_filterMap.mp (ht.subset List.mem_cons_self)
  obtain ⟨hev, -⟩ := input_iff.mp hi
  rw [hy] at hev
  generalize hp : a.packet = p at hev
  cases comes hev with
  | accessRequest d c attrs hl hattrs hcode => exact ⟨a, ha, d, c, attrs, hp, hcode, hattrs, hm⟩

theorem key_alike (hall : ∀ a ∈ h, NamesAlike mac a) (hs : (boot.served h).getSession m = some s)
    (hr : Renders mac.toList m) : m = upperMac mac.toList := by
  obtain ⟨a, ha, d, c, attrs, hp, hcode, hattrs, rfl⟩ := key_of_request hs
  exact hall a ha d c attrs hp hcode hattrs hr

/-- In every reachable state, for every MAC address and every text `r` of it: the
connected session under `r` answers the DHCP datagrams of that address exactly if
`r` is the DHCP server's text; and if every Access-Request for the address had
that text, no other text of it has a session. -/
theorem agree_iff (boot : Boot) (h : List Arrival) (mac : Vector UInt8 6) (r : Bytes)
    (s : UeSession r) (hr : Renders mac.toList r) (hs : (boot.served h).getSession r = some s) :
    (s.state = .connected → s.ueIp ≠ 0 → ∀ env d, AsksFor mac d →
        (AnsweredFrom boot h ⟨env, .dhcp d⟩ s ↔ r = upperMac mac.toList)) ∧
      ((∀ a ∈ h, NamesAlike mac a) → ∀ r' s', Renders mac.toList r' →
        (boot.served h).getSession r' = some s' → r' = r) := by
  refine ⟨fun hc hip env d hd => answered_iff hs hc hip env hd, fun hall r' s' hr' hs' => ?_⟩
  rw [key_alike hall hs' hr', key_alike hall hs hr]

/-! ## One UE, two texts -/

/-- The sample UE's hardware address. -/
def sampleOctets : Vector UInt8 6 := #v[0xaa, 0xbb, 0xcc, 0xdd, 0xee, 0x01]

def sampleHyphens : Bytes := ascii "AA-BB-CC-DD-EE-01"

theorem sample_renders :
    Renders sampleOctets.toList sampleMac ∧ Renders sampleOctets.toList sampleHyphens :=
  ⟨⟨58, .inl rfl, by decide⟩, ⟨45, .inr rfl, by decide⟩⟩

theorem sampleDhcp_asks : AsksFor sampleOctets (sampleDhcp 1) :=
  ⟨by decide +kernel, .inl (by decide +kernel), by decide +kernel⟩

/-- The sample UE is answered from its session. -/
theorem agree_iff_sample :
    ∃ s, (sampleBoot.served sampleConnected).getSession sampleMac = some s ∧
      s.state = .connected ∧ s.ueIp ≠ 0 ∧
      AnsweredFrom sampleBoot sampleConnected ⟨sampleEnv 40000000, .dhcp (sampleDhcp 1)⟩ s := by
  obtain ⟨s, hs, hf⟩ := Option.map_eq_some_iff.mp
    (show ((sampleBoot.served sampleConnected).getSession sampleMac).map
      (fun s => (s.state, s.ueIp)) = some (.connected, ofOctets 10 1 0 5) by decide)
  obtain ⟨hc, hip⟩ := Prod.mk.inj hf
  have hip : s.ueIp ≠ 0 := by rw [hip]; decide
  refine ⟨s, hs, hc, hip, ?_⟩
  have hagree := agree_iff sampleBoot sampleConnected sampleOctets sampleMac s sample_renders.1 hs
  exact (hagree.1 hc hip (sampleEnv 40000000) (sampleDhcp 1) sampleDhcp_asks).mpr (by decide)

/-- The sample UE attaches with hyphens in its Calling-Station-Id, and is connected. -/
def sampleHyphenated : List Arrival :=
  [⟨sampleEnv 30000000, .s2a (sampleResponse (causeIe 16 ++ paaIe 10 1 0 5))⟩,
    ⟨sampleEnv 20000000, .dea (fun _ => true)
      [.mk .sessionId (some (.os (sessionIdOf sampleHyphens))) [],
        .mk .resultCode (some (.u32 2001)) []] (some 0)⟩,
    ⟨sampleEnv 10000000, .radius (sampleRadius 1 ([31, 19] ++ sampleHyphens)) none⟩]

/-- DHCP does not find the UE that attached with hyphens, and an Access-Request
with colons makes a second session for it. -/
theorem hyphens_part :
    Renders sampleOctets.toList sampleHyphens ∧ Renders sampleOctets.toList sampleMac ∧
      AsksFor sampleOctets (sampleDhcp 1) ∧
      ((sampleBoot.served sampleHyphenated).getSession sampleHyphens).map
        (fun s => (s.state, s.ueIp)) = some (.connected, ofOctets 10 1 0 5) ∧
      sampleBoot.calls sampleHyphenated ⟨sampleEnv 40000000, .dhcp (sampleDhcp 1)⟩ = [] ∧
      (sampleBoot.served (sampleArrived ++ sampleHyphenated)).sessionManager.sessions.keys =
        [sampleMac, sampleHyphens] :=
  ⟨sample_renders.2, sample_renders.1, sampleDhcp_asks, by decide, by decide +kernel, by decide⟩

end Twag.Proof.Gateway

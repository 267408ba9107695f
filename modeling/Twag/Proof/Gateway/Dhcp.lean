import Twag.Proof.Gateway.Arrivals
import Twag.Proof.Receive.Gtpv2c
import Twag.Proof.Receive.Mac

/-!
# The address that DHCP hands out

`dhcp_reply`: every reply goes to a connected session, under the text of the
client's hardware address; it carries the address that the P-GW assigned when it
connected the session, byte for byte, and the client's transaction id and
hardware address; and its options are well formed.
-/

namespace Twag.Proof.Gateway

open Twag.Impl Twag.Spec Twag.Proof.Core Twag.Proof.Receive

/-! ## The bytes of a reply -/

/-- The `len` bytes of a datagram at `i`. -/
def field (bytes : Bytes) (i len : Nat) : Bytes := (bytes.drop i).take len

/-- A well-formed option area, which ends in 255, and its options. -/
inductive Options : Bytes → List (UInt8 × Bytes) → Prop
  | done : Options [255] []
  | pad {rest : Bytes} {options : List (UInt8 × Bytes)} (hr : Options rest options) :
    Options (0 :: rest) options
  | option {rest : Bytes} {options : List (UInt8 × Bytes)} (code : UInt8) (value : Bytes)
    (hc : code ≠ 0 ∧ code ≠ 255) (hl : value.length < 256) (hr : Options rest options) :
    Options (code :: UInt8.ofNat value.length :: (value ++ rest)) ((code, value) :: options)

theorem octets_ofOctets (a b c d : UInt8) :
    DhcpServer.octets (ofOctets a.toNat b.toNat c.toNat d.toNat) = [a, b, c, d] := by
  have ha := a.toNat_lt
  have hb := b.toNat_lt
  have hc := c.toNat_lt
  have hd := d.toNat_lt
  simp only [DhcpServer.octets, ofOctets, List.cons.injEq, and_true, ← UInt8.toNat_inj,
    UInt32.toNat_toUInt8, UInt32.toNat_shiftRight, UInt32.toNat_ofNat']
  refine ⟨?_, ?_, ?_, ?_⟩
  all_goals simp [Nat.shiftRight_eq_div_pow]
  all_goals omega

theorem octets_le32 (buf : Memory) (i : Nat) : DhcpServer.octets (le32 buf i) = slice buf i 4 :=
  octets_ofOctets _ _ _ _

section

variable (mac : Bytes) (ip xid : UInt32) (type : UInt8)

theorem reply_xid :
    field (DhcpServer.sendDhcpResponse mac ip xid type) 4 4 = DhcpServer.octets xid := rfl

theorem reply_yiaddr :
    field (DhcpServer.sendDhcpResponse mac ip xid type) 16 4 = DhcpServer.octets ip := rfl

end

variable {mac : Bytes} {ip xid : UInt32} {type : UInt8} {d : Datagram}

theorem reply_chaddr (hm : mac = upperMac (slice d.buffer 28 6)) :
    field (DhcpServer.sendDhcpResponse mac ip xid type) 28 6 = slice d.buffer 28 6 := by
  rw [DhcpServer.sendDhcpResponse, hm, chaddr_upperMac (length_slice d.buffer 28 6)]
  rfl

theorem reply_options (hm : mac = upperMac (slice d.buffer 28 6)) :
    (DhcpServer.sendDhcpResponse mac ip xid type).drop 240 = DhcpServer.replyOptions type := by
  rw [DhcpServer.sendDhcpResponse, hm, chaddr_upperMac (length_slice d.buffer 28 6)]
  rfl

/-- The options of a reply are well formed, and its message type is there. -/
theorem options_reply (type : UInt8) :
    ∃ options, Options (DhcpServer.replyOptions type) options ∧
      options.lookup 53 = some [type] := by
  let value (n : UInt32) : Bytes := DhcpServer.octets n
  refine ⟨[(53, [type]), (1, value (htonl 0xFFFFFF00)), (3, value DhcpServer.serverIp),
    (51, value (htonl 3600)), (54, value DhcpServer.serverIp), (6, value (ofOctets 8 8 8 8))],
    ?_, rfl⟩
  simp only [DhcpServer.replyOptions, List.append_assoc, List.cons_append, List.nil_append]
  refine .option 53 [type] (by decide) (by simp) ?_
  refine .option 1 (value _) (by decide) (by decide) ?_
  refine .option 3 (value _) (by decide) (by decide) ?_
  refine .option 51 (value _) (by decide) (by decide) ?_
  refine .option 54 (value _) (by decide) (by decide) ?_
  exact .option 6 (value _) (by decide) (by decide) .done

/-! ## Where the address comes from -/

/-- The PAA IE of the message, of which there is one at most, has these IPv4 octets. -/
def Assigns (d : Datagram) (octets : Bytes) : Prop :=
  (paaIes d.buffer).length ≤ 1 →
    ∃ p, paaIes d.buffer = [p] ∧ paaOctets d.buffer p = some octets

variable {boot : Boot} {h : List Arrival} {a : Arrival} {m : Bytes}

/-- A connected session that has an address has that of the PAA IE in the
response that connected it. -/
theorem assigned {s : UeSession m} (hs : (boot.served h).getSession m = some s)
    (hc : s.state = .connected) (hip : s.ueIp ≠ 0) :
    Since (fun g b => ∃ d, Connects boot m d g b ∧ Assigns d (DhcpServer.octets s.ueIp))
      (Keeps boot m) h := by
  refine (connected_since_arrival hs hc).imp (fun g b hb => ?_) fun _ _ hq => hq
  obtain ⟨d, rsp, s₀, hconn, hd, -, -, hue, -⟩ := hb
  refine ⟨d, hconn, fun hl => ?_⟩
  rw [hue] at hip ⊢
  obtain ⟨p, i, hpaa, ho, hle⟩ := ueIp_octets hd hl hip
  exact ⟨p, hpaa, by rw [hle, octets_le32, ho]⟩

/-- A session is asked for its address by a DHCP datagram. -/
theorem asks_dhcp {core : TwagCore} {x : Input} {p : Packet} {m : Bytes} {xid : UInt32}
    {type : UInt8} (hd : deliver core x = some (m, .dhcp xid type))
    (hp : p.event = some x.event) :
    ∃ d, p = .dhcp d ∧ m = DhcpServer.macAddr d ∧ xid = DhcpServer.xid d ∧
      (DhcpServer.msgType d = .ok 1 ∧ type = 2 ∨ DhcpServer.msgType d = .ok 3 ∧ type = 5) := by
  rcases deliver_dhcp hd with ⟨hx, rfl⟩ | ⟨hx, rfl⟩
  · rw [hx] at hp
    cases comes hp with
    | dhcpDiscover d hb ht => exact ⟨d, rfl, rfl, rfl, .inl ⟨ht, rfl⟩⟩
  · rw [hx] at hp
    cases comes hp with
    | dhcpRequest d hb ht => exact ⟨d, rfl, rfl, rfl, .inr ⟨ht, rfl⟩⟩

/-- A DHCP reply answers a DHCP datagram, with the address of the client's session. -/
theorem reply_cases {ok : Bool} (he : .dhcpResponse mac ip xid type ok ∈ boot.calls h a) :
    ∃ d s, a.packet = .dhcp d ∧ mac = DhcpServer.macAddr d ∧ xid = DhcpServer.xid d ∧
      (DhcpServer.msgType d = .ok 1 ∧ type = 2 ∨ DhcpServer.msgType d = .ok 3 ∧ type = 5) ∧
      (boot.served h).getSession mac = some s ∧ s.state = .connected ∧ s.ueIp ≠ 0 ∧
      ip = s.ueIp := by
  obtain ⟨x, hev, -, he⟩ := mem_calls he
  obtain ⟨m, e, s, hd, hs, he⟩ := effects_stored he (by simp) (by simp)
  obtain ⟨rfl, rfl, rfl, hc, hip⟩ := dhcpResponse_react he
  obtain ⟨d, hp, hm, hxid, ht⟩ := asks_dhcp hd hev
  exact ⟨d, s, hp, hm, hxid, ht, hs, hc, hip, rfl⟩

/-- Every DHCP reply, in every run: it answers a DHCP datagram, for the session of
the client's hardware address, which is CONNECTED; it carries the IPv4 octets of
the PAA IE in the response that made the session so, if that has one PAA IE at
most; it repeats the transaction id and the hardware address; and its options are
well formed, with an Offer for a Discover and an Ack for a Request. -/
theorem dhcp_reply (boot : Boot) (h : List Arrival) (a : Arrival) (mac : Bytes) (ip xid : UInt32)
    (type : UInt8) (ok : Bool) (he : .dhcpResponse mac ip xid type ok ∈ boot.calls h a) :
    let reply := DhcpServer.sendDhcpResponse mac ip xid type
    ∃ d s, a.packet = .dhcp d ∧ mac = upperMac (slice d.buffer 28 6) ∧
      (boot.served h).getSession mac = some s ∧ s.state = .connected ∧
      Since (fun g b => ∃ d', Connects boot mac d' g b ∧ Assigns d' (field reply 16 4))
        (Keeps boot mac) h ∧
      field reply 4 4 = slice d.buffer 4 4 ∧ field reply 28 6 = slice d.buffer 28 6 ∧
      (∃ options, Options (reply.drop 240) options ∧ options.lookup 53 = some [type]) ∧
      (DhcpServer.msgType d = .ok 1 ∧ type = 2 ∨ DhcpServer.msgType d = .ok 3 ∧ type = 5) := by
  intro reply
  obtain ⟨d, s, hp, hm, hxid, ht, hs, hc, hip, rfl⟩ := reply_cases he
  refine ⟨d, s, hp, hm, hs, hc, ?_, ?_, reply_chaddr hm, ?_, ht⟩
  · rw [reply_yiaddr]
    exact assigned hs hc hip
  · rw [reply_xid, hxid, DhcpServer.xid, octets_le32]
  · rw [reply_options hm]
    exact options_reply type

/-- The sample UE is offered the address that the P-GW assigned. -/
theorem dhcp_reply_sample :
    ∃ d s, Packet.dhcp (sampleDhcp 1) = .dhcp d ∧
      (sampleBoot.served sampleConnected).getSession sampleMac = some s ∧ s.state = .connected ∧
      field (DhcpServer.sendDhcpResponse sampleMac (ofOctets 10 1 0 5) (le32 d.buffer 4) 2) 28 6 =
        slice d.buffer 28 6 := by
  obtain ⟨d, s, hd, -, hs, hc, -, -, hch, -⟩ :=
    dhcp_reply sampleBoot sampleConnected ⟨sampleEnv 40000000, .dhcp (sampleDhcp 1)⟩ sampleMac
      (ofOctets 10 1 0 5) (le32 (sampleDhcp 1).buffer 4) 2 true (by decide +kernel)
  cases hd
  exact ⟨_, s, rfl, hs, hc, hch⟩

end Twag.Proof.Gateway

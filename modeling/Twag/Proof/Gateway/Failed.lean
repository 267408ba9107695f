import Twag.Proof.Gateway.Arrivals
import Twag.Proof.Receive.Accounting
import Twag.Proof.Receive.Options

/-!
# Failed and short receives

`recvfrom` returns -1 if it fails, and leaves the buffer as it was, perhaps with a
whole packet of before. Two of the three handlers compare its result with a
`size_t`, and -1 is then a large number; what keeps a failed receive from being
taken for that packet is a later comparison, which is signed:

* RADIUS compares the length in the packet with the result;
* DHCP compares the offset of each option with it, so that no message type is
  found (`msgType_of_le`).

So nothing comes of a receive with fewer bytes than the header of the protocol
(`dropped`), and a run is what it would be without them (`served_filter`,
`accounting_filter`).
-/

namespace Twag.Proof.Gateway

open Twag.Impl Twag.Proof.Receive

/-- The receive failed, or was shorter than the header of the protocol. -/
def Short : Packet → Prop
  | .radius d _ => d.n < 20
  | .dhcp d => d.n < 240
  | .s2a d => d.n < 4
  | _ => False

instance : DecidablePred Short
  | .radius d _ => inferInstanceAs (Decidable (d.n < 20))
  | .dhcp d => inferInstanceAs (Decidable (d.n < 240))
  | .s2a d => inferInstanceAs (Decidable (d.n < 4))
  | .dea _ _ _ => inferInstanceAs (Decidable False)
  | .asr _ => inferInstanceAs (Decidable False)
  | .timer => inferInstanceAs (Decidable False)

/-- In every state the core stays as it is, and makes no call. -/
def Unnoticed (p : Packet) : Prop :=
  ∀ boot h env, Boot.served boot (⟨env, p⟩ :: h) = boot.served h ∧ boot.calls h ⟨env, p⟩ = []

theorem unnoticed_of_event {p : Packet} (he : p.event = none) : Unnoticed p := by
  intro boot h env
  have hi : Arrival.input ⟨env, p⟩ = none := by
    rw [Arrival.input, he]
    rfl
  refine ⟨served_cons_none hi, ?_⟩
  rw [Boot.calls, hi]
  rfl

/-! ## The three handlers -/

section

variable {d : Datagram}

/-- The length in the packet is compared with the result as a signed number. -/
theorem not_hasValidLength (hn : d.n < 20) : ¬ RadiusServer.hasValidLength d := by
  intro hv
  obtain ⟨-, hle, hge⟩ := hv
  omega

theorem radius_dropped (hn : d.n < 20) (c : Option Nat) :
    RadiusServer.handleUdpRx d c = .ok none := by
  rw [RadiusServer.handleUdpRx, if_neg (not_hasValidLength hn)]

theorem accounting_dropped (hn : d.n < 20) (rs : RadiusServer) :
    rs.handleAccounting d = (rs, []) := by
  have hv := not_hasValidLength hn
  rw [RadiusServer.handleAccounting, if_neg fun h => hv h.1, if_neg fun h => hv h.1.1]

/-- No option is looked at. -/
theorem msgType_of_le (hn : d.n ≤ 240) : DhcpServer.msgType d = .ok 0 := by
  have hnil : optionArea d 240 = [] := optionArea_of_le hn
  have hclean : Clean d 240 := by
    rw [Clean, hnil, Options.scan_nil]
    exact .inr (by simp [CutShort])
  rw [msgType_clean hclean, hnil, Options.scan_nil]
  rfl

theorem dhcp_dropped (hn : d.n < 240) : DhcpServer.handleUdpRx d = .ok none := by
  rw [DhcpServer.handleUdpRx]
  split
  · rw [msgType_of_le (Int.le_of_lt hn)]
    rfl
  · rfl

theorem s2a_dropped (hn : d.n < 4) (stale : Stale) :
    S2aInterface.handleUdpRx d = .ok none ∧
      S2aInterface.handleUdpRxSends stale d = .ok none := by
  have hrsp : ¬ S2aInterface.isCreateSessRsp d := fun h => absurd h.1 (Int.not_le.mpr hn)
  have hreq : ¬ S2aInterface.isDelBearerReq d := fun h => absurd h.1 (Int.not_le.mpr hn)
  rw [S2aInterface.handleUdpRx, S2aInterface.handleUdpRxSends, if_neg hrsp, if_neg hreq,
    if_neg hrsp, if_neg hreq]
  exact ⟨rfl, rfl⟩

end

/-! ## What a receive comes to -/

/-- Nothing comes of a receive that failed or is short: the handler returns, without a
call of the core, without sending, and with its own state as it was. -/
structure Dropped (d : Datagram) : Prop where
  radius : d.n < 20 → ∀ c rs, RadiusServer.handleUdpRx d c = .ok none ∧
    RadiusServer.handleAccounting rs d = (rs, []) ∧ Unnoticed (.radius d c)
  dhcp : d.n < 240 → DhcpServer.handleUdpRx d = .ok none ∧ Unnoticed (.dhcp d)
  s2a : d.n < 4 → ∀ stale, S2aInterface.handleUdpRx d = .ok none ∧
    S2aInterface.handleUdpRxSends stale d = .ok none ∧ Unnoticed (.s2a d)

theorem event_of_short {p : Packet} (hs : Short p) : p.event = none := by
  cases p with
  | radius d c => rw [Packet.event, radius_dropped hs]; rfl
  | dhcp d => rw [Packet.event, dhcp_dropped hs]; rfl
  | s2a d => rw [Packet.event, (s2a_dropped hs ⟨fun _ => 0, 0⟩).1]; rfl
  | dea => exact hs.elim
  | asr => exact hs.elim
  | timer => exact hs.elim

/-- Whatever the buffer holds, and whatever `recvfrom` returns. -/
theorem dropped (d : Datagram) : Dropped d where
  radius := fun hn c rs =>
    ⟨radius_dropped hn c, accounting_dropped hn rs, unnoticed_of_event (event_of_short hn)⟩
  dhcp := fun hn => ⟨dhcp_dropped hn, unnoticed_of_event (event_of_short hn)⟩
  s2a := fun hn stale =>
    ⟨(s2a_dropped hn stale).1, (s2a_dropped hn stale).2, unnoticed_of_event (event_of_short hn)⟩

/-- `recvfrom` fails, and the buffer still holds this datagram. -/
def failed (d : Datagram) : Datagram := { d with n := -1 }

/-- A whole Discover and a whole Access-Request are left in the buffer. The first check
of the length lets them pass, and nothing comes of them; nor of three bytes of a
Create Session Response. -/
theorem dropped_sample :
    (DhcpServer.handleUdpRx (sampleDhcp 1) ≠ .ok none ∧
        DhcpServer.isBootRequest (failed (sampleDhcp 1)) ∧
        DhcpServer.handleUdpRx (failed (sampleDhcp 1)) = .ok none) ∧
      (RadiusServer.hasValidLength (sampleRadius 1 []) ∧ 20 ≤ (failed (sampleRadius 1 [])).size ∧
        RadiusServer.handleUdpRx (failed (sampleRadius 1 [])) none = .ok none) ∧
      S2aInterface.handleUdpRx { sampleResponse (causeIe 16) with n := 3 } = .ok none := by
  refine ⟨⟨by decide +kernel, by decide +kernel, ?_⟩, ⟨by decide, by decide, ?_⟩, ?_⟩
  · exact ((dropped (failed (sampleDhcp 1))).dhcp (by decide)).1
  · exact ((dropped (failed (sampleRadius 1 []))).radius (by decide) none (.new [] ⟨0, 0⟩)).1
  · exact ((dropped { sampleResponse (causeIe 16) with n := 3 }).s2a (by decide) ⟨fun _ => 0, 0⟩).1

/-! ## Runs -/

theorem inputs_filter (h : List Arrival) :
    inputs (h.filter fun a => ¬ Short a.packet) = inputs h := by
  rw [inputs, inputs, List.filterMap_filter]
  refine List.filterMap_congr fun a _ => ?_
  by_cases hs : Short a.packet
  · rw [if_neg (by simpa using hs), Arrival.input, event_of_short hs]
    rfl
  · rw [if_pos (by simpa using hs)]

/-- A run is what it would be without its failed and short receives. -/
theorem served_filter (boot : Boot) (h : List Arrival) (a : Arrival) :
    boot.served (h.filter fun a => ¬ Short a.packet) = boot.served h ∧
      boot.calls (h.filter fun a => ¬ Short a.packet) a = boot.calls h a := by
  rw [Boot.served, Boot.calls, inputs_filter]
  exact ⟨rfl, rfl⟩

/-- So is a run of the accounting proxy. -/
theorem accounting_filter (rs : RadiusServer) (h : List Accounted) :
    accounting rs (h.filter fun x => ¬ x.datagram.n < 20) = accounting rs h := by
  induction h with
  | nil => rfl
  | cons x h ih =>
    by_cases hn : x.datagram.n < 20
    · rw [List.filter_cons_of_neg (by simpa using hn), ih, accounting, accounting_dropped hn]
    · rw [List.filter_cons_of_pos (by simpa using hn), accounting, accounting, ih]

end Twag.Proof.Gateway

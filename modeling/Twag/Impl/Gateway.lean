import Twag.Impl.Receive.Dhcp
import Twag.Impl.Receive.Radius
import Twag.Impl.Receive.S2a
import Twag.Impl.Receive.Sta

/-!
# The gateway and its sockets

The core behind the interfaces that call it: what arrives is a datagram on one
of the sockets, a Diameter message, or a turn of the loop over timers. Most of
it leads to one event of the core, or to none. A datagram that a handler does
not come to an end with leads to none.
-/

namespace Twag.Impl

/-- What arrives at the gateway. -/
inductive Packet where
  | radius (d : Datagram) (continues : Option Nat)
  | s2a (d : Datagram)
  | dhcp (d : Datagram)
  /-- A DEA, with the AVPs that the dictionary knows. -/
  | dea (dict : AvpName → Bool) (msg : List Avp) (answers : Option Nat)
  | asr (msg : List Avp)
  | timer

/-- The event that a handler hands to the core, if it comes to an end. -/
def handedOn (r : Except Fault (Option Event)) : Option Event :=
  match r with
  | .ok event => event
  | .error _ => none

/-- The event of the core that a packet leads to. -/
def Packet.event : Packet → Option Event
  | .radius d continues => handedOn (RadiusServer.handleUdpRx d continues)
  | .s2a d => handedOn (S2aInterface.handleUdpRx d)
  | .dhcp d => handedOn (DhcpServer.handleUdpRx d)
  | .dea dict msg answers => (deaCb dict msg).map (.dea · answers)
  | .asr msg => asrCb msg
  | .timer => some .timer

/-- A packet, with what its handler learns from outside. -/
structure Arrival where
  env : Env
  packet : Packet

/-- The core's input that an arrival leads to. -/
def Arrival.input (a : Arrival) : Option Input := a.packet.event.map (⟨a.env, ·⟩)

/-- The history of the core, from the history of what arrived. -/
def inputs (h : List Arrival) : List Input := h.filterMap Arrival.input

/-- The core after what arrived. -/
def Boot.served (boot : Boot) (h : List Arrival) : TwagCore := boot.after (inputs h)

/-- The calls made on an arrival after the history `h`. -/
def Boot.calls (boot : Boot) (h : List Arrival) (a : Arrival) : List Effect :=
  (a.input.map (boot.effects (inputs h))).getD []

end Twag.Impl

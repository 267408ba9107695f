import Mathlib.Data.List.AList
import Twag.Impl.Receive.Radius

/-!
# The accounting proxy (`radius_server.cpp`)

What `RadiusServer::handle_udp_rx` sends by itself. With an accounting server
configured it forwards Accounting-Requests to it as they are, and remembers for
the id of each the client to relay the Accounting-Response to; otherwise it
answers them.
-/

namespace Twag.Impl

/-- `RadiusServer`, as far as accounting goes. -/
structure RadiusServer where
  /-- `config_.acct_server_ip` -/
  acctServerIp : Bytes
  /-- `acct_server_addr_`, which no code writes. -/
  acctServerAddr : SockaddrIn
  pendingAcctReqs : AList fun _ : UInt8 => SockaddrIn

namespace RadiusServer

/-- The constructor. The address of the accounting server is what the memory holds. -/
def new (acctServerIp : Bytes) (memory : SockaddrIn) : RadiusServer := ⟨acctServerIp, memory, ∅⟩

/-- The packet in a datagram, without what is behind it. -/
def packetOf (d : Datagram) : Bytes := slice d.buffer 0 (radLen d)

/-- The Accounting-Response that the gateway makes itself. -/
def acctResponse (d : Datagram) : RadiusResponse where
  clientAddr := d.src
  code := 5
  id := d.buffer 1
  authenticator := .ofFn fun i => d.buffer (4 + i)
  eapPayload := []

/-- An Accounting-Request that passes the length checks. -/
def isAcctRequest (d : Datagram) : Prop := hasValidLength d ∧ d.buffer 0 = 4

/-- An Accounting-Response that passes the length checks. -/
def isAcctResponse (d : Datagram) : Prop := hasValidLength d ∧ d.buffer 0 = 5

instance (d : Datagram) : Decidable (isAcctRequest d) := inferInstanceAs (Decidable (_ ∧ _))

instance (d : Datagram) : Decidable (isAcctResponse d) := inferInstanceAs (Decidable (_ ∧ _))

/-- `handle_udp_rx`: what it does with accounting packets. -/
def handleAccounting (rs : RadiusServer) (d : Datagram) : RadiusServer × List Sendto :=
  if isAcctRequest d then
    if !rs.acctServerIp.isEmpty then
      ({ rs with pendingAcctReqs := rs.pendingAcctReqs.insert (d.buffer 1) d.src },
        [⟨packetOf d, rs.acctServerAddr⟩])
    else
      match responseDatagram (acctResponse d) with
      | .ok bytes => (rs, [⟨bytes, d.src⟩])
      | .error _ => (rs, [])
  -- the sender's port is not looked at
  else if isAcctResponse d ∧ !rs.acctServerIp.isEmpty ∧
      d.src.sinAddr = rs.acctServerAddr.sinAddr then
    match rs.pendingAcctReqs.lookup (d.buffer 1) with
    | some client =>
      ({ rs with pendingAcctReqs := rs.pendingAcctReqs.erase (d.buffer 1) },
        [⟨packetOf d, client⟩])
    | none => (rs, [])
  else (rs, [])

end RadiusServer

end Twag.Impl

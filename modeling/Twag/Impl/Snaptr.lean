import Mathlib.Data.List.Infix
import Twag.Impl.Receive.Datagram

/-!
# The search for a P-GW in the DNS (`twag_core.cpp`)

`TwagCore::resolve_pgw_snaptr`: the NAPTR records of an answer are parsed one by
one, and the best replacement so far is kept. The resolver library is outside; it
is what `Resolver` holds. The walk over a record is given a pointer to its RDATA,
and so it is given the memory from there on: only the first four bytes are
compared with the length of the RDATA.
-/

namespace Twag.Impl

/-- A record of an answer, as `ns_parserr` leaves it. -/
structure Rr where
  type : UInt16
  /-- The memory from `ns_rr_rdata` on. -/
  rdata : Memory
  /-- `ns_rr_rdlen` -/
  rdlen : Nat

/-- The resolver library. -/
structure Resolver where
  /-- The records of the answer to an NAPTR query, if `res_query` and `ns_initparse`
  succeed; `none` in place of one that `ns_parserr` fails on. -/
  resQuery : Bytes → Option (List (Option Rr))
  /-- `dn_expand` of the name at a position of the RDATA. -/
  dnExpand : Rr → Nat → Option Bytes
  /-- The text of the first address of a name; empty if it is neither IPv4 nor IPv6. -/
  getaddrinfo : Bytes → Option Bytes

/-! ## The walk over a record -/

section

variable (rdata : Memory)

def naptrOrder : Nat := be16 rdata 0

def naptrPref : Nat := be16 rdata 2

/-- Where `svc_len` is: behind `flags_len` and the flags. -/
def svcPos : Nat := 5 + (rdata 4).toNat

/-- `svc_len` -/
def svcLen : Nat := (rdata (svcPos rdata)).toNat

/-- `services` -/
def naptrServices : Bytes := slice rdata (svcPos rdata + 1) (svcLen rdata)

/-- Where `reg_len` is. -/
def regPos : Nat := svcPos rdata + 1 + svcLen rdata

/-- Where the replacement is: behind `reg_len` and the regexp. -/
def replacementPos : Nat := regPos rdata + 1 + (rdata (regPos rdata)).toNat

/-- The walk reads byte `i`: `order`, `pref`, `flags_len`, and from `svc_len` on up to
`reg_len`. -/
def NaptrReads (i : Nat) : Prop := i < 5 ∨ svcPos rdata ≤ i ∧ i ≤ regPos rdata

end

/-- A record that was parsed. -/
structure Naptr where
  order : Nat
  pref : Nat
  services : Bytes
  replacement : Bytes
deriving DecidableEq, Repr

/-- The body of the loop over the answer up to `dn_expand`. The type of NAPTR records is 35. -/
def parseNaptr (dns : Resolver) (rr : Rr) : Option Naptr :=
  if rr.type = 35 ∧ 4 ≤ rr.rdlen then
    (dns.dnExpand rr (replacementPos rr.rdata)).map fun replacement =>
      ⟨naptrOrder rr.rdata, naptrPref rr.rdata, naptrServices rr.rdata, replacement⟩
  else none

/-! ## The best record -/

/-- `best_replacement`, `best_order` and `best_pref`. -/
structure Best where
  replacement : Bytes
  order : Nat
  pref : Nat
deriving DecidableEq, Repr

/-- What they are before the loop. -/
def Best.start : Best := ⟨[], 65536, 65536⟩

def Naptr.best (r : Naptr) : Best := ⟨r.replacement, r.order, r.pref⟩

/-- `is_target_service` -/
def Naptr.isTargetService (r : Naptr) : Bool :=
  decide (ascii "x-3gpp-pgw:x-s2a-gtp" <:+: r.services)

/-- The body of the loop from `is_target_service` on. -/
def considerNaptr (best : Best) (r : Naptr) : Best :=
  if r.isTargetService || best.replacement.isEmpty then
    if best.replacement.isEmpty || decide (r.order < best.order) ||
        decide (r.order = best.order ∧ r.pref < best.pref) then r.best
    else best
  else best

/-- What the loop leaves. -/
def selectNaptr (records : List Naptr) : Best := records.foldl considerNaptr .start

/-- `resolve_pgw_snaptr`: the address of the P-GW, empty where none is found. -/
def resolvePgwSnaptr (dns : Resolver) (apnFqdn : Bytes) : Bytes :=
  match dns.resQuery (cStr apnFqdn) with
  | none => []
  | some answer =>
    let best := selectNaptr (answer.filterMap fun rr => rr.bind (parseNaptr dns))
    if best.replacement.isEmpty then []
    else (dns.getaddrinfo (cStr best.replacement)).getD []

end Twag.Impl

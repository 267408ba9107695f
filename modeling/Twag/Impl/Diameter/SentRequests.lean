import Twag.Framework.InsertBack
import Twag.Impl.Basic

/-!
# Requests that wait for an answer (`libfdcore/p_sr.c`, `libfdcore/p_out.c`)

A peer's threads give each request that they send the next hop-by-hop id, and
keep it in a list ordered by that id, and in a second one ordered by the time
its answer is due, if it has one. The list's key is the id in the request's own
header. Two entries are told apart by it; where a pointer to an entry is
followed in both lists, the key is.

A request leaves the lists with the answer, when its time is over, or when the
connection ends; its own hop-by-hop id is then set back.

The threads take `p_hbh` without a lock; here a request is given its id and stored in
one step. A failed `malloc` is left out, also that of the queue that a request is put
in to be sent to another peer.
-/

namespace Twag.Impl.Diameter

/-- A request, and what the threads read of it: `msg_hbhid`, the T flag,
`fd_msg_is_routable` and `fd_msg_anscb_gettimeout`. -/
structure Request (α : Type) where
  hbhid : UInt32
  retransmit : Bool
  routable : Bool
  timeout : Option Time
  body : α
deriving DecidableEq, Repr

/-- `struct sentreq` -/
structure Sentreq (α : Type) where
  req : Request α
  prevhbh : UInt32
deriving DecidableEq, Repr

/-- `struct sr_list` -/
structure SrList (α : Type) where
  srs : List (Sentreq α)
  exp : List (Sentreq α)
  cnt : Int
  cntLost : Int

variable {α : Type}

namespace Sentreq

/-- `chain.o` -/
def hbh (sr : Sentreq α) : UInt32 := sr.req.hbhid

/-- `timeout`, 0 where there is none. -/
def timeout (sr : Sentreq α) : Time := sr.req.timeout.getD 0

/-- The request with its own hop-by-hop id. -/
def restored (sr : Sentreq α) : Request α := { sr.req with hbhid := sr.prevhbh }

end Sentreq

/-- `fd_list_unlink` -/
def unlink (hbh : UInt32) (l : List (Sentreq α)) : List (Sentreq α) := l.eraseP fun s => s.hbh = hbh

namespace SrList

def empty : SrList α := ⟨[], [], 0, 0⟩

/-- `fd_p_sr_store` of a request that has its new id; `EINVAL` where the id is in use. -/
def store (l : SrList α) (req : Request α) (hbhRestore : UInt32) : Option (SrList α) :=
  let sr : Sentreq α := ⟨req, hbhRestore⟩
  let later (s : Sentreq α) : Bool := req.hbhid < s.hbh
  -- `find_or_prev`
  if (l.srs.rdropWhile later).getLast?.any fun s => s.hbh = req.hbhid then none
  else
    some
      { l with
        srs := insertBack later sr l.srs
        exp := if req.timeout.isSome then insertBack (fun s => !(s.timeout < sr.timeout)) sr l.exp
          else l.exp
        cnt := l.cnt + 1 }

/-- `fd_p_sr_fetch` -/
def fetch (l : SrList α) (hbh : UInt32) : Option (Request α) × SrList α :=
  -- `find_or_next`
  match (l.srs.dropWhile fun s => s.hbh < hbh).head? with
  | some sr =>
    if sr.hbh = hbh then
      (some sr.restored,
        { l with srs := unlink sr.hbh l.srs, exp := unlink sr.hbh l.exp, cnt := l.cnt - 1 })
    else (none, { l with cntLost := if 0 < l.cntLost then l.cntLost - 1 else l.cntLost })
  | none => (none, { l with cntLost := if 0 < l.cntLost then l.cntLost - 1 else l.cntLost })

/-- One turn of `sr_expiry_th`: the request that it gives to its callback, if one is due. -/
def expire (l : SrList α) (now : Time) : Option (Request α) × SrList α :=
  match l.exp with
  | [] => (none, l)
  | first :: exp =>
    if now < first.timeout then (none, l)
    else
      (some first.restored,
        { srs := unlink first.hbh l.srs, exp := exp, cnt := l.cnt - 1, cntLost := l.cntLost + 1 })

end SrList

/-- What becomes of a request. -/
inductive Fate (α : Type) where
  /-- The answer is associated with it. -/
  | answered (req : Request α)
  /-- It is freed with its answer, which the peer's machine does not pass on. -/
  | dropped (req : Request α)
  /-- It is given to its `expirecb`. -/
  | expired (req : Request α)
  /-- It is sent to another peer. -/
  | requeued (req : Request α)
  | freed (req : Request α)
  /-- It could not be stored, and is freed. -/
  | refused (req : Request α)
deriving DecidableEq, Repr

/-- One request in `fd_p_sr_failover`. -/
def failoverOne (sr : Sentreq α) : Fate α :=
  if sr.req.routable then .requeued { sr.restored with retransmit := true } else .freed sr.req

/-- The loop of `fd_p_sr_failover`. -/
def failoverLoop : List (Sentreq α) → List (Sentreq α) → Int →
    List (Fate α) × List (Sentreq α) × Int
  | [], exp, cnt => ([], exp, cnt)
  | sr :: srs, exp, cnt =>
    let (fates, exp, cnt) := failoverLoop srs (unlink sr.hbh exp) (cnt - 1)
    (failoverOne sr :: fates, exp, cnt)

/-- The loop of `fd_p_sr_on_disconnect`: what stays, and what is freed. -/
def disconnectLoop : List (Sentreq α) → List (Sentreq α) → Int →
    List (Fate α) × List (Sentreq α) × List (Sentreq α) × Int
  | [], exp, cnt => ([], [], exp, cnt)
  | sr :: srs, exp, cnt =>
    if sr.req.routable then
      let (fates, kept, exp, cnt) := disconnectLoop srs exp cnt
      (fates, sr :: kept, exp, cnt)
    else
      let (fates, kept, exp, cnt) := disconnectLoop srs (unlink sr.hbh exp) (cnt - 1)
      (.freed sr.req :: fates, kept, exp, cnt)

/-- What happens to a peer's requests. -/
inductive PeerEvent (α : Type) where
  /-- `do_send` -/
  | send (req : Request α)
  /-- An answer with this hop-by-hop id is received. -/
  | answer (hbh : UInt32)
  /-- The expiry thread looks at the clock. -/
  | expire (now : Time)
  | disconnect
  | failover
deriving DecidableEq, Repr

/-- `p_hbh` and `p_sr` of a peer. -/
structure Peer (α : Type) where
  hbh : UInt32
  sr : SrList α

namespace Peer

def step (peer : Peer α) : PeerEvent α → Peer α × List (Fate α)
  | .send req =>
    let sent : Request α := { req with hbhid := peer.hbh }
    match peer.sr.store sent req.hbhid with
    | none => (⟨peer.hbh + 1, peer.sr⟩, [.refused sent])
    | some sr => (⟨peer.hbh + 1, sr⟩, [])
  | .answer hbh =>
    let (req, sr) := peer.sr.fetch hbh
    (⟨peer.hbh, sr⟩, (req.map Fate.answered).toList)
  | .expire now =>
    let (req, sr) := peer.sr.expire now
    (⟨peer.hbh, sr⟩, (req.map Fate.expired).toList)
  | .disconnect =>
    let (fates, kept, exp, cnt) := disconnectLoop peer.sr.srs peer.sr.exp peer.sr.cnt
    (⟨peer.hbh, { peer.sr with srs := kept, exp := exp, cnt := cnt }⟩, fates)
  | .failover =>
    let (fates, exp, cnt) := failoverLoop peer.sr.srs peer.sr.exp peer.sr.cnt
    (⟨peer.hbh, { peer.sr with srs := [], exp := exp, cnt := cnt }⟩, fates)

/-- The peer after a history, the newest event first, where `hbh` was the first id. -/
def after (hbh : UInt32) : List (PeerEvent α) → Peer α
  | [] => ⟨hbh, .empty⟩
  | e :: h => ((after hbh h).step e).1

/-- What became of requests in a history. -/
def fates (hbh : UInt32) : List (PeerEvent α) → List (Fate α)
  | [] => []
  | e :: h => ((after hbh h).step e).2 ++ fates hbh h

end Peer

end Twag.Impl.Diameter

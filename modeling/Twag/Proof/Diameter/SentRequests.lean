import Mathlib.Data.List.Forall2
import Mathlib.Data.List.Nodup
import Mathlib.Data.Nat.ModEq
import Mathlib.Logic.Function.Iterate
import Twag.Impl.Diameter.SentRequests

/-!
# No request is lost or answered twice

A `Table` is what the two lists of sent requests are: ordered by hop-by-hop id
with no id twice, the second one the requests of the first that have a timeout,
ordered by it, and the counter their number. Every operation keeps it, and
`step_cases` says what an event takes out or puts in.

* `sent_ledger`: after any history each request that was sent waits in the
  list or has had one fate, and the assertions at the end of a failover hold;
* `answers_matched`: an answer goes to the one request that waits with its id,
  which is then answered no more; a request is refused only if one that was sent
  2³² requests before it, or a multiple of that, still waits;
* `expiry_exact`: the expiry thread takes the requests that are due, the earliest first, and
  no other.
-/

namespace Twag.Proof.Diameter

open Twag.Impl (Time)
open Twag.Impl.Diameter

variable {α : Type}

/-! ## The lists -/

structure Table (l : SrList α) : Prop where
  sorted : l.srs.Pairwise fun a b => a.hbh < b.hbh
  exp : l.exp.Perm (l.srs.filter fun s => s.req.timeout.isSome)
  due : l.exp.Pairwise fun a b => a.timeout ≤ b.timeout
  cnt : l.cnt = l.srs.length

theorem table_empty : Table (.empty : SrList α) :=
  ⟨List.Pairwise.nil, .refl _, List.Pairwise.nil, rfl⟩

theorem Table.nodup {l : SrList α} (h : Table l) : (l.srs.map Sentreq.hbh).Nodup :=
  List.pairwise_map.2 (h.sorted.imp fun hlt => UInt32.ne_of_lt hlt)

theorem Table.hbh_inj {l : SrList α} (h : Table l) {a b : Sentreq α} (ha : a ∈ l.srs)
    (hb : b ∈ l.srs) (hab : a.hbh = b.hbh) : a = b :=
  List.inj_on_of_nodup_map h.nodup ha hb hab

theorem Table.mem_exp {l : SrList α} (h : Table l) {sr : Sentreq α} :
    sr ∈ l.exp ↔ sr ∈ l.srs ∧ sr.req.timeout.isSome = true := by
  rw [h.exp.mem_iff, List.mem_filter]

theorem unlink_cons_self (sr : Sentreq α) (l : List (Sentreq α)) : unlink sr.hbh (sr :: l) = l :=
  List.eraseP_cons_of_pos (by simp)

theorem unlink_of_forall_ne {hbh : UInt32} {l : List (Sentreq α)} (h : ∀ s ∈ l, s.hbh ≠ hbh) :
    unlink hbh l = l :=
  List.eraseP_of_forall_not fun s hs => by simpa using h s hs

theorem unlink_sublist (hbh : UInt32) (l : List (Sentreq α)) : (unlink hbh l).Sublist l :=
  List.eraseP_sublist

theorem perm_unlink {sr : Sentreq α} {l : List (Sentreq α)} (h : sr ∈ l)
    (hinj : ∀ s ∈ l, s.hbh = sr.hbh → s = sr) : l.Perm (sr :: unlink sr.hbh l) := by
  obtain ⟨s, before, rest, -, hs, hl, herase⟩ :=
    List.exists_of_eraseP (p := fun s => s.hbh = sr.hbh) h (by simp)
  have hsr : s = sr := hinj s (by rw [hl]; simp) (by simpa using hs)
  rw [unlink, herase, hl, hsr]
  exact List.perm_middle

/-- An id is not in the list any more when its entry is unlinked. -/
theorem Table.hbh_ne_of_mem_unlink {l : SrList α} (h : Table l) {sr : Sentreq α}
    (hsr : sr ∈ l.srs) : ∀ s ∈ unlink sr.hbh l.srs, s.hbh ≠ sr.hbh := by
  have hperm := (perm_unlink hsr fun s hs => h.hbh_inj hs hsr).map Sentreq.hbh
  have hnodup := hperm.nodup_iff.1 h.nodup
  rw [List.map_cons, List.nodup_cons] at hnodup
  intro s hs heq
  exact hnodup.1 (List.mem_map.2 ⟨s, hs, heq⟩)

/-- An entry is taken out of both lists. -/
theorem Table.remove {l : SrList α} (h : Table l) {sr : Sentreq α} (hsr : sr ∈ l.srs)
    (cntLost : Int) :
    Table ⟨unlink sr.hbh l.srs, unlink sr.hbh l.exp, l.cnt - 1, cntLost⟩ := by
  have hperm := perm_unlink hsr fun s hs => h.hbh_inj hs hsr
  have hfilter := hperm.filter fun s => s.req.timeout.isSome
  refine ⟨h.sorted.sublist (unlink_sublist _ _), ?_, h.due.sublist (unlink_sublist _ _), ?_⟩
  · by_cases ht : sr.req.timeout.isSome = true
    · have hout := perm_unlink (h.mem_exp.2 ⟨hsr, ht⟩) fun s hs => h.hbh_inj (h.mem_exp.1 hs).1 hsr
      simp only [List.filter_cons, ht, if_true] at hfilter
      exact (hout.symm.trans (h.exp.trans hfilter)).cons_inv
    · have hne : ∀ s ∈ l.exp, s.hbh ≠ sr.hbh := fun s hs heq =>
        ht (h.hbh_inj (h.mem_exp.1 hs).1 hsr heq ▸ (h.mem_exp.1 hs).2)
      simp only [List.filter_cons, ht] at hfilter
      show (unlink sr.hbh l.exp).Perm _
      rw [unlink_of_forall_ne hne]
      exact h.exp.trans hfilter
  · have hlen := hperm.length_eq
    have hcnt := h.cnt
    rw [List.length_cons] at hlen
    show l.cnt - 1 = ((unlink sr.hbh l.srs).length : Int)
    omega

/-- A new entry goes into both lists, if its id is not in use. -/
theorem Table.store {l l' : SrList α} (h : Table l) {req : Request α} {hbhRestore : UInt32}
    (hl : l.store req hbhRestore = some l') :
    Table l' ∧ l'.srs.Perm (⟨req, hbhRestore⟩ :: l.srs) := by
  rw [SrList.store] at hl
  split at hl
  · cases hl
  · rename_i hfree
    rw [Option.some.injEq] at hl
    subst hl
    have hperm : (insertBack (fun s => decide (req.hbhid < s.hbh)) ⟨req, hbhRestore⟩ l.srs).Perm
        (⟨req, hbhRestore⟩ :: l.srs) := perm_insertBack
    refine ⟨⟨?_, ?_, ?_, ?_⟩, hperm⟩
    · refine pairwise_insertBack (fun x y z => UInt32.lt_trans) h.sorted (fun x _ hx => ?_)
        fun x hx => ?_
      · exact of_decide_eq_true hx
      · have hle := not_later_of_getLast? hx
        rw [hx] at hfree
        simp only [Option.any_some, decide_eq_true_eq] at hfree
        simp only [decide_eq_false_iff_not, UInt32.not_lt] at hle
        exact UInt32.lt_of_le_of_ne hle hfree
    · refine List.Perm.trans ?_ (hperm.filter fun s => s.req.timeout.isSome).symm
      by_cases ht : req.timeout.isSome = true
      · simp only [List.filter_cons, ht, if_true]
        exact perm_insertBack.trans (h.exp.cons _)
      · simp only [List.filter_cons, ht]
        exact h.exp
    · by_cases ht : req.timeout.isSome = true
      · simp only [ht, if_true]
        refine pairwise_insertBack (fun x y z => Nat.le_trans) h.due (fun x _ hx => ?_)
          fun x hx => ?_
        · simpa using hx
        · have hlt := not_later_of_getLast? hx
          simp only [Bool.not_eq_false', decide_eq_true_eq] at hlt
          exact Nat.le_of_lt hlt
      · simp only [ht]
        exact h.due
    · have hlen := hperm.length_eq
      have hcnt := h.cnt
      rw [List.length_cons] at hlen
      simp only [hlen]
      omega

theorem used_of_store_eq_none {l : SrList α} {req : Request α} {hbhRestore : UInt32}
    (hl : l.store req hbhRestore = none) : ∃ sr ∈ l.srs, sr.hbh = req.hbhid := by
  rw [SrList.store] at hl
  split at hl
  · rename_i hused
    obtain ⟨sr, hlast, hsr⟩ := (Option.any_eq_true _ _).1 hused
    exact ⟨sr, (List.rdropWhile_prefix _ _).mem (List.mem_of_getLast? hlast),
      of_decide_eq_true hsr⟩
  · cases hl

/-- The search of `find_or_next` in an ordered list. -/
theorem head?_dropWhile_of_mem {l : List (Sentreq α)} (h : l.Pairwise fun a b => a.hbh < b.hbh)
    {sr : Sentreq α} (hsr : sr ∈ l) : (l.dropWhile fun s => s.hbh < sr.hbh).head? = some sr := by
  induction l with
  | nil => cases hsr
  | cons x l ih =>
    rw [List.pairwise_cons] at h
    obtain rfl | hmem := List.mem_cons.1 hsr
    · rw [List.dropWhile_cons_of_neg (by simp), List.head?_cons]
    · rw [List.dropWhile_cons_of_pos (by simpa using h.1 sr hmem)]
      exact ih h.2 hmem

theorem fetch_of_mem {l : SrList α} (h : Table l) {sr : Sentreq α} (hsr : sr ∈ l.srs) :
    l.fetch sr.hbh = (some sr.restored,
      { l with srs := unlink sr.hbh l.srs, exp := unlink sr.hbh l.exp, cnt := l.cnt - 1 }) := by
  rw [SrList.fetch, head?_dropWhile_of_mem h.sorted hsr]
  exact if_pos rfl

theorem fetch_of_forall_ne {l : SrList α} {hbh : UInt32} (h : ∀ sr ∈ l.srs, sr.hbh ≠ hbh) :
    ∃ cntLost, l.fetch hbh = (none, { l with cntLost := cntLost }) := by
  rw [SrList.fetch]
  split
  · rename_i sr hhead
    have hmem : sr ∈ l.srs := (List.dropWhile_sublist _).mem (List.mem_of_mem_head? hhead)
    exact ⟨_, if_neg (h sr hmem)⟩
  · exact ⟨_, rfl⟩

theorem Table.withLost {l : SrList α} (h : Table l) (cntLost : Int) :
    Table { l with cntLost := cntLost } :=
  ⟨h.sorted, h.exp, h.due, h.cnt⟩

/-! ## What an event does -/

/-- What can become of a request that was sent as `sr`. -/
def FateOf (sr : Sentreq α) : Fate α → Prop
  | .answered req => req = sr.restored
  | .dropped _ => False
  | .expired req => req = sr.restored
  | .requeued req => req = { sr.restored with retransmit := true } ∧ sr.req.routable = true
  | .freed req => req = sr.req ∧ sr.req.routable = false
  | .refused req => req = sr.req

/-- From `l` to `l'` the entries `out` leave the table with these fates. -/
structure Leaves (l l' : SrList α) (out : List (Sentreq α)) (fates : List (Fate α)) : Prop where
  table : Table l'
  perm : l.srs.Perm (l'.srs ++ out)
  fates : List.Forall₂ FateOf out fates

theorem Leaves.none {l : SrList α} (h : Table l) (cntLost : Int) :
    Leaves l { l with cntLost := cntLost } [] [] :=
  ⟨h.withLost cntLost, by simp, .nil⟩

theorem Leaves.one {l : SrList α} (h : Table l) {sr : Sentreq α} (hsr : sr ∈ l.srs)
    (cntLost : Int) {fate : Fate α} (hfate : FateOf sr fate) :
    Leaves l ⟨unlink sr.hbh l.srs, unlink sr.hbh l.exp, l.cnt - 1, cntLost⟩ [sr] [fate] :=
  ⟨h.remove hsr cntLost,
    (perm_unlink hsr fun _ hs => h.hbh_inj hs hsr).trans (List.perm_append_singleton _ _).symm,
    .cons hfate .nil⟩

theorem fetch_leaves {l : SrList α} (h : Table l) (hbh : UInt32) :
    ∃ out, Leaves l (l.fetch hbh).2 out ((l.fetch hbh).1.map Fate.answered).toList := by
  by_cases hmem : ∃ sr ∈ l.srs, sr.hbh = hbh
  · obtain ⟨sr, hsr, rfl⟩ := hmem
    rw [fetch_of_mem h hsr]
    exact ⟨[sr], Leaves.one h hsr _ rfl⟩
  · obtain ⟨cntLost, heq⟩ := fetch_of_forall_ne fun sr hsr hbhEq => hmem ⟨sr, hsr, hbhEq⟩
    rw [heq]
    exact ⟨[], Leaves.none h cntLost⟩

theorem expire_leaves {l : SrList α} (h : Table l) (now : Time) :
    ∃ out, Leaves l (l.expire now).2 out ((l.expire now).1.map Fate.expired).toList := by
  rw [SrList.expire]
  split
  · exact ⟨[], Leaves.none h _⟩
  · rename_i first exp hexp
    have hfirst : first ∈ l.srs := (h.mem_exp.1 (hexp ▸ List.mem_cons_self)).1
    have hunlink : unlink first.hbh l.exp = exp := by rw [hexp, unlink_cons_self]
    split
    · exact ⟨[], Leaves.none h _⟩
    · rw [← hunlink]
      exact ⟨[first], Leaves.one h hfirst _ rfl⟩

/-- By induction on the list, which with what is left of `exp` and the counter is a table. -/
theorem failoverLoop_leaves (cntLost : Int) {srs exp : List (Sentreq α)} {cnt : Int}
    (h : Table ⟨srs, exp, cnt, cntLost⟩) :
    List.Forall₂ FateOf srs (failoverLoop srs exp cnt).1 ∧
      (failoverLoop srs exp cnt).2 = ([], 0) := by
  induction srs generalizing exp cnt with
  | nil =>
    have hexp : exp = [] := h.exp.eq_nil
    have hcnt : cnt = 0 := h.cnt
    rw [failoverLoop, hexp, hcnt]
    exact ⟨.nil, rfl⟩
  | cons sr srs ih =>
    have hrest := h.remove List.mem_cons_self cntLost
    rw [unlink_cons_self] at hrest
    obtain ⟨hfates, hend⟩ := ih hrest
    refine ⟨.cons ?_ hfates, hend⟩
    unfold failoverOne
    split
    · exact ⟨rfl, ‹_›⟩
    · exact ⟨rfl, by simpa using ‹¬sr.req.routable = true›⟩

/-- By induction on the rest of the list; those that stay stand before it. -/
theorem disconnectLoop_leaves (cntLost : Int) {srs exp : List (Sentreq α)} {cnt : Int}
    (before : List (Sentreq α)) (h : Table ⟨before ++ srs, exp, cnt, cntLost⟩) :
    ∃ out, Table ⟨before ++ (disconnectLoop srs exp cnt).2.1, (disconnectLoop srs exp cnt).2.2.1,
        (disconnectLoop srs exp cnt).2.2.2, cntLost⟩ ∧
      srs.Perm ((disconnectLoop srs exp cnt).2.1 ++ out) ∧
      List.Forall₂ FateOf out (disconnectLoop srs exp cnt).1 := by
  induction srs generalizing exp cnt before with
  | nil => exact ⟨[], h, .refl _, .nil⟩
  | cons sr srs ih =>
    rw [disconnectLoop]
    split
    · obtain ⟨out, htable, hperm, hfates⟩ := ih (before ++ [sr]) (by simpa using h)
      exact ⟨out, by simpa using htable, hperm.cons sr, hfates⟩
    · rename_i hroutable
      have hmem : sr ∈ before ++ sr :: srs := by simp
      have hne : ∀ s ∈ before, s.hbh ≠ sr.hbh := fun s hs =>
        UInt32.ne_of_lt ((List.pairwise_append.1 h.sorted).2.2 s hs sr List.mem_cons_self)
      have hunlink : unlink sr.hbh (before ++ sr :: srs) = before ++ srs := by
        rw [unlink, List.eraseP_append_right _ (by simpa using hne)]
        exact congrArg (before ++ ·) (unlink_cons_self sr srs)
      have hrest := h.remove hmem cntLost
      simp only [hunlink] at hrest
      obtain ⟨out, htable, hperm, hfates⟩ := ih before hrest
      exact ⟨sr :: out, htable, (hperm.cons sr).trans List.perm_middle.symm,
        .cons ⟨rfl, by simpa using hroutable⟩ hfates⟩

/-- The entry of a request that `peer` sends. -/
def entry (hbh : UInt32) (req : Request α) : Sentreq α := ⟨{ req with hbhid := hbh }, req.hbhid⟩

/-- Everything that an event can do to the table. -/
theorem step_cases {peer : Peer α} (h : Table peer.sr) (e : PeerEvent α) :
    (∃ req, e = .send req ∧ (peer.step e).1.hbh = peer.hbh + 1 ∧
      ((Table (peer.step e).1.sr ∧ (peer.step e).2 = [] ∧
          (peer.step e).1.sr.srs.Perm (entry peer.hbh req :: peer.sr.srs)) ∨
        ((peer.step e).1.sr = peer.sr ∧ (peer.step e).2 = [.refused (entry peer.hbh req).req] ∧
          ∃ sr ∈ peer.sr.srs, sr.hbh = peer.hbh))) ∨
    ((∀ req, e ≠ .send req) ∧ (peer.step e).1.hbh = peer.hbh ∧
      ∃ out, Leaves peer.sr (peer.step e).1.sr out (peer.step e).2) := by
  cases e with
  | send req =>
    refine .inl ⟨req, rfl, ?_⟩
    cases hstore : peer.sr.store { req with hbhid := peer.hbh } req.hbhid with
    | none =>
      simp only [Peer.step, hstore]
      exact ⟨trivial, .inr ⟨trivial, rfl, used_of_store_eq_none hstore⟩⟩
    | some sr =>
      simp only [Peer.step, hstore]
      obtain ⟨htable, hperm⟩ := h.store hstore
      exact ⟨trivial, .inl ⟨htable, trivial, hperm⟩⟩
  | answer hbh => exact .inr ⟨nofun, rfl, fetch_leaves h hbh⟩
  | expire now => exact .inr ⟨nofun, rfl, expire_leaves h now⟩
  | disconnect =>
    obtain ⟨out, htable, hperm, hfates⟩ := disconnectLoop_leaves peer.sr.cntLost [] h
    exact .inr ⟨nofun, rfl, out, htable, hperm, hfates⟩
  | failover =>
    obtain ⟨hfates, hend⟩ := failoverLoop_leaves peer.sr.cntLost h
    refine .inr ⟨nofun, rfl, peer.sr.srs, ?_, .refl _, hfates⟩
    simp only [Peer.step, hend]
    exact table_empty.withLost _

/-! ## Histories -/

/-- The entries of the requests sent in a history, the newest first; the ids are
consecutive from `hbh`. -/
def sentAs (hbh : UInt32) : List (PeerEvent α) → List (Sentreq α)
  | [] => []
  | .send req :: h => entry (hbh + UInt32.ofNat (sentAs hbh h).length) req :: sentAs hbh h
  | _ :: h => sentAs hbh h

theorem sentAs_of_ne_send (hbh : UInt32) {e : PeerEvent α} (he : ∀ req, e ≠ .send req)
    (h : List (PeerEvent α)) : sentAs hbh (e :: h) = sentAs hbh h := by
  cases e with
  | send req => exact absurd rfl (he req)
  | _ => rfl

/-- What holds after a history. -/
structure Account (hbh : UInt32) (h : List (PeerEvent α)) (ended : List (Sentreq α)) : Prop where
  table : Table (Peer.after hbh h).sr
  next : (Peer.after hbh h).hbh = hbh + UInt32.ofNat (sentAs hbh h).length
  perm : (sentAs hbh h).Perm ((Peer.after hbh h).sr.srs ++ ended)
  fates : List.Forall₂ FateOf ended (Peer.fates hbh h)

theorem account (hbh : UInt32) (h : List (PeerEvent α)) : ∃ ended, Account hbh h ended := by
  induction h with
  | nil => exact ⟨[], table_empty, by simp [Peer.after, sentAs], .refl _, .nil⟩
  | cons e h ih =>
    obtain ⟨ended, htable, hnext, hperm, hfates⟩ := ih
    obtain ⟨req, rfl, hid, hstored | hrefused⟩ | ⟨hne, hid, out, hleaves⟩ := step_cases htable e
    · obtain ⟨htable', hnone, hin⟩ := hstored
      refine ⟨ended, htable', ?_, ?_, ?_⟩
      · rw [Peer.after, hid, hnext, sentAs, List.length_cons]
        simp [UInt32.add_assoc]
      · rw [Peer.after, sentAs, ← hnext]
        exact (hperm.cons _).trans (hin.append_right ended).symm
      · rw [Peer.fates, hnone]
        exact hfates
    · obtain ⟨hsame, hfate, -⟩ := hrefused
      refine ⟨entry (Peer.after hbh h).hbh req :: ended, ?_, ?_, ?_, ?_⟩
      · rw [Peer.after, hsame]
        exact htable
      · rw [Peer.after, hid, hnext, sentAs, List.length_cons]
        simp [UInt32.add_assoc]
      · rw [Peer.after, hsame, sentAs, ← hnext]
        exact (hperm.cons _).trans List.perm_middle.symm
      · rw [Peer.fates, hfate]
        exact .cons rfl hfates
    · refine ⟨out ++ ended, hleaves.table, ?_, ?_, ?_⟩
      · rw [Peer.after, hid, hnext, sentAs_of_ne_send hbh hne]
      · rw [sentAs_of_ne_send hbh hne, Peer.after, ← List.append_assoc]
        exact hperm.trans (hleaves.perm.append_right ended)
      · rw [Peer.fates]
        exact List.rel_append hleaves.fates hfates

/-- The requests that were sent, with their ids, are those that wait and those that have had
a fate, each once; the counter counts those that wait, and a failover leaves none. -/
theorem sent_ledger (hbh : UInt32) (h : List (PeerEvent α)) :
    (∃ ended, (sentAs hbh h).Perm ((Peer.after hbh h).sr.srs ++ ended) ∧
      List.Forall₂ FateOf ended (Peer.fates hbh h)) ∧
    (Peer.after hbh h).sr.cnt = (Peer.after hbh h).sr.srs.length ∧
    (Peer.after hbh (.failover :: h)).sr.srs = [] ∧
    (Peer.after hbh (.failover :: h)).sr.exp = [] ∧
    (Peer.after hbh (.failover :: h)).sr.cnt = 0 := by
  obtain ⟨ended, htable, -, hperm, hfates⟩ := account hbh h
  obtain ⟨-, hend⟩ := failoverLoop_leaves _ htable
  refine ⟨⟨ended, hperm, hfates⟩, htable.cnt, rfl, ?_, ?_⟩
  · simp only [Peer.after, Peer.step, hend]
  · simp only [Peer.after, Peer.step, hend]

/-- The `k`-th request of a history has the `k`-th id. -/
theorem exists_index_of_mem_sentAs {hbh : UInt32} {h : List (PeerEvent α)} {sr : Sentreq α}
    (hsr : sr ∈ sentAs hbh h) :
    ∃ k < (sentAs hbh h).length, (sentAs hbh h).reverse[k]? = some sr ∧
      sr.hbh = hbh + UInt32.ofNat k := by
  induction h with
  | nil => cases hsr
  | cons e h ih =>
    by_cases he : ∀ req, e ≠ .send req
    · rw [sentAs_of_ne_send hbh he] at hsr ⊢
      exact ih hsr
    · simp only [ne_eq, not_forall, not_not] at he
      obtain ⟨req, rfl⟩ := he
      rw [sentAs] at hsr ⊢
      rw [List.length_cons, List.reverse_cons]
      obtain rfl | hmem := List.mem_cons.1 hsr
      · exact ⟨(sentAs hbh h).length, Nat.lt_succ_self _, by simp, rfl⟩
      · obtain ⟨k, hk, hget, hid⟩ := ih hmem
        refine ⟨k, Nat.lt_succ_of_lt hk, ?_, hid⟩
        rw [List.getElem?_append_left (by simpa using hk), hget]

/-- Two ids that are the same are a multiple of 2³² requests apart. -/
theorem dvd_sub_of_hbh_eq {hbh : UInt32} {k n : Nat} (hk : k < n)
    (h : hbh + UInt32.ofNat k = hbh + UInt32.ofNat n) : 2 ^ 32 ∣ n - k := by
  have hmod : k % 2 ^ 32 = n % 2 ^ 32 := by
    have hnat := congrArg UInt32.toNat ((UInt32.add_right_inj hbh).1 h)
    simpa using hnat
  exact (Nat.modEq_iff_dvd' hk.le).1 hmod

/-- An answer with the id of a request that waits goes to that request, as it was before it
was sent, and no request then waits with the id. Any other answer changes nothing. A request is
refused only if one that was sent a positive multiple of 2³² requests before it still waits. -/
theorem answers_matched (hbh : UInt32) (h : List (PeerEvent α)) :
    (∀ sr ∈ (Peer.after hbh h).sr.srs, sr ∈ sentAs hbh h ∧
      ((Peer.after hbh h).step (.answer sr.hbh)).2 = [.answered sr.restored] ∧
      ∀ s ∈ (Peer.after hbh (.answer sr.hbh :: h)).sr.srs, s.hbh ≠ sr.hbh) ∧
    (∀ id, (∀ sr ∈ (Peer.after hbh h).sr.srs, sr.hbh ≠ id) →
      ((Peer.after hbh h).step (.answer id)).2 = [] ∧
      (Peer.after hbh (.answer id :: h)).sr.srs = (Peer.after hbh h).sr.srs) ∧
    ∀ req refused, .refused refused ∈ ((Peer.after hbh h).step (.send req)).2 →
      ∃ sr ∈ (Peer.after hbh h).sr.srs, ∃ k < (sentAs hbh h).length,
        (sentAs hbh h).reverse[k]? = some sr ∧ 2 ^ 32 ∣ (sentAs hbh h).length - k := by
  obtain ⟨ended, htable, hnext, hperm, -⟩ := account hbh h
  have hsent : ∀ sr ∈ (Peer.after hbh h).sr.srs, sr ∈ sentAs hbh h := fun sr hsr =>
    hperm.mem_iff.2 (List.mem_append_left _ hsr)
  refine ⟨fun sr hsr => ⟨hsent sr hsr, ?_, ?_⟩, fun id hid => ?_, fun req refused hmem => ?_⟩
  · simp only [Peer.step, fetch_of_mem htable hsr, Option.map_some, Option.toList_some]
  · simp only [Peer.after, Peer.step, fetch_of_mem htable hsr]
    exact htable.hbh_ne_of_mem_unlink hsr
  · obtain ⟨cntLost, hfetch⟩ := fetch_of_forall_ne hid
    simp only [Peer.after, Peer.step, hfetch, Option.map_none, Option.toList_none, and_self]
  · obtain ⟨req', he, -, ⟨-, hnone, -⟩ | ⟨-, -, sr, hsr, hused⟩⟩ | ⟨hne, -⟩ :=
      step_cases htable (.send req)
    · rw [hnone] at hmem
      cases hmem
    · obtain ⟨k, hk, hget, hid⟩ := exists_index_of_mem_sentAs (hsent sr hsr)
      exact ⟨sr, hsr, k, hk, hget, dvd_sub_of_hbh_eq hk (by rw [← hid, hused, hnext])⟩
    · exact absurd rfl (hne req)

/-! ## The expiry thread -/

def isDue (now : Time) (sr : Sentreq α) : Bool := sr.req.timeout.any (· ≤ now)

theorem isDue_iff {now : Time} {sr : Sentreq α} :
    isDue now sr = true ↔ sr.req.timeout.isSome = true ∧ sr.timeout ≤ now := by
  unfold isDue Sentreq.timeout
  cases sr.req.timeout <;> simp

/-- The head of `exp` is due if any request is. -/
theorem Table.head_timeout_le {l : SrList α} (h : Table l) {first : Sentreq α}
    {exp : List (Sentreq α)} (hexp : l.exp = first :: exp) {sr : Sentreq α} (hsr : sr ∈ l.srs)
    (ht : sr.req.timeout.isSome = true) : first.timeout ≤ sr.timeout := by
  have hmem : sr ∈ first :: exp := hexp ▸ h.mem_exp.2 ⟨hsr, ht⟩
  have hdue := h.due
  rw [hexp, List.pairwise_cons] at hdue
  obtain rfl | hmem := List.mem_cons.1 hmem
  · exact Nat.le_refl _
  · exact hdue.1 sr hmem

/-- A turn of the thread finds no request due and changes nothing, or takes the one whose
time was over first. -/
theorem expire_cases {l : SrList α} (h : Table l) (now : Time) :
    ((∀ sr ∈ l.srs, isDue now sr = false) ∧ l.expire now = (none, l)) ∨
    ∃ first ∈ l.srs, isDue now first = true ∧
      (∀ sr ∈ l.srs, isDue now sr = true → first.timeout ≤ sr.timeout) ∧
      l.expire now = (some first.restored,
        ⟨unlink first.hbh l.srs, unlink first.hbh l.exp, l.cnt - 1, l.cntLost + 1⟩) := by
  cases hexp : l.exp with
  | nil =>
    refine .inl ⟨fun sr hsr => Bool.eq_false_iff.2 fun hdue => ?_, by rw [SrList.expire, hexp]⟩
    have hmem := h.mem_exp.2 ⟨hsr, (isDue_iff.1 hdue).1⟩
    rw [hexp] at hmem
    cases hmem
  | cons first exp =>
    obtain ⟨hfirst, hsome⟩ := h.mem_exp.1 (hexp ▸ List.mem_cons_self)
    have hle : ∀ sr ∈ l.srs, isDue now sr = true → first.timeout ≤ sr.timeout := fun sr hsr hdue =>
      h.head_timeout_le hexp hsr (isDue_iff.1 hdue).1
    by_cases hnow : now < first.timeout
    · refine .inl ⟨fun sr hsr => Bool.eq_false_iff.2 fun hdue => ?_, ?_⟩
      · exact Nat.not_lt_of_le ((hle sr hsr hdue).trans (isDue_iff.1 hdue).2) hnow
      · simp only [SrList.expire, hexp, hnow, if_true]
    · refine .inr ⟨first, hfirst, isDue_iff.2 ⟨hsome, Nat.le_of_not_lt hnow⟩, hle, ?_⟩
      simp only [SrList.expire, hexp, hnow, if_false, unlink_cons_self]

theorem filter_unlink {p : Sentreq α → Bool} {sr : Sentreq α} {l : List (Sentreq α)}
    (hp : p sr = false) (hinj : ∀ s ∈ l, s.hbh = sr.hbh → s = sr) :
    (unlink sr.hbh l).filter p = l.filter p := by
  induction l with
  | nil => rfl
  | cons s l ih =>
    by_cases hs : s.hbh = sr.hbh
    · obtain rfl := hinj s List.mem_cons_self hs
      rw [unlink_cons_self, List.filter_cons_of_neg (by simp [hp])]
    · rw [unlink, List.eraseP_cons_of_neg (by simpa using hs), List.filter_cons, List.filter_cons]
      rw [← unlink, ih fun s hs => hinj s (List.mem_cons_of_mem _ hs)]

/-- By induction on the turns: each takes one of the requests that are due, if there is one. -/
theorem expire_turns {l : SrList α} (h : Table l) (now : Time) {n : Nat}
    (hn : (l.srs.filter (isDue now)).length ≤ n) :
    (Nat.iterate (fun l => (SrList.expire l now).2) n l).srs =
      l.srs.filter fun sr => !isDue now sr := by
  induction n generalizing l with
  | zero =>
    have hnone := List.filter_eq_nil_iff.1 (List.eq_nil_of_length_eq_zero (Nat.le_zero.1 hn))
    exact (List.filter_eq_self.2 fun sr hsr => by simpa using hnone sr hsr).symm
  | succ n ih =>
    rw [Function.iterate_succ_apply]
    obtain ⟨hnone, heq⟩ | ⟨first, hfirst, hdue, -, heq⟩ := expire_cases h now
    · rw [heq]
      refine ih h ?_
      rw [List.filter_eq_nil_iff.2 fun sr hsr => by simp [hnone sr hsr]]
      exact Nat.zero_le n
    · have hinj : ∀ s ∈ l.srs, s.hbh = first.hbh → s = first := fun s hs => h.hbh_inj hs hfirst
      have hlen := ((perm_unlink hfirst hinj).filter (isDue now)).length_eq
      rw [List.filter_cons_of_pos hdue, List.length_cons] at hlen
      rw [heq, ih (h.remove hfirst _) (by show (List.filter _ (unlink _ _)).length ≤ n; omega)]
      exact filter_unlink (by simp [hdue]) hinj

theorem after_replicate_expire (hbh : UInt32) (h : List (PeerEvent α)) (now : Time) (n : Nat) :
    (Peer.after hbh (List.replicate n (.expire now) ++ h)).sr =
      Nat.iterate (fun l => (SrList.expire l now).2) n (Peer.after hbh h).sr := by
  induction n with
  | zero => rfl
  | succ n ih =>
    rw [Function.iterate_succ_apply', ← ih]
    rfl

/-- A turn of the expiry thread takes the request whose time was over first, if one is due, and
as many turns as there are requests due, or more, leave exactly those that are not. -/
theorem expiry_exact (hbh : UInt32) (h : List (PeerEvent α)) (now : Time) (more : Nat) :
    (∀ req, .expired req ∈ ((Peer.after hbh h).step (.expire now)).2 →
      ∃ first ∈ (Peer.after hbh h).sr.srs, isDue now first = true ∧ req = first.restored ∧
        ∀ sr ∈ (Peer.after hbh h).sr.srs, isDue now sr = true → first.timeout ≤ sr.timeout) ∧
    (Peer.after hbh (List.replicate
        (((Peer.after hbh h).sr.srs.filter (isDue now)).length + more) (.expire now) ++ h)).sr.srs =
      (Peer.after hbh h).sr.srs.filter fun sr => !isDue now sr := by
  obtain ⟨-, htable, -⟩ := account hbh h
  refine ⟨fun req hreq => ?_, ?_⟩
  · obtain ⟨-, heq⟩ | ⟨first, hfirst, hdue, hle, heq⟩ := expire_cases htable now
    · simp [Peer.step, heq] at hreq
    · simp only [Peer.step, heq, Option.map_some, Option.toList_some, List.mem_singleton,
        Fate.expired.injEq] at hreq
      exact ⟨first, hfirst, hdue, hreq, hle⟩
  · rw [after_replicate_expire]
    exact expire_turns htable now (Nat.le_add_right _ _)

end Twag.Proof.Diameter

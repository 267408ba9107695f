import Mathlib.Algebra.BigOperators.Intervals
import Twag.Proof.Receive.Gtpv2c

/-!
# When a GTP-C datagram is done with

The counter of a walk over IEs has 16 bits, and adds the size of each IE. So it
comes back to where it was, and the walk never ends, exactly if the sizes of some
IEs that follow one another add up to a multiple of 2^16:

* `iesFrom_isSome_iff`: the walk over a message or in a bearer context;
* `decodeCreateSessRsp_ends_iff`, `decodeDelBearerReq_ends_iff`: the decoders, which
  can also write outside a field;
* `handleUdpRx_ends_iff`: the handler, for every datagram;
* `sampleLoop_diverges`: a datagram of one IE that is never done with.
-/

namespace Twag.Proof.Receive

open Twag.Impl

section

variable (buf : Memory) (base bufLen : Nat)

/-- The counter when the walk comes to its IE number `k`. -/
def iePos (k : Nat) : Nat := (nextIe buf base)^[k] 0

/-- The size of that IE, with its header. -/
def ieSize (k : Nat) : Nat := 4 + ieLen buf (base + iePos buf base k)

/-- Some IEs that the walk comes to one after the other have sizes that add up to a
multiple of 2^16. -/
def Wraps : Prop :=
  ∃ a b, a < b ∧ (∀ k < b, iePos buf base k < bufLen) ∧
    2 ^ 16 ∣ ∑ k ∈ Finset.Ico a b, ieSize buf base k

end

variable {buf : Memory} {base bufLen : Nat}

theorem iePos_succ (k : Nat) : iePos buf base (k + 1) =
    (iePos buf base k + ieSize buf base k) % 2 ^ 16 := by
  rw [iePos, Function.iterate_succ_apply', nextIe, ieSize, ← iePos, Nat.add_assoc]

theorem iePos_lt (k : Nat) : iePos buf base k < 2 ^ 16 := by
  cases k with
  | zero => exact Nat.two_pow_pos 16
  | succ k =>
    rw [iePos_succ]
    exact Nat.mod_lt _ (Nat.two_pow_pos 16)

/-- The counter is the sum of the sizes, in 16 bits. -/
theorem iePos_add (a n : Nat) : iePos buf base (a + n) =
    (iePos buf base a + ∑ k ∈ Finset.Ico a (a + n), ieSize buf base k) % 2 ^ 16 := by
  induction n with
  | zero =>
    rw [Nat.add_zero, Finset.Ico_self, Finset.sum_empty, Nat.add_zero,
      Nat.mod_eq_of_lt (iePos_lt a)]
  | succ n ih =>
    rw [← Nat.add_assoc, iePos_succ, ih, Finset.sum_Ico_succ_top (by omega)]
    omega

theorem iePos_eq_iff {a b : Nat} (h : a ≤ b) : iePos buf base a = iePos buf base b ↔
    2 ^ 16 ∣ ∑ k ∈ Finset.Ico a b, ieSize buf base k := by
  obtain ⟨n, rfl⟩ := Nat.exists_eq_add_of_le h
  have hlt : iePos buf base a < 2 ^ 16 := iePos_lt a
  rw [iePos_add a n]
  omega

/-- The walk ends exactly if the counter does not come back. -/
theorem iesFrom_isSome_iff (hl : bufLen < 2 ^ 16) :
    (iesFrom buf base bufLen).isSome ↔ ¬ Wraps buf base bufLen := by
  have hb : trail (fun count => decide (count < bufLen)) (nextIe buf base) (2 ^ 16) 0 = none ↔ _ :=
    trail_bounded_iff (fun p hp => of_decide_eq_true hp) hl
  rw [iesFrom, Option.isSome_map, Option.isSome_iff_ne_none, ne_eq, hb, not_iff_not]
  constructor
  · rintro ⟨a, b, hab, hm, he⟩
    exact ⟨a, b, hab, fun k hk => of_decide_eq_true (hm k hk), (iePos_eq_iff hab.le).mp he⟩
  · rintro ⟨a, b, hab, hm, he⟩
    exact ⟨a, b, hab, fun k hk => decide_eq_true (hm k hk), (iePos_eq_iff hab.le).mpr he⟩

theorem ieLen_lt (p : Nat) : ieLen buf p < 2 ^ 16 := by
  have h₁ := (buf (p + 1)).toNat_lt
  have h₂ := (buf (p + 1 + 1)).toNat_lt
  rw [ieLen, be16]
  omega

theorem iesLen_lt : iesLen buf < 2 ^ 16 := Nat.mod_lt _ (Nat.two_pow_pos 16)

/-- A walk whose visits never fail. -/
theorem walkIes_ends_iff {σ : Type} {visit : σ → Nat → Except Fault σ} {s : σ}
    (hv : ∀ s p, ∃ s', visit s p = .ok s') (hl : bufLen < 2 ^ 16) :
    (∃ s', walkIes buf base bufLen visit s = .ok s') ↔ ¬ Wraps buf base bufLen := by
  rw [walkIes_ok_iff, ← iesFrom_isSome_iff hl, Option.isSome_iff_exists]
  have hall (l : List Nat) (s : σ) : ∃ s', l.foldlM visit s = .ok s' := by
    induction l generalizing s with
    | nil => exact ⟨s, rfl⟩
    | cons p l ih =>
      obtain ⟨s₁, hs⟩ := hv s p
      obtain ⟨s', hs'⟩ := ih s₁
      exact ⟨s', foldlM_cons_ok_iff.mpr ⟨s₁, hs, hs'⟩⟩
  exact ⟨fun ⟨l, h, _⟩ => ⟨l, h⟩, fun ⟨l, h⟩ => ⟨l, h, hall l s⟩⟩

/-! ## The decoders -/

section

variable (buf : Memory)

/-- Where the IEs of a message are, if the walk over them ends. -/
def iesOf : List Nat := (messageIes buf).getD []

/-- A bearer context, created or marked for removal. -/
def isBearerContext (p : Nat) : Bool := isIe buf p 93 0 || isIe buf p 93 1

/-- No walk in a Create Session Response comes back, and nothing is written outside
its field. -/
structure CreateSessRspEnds : Prop where
  message : ¬ Wraps buf (iesStart buf) (iesLen buf)
  contexts : ∀ p ∈ iesOf buf, isBearerContext buf p = true → ¬ Wraps buf (p + 4) (ieLen buf p)
  inField : ∀ p ∈ iesOf buf, overflows buf p = false
  inArray : (iesOf buf).countP (isIe buf · 93 0) ≤ 14

/-- The walk over a Delete Bearer Request does not come back, and nothing is written
outside its field. -/
structure DelBearerReqEnds : Prop where
  message : ¬ Wraps buf (iesStart buf) (iesLen buf)
  inField : ∀ p ∈ iesOf buf, (isIe buf p 132 0 || isIe buf p 132 1) = true → overflows buf p = false
  inArray : (iesOf buf).countP (isIe buf · 73 1) ≤ 14

end

theorem overflows_type {p : Nat} (h : overflows buf p = true) :
    buf p = 136 ∨ buf p = 74 ∨ buf p = 132 := by
  simp only [overflows, Bool.or_eq_true, Bool.and_eq_true] at h
  rcases h with (⟨h, -⟩ | ⟨h, -⟩) | ⟨h | h, -⟩
  · exact .inl (isIe_type h)
  · exact .inr (.inl (isIe_type h))
  all_goals exact .inr (.inr (isIe_type h))

/-- An IE of a type without a fixed field cannot be written outside one. -/
theorem not_overflows {p : Nat} {type inst : UInt8} (hi : isIe buf p type inst = true)
    (ht : type ≠ 136 ∧ type ≠ 74 ∧ type ≠ 132) : overflows buf p = false := by
  rw [Bool.eq_false_iff]
  intro ho
  have := overflows_type ho
  rw [isIe_type hi] at this
  tauto

theorem decodeBearerCtxtCreated_ends_iff {p : Nat} :
    (∃ ctxt, decodeBearerCtxtCreated buf p = .ok ctxt) ↔ ¬ Wraps buf (p + 4) (ieLen buf p) :=
  walkIes_ends_iff (fun _ _ => ⟨_, rfl⟩) (ieLen_lt p)

theorem decodeBearerCtxtMarkedRemoval_ends_iff {p : Nat} :
    (∃ u, decodeBearerCtxtMarkedRemoval buf p = .ok u) ↔ ¬ Wraps buf (p + 4) (ieLen buf p) :=
  walkIes_ends_iff (fun _ _ => ⟨_, rfl⟩) (ieLen_lt p)

/-- One turn of `decode_create_sess_rsp` comes to an end, and how many bearer
contexts there are then. -/
theorem visit_ends_iff (rsp : CreateSessRsp) (p : Nat) :
    (∃ rsp', visitCreateSessRsp buf rsp p = .ok rsp') ↔
      (isBearerContext buf p = true → ¬ Wraps buf (p + 4) (ieLen buf p)) ∧
        overflows buf p = false ∧
        (isIe buf p 93 0 = true → rsp.bearerContextsCreated.length < 14) := by
  have other {type inst : UInt8} (hi : isIe buf p type inst = true) (ht : type ≠ 93)
      (inst' : UInt8) : isIe buf p 93 inst' = false := by
    rw [Bool.eq_false_iff]
    exact fun h => ht ((isIe_type hi).symm.trans (isIe_type h))
  unfold visitCreateSessRsp isBearerContext
  split
  · rename_i hi
    simp [other hi (by decide), not_overflows hi (by decide)]
  split
  · rename_i hi
    simp [other hi (by decide), not_overflows hi (by decide)]
  split
  · rename_i hi
    simp [other hi (by decide), not_overflows hi (by decide)]
  split
  · rename_i hi
    rw [not_overflows hi (by decide), hi]
    split
    · rename_i hlt
      simp only [map_ok_iff, Bool.true_or, hlt, ← decodeBearerCtxtCreated_ends_iff]
      simp
    · rename_i hlt
      simp [hlt]
  split
  · rename_i h0 hi
    rw [not_overflows hi (by decide), hi, Bool.or_true, Bool.eq_false_iff.mpr h0,
      ← decodeBearerCtxtMarkedRemoval_ends_iff]
    simp [map_ok_iff]
  rename_i h0 h1
  rw [Bool.eq_false_iff.mpr h0, Bool.eq_false_iff.mpr h1]
  split
  · rename_i ho
    simp [ho]
  · rename_i ho
    simp [Bool.eq_false_iff.mpr ho]

/-- The turns of `decode_create_sess_rsp` over a list of IEs. -/
theorem visits_end_iff (l : List Nat) {rsp : CreateSessRsp}
    (hr : rsp.bearerContextsCreated.length ≤ 14) :
    (∃ rsp', l.foldlM (visitCreateSessRsp buf) rsp = .ok rsp') ↔
      (∀ p ∈ l, isBearerContext buf p = true → ¬ Wraps buf (p + 4) (ieLen buf p)) ∧
        (∀ p ∈ l, overflows buf p = false) ∧
        rsp.bearerContextsCreated.length + l.countP (isIe buf · 93 0) ≤ 14 := by
  induction l generalizing rsp with
  | nil => simp [hr, pure, Except.pure]
  | cons p l ih =>
    simp only [foldlM_cons_ok_iff, List.forall_mem_cons, List.countP_cons]
    constructor
    · rintro ⟨rsp', rsp₁, hv, hf⟩
      obtain ⟨hc, ho, hlt⟩ := (visit_ends_iff rsp p).mp ⟨rsp₁, hv⟩
      have hlen := (visit_ok hv).2
      have hr₁ : rsp₁.bearerContextsCreated.length ≤ 14 := by
        rw [hlen]
        split
        · exact hlt (by assumption)
        · exact hr
      obtain ⟨hc', ho', hn⟩ := (ih hr₁).mp ⟨rsp', hf⟩
      refine ⟨⟨hc, hc'⟩, ⟨ho, ho'⟩, ?_⟩
      rw [hlen] at hn
      omega
    · rintro ⟨⟨hc, hc'⟩, ⟨ho, ho'⟩, hn⟩
      obtain ⟨rsp₁, hv⟩ := (visit_ends_iff rsp p).mpr
        ⟨hc, ho, fun hi => by rw [if_pos hi] at hn; omega⟩
      have hlen := (visit_ok hv).2
      have hr₁ : rsp₁.bearerContextsCreated.length ≤ 14 := by omega
      obtain ⟨rsp', hf⟩ := (ih hr₁).mpr ⟨hc', ho', by omega⟩
      exact ⟨rsp', rsp₁, hv, hf⟩

theorem iesOf_eq {l : List Nat} (h : iesFrom buf (iesStart buf) (iesLen buf) = some l) :
    iesOf buf = l := by
  rw [iesOf, messageIes, h, Option.getD_some]

theorem decodeCreateSessRsp_ends_iff :
    (∃ rsp, decodeCreateSessRsp buf = .ok rsp) ↔ CreateSessRspEnds buf := by
  unfold decodeCreateSessRsp
  rw [walkIes_ok_iff]
  have hr : (⟨none, none, none, []⟩ : CreateSessRsp).bearerContextsCreated.length ≤ 14 := by decide
  constructor
  · rintro ⟨l, hl, hf⟩
    obtain ⟨hc, ho, hn⟩ := (visits_end_iff l hr).mp hf
    refine ⟨(iesFrom_isSome_iff iesLen_lt).mp (Option.isSome_of_eq_some hl), ?_, ?_, ?_⟩
    · rwa [iesOf_eq hl]
    · rwa [iesOf_eq hl]
    · rw [iesOf_eq hl]
      simpa using hn
  · rintro ⟨hw, hc, ho, hn⟩
    obtain ⟨l, hl⟩ := Option.isSome_iff_exists.mp ((iesFrom_isSome_iff iesLen_lt).mpr hw)
    rw [iesOf_eq hl] at hc ho hn
    exact ⟨l, hl, (visits_end_iff l hr).mpr ⟨hc, ho, by simpa using hn⟩⟩

theorem visitDelBearerReq_ok_iff {count count' p : Nat} :
    visitDelBearerReq buf count p = .ok count' ↔
      ((isIe buf p 132 0 || isIe buf p 132 1) = true → overflows buf p = false) ∧
        (isIe buf p 73 1 = true → count < 14) ∧
        count' = count + if isIe buf p 73 1 = true then 1 else 0 := by
  unfold visitDelBearerReq
  split
  · rename_i hi
    have h132 (inst : UInt8) : isIe buf p 132 inst = false := by
      rw [Bool.eq_false_iff]
      exact fun h => absurd ((isIe_type hi).symm.trans (isIe_type h)) (by decide)
    rw [h132, h132, hi]
    split
    · rename_i hlt
      simp only [Except.ok.injEq, Bool.or_self, Bool.false_eq_true, false_imp_iff, true_imp_iff,
        hlt, true_and]
      exact eq_comm
    · rename_i hlt
      simp [hlt]
  · rename_i hi
    rw [Bool.eq_false_iff.mpr hi]
    simp only [Bool.and_eq_true, Bool.false_eq_true, false_imp_iff, true_and, Nat.add_zero]
    split
    · rename_i ho
      simp [ho.1, ho.2]
    · rename_i ho
      have hf : (isIe buf p 132 0 || isIe buf p 132 1) = true → overflows buf p = false :=
        fun hf => Bool.eq_false_iff.mpr fun hov => ho ⟨hf, hov⟩
      rw [Except.ok.injEq, and_iff_right hf]
      exact eq_comm

theorem visitsDelBearerReq_end_iff {l : List Nat} {count : Nat} (hc : count ≤ 14) :
    (∃ count', l.foldlM (visitDelBearerReq buf) count = .ok count') ↔
      (∀ p ∈ l, (isIe buf p 132 0 || isIe buf p 132 1) = true → overflows buf p = false) ∧
        count + l.countP (isIe buf · 73 1) ≤ 14 := by
  induction l generalizing count with
  | nil => simp [hc, pure, Except.pure]
  | cons p l ih =>
    simp only [foldlM_cons_ok_iff, List.forall_mem_cons, List.countP_cons,
      visitDelBearerReq_ok_iff]
    constructor
    · rintro ⟨count', _, ⟨ho, hlt, rfl⟩, hf⟩
      have hc₁ : count + (if isIe buf p 73 1 = true then 1 else 0) ≤ 14 := by
        split
        · exact hlt (by assumption)
        · exact hc
      obtain ⟨ho', hn⟩ := (ih hc₁).mp ⟨count', hf⟩
      exact ⟨⟨ho, ho'⟩, by omega⟩
    · rintro ⟨⟨ho, ho'⟩, hn⟩
      have hc₁ : count + (if isIe buf p 73 1 = true then 1 else 0) ≤ 14 := by omega
      obtain ⟨count', hf⟩ := (ih hc₁).mpr ⟨ho', by omega⟩
      exact ⟨count', _, ⟨ho, fun hi => by rw [if_pos hi] at hn; omega, rfl⟩, hf⟩

theorem decodeDelBearerReq_ends_iff :
    (∃ n, decodeDelBearerReq buf = .ok n) ↔ DelBearerReqEnds buf := by
  unfold decodeDelBearerReq
  rw [walkIes_ok_iff]
  constructor
  · rintro ⟨l, hl, hf⟩
    obtain ⟨ho, hn⟩ := (visitsDelBearerReq_end_iff (Nat.zero_le 14)).mp hf
    refine ⟨(iesFrom_isSome_iff iesLen_lt).mp (Option.isSome_of_eq_some hl), ?_, ?_⟩
    · rwa [iesOf_eq hl]
    · rw [iesOf_eq hl]
      omega
  · rintro ⟨hw, ho, hn⟩
    obtain ⟨l, hl⟩ := Option.isSome_iff_exists.mp ((iesFrom_isSome_iff iesLen_lt).mpr hw)
    rw [iesOf_eq hl] at ho hn
    exact ⟨l, hl, (visitsDelBearerReq_end_iff (Nat.zero_le 14)).mpr ⟨ho, by omega⟩⟩

/-- The handler is done with a datagram exactly if no sizes of IEs that it walks over
add up to a multiple of 2^16, and nothing is written outside its field. -/
theorem handleUdpRx_ends_iff (d : Datagram) :
    (∃ event, S2aInterface.handleUdpRx d = .ok event) ↔
      (S2aInterface.isCreateSessRsp d → CreateSessRspEnds d.buffer) ∧
        (S2aInterface.isDelBearerReq d → DelBearerReqEnds d.buffer) := by
  have hex : S2aInterface.isCreateSessRsp d → ¬ S2aInterface.isDelBearerReq d :=
    fun h h' => absurd (h.2.symm.trans h'.2) (by decide)
  unfold S2aInterface.handleUdpRx
  split
  · rename_i hc
    simp only [map_ok_iff, hc, hex hc, true_imp_iff, false_imp_iff, and_true,
      ← decodeCreateSessRsp_ends_iff]
    simp
  split
  · rename_i hc hd
    simp only [map_ok_iff, hc, hd, true_imp_iff, false_imp_iff, true_and,
      ← decodeDelBearerReq_ends_iff]
    simp
  · rename_i hc hd
    simp [hc, hd]

/-- A Create Session Response of 20 bytes, whose only IE claims 65532 more. -/
def sampleLoop : Datagram where
  n := 20
  buffer := .ofBytes
    [0x48, 33, 0, 16, 0, 0, 0, 1, 0, 0, 1, 0, 255, 0xff, 0xfc, 0, 0, 0, 0, 0]
  src := ⟨0, 0⟩

/-- The counter stays at that IE, however long the loop runs. -/
theorem sampleLoop_diverges :
    S2aInterface.handleUdpRx sampleLoop = .error .diverges ∧
      ∀ fuel, trail (fun count => decide (count < iesLen sampleLoop.buffer))
        (nextIe sampleLoop.buffer (iesStart sampleLoop.buffer)) fuel 0 = none := by
  have hm : decide (0 < iesLen sampleLoop.buffer) = true := by decide
  have hn : nextIe sampleLoop.buffer (iesStart sampleLoop.buffer) 0 = 0 := by decide
  have hv : visitCreateSessRsp sampleLoop.buffer ⟨none, none, none, []⟩
      (iesStart sampleLoop.buffer + 0) = .ok ⟨none, none, none, []⟩ := by decide
  constructor
  · have hw (fuel : Nat) : walk (fun count => decide (count < iesLen sampleLoop.buffer))
        (nextIe sampleLoop.buffer (iesStart sampleLoop.buffer))
        (fun rsp count => visitCreateSessRsp sampleLoop.buffer rsp
          (iesStart sampleLoop.buffer + count)) fuel 0 ⟨none, none, none, []⟩ =
          .error .diverges := walk_stuck hm hn hv fuel
    rw [S2aInterface.handleUdpRx, if_pos (by decide), decodeCreateSessRsp, walkIes, hw]
    rfl
  · intro fuel
    rw [trail_eq_none_iff]
    intro k _
    rw [Function.iterate_fixed hn]
    exact hm

end Twag.Proof.Receive

import Twag.Framework.Options
import Twag.Impl.Receive.Dhcp

/-!
# The message type of a DHCP datagram

The loop over the options compares the offset of an option with the length of the
datagram, and not those of its length octet and its value. So it reads behind the
datagram exactly if that ends in the middle of an option, behind its code or before
the value of a message type, and it has found no message type before
(`scansRight_iff`).
-/

namespace Twag.Proof.Receive

open Twag.Impl Twag.Impl.DhcpServer

/-- The bytes of the datagram from `i` on. -/
def optionArea (d : Datagram) (i : Nat) : Bytes := slice d.buffer i (d.n.toNat - i)

/-- The value of the first option 53 of length 1. -/
def messageType (options : List (UInt8 × Bytes)) : Option UInt8 :=
  options.findSome? fun
    | (53, [type]) => some type
    | _ => none

/-- What the walk over the options has left ends behind the code of an option, or before
the value of a message type. -/
def CutShort (rest : Bytes) : Prop := (∃ code, code ≠ 255 ∧ rest = [code]) ∨ rest = [53, 1]

/-- What the loop over the options owes a datagram. -/
structure ScansRight (d : Datagram) : Prop where
  reads (i : Nat) (h : LoopReads d i) : (i : Int) < d.n
  found : msgType d = .ok ((messageType (Options.scan (optionArea d 240)).1).getD 0)
  same (d' : Datagram) (hn : d'.n = d.n)
    (hb : ∀ i : Nat, (i : Int) < d.n → d'.buffer i = d.buffer i) : msgType d' = msgType d

/-- The walk from `i` on finds a message type, or is not cut short. -/
def Clean (d : Datagram) (i : Nat) : Prop :=
  (messageType (Options.scan (optionArea d i)).1).isSome ∨
    ¬ CutShort (Options.scan (optionArea d i)).2

section

variable {d : Datagram} {i : Nat}

theorem messageType_cons {code : UInt8} {value : Bytes} {options : List (UInt8 × Bytes)}
    (h : code ≠ 53 ∨ value.length ≠ 1) :
    messageType ((code, value) :: options) = messageType options := by
  rw [messageType, List.findSome?_cons]
  split
  · rename_i type heq
    split at heq
    · rename_i heq'
      cases heq'
      simp at h
    · cases heq
  · rfl

/-! ## The bytes from an offset on -/

theorem optionArea_of_le (h : d.n ≤ i) : optionArea d i = [] := by
  have : d.n.toNat - i = 0 := by omega
  rw [optionArea, this]
  rfl

theorem optionArea_cons (h : (i : Int) < d.n) :
    optionArea d i = d.buffer i :: optionArea d (i + 1) := by
  obtain ⟨k, hk⟩ : ∃ k, d.n.toNat - i = k + 1 := ⟨d.n.toNat - i - 1, by omega⟩
  rw [optionArea, hk, slice_succ, optionArea, show d.n.toNat - (i + 1) = k by omega]

theorem length_optionArea (d : Datagram) (i : Nat) : (optionArea d i).length = d.n.toNat - i :=
  length_slice _ _ _

theorem drop_optionArea (d : Datagram) (i k : Nat) :
    (optionArea d i).drop k = optionArea d (i + k) := by
  rw [optionArea, drop_slice, optionArea, Nat.sub_sub]

/-! ## One option -/

theorem moreOptions_iff : moreOptions d i = true ↔ (i : Int) < d.n ∧ d.buffer i ≠ 255 ∧
    ¬ (d.buffer i = 53 ∧ d.buffer (i + 1) = 1) := by
  simp only [moreOptions, Bool.and_eq_true, decide_eq_true_eq, bne_iff_ne, ne_eq, Bool.not_eq_true',
    Bool.and_eq_false_iff, beq_eq_false_iff_ne, and_assoc, not_and_or]

theorem scan_pad_at (hn : (i : Int) < d.n) (h₀ : d.buffer i = 0) :
    Options.scan (optionArea d i) = Options.scan (optionArea d (nextOption d i)) := by
  rw [optionArea_cons hn, h₀, Options.scan_pad, nextOption, if_pos h₀]

/-- The walk over an option whose length octet is there. -/
theorem scan_option_at (hn : (i + 1 : Int) < d.n) (h : d.buffer i ≠ 255) (h₀ : d.buffer i ≠ 0) :
    Options.scan (optionArea d i) =
      if (nextOption d i : Int) ≤ d.n then
        ((d.buffer i, (optionArea d (i + 2)).take (d.buffer (i + 1)).toNat) ::
            (Options.scan (optionArea d (nextOption d i))).1,
          (Options.scan (optionArea d (nextOption d i))).2)
      else ([], optionArea d i) := by
  have hnext : nextOption d i = i + 2 + (d.buffer (i + 1)).toNat := if_neg h₀
  have hcons : optionArea d i = d.buffer i :: d.buffer (i + 1) :: optionArea d (i + 2) := by
    rw [optionArea_cons (by omega), optionArea_cons (by omega)]
  have hlen := length_optionArea d (i + 2)
  rw [hcons, hnext]
  split
  · rw [Options.scan_option h h₀ (by omega), drop_optionArea]
  · rw [Options.scan_cut_value h h₀ (by omega)]

theorem lt_nextOption (d : Datagram) (i : Nat) : i < nextOption d i := by
  rw [nextOption]
  split <;> omega

/-- The walk goes on behind an option that is whole or a pad as it goes on at it. -/
theorem clean_next (hm : moreOptions d i = true) (hl : d.buffer i = 0 ∨ (i + 1 : Int) < d.n) :
    (messageType (Options.scan (optionArea d i)).1 =
        messageType (Options.scan (optionArea d (nextOption d i))).1) ∧
      (Clean d i ↔ Clean d (nextOption d i)) := by
  obtain ⟨hn, hend, htype⟩ := moreOptions_iff.mp hm
  by_cases h₀ : d.buffer i = 0
  · rw [Clean, Clean, scan_pad_at hn h₀]
    exact ⟨rfl, Iff.rfl⟩
  have hlen : (i + 1 : Int) < d.n := hl.resolve_left h₀
  have hnext : nextOption d i = i + 2 + (d.buffer (i + 1)).toNat := if_neg h₀
  rw [Clean, Clean, scan_option_at hlen hend h₀]
  by_cases hle : (nextOption d i : Int) ≤ d.n
  · have hother : d.buffer i ≠ 53 ∨
        ((optionArea d (i + 2)).take (d.buffer (i + 1)).toNat).length ≠ 1 := by
      rw [List.length_take, length_optionArea]
      by_cases hc : d.buffer i = 53
      · refine .inr fun h1 => htype ⟨hc, ?_⟩
        rw [← UInt8.toNat_inj]
        show (d.buffer (i + 1)).toNat = 1
        omega
      · exact .inl hc
    rw [if_pos hle, messageType_cons hother]
    exact ⟨rfl, Iff.rfl⟩
  · -- the value is cut off: both walks stop, and neither is cut short
    have hrest : ¬ CutShort (optionArea d i) := by
      rw [optionArea_cons hn, optionArea_cons (by omega)]
      intro hcut
      obtain ⟨code, -, h1⟩ | h2 := hcut
      · simp at h1
      · simp only [List.cons.injEq] at h2
        exact htype ⟨h2.1, h2.2.1⟩
    rw [if_neg hle, optionArea_of_le (by omega : d.n ≤ (nextOption d i : Int)), Options.scan_nil]
    exact ⟨rfl, iff_of_true (.inr hrest) (.inr fun h => by simp [CutShort] at h)⟩

/-- Where the walk is clean, an option has its length octet, and a message type its value. -/
theorem Clean.whole (h : Clean d i) (hn : (i : Int) < d.n) (hend : d.buffer i ≠ 255)
    (h₀ : d.buffer i ≠ 0) :
    (i + 1 : Int) < d.n ∧
      (d.buffer i = 53 ∧ d.buffer (i + 1) = 1 → (i + 2 : Int) < d.n) := by
  have hlen : (i + 1 : Int) < d.n := by
    by_contra hcut
    have hnil : optionArea d (i + 1) = [] := optionArea_of_le (by omega)
    rw [Clean, optionArea_cons hn, hnil, Options.scan_cut_code hend h₀] at h
    obtain hsome | hcs := h
    · cases hsome
    · exact hcs (.inl ⟨_, hend, rfl⟩)
  refine ⟨hlen, fun htype => ?_⟩
  by_contra hcut
  have hnil : optionArea d (i + 1 + 1) = [] := optionArea_of_le (by omega)
  have hone : ¬ (1 : UInt8).toNat ≤ ([] : Bytes).length := by decide
  rw [Clean, optionArea_cons hn, optionArea_cons hlen, hnil, htype.1, htype.2,
    Options.scan_cut_value (by decide) (by decide) (Nat.not_le.mp hone)] at h
  obtain hsome | hcs := h
  · cases hsome
  · exact hcs (.inr rfl)

/-- The walk over a message type finds it. -/
theorem messageType_at (hn : (i + 2 : Int) < d.n) (hc : d.buffer i = 53)
    (hl : d.buffer (i + 1) = 1) :
    messageType (Options.scan (optionArea d i)).1 = some (d.buffer (i + 2)) := by
  have hle : (nextOption d i : Int) ≤ d.n := by
    rw [nextOption, hc, hl]
    show ((i + 2 + 1 : Nat) : Int) ≤ d.n
    omega
  rw [scan_option_at (by omega) (by rw [hc]; decide) (by rw [hc]; decide), if_pos hle, hc, hl,
    optionArea_cons (show ((i + 2 : Nat) : Int) < d.n by omega)]
  rfl

/-! ## The loop -/

/-- Every option that the loop comes to is clean if the first one is. -/
theorem clean_at (h : Clean d 240) (hi : LoopAt d i) : Clean d i := by
  induction hi with
  | start => exact h
  | @next i hi hm ih =>
    obtain ⟨hn, hend, -⟩ := moreOptions_iff.mp hm
    refine (clean_next hm ?_).2.mp ih
    by_cases h₀ : d.buffer i = 0
    · exact .inl h₀
    · exact .inr (ih.whole hn hend h₀).1

/-- What the loop reads of a clean datagram was received. -/
theorem lt_of_loopReads (h : Clean d 240) (hi : LoopReads d i) : (i : Int) < d.n := by
  cases hi with
  | code _ hn => exact hn
  | length ha hn hc => exact_mod_cast ((clean_at h ha).whole hn hc.1 hc.2).1
  | value ha hn ht =>
    have hw := (clean_at h ha).whole hn (by rw [ht.1]; decide) (by rw [ht.1]; decide)
    exact_mod_cast hw.2 ht

/-- The loop reads on behind a datagram that is not clean. -/
theorem exists_loopReads (h : ¬ Clean d i) (hi : LoopAt d i) :
    ∃ j, LoopReads d j ∧ d.n ≤ (j : Int) := by
  -- the offset comes closer to the end with every option
  induction hk : d.n.toNat - i using Nat.strongRecOn generalizing i with
  | ind k ih =>
    have hn : (i : Int) < d.n := by
      by_contra hge
      refine h (.inr fun hcut => ?_)
      rw [optionArea_of_le (by omega), Options.scan_nil] at hcut
      simp [CutShort] at hcut
    have hend : d.buffer i ≠ 255 := by
      intro hend
      refine h (.inr fun hcut => ?_)
      rw [optionArea_cons hn, hend, Options.scan_end] at hcut
      obtain ⟨code, hne, hc⟩ | hc := hcut
      · exact hne (List.cons.inj hc).1.symm
      · exact absurd (List.cons.inj hc).1 (by decide)
    by_cases hcut : d.buffer i ≠ 0 ∧ d.n ≤ (i + 1 : Int)
    · exact ⟨i + 1, .length hi hn ⟨hend, hcut.1⟩, by exact_mod_cast hcut.2⟩
    have hl : d.buffer i = 0 ∨ (i + 1 : Int) < d.n := by
      by_cases h₀ : d.buffer i = 0
      · exact .inl h₀
      · exact .inr (Int.not_le.mp fun hle => hcut ⟨h₀, hle⟩)
    by_cases htype : d.buffer i = 53 ∧ d.buffer (i + 1) = 1
    · refine ⟨i + 2, .value hi hn htype, ?_⟩
      by_contra hlt
      refine h (.inl ?_)
      rw [messageType_at (by push_cast at hlt; omega) htype.1 htype.2]
      rfl
    · have hm : moreOptions d i = true := moreOptions_iff.mpr ⟨hn, hend, htype⟩
      have hlt := lt_nextOption d i
      exact ih _ (by omega) (fun hc => h ((clean_next hm hl).2.mpr hc)) (.next hi hm) rfl

/-- The loop finds what the walk finds, from every clean offset on. -/
theorem walk_clean {fuel : Nat} (h : Clean d i) (hf : d.n.toNat - i < fuel) :
    ∃ j, walk (moreOptions d) (nextOption d) (fun s _ => .ok s) fuel i () = .ok (j, ()) ∧
      (if (j : Int) < d.n ∧ d.buffer j = 53 ∧ d.buffer (j + 1) = 1 then d.buffer (j + 2) else 0) =
        (messageType (Options.scan (optionArea d i)).1).getD 0 := by
  induction fuel generalizing i with
  | zero => omega
  | succ fuel ih =>
    cases hm : moreOptions d i with
    | true =>
      obtain ⟨hn, hend, -⟩ := moreOptions_iff.mp hm
      have hl : d.buffer i = 0 ∨ (i + 1 : Int) < d.n := by
        by_cases h₀ : d.buffer i = 0
        · exact .inl h₀
        · exact .inr (h.whole hn hend h₀).1
      obtain ⟨htype, hclean⟩ := clean_next hm hl
      have hlt := lt_nextOption d i
      obtain ⟨j, hw, ht⟩ := ih (hclean.mp h) (by omega)
      refine ⟨j, ?_, ht.trans (by rw [htype])⟩
      simp only [walk, hm, if_true, Except.bind]
      exact hw
    | false =>
      refine ⟨i, by simp only [walk, hm, Bool.false_eq_true, if_false], ?_⟩
      by_cases hstop : (i : Int) < d.n ∧ d.buffer i = 53 ∧ d.buffer (i + 1) = 1
      · obtain ⟨hn, hc, hl⟩ := hstop
        have hw := h.whole hn (by rw [hc]; decide) (by rw [hc]; decide)
        rw [if_pos ⟨hn, hc, hl⟩, messageType_at (hw.2 ⟨hc, hl⟩) hc hl]
        rfl
      · rw [if_neg hstop]
        by_cases hn : (i : Int) < d.n
        · have hend : d.buffer i = 255 := by
            by_contra hend
            refine absurd (moreOptions_iff.mpr ⟨hn, hend, fun ht => hstop ⟨hn, ht⟩⟩) ?_
            rw [hm]
            decide
          rw [optionArea_cons hn, hend, Options.scan_end]
          rfl
        · rw [optionArea_of_le (by omega), Options.scan_nil]
          rfl

theorem msgType_clean (h : Clean d 240) :
    msgType d = .ok ((messageType (Options.scan (optionArea d 240)).1).getD 0) := by
  obtain ⟨j, hw, ht⟩ := walk_clean h (Nat.lt_succ_of_le (Nat.sub_le d.n.toNat 240))
  rw [msgType, hw]
  exact congrArg Except.ok ht

end

/-- The loop over the options is right exactly if the walk over them finds a message type,
or the datagram does not end behind the code of an option or before the value of a
message type. -/
theorem scansRight_iff (d : Datagram) : ScansRight d ↔
    (messageType (Options.scan (optionArea d 240)).1).isSome ∨
      ¬ CutShort (Options.scan (optionArea d 240)).2 := by
  constructor
  · intro h
    by_contra hclean
    obtain ⟨j, hr, hj⟩ := exists_loopReads (d := d) (i := 240) hclean .start
    have := h.reads j hr
    omega
  · intro h
    refine ⟨fun i hi => lt_of_loopReads h hi, msgType_clean h, fun d' hn hb => ?_⟩
    have harea : optionArea d' 240 = optionArea d 240 := by
      rw [optionArea, optionArea, hn]
      exact slice_congr fun k _ hk => hb k (by omega)
    have h' : Clean d' 240 := by
      rw [Clean, harea]
      exact h
    rw [msgType_clean h', msgType_clean h, harea]

/-- A datagram that ends behind the code of a message type, and `behind` it in the buffer. -/
def sampleCutOption (behind : Bytes) : Datagram where
  n := 241
  buffer := .ofBytes <| [1, 1, 6, 0] ++ List.replicate 232 0 ++ [0x63, 0x82, 0x53, 0x63] ++ [53] ++
    behind
  src := ⟨0, htons 68⟩

/-- What an earlier packet has left in the buffer makes it a Discover. -/
theorem sampleCutOption_leaks :
    handleUdpRx (sampleCutOption []) = .ok none ∧
      handleUdpRx (sampleCutOption [1, 1]) =
        .ok (some (.dhcpDiscover (ascii "00:00:00:00:00:00") 0)) ∧
      ¬ ScansRight (sampleCutOption [1, 1]) := by
  refine ⟨by decide +kernel, by decide +kernel, fun h => ?_⟩
  have hread := h.reads 241 (.length .start (by decide) (by decide))
  revert hread
  decide

end Twag.Proof.Receive

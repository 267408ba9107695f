import Mathlib.Data.List.Induction
import Twag.Impl.Diameter.Rules

/-!
# Which messages the rules accept

`accepted_iff`: the check of a message's rules succeeds exactly where each AVP
occurs as often and at the place its rule says, in the message and in every
grouped AVP at any depth, and no unknown AVP with the M flag is in it, unless
inside an AVP without that flag.

The counters of `parserules_stat_avps` are read off by `statAvps_eq`.
-/

namespace Twag.Proof.Diameter

open Twag.Impl.Diameter

/-! ## What a rule says -/

/-- `avps` obey the rule: how many AVPs of its model there are, and that one is among
the first or the last of them, unless there is none. -/
structure Obeys (rule : Rule) (avps : List Avp) : Prop where
  min : rule.atLeast ≤ avps.countP (·.hasModel rule)
  max : rule.max ≠ -1 → (avps.countP (·.hasModel rule) : Int) ≤ rule.max
  head : rule.position = .fixedHead → (∃ avp ∈ avps, avp.hasModel rule = true) →
    ∃ avp ∈ avps.take rule.order, avp.hasModel rule = true
  tail : rule.position = .fixedTail → (∃ avp ∈ avps, avp.hasModel rule = true) →
    ∃ avp ∈ avps.reverse.take rule.order, avp.hasModel rule = true

/-- The position of the first element with `p`, from 1, or 0. -/
def position {α : Type} (p : α → Bool) (l : List α) : Nat :=
  if l.any p then l.findIdx p + 1 else 0

section position

variable {α : Type} (p : α → Bool) (l : List α)

theorem position_of_any (h : l.any p = true) : position p l = l.findIdx p + 1 := if_pos h

theorem position_of_not_any (h : ¬ l.any p = true) : position p l = 0 := if_neg h

theorem position_le_iff (n : Nat) :
    position p l ≤ n ↔ ((∃ a ∈ l, p a = true) → ∃ a ∈ l.take n, p a = true) := by
  by_cases h : l.any p = true
  · have hex := List.any_eq_true.1 h
    have hlt := List.findIdx_lt_length_of_exists hex
    rw [position_of_any p l h]
    constructor
    · intro hle _
      refine ⟨l[l.findIdx p], ?_, List.findIdx_getElem⟩
      exact List.mem_take_iff_getElem.2 ⟨l.findIdx p, by omega, rfl⟩
    · intro htake
      obtain ⟨a, ha, hp⟩ := htake hex
      obtain ⟨i, hi, rfl⟩ := List.mem_take_iff_getElem.1 ha
      have hle : l.findIdx p ≤ i := by
        by_contra hgt
        rw [List.not_of_lt_findIdx (Nat.lt_of_not_le hgt)] at hp
        exact absurd hp (by decide)
      omega
  · rw [position_of_not_any p l h]
    exact ⟨fun _ hex => absurd (List.any_eq_true.2 hex) h, fun _ => Nat.zero_le n⟩

theorem position_append_singleton (a : α) :
    position p (l ++ [a]) =
      if position p l = 0 then if p a then l.length + 1 else 0 else position p l := by
  by_cases h : l.any p = true
  · have hany : (l ++ [a]).any p = true := by rw [List.any_append, h, Bool.true_or]
    have hlt := List.findIdx_lt_length_of_exists (List.any_eq_true.1 h)
    rw [position_of_any p _ hany, position_of_any p l h, if_neg (Nat.succ_ne_zero _),
      List.findIdx_append, if_pos hlt]
  · have hge : ¬ l.findIdx p < l.length := fun hlt =>
      h (List.any_eq_true.2 ⟨_, List.getElem_mem hlt, List.findIdx_getElem⟩)
    rw [position_of_not_any p l h, if_pos rfl]
    cases hp : p a with
    | true =>
      have hany : (l ++ [a]).any p = true := by simp [hp]
      rw [position_of_any p _ hany, List.findIdx_append, if_neg hge, List.findIdx_singleton, hp]
      simp
    | false =>
      have hany : ¬ (l ++ [a]).any p = true := by simpa [hp] using h
      rw [position_of_not_any p _ hany, if_neg (by decide)]

theorem position_cons (a : α) :
    position p (a :: l) = if p a then 1 else if position p l = 0 then 0 else position p l + 1 := by
  cases hp : p a with
  | true =>
    rw [position_of_any p _ (by simp [hp]), List.findIdx_cons, hp]
    rfl
  | false =>
    rw [if_neg (by decide)]
    by_cases h : l.any p = true
    · rw [position_of_any p _ (by simp [h]), position_of_any p l h, List.findIdx_cons, hp,
        if_neg (Nat.succ_ne_zero _)]
      rfl
    · rw [position_of_not_any p _ (by simpa [hp] using h), position_of_not_any p l h, if_pos rfl]

end position

/-- `parserules_stat_avps` counts, and finds the first position and the last from the end. -/
theorem statAvps_eq (rule : Rule) (avps : List Avp) :
    statAvps rule avps =
      { curpos := avps.length
        count := avps.countP (·.hasModel rule)
        firstpos := position (·.hasModel rule) avps
        lastpos := position (·.hasModel rule) avps.reverse } := by
  induction avps using List.reverseRecOn with
  | nil => rfl
  | append_singleton avps avp ih =>
    have hstep : statAvps rule (avps ++ [avp]) = (statAvps rule avps).next rule avp := by
      rw [statAvps, statAvps, List.foldl_append]
      rfl
    rw [hstep, ih, Stat.next, List.reverse_append, List.reverse_singleton, List.singleton_append,
      position_append_singleton, position_cons, List.length_append, List.countP_append,
      List.countP_singleton]
    cases avp.hasModel rule with
    | true => rfl
    | false =>
      by_cases hf : position (·.hasModel rule) avps = 0 <;>
        by_cases hl : position (·.hasModel rule) avps.reverse = 0 <;> simp [hf, hl]

theorem checkOneRule_iff (rule : Rule) (avps : List Avp) :
    checkOneRule rule avps = .ok () ↔ Obeys rule avps := by
  have hhead := position_le_iff (·.hasModel rule) avps rule.order
  have htail := position_le_iff (·.hasModel rule) avps.reverse rule.order
  rw [checkOneRule, statAvps_eq]
  dsimp only
  constructor
  · intro h
    split at h
    · cases h
    split at h
    · cases h
    rename_i hmin hmax
    refine ⟨by omega, by omega, fun hpos hex => ?_, fun hpos hex => ?_⟩
    · rw [hpos] at h
      dsimp only at h
      split at h
      · cases h
      · exact hhead.1 (by omega) hex
    · rw [hpos] at h
      dsimp only at h
      split at h
      · cases h
      · refine htail.1 (by omega) ?_
        simpa using hex
  · intro h
    have hmin := h.min
    have hmax := h.max
    rw [if_neg (by omega), if_neg (by omega)]
    cases hpos : rule.position with
    | optional => rfl
    | required => rfl
    | fixedHead => exact if_neg (Nat.not_lt.2 (hhead.2 (h.head hpos)))
    | fixedTail => exact if_neg (Nat.not_lt.2 (htail.2 fun hex => h.tail hpos (by simpa using hex)))

theorem checkRules_iff (avps : List Avp) (rules : List Rule) :
    checkRules avps rules = .ok () ↔ ∀ rule ∈ rules, Obeys rule avps := by
  induction rules with
  | nil => exact ⟨fun _ rule hrule => absurd hrule List.not_mem_nil, fun _ => rfl⟩
  | cons rule rules ih =>
    rw [checkRules, List.forall_mem_cons, ← checkOneRule_iff, ← ih]
    cases checkOneRule rule avps with
    | error e => exact ⟨fun h => (nomatch h), fun h => (nomatch h.1)⟩
    | ok u => exact ⟨fun h => ⟨rfl, h⟩, fun h => h.2⟩

/-! ## The tree -/

/-- `avp` is among `avps`, or inside one of them; the flag says whether all AVPs around
it have the M flag. -/
inductive Occurs : List Avp → Bool → Avp → Prop
  | here {avps avp} : avp ∈ avps → Occurs avps true avp
  | inside {avps hdr children mandatory avp} : Avp.grouped hdr children ∈ avps →
      Occurs children mandatory avp → Occurs avps (hdr.isMandatory && mandatory) avp

/-- What is asked of one AVP of a message. -/
def Fine (grammar : Grammar) (mandatory : Bool) : Avp → Prop
  | .raw hdr _ => (mandatory && hdr.isMandatory) = false
  | .leaf _ _ => True
  | .grouped hdr children => ∀ rule ∈ grammar.avp hdr.vendor hdr.code, Obeys rule children

/-- A message as its rules want it. -/
structure Conforms (grammar : Grammar) (msg : Message) : Prop where
  rules : ∀ rule ∈ grammar.rules msg, Obeys rule msg.avps
  avps : ∀ mandatory avp, Occurs msg.avps mandatory avp → Fine grammar mandatory avp

theorem occurs_cons {avp a : Avp} {avps : List Avp} {m : Bool} :
    Occurs (avp :: avps) m a ↔ (m = true ∧ a = avp) ∨
      (∃ hdr children m', avp = .grouped hdr children ∧ Occurs children m' a ∧
        m = (hdr.isMandatory && m')) ∨ Occurs avps m a := by
  constructor
  · intro h
    cases h with
    | here h =>
      cases h with
      | head => exact .inl ⟨rfl, rfl⟩
      | tail _ h => exact .inr (.inr (.here h))
    | inside h hin =>
      cases h with
      | head => exact .inr (.inl ⟨_, _, _, rfl, hin, rfl⟩)
      | tail _ h => exact .inr (.inr (.inside h hin))
  · rintro (⟨rfl, rfl⟩ | ⟨hdr, children, m', rfl, hin, rfl⟩ | h)
    · exact .here (.head _)
    · exact .inside (.head _) hin
    · cases h with
      | here h => exact .here (.tail _ h)
      | inside h hin => exact .inside (.tail _ h) hin

mutual

theorem parserulesAvp_iff (grammar : Grammar) (mandatory : Bool) (avp : Avp) :
    parserulesAvp grammar mandatory avp = .ok () ↔
      Fine grammar mandatory avp ∧
      ∀ hdr children, avp = .grouped hdr children → ∀ m a, Occurs children m a →
        Fine grammar (mandatory && (hdr.isMandatory && m)) a := by
  match avp with
  | .leaf hdr value =>
    rw [parserulesAvp]
    exact ⟨fun _ => ⟨trivial, fun _ _ h => (nomatch h)⟩, fun _ => rfl⟩
  | .raw hdr data =>
    rw [parserulesAvp, Fine]
    cases hm : mandatory && hdr.isMandatory with
    | true => exact ⟨fun h => (nomatch h), fun h => (nomatch h.1)⟩
    | false => exact ⟨fun _ => ⟨rfl, fun _ _ h => (nomatch h)⟩, fun _ => rfl⟩
  | .grouped hdr children =>
    have ih := parserulesChain_iff grammar (mandatory && hdr.isMandatory) children
    have hrules := checkRules_iff children (grammar.avp hdr.vendor hdr.code)
    rw [parserulesAvp, Fine, ← hrules]
    simp only [Bool.and_assoc] at ih
    constructor
    · intro h
      cases hc : parserulesChain grammar (mandatory && hdr.isMandatory) children with
      | error e => rw [hc] at h; cases h
      | ok u =>
        rw [hc] at h
        refine ⟨h, fun hdr' children' heq => ?_⟩
        cases heq
        exact ih.1 hc
    · intro h
      rw [ih.2 (h.2 hdr children rfl)]
      exact h.1

theorem parserulesChain_iff (grammar : Grammar) (mandatory : Bool) (avps : List Avp) :
    parserulesChain grammar mandatory avps = .ok () ↔
      ∀ m a, Occurs avps m a → Fine grammar (mandatory && m) a := by
  match avps with
  | [] =>
    rw [parserulesChain]
    refine ⟨fun _ m a h => ?_, fun _ => rfl⟩
    cases h with
    | here h => cases h
    | inside h => cases h
  | avp :: avps =>
    have ih := parserulesChain_iff grammar mandatory avps
    have havp := parserulesAvp_iff grammar mandatory avp
    rw [parserulesChain]
    constructor
    · intro h m a ha
      cases hfirst : parserulesAvp grammar mandatory avp with
      | error e => rw [hfirst] at h; cases h
      | ok u =>
        rw [hfirst] at h
        obtain ⟨hfine, hchildren⟩ := havp.1 hfirst
        obtain ⟨rfl, rfl⟩ | ⟨hdr, children, m', rfl, hin, rfl⟩ | hrest := occurs_cons.1 ha
        · rwa [Bool.and_true]
        · exact hchildren hdr children rfl m' a hin
        · exact ih.1 h m a hrest
    · intro h
      have hfine := h true avp (.here (.head _))
      rw [Bool.and_true] at hfine
      rw [havp.2 ⟨hfine, fun hdr children heq m a hin =>
        h _ a (occurs_cons.2 (.inr (.inl ⟨hdr, children, m, heq, hin, rfl⟩)))⟩]
      exact ih.2 fun m a hin => h m a (occurs_cons.2 (.inr (.inr hin)))

end

/-- The rules of a message are checked as they stand in the dictionary, at every depth. -/
theorem accepted_iff (grammar : Grammar) (msg : Message) :
    parseRules grammar msg = .ok () ↔ Conforms grammar msg := by
  have hchain := parserulesChain_iff grammar true msg.avps
  have hrules := checkRules_iff msg.avps (grammar.rules msg)
  simp only [Bool.true_and] at hchain
  rw [parseRules]
  constructor
  · intro h
    cases hc : parserulesChain grammar true msg.avps with
    | error e => rw [hc] at h; cases h
    | ok u =>
      rw [hc] at h
      exact ⟨hrules.1 h, hchain.1 hc⟩
  · intro h
    rw [hchain.2 h.avps]
    exact hrules.2 h.rules

end Twag.Proof.Diameter

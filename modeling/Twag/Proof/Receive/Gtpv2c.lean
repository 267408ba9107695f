import Twag.Impl.Receive.S2a

/-!
# What is decoded of a Create Session Response

* `walkIes_ok`: a walk over IEs that ends has visited them one after the other;
* `decode_paa`: the address that is decoded, from the PAA IEs of the message.
-/

namespace Twag.Proof.Receive

open Twag.Impl

variable {buf : Memory}

/-- Where the IEs are that a walk from `base` visits. -/
def iesFrom (buf : Memory) (base bufLen : Nat) : Option (List Nat) :=
  (trail (fun count => decide (count < bufLen)) (nextIe buf base) (2 ^ 16) 0).map
    (List.map (base + ·))

/-- Where the IEs of a message are. -/
def messageIes (buf : Memory) : Option (List Nat) := iesFrom buf (iesStart buf) (iesLen buf)

/-- Where the PAA IEs of a message are. -/
def paaIes (buf : Memory) : List Nat := ((messageIes buf).getD []).filter (isIe buf · 79 0)

/-- The IPv4 octets of the PAA IE at `p`, if its type is IPv4 or IPv4v6. -/
def paaOctets (buf : Memory) (p : Nat) : Option Bytes :=
  if paaPdnType buf p = 1 then some (slice buf (p + 5) 4)
  else if paaPdnType buf p = 3 then some (slice buf (p + 22) 4)
  else none

theorem walkIes_ok {σ : Type} {base bufLen : Nat} {visit : σ → Nat → Except Fault σ} {s s' : σ}
    (h : walkIes buf base bufLen visit s = .ok s') :
    ∃ l, iesFrom buf base bufLen = some l ∧ l.foldlM visit s = .ok s' := by
  obtain ⟨⟨j, _⟩, hw, rfl⟩ := map_ok_iff.mp h
  obtain ⟨l, hl, hf⟩ := walk_ok_iff.mp ⟨j, hw⟩
  refine ⟨l.map (base + ·), by rw [iesFrom, hl]; rfl, ?_⟩
  rwa [List.foldlM_map]

theorem walkIes_ok_iff {σ : Type} {base bufLen : Nat} {visit : σ → Nat → Except Fault σ} {s : σ} :
    (∃ s', walkIes buf base bufLen visit s = .ok s') ↔
      ∃ l, iesFrom buf base bufLen = some l ∧ ∃ s', l.foldlM visit s = .ok s' := by
  constructor
  · rintro ⟨s', h⟩
    obtain ⟨l, hl, hf⟩ := walkIes_ok h
    exact ⟨l, hl, s', hf⟩
  · rintro ⟨_, hl, s', hf⟩
    obtain ⟨l, ht, rfl⟩ := Option.map_eq_some_iff.mp hl
    rw [List.foldlM_map] at hf
    obtain ⟨j, hw⟩ := walk_ok_iff.mpr ⟨l, ht, hf⟩
    exact ⟨s', map_ok_iff.mpr ⟨_, hw, rfl⟩⟩

theorem isIe_type {p : Nat} {type inst : UInt8} (h : isIe buf p type inst = true) : buf p = type :=
  eq_of_beq (Bool.and_eq_true_iff.mp h).1

/-- A PAA IE is decoded over the address before it, and no other IE changes it; a
bearer context is added to those before it. -/
theorem visit_ok {rsp rsp' : CreateSessRsp} {p : Nat}
    (h : visitCreateSessRsp buf rsp p = .ok rsp') :
    rsp'.paa =
        (if isIe buf p 79 0 = true then some (decodePaa buf p (rsp.paa.getD 0)) else rsp.paa) ∧
      rsp'.bearerContextsCreated.length =
        rsp.bearerContextsCreated.length + if isIe buf p 93 0 = true then 1 else 0 := by
  have other {type inst : UInt8} (hi : isIe buf p type inst = true) {type' inst' : UInt8}
      (ht : type ≠ type') : ¬ isIe buf p type' inst' = true :=
    fun hp => ht ((isIe_type hi).symm.trans (isIe_type hp))
  rw [visitCreateSessRsp] at h
  split at h
  · rename_i hi
    cases h
    rw [if_neg (other hi (by decide)), if_neg (other hi (by decide))]
    exact ⟨rfl, rfl⟩
  split at h
  · rename_i hi
    cases h
    rw [if_neg (other hi (by decide)), if_neg (other hi (by decide))]
    exact ⟨rfl, rfl⟩
  split at h
  · rename_i hi
    cases h
    rw [if_pos hi, if_neg (other hi (by decide))]
    exact ⟨rfl, rfl⟩
  rename_i hp
  rw [if_neg hp]
  split at h
  · rename_i hi
    split at h <;> [skip; cases h]
    obtain ⟨ctxt, -, rfl⟩ := map_ok_iff.mp h
    rw [if_pos hi]
    exact ⟨rfl, List.length_append⟩
  rename_i hc
  rw [if_neg hc]
  split at h
  · obtain ⟨_, -, rfl⟩ := map_ok_iff.mp h
    exact ⟨rfl, rfl⟩
  split at h <;> cases h
  exact ⟨rfl, rfl⟩

/-- The address is what the PAA IEs make of it, one after the other. -/
theorem decode_paa {rsp : CreateSessRsp} (h : decodeCreateSessRsp buf = .ok rsp) :
    rsp.paa = (paaIes buf).foldl (fun addr p => some (decodePaa buf p (addr.getD 0))) none := by
  obtain ⟨l, hl, hf⟩ := walkIes_ok h
  rw [paaIes, messageIes, hl, Option.getD_some]
  refine foldlM_ok (fun l rsp => rsp.paa = (l.filter (isIe buf · 79 0)).foldl
    (fun addr p => some (decodePaa buf p (addr.getD 0))) none) ?_ hf rfl
  intro l p rsp rsp' hp hv
  rw [(visit_ok hv).1, List.filter_append, List.foldl_append, ← hp]
  by_cases hi : isIe buf p 79 0 = true
  · simp [hi]
  · simp [hi]

/-- If the message has one PAA IE at most, a UE address that is not 0 is in it. -/
theorem ueIp_octets {rsp : CreateSessRsp} (h : decodeCreateSessRsp buf = .ok rsp)
    (hl : (paaIes buf).length ≤ 1) (hip : S2aInterface.ueIp rsp ≠ 0) :
    ∃ p i, paaIes buf = [p] ∧ paaOctets buf p = some (slice buf i 4) ∧
      S2aInterface.ueIp rsp = le32 buf i := by
  have hpaa := decode_paa h
  match hp : paaIes buf, hl with
  | [], _ =>
    rw [hp] at hpaa
    exact absurd (by rw [S2aInterface.ueIp, hpaa]; rfl) hip
  | [p], _ =>
    rw [hp] at hpaa
    have hue : S2aInterface.ueIp rsp = decodePaa buf p 0 := by rw [S2aInterface.ueIp, hpaa]; rfl
    by_cases h1 : paaPdnType buf p = 1
    · exact ⟨p, p + 5, rfl, by rw [paaOctets, if_pos h1], by rw [hue, decodePaa, if_pos h1]⟩
    by_cases h3 : paaPdnType buf p = 3
    · exact ⟨p, p + 22, rfl, by rw [paaOctets, if_neg h1, if_pos h3],
        by rw [hue, decodePaa, if_neg h1, if_pos h3]⟩
    · exact absurd (by rw [hue, decodePaa, if_neg h1, if_neg h3]) hip
  | _ :: _ :: _, hl => exact absurd hl (by simp)

end Twag.Proof.Receive

import Twag.Proof.Send.Imsi

/-!
# The APN in a Create Session Request

A name is its labels with dots between them, and its encoding is the labels with
their lengths before them. The request has the length of the whole name before the
name (`ieValue_apn`); so it carries the encoding exactly if there is one label, and
`apn_intact_iff` says for which names that is what is expected.
-/

namespace Twag.Proof.Send

open Twag.Impl Twag.Proof.Core

/-! ## Labels -/

/-- The labels of a name. -/
def labels (apn : Bytes) : List Bytes := apn.splitOn 46

/-- The name with these labels. -/
def joinLabels (ls : List Bytes) : Bytes := [46].intercalate ls

/-- Every label has 1 to 63 bytes. -/
def ValidLabels (apn : Bytes) : Prop := ∀ l ∈ labels apn, 1 ≤ l.length ∧ l.length ≤ 63

instance (apn : Bytes) : Decidable (ValidLabels apn) := inferInstanceAs (Decidable (∀ l ∈ _, _))

/-- The labels, each with its length before it. -/
def encodeLabels : List Bytes → Bytes
  | [] => []
  | l :: ls => UInt8.ofNat l.length :: (l ++ encodeLabels ls)

/-- The labels of an encoding, with fuel for one turn a label. -/
def decodeLabels : Nat → Bytes → Option (List Bytes)
  | _, [] => some []
  | 0, _ :: _ => none
  | fuel + 1, n :: rest =>
    if n.toNat ≤ rest.length then
      (decodeLabels fuel (rest.drop n.toNat)).map (rest.take n.toNat :: ·)
    else none

theorem joinLabels_labels (apn : Bytes) : joinLabels (labels apn) = apn :=
  List.intercalate_splitOn 46

theorem labels_ne_nil (apn : Bytes) : labels apn ≠ [] := List.splitOn_ne_nil 46 apn

theorem length_encodeLabels {ls : List Bytes} (h : ls ≠ []) :
    (encodeLabels ls).length = (joinLabels ls).length + 1 := by
  induction ls with
  | nil => exact absurd rfl h
  | cons l ls ih =>
    cases ls with
    | nil => simp [encodeLabels, joinLabels]
    | cons l' ls =>
      have ih := ih (List.cons_ne_nil l' ls)
      rw [joinLabels] at ih ⊢
      rw [List.intercalate_cons_cons, encodeLabels, List.length_cons, List.length_append, ih]
      simp only [List.length_append, List.length_singleton]
      omega

/-- An encoding gives its labels back. -/
theorem decodeLabels_encodeLabels {ls : List Bytes} (h : ∀ l ∈ ls, l.length < 256) {fuel : Nat}
    (hf : ls.length ≤ fuel) : decodeLabels fuel (encodeLabels ls) = some ls := by
  induction ls generalizing fuel with
  | nil => rw [encodeLabels, decodeLabels]
  | cons l ls ih =>
    obtain ⟨fuel, rfl⟩ := Nat.exists_eq_add_one_of_ne_zero (by simp at hf; omega : fuel ≠ 0)
    have hl : (UInt8.ofNat l.length).toNat = l.length := by
      rw [UInt8.toNat_ofNat', Nat.mod_eq_of_lt (h l List.mem_cons_self)]
    have ih := ih (fun l hl => h l (List.mem_cons_of_mem _ hl)) (Nat.le_of_succ_le_succ hf)
    rw [encodeLabels, decodeLabels, hl, if_pos (by simp), List.drop_left, List.take_left, ih]
    rfl

/-- A name with a dot has two labels or more. -/
theorem two_le_length_labels {apn : Bytes} (h : 46 ∈ apn) : 2 ≤ (labels apn).length := by
  unfold labels
  induction apn with
  | nil => cases h
  | cons c apn ih =>
    have hpos : 0 < (apn.splitOn 46).length := List.length_pos_iff.mpr (List.splitOn_ne_nil _ _)
    rw [List.splitOn_cons_eq_if_modifyHead]
    split
    · rw [List.length_cons]
      omega
    · rename_i hc
      rw [List.length_modifyHead]
      rcases List.mem_cons.mp h with rfl | h
      · exact absurd (beq_self_eq_true _) hc
      · exact ih h

/-! ## The IE -/

section

variable (stale : Stale) (env : Env) (config : TwagConfig) {mac : Bytes} (session : UeSession mac)

/-- The request is made without a write behind the field of the name; and the IE of a
name that has an encoding in 128 bytes is this encoding, which gives the name back. -/
def ApnIntact : Prop :=
  ∃ b, requestOf stale env config session = .ok b ∧
    (ValidLabels (apnOf config session) →
      (encodeLabels (labels (apnOf config session))).length ≤ 128 →
      ∃ value, ieValue b 71 = .ok (some value) ∧
        value = encodeLabels (labels (apnOf config session)) ∧
        (decodeLabels value.length value).map joinLabels = some (apnOf config session))

end

variable {stale : Stale} {env : Env} {config : TwagConfig} {mac : Bytes} {session : UeSession mac}

/-- The name and the length before it are not the encoding of two labels or more. -/
theorem encodeLabels_ne {apn : Bytes} (hl : apn.length < 256) (h : 46 ∈ apn) :
    encodeLabels (labels apn) ≠ UInt8.ofNat apn.length :: apn := by
  intro he
  have htwo := two_le_length_labels h
  have hjoin := joinLabels_labels apn
  cases hls : labels apn with
  | nil => simp [hls] at htwo
  | cons l ls =>
    rw [hls] at htwo he hjoin
    cases ls with
    | nil => simp at htwo
    | cons l' ls =>
      have hlt : l.length < apn.length := by
        rw [← hjoin, joinLabels, List.intercalate_cons_cons]
        simp only [List.length_append, List.length_singleton]
        omega
      have hhead := congrArg UInt8.toNat (List.cons.inj he).1
      rw [UInt8.toNat_ofNat', UInt8.toNat_ofNat'] at hhead
      omega

theorem ApnIntact.fits (h : ApnIntact stale env config session) :
    (apnOf config session).length ≤ 127 := by
  obtain ⟨b, hb, -⟩ := h
  exact request_ok_iff.mp ⟨b, hb⟩

theorem ApnIntact.not_valid (h : ApnIntact stale env config session)
    (hdot : 46 ∈ apnOf config session) : ¬ ValidLabels (apnOf config session) := by
  intro hvalid
  have hn := h.fits
  obtain ⟨b, hb, h⟩ := h
  have hsize : (encodeLabels (labels (apnOf config session))).length ≤ 128 := by
    rw [length_encodeLabels (labels_ne_nil _), joinLabels_labels]
    omega
  obtain ⟨value, hv, rfl, -⟩ := h hvalid hsize
  rw [ieValue_apn hb] at hv
  exact encodeLabels_ne (by omega) hdot (Option.some.inj (Except.ok.inj hv)).symm

/-- The APN IE is right exactly for the names that fit, and that have one label or
are no names that can be encoded. -/
theorem apn_intact_iff : ApnIntact stale env config session ↔
    (apnOf config session).length ≤ 127 ∧
      (46 ∈ apnOf config session → ¬ ValidLabels (apnOf config session)) := by
  constructor
  · exact fun h => ⟨h.fits, h.not_valid⟩
  · rintro ⟨hn, hdot⟩
    obtain ⟨b, hb⟩ := request_ok_iff.mpr hn
    refine ⟨b, hb, fun hvalid _ => ⟨_, ieValue_apn hb, ?_⟩⟩
    have hone : labels (apnOf config session) = [apnOf config session] :=
      List.splitOn_eq_singleton fun h => hdot h hvalid
    have he : encodeLabels (labels (apnOf config session)) =
        UInt8.ofNat (apnOf config session).length :: apnOf config session := by
      rw [hone, encodeLabels, encodeLabels, List.append_nil]
    refine ⟨he.symm, ?_⟩
    rw [← he, decodeLabels_encodeLabels, Option.map_some, joinLabels_labels]
    · intro l hl
      have := hvalid l hl
      omega
    · rw [hone, length_encodeLabels (List.cons_ne_nil _ _)]
      simp

/-- A session whose AAA server has given it this name. -/
def sampleNamed (apn : Bytes) : UeSession sampleMac := { sampleSession [] with apn := apn }

/-- A name with a dot, and one that is too long for the field. -/
theorem sampleDotted_not_intact :
    ¬ ApnIntact sampleStale (sampleEnv 0) sampleBoot.config
        (sampleNamed (ascii "internet.example")) ∧
      ¬ ApnIntact sampleStale (sampleEnv 0) sampleBoot.config
        (sampleNamed (List.replicate 128 97)) := by
  constructor
  · intro h
    exact h.not_valid (by decide) (by decide)
  · intro h
    have hn := h.fits
    rw [show apnOf sampleBoot.config (sampleNamed (List.replicate 128 97)) =
      List.replicate 128 97 from rfl, List.length_replicate] at hn
    omega

end Twag.Proof.Send

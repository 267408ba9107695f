import Twag.Proof.Core.Kernel

/-!
# The other UEs when one disconnects

`teardown_kernel_gtpu_tunnel` runs for a session in any state, and deletes the
route to its `ue_ip_`, which only a Create Session Response writes and the
constructor does not initialise.

* `ueIp_lastTaken`: `ue_ip_` is the address of the last response taken;
* `harmless_iff`: ending a session deletes only what was assigned to it, and no
  route that a connected session uses, exactly if the last response it has taken
  carried an address, and no connected session that is routed has that address
  while the route is deleted;
* `stop_cuts_off`: a session that has not come to the P-GW takes the route of
  another UE with it.
-/

namespace Twag.Proof.Core

open Twag.Impl Twag.Spec

/-- The address that a command is for. -/
def commandIp : Command → UInt32
  | .routeAdd ip => ip
  | .routeDel ip => ip
  | .dscpDelete ip _ => ip

variable (boot : Boot) (m : Bytes)

/-- A Create Session Response that assigns `ip` to the session of `m`: the
session waits for it. -/
def Takes (ip : UInt32) (h : List Input) (x : Input) : Prop :=
  ∃ pgwTeid qci s, deliver (boot.after h) x = some (m, .createResponse true pgwTeid ip qci) ∧
    (boot.after h).getSession m = some s ∧ s.state = .gtpCreatePending

/-- The address `ip` was assigned to the session that `m` has now. A response
without an address writes 0. -/
def Assigned (ip : UInt32) (h : List Input) : Prop := ip ≠ 0 ∧ InLife boot m (Takes boot m ip) h

/-- The last response that the session that `m` has now has taken wrote `ip`. -/
def LastTaken (ip : UInt32) : List Input → Prop :=
  Since (fun g y => Takes boot m ip g y ∧ Stored boot m (y :: g))
    (fun g y => (∀ ip', ¬ Takes boot m ip' g y) ∧ Stored boot m (y :: g))

/-- The step leaves the routes and DSCP rules of every other connected session,
and commands nothing for an address that was not assigned to the session of `m`. -/
def Harmless (h : List Input) (x : Input) : Prop :=
  (∀ m' s', m' ≠ m → (boot.after h).getSession m' = some s' → s'.state = .connected →
      (s'.ueIp ∈ (kernelAfter boot h).routes → s'.ueIp ∈ (kernelAfter boot (x :: h)).routes) ∧
      ∀ dscp, (s'.ueIp, dscp) ∈ (kernelAfter boot h).dscpRules →
        (s'.ueIp, dscp) ∈ (kernelAfter boot (x :: h)).dscpRules) ∧
    ∀ cmd ok, .system cmd ok ∈ boot.effects h x → Assigned boot m (commandIp cmd) h

variable {boot m} {h : List Input} {x : Input} {s : UeSession m} {ip : UInt32}

/-! ## The address of a session -/

/-- Where a response was taken in a life, there is a last one. -/
theorem lastTaken_of_inLife (hl : InLife boot m (Takes boot m ip) h) :
    ∃ ip', LastTaken boot m ip' h := by
  induction h with
  | nil => exact hl.elim
  | cons x h ih =>
    by_cases hx : ∃ ip', Takes boot m ip' h x
    · obtain ⟨ip', hx⟩ := hx
      have hst : Stored boot m (x :: h) := by
        rcases hl with ⟨-, hst⟩ | ⟨hst, -⟩
        · exact hst
        · exact hst
      exact ⟨ip', Since.now ⟨hx, hst⟩⟩
    · rcases hl with ⟨ht, -⟩ | ⟨hst, hl⟩
      · exact absurd ⟨ip, ht⟩ hx
      · obtain ⟨ip', hl'⟩ := ih hl
        exact ⟨ip', .later ⟨fun ip'' ht => hx ⟨ip'', ht⟩, hst⟩ hl'⟩

theorem LastTaken.inLife (hl : LastTaken boot m ip h) : InLife boot m (Takes boot m ip) h :=
  Since.imp (fun _ _ hy => hy) (fun _ _ hy => hy.2) hl

/-- `ue_ip_` is what the last response taken wrote. -/
theorem ueIp_lastTaken (hs : (boot.after h).getSession m = some s) (hl : LastTaken boot m ip h) :
    s.ueIp = ip := by
  induction hs using stored_induction with
  | reacts h x e s₀ s hs hd hs₀ hr he ih =>
    rcases react_tunnel hr with ⟨pgwTeid, ueIp, qci, st, rfl, hp, rfl⟩ | ⟨hno, -, hip, -⟩
    · rcases hl with ⟨⟨pgwTeid', qci', s', hd', -⟩, -⟩ | ⟨⟨hno, -⟩, -⟩
      · cases hd.symm.trans hd'
        rfl
      · exact absurd ⟨pgwTeid, qci, s₀, hd, hs₀, hp⟩ (hno ueIp)
    · rcases hl with ⟨⟨pgwTeid, qci, s', hd', hs', hp⟩, -⟩ | ⟨-, hl⟩
      · cases hd.symm.trans hd'
        cases hs₀.symm.trans hs'
        exact absurd hp (hno pgwTeid ip qci rfl)
      · exact hip.trans (ih hl)
  | attaches h x req c s hs hx hm hn hc hr he =>
    rcases hl with ⟨⟨_, _, s', -, hs', -⟩, -⟩ | ⟨-, hl⟩
    · rw [hn] at hs'
      cases hs'
    · exact absurd (LastTaken.inLife hl) (not_inLife hn)
  | keeps h x s hs hs₀ hd ih =>
    rcases hl with ⟨⟨pgwTeid, qci, s', hd', -⟩, -⟩ | ⟨-, hl⟩
    · exact absurd hd' (hd _)
    · exact ih hl

/-! ## The end of a session -/

theorem kernelReact_ends (config : TwagConfig) (env : Env) {e : UeEvent} (he : Ends s e) :
    kernelReact config env s e = teardownKernelGtpuTunnel env s := by
  rcases kernelReact_cases config env s e with ⟨_, _, _, rfl, -⟩ | ⟨-, hr⟩ | ⟨hno, -⟩
  · exact he.elim
  · exact hr
  · exact absurd he hno

/-- Every command of a teardown is for the session's address, and there is one. -/
theorem teardown_ip {env : Env} :
    (∀ cmd ok, .system cmd ok ∈ teardownKernelGtpuTunnel env s → commandIp cmd = s.ueIp) ∧
      .system (.routeDel s.ueIp) (env.system (.routeDel s.ueIp)) ∈
        teardownKernelGtpuTunnel env s := by
  refine ⟨fun cmd ok hmem => ?_, List.mem_cons_self⟩
  rcases mem_teardown hmem with ⟨_, heq⟩ | ⟨_, _, heq⟩
  · cases heq
    rfl
  · cases heq
    rfl

theorem system_effects {e : UeEvent} {cmd : Command} {ok : Bool}
    (hd : deliver (boot.after h) x = some (m, e)) (hs : (boot.after h).getSession m = some s)
    (he : Ends s e) :
    .system cmd ok ∈ boot.effects h x ↔ .system cmd ok ∈ teardownKernelGtpuTunnel x.env s := by
  rw [← kernelReact_ends boot.config x.env he]
  constructor
  · intro hmem
    obtain ⟨e', s', hd', hs', hmem⟩ := callsFor_kernel (m := m) rfl ⟨⟨e, hd⟩, hmem⟩
    cases hd.symm.trans hd'
    cases hs.symm.trans hs'
    exact hmem
  · intro hmem
    exact (callsFor_of_kernelReact hd hs hmem).2

/-- In every reachable state, an event that ends the session of `m` is harmless
to the others exactly if the last response that the session has taken carried an
address, and the route to it is not deleted while another connected session with
that address is routed. -/
theorem harmless_iff (boot : Boot) (h : List Input) (x : Input) (m : Bytes) (s : UeSession m)
    (e : UeEvent) (hs : (boot.after h).getSession m = some s)
    (hd : deliver (boot.after h) x = some (m, e)) (he : Ends s e) :
    Harmless boot m h x ↔
      (∃ ip, ip ≠ 0 ∧ LastTaken boot m ip h) ∧
        ¬ (x.env.system (.routeDel s.ueIp) = true ∧ s.ueIp ∈ (kernelAfter boot h).routes ∧
          ∃ m' s', m' ≠ m ∧ (boot.after h).getSession m' = some s' ∧ s'.state = .connected ∧
            s'.ueIp = s.ueIp) := by
  have hk : (kernelAfter boot (x :: h)).routes =
      if x.env.system (.routeDel s.ueIp) = true then (kernelAfter boot h).routes.erase s.ueIp
      else (kernelAfter boot h).routes := by
    rw [kernelAfter_stored hd hs, kernelReact_ends _ _ he, routes_teardown]
  constructor
  · rintro ⟨hother, hcmd⟩
    obtain ⟨hne, hl⟩ := hcmd _ _ ((system_effects hd hs he).mpr teardown_ip.2)
    obtain ⟨ip, hlast⟩ := lastTaken_of_inLife hl
    obtain rfl := ueIp_lastTaken hs hlast
    refine ⟨⟨s.ueIp, hne, hlast⟩, ?_⟩
    rintro ⟨hdel, hmem, m', s', hm, hs', hc, hip⟩
    have hkept := (hother m' s' hm hs' hc).1 (hip ▸ hmem)
    rw [hk, if_pos hdel, hip] at hkept
    exact Finset.notMem_erase _ _ hkept
  · rintro ⟨⟨ip, hne, hlast⟩, hno⟩
    obtain rfl := ueIp_lastTaken hs hlast
    refine ⟨fun m' s' hm hs' hc => ⟨fun hmem => ?_, fun dscp hmem => ?_⟩, fun cmd ok hmem => ?_⟩
    · rw [hk]
      split
      · rename_i hdel
        refine Finset.mem_erase.mpr ⟨fun hip => ?_, hmem⟩
        exact hno ⟨hdel, hip ▸ hmem, m', s', hm, hs', hc, hip⟩
      · exact hmem
    · rw [dscpRules_after] at hmem
      exact absurd hmem (Finset.notMem_empty _)
    · rw [teardown_ip.1 cmd ok ((system_effects hd hs he).mp hmem)]
      exact ⟨hne, hlast.inLife⟩

/-- The sample UE stops. -/
def sampleDetach : Input := sampleAt 50 (.accountingStop sampleMac)

theorem harmless_iff_sample :
    ∃ s, (sampleBoot.after sampleHandshake).getSession sampleMac = some s ∧
      Ends s .disconnect ∧ Harmless sampleBoot sampleMac sampleHandshake sampleDetach := by
  obtain ⟨s, hs⟩ := Option.isSome_iff_exists.mp
    (show ((sampleBoot.after sampleHandshake).getSession sampleMac).isSome = true by decide)
  refine ⟨s, hs, trivial, ?_⟩
  refine (harmless_iff sampleBoot sampleHandshake sampleDetach sampleMac s .disconnect hs rfl
    trivial).mpr ⟨⟨9, by decide, ?_⟩, ?_⟩
  · obtain ⟨s', hs', hp⟩ := Option.map_eq_some_iff.mp
      (show ((sampleBoot.after sampleWaiting).getSession sampleMac).map UeSession.state =
        some .gtpCreatePending by decide)
    exact .now ⟨⟨7, 9, s', rfl, hs', hp⟩, by decide⟩
  · rintro ⟨-, -, m', s', hm, hs', -⟩
    have hk : (sampleBoot.after sampleHandshake).sessionManager.sessions.keys = [sampleMac] := by
      decide
    have hmem : m' ∈ (sampleBoot.after sampleHandshake).sessionManager.sessions.keys :=
      SessionManager.mem_keys_iff.mpr (stored_of_eq hs')
    rw [hk, List.mem_singleton] at hmem
    exact hm hmem

/-- While the sample UE is connected, another one attaches; the memory that its
session is built in holds the sample UE's address. -/
def sampleNeighbour : List Input :=
  ⟨{ sampleEnv 40000000 with memory := { (sampleEnv 0).memory with ueIp := 9 } },
    .accessRequest { sampleRequest 2 [] with macAddr := sampleOtherMac } none⟩ :: sampleHandshake

/-- The Accounting-Stop of a UE that was never assigned an address deletes the
route of the only connected session. -/
theorem stop_cuts_off :
    (sampleBoot.after sampleNeighbour).sessionManager.getActiveSessionsCount = 2 ∧
      ((sampleBoot.after sampleNeighbour).getSession sampleMac).map
        (fun s => (s.state, s.ueIp)) = some (.connected, 9) ∧
      ((sampleBoot.after sampleNeighbour).getSession sampleOtherMac).map UeSession.state =
        some .authPending ∧
      9 ∈ (kernelAfter sampleBoot sampleNeighbour).routes ∧
      9 ∉ (kernelAfter sampleBoot
        (sampleAt 50 (.accountingStop sampleOtherMac) :: sampleNeighbour)).routes ∧
      ¬ Harmless sampleBoot sampleOtherMac sampleNeighbour
        (sampleAt 50 (.accountingStop sampleOtherMac)) := by
  have hm : ((sampleBoot.after sampleNeighbour).getSession sampleMac).map
      (fun s => (s.state, s.ueIp)) = some (.connected, 9) := by decide
  have hb : 9 ∈ (kernelAfter sampleBoot sampleNeighbour).routes := by decide
  have ha : 9 ∉ (kernelAfter sampleBoot
      (sampleAt 50 (.accountingStop sampleOtherMac) :: sampleNeighbour)).routes := by decide
  refine ⟨by decide, hm, by decide, hb, ha, fun hh => ?_⟩
  obtain ⟨s, hs, hsip⟩ := Option.map_eq_some_iff.mp hm
  obtain ⟨hst, hip⟩ := Prod.mk.inj hsip
  have hkept := (hh.1 sampleMac s (by decide) hs hst).1
  rw [hip] at hkept
  exact ha (hkept hb)

end Twag.Proof.Core

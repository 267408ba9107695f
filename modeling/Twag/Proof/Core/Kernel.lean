import Twag.Proof.Core.Life

/-!
# The kernel's forwarding state over a run

* `kernel_view`: what a step does to the kernel: the set-up of the session that
  is connected, the teardown of the session that ends, or nothing;
* `tunnels_setup`, `routes_setup`, `routes_teardown`: what these two do;
* `dscpRules_after`: no DSCP rule is ever there.
-/

namespace Twag.Proof.Core

open Twag.Impl Twag.Spec

variable {boot : Boot} {h : List Input} {x : Input} {m : Bytes} {s : UeSession m}
  {config : TwagConfig} {env : Env} {k : Kernel} {l : List Effect}

/-! ## Calls one by one -/

@[simp] theorem applyAll_nil (k : Kernel) : k.applyAll [] = k := rfl

@[simp] theorem applyAll_cons (k : Kernel) (a : Effect) (l : List Effect) :
    k.applyAll (a :: l) = (k.apply a).applyAll l := rfl

@[simp] theorem routes_routeDel (k : Kernel) (ip : UInt32) (ok : Bool) :
    (k.apply (.system (.routeDel ip) ok)).routes =
      if ok = true then k.routes.erase ip else k.routes := by
  cases ok <;> rfl

@[simp] theorem routes_dscpDelete (k : Kernel) (ip : UInt32) (dscp : UInt8) (ok : Bool) :
    (k.apply (.system (.dscpDelete ip dscp) ok)).routes = k.routes := by
  cases ok <;> rfl

theorem apply_of_not_kernel {a : Effect} (ha : isKernelCall a = false) : k.apply a = k := by
  cases a with
  | gtpAddTunnel t ok => cases ha
  | system cmd ok => cases ha
  | _ => rfl

/-- Only the calls for the kernel change it. -/
theorem applyAll_kernelCalls (k : Kernel) (l : List Effect) :
    k.applyAll l = k.applyAll (kernelCalls l) := by
  induction l generalizing k with
  | nil => rfl
  | cons a l ih =>
    cases ha : isKernelCall a with
    | true => rw [kernelCalls, List.filter_cons_of_pos ha]; exact ih (k.apply a)
    | false =>
      rw [kernelCalls, List.filter_cons_of_neg (by rw [ha]; decide), applyAll_cons,
        apply_of_not_kernel ha]
      exact ih k

/-- Tunnels are added and never removed. -/
theorem mem_tunnels_applyAll {t : GtpTunnel} :
    t ∈ (k.applyAll l).tunnels ↔ t ∈ k.tunnels ∨ .gtpAddTunnel t true ∈ l := by
  induction l generalizing k with
  | nil => simp
  | cons a l ih =>
    rw [applyAll_cons, ih, List.mem_cons]
    have happly : t ∈ (k.apply a).tunnels ↔ t ∈ k.tunnels ∨ .gtpAddTunnel t true = a := by
      cases a with
      | gtpAddTunnel t' ok => cases ok <;> simp [Kernel.apply, or_comm]
      | system cmd ok => cases cmd <;> cases ok <;> simp [Kernel.apply]
      | _ => simp [Kernel.apply]
    rw [happly, or_assoc]

theorem dscpRules_applyAll (hk : k.dscpRules = ∅) : (k.applyAll l).dscpRules = ∅ := by
  induction l generalizing k with
  | nil => exact hk
  | cons a l ih =>
    refine ih (k := k.apply a) ?_
    cases a with
    | gtpAddTunnel t ok => cases ok <;> exact hk
    | system cmd ok => cases cmd <;> cases ok <;> simp [Kernel.apply, hk]
    | _ => exact hk

/-- No DSCP rule is ever there. -/
theorem dscpRules_after (boot : Boot) (h : List Input) : (kernelAfter boot h).dscpRules = ∅ := by
  induction h with
  | nil => rfl
  | cons x h ih =>
    rw [kernelAfter]
    exact dscpRules_applyAll ih

/-! ## Set-up and teardown -/

/-- The netlink socket, the family and the tunnel object are there. -/
def NetlinkUp (env : Env) : Prop :=
  env.genlSocketOpen = true ∧ env.genlLookupFamily = true ∧ env.gtpTunnelAlloc = true

theorem setup_iff : (setupKernelGtpuTunnel env config s).1 = true ↔ NetlinkUp env := by
  simp only [setupKernelGtpuTunnel, NetlinkUp]
  cases env.genlSocketOpen <;> cases env.genlLookupFamily <;> cases env.gtpTunnelAlloc <;>
    cases env.gtpAddTunnel <;> simp

theorem setup_down (hn : ¬ NetlinkUp env) : (setupKernelGtpuTunnel env config s).2 = [] := by
  cases hl : (setupKernelGtpuTunnel env config s).2 with
  | nil => rfl
  | cons a l =>
    have ha : a ∈ (setupKernelGtpuTunnel env config s).2 := by
      rw [hl]
      exact List.mem_cons_self
    exact absurd (setup_iff.mp (setup_up ha)) hn

/-- The tunnel that is set up for a session. -/
def tunnelOf (config : TwagConfig) (s : UeSession m) : GtpTunnel :=
  ⟨s.gtpTeidU, s.pgwTeidU, s.ueIp, inetPton config.pgwIp⟩

theorem setup_calls (hn : NetlinkUp env) :
    (setupKernelGtpuTunnel env config s).2 =
      if env.gtpAddTunnel = true then
        [.gtpAddTunnel (tunnelOf config s) true,
          .system (.routeAdd s.ueIp) (env.system (.routeAdd s.ueIp))]
      else [.gtpAddTunnel (tunnelOf config s) false] := by
  obtain ⟨h₁, h₂, h₃⟩ := hn
  simp only [setupKernelGtpuTunnel, h₁, h₂, h₃, tunnelOf]
  cases env.gtpAddTunnel <;> rfl

theorem tunnels_setup (hn : NetlinkUp env) :
    (k.applyAll (setupKernelGtpuTunnel env config s).2).tunnels =
      if env.gtpAddTunnel = true then insert (tunnelOf config s) k.tunnels else k.tunnels := by
  rw [setup_calls hn]
  cases env.gtpAddTunnel with
  | true => cases env.system (.routeAdd s.ueIp) <;> rfl
  | false => rfl

theorem routes_setup (hn : NetlinkUp env) :
    (k.applyAll (setupKernelGtpuTunnel env config s).2).routes =
      if env.gtpAddTunnel = true ∧ env.system (.routeAdd s.ueIp) = true then
        insert s.ueIp k.routes
      else k.routes := by
  rw [setup_calls hn]
  cases env.gtpAddTunnel with
  | true => cases hr : env.system (.routeAdd s.ueIp) <;> simp [Kernel.applyAll, Kernel.apply]
  | false => simp [Kernel.applyAll, Kernel.apply]

theorem routes_teardown :
    (k.applyAll (teardownKernelGtpuTunnel env s)).routes =
      if env.system (.routeDel s.ueIp) = true then k.routes.erase s.ueIp else k.routes := by
  simp only [teardownKernelGtpuTunnel]
  split
  · simp
  · simp

/-! ## A step -/

/-- What a step does to the kernel. -/
inductive KernelView (boot : Boot) (h : List Input) (x : Input) : Prop
  | sets (m : Bytes) (s : UeSession m) (pgwTeid ueIp : UInt32) (qci : UInt8)
    (hd : deliver (boot.after h) x = some (m, .createResponse true pgwTeid ueIp qci))
    (hs : (boot.after h).getSession m = some s) (hp : s.state = .gtpCreatePending)
    (hk : kernelAfter boot (x :: h) = (kernelAfter boot h).applyAll
      (setupKernelGtpuTunnel x.env boot.config (withTunnel s pgwTeid ueIp qci)).2)
  | ends (m : Bytes) (s : UeSession m) (e : UeEvent)
    (hd : deliver (boot.after h) x = some (m, e)) (hs : (boot.after h).getSession m = some s)
    (he : Ends s e)
    (hk : kernelAfter boot (x :: h) =
      (kernelAfter boot h).applyAll (teardownKernelGtpuTunnel x.env s))
  | keeps (hk : kernelAfter boot (x :: h) = kernelAfter boot h)
    (hd : ∀ m e s, deliver (boot.after h) x = some (m, e) → (boot.after h).getSession m = some s →
      ¬ Ends s e ∧ ∀ pgwTeid ueIp qci, e = .createResponse true pgwTeid ueIp qci →
        s.state ≠ .gtpCreatePending)

theorem kernelAfter_stored {e : UeEvent} (hd : deliver (boot.after h) x = some (m, e))
    (hs : (boot.after h).getSession m = some s) :
    kernelAfter boot (x :: h) =
      (kernelAfter boot h).applyAll (kernelReact boot.config x.env s e) := by
  have hf := step_stored hd hs
  rw [config_after] at hf
  rw [kernelAfter, applyAll_kernelCalls, Boot.effects, hf.1, kernelCalls_react]

theorem kernelReact_cases (config : TwagConfig) (env : Env) (s : UeSession m) (e : UeEvent) :
    (∃ pgwTeid ueIp qci, e = .createResponse true pgwTeid ueIp qci ∧ s.state = .gtpCreatePending ∧
        kernelReact config env s e =
          (setupKernelGtpuTunnel env config (withTunnel s pgwTeid ueIp qci)).2) ∨
      (Ends s e ∧ kernelReact config env s e = teardownKernelGtpuTunnel env s) ∨
      (¬ Ends s e ∧ kernelReact config env s e = [] ∧
        ∀ pgwTeid ueIp qci, e = .createResponse true pgwTeid ueIp qci →
          s.state ≠ .gtpCreatePending) := by
  cases e with
  | accessRequest req => exact .inr (.inr ⟨id, rfl, by rintro _ _ _ ⟨⟩⟩)
  | dea dea => exact .inr (.inr ⟨id, rfl, by rintro _ _ _ ⟨⟩⟩)
  | createResponse success pgwTeid ueIp qci =>
    by_cases hp : success = true ∧ s.state = .gtpCreatePending
    · exact .inl ⟨pgwTeid, ueIp, qci, by rw [hp.1], hp.2, if_pos hp⟩
    · refine .inr (.inr ⟨id, if_neg hp, ?_⟩)
      rintro _ _ _ ⟨⟩ hp'
      exact hp ⟨rfl, hp'⟩
  | deleteBearer => exact .inr (.inl ⟨trivial, rfl⟩)
  | abort => exact .inr (.inl ⟨trivial, rfl⟩)
  | disconnect => exact .inr (.inl ⟨trivial, rfl⟩)
  | timeout =>
    by_cases hp : s.state = .gtpCreatePending
    · exact .inr (.inl ⟨hp, if_pos hp⟩)
    · exact .inr (.inr ⟨hp, if_neg hp, by rintro _ _ _ ⟨⟩⟩)
  | dhcp xid msgType => exact .inr (.inr ⟨id, rfl, by rintro _ _ _ ⟨⟩⟩)

theorem kernel_view (boot : Boot) (h : List Input) (x : Input) : KernelView boot h x := by
  cases hd : deliver (boot.after h) x with
  | none =>
    refine .keeps ?_ (by rw [hd]; rintro _ _ _ ⟨⟩)
    have hi := (step_ignored (boot.after h) x (by rw [hd]; rintro _ _ ⟨⟩)).2
    rw [kernelAfter, Boot.effects, hi, applyAll_nil]
  | some target =>
    obtain ⟨m, e⟩ := target
    cases hs : (boot.after h).getSession m with
    | some s =>
      have hk := kernelAfter_stored hd hs
      rcases kernelReact_cases boot.config x.env s e with ⟨pgwTeid, ueIp, qci, rfl, hp, hr⟩ |
        ⟨he, hr⟩ | ⟨he, hr, hp⟩
      · rw [hr] at hk
        exact .sets m s pgwTeid ueIp qci hd hs hp hk
      · rw [hr] at hk
        exact .ends m s e hd hs he hk
      · refine .keeps (by rw [hk, hr, applyAll_nil]) fun m' e' s' hd' hs' => ?_
        cases hd.symm.trans hd'
        cases hs.symm.trans hs'
        exact ⟨he, hp⟩
    | none =>
      refine .keeps ?_ fun m' e' s' hd' hs' => ?_
      · rw [kernelAfter, applyAll_kernelCalls]
        -- an Access-Request for a new MAC address, and any other event, calls nothing of it
        have none_of_kernel : ∀ a, isKernelCall a = true → a ∉ boot.effects h x := by
          intro a ha hmem
          obtain ⟨e', s', hd', hs', -⟩ := callsFor_kernel (m := m) ha ⟨⟨e, hd⟩, hmem⟩
          rw [hs] at hs'
          cases hs'
        have hnil : kernelCalls (boot.effects h x) = [] :=
          List.filter_eq_nil_iff.mpr fun a hmem ha => none_of_kernel a ha hmem
        rw [hnil, applyAll_nil]
      · cases hd.symm.trans hd'
        rw [hs] at hs'
        cases hs'

/-- A tunnel that was added for a session in its life is there. -/
theorem tunnel_of_inLife {t : GtpTunnel}
    (hl : InLife boot m (CallsFor boot m (.gtpAddTunnel t true)) h) :
    t ∈ (kernelAfter boot h).tunnels := by
  induction h with
  | nil => exact hl.elim
  | cons x h ih =>
    rw [kernelAfter, mem_tunnels_applyAll]
    rcases hl with ⟨⟨-, hmem⟩, -⟩ | ⟨-, hl⟩
    · exact .inr hmem
    · exact .inl (ih hl)

end Twag.Proof.Core

import Mathlib.Data.Finset.Insert
import Mathlib.Data.Finset.Erase
import Twag.Spec.Ue

/-!
# The kernel's forwarding state

The tunnels, routes and DSCP rules that the gateway's calls leave in the
kernel. A call that fails changes nothing. `kernelReact` is what a session asks
of the kernel in one step.
-/

namespace Twag.Spec

open Twag.Impl

structure Kernel where
  tunnels : Finset GtpTunnel
  /-- The destinations that are routed to `gtp0`. -/
  routes : Finset UInt32
  /-- The destinations that are marked, with their DSCP. -/
  dscpRules : Finset (UInt32 × UInt8)

namespace Kernel

def empty : Kernel := ⟨∅, ∅, ∅⟩

/-- The kernel after a call. No command installs a DSCP rule. -/
def apply (k : Kernel) : Effect → Kernel
  | .gtpAddTunnel tunnel true => { k with tunnels := insert tunnel k.tunnels }
  | .system (.routeAdd ip) true => { k with routes := insert ip k.routes }
  | .system (.routeDel ip) true => { k with routes := k.routes.erase ip }
  | .system (.dscpDelete ip dscp) true => { k with dscpRules := k.dscpRules.erase (ip, dscp) }
  | _ => k

def applyAll (k : Kernel) (effects : List Effect) : Kernel := effects.foldl apply k

/-- What a call that succeeds installs is there. -/
def Has (k : Kernel) : Effect → Prop
  | .gtpAddTunnel tunnel true => tunnel ∈ k.tunnels
  | .system (.routeAdd ip) true => ip ∈ k.routes
  | _ => False

end Kernel

/-- The kernel after a history. -/
def kernelAfter (boot : Boot) : List Input → Kernel
  | [] => .empty
  | x :: h => (kernelAfter boot h).applyAll (boot.effects h x)

/-- A netlink request or a command. -/
def isKernelCall : Effect → Bool
  | .gtpAddTunnel _ _ => true
  | .system _ _ => true
  | _ => false

/-- The calls that are for the kernel. -/
def kernelCalls (effects : List Effect) : List Effect := effects.filter isKernelCall

/-- An event that ends a session. -/
def Ends {mac : Bytes} (session : UeSession mac) : UeEvent → Prop
  | .deleteBearer => True
  | .abort => True
  | .disconnect => True
  | .timeout => session.state = .gtpCreatePending
  | _ => False

/-- What a session asks of the kernel on an event. -/
def kernelReact (config : TwagConfig) (env : Env) {mac : Bytes} (session : UeSession mac) :
    UeEvent → List Effect
  | .createResponse success pgwTeid ueIp qci =>
    if success = true ∧ session.state = .gtpCreatePending then
      (setupKernelGtpuTunnel env config (withTunnel session pgwTeid ueIp qci)).2
    else []
  | .deleteBearer => teardownKernelGtpuTunnel env session
  | .abort => teardownKernelGtpuTunnel env session
  | .disconnect => teardownKernelGtpuTunnel env session
  | .timeout =>
    if session.state = .gtpCreatePending then teardownKernelGtpuTunnel env session else []
  | _ => []

end Twag.Spec

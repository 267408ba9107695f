import Twag.Spec.Ue

/-!
# A UE's own history

`UeInput` is what happens to one UE: its Access-Request is refused or admitted,
with the session that the store makes for it, or an event is for its session.
`ueAfter` and `ueCalls` run `react` over a list of them, with nothing else of
the gateway. `inputsOf` takes a UE's inputs out of a history of the whole
gateway, and `callsOf` the calls that were made in its steps.
-/

namespace Twag.Spec

open Twag.Impl

variable {mac : Bytes}

inductive UeInput (mac : Bytes) where
  | refused (env : Env) (req : AccessRequest)
  | admitted (env : Env) (session : UeSession mac) (req : AccessRequest)
  | asked (env : Env) (event : UeEvent)

/-- What an input does to a UE that has this session, or none. -/
def UeInput.outcome (config : TwagConfig) (session : Option (UeSession mac)) :
    UeInput mac → Outcome mac
  | .refused env req =>
    ⟨none, [sendResponse env req.clientAddr accessReject req.reqId req.reqAuth []], false⟩
  | .admitted env new req => react config env new (.accessRequest req)
  | .asked env event =>
    match session with
    | some session => react config env session event
    | none => ⟨none, [], false⟩

/-- The session after the inputs, the newest first. -/
def ueAfter (config : TwagConfig) : List (UeInput mac) → Option (UeSession mac)
  | [] => none
  | y :: ys => (y.outcome config (ueAfter config ys)).session

/-- The calls made, the oldest first. -/
def ueCalls (config : TwagConfig) : List (UeInput mac) → List Effect
  | [] => []
  | y :: ys => ueCalls config ys ++ (y.outcome config (ueAfter config ys)).effects

/-! ## The UE in a history of the gateway -/

/-- What an event is to the UE with this MAC address, if it is for it. -/
def inputOf (core : TwagCore) (x : Input) (mac : Bytes) : Option (UeInput mac) :=
  match deliver core x with
  | none => none
  | some (target, event) =>
    if target = mac then
      match core.getSession mac, event with
      | some _, event => some (.asked x.env event)
      | none, .accessRequest req =>
        if core.config.maxActiveSessions.toNat ≤ core.sessionManager.getActiveSessionsCount then
          some (.refused x.env req)
        else some (.admitted x.env (core.sessionManager.createSession x.env.memory mac).2 req)
      | none, _ => none
    else none

/-- The UE's inputs, the newest first. -/
def inputsOf (boot : Boot) (mac : Bytes) : List Input → List (UeInput mac)
  | [] => []
  | x :: h => (inputOf (boot.after h) x mac).toList ++ inputsOf boot mac h

/-- The calls made in the steps that are for the UE, the oldest first. -/
def callsOf (boot : Boot) (mac : Bytes) : List Input → List Effect
  | [] => []
  | x :: h =>
    callsOf boot mac h ++
      if (inputOf (boot.after h) x mac).isSome then boot.effects h x else []

end Twag.Spec

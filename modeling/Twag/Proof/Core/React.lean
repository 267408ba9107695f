import Twag.Spec.Kernel

/-!
# What a session can do in one step

For each function that sends, a lemma such as `mem_sendStr` says which calls it
makes; `ToPeers` and `ToKernel` are what follows for whole lists of them.

* `responses_react`: the responses are those of `respond`;
* `kernelCalls_react`: the calls for the kernel are those of `kernelReact`;
* `sends`: every call, with what it takes for a session to make it; for one kind
  of call each, `createRequest_react`, `deleteRequest_react`, `dhcpResponse_react`
  and `addTunnel_react`;
* `moves`: how `react` changes the state, and which calls go with it: a DER
  that is sent, a Create Session Request that is sent, or a tunnel that is set
  up; otherwise the state stays;
* `session_cases`: which fields a step writes; from it, `react_teids`,
  `react_request`, `react_tunnel` and `react_pgw`;
* `removed_iff`: what removes a session.
-/

namespace Twag.Proof.Core

open Twag.Impl Twag.Spec

variable {config : TwagConfig} {env : Env} {m : Bytes} {s s' : UeSession m} {e : UeEvent}

/-! ## What is sent -/

section

variable {a : Effect}

theorem mem_sendDer {eap : Bytes} (ha : a ∈ (sendDer env config s eap).2.2) :
    ∃ ok, a = .der (derOf env config m eap) ok := by
  rw [sendDer] at ha
  split at ha <;> [cases ha; skip]
  split at ha <;> exact ⟨_, List.mem_singleton.mp ha⟩

theorem mem_sendStr {mac : Bytes} (ha : a ∈ sendStr env config mac) :
    ∃ msg ok, a = .str msg ok := by
  rw [sendStr] at ha
  split at ha <;> [cases ha; skip]
  exact ⟨_, _, List.mem_singleton.mp ha⟩

theorem mem_sendCreate (ha : a ∈ (sendCreateSessionRequest env config s).2.2) :
    ∃ dest ok, inetPton (destIp config s) = some dest ∧
      a = .createSessionRequest (createSessReqOf env config s) dest ok := by
  rw [sendCreateSessionRequest] at ha
  split at ha <;> [cases ha; skip]
  rename_i dest hd
  split at ha <;> exact ⟨dest, _, hd, List.mem_singleton.mp ha⟩

theorem mem_sendDelete (ha : a ∈ sendDeleteSessionRequest env config s) :
    ∃ dest, inetPton (destIp config s) = some dest ∧
      a = .deleteSessionRequest s.pgwTeidC dest env.s2aSendto := by
  rw [sendDeleteSessionRequest] at ha
  split at ha <;> [cases ha; skip]
  rename_i dest hd
  exact ⟨dest, hd, List.mem_singleton.mp ha⟩

theorem mem_setup (ha : a ∈ (setupKernelGtpuTunnel env config s).2) :
    (∃ ok, a = .gtpAddTunnel ⟨s.gtpTeidU, s.pgwTeidU, s.ueIp, inetPton config.pgwIp⟩ ok) ∨
      ∃ ok, a = .system (.routeAdd s.ueIp) ok := by
  rw [setupKernelGtpuTunnel] at ha
  split at ha <;> [cases ha; skip]
  split at ha <;> [cases ha; skip]
  split at ha <;> [cases ha; skip]
  split at ha
  · exact .inl ⟨_, List.mem_singleton.mp ha⟩
  · rcases List.mem_pair.mp ha with ha | ha
    · exact .inl ⟨_, ha⟩
    · exact .inr ⟨_, ha⟩

theorem mem_teardown (ha : a ∈ teardownKernelGtpuTunnel env s) :
    (∃ ok, a = .system (.routeDel s.ueIp) ok) ∨
      ∃ dscp ok, a = .system (.dscpDelete s.ueIp dscp) ok := by
  rcases List.mem_cons.mp ha with ha | ha
  · exact .inl ⟨_, ha⟩
  split at ha <;> [skip; cases ha]
  exact .inr ⟨_, _, List.mem_singleton.mp ha⟩

end

/-- The calls are neither for the kernel nor for the RADIUS client that waits for an answer. -/
def ToPeers (l : List Effect) : Prop :=
  ∀ a ∈ l, isKernelCall a = false ∧ ∀ resp ok, a ≠ .radiusResponse resp ok

/-- The calls are for the kernel. -/
def ToKernel (l : List Effect) : Prop := ∀ a ∈ l, isKernelCall a = true

section

variable {l : List Effect}

theorem ToPeers.responses_eq (h : ToPeers l) : responses l = [] := by
  refine List.filterMap_eq_nil_iff.mpr fun a ha => ?_
  split
  · exact absurd rfl ((h _ ha).2 _ _)
  · rfl

theorem ToPeers.kernelCalls_eq (h : ToPeers l) : kernelCalls l = [] :=
  List.filter_eq_nil_iff.mpr fun a ha => by simp [(h a ha).1]

theorem ToKernel.responses_eq (h : ToKernel l) : responses l = [] := by
  refine List.filterMap_eq_nil_iff.mpr fun a ha => ?_
  split
  · cases h _ ha
  · rfl

theorem ToKernel.kernelCalls_eq (h : ToKernel l) : kernelCalls l = l := List.filter_eq_self.mpr h

theorem toPeers_sendDer {eap : Bytes} : ToPeers (sendDer env config s eap).2.2 := by
  intro a ha
  obtain ⟨ok, rfl⟩ := mem_sendDer ha
  exact ⟨rfl, by simp⟩

theorem toPeers_sendStr {mac : Bytes} : ToPeers (sendStr env config mac) := by
  intro a ha
  obtain ⟨msg, ok, rfl⟩ := mem_sendStr ha
  exact ⟨rfl, by simp⟩

theorem toPeers_unsent {req : CreateSessReq}
    (h : ∀ a ∈ l, ∃ dest, a = .createSessionRequest req dest false) : ToPeers l := by
  intro a ha
  obtain ⟨dest, rfl⟩ := h a ha
  exact ⟨rfl, by simp⟩

theorem toPeers_sendDelete : ToPeers (sendDeleteSessionRequest env config s) := by
  intro a ha
  obtain ⟨dest, -, rfl⟩ := mem_sendDelete ha
  exact ⟨rfl, by simp⟩

theorem toPeers_disconnectRequest {addr : SockaddrIn} {mac : Bytes} :
    ToPeers [sendDisconnectRequest env addr mac] := by
  intro a ha
  cases List.mem_singleton.mp ha
  exact ⟨rfl, by simp [sendDisconnectRequest]⟩

theorem toKernel_setup : ToKernel (setupKernelGtpuTunnel env config s).2 := by
  intro a ha
  rcases mem_setup ha with ⟨ok, rfl⟩ | ⟨ok, rfl⟩
  · rfl
  · rfl

theorem toKernel_teardown : ToKernel (teardownKernelGtpuTunnel env s) := by
  intro a ha
  rcases mem_teardown ha with ⟨ok, rfl⟩ | ⟨dscp, ok, rfl⟩
  · rfl
  · rfl

end

/-! ## The two sends that change the state -/

theorem sendDer_cases (config : TwagConfig) (env : Env) (s : UeSession m) (eap : Bytes) :
    (sendDer env config s eap = (true, { s with state := .authPending },
        [.der (derOf env config m eap) true])) ∨
      ∃ effects, sendDer env config s eap = (false, s, effects) ∧
        ∀ msg, .der msg true ∉ effects := by
  rw [sendDer]
  split
  · exact .inr ⟨_, rfl, by simp⟩
  split
  · exact .inr ⟨_, rfl, by simp⟩
  · exact .inl rfl

theorem sendCreateSessionRequest_cases (config : TwagConfig) (env : Env) (s : UeSession m) :
    (∃ dest, sendCreateSessionRequest env config s = (true, { s with state := .gtpCreatePending },
        [.createSessionRequest (createSessReqOf env config s) dest true])) ∨
      ∃ effects, sendCreateSessionRequest env config s = (false, s, effects) ∧
        ∀ a ∈ effects, ∃ dest,
          a = .createSessionRequest (createSessReqOf env config s) dest false := by
  rw [sendCreateSessionRequest]
  split
  · exact .inr ⟨_, rfl, by simp⟩
  · split
    · exact .inr ⟨_, rfl, by simp⟩
    · exact .inl ⟨_, rfl⟩

/-- An Access-Request writes its fields, and at most the state besides. -/
theorem session_onRequest (config : TwagConfig) (env : Env) (s : UeSession m)
    (req : AccessRequest) :
    ∃ st, (onRequest config env s req).session = some { withRequest s req with state := st } := by
  rcases sendDer_cases config env (withRequest s req) req.eapPayload with hc | ⟨_, hc, -⟩
  · exact ⟨.authPending, by rw [onRequest, hc]⟩
  · exact ⟨(withRequest s req).state, by rw [onRequest, hc]⟩

/-! ## An answer that is waited for -/

/-- What a DEA does to the session `p` that its profile makes. -/
inductive Answered (config : TwagConfig) (env : Env) (p : UeSession m) (dea : Dea)
    (o : Outcome m) : Prop
  | challenged (hc : dea.resultCode = 1001)
    (ho : o = ⟨some p, [TwagCore.answer env p accessChallenge dea.eapPayload], false⟩)
  | accepted (dest : UInt32) (hc : dea.resultCode = 2001)
    (ho : o = ⟨some { p with state := .gtpCreatePending },
      [TwagCore.answer env p accessAccept dea.eapPayload,
        .createSessionRequest (createSessReqOf env config p) dest true], true⟩)
  | unsent (effects : List Effect) (hc : dea.resultCode = 2001)
    (hn : ∀ a ∈ effects, ∃ dest,
      a = .createSessionRequest (createSessReqOf env config p) dest false)
    (ho : o = ⟨some p, TwagCore.answer env p accessAccept dea.eapPayload :: effects, false⟩)
  | rejected (hc : dea.resultCode ≠ 1001 ∧ dea.resultCode ≠ 2001)
    (ho : o = ⟨some p, [TwagCore.answer env p accessReject []], false⟩)

theorem onAnswer_cases (config : TwagConfig) (env : Env) (s : UeSession m) (dea : Dea) :
    Answered config env (TwagCore.applyProfile config env s dea) dea
      (onAnswer config env s dea) := by
  by_cases h₁ : dea.resultCode = 1001
  · exact .challenged h₁ (by simp only [onAnswer, if_pos h₁])
  by_cases h₂ : dea.resultCode = 2001
  · rcases sendCreateSessionRequest_cases config env (TwagCore.applyProfile config env s dea)
      with ⟨dest, hc⟩ | ⟨effects, hc, hn⟩
    · exact .accepted dest h₂ (by simp only [onAnswer, if_neg h₁, if_pos h₂, hc])
    · exact .unsent effects h₂ hn (by simp only [onAnswer, if_neg h₁, if_pos h₂, hc])
  · exact .rejected ⟨h₁, h₂⟩ (by simp only [onAnswer, if_neg h₁, if_neg h₂])

/-- A DEA writes its profile, and at most the state besides. -/
theorem session_onAnswer (config : TwagConfig) (env : Env) (s : UeSession m) (dea : Dea) :
    ∃ st, (onAnswer config env s dea).session =
      some { TwagCore.applyProfile config env s dea with state := st } := by
  cases onAnswer_cases config env s dea with
  | challenged hc ho => exact ⟨s.state, by rw [ho]; rfl⟩
  | accepted dest hc ho => exact ⟨.gtpCreatePending, by rw [ho]⟩
  | unsent effects hc hn ho => exact ⟨s.state, by rw [ho]; rfl⟩
  | rejected hc ho => exact ⟨s.state, by rw [ho]; rfl⟩

/-! ## What the RADIUS client is sent -/

theorem responses_append (l l' : List Effect) : responses (l ++ l') = responses l ++ responses l' :=
  List.filterMap_append

@[simp] theorem responses_answer (env : Env) (s : UeSession m) (code : UInt8) (eap : Bytes)
    (l : List Effect) :
    responses (TwagCore.answer env s code eap :: l) =
      (Origin.ofSession s).response code eap :: responses l := rfl

theorem responses_releaseEffects (env : Env) (config : TwagConfig) (s : UeSession m) :
    responses (releaseEffects config env s) = [] := by
  simp only [releaseEffects, responses_append, toPeers_sendStr.responses_eq,
    toPeers_sendDelete.responses_eq, toKernel_teardown.responses_eq, List.append_nil]

/-- The responses of a step are those of `respond`. -/
theorem responses_react (config : TwagConfig) (env : Env) (s : UeSession m) (e : UeEvent) :
    responses (react config env s e).effects = respond s e := by
  cases e with
  | accessRequest req => exact toPeers_sendDer.responses_eq
  | dea dea =>
    simp only [react, respond]
    split <;> [skip; rfl]
    cases onAnswer_cases config env s dea with
    | challenged hc ho => rw [ho, passedOn, if_pos hc]; rfl
    | accepted dest hc ho => rw [ho, passedOn, if_neg (by rw [hc]; decide), if_pos hc]; rfl
    | unsent effects hc hn ho =>
      rw [ho, responses_answer, (toPeers_unsent hn).responses_eq, passedOn,
        if_neg (by rw [hc]; decide), if_pos hc]
      rfl
    | rejected hc ho => rw [ho, passedOn, if_neg hc.1, if_neg hc.2]; rfl
  | createResponse success pgwTeid ueIp qci =>
    simp only [react, respond]
    split
    · exact toKernel_setup.responses_eq
    · rfl
  | deleteBearer =>
    simp only [react, respond, responses_append, toKernel_teardown.responses_eq,
      toPeers_sendStr.responses_eq, toPeers_disconnectRequest.responses_eq, List.append_nil]
  | abort =>
    simp only [react, respond, responses_append, toKernel_teardown.responses_eq,
      toPeers_sendDelete.responses_eq, toPeers_disconnectRequest.responses_eq, List.append_nil]
  | disconnect => exact responses_releaseEffects env config s
  | timeout =>
    simp only [react, respond]
    split
    · rw [responses_answer, responses_releaseEffects]
    · rfl
  | dhcp xid msgType =>
    simp only [react, respond]
    split <;> rfl

/-- What is answered, and how. -/
theorem mem_respond {r : RadiusResponse} (hr : r ∈ respond s e) :
    respond s e = [r] ∧ Origin.ofResponse r = Origin.ofSession s ∧
      ((∃ dea, e = .dea dea ∧ s.state = .authPending ∧ r.code = (passedOn dea).1) ∨
        (e = .timeout ∧ s.state = .gtpCreatePending ∧ r.code = accessReject)) := by
  cases e with
  | dea dea =>
    simp only [respond] at hr
    split at hr <;> [skip; cases hr]
    rename_i hp
    obtain rfl := List.mem_singleton.mp hr
    exact ⟨if_pos hp, rfl, .inl ⟨dea, rfl, hp, rfl⟩⟩
  | timeout =>
    simp only [respond] at hr
    split at hr <;> [skip; cases hr]
    rename_i hp
    obtain rfl := List.mem_singleton.mp hr
    exact ⟨if_pos hp, rfl, .inr ⟨rfl, hp, rfl⟩⟩
  | _ => cases hr

/-! ## What a session asks of the kernel -/

theorem kernelCalls_append (l l' : List Effect) :
    kernelCalls (l ++ l') = kernelCalls l ++ kernelCalls l' :=
  List.filter_append ..

theorem kernelCalls_answer (env : Env) (s : UeSession m) (code : UInt8) (eap : Bytes)
    (l : List Effect) : kernelCalls (TwagCore.answer env s code eap :: l) = kernelCalls l := rfl

theorem kernelCalls_releaseEffects (env : Env) (config : TwagConfig) (s : UeSession m) :
    kernelCalls (releaseEffects config env s) = teardownKernelGtpuTunnel env s := by
  simp only [releaseEffects, kernelCalls_append, toPeers_sendStr.kernelCalls_eq,
    toPeers_sendDelete.kernelCalls_eq, toKernel_teardown.kernelCalls_eq, List.nil_append]

/-- The calls for the kernel are those of `kernelReact`. -/
theorem kernelCalls_react (config : TwagConfig) (env : Env) (s : UeSession m) (e : UeEvent) :
    kernelCalls (react config env s e).effects = kernelReact config env s e := by
  cases e with
  | accessRequest req => exact toPeers_sendDer.kernelCalls_eq
  | dea dea =>
    simp only [react, kernelReact]
    split <;> [skip; rfl]
    cases onAnswer_cases config env s dea with
    | challenged hc ho => rw [ho]; rfl
    | accepted dest hc ho => rw [ho]; rfl
    | unsent effects hc hn ho =>
      rw [ho, kernelCalls_answer]
      exact (toPeers_unsent hn).kernelCalls_eq
    | rejected hc ho => rw [ho]; rfl
  | createResponse success pgwTeid ueIp qci =>
    simp only [react, kernelReact]
    split
    · exact toKernel_setup.kernelCalls_eq
    · rfl
  | deleteBearer =>
    simp only [react, kernelReact, kernelCalls_append, toKernel_teardown.kernelCalls_eq,
      toPeers_sendStr.kernelCalls_eq, toPeers_disconnectRequest.kernelCalls_eq, List.append_nil]
  | abort =>
    simp only [react, kernelReact, kernelCalls_append, toKernel_teardown.kernelCalls_eq,
      toPeers_sendDelete.kernelCalls_eq, toPeers_disconnectRequest.kernelCalls_eq, List.append_nil]
  | disconnect => exact kernelCalls_releaseEffects env config s
  | timeout =>
    simp only [react, kernelReact]
    split
    · rw [kernelCalls_answer, kernelCalls_releaseEffects]
    · rfl
  | dhcp xid msgType =>
    simp only [react, kernelReact]
    split <;> rfl

/-! ## What a session sends -/

/-- The calls that a session makes on an event. -/
inductive Sends (config : TwagConfig) (env : Env) (s : UeSession m) (e : UeEvent) : Effect → Prop
  | der (req : AccessRequest) (ok : Bool) (he : e = .accessRequest req) :
    Sends config env s e (.der (derOf env config m req.eapPayload) ok)
  | radiusResponse (resp : RadiusResponse) (ok : Bool) (hr : resp ∈ respond s e) :
    Sends config env s e (.radiusResponse resp ok)
  | createSessionRequest (dea : Dea) (dest : UInt32) (ok : Bool) (he : e = .dea dea)
    (hp : s.state = .authPending) (hc : dea.resultCode = 2001)
    (hd : inetPton (destIp config (TwagCore.applyProfile config env s dea)) = some dest) :
    Sends config env s e (.createSessionRequest
      (createSessReqOf env config (TwagCore.applyProfile config env s dea)) dest ok)
  | deleteSessionRequest (dest : UInt32) (he : Ends s e) (hb : e ≠ .deleteBearer)
    (hd : inetPton (destIp config s) = some dest) :
    Sends config env s e (.deleteSessionRequest s.pgwTeidC dest env.s2aSendto)
  | gtpAddTunnel (tunnel : GtpTunnel) (ok : Bool)
    (hk : .gtpAddTunnel tunnel ok ∈ kernelReact config env s e) :
    Sends config env s e (.gtpAddTunnel tunnel ok)
  | system (cmd : Command) (ok : Bool) (hk : .system cmd ok ∈ kernelReact config env s e) :
    Sends config env s e (.system cmd ok)
  | str (msg : Str) (ok : Bool) (he : Ends s e) : Sends config env s e (.str msg ok)
  | disconnectRequest (target : SockaddrIn) (ok : Bool) (he : Ends s e) :
    Sends config env s e (.disconnectRequest target m ok)
  | dhcpResponse (xid : UInt32) (msgType : UInt8) (ok : Bool) (he : e = .dhcp xid msgType)
    (hc : s.state = .connected) (hip : s.ueIp ≠ 0) :
    Sends config env s e (.dhcpResponse m s.ueIp xid msgType ok)

section

variable {a : Effect} (h : a ∈ (react config env s e).effects)

theorem sends_response {resp : RadiusResponse} {ok : Bool}
    (h : .radiusResponse resp ok ∈ (react config env s e).effects) :
    Sends config env s e (.radiusResponse resp ok) := by
  refine .radiusResponse resp ok ?_
  rw [← responses_react config env]
  exact List.mem_filterMap.mpr ⟨_, h, rfl⟩

include h

theorem sends_kernel (hk : isKernelCall a = true) : Sends config env s e a := by
  have hmem : a ∈ kernelReact config env s e := by
    rw [← kernelCalls_react]
    exact List.mem_filter.mpr ⟨h, hk⟩
  cases a with
  | gtpAddTunnel tunnel ok => exact .gtpAddTunnel tunnel ok hmem
  | system cmd ok => exact .system cmd ok hmem
  | _ => cases hk

theorem sends_teardown (ha : a ∈ teardownKernelGtpuTunnel env s) : Sends config env s e a :=
  sends_kernel h (toKernel_teardown a ha)

omit h

theorem sends_str (he : Ends s e) (ha : a ∈ sendStr env config m) : Sends config env s e a := by
  obtain ⟨msg, ok, rfl⟩ := mem_sendStr ha
  exact .str msg ok he

theorem sends_delete (he : Ends s e) (hb : e ≠ .deleteBearer)
    (ha : a ∈ sendDeleteSessionRequest env config s) : Sends config env s e a := by
  obtain ⟨dest, hd, rfl⟩ := mem_sendDelete ha
  exact .deleteSessionRequest dest he hb hd

theorem sends_disconnect (he : Ends s e)
    (ha : a ∈ [sendDisconnectRequest env s.radiusClientAddr m]) : Sends config env s e a := by
  cases List.mem_singleton.mp ha
  exact .disconnectRequest _ _ he

include h

theorem sends_release (he : Ends s e) (hb : e ≠ .deleteBearer)
    (ha : a ∈ releaseEffects config env s) : Sends config env s e a := by
  rw [releaseEffects, List.mem_append, List.mem_append] at ha
  rcases ha with (ha | ha) | ha
  · exact sends_str he ha
  · exact sends_delete he hb ha
  · exact sends_teardown h ha

end

theorem sends_dea {dea : Dea} {a : Effect} (h : a ∈ (react config env s (.dea dea)).effects) :
    Sends config env s (.dea dea) a := by
  have h' := h
  simp only [react] at h'
  split at h' <;> [skip; cases h']
  rename_i hp
  simp only [onAnswer] at h'
  split at h'
  · cases List.mem_singleton.mp h'
    exact sends_response h
  split at h'
  · rename_i hc
    rcases List.mem_cons.mp h' with rfl | h'
    · exact sends_response h
    · obtain ⟨dest, ok, hd, rfl⟩ := mem_sendCreate h'
      exact .createSessionRequest dea dest ok rfl hp hc hd
  · cases List.mem_singleton.mp h'
    exact sends_response h

/-- Every call of a session is one that `Sends` lists. -/
theorem sends {a : Effect} (h : a ∈ (react config env s e).effects) : Sends config env s e a := by
  have h' := h
  cases e with
  | accessRequest req =>
    obtain ⟨ok, rfl⟩ := mem_sendDer h'
    exact .der req ok rfl
  | dea dea => exact sends_dea h
  | createResponse success pgwTeid ueIp qci =>
    simp only [react] at h'
    split at h' <;> [skip; cases h']
    exact sends_kernel h (toKernel_setup a h')
  | deleteBearer =>
    simp only [react, List.mem_append] at h'
    rcases h' with (h' | h') | h'
    · exact sends_teardown h h'
    · exact sends_str trivial h'
    · exact sends_disconnect trivial h'
  | abort =>
    simp only [react, List.mem_append] at h'
    rcases h' with (h' | h') | h'
    · exact sends_teardown h h'
    · exact sends_delete trivial nofun h'
    · exact sends_disconnect trivial h'
  | disconnect => exact sends_release h trivial nofun h'
  | timeout =>
    simp only [react] at h'
    split at h' <;> [skip; cases h']
    rename_i hp
    rcases List.mem_cons.mp h' with rfl | h'
    · exact sends_response h
    · exact sends_release h hp nofun h'
  | dhcp xid msgType =>
    simp only [react] at h'
    split at h' <;> [skip; cases h']
    rename_i hp
    cases List.mem_singleton.mp h'
    exact .dhcpResponse xid msgType _ rfl hp.1 hp.2

/-- The DER of an Access-Request carries its EAP payload, and names the session. -/
theorem der_react {msg : Der} {ok : Bool} (h : .der msg ok ∈ (react config env s e).effects) :
    ∃ req, e = .accessRequest req ∧ msg = derOf env config m req.eapPayload := by
  cases sends h with
  | der req _ he => exact ⟨req, he, rfl⟩

theorem no_der (he : ∀ req, e ≠ .accessRequest req) (msg : Der) :
    .der msg true ∉ (react config env s e).effects := by
  intro h
  obtain ⟨req, hq, -⟩ := der_react h
  exact he req hq

theorem der_sent {req : AccessRequest} {msg : Der}
    (h : .der msg true ∈ (react config env s (.accessRequest req)).effects) :
    env.fdMsgNew = true ∧ env.fdMsgSend = true := by
  simp only [react, onRequest, sendDer] at h
  repeat' split at h
  all_goals simp_all

theorem mem_createRequests {req : CreateSessReq} {l : List Effect} :
    req ∈ createRequests l ↔ ∃ dest ok, .createSessionRequest req dest ok ∈ l := by
  simp only [createRequests, List.mem_filterMap]
  constructor
  · rintro ⟨a, ha, hr⟩
    split at hr <;> cases hr
    exact ⟨_, _, ha⟩
  · rintro ⟨dest, ok, ha⟩
    exact ⟨_, ha, rfl⟩

/-- A Create Session Request goes out on a DIAMETER_SUCCESS that is waited for, to
the P-GW of the session's profile. -/
theorem createRequest_react {req : CreateSessReq} {dest : UInt32} {ok : Bool}
    (h : .createSessionRequest req dest ok ∈ (react config env s e).effects) :
    ∃ dea, e = .dea dea ∧ s.state = .authPending ∧ dea.resultCode = 2001 ∧
      req = createSessReqOf env config (TwagCore.applyProfile config env s dea) ∧
      inetPton (destIp config (TwagCore.applyProfile config env s dea)) = some dest := by
  cases sends h with
  | createSessionRequest dea _ _ he hp hc hd => exact ⟨dea, he, hp, hc, rfl, hd⟩

/-- A Delete Session Request goes out when the session ends, unless the P-GW ended it. -/
theorem deleteRequest_react {teid dest : UInt32} {ok : Bool}
    (h : .deleteSessionRequest teid dest ok ∈ (react config env s e).effects) :
    Ends s e ∧ e ≠ .deleteBearer ∧ teid = s.pgwTeidC ∧ inetPton (destIp config s) = some dest := by
  cases sends h with
  | deleteSessionRequest _ he hb hd => exact ⟨he, hb, rfl, hd⟩

/-- A DHCP reply goes out to a connected session that asks, with its address. -/
theorem dhcpResponse_react {mac : Bytes} {ip xid : UInt32} {msgType : UInt8} {ok : Bool}
    (h : .dhcpResponse mac ip xid msgType ok ∈ (react config env s e).effects) :
    e = .dhcp xid msgType ∧ mac = m ∧ ip = s.ueIp ∧ s.state = .connected ∧ s.ueIp ≠ 0 := by
  cases sends h with
  | dhcpResponse _ _ _ he hc hip => exact ⟨he, rfl, rfl, hc, hip⟩

/-- A tunnel is added for a session that waits for the P-GW, towards the configured one. -/
theorem addTunnel_react {tunnel : GtpTunnel} {ok : Bool}
    (h : .gtpAddTunnel tunnel ok ∈ (react config env s e).effects) :
    ∃ pgwTeid ueIp qci, e = .createResponse true pgwTeid ueIp qci ∧
      s.state = .gtpCreatePending ∧ tunnel.sgsnAddr = inetPton config.pgwIp := by
  have no_teardown : .gtpAddTunnel tunnel ok ∉ teardownKernelGtpuTunnel env s := by
    intro ha
    rcases mem_teardown ha with ⟨_, hcmd⟩ | ⟨_, _, hcmd⟩
    · cases hcmd
    · cases hcmd
  cases sends h with
  | gtpAddTunnel _ _ hk =>
    cases e with
    | createResponse success pgwTeid ueIp qci =>
      simp only [kernelReact] at hk
      split at hk <;> [skip; cases hk]
      rename_i hp
      refine ⟨pgwTeid, ueIp, qci, by rw [hp.1], hp.2, ?_⟩
      rcases mem_setup hk with ⟨_, heq⟩ | ⟨_, heq⟩
      · cases heq
        rfl
      · cases heq
    | deleteBearer => exact absurd hk no_teardown
    | abort => exact absurd hk no_teardown
    | disconnect => exact absurd hk no_teardown
    | timeout =>
      simp only [kernelReact] at hk
      split at hk
      · exact absurd hk no_teardown
      · cases hk
    | _ => cases hk

/-! ## How the state moves -/

/-- The ways a session `s` becomes `s'`. -/
inductive Moves (config : TwagConfig) (env : Env) (s : UeSession m) (e : UeEvent)
    (s' : UeSession m) : Prop
  | stays (hst : s'.state = s.state) (hd : ∀ msg, .der msg true ∉ (react config env s e).effects)
    (ha : (react config env s e).armed = false)
  | asks (req : AccessRequest) (he : e = .accessRequest req) (hst : s'.state = .authPending)
    (hd : .der (derOf env config m req.eapPayload) true ∈ (react config env s e).effects)
    (ha : (react config env s e).armed = false)
  | accepts (dea : Dea) (he : e = .dea dea) (hc : dea.resultCode = 2001)
    (hp : s.state = .authPending) (hst : s'.state = .gtpCreatePending)
    (hr : ∃ dest, .createSessionRequest
      (createSessReqOf env config (TwagCore.applyProfile config env s dea)) dest true ∈
        (react config env s e).effects)
    (ha : (react config env s e).armed = true)
  | connects (pgwTeid ueIp : UInt32) (qci : UInt8) (he : e = .createResponse true pgwTeid ueIp qci)
    (hp : s.state = .gtpCreatePending) (hst : s'.state = .connected)
    (hu : (setupKernelGtpuTunnel env config (withTunnel s pgwTeid ueIp qci)).1 = true)
    (ha : (react config env s e).armed = false)

theorem moves_dea {dea : Dea} (hp : s.state = .authPending)
    (h : (react config env s (.dea dea)).session = some s') : Moves config env s (.dea dea) s' := by
  have he : react config env s (.dea dea) = onAnswer config env s dea := if_pos hp
  cases onAnswer_cases config env s dea with
  | challenged hc ho =>
    rw [he, ho] at h
    cases h
    exact .stays rfl (no_der nofun) (by rw [he, ho])
  | accepted dest hc ho =>
    rw [he, ho] at h
    cases h
    refine .accepts dea rfl hc hp rfl ⟨dest, ?_⟩ (by rw [he, ho])
    rw [he, ho]
    exact List.mem_cons_of_mem _ (List.mem_singleton_self _)
  | unsent effects hc hn ho =>
    rw [he, ho] at h
    cases h
    exact .stays rfl (no_der nofun) (by rw [he, ho])
  | rejected hc ho =>
    rw [he, ho] at h
    cases h
    exact .stays rfl (no_der nofun) (by rw [he, ho])

theorem moves_keep (hk : react config env s e = .keep s)
    (h : (react config env s e).session = some s') : Moves config env s e s' := by
  rw [hk] at h
  cases h
  exact .stays rfl (by rw [hk]; simp [Outcome.keep]) (by rw [hk]; rfl)

theorem state_withRequest (s : UeSession m) (req : AccessRequest) :
    (withRequest s req).state = s.state := by
  simp only [withRequest]
  split <;> rfl

/-- A session that is kept moves in one of the four ways. -/
theorem moves (h : (react config env s e).session = some s') : Moves config env s e s' := by
  cases e with
  | accessRequest req =>
    have h' := h
    simp only [react, onRequest, Option.some.injEq] at h'
    rcases sendDer_cases config env (withRequest s req) req.eapPayload with hc | ⟨effects, hc, hn⟩
    · rw [hc] at h'
      subst h'
      refine .asks req rfl rfl ?_ rfl
      simp only [react, onRequest, hc, List.mem_singleton]
    · rw [hc] at h'
      subst h'
      refine .stays (state_withRequest s req) ?_ rfl
      simpa only [react, onRequest, hc] using hn
  | dea dea =>
    by_cases hp : s.state = .authPending
    · exact moves_dea hp h
    · exact moves_keep (if_neg hp) h
  | createResponse success pgwTeid ueIp qci =>
    by_cases hp : success = true ∧ s.state = .gtpCreatePending
    · have he : react config env s (.createResponse success pgwTeid ueIp qci) =
          onTunnel config env s pgwTeid ueIp qci := if_pos hp
      obtain ⟨rfl, hp⟩ := hp
      have h' := h
      rw [he, onTunnel] at h'
      simp only [Option.some.injEq] at h'
      split at h' <;> subst h'
      · rename_i hu
        exact .connects pgwTeid ueIp qci rfl hp rfl hu (by rw [he]; rfl)
      · exact .stays rfl (no_der nofun) (by rw [he]; rfl)
    · exact moves_keep (if_neg hp) h
  | deleteBearer => cases h
  | abort => cases h
  | disconnect => cases h
  | timeout =>
    by_cases hp : s.state = .gtpCreatePending
    · simp [react, hp] at h
    · exact moves_keep (if_neg hp) h
  | dhcp xid msgType =>
    by_cases hp : s.state = .connected ∧ s.ueIp ≠ 0
    · have h' := h
      simp only [react, if_pos hp, Option.some.injEq] at h'
      subst h'
      exact .stays rfl (no_der nofun) (by simp [react, hp])
    · exact moves_keep (if_neg hp) h

/-! ## What a session keeps -/

/-- The fields a step may write: those of an Access-Request, of a DEA, or of a
Create Session Response, and the state. -/
theorem session_cases (h : (react config env s e).session = some s') :
    s' = s ∨
      (∃ req st, e = .accessRequest req ∧ s' = { withRequest s req with state := st }) ∨
      (∃ dea st, e = .dea dea ∧ s.state = .authPending ∧
        s' = { TwagCore.applyProfile config env s dea with state := st }) ∨
      (∃ pgwTeid ueIp qci st, e = .createResponse true pgwTeid ueIp qci ∧
        s.state = .gtpCreatePending ∧ s' = { withTunnel s pgwTeid ueIp qci with state := st }) := by
  cases e with
  | accessRequest req =>
    obtain ⟨st, hst⟩ := session_onRequest config env s req
    rw [react, hst] at h
    cases h
    exact .inr (.inl ⟨req, st, rfl, rfl⟩)
  | dea dea =>
    simp only [react] at h
    split at h
    · rename_i hp
      obtain ⟨st, hst⟩ := session_onAnswer config env s dea
      rw [hst] at h
      cases h
      exact .inr (.inr (.inl ⟨dea, st, rfl, hp, rfl⟩))
    · cases h
      exact .inl rfl
  | createResponse success pgwTeid ueIp qci =>
    simp only [react] at h
    split at h
    · rename_i hp
      obtain ⟨rfl, hp⟩ := hp
      refine .inr (.inr (.inr ⟨pgwTeid, ueIp, qci, s'.state, rfl, hp, ?_⟩))
      simp only [onTunnel, Option.some.injEq] at h
      split at h <;> subst h <;> rfl
    · cases h; exact .inl rfl
  | deleteBearer => cases h
  | abort => cases h
  | disconnect => cases h
  | timeout =>
    simp only [react] at h
    split at h <;> cases h
    exact .inl rfl
  | dhcp xid msgType =>
    simp only [react] at h
    split at h <;> cases h <;> exact .inl rfl

theorem teids_withRequest (s : UeSession m) (req : AccessRequest) :
    (withRequest s req).gtpTeidC = s.gtpTeidC ∧ (withRequest s req).gtpTeidU = s.gtpTeidU := by
  simp only [withRequest]
  split <;> exact ⟨rfl, rfl⟩

theorem react_teids (h : (react config env s e).session = some s') :
    s'.gtpTeidC = s.gtpTeidC ∧ s'.gtpTeidU = s.gtpTeidU := by
  rcases session_cases h with rfl | ⟨req, st, -, rfl⟩ | ⟨dea, st, -, -, rfl⟩ |
    ⟨pgwTeid, ueIp, qci, st, -, -, rfl⟩
  · exact ⟨rfl, rfl⟩
  · exact teids_withRequest s req
  · exact ⟨rfl, rfl⟩
  · exact ⟨rfl, rfl⟩

/-- The fields that only an Access-Request writes. -/
theorem react_request (h : (react config env s e).session = some s') :
    (∃ req st, e = .accessRequest req ∧ s' = { withRequest s req with state := st }) ∨
      ((∀ req, e ≠ .accessRequest req) ∧ Origin.ofSession s' = Origin.ofSession s ∧
        s'.imsi = s.imsi) := by
  by_cases hr : ∃ req, e = .accessRequest req
  · obtain ⟨req, rfl⟩ := hr
    obtain ⟨st, hst⟩ := session_onRequest config env s req
    rw [react, hst] at h
    cases h
    exact .inl ⟨req, st, rfl, rfl⟩
  · refine .inr ⟨fun req he => hr ⟨req, he⟩, ?_⟩
    rcases session_cases h with rfl | ⟨req, st, he, -⟩ | ⟨dea, st, -, -, rfl⟩ |
      ⟨pgwTeid, ueIp, qci, st, -, -, rfl⟩
    · exact ⟨rfl, rfl⟩
    · exact absurd ⟨req, he⟩ hr
    · exact ⟨rfl, rfl⟩
    · exact ⟨rfl, rfl⟩

/-- The fields that only a Create Session Response that is waited for writes. -/
theorem react_tunnel (h : (react config env s e).session = some s') :
    (∃ pgwTeid ueIp qci st, e = .createResponse true pgwTeid ueIp qci ∧
        s.state = .gtpCreatePending ∧ s' = { withTunnel s pgwTeid ueIp qci with state := st }) ∨
      ((∀ pgwTeid ueIp qci, e = .createResponse true pgwTeid ueIp qci →
          s.state ≠ .gtpCreatePending) ∧
        s'.pgwTeidU = s.pgwTeidU ∧ s'.ueIp = s.ueIp ∧ s'.qci = s.qci) := by
  by_cases hr : ∃ pgwTeid ueIp qci, e = .createResponse true pgwTeid ueIp qci ∧
      s.state = .gtpCreatePending
  · obtain ⟨pgwTeid, ueIp, qci, rfl, hp⟩ := hr
    rw [react, if_pos ⟨rfl, hp⟩, onTunnel] at h
    refine .inl ⟨pgwTeid, ueIp, qci, s'.state, rfl, hp, ?_⟩
    simp only [Option.some.injEq] at h
    split at h <;> subst h <;> rfl
  · refine .inr ⟨fun pgwTeid ueIp qci he hp => hr ⟨pgwTeid, ueIp, qci, he, hp⟩, ?_⟩
    rcases session_cases h with rfl | ⟨req, st, -, rfl⟩ | ⟨dea, st, -, -, rfl⟩ |
      ⟨pgwTeid, ueIp, qci, st, he, hp, -⟩
    · exact ⟨rfl, rfl, rfl⟩
    · simp only [withRequest]
      split <;> exact ⟨rfl, rfl, rfl⟩
    · exact ⟨rfl, rfl, rfl⟩
    · exact absurd ⟨pgwTeid, ueIp, qci, he, hp⟩ hr

/-- Nothing writes `pgw_teid_c_`, and only a DEA that is waited for writes `pgw_ip_`. -/
theorem react_pgw (h : (react config env s e).session = some s') :
    s'.pgwTeidC = s.pgwTeidC ∧ (s.state ≠ .authPending → s'.pgwIp = s.pgwIp) := by
  rcases session_cases h with rfl | ⟨req, st, -, rfl⟩ | ⟨dea, st, -, hp, rfl⟩ |
    ⟨pgwTeid, ueIp, qci, st, -, -, rfl⟩
  · exact ⟨rfl, fun _ => rfl⟩
  · simp only [withRequest]
    split <;> exact ⟨rfl, fun _ => rfl⟩
  · exact ⟨rfl, fun hn => absurd hp hn⟩
  · exact ⟨rfl, fun _ => rfl⟩

theorem origin_withRequest (s : UeSession m) (req : AccessRequest) (st : SessionState) :
    Origin.ofSession ({ withRequest s req with state := st } : UeSession m) =
      Origin.ofRequest req := rfl

theorem imsi_withRequest (s : UeSession m) (req : AccessRequest) (st : SessionState) :
    ({ withRequest s req with state := st } : UeSession m).imsi =
      if req.imsi.isEmpty then s.imsi else req.imsi := by
  simp only [withRequest]
  split <;> rfl

/-! ## What removes a session -/

theorem removed_cases (h : (react config env s e).session = none) :
    e = .deleteBearer ∨ e = .abort ∨ e = .disconnect ∨
      (e = .timeout ∧ s.state = .gtpCreatePending) := by
  cases e with
  | accessRequest req => cases h
  | dea dea =>
    simp only [react] at h
    split at h <;> [skip; cases h]
    obtain ⟨st, hst⟩ := session_onAnswer config env s dea
    rw [hst] at h
    cases h
  | createResponse success pgwTeid ueIp qci =>
    simp only [react] at h
    split at h <;> cases h
  | deleteBearer => exact .inl rfl
  | abort => exact .inr (.inl rfl)
  | disconnect => exact .inr (.inr (.inl rfl))
  | timeout =>
    simp only [react] at h
    split at h <;> [skip; cases h]
    exact .inr (.inr (.inr ⟨rfl, by assumption⟩))
  | dhcp xid msgType =>
    simp only [react] at h
    split at h <;> cases h

theorem removed_iff : (react config env s e).session = none ↔ Ends s e := by
  constructor
  · intro h
    rcases removed_cases h with rfl | rfl | rfl | ⟨rfl, hp⟩
    · trivial
    · trivial
    · trivial
    · exact hp
  · intro h
    cases e with
    | deleteBearer => rfl
    | abort => rfl
    | disconnect => rfl
    | timeout => rw [react, if_pos (show s.state = .gtpCreatePending from h)]
    | _ => exact h.elim

/-! ## What a session that is kept asks of the kernel -/

theorem setup_up {a : Effect} (ha : a ∈ (setupKernelGtpuTunnel env config s).2) :
    (setupKernelGtpuTunnel env config s).1 = true := by
  rw [setupKernelGtpuTunnel] at ha ⊢
  repeat' split at ha
  all_goals simp_all

/-- Only a session that is being connected asks the kernel for anything and is kept. -/
theorem kernelReact_kept {a : Effect} (h : (react config env s e).session = some s')
    (ha : a ∈ kernelReact config env s e) :
    ∃ pgwTeid ueIp qci, e = .createResponse true pgwTeid ueIp qci ∧ s.state = .gtpCreatePending ∧
      s' = { withTunnel s pgwTeid ueIp qci with state := .connected } ∧
      a ∈ (setupKernelGtpuTunnel env config (withTunnel s pgwTeid ueIp qci)).2 := by
  have not_ends : ¬ Ends s e := fun he => by rw [removed_iff.mpr he] at h; cases h
  cases e with
  | createResponse success pgwTeid ueIp qci =>
    simp only [kernelReact] at ha
    split at ha <;> [skip; cases ha]
    rename_i hp
    rw [react, if_pos hp, onTunnel] at h
    simp only [setup_up ha, if_true, Option.some.injEq] at h
    exact ⟨pgwTeid, ueIp, qci, by rw [hp.1], hp.2, h.symm, ha⟩
  | accessRequest req => cases ha
  | dea dea => cases ha
  | deleteBearer => exact absurd trivial not_ends
  | abort => exact absurd trivial not_ends
  | disconnect => exact absurd trivial not_ends
  | timeout =>
    have hp : ¬ s.state = .gtpCreatePending := not_ends
    rw [kernelReact, if_neg hp] at ha
    cases ha
  | dhcp xid msgType => cases ha

end Twag.Proof.Core

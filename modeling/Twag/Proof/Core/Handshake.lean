import Twag.Proof.Core.History

/-!
# The handshake before CONNECTED

`connected_handshake`: whatever is lost, repeated, reordered or never asked
for, a session is CONNECTED only through the whole handshake: an Access-Request
whose DER was sent, a DEA with DIAMETER_SUCCESS whose Create Session Request was
sent, and a Create Session Response whose tunnel was set up, in this order and
with nothing else done to its state since. The invariant (`handshake`) says for
each state how far the session has come; each event either leaves the state or
takes it one part further (`moves`).
-/

namespace Twag.Proof.Core

open Twag.Impl Twag.Spec

variable (boot : Boot) (m : Bytes)

/-- A successful Create Session Response with the TEID of the session of `m`,
while GTP_CREATE_PENDING, for which `setup_kernel_gtpu_tunnel` returns true. -/
def TunnelSet (teid : UInt32) (h : List Input) (x : Input) : Prop :=
  ∃ pgwTeid ueIp qci s, x.event = .createSessionResponse teid true pgwTeid ueIp qci ∧
    (boot.after h).sessionManager.getSessionByTeidC x.env.iteration teid = some ⟨m, s⟩ ∧
    s.gtpTeidC = teid ∧ s.state = .gtpCreatePending ∧
    (setupKernelGtpuTunnel x.env boot.config (withTunnel s pgwTeid ueIp qci)).1 = true

/-- A step that leaves the state of `m`'s session as it is and sends no DER for it. -/
def Unmoved (h : List Input) (x : Input) : Prop :=
  ((boot.after (x :: h)).getSession m).map UeSession.state =
      ((boot.after h).getSession m).map UeSession.state ∧
    ¬ DerSent boot m h x

/-- The last thing done to the session was its DER. -/
def Authenticating : List Input → Prop := Since (DerSent boot m) (Unmoved boot m)

/-- The last things done to the session were its DER and its Create Session Request. -/
def Creating : List Input → Prop :=
  Since (fun h x => CreateSent boot m h x ∧ Authenticating boot m h) (Unmoved boot m)

/-- The last things done to the session were its DER, its Create Session
Request, and its tunnel. -/
def Established (teid : UInt32) : List Input → Prop :=
  Since (fun h x => TunnelSet boot m teid h x ∧ Creating boot m h) (Unmoved boot m)

/-- How far a session with this state and control TEID has come. -/
def Reached : SessionState → UInt32 → List Input → Prop
  | .authPending, _, h => Authenticating boot m h
  | .gtpCreatePending, _, h => Creating boot m h
  | .connected, teid, h => Established boot m teid h
  | _, _, _ => True

variable {boot m}

theorem unmoved_react {s s' : UeSession m} {h : List Input} {x : Input} {e : UeEvent}
    (hs : (boot.after h).getSession m = some s) (hs' : (boot.after (x :: h)).getSession m = some s')
    (he : boot.effects h x = (react boot.config x.env s e).effects) (hst : s'.state = s.state)
    (hn : ∀ msg, .der msg true ∉ (react boot.config x.env s e).effects) : Unmoved boot m h x := by
  refine ⟨by rw [hs, hs', Option.map_some, Option.map_some, hst], ?_⟩
  rintro ⟨req, c, msg, -, -, hm⟩
  exact hn msg (he ▸ hm)

theorem unmoved_keeps {s : UeSession m} {h : List Input} {x : Input}
    (hs : (boot.after (x :: h)).getSession m = some s)
    (hs₀ : (boot.after h).getSession m = some s)
    (hd : ∀ e, deliver (boot.after h) x ≠ some (m, e)) : Unmoved boot m h x := by
  refine ⟨by rw [hs, hs₀], ?_⟩
  rintro ⟨req, c, msg, hx, rfl, -⟩
  exact hd (.accessRequest req) (by simp only [deliver, hx])

theorem createSent_react {s : UeSession m} {h : List Input} {x : Input} {dea : Dea}
    (hd : deliver (boot.after h) x = some (m, .dea dea)) (hc : dea.resultCode = 2001)
    (hs : (boot.after h).getSession m = some s) (hp : s.state = .authPending)
    (he : boot.effects h x = (react boot.config x.env s (.dea dea)).effects)
    (hr : ∃ req dest, .createSessionRequest req dest true ∈
      (react boot.config x.env s (.dea dea)).effects) : CreateSent boot m h x := by
  obtain ⟨a, hx, hm⟩ := deliver_dea hd
  obtain ⟨req, dest, hr⟩ := hr
  exact ⟨dea, a, s, req, dest, hx, hm, hc, hs, hp, he ▸ hr⟩

/-- A session whose Create Session Request is sent waits for the P-GW. -/
theorem createSent_session {h : List Input} {x : Input} (hc : CreateSent boot m h x) :
    ∃ s, (boot.after (x :: h)).getSession m = some s ∧ s.state = .gtpCreatePending := by
  obtain ⟨dea, a, s, req, dest, hx, rfl, -, hs, hp, hmem⟩ := hc
  have hd : deliver (boot.after h) x = some (dea.macAddr, .dea dea) := by simp only [deliver, hx]
  have hf := step_stored hd hs
  rw [react, if_pos hp] at hf
  have hg : (boot.after (x :: h)).getSession dea.macAddr =
    (onAnswer (boot.after h).config x.env s dea).session := hf.getSession hs
  rw [Boot.effects, hf.1] at hmem
  cases onAnswer_cases (boot.after h).config x.env s dea with
  | challenged _ ho => rw [ho] at hmem; simp [TwagCore.answer, sendResponse] at hmem
  | accepted _ _ ho => exact ⟨_, by rw [hg, ho], rfl⟩
  | unsent effects _ hn ho =>
    rw [ho] at hmem
    rcases List.mem_cons.mp hmem with hmem | hmem
    · cases hmem
    · obtain ⟨_, hd⟩ := hn _ hmem
      cases hd
  | rejected _ ho => rw [ho] at hmem; simp [TwagCore.answer, sendResponse] at hmem

/-- A step that does not move the state keeps what the handshake has reached. -/
theorem Reached.unmoved {st : SessionState} {teid : UInt32} {h : List Input} {x : Input}
    (hr : Reached boot m st teid h) (hu : Unmoved boot m h x) :
    Reached boot m st teid (x :: h) := by
  cases st with
  | authPending => exact .later hu hr
  | gtpCreatePending => exact .later hu hr
  | connected => exact .later hu hr
  | init => trivial
  | disconnecting => trivial

/-- One event for a session takes the handshake one part further, or leaves it. -/
theorem Reached.react {s s' : UeSession m} {h : List Input} {x : Input} {e : UeEvent}
    (hh : Reached boot m s.state s.gtpTeidC h) (hd : deliver (boot.after h) x = some (m, e))
    (hs : (boot.after h).getSession m = some s) (hs' : (boot.after (x :: h)).getSession m = some s')
    (he : boot.effects h x = (react boot.config x.env s e).effects)
    (hr : (Spec.react boot.config x.env s e).session = some s') :
    Reached boot m s'.state s'.gtpTeidC (x :: h) := by
  rw [(react_teids hr).1]
  cases moves hr with
  | stays hst hn =>
    rw [hst]
    exact hh.unmoved (unmoved_react hs hs' he hst hn)
  | asks req hq hst hm =>
    subst hq
    obtain ⟨c, hx, hm'⟩ := deliver_accessRequest hd
    rw [hst]
    exact .now ⟨req, c, _, hx, hm', he ▸ hm⟩
  | accepts dea hq hc hp hst hcsr =>
    subst hq
    have hx' : CreateSent boot m h x := createSent_react hd hc hs hp he ⟨_, hcsr⟩
    rw [hp] at hh
    rw [hst]
    exact Or.inl ⟨hx', hh⟩
  | connects pgwTeid ueIp qci hq hp hst hu =>
    subst hq
    obtain ⟨hx, hf⟩ := deliver_createResponse hd hs
    have hx' : TunnelSet boot m s.gtpTeidC h x := ⟨pgwTeid, ueIp, qci, s, hx, hf, rfl, hp, hu⟩
    rw [hp] at hh
    rw [hst]
    exact Or.inl ⟨hx', hh⟩

/-- Every stored session has come as far as its state says. -/
theorem handshake (h : List Input) {s : UeSession m} (hs : (boot.after h).getSession m = some s) :
    Reached boot m s.state s.gtpTeidC h := by
  induction hs using stored_induction with
  | reacts h x e s₀ s hs hd hs₀ hr he ih => exact ih.react hd hs₀ hs he hr
  | attaches h x req c s hs hx hm hn hc hr he =>
    rcases attach_cases hr with hst | ⟨hst, hmem⟩
    · rw [hst]
      trivial
    · rw [hst]
      exact .now ⟨req, c, _, hx, hm, he ▸ hmem⟩
  | keeps h x s hs hs₀ hd ih => exact ih.unmoved (unmoved_keeps hs hs₀ hd)

/-- A stored session is CONNECTED only if the last things done to its state
were, in this order, an Access-Request whose DER was sent, a DEA with
DIAMETER_SUCCESS whose Create Session Request was sent, and a Create Session
Response for its TEID whose tunnel was set up. -/
theorem connected_handshake (boot : Boot) (h : List Input) (m : Bytes) (s : UeSession m)
    (hs : (boot.after h).getSession m = some s) (hc : s.state = .connected) :
    Since (fun h₃ x₃ => TunnelSet boot m s.gtpTeidC h₃ x₃ ∧
      Since (fun h₂ x₂ => CreateSent boot m h₂ x₂ ∧
        Since (DerSent boot m) (Unmoved boot m) h₂) (Unmoved boot m) h₃) (Unmoved boot m) h := by
  have hr := handshake h hs
  rw [hc] at hr
  exact hr

/-- A handshake without any loss. -/
def sampleHandshake : List Input :=
  sampleAt 30 (.createSessionResponse 1 true 7 9 9) :: sampleWaiting

theorem connected_handshake_sample :
    ∃ s, (sampleBoot.after sampleHandshake).getSession sampleMac = some s ∧ s.state = .connected ∧
      Established sampleBoot sampleMac s.gtpTeidC sampleHandshake := by
  have hm : ((sampleBoot.after sampleHandshake).getSession sampleMac).map UeSession.state =
    some .connected := by decide
  obtain ⟨s, hs, hc⟩ := Option.map_eq_some_iff.mp hm
  exact ⟨s, hs, hc, connected_handshake sampleBoot sampleHandshake sampleMac s hs hc⟩

end Twag.Proof.Core

import Twag.Proof.Core.Orphan
import Twag.Proof.Gateway.Arrivals

/-!
# One P-GW for a session

A session's P-GW is chosen when a DEA is taken, its Create Session Request goes
there, and the response that connects the session names the P-GW's control TEID.
`endpoint_of_consistent`: the Delete Session Request and the tunnel are for that
same P-GW in every run in which

* a session is ended, and a Delete Session Request sent, while it is CONNECTED;
* a response has, as the control TEID, what `pgw_teid_c_` happens to hold, since
  no code ever writes it;
* a response is for a session whose P-GW is the configured one, since the tunnel
  always leads to that.

`endpoints_part` is a run with three different endpoints.
-/

namespace Twag.Proof.Gateway

open Twag.Impl Twag.Spec Twag.Proof.Core

/-! ## The request that a session waits for an answer to -/

/-- The Create Session Request of `m` that its session waits for an answer to, or
was connected by, went to `dest`, the P-GW that the DEA before it had chosen. -/
def RequestedAt (boot : Boot) (m : Bytes) (dest : UInt32) : List Input → Prop :=
  Since (fun g y => ∃ dea answers s req, y.event = .dea dea answers ∧ dea.macAddr = m ∧
      (boot.after g).getSession m = some s ∧
      .createSessionRequest req dest true ∈ boot.effects g y ∧
      inetPton (pgwAddress boot m y.env s dea) = some dest)
    (SameState boot m)

theorem pending_requested {boot : Boot} {m : Bytes} {s : UeSession m} {h : List Input}
    (hs : (boot.after h).getSession m = some s) (hp : s.state = .gtpCreatePending) :
    ∃ dest, RequestedAt boot m dest h ∧ inetPton (destIp boot.config s) = some dest := by
  induction hs using stored_induction with
  | reacts h x e s₀ s hs hd hs₀ hr he ih =>
    cases moves hr with
    | stays hst =>
      have hp₀ : s₀.state = .gtpCreatePending := hst.symm.trans hp
      obtain ⟨dest, hreq, hdest⟩ := ih hp₀
      have hpgw : s.pgwIp = s₀.pgwIp := (react_pgw hr).2 (by rw [hp₀]; decide)
      exact ⟨dest, .later (sameState hs₀ hs hst) hreq, by rwa [destIp, hpgw]⟩
    | asks req hq hst => rw [hp] at hst; cases hst
    | accepts dea hq hc hp₀ hst hmem =>
      subst hq
      obtain ⟨dest, hmem⟩ := hmem
      obtain ⟨answers, hx, hm⟩ := deliver_dea hd
      obtain ⟨_, hq, -, -, -, hdest⟩ := createRequest_react hmem
      cases hq
      refine ⟨dest, .now ⟨dea, answers, s₀, _, hx, hm, hs₀, he ▸ hmem, ?_⟩, ?_⟩
      · rw [← destIp_applyProfile]
        exact hdest
      · obtain ⟨st, hst⟩ := session_onAnswer boot.config x.env s₀ dea
        rw [react, if_pos hp₀, hst] at hr
        cases hr
        exact hdest
    | connects _ _ _ hq hp₀ hst => rw [hp] at hst; cases hst
  | attaches h x req c s hs hx hm hn hcount hr he =>
    rcases attach_cases hr with hst | ⟨hst, -⟩ <;> rw [hp] at hst <;> cases hst
  | keeps h x s hs hs₀ hd ih =>
    obtain ⟨dest, hreq, hdest⟩ := ih hp
    exact ⟨dest, .later (sameState hs₀ hs rfl) hreq, hdest⟩

/-! ## One endpoint -/

section

variable (boot : Boot)

/-- An arrival is for the session of `m`. -/
def ArrivesFor (m : Bytes) (h : List Arrival) (a : Arrival) : Prop :=
  ∃ x e, a.input = some x ∧ deliver (boot.served h) x = some (m, e)

/-- The response that the session of `m` is connected by has the control TEID
`teid`, and the request that it answers went to `dest`. -/
def ConnectedAt (m : Bytes) (teid dest : UInt32) : List Arrival → Prop :=
  Since (fun g b => ∃ d rsp, Connects boot m d g b ∧ decodeCreateSessRsp d.buffer = .ok rsp ∧
      rsp.pgwFteidCtlPlane = some teid ∧ RequestedAt boot m dest (inputs g))
    (Keeps boot m)

/-- The calls on an arrival address the P-GW of the session it is for: a Delete
Session Request goes to where the Create Session Request went, under the control
TEID in the response that has connected the session; and a tunnel leads to where
the request it answers went. -/
structure OneEndpoint (h : List Arrival) (a : Arrival) : Prop where
  delete : ∀ teid dest ok, .deleteSessionRequest teid dest ok ∈ boot.calls h a →
    ∃ m, ArrivesFor boot m h a ∧ ConnectedAt boot m teid dest h
  tunnel : ∀ tunnel ok, .gtpAddTunnel tunnel ok ∈ boot.calls h a →
    ∃ m dest, ArrivesFor boot m h a ∧ RequestedAt boot m dest (inputs h) ∧
      tunnel.sgsnAddr = some dest

/-- What an arrival has to meet: a session that is ended with a Delete Session
Request is CONNECTED; and a response that a session waits for has the control
TEID that the session was created with, and the session the configured P-GW. -/
structure Consistent (h : List Arrival) (a : Arrival) : Prop where
  ended : ∀ x m e s, a.input = some x → deliver (boot.served h) x = some (m, e) →
    (boot.served h).getSession m = some s → Ends s e → e ≠ .deleteBearer →
    (inetPton (destIp boot.config s)).isSome → s.state = .connected
  answered : ∀ d rsp m s, a.packet = .s2a d → S2aInterface.isCreateSessRsp d →
    decodeCreateSessRsp d.buffer = .ok rsp →
    (boot.served h).sessionManager.getSessionByTeidC a.env.iteration
      (S2aInterface.destTeid d.buffer) = some ⟨m, s⟩ →
    s.state = .gtpCreatePending →
    rsp.pgwFteidCtlPlane = some s.pgwTeidC ∧
      inetPton (destIp boot.config s) = inetPton boot.config.pgwIp

end

variable {boot : Boot} {h : List Arrival} {a : Arrival}

/-- The request of a connected session, and the TEID that answered it, are those
of the session itself. -/
theorem connected_endpoint {m : Bytes} {s : UeSession m} {dest : UInt32}
    (ht : Throughout (Consistent boot) h) (hs : (boot.served h).getSession m = some s)
    (hc : s.state = .connected) (hdest : inetPton (destIp boot.config s) = some dest) :
    ConnectedAt boot m s.pgwTeidC dest h := by
  refine ((connected_since_arrival hs hc).throughout ht).imp ?_ fun _ _ hq => hq
  rintro g b ⟨⟨d, rsp, s₀, hconn, hd, hp, hf, -, hip, hteid⟩, hb⟩
  have hs₀ := (SessionManager.getSessionByTeidC_stored hf).1
  obtain ⟨dest₀, hreq, hdest₀⟩ := pending_requested hs₀ hp
  rw [destIp, hip] at hdest
  cases hdest₀.symm.trans hdest
  refine ⟨d, rsp, hconn, hd, ?_, hreq⟩
  rw [hteid]
  exact (hb.answered d rsp m s₀ hconn.1 hconn.2.1 hd hf hp).1

theorem oneEndpoint_delete {teid dest : UInt32} {ok : Bool}
    (ht : Throughout (Consistent boot) h) (hc : Consistent boot h a)
    (he : .deleteSessionRequest teid dest ok ∈ boot.calls h a) :
    ∃ m, ArrivesFor boot m h a ∧ ConnectedAt boot m teid dest h := by
  obtain ⟨x, hev, henv, he⟩ := mem_calls he
  obtain ⟨m, e, s, hd, hs, he⟩ := effects_stored he (by simp) (by simp)
  obtain ⟨hends, hb, rfl, hdest⟩ := deleteRequest_react he
  have hx := input_iff.mpr ⟨hev, henv⟩
  have hconn := hc.ended x m e s hx hd hs hends hb (by rw [hdest]; rfl)
  exact ⟨m, ⟨x, e, hx, hd⟩, connected_endpoint ht hs hconn hdest⟩

theorem oneEndpoint_tunnel {tunnel : GtpTunnel} {ok : Bool} (hc : Consistent boot h a)
    (he : .gtpAddTunnel tunnel ok ∈ boot.calls h a) :
    ∃ m dest, ArrivesFor boot m h a ∧ RequestedAt boot m dest (inputs h) ∧
      tunnel.sgsnAddr = some dest := by
  obtain ⟨x, hev, henv, he⟩ := mem_calls he
  obtain ⟨m, e, s, hd, hs, he⟩ := effects_stored he (by simp) (by simp)
  obtain ⟨pgwTeid, ueIp, qci, rfl, hp, haddr⟩ := addTunnel_react he
  obtain ⟨hx, hf⟩ := deliver_createResponse hd hs
  obtain ⟨dest, hreq, hdest⟩ := pending_requested hs hp
  refine ⟨m, dest, ⟨x, _, input_iff.mpr ⟨hev, henv⟩, hd⟩, hreq, ?_⟩
  rw [hx] at hev
  rw [henv] at hf
  generalize hpk : a.packet = p at hev
  generalize hteid : s.gtpTeidC = teid at hev hf
  cases comes hev with
  | createSessionResponse d rsp hcs hdec =>
    rw [haddr, ← (hc.answered d rsp m s hpk hcs hdec hf hp).2, hdest]

/-- In a run whose arrivals are all `Consistent`, whatever answers, challenges,
rejections and re-authentications it has, every Delete Session Request and every
tunnel of a session addresses the P-GW that its Create Session Request went to,
the request as it was answered. -/
theorem endpoint_of_consistent (boot : Boot) (h : List Arrival)
    (hc : Throughout (Consistent boot) h) : Throughout (OneEndpoint boot) h := by
  induction h with
  | nil => trivial
  | cons a h ih =>
    exact ⟨⟨fun _ _ _ => oneEndpoint_delete hc.2 hc.1, fun _ _ => oneEndpoint_tunnel hc.1⟩,
      ih hc.2⟩

/-! ## A session with one P-GW, and one with three -/

section

variable {x : Input} {m : Bytes} {e : UeEvent} {s : UeSession m}
  (hx : a.input = some x) (hd : deliver (boot.served h) x = some (m, e))

include hx hd

theorem accessRequest_keeps {d : Datagram} {c : Option Nat} (hp : a.packet = .radius d c)
    (hc : d.buffer 0 = 1) : ¬ Ends s e := by
  obtain ⟨env, ev⟩ := x
  have hev := (input_iff.mp hx).1
  rw [hp] at hev
  cases comes hev with
  | accessRequest _ _ attrs =>
    cases hd
    exact id
  | accountingStop _ _ attrs _ _ hs =>
    rw [hc] at hs
    exact absurd hs.1 (by decide)

theorem dea_keeps {dict : AvpName → Bool} {msg : List Avp} {c : Option Nat}
    (hp : a.packet = .dea dict msg c) : ¬ Ends s e := by
  obtain ⟨env, ev⟩ := x
  have hev := (input_iff.mp hx).1
  rw [hp] at hev
  cases comes hev with
  | dea _ _ _ dea =>
    cases hd
    exact id

theorem s2a_keeps {d : Datagram} (hp : a.packet = .s2a d) (hb : e ≠ .deleteBearer) :
    ¬ Ends s e := by
  obtain ⟨env, ev⟩ := x
  have hev := (input_iff.mp hx).1
  rw [hp] at hev
  cases comes hev with
  | createSessionResponse _ rsp =>
    obtain ⟨_, -, hq⟩ := Option.map_eq_some_iff.mp hd
    cases hq
    exact id
  | deleteBearerRequest _ n =>
    obtain ⟨_, -, hq⟩ := Option.map_eq_some_iff.mp hd
    cases hq
    exact absurd rfl hb

end

/-- An F-TEID IE of instance 1, with this TEID and the P-GW's address. -/
def controlFteidIe (hi lo : UInt8) : Bytes := [87, 0, 9, 1, 0xa4, 0, 0, hi, lo, 127, 0, 0, 1]

/-- The P-GW accepts the sample UE, under the control TEID 0x1234. -/
def sampleTeidResponse : Arrival :=
  ⟨sampleEnv 30000000, .s2a (sampleResponse (causeIe 16 ++ controlFteidIe 0x12 0x34 ++
    paaIe 10 1 0 5))⟩

theorem sampleTeidResponse_decoded {d : Datagram} (hd : sampleTeidResponse.packet = .s2a d) :
    decodeCreateSessRsp d.buffer =
      .ok ⟨some 16, some 0x1234, some (ofOctets 10 1 0 5), []⟩ := by
  cases hd
  decide +kernel

/-- The accounting of the sample UE stops. -/
def sampleStop : Arrival :=
  ⟨sampleEnv 40000000, .radius (sampleRadius 4 ([31, 19] ++ sampleMac ++ [4, 6, 0, 0, 0, 2])) none⟩

/-- The sample UE attaches, while 0x1234 is in the memory that its session gets. -/
def sampleLucky : List Arrival :=
  [⟨{ sampleEnv 10000000 with memory := { (sampleEnv 0).memory with pgwTeidC := 0x1234 } },
    .radius (sampleRadius 1 ([31, 19] ++ sampleMac)) none⟩]

theorem sampleLucky_consistent :
    Throughout (Consistent sampleBoot)
      (sampleStop :: sampleTeidResponse :: sampleSuccessAnswer :: sampleLucky) := by
  have stop : ∀ p ∈ (sampleBoot.served (sampleTeidResponse :: sampleSuccessAnswer ::
      sampleLucky)).sessionManager.sessions.entries, p.2.state = .connected := by
    decide +kernel
  have response : ∀ p ∈ (sampleBoot.served (sampleSuccessAnswer ::
      sampleLucky)).sessionManager.sessions.entries, p.2.pgwTeidC = 0x1234 ∧
        inetPton (destIp sampleBoot.config p.2) = inetPton sampleBoot.config.pgwIp := by
    decide +kernel
  refine ⟨⟨?_, ?_⟩, ⟨?_, ?_⟩, ⟨?_, ?_⟩, ⟨?_, ?_⟩, trivial⟩
  · intro x m e s _ _ hs _ _ _
    exact stop ⟨m, s⟩ (SessionManager.getSession_eq_some_iff.mp hs)
  · intro d rsp m s hp
    cases hp
  · intro x m e s hx hd _ he hb
    exact absurd he (s2a_keeps hx hd rfl hb)
  · intro d rsp m s hp _ hd hf _
    cases (sampleTeidResponse_decoded hp).symm.trans hd
    have hs := (SessionManager.getSessionByTeidC_stored hf).1
    obtain ⟨hteid, hip⟩ := response ⟨m, s⟩ (SessionManager.getSession_eq_some_iff.mp hs)
    exact ⟨by rw [hteid], hip⟩
  · intro x m e s hx hd _ he
    exact absurd he (dea_keeps hx hd rfl)
  · intro d rsp m s hp
    cases hp
  · intro x m e s hx hd _ he
    exact absurd he (accessRequest_keeps hx hd rfl (by decide))
  · intro d rsp m s hp
    cases hp

/-- The sample UE leaves a P-GW that it has used throughout. -/
theorem endpoint_of_consistent_sample :
    .deleteSessionRequest 0x1234 loopback true ∈
        sampleBoot.calls (sampleTeidResponse :: sampleSuccessAnswer :: sampleLucky) sampleStop ∧
      Throughout (OneEndpoint sampleBoot)
        (sampleStop :: sampleTeidResponse :: sampleSuccessAnswer :: sampleLucky) :=
  ⟨by decide +kernel, endpoint_of_consistent _ _ sampleLucky_consistent⟩

/-- A DEA that has chosen another P-GW for the sample UE, 10.9.9.9. -/
def sampleDirected : Arrival :=
  sampleAnswer [.mk .resultCode (some (.u32 2001)) [],
    .mk .mip6AgentInfo none [.mk .mipHomeAgentAddress (some (.os [0, 1, 10, 9, 9, 9])) []]]

/-- The P-GW that a call addresses. -/
def addressed : Effect → Option (Option UInt32)
  | .createSessionRequest _ dest _ => some (some dest)
  | .deleteSessionRequest _ dest _ => some (some dest)
  | .gtpAddTunnel tunnel _ => some tunnel.sgsnAddr
  | _ => none

/-- The Create Session Request goes to the P-GW that the DEA has chosen, and the
tunnel to the configured one. The Delete Session Request goes to the first, but not
under the TEID that it has answered with, and it goes out as well if it has not
answered. -/
theorem endpoints_part :
    (sampleBoot.calls sampleArrived sampleDirected).filterMap addressed =
        [some (ofOctets 10 9 9 9)] ∧
      (sampleBoot.calls (sampleDirected :: sampleArrived) sampleTeidResponse).filterMap addressed =
        [some loopback] ∧
      .deleteSessionRequest 0 (ofOctets 10 9 9 9) true ∈
        sampleBoot.calls (sampleTeidResponse :: sampleDirected :: sampleArrived) sampleStop ∧
      .deleteSessionRequest 0 (ofOctets 10 9 9 9) true ∈
        sampleBoot.calls (sampleDirected :: sampleArrived) sampleStop ∧
      ¬ OneEndpoint sampleBoot (sampleTeidResponse :: sampleDirected :: sampleArrived)
        sampleStop := by
  have hdel : .deleteSessionRequest 0 (ofOctets 10 9 9 9) true ∈
      sampleBoot.calls (sampleTeidResponse :: sampleDirected :: sampleArrived) sampleStop := by
    decide +kernel
  refine ⟨by decide +kernel, by decide +kernel, hdel, by decide +kernel, fun ho => ?_⟩
  obtain ⟨m, -, hsince⟩ := ho.delete 0 _ true hdel
  obtain ⟨g, b, ht, d, rsp, ⟨hp, -⟩, hd, hteid, -⟩ := Since.taken hsince
  have hb : b ∈ sampleTeidResponse :: sampleDirected :: sampleArrived :=
    ht.subset List.mem_cons_self
  -- of what arrived, only the response can have connected a session
  rcases List.mem_cons.mp hb with rfl | hb
  · cases (sampleTeidResponse_decoded hp).symm.trans hd
    exact absurd hteid (by decide)
  · rcases List.mem_pair.mp hb with rfl | rfl <;> cases hp

end Twag.Proof.Gateway

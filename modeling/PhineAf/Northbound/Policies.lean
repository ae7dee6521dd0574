import PhineAf.Northbound.Api
import PhineAf.Policy.Unserved

/-!
# Policies over the API

A request for a policy goes from the API to the policy manager of AF core, and from there to the
PCF handler, which does not serve it. So the API never answers that a policy is active: what
succeeds are deletions (`ApiSetting.qos_unserved`).
-/

namespace PhineAf

open ApiHandlers

/-- What AF core draws when something happens. -/
def ApiEvent.draws : ApiEvent → Option Draws
  | http _ _ _ d | message _ d => some d
  | cleanup _ => none

namespace ApiSetting

variable {Q S : Type} {a : ApiSetting Q} {core : AfCore Q} {pcf : PcfHandler.QodHandlers S}
  {event : ApiEvent}

/-- The PCF handler answers what AF core asks of it. -/
def Unserved (pcf : PcfHandler.QodHandlers S) (lib : Json.Library) (event : ApiEvent) : Prop :=
  ∀ d, event.draws = some d → PcfHandler.Answers pcf lib d.answer

theorem dormant_processMessage (h : core.policies.Dormant) {d : Draws}
    (hanswer : PcfHandler.Answers pcf a.lib d.answer) (request : Request) :
    (AfOrchestrator.processMessage a.lib a.format a.qod d request core).1.policies.Dormant := by
  rw [AfOrchestrator.processMessage_policies]
  split_ifs
  · have hidles := h.serveQos a.lib ⟨d.policyId, d.answer, request.message.payload⟩
    exact (hidles.dormant (PolicyManager.useless_of_answers hanswer)).1
  · exact h

/-- Every policy stays in error. -/
theorem dormant_serve (h : core.policies.Dormant) (hevent : Unserved pcf a.lib event) :
    (a.serve core event).1.policies.Dormant := by
  cases event with
  | http request correlationId delivery d =>
    rw [serve]
    rcases ApiAdapter.setupRoutes a.lib correlationId request with response | e
    · exact h
    · cases delivery with
      | lost what => exact h
      | unanswered what => exact dormant_processMessage h (hevent d rfl) _
      | answered => exact dormant_processMessage h (hevent d rfl) _
  | message request d => exact dormant_processMessage h (hevent d rfl) request
  | cleanup now => exact h

/-- A response that tells of a deletion. -/
def TellsDeletion (a : ApiSetting Q) (response : ApiResponse) : Prop :=
  ∃ policyId body, a.lib.parse (a.lib.dump (QosReply.success policyId "deleted").body) = .ok body ∧
    response = jsonResponse a.lib 200 body

/-- The response to a reply of the policy manager. -/
theorem tellsDeletion_of_refuses {reply : QosReply} (hrefuses : PolicyManager.Refuses reply)
    {otherwise : ApiResponse} {m : Message}
    (hstatus : (respond [("qos_success", forward a.lib 200), ("qos_error", forward a.lib 400)]
      otherwise (errorResponse a.lib 400 "bad_request")
        (.ok (some (reply.toReply a.lib m)))).status = 200) :
    a.TellsDeletion (respond [("qos_success", forward a.lib 200),
      ("qos_error", forward a.lib 400)] otherwise (errorResponse a.lib 400 "bad_request")
        (.ok (some (reply.toReply a.lib m)))) := by
  cases reply with
  | success policyId state =>
    have hlookup : [("qos_success", forward a.lib 200), ("qos_error", forward a.lib 400)].lookup
        ((QosReply.success policyId state).toReply a.lib m).messageType =
          some (forward a.lib 200) := rfl
    rw [respond_of_lookup hlookup, forward] at hstatus ⊢
    obtain rfl := hrefuses policyId state rfl
    rcases hparse : a.lib.parse ((QosReply.success policyId "deleted").toReply a.lib m).payload
      with what | body <;> rw [hparse] at hstatus
    · exact absurd hstatus (by decide : 400 ≠ 200)
    · exact ⟨policyId, body, hparse, rfl⟩
  | error e what =>
    have hlookup : [("qos_success", forward a.lib 200), ("qos_error", forward a.lib 400)].lookup
        ((QosReply.error e what).toReply a.lib m).messageType = some (forward a.lib 400) := rfl
    rw [respond_of_lookup hlookup, forward] at hstatus
    rcases hparse : a.lib.parse ((QosReply.error e what).toReply a.lib m).payload
      with what | body <;> rw [hparse] at hstatus
    · exact absurd hstatus (by decide : 400 ≠ 200)
    · exact absurd hstatus (by decide : 400 ≠ 200)

/-- A request that succeeds is a deletion. -/
theorem tellsDeletion_serve (h : core.policies.Dormant) {body correlationId : String}
    {delivery : Delivery} {d : Draws} (hanswer : PcfHandler.Answers pcf a.lib d.answer)
    {response : ApiResponse}
    (hresponse : (a.serve core (.http ⟨.qos, "POST", body⟩ correlationId delivery d)).2 =
      .response response) (hstatus : response.status = 200) : a.TellsDeletion response := by
  have hroute : ApiAdapter.setupRoutes a.lib correlationId ⟨.qos, "POST", body⟩ =
      requestQoS a.lib body correlationId := by
    simp [ApiAdapter.setupRoutes]
  rw [serve, hroute, requestQoS, exchangeBody] at hresponse
  rcases hparse : a.lib.parse body with what | j <;> rw [hparse] at hresponse
  · obtain rfl := ApiOutcome.response.inj hresponse
    exact absurd hstatus (by decide : 400 ≠ 200)
  have hfailed : ∀ what, (respond [("qos_success", forward a.lib 200),
      ("qos_error", forward a.lib 400)] (unexpectedResponse a.lib)
        (errorResponse a.lib 400 "bad_request") (.failed what)).status ≠ 200 := by
    rintro (_ | what)
    · exact (by decide : 500 ≠ 200)
    · exact (by decide : 400 ≠ 200)
  cases delivery with
  | lost what =>
    obtain rfl := ApiOutcome.response.inj hresponse
    exact absurd hstatus (hfailed what)
  | unanswered what =>
    obtain rfl := ApiOutcome.response.inj hresponse
    exact absurd hstatus (hfailed what)
  | answered =>
    have hhandle : a.handle d (createMessage "qos_request" (a.lib.dump j) correlationId) core =
        AfOrchestrator.handleQosRequest a.lib d ⟨correlationId, a.lib.dump j, a.metadata⟩ core :=
      AfOrchestrator.processMessage_of_mem a.lib a.format a.qod List.mem_cons_self
    have hidles := h.serveQos a.lib ⟨d.policyId, d.answer, a.lib.dump j⟩
    have hrefuses := (hidles.dormant (PolicyManager.useless_of_answers hanswer)).2
    dsimp only [exchange] at hresponse
    rw [hhandle] at hresponse
    obtain rfl := ApiOutcome.response.inj hresponse
    exact tellsDeletion_of_refuses hrefuses hstatus

/-- Whatever the API is asked, and whatever else happens, a request for a policy that succeeds is
    a deletion. -/
theorem qos_unserved (core : AfCore Q) (hempty : core.policies.policies = ∅)
    (events : List ApiEvent) (hevents : ∀ event ∈ events, Unserved pcf a.lib event) :
    ∀ x ∈ events.zip (Service.answers a.serve core events),
      ∀ body correlationId delivery d response,
        x = (.http ⟨.qos, "POST", body⟩ correlationId delivery d, .response response) →
          response.status = 200 → a.TellsDeletion response := by
  have hdormant : core.policies.Dormant := by
    intro id policy hpolicy
    rw [PolicyManager.getPolicy, hempty] at hpolicy
    cases hpolicy
  clear hempty
  induction events generalizing core with
  | nil => simp
  | cons event events ih =>
    obtain ⟨hevent, hevents⟩ := List.forall_mem_cons.1 hevents
    rw [Service.answers, List.zip_cons_cons, List.forall_mem_cons]
    refine ⟨fun body correlationId delivery d response hx hstatus => ?_,
      ih _ hevents (dormant_serve hdormant hevent)⟩
    obtain ⟨rfl, hresponse⟩ := Prod.mk.inj hx
    exact tellsDeletion_serve hdormant (hevent d rfl) hresponse hstatus

/-! ## A policy that is asked for and deleted -/

/-- The text that tells of a policy that is deleted. -/
def deletionText : String := "\x7b\"policy_id\":\"policy-1\",\"state\":\"deleted\"\x7d"

/-- A library that knows the documents about the policy. -/
def policyLibrary : Json.Library where
  dump
    | .obj [("app_id", _)] => PolicyManager.gameRequest
    | .obj [("operation", _), _] => PolicyManager.gameDeletion
    | .obj [("policy_id", _), _] => deletionText
    | .obj [("error", .str error), (_, .str message)] =>
      "\x7b\"error\":\"" ++ error ++ "\",\"message\":\"" ++ message ++ "\"\x7d"
    | _ => "null"
  parse s :=
    if s = PolicyManager.gameRequest then .ok (.obj [("app_id", .str "game")])
    else if s = PolicyManager.gameDeletion then
      .ok (.obj [("operation", .str "delete"), ("policy_id", .str "policy-1")])
    else if s = deletionText then .ok (QosReply.success "policy-1" "deleted").body
    else .error "[json.exception.parse_error.101] parse error"
  what _ := ""

/-- A setting without QoD sessions. -/
def policySetting : ApiSetting Unit where
  lib := policyLibrary
  format _ := "1970-01-01T01:00:00Z"
  qod := ⟨handler, handler, handler, handler, handler⟩
  metadata := ∅
where
  handler m q := (q, ⟨"error", m.correlationId, "", ∅⟩)

/-- The answer of the PCF handler to the request for the policy. -/
def policyAnswer : AppSessionAnswer :=
  .ok (some ((PcfHandler.processMessage PolicyManager.idleHandlers
    ((AppSessionRequest.create "policy-1" .null).toRequest policyLibrary) ()).2.toAppSessionReply
      policyLibrary))

/-- A policy is asked for, and deleted. -/
def policyEvents : List ApiEvent :=
  [.http ⟨.qos, "POST", PolicyManager.gameRequest⟩ "api-0-0" .answered
      ⟨0, "sub-1", "policy-1", policyAnswer⟩,
    .http ⟨.qos, "POST", PolicyManager.gameDeletion⟩ "api-0-1" .answered
      ⟨0, "sub-2", "policy-2", .ok none⟩]

/-- The second request succeeds, and is answered as a deletion. -/
theorem qos_unserved_policy :
    (policyEvents.zip (Service.answers policySetting.serve (.create "pcf-handler:50052" [] ())
      policyEvents))[1]? = some (.http ⟨.qos, "POST", PolicyManager.gameDeletion⟩ "api-0-1"
        .answered ⟨0, "sub-2", "policy-2", .ok none⟩, .response ⟨200, some deletionText⟩) ∧
    policySetting.TellsDeletion ⟨200, some deletionText⟩ := by
  have hevents : ∀ event ∈ policyEvents,
      Unserved PolicyManager.idleHandlers policySetting.lib event := by
    simp only [policyEvents, List.forall_mem_cons]
    refine ⟨fun d hd => ?_, fun d hd => ?_, by simp⟩
    · obtain rfl := Option.some.inj hd
      exact .inr (.inr ⟨_, (), rfl⟩)
    · obtain rfl := Option.some.inj hd
      exact .inr (.inl rfl)
  refine ⟨rfl, ?_⟩
  exact qos_unserved (.create "pcf-handler:50052" [] ()) rfl policyEvents hevents _
    (List.mem_of_getElem? (i := 1) rfl) PolicyManager.gameDeletion "api-0-1" .answered _ _ rfl rfl

end ApiSetting

end PhineAf

import PhineAf.Core.Router
import PhineAf.Policy.Manager

/-!
# Messages to the PCF handler

`PcfHandler`: the communication service hands it eight types of messages, and all go to
its router (`process_message`). The router has the handlers of the QoD sessions only
(`register_qod_handlers`), which are arguments here with the state they work on.

So the requests of the policy manager, for application sessions, are not served
(`processMessage_appSessionRequest`).
-/

namespace PhineAf

/-! ## Messages of the policy manager -/

/-- The message of a request for an application session. -/
def AppSessionRequest.toRequest (lib : Json.Library) : AppSessionRequest → Request
  | .create policyId payload => ⟨"pcf_create_app_session", ⟨policyId, lib.dump payload, ∅⟩⟩
  | .delete policyId appSessionId =>
    ⟨"pcf_delete_app_session",
      ⟨policyId, lib.dump (.obj [("app_session_id", .str appSessionId)]), ∅⟩⟩

/-- What a message type says about a request for an application session. -/
def AppSessionReplyType.ofText (messageType : String) : AppSessionReplyType :=
  if messageType = "pcf_app_session_created" then .created
  else if messageType = "pcf_app_session_deleted" then .deleted
  else if messageType = "pcf_error" then .error
  else .other

/-- A reply as the policy manager reads it. -/
def Reply.toAppSessionReply (lib : Json.Library) (reply : Reply) : AppSessionReply where
  type := .ofText reply.messageType
  payload := lib.parse reply.payload

/-! ## The router -/

namespace PcfHandler

/-- The handlers of `QodPcfHandler`. -/
structure QodHandlers (S : Type) where
  handleQodCreatePcfSession : MessageHandler S
  handleQodUpdatePcfSession : MessageHandler S
  handleQodDeletePcfSession : MessageHandler S

variable {S : Type} (qod : QodHandlers S)

/-- The message types that `register_handlers` has the communication service hand over. -/
def messageTypes : List String :=
  ["pcf_create_app_session", "pcf_update_app_session", "pcf_delete_app_session",
    "pcf_get_app_session", "pcf_notification", "pcf_create_qod_session", "pcf_update_qod_session",
    "pcf_delete_qod_session"]

/-- The handlers of `register_qod_handlers`. -/
def qodHandlers : List (String × MessageHandler S) :=
  [("pcf_create_qod_session", qod.handleQodCreatePcfSession),
    ("pcf_update_qod_session", qod.handleQodUpdatePcfSession),
    ("pcf_delete_qod_session", qod.handleQodDeletePcfSession)]

/-- The router after `initialize`. -/
def requestRouter : RequestRouter S := RequestRouter.empty.registerHandlers (qodHandlers qod)

/-- `process_message`. -/
def processMessage (request : Request) (s : S) : S × Reply :=
  (requestRouter qod).routeMessage request s

/-- A request for an application session comes to the PCF handler, is not served, and
    changes nothing there. -/
theorem processMessage_appSessionRequest (lib : Json.Library) (request : AppSessionRequest)
    (s : S) : (request.toRequest lib).messageType ∈ messageTypes ∧
      processMessage qod (request.toRequest lib) s =
        (s, RequestRouter.defaultReply (request.toRequest lib)) := by
  cases request with
  | create policyId payload =>
    refine ⟨by simp [AppSessionRequest.toRequest, messageTypes], ?_⟩
    exact RequestRouter.routeMessage_of_notMem
      (by simp [AppSessionRequest.toRequest, qodHandlers]) s
  | delete policyId appSessionId =>
    refine ⟨by simp [AppSessionRequest.toRequest, messageTypes], ?_⟩
    exact RequestRouter.routeMessage_of_notMem
      (by simp [AppSessionRequest.toRequest, qodHandlers]) s

/-- How `send_request` to the PCF handler can end for an application session: in an exception,
    without a reply, or with the reply of the handler. -/
def Answers (lib : Json.Library) (answer : AppSessionAnswer) : Prop :=
  (∃ what, answer = .error what) ∨ answer = .ok none ∨ ∃ (request : AppSessionRequest) (s : S),
    answer = .ok (some ((processMessage qod (request.toRequest lib) s).2.toAppSessionReply lib))

/-- The type of its reply is one that the policy manager does not expect. -/
theorem Answers.cases {lib : Json.Library} {answer : AppSessionAnswer}
    (h : Answers qod lib answer) :
    (∃ what, answer = .error what) ∨ answer = .ok none ∨
      ∃ payload, answer = .ok (some ⟨.other, payload⟩) := by
  obtain hexception | hsilent | ⟨request, s, hreply⟩ := h
  · exact .inl hexception
  · exact .inr (.inl hsilent)
  · rw [(processMessage_appSessionRequest qod lib request s).2] at hreply
    exact .inr (.inr ⟨_, hreply⟩)

end PcfHandler

end PhineAf

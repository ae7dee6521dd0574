import PhineAf.Core.Router
import PhineAf.Policy.Manager

/-!
# Requests for policies

`PolicyManager::handle_qos_request`: a message creates, updates or deletes a policy, and its
reply tells the identifier and the state of the policy, or an error. The identifier that
is drawn for a new policy and the answer of the PCF handler are arguments.
-/

namespace PhineAf

/-- A policy state as a text. -/
def PolicyState.text : PolicyState → String
  | active => "active"
  | inactive => "inactive"
  | error => "error"

/-- A reply to a request for a policy. -/
inductive QosReply
  /-- `qos_success`: the policy and its state. -/
  | success (policyId state : String)
  /-- `qos_error`. -/
  | error (error message : String)
  deriving DecidableEq, Repr

namespace QosReply

/-- The message type of a reply. -/
def messageType : QosReply → String
  | success .. => "qos_success"
  | error .. => "qos_error"

/-- The payload of a reply. -/
def body : QosReply → Json
  | success policyId state => .obj [("policy_id", .str policyId), ("state", .str state)]
  | error e message => .obj [("error", .str e), ("message", .str message)]

/-- The reply to a message. -/
def toReply (lib : Json.Library) (m : Message) (reply : QosReply) : Reply where
  messageType := reply.messageType
  correlationId := m.correlationId
  payload := lib.dump reply.body

end QosReply

namespace PolicyManager

variable (lib : Json.Library)

/-- What a request asks for. -/
inductive Operation
  | create
  | update (policyId : String)
  | delete (policyId : String)

/-- The policy a request for an update or a deletion names. -/
def policyIdOf (data : Json) (operation : String) : Except String String := do
  let some policyId ← (data.optional "policy_id" Json.getStr).mapError lib.what
    | throw ("Missing policy_id for " ++ operation ++ " operation")
  return policyId

/-- The operation a request asks for, or what the exception says. -/
def operationOf (data : Json) : Except String Operation := do
  let operation := ((← (data.optional "operation" Json.getStr).mapError lib.what).getD "create")
  if operation = "create" then return .create
  else if operation = "update" then return .update (← policyIdOf lib data operation)
  else if operation = "delete" then return .delete (← policyIdOf lib data operation)
  else throw ("Unknown operation: " ++ operation)

/-- The payload of a request and its operation, or what the exception says. -/
def readQosRequest (payload : String) : Except String (Json × Operation) := do
  let data ← lib.parse payload
  return (data, ← operationOf lib data)

/-- `handle_qos_request`. -/
def handleQosRequest (drawn : String) (answer : AppSessionAnswer) (payload : String)
    (m : PolicyManager) : PolicyManager × QosReply :=
  match readQosRequest lib payload with
  | .error what => (m, .error "bad_request" what)
  | .ok (data, .create) =>
    match m.createPolicy lib drawn data answer with
    | (.ok policy, m) => (m, .success policy.id policy.state.text)
    | (.error what, m) => (m, .error "bad_request" what)
  | .ok (data, .update policyId) =>
    match m.updatePolicy lib policyId data answer with
    | (true, m) =>
      (m, .success policyId ((m.getPolicy policyId).elim "unknown" (·.state.text)))
    | (false, m) => (m, .error "update_failed" "Failed to update policy")
  | .ok (_, .delete policyId) =>
    match m.deletePolicy policyId answer with
    | (true, m) => (m, .success policyId "deleted")
    | (false, m) => (m, .error "delete_failed" "Failed to delete policy")

end PolicyManager

end PhineAf

import PhineAf.Common

/-!
# The policy manager

`PolicyManager`: the QoS policies of the AF. A policy is put into force by an
application session that the PCF handler creates for it, and taken out of force by the
deletion of that session.

The id drawn for a policy and the answer of the PCF handler are arguments of the
operations. Every call of the PCF handler is logged with its answer, so that the log
tells which application sessions there are (`AppSessionCall`).
-/

namespace PhineAf

/-! ## Policies -/

inductive PolicyState
  | active
  | inactive
  | error
  deriving DecidableEq, Repr

/-- A policy. The defaults are those of `create_policy`. -/
structure QoSPolicy where
  id : String
  appId : String := ""
  ueIpv4 : String := ""
  ueIpv6 : String := ""
  /-- `uplink`, `downlink` or `bidirectional` once it is validated. -/
  flowDirection : String := "bidirectional"
  /-- The 5QI. -/
  qosReference : ℤ := 9
  guaranteedBandwidth : ℤ := 0
  maximumBandwidth : ℤ := 0
  additionalParams : Table String String := ∅
  state : PolicyState := .inactive
  errorReason : String := ""
  pcfTransactionId : String := ""

namespace QoSPolicy

variable (lib : Json.Library)

/-- The additional parameters of a document are added; a value that is no text is
    dumped. -/
def addParams (fields : List (String × Json)) (params : Table String String) :
    Table String String :=
  fields.foldl (fun params f => params.insert f.1 (match f.2 with
    | .str s => s
    | v => lib.dump v)) params

/-- The members of a policy document, in the order they are read, and what each writes. -/
def members : List (String × (Json → Except Json.Error (QoSPolicy → QoSPolicy))) :=
  [("app_id", fun v => v.getStr.map fun s policy => { policy with appId := s }),
    ("ue_ipv4", fun v => v.getStr.map fun s policy => { policy with ueIpv4 := s }),
    ("ue_ipv6", fun v => v.getStr.map fun s policy => { policy with ueIpv6 := s }),
    ("flow_direction", fun v => v.getStr.map fun s policy => { policy with flowDirection := s }),
    ("qos_reference", fun v => v.getInt32.map fun n policy => { policy with qosReference := n }),
    ("guaranteed_bandwidth",
      fun v => v.getInt32.map fun n policy => { policy with guaranteedBandwidth := n }),
    ("maximum_bandwidth",
      fun v => v.getInt32.map fun n policy => { policy with maximumBandwidth := n }),
    ("additional_params", fun v => match v with
      | .obj fields => .ok fun policy =>
        { policy with additionalParams := addParams lib fields policy.additionalParams }
      | _ => .ok fun policy => policy)]

/-- The members that a document has are written to a policy, one after the other. An
    exception ends this, and what was written before stays. -/
def readMembers (data : Json) :
    List (String × (Json → Except Json.Error (QoSPolicy → QoSPolicy))) → QoSPolicy →
      Option Json.Error × QoSPolicy
  | [], policy => (none, policy)
  | (key, read) :: members, policy =>
    match data.find? key with
    | none => readMembers data members policy
    | some v =>
      match read v with
      | .error e => (some e, policy)
      | .ok write => readMembers data members (write policy)

/-- The fields of a policy document, in `create_policy` and `update_policy`. -/
def readData (data : Json) (policy : QoSPolicy) : Option Json.Error × QoSPolicy :=
  readMembers data (members lib) policy

/-- `validate_policy`. -/
def validatePolicy (policy : QoSPolicy) : Bool :=
  !(policy.appId.isEmpty && policy.ueIpv4.isEmpty && policy.ueIpv6.isEmpty) &&
    policy.flowDirection ∈ ["uplink", "downlink", "bidirectional"] &&
    1 ≤ policy.qosReference && policy.qosReference ≤ 79 &&
    0 ≤ policy.guaranteedBandwidth && 0 ≤ policy.maximumBandwidth &&
    !(0 < policy.maximumBandwidth && policy.maximumBandwidth < policy.guaranteedBandwidth)

/-! ## The request to the PCF handler -/

/-- The flow of a policy is in this direction, or in both. -/
def flows (policy : QoSPolicy) (direction : String) : Bool :=
  policy.flowDirection == direction || policy.flowDirection == "bidirectional"

/-- A number that is positive, and set for a direction. -/
def rate (policy : QoSPolicy) (direction : String) (n : ℤ) : Option Json :=
  if 0 < n ∧ policy.flows direction then some (.int n) else none

/-- The `qos_info` of the request. -/
def qosInfo (policy : QoSPolicy) : Json :=
  .ofFields [("max_bw_ul", policy.rate "uplink" policy.maximumBandwidth),
    ("max_bw_dl", policy.rate "downlink" policy.maximumBandwidth),
    ("min_bw_ul", policy.rate "uplink" policy.guaranteedBandwidth),
    ("min_bw_dl", policy.rate "downlink" policy.guaranteedBandwidth),
    ("5qi", some (.int policy.qosReference))]

/-- The flow descriptions: a text that is no JSON stands for itself. -/
def flowDescriptions (text : String) : Json :=
  match lib.parse text with
  | .ok json => json
  | .error _ => .arr [.str text]

/-- The one media component of the request. -/
def mediaComponent (policy : QoSPolicy) : Json :=
  .ofFields [("media_component_id", some (.str "1")), ("media_type", some (.str "APPLICATION")),
    ("qos_info", some policy.qosInfo),
    ("flows", (policy.additionalParams.lookup "flow_descriptions").map fun text =>
      .arr [.obj [("flow_id", .str "1"), ("flow_descriptions", flowDescriptions lib text)]])]

/-- The additional parameters of the request, if there are any. -/
def requestParams (policy : QoSPolicy) : Option Json :=
  match policy.additionalParams.entries.filter (·.1 != "flow_descriptions") with
  | [] => none
  | params => some (.obj (params.map fun p => (p.1, .str p.2)))

/-- A text that is given only if it is not empty. -/
def ifGiven (s : String) : Option Json := if s.isEmpty then none else some (.str s)

/-- The request of `apply_policy`. -/
def appSessionRequest (policy : QoSPolicy) : Json :=
  .ofFields [("af_app_id", some (.str (if policy.appId.isEmpty then "default_app"
      else policy.appId))),
    ("operation", some (.str "create")),
    ("ue_ipv4", ifGiven policy.ueIpv4),
    ("ue_ipv6", ifGiven policy.ueIpv6),
    ("media_components", some (.arr [policy.mediaComponent lib])),
    ("subscription_info", some (.obj [
      ("notification_uri", .str "http://phine.af-core:50051/notifications"),
      ("events", .arr [.obj [("event", .str "QOS_NOTIF"),
        ("notification_method", .str "EVENT_DETECTION")]])])),
    ("additional_params", policy.requestParams)]

end QoSPolicy

/-! ## The PCF handler -/

/-- A request to the PCF handler, with the id of the policy as its correlation id. -/
inductive AppSessionRequest
  /-- `pcf_create_app_session`. -/
  | create (policyId : String) (payload : Json)
  /-- `pcf_delete_app_session`. -/
  | delete (policyId appSessionId : String)

inductive AppSessionReplyType
  /-- `pcf_app_session_created`. -/
  | created
  /-- `pcf_app_session_deleted`. -/
  | deleted
  /-- `pcf_error`. -/
  | error
  /-- Any other. -/
  | other
  deriving DecidableEq, Repr

/-- A reply of the PCF handler, with its payload as it is parsed. -/
structure AppSessionReply where
  type : AppSessionReplyType
  payload : Except String Json

/-- How `send_request` ends: in an exception, or with a reply or without one. -/
abbrev AppSessionAnswer := Except String (Option AppSessionReply)

/-- A call of the PCF handler. -/
structure AppSessionCall where
  request : AppSessionRequest
  answer : AppSessionAnswer

/-! ## The manager -/

structure PolicyManager where
  /-- The orchestrator is set. -/
  orchestrator : Bool
  /-- The orchestrator has a communication service for the PCF handler. -/
  pcfService : Bool
  pcfDestination : String
  policies : Table String QoSPolicy
  /-- The calls of the PCF handler, latest first. -/
  calls : List AppSessionCall

namespace PolicyManager

variable (lib : Json.Library)

/-- A new manager. -/
def create (orchestrator pcfService : Bool) (pcfDestination : String) : PolicyManager where
  orchestrator := orchestrator
  pcfService := pcfService
  pcfDestination := pcfDestination
  policies := ∅
  calls := []

variable (m : PolicyManager)

/-- The PCF handler can be called. -/
def pcfReady : Bool := m.orchestrator && m.pcfService && !m.pcfDestination.isEmpty

/-- The PCF handler is called. -/
def call (request : AppSessionRequest) (answer : AppSessionAnswer) : PolicyManager :=
  { m with calls := ⟨request, answer⟩ :: m.calls }

/-- The text under a key of a payload, if it is there. -/
def textUnder (payload : Except String Json) (key : String) : Except String (Option String) := do
  ((← payload).optional key Json.getStr).mapError lib.what

/-- The policy could not be applied. -/
def failPolicy (policy : QoSPolicy) (reason : String) : Bool × QoSPolicy :=
  (false, { policy with state := .error, errorReason := reason })

/-- What `apply_policy` makes of the answer, and its result. -/
def applyAnswer (policy : QoSPolicy) (answer : AppSessionAnswer) : Bool × QoSPolicy :=
  match answer with
  | .error what => failPolicy policy ("Exception: " ++ what)
  | .ok none => failPolicy policy "No response from PCF Handler"
  | .ok (some ⟨.created, payload⟩) =>
    match textUnder lib payload "app_session_id" with
    | .error what => failPolicy policy ("Exception: " ++ what)
    | .ok appSessionId => (true, { policy with
        pcfTransactionId := appSessionId.getD policy.pcfTransactionId
        state := .active })
  | .ok (some ⟨.error, payload⟩) =>
    match textUnder lib payload "message" with
    | .error what => failPolicy policy ("Exception: " ++ what)
    | .ok message => failPolicy policy ("PCF error: " ++ message.getD "Unknown error")
  | .ok (some _) => failPolicy policy "Unexpected response from PCF Handler"

/-- `apply_policy`: its result, the policy as it leaves it, and the manager. -/
def applyPolicy (policy : QoSPolicy) (answer : AppSessionAnswer) :
    (Bool × QoSPolicy) × PolicyManager :=
  if m.pcfReady then
    (applyAnswer lib policy answer, m.call (.create policy.id (policy.appSessionRequest lib)) answer)
  else ((false, policy), m)

/-- A policy is stored under an id. -/
def store (policyId : String) (policy : QoSPolicy) : PolicyManager :=
  { m with policies := m.policies.insert policyId policy }

/-- `create_policy`: the policy, or what the exception says. -/
def createPolicy (policyId : String) (data : Json) (answer : AppSessionAnswer) :
    Except String QoSPolicy × PolicyManager :=
  match QoSPolicy.readData lib data { id := policyId } with
  | (some e, _) => (.error ("Invalid policy data: " ++ lib.what e), m)
  | (none, policy) =>
    if !policy.validatePolicy then (.error "Invalid policy configuration", m)
    else match m.applyPolicy lib { policy with state := .inactive } answer with
      | ((true, policy), m) => (.ok policy, m.store policy.id policy)
      | ((false, policy), m) =>
        -- A policy that could not be applied is kept for reporting.
        let policy := { policy with
          state := .error
          errorReason := "Failed to apply policy to network" }
        (.error "Failed to apply policy to network", m.store policy.id policy)

/-- `update_policy`: it writes to the stored policy, and puts the old one back if the
    new one is invalid or cannot be applied. -/
def updatePolicy (policyId : String) (data : Json) (answer : AppSessionAnswer) :
    Bool × PolicyManager :=
  match m.policies.lookup policyId with
  | none => (false, m)
  | some old =>
    match QoSPolicy.readData lib data old with
    | (some _, policy) => (false, m.store policyId policy)
    | (none, policy) =>
      if !policy.validatePolicy then (false, m.store policyId old)
      else match m.applyPolicy lib policy answer with
        | ((true, policy), m) => (true, m.store policyId policy)
        | ((false, _), m) => (false, m.store policyId old)

/-- `remove_policy`. -/
def removePolicy (policy : QoSPolicy) (answer : AppSessionAnswer) : Bool × PolicyManager :=
  if policy.pcfTransactionId.isEmpty then (true, m)
  else if m.pcfReady then
    let m := m.call (.delete policy.id policy.pcfTransactionId) answer
    match answer with
    | .ok (some ⟨.deleted, _⟩) => (true, m)
    | _ => (false, m)
  else (false, m)

/-- `delete_policy`. -/
def deletePolicy (policyId : String) (answer : AppSessionAnswer) : Bool × PolicyManager :=
  match m.policies.lookup policyId with
  | none => (false, m)
  | some policy =>
    match m.removePolicy policy answer with
    | (true, m) => (true, { m with policies := m.policies.erase policyId })
    | (false, m) => (false, m)

/-- `get_policy`. -/
def getPolicy (policyId : String) : Option QoSPolicy := m.policies.lookup policyId

end PolicyManager

end PhineAf

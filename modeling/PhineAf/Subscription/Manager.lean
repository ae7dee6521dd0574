import PhineAf.Common

/-!
# The subscription manager

`SubscriptionManager`: messages create, list, show and delete subscriptions to events,
and an event is sent to the subscriptions it matches.

A filter is kept as texts: a member of the request that is a text is kept as it is, any
other is kept as the library writes it. An event is compared with what is kept as the
library writes it, texts included.

The payload of a message is the text of a JSON value. That of a reply is given as the
value it is written from. The identifier a subscription is created with, the time of an
operation and the text of a time point are arguments.
-/

namespace PhineAf

/-- A message of the communication library, as far as the manager reads it. -/
structure Message where
  correlationId : String
  payload : String
  metadata : Table String String

structure Subscription where
  id : String
  clientId : String
  eventType : String
  notificationUrl : String
  filterCriteria : Table String String
  expiryTime : ℤ
  active : Bool
  callbackService : String
  deriving DecidableEq

/-- What a reply says it is. -/
inductive ReplyType
  | created
  | list
  | details
  | deleted
  | notFound
  | unauthorized
  | error
  deriving DecidableEq, Repr

/-- The message type of a reply. -/
def ReplyType.text : ReplyType → String
  | created => "subscription_created"
  | list => "subscriptions_list"
  | details => "subscription"
  | deleted => "subscription_deleted"
  | notFound => "subscription_not_found"
  | unauthorized => "subscription_unauthorized"
  | error => "subscription_error"

structure SubscriptionReply where
  messageType : ReplyType
  correlationId : String
  body : Json

/-- What is done for a subscription an event matches: a message to a service, or a line
    of the log in the place of a request to an URL. -/
inductive EventNotification
  | message (service eventType subscriptionId : String) (data : Json)
  | external (url : String)

/-- The manager: its subscriptions, and the communication services of the orchestrator. -/
structure SubscriptionManager where
  subscriptions : Table String Subscription
  services : List String

namespace SubscriptionManager

variable (lib : Json.Library) (format : ℤ → String)

/-! ## Replies -/

/-- A text, unless it is empty. -/
def nonempty (s : String) : Option Json := if s.isEmpty then none else some (.str s)

/-- A subscription as JSON, with the members that not every reply has. -/
def describe (active filter : Bool) (s : Subscription) : Json :=
  .ofFields [
    ("id", some (.str s.id)),
    ("event_type", some (.str s.eventType)),
    ("client_id", some (.str s.clientId)),
    ("active", if active then some (.bool s.active) else none),
    ("notification_url", nonempty s.notificationUrl),
    ("callback_service", nonempty s.callbackService),
    ("filter_criteria",
      if filter && !s.filterCriteria.entries.isEmpty then
        some (.obj (s.filterCriteria.entries.map fun e => (e.1, .str e.2)))
      else none),
    ("expiry_time", some (.str (format s.expiryTime)))]

/-- The body of a reply that tells of an error. -/
def errorBody (error message : String) : Json :=
  .obj [("error", .str error), ("message", .str message)]

/-- The reply to a message whose handling threw an exception. -/
def badRequest (m : Message) (what : String) : SubscriptionReply :=
  ⟨.error, m.correlationId, errorBody "bad_request" what⟩

/-! ## Creation -/

/-- The text a member of a filter is kept as. -/
def encode : Json → String
  | .str s => s
  | v => lib.dump v

/-- The filter kept for the members of an object. -/
def filterOf (fields : List (String × Json)) : Table String String :=
  fields.foldr (fun f t => t.insert f.1 (encode lib f.2)) ∅

/-- A member of a request, if there is one: an accessor's exception is its text. -/
def member {α : Type} (request : Json) (key : String) (read : Json → Except Json.Error α) :
    Except String (Option α) :=
  (request.optional key read).mapError lib.what

/-- `validate_subscription`. -/
def validateSubscription (s : Subscription) : Bool :=
  !s.eventType.isEmpty && !(s.notificationUrl.isEmpty && s.callbackService.isEmpty)

/-- The subscription a request asks for, or what the exception says. -/
def subscriptionOf (id : String) (now : ℤ) (m : Message) (request : Json) :
    Except String Subscription := do
  let clientId ← member lib request "client_id" Json.getStr
  let some eventType ← member lib request "event_type" Json.getStr
    | throw "Missing required field: event_type"
  let notificationUrl ← member lib request "notification_url" Json.getStr
  let callbackService ← member lib request "callback_service" Json.getStr
  if (notificationUrl.getD "").isEmpty && (callbackService.getD "").isEmpty then
    throw "Either notification_url or callback_service must be specified"
  let expirySeconds ← member lib request "expiry_seconds" Json.getInt32
  let s : Subscription :=
    { id
      clientId := clientId.getD ((m.metadata.lookup "source_service").getD "unknown")
      eventType
      notificationUrl := notificationUrl.getD ""
      filterCriteria := filterOf lib ((request.find? "filter_criteria").elim [] Json.members)
      expiryTime := after now (expirySeconds.getD 3600)
      active := true
      callbackService := callbackService.getD "" }
  if !validateSubscription s then throw "Invalid subscription configuration"
  return s

/-- `create_subscription`. -/
def createSubscription (id : String) (now : ℤ) (m : Message) (μ : SubscriptionManager) :
    SubscriptionManager × SubscriptionReply :=
  match lib.parse m.payload >>= subscriptionOf lib id now m with
  | .error what => (μ, badRequest m what)
  | .ok s =>
    ({ μ with subscriptions := μ.subscriptions.insert s.id s },
      ⟨.created, m.correlationId, describe format false true s⟩)

/-! ## Listing -/

/-- The client identifier of a payload, if it can be read. -/
def payloadClient (m : Message) : Option String :=
  if m.payload.isEmpty then none
  else
    match lib.parse m.payload with
    | .error _ => none
    | .ok request => ((request.optional "client_id" Json.getStr).toOption).join

/-- The client whose subscriptions are listed: none if the text is empty. -/
def listingClient (m : Message) : String :=
  let given := (payloadClient lib m).getD ""
  if given.isEmpty then (m.metadata.lookup "source_service").getD given else given

/-- `get_all_subscriptions`. -/
def getAllSubscriptions (m : Message) (μ : SubscriptionManager) : SubscriptionReply :=
  let clientId := listingClient lib m
  let listed := μ.subscriptions.values.filter fun s => clientId.isEmpty || s.clientId == clientId
  ⟨.list, m.correlationId, .arr (listed.map (describe format true false))⟩

/-! ## One subscription -/

/-- The client a request is made for: none if the text is empty. -/
def requestClient (m : Message) (request : Json) : Except String String := do
  let clientId ← member lib request "client_id" Json.getStr
  return clientId.getD ((m.metadata.lookup "source_service").getD "")

/-- The identifier a request names and the client it is made for. -/
def target (m : Message) : Except String (String × String) := do
  let request ← lib.parse m.payload
  let some id ← member lib request "id" Json.getStr | throw "Missing required field: id"
  return (id, ← requestClient lib m request)

/-- The subscription a message names, with its key, if the client may `verb` it; else the
    reply. -/
def find (verb : String) (m : Message) (μ : SubscriptionManager) :
    Except SubscriptionReply (String × Subscription) :=
  match target lib m with
  | .error what => .error (badRequest m what)
  | .ok (id, clientId) =>
    match μ.subscriptions.lookup id with
    | none => .error ⟨.notFound, m.correlationId,
        errorBody "not_found" ("Subscription not found: " ++ id)⟩
    | some s =>
      if !clientId.isEmpty && s.clientId != clientId then
        .error ⟨.unauthorized, m.correlationId,
          errorBody "unauthorized" ("Not authorized to " ++ verb ++ " this subscription")⟩
      else .ok (id, s)

/-- `get_subscription`. -/
def getSubscription (m : Message) (μ : SubscriptionManager) : SubscriptionReply :=
  match find lib "access" m μ with
  | .error reply => reply
  | .ok (_, s) => ⟨.details, m.correlationId, describe format true true s⟩

/-- `delete_subscription`. -/
def deleteSubscription (m : Message) (μ : SubscriptionManager) :
    SubscriptionManager × SubscriptionReply :=
  match find lib "delete" m μ with
  | .error reply => (μ, reply)
  | .ok (id, _) =>
    ({ μ with subscriptions := μ.subscriptions.erase id },
      ⟨.deleted, m.correlationId, .obj [("id", .str id), ("status", .str "deleted")]⟩)

/-! ## Events -/

/-- Every entry of a filter is the text of the member of the event under its key. -/
def matchesFilter (filter : Table String String) (data : Json) : Bool :=
  filter.entries.all fun e => (data.find? e.1).any fun v => lib.dump v == e.2

/-- An event of a type selects a subscription that is active and has not expired. -/
def selects (now : ℤ) (eventType : String) (data : Json) (s : Subscription) : Bool :=
  s.active && s.eventType == eventType && !(s.expiryTime < now : Bool) &&
    matchesFilter lib s.filterCriteria data

/-- The subscriptions an event selects. -/
def matchingSubscriptions (now : ℤ) (eventType : String) (data : Json)
    (μ : SubscriptionManager) : List Subscription :=
  μ.subscriptions.values.filter (selects lib now eventType data)

/-- `send_notification`: what is sent, unless the service is not there. -/
def sendNotification (data : Json) (μ : SubscriptionManager) (s : Subscription) :
    Option EventNotification :=
  if !s.callbackService.isEmpty then
    if s.callbackService ∈ μ.services then
      some (.message s.callbackService s.eventType s.id data)
    else none
  else if !s.notificationUrl.isEmpty then some (.external s.notificationUrl)
  else none

/-- `notify_event`: what is sent, and how much of it. -/
def notifyEvent (now : ℤ) (eventType : String) (data : Json) (μ : SubscriptionManager) :
    List EventNotification × ℕ :=
  let sent := (matchingSubscriptions lib now eventType data μ).filterMap (sendNotification data μ)
  (sent, sent.length)

/-- `cleanup_expired_subscriptions`: the expired subscriptions are removed and counted. -/
def cleanupExpiredSubscriptions (now : ℤ) (μ : SubscriptionManager) : SubscriptionManager × ℕ :=
  let expired := μ.subscriptions.keys.filter fun id =>
    (μ.subscriptions.lookup id).any fun s => s.expiryTime < now
  ({ μ with subscriptions := expired.foldl (fun t id => t.erase id) μ.subscriptions },
    expired.length)

end SubscriptionManager

end PhineAf

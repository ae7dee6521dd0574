import PhineAf.Core.Router

/-!
# The northbound API

`ApiAdapter` and `ApiHandlers`: requests over HTTP become messages to AF core, and its replies
become responses. A request is answered at once (`setupRoutes`), or there is an exchange with
AF core (`CoreExchange`), which may end without a reply.

The routes are told apart by the HTTP library. The routes for the health and the version of
the adapter, which only read a clock and the build, are left out. The correlation identifier
that is made for a message, of the time and a counter, is an argument.

The body of a request is taken as it was sent. (`readRequestBody` collects it in a local variable
which its callback refers to after `readRequestBody` has returned, so what the code reads there is
undefined.)
-/

namespace PhineAf

structure ApiResponse where
  status : ℕ
  /-- The body, whose type is JSON, if there is one. -/
  body : Option String
  deriving DecidableEq, Repr

/-- The patterns of `setupRoutes`. -/
inductive ApiRoute
  /-- `/qos` -/
  | qos
  /-- `/subscriptions` -/
  | subscriptions
  /-- `/subscriptions/`, and what the path goes on with. -/
  | subscription (id : String)
  /-- Any other path. -/
  | other
  deriving DecidableEq, Repr

structure ApiRequest where
  route : ApiRoute
  method : String
  body : String

/-- How `send_request` ends: with an exception, without a reply, or with one. -/
abbrev CoreAnswer := Except String (Option Reply)

/-- A message to AF core, and the response to what it comes to. -/
structure CoreExchange where
  request : Request
  respond : CoreAnswer → ApiResponse

namespace ApiHandlers

variable (lib : Json.Library)

/-! ## Responses -/

def jsonResponse (status : ℕ) (body : Json) : ApiResponse := ⟨status, some (lib.dump body)⟩

/-- A response that tells of an error. -/
def errorResponse (status : ℕ) (error message : String) : ApiResponse :=
  jsonResponse lib status (.obj [("error", .str error), ("message", .str message)])

/-- The response to a reply of another type than those that are expected. -/
def unexpectedResponse : ApiResponse :=
  errorResponse lib 500 "unexpected_response" "Received unexpected response from core service"

/-- The payload of a reply is sent on. -/
def forward (status : ℕ) (reply : Reply) : Except String ApiResponse := do
  return jsonResponse lib status (← lib.parse reply.payload)

def notFound (_ : Reply) : Except String ApiResponse :=
  .ok (errorResponse lib 404 "not_found" "Subscription not found")

/-- The response to what an exchange comes to: by the type of the reply, or `otherwise`, or
    `caught` for an exception. -/
def respond (expected : List (String × (Reply → Except String ApiResponse)))
    (otherwise : ApiResponse) (caught : String → ApiResponse) (answer : CoreAnswer) :
    ApiResponse :=
  let response : Except String ApiResponse := do
    let some reply ← answer | return otherwise
    match expected.lookup reply.messageType with
    | some respond => respond reply
    | none => return otherwise
  match response with
  | .ok response => response
  | .error what => caught what

variable {expected : List (String × (Reply → Except String ApiResponse))}
  {otherwise : ApiResponse} {caught : String → ApiResponse} {reply : Reply}

/-- The response to a reply that is expected. -/
theorem respond_of_lookup {make : Reply → Except String ApiResponse}
    (h : expected.lookup reply.messageType = some make) :
    respond expected otherwise caught (.ok (some reply)) =
      match make reply with
      | .ok response => response
      | .error what => caught what := by
  change (match (match expected.lookup reply.messageType with
      | some respond => respond reply
      | none => .ok otherwise) with
    | .ok response => response
    | .error what => caught what) = _
  rw [h]

/-- The response to a reply that is not expected. -/
theorem respond_of_lookup_eq_none (h : expected.lookup reply.messageType = none) :
    respond expected otherwise caught (.ok (some reply)) = otherwise := by
  change (match (match expected.lookup reply.messageType with
      | some respond => respond reply
      | none => .ok otherwise) with
    | .ok response => response
    | .error what => caught what) = _
  rw [h]

/-- A subscription is not found, where something else is expected first. -/
theorem respond_of_notFound {messageType : String} {make : Reply → Except String ApiResponse}
    (h : reply.messageType = "subscription_not_found")
    (hne : messageType ≠ "subscription_not_found") :
    respond [(messageType, make), ("subscription_not_found", notFound lib)] otherwise caught
        (.ok (some reply)) = errorResponse lib 404 "not_found" "Subscription not found" := by
  have hlookup : [(messageType, make), ("subscription_not_found", notFound lib)].lookup
      reply.messageType = some (notFound lib) := by
    rw [h, List.lookup_cons, beq_eq_false_iff_ne.2 hne.symm]
    rfl
  exact respond_of_lookup hlookup

/-- The payload of a reply that is expected is sent on. -/
theorem respond_of_forward {status : ℕ} {body : Json}
    (h : expected.lookup reply.messageType = some (forward lib status))
    (hpayload : reply.payload = lib.dump body) (hbody : lib.Lossless body) :
    respond expected otherwise caught (.ok (some reply)) = jsonResponse lib status body := by
  rw [respond_of_lookup h, forward, hpayload, hbody]
  rfl

/-- `createMessage`. -/
def createMessage (messageType content correlationId : String) : Request :=
  ⟨messageType, ⟨correlationId, content, ∅⟩⟩

/-! ## Requests with a body -/

/-- The body of a request is sent on to AF core, if it can be read. -/
def exchangeBody (messageType : String)
    (expected : List (String × (Reply → Except String ApiResponse)))
    (body correlationId : String) : Except ApiResponse CoreExchange :=
  match lib.parse body with
  | .error what => .error (errorResponse lib 400 "bad_request" what)
  | .ok j => .ok ⟨createMessage messageType (lib.dump j) correlationId,
      respond expected (unexpectedResponse lib) (errorResponse lib 400 "bad_request")⟩

/-- `requestQoS`. -/
def requestQoS (body correlationId : String) : Except ApiResponse CoreExchange :=
  exchangeBody lib "qos_request"
    [("qos_success", forward lib 200), ("qos_error", forward lib 400)] body correlationId

/-- `createSubscription`. -/
def createSubscription (body correlationId : String) : Except ApiResponse CoreExchange :=
  exchangeBody lib "create_subscription"
    [("subscription_created", forward lib 201), ("subscription_error", forward lib 400)]
    body correlationId

/-! ## Requests without a body -/

/-- `getSubscriptions`. -/
def getSubscriptions (correlationId : String) : CoreExchange :=
  ⟨createMessage "get_subscriptions" "" correlationId,
    respond [("subscriptions_list", forward lib 200)]
      (errorResponse lib 500 "internal_error" "Failed to retrieve subscriptions")
      (errorResponse lib 500 "internal_error")⟩

/-- The content of a message that names a subscription. -/
def idContent (id : String) : Json := .obj [("id", .str id)]

/-- `getSubscription`. -/
def getSubscription (id correlationId : String) : CoreExchange :=
  ⟨createMessage "get_subscription" (lib.dump (idContent id)) correlationId,
    respond [("subscription", forward lib 200), ("subscription_not_found", notFound lib)]
      (unexpectedResponse lib) (errorResponse lib 500 "internal_error")⟩

/-- `deleteSubscription`. -/
def deleteSubscription (id correlationId : String) : CoreExchange :=
  ⟨createMessage "delete_subscription" (lib.dump (idContent id)) correlationId,
    respond [("subscription_deleted", fun _ => .ok ⟨204, none⟩),
        ("subscription_not_found", notFound lib)]
      (unexpectedResponse lib) (errorResponse lib 500 "internal_error")⟩

section Responses

variable {id correlationId : String}

theorem getSubscription_notFound (h : reply.messageType = "subscription_not_found") :
    (getSubscription lib id correlationId).respond (.ok (some reply)) =
      errorResponse lib 404 "not_found" "Subscription not found" :=
  respond_of_notFound lib h (by decide)

theorem getSubscription_unauthorized (h : reply.messageType = "subscription_unauthorized") :
    (getSubscription lib id correlationId).respond (.ok (some reply)) = unexpectedResponse lib :=
  respond_of_lookup_eq_none (by rw [h]; rfl)

theorem deleteSubscription_deleted (id correlationId : String)
    (h : reply.messageType = "subscription_deleted") :
    (deleteSubscription lib id correlationId).respond (.ok (some reply)) = ⟨204, none⟩ := by
  have hlookup : [("subscription_deleted", fun _ => .ok ⟨204, none⟩),
      ("subscription_not_found", notFound lib)].lookup reply.messageType =
        some fun _ => .ok ⟨204, none⟩ := by
    rw [h]
    rfl
  exact respond_of_lookup hlookup

theorem deleteSubscription_notFound (h : reply.messageType = "subscription_not_found") :
    (deleteSubscription lib id correlationId).respond (.ok (some reply)) =
      errorResponse lib 404 "not_found" "Subscription not found" :=
  respond_of_notFound lib h (by decide)

theorem deleteSubscription_unauthorized (h : reply.messageType = "subscription_unauthorized") :
    (deleteSubscription lib id correlationId).respond (.ok (some reply)) =
      unexpectedResponse lib :=
  respond_of_lookup_eq_none (by rw [h]; rfl)

/-- The response to a body that AF core does not accept. -/
theorem status_of_subscription_error (h : reply.messageType = "subscription_error") :
    (respond [("subscription_created", forward lib 201), ("subscription_error", forward lib 400)]
      otherwise (errorResponse lib 400 "bad_request") (.ok (some reply))).status = 400 := by
  have hlookup : [("subscription_created", forward lib 201),
      ("subscription_error", forward lib 400)].lookup reply.messageType =
        some (forward lib 400) := by
    rw [h]
    rfl
  rw [respond_of_lookup hlookup, forward]
  rcases lib.parse reply.payload with what | j <;> rfl

end Responses

end ApiHandlers

namespace ApiAdapter

open ApiHandlers

variable (lib : Json.Library)

/-- The response to a method that a route does not have. -/
def methodNotAllowed : ApiResponse :=
  ⟨405, some "\x7b\"error\":\"method_not_allowed\",\"message\":\"Method not allowed\"\x7d"⟩

def missingId : ApiResponse :=
  ⟨400, some "\x7b\"error\":\"bad_request\",\"message\":\"Missing subscription ID\"\x7d"⟩

def unknownPath : ApiResponse where
  status := 404
  body := some ("\x7b\"error\":\"not_found\",\"message\":" ++
    "\"The requested resource or endpoint was not found on this server.\"\x7d")

/-- `setupRoutes`. -/
def setupRoutes (correlationId : String) (r : ApiRequest) : Except ApiResponse CoreExchange :=
  match r.route with
  | .qos =>
    if r.method = "POST" then requestQoS lib r.body correlationId
    else .error methodNotAllowed
  | .subscriptions =>
    if r.method = "GET" then .ok (getSubscriptions lib correlationId)
    else if r.method = "POST" then createSubscription lib r.body correlationId
    else .error methodNotAllowed
  | .subscription id =>
    if id.isEmpty then .error missingId
    else if r.method = "GET" then .ok (getSubscription lib id correlationId)
    else if r.method = "DELETE" then .ok (deleteSubscription lib id correlationId)
    else .error methodNotAllowed
  | .other => .error unknownPath

end ApiAdapter

end PhineAf

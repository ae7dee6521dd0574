import PhineAf.Policy.Requests
import PhineAf.Subscription.Lifecycle

/-!
# AF core

`AfOrchestrator`: its router has the handlers of the policy manager, of the subscription
manager and of the QoD sessions. The last are arguments here, with the state they work on.

A message reaches one component and leaves the others as they are; what it does to the
subscriptions is a call of their manager (`processMessage_subscriptions`).
-/

namespace PhineAf

/-- A reply of the subscription manager, as it is sent. -/
def SubscriptionReply.toReply (lib : Json.Library) (reply : SubscriptionReply) : Reply where
  messageType := reply.messageType.text
  correlationId := reply.correlationId
  payload := lib.dump reply.body

/-- The components of AF core; `Q` are the states of those for QoD sessions. -/
structure AfCore (Q : Type) where
  policies : PolicyManager
  subscriptions : SubscriptionManager
  qod : Q

/-- AF core after `initialize`, with the communication services it may send events to. -/
def AfCore.create {Q : Type} (pcfDestination : String) (services : List String) (qod : Q) :
    AfCore Q where
  policies := PolicyManager.create true true pcfDestination
  subscriptions := SubscriptionManager.empty services
  qod

/-- What AF core draws while it handles a message, and takes from elsewhere. -/
structure Draws where
  now : ℤ
  subscriptionId : String
  policyId : String
  /-- The answer of the PCF handler. -/
  answer : AppSessionAnswer

namespace AfOrchestrator

/-- The handlers of `QodHandler`. -/
structure QodHandlers (Q : Type) where
  handleCreateSession : MessageHandler Q
  handleGetSession : MessageHandler Q
  handleDeleteSession : MessageHandler Q
  handleExtendSession : MessageHandler Q
  handleRetrieveSessions : MessageHandler Q

variable {Q : Type} (lib : Json.Library) (format : ℤ → String) (qod : QodHandlers Q)

/-- A handler of the QoD sessions works on its own components. -/
def onQod (handler : MessageHandler Q) : MessageHandler (AfCore Q) := fun m core =>
  let (q, reply) := handler m core.qod
  ({ core with qod := q }, reply)

/-- `qos_request` goes to the policy manager. -/
def handleQosRequest (d : Draws) : MessageHandler (AfCore Q) := fun m core =>
  let (policies, reply) := core.policies.handleQosRequest lib d.policyId d.answer m.payload
  ({ core with policies }, reply.toReply lib m)

def getAllSubscriptions : MessageHandler (AfCore Q) := fun m core =>
  (core, (core.subscriptions.getAllSubscriptions lib format m).toReply lib)

def createSubscription (d : Draws) : MessageHandler (AfCore Q) := fun m core =>
  let (subscriptions, reply) :=
    core.subscriptions.createSubscription lib format d.subscriptionId d.now m
  ({ core with subscriptions }, reply.toReply lib)

def getSubscription : MessageHandler (AfCore Q) := fun m core =>
  (core, (core.subscriptions.getSubscription lib format m).toReply lib)

def deleteSubscription : MessageHandler (AfCore Q) := fun m core =>
  let (subscriptions, reply) := core.subscriptions.deleteSubscription lib m
  ({ core with subscriptions }, reply.toReply lib)

/-- The handlers of `configure_components`. -/
def componentHandlers (d : Draws) : List (String × MessageHandler (AfCore Q)) :=
  [("qos_request", handleQosRequest lib d),
    ("get_subscriptions", getAllSubscriptions lib format),
    ("create_subscription", createSubscription lib format d),
    ("get_subscription", getSubscription lib format),
    ("delete_subscription", deleteSubscription lib)]

/-- The handlers of `register_qod_handlers`. -/
def qodHandlers : List (String × MessageHandler (AfCore Q)) :=
  [("qod_create_session", onQod qod.handleCreateSession),
    ("qod_get_session", onQod qod.handleGetSession),
    ("qod_delete_session", onQod qod.handleDeleteSession),
    ("qod_extend_session", onQod qod.handleExtendSession),
    ("qod_retrieve_sessions", onQod qod.handleRetrieveSessions)]

/-- The router after `initialize`. -/
def requestRouter (d : Draws) : RequestRouter (AfCore Q) :=
  RequestRouter.empty.registerHandlers (componentHandlers lib format d ++ qodHandlers qod)

/-- `process_message`. -/
def processMessage (d : Draws) (request : Request) (core : AfCore Q) : AfCore Q × Reply :=
  (requestRouter lib format qod d).routeMessage request core

/-! ## Which component a message reaches -/

/-- The call of the subscription manager that a message comes to, if it can change a
    subscription. -/
def subscriptionCall (d : Draws) (request : Request) : Option SubscriptionCall :=
  if request.messageType = "create_subscription" then
    some (.create d.subscriptionId request.message)
  else if request.messageType = "delete_subscription" then some (.delete request.message)
  else none

variable {d : Draws} {m : Message} {core : AfCore Q}

/-- Each message type is registered once. -/
theorem nodup_types (d : Draws) :
    ((componentHandlers lib format d ++ qodHandlers qod).map Prod.fst).Nodup := by
  simp [componentHandlers, qodHandlers]

/-- A message with a handler of `configure_components` goes to it. -/
theorem processMessage_of_mem {messageType : String} {handler : MessageHandler (AfCore Q)}
    (h : (messageType, handler) ∈ componentHandlers lib format d) :
    processMessage lib format qod d ⟨messageType, m⟩ core = handler m core :=
  RequestRouter.routeMessage_of_mem (nodup_types lib format qod d)
    (List.mem_append_left _ h) core

theorem processMessage_getSubscriptions :
    processMessage lib format qod d ⟨"get_subscriptions", m⟩ core =
      getAllSubscriptions lib format m core :=
  processMessage_of_mem lib format qod (by simp [componentHandlers])

theorem processMessage_createSubscription :
    processMessage lib format qod d ⟨"create_subscription", m⟩ core =
      createSubscription lib format d m core :=
  processMessage_of_mem lib format qod (by simp [componentHandlers])

theorem processMessage_getSubscription :
    processMessage lib format qod d ⟨"get_subscription", m⟩ core =
      getSubscription lib format m core :=
  processMessage_of_mem lib format qod (by simp [componentHandlers])

theorem processMessage_deleteSubscription :
    processMessage lib format qod d ⟨"delete_subscription", m⟩ core =
      deleteSubscription lib m core :=
  processMessage_of_mem lib format qod (by simp [componentHandlers])

/-- A message goes to a handler of `configure_components`, or leaves the policies and the
    subscriptions as they are. -/
theorem processMessage_cases (d : Draws) (request : Request) (core : AfCore Q) :
    (∃ handler, (request.messageType, handler) ∈ componentHandlers lib format d ∧
      processMessage lib format qod d request core = handler request.message core) ∨
    (request.messageType ∉ (componentHandlers (Q := Q) lib format d).map Prod.fst ∧
      ∃ q reply,
        processMessage lib format qod d request core = ({ core with qod := q }, reply)) := by
  by_cases hmem : request.messageType ∈
      (componentHandlers lib format d ++ qodHandlers qod).map Prod.fst
  · obtain ⟨⟨messageType, handler⟩, hhandler, rfl⟩ := List.mem_map.1 hmem
    have hroute : processMessage lib format qod d request core = handler request.message core :=
      RequestRouter.routeMessage_of_mem (nodup_types lib format qod d) hhandler core
    rcases List.mem_append.1 hhandler with hhandler | hhandler
    · exact .inl ⟨handler, hhandler, hroute⟩
    · have hqod := List.mem_map_of_mem (f := Prod.fst) hhandler
      refine .inr ⟨fun hcomponent => ?_, ?_⟩
      · have hnodup := nodup_types lib format qod d
        rw [List.map_append] at hnodup
        exact (List.nodup_append.1 hnodup).2.2 _ hcomponent _ hqod rfl
      · rw [hroute]
        simp only [qodHandlers, List.mem_cons, Prod.mk.injEq, List.not_mem_nil,
          or_false] at hhandler
        rcases hhandler with
          ⟨-, rfl⟩ | ⟨-, rfl⟩ | ⟨-, rfl⟩ | ⟨-, rfl⟩ | ⟨-, rfl⟩ <;> exact ⟨_, _, rfl⟩
  · rw [List.map_append, List.mem_append, not_or] at hmem
    refine .inr ⟨hmem.1, core.qod, RequestRouter.defaultReply request, ?_⟩
    refine RequestRouter.routeMessage_of_notMem ?_ core
    rw [List.map_append, List.mem_append, not_or]
    exact hmem

/-- What a message does to the subscriptions is a call of their manager. -/
theorem processMessage_subscriptions (request : Request) :
    (processMessage lib format qod d request core).1.subscriptions =
      (subscriptionCall d request).elim core.subscriptions fun call =>
        (core.subscriptions.serve lib format ⟨d.now, call⟩).1 := by
  obtain ⟨messageType, m⟩ := request
  obtain ⟨handler, hhandler, hroute⟩ | ⟨hmem, q, reply, hroute⟩ :=
    processMessage_cases lib format qod d ⟨messageType, m⟩ core
  · rw [hroute]
    simp only [componentHandlers, List.mem_cons, Prod.mk.injEq, List.not_mem_nil,
      or_false] at hhandler
    rcases hhandler with
      ⟨rfl, rfl⟩ | ⟨rfl, rfl⟩ | ⟨rfl, rfl⟩ | ⟨rfl, rfl⟩ | ⟨rfl, rfl⟩ <;> rfl
  · simp only [componentHandlers, List.map_cons, List.map_nil, List.mem_cons, List.not_mem_nil,
      or_false, not_or] at hmem
    rw [hroute, subscriptionCall, if_neg hmem.2.2.1, if_neg hmem.2.2.2.2]
    rfl

/-- What a message does to the policies is a request to their manager. -/
theorem processMessage_policies (request : Request) :
    (processMessage lib format qod d request core).1.policies =
      if request.messageType = "qos_request" then
        (core.policies.handleQosRequest lib d.policyId d.answer request.message.payload).1
      else core.policies := by
  obtain ⟨messageType, m⟩ := request
  obtain ⟨handler, hhandler, hroute⟩ | ⟨hmem, q, reply, hroute⟩ :=
    processMessage_cases lib format qod d ⟨messageType, m⟩ core
  · rw [hroute]
    simp only [componentHandlers, List.mem_cons, Prod.mk.injEq, List.not_mem_nil,
      or_false] at hhandler
    rcases hhandler with
      ⟨rfl, rfl⟩ | ⟨rfl, rfl⟩ | ⟨rfl, rfl⟩ | ⟨rfl, rfl⟩ | ⟨rfl, rfl⟩ <;> rfl
  · simp only [componentHandlers, List.map_cons, List.mem_cons, not_or] at hmem
    rw [hroute, if_neg hmem.1]

end AfOrchestrator

end PhineAf

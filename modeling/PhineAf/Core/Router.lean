import PhineAf.Subscription.Manager

/-!
# The request routers

`RequestRouter`, which AF core and the PCF handler have in the same form: the handlers of
the message types, and the reply to a message that no handler is registered for. A
handler works on the state of its component.
-/

namespace PhineAf

/-- A message to a component, with its type. -/
structure Request where
  messageType : String
  message : Message

/-- A reply of a component. -/
structure Reply where
  messageType : String
  correlationId : String
  payload : String
  metadata : Table String String := ∅

/-- `MessageHandlerFunc`, with the state it works on. -/
abbrev MessageHandler (S : Type) := Message → S → S × Reply

structure RequestRouter (S : Type) where
  handlers : Table String (MessageHandler S)

namespace RequestRouter

variable {S : Type}

/-- A router without handlers. -/
def empty : RequestRouter S := ⟨∅⟩

/-- `register_handler`: a null handler is left out. -/
def registerHandler (router : RequestRouter S) (messageType : String)
    (handler : Option (MessageHandler S)) : RequestRouter S :=
  handler.elim router fun handler => ⟨router.handlers.insert messageType handler⟩

/-- Handlers are registered one after the other. -/
def registerHandlers (router : RequestRouter S) (handlers : List (String × MessageHandler S)) :
    RequestRouter S :=
  handlers.foldl (fun router h => router.registerHandler h.1 (some h.2)) router

/-- The reply of `create_default_handler`. -/
def defaultReply (request : Request) : Reply where
  messageType := "error.unhandled_message_type"
  correlationId := request.message.correlationId
  payload := "No handler registered for message type: " ++ request.messageType

/-- `route_message`. -/
def routeMessage (router : RequestRouter S) (request : Request) (s : S) : S × Reply :=
  match router.handlers.lookup request.messageType with
  | some handler => handler request.message s
  | none => (s, defaultReply request)

theorem handlers_registerHandlers (router : RequestRouter S)
    (handlers : List (String × MessageHandler S)) :
    (router.registerHandlers handlers).handlers = router.handlers.insertAll handlers := by
  induction handlers generalizing router with
  | nil => rfl
  | cons h handlers ih => exact ih _

/-- A message goes to the handler of its type, if each type is registered once. -/
theorem routeMessage_of_mem {handlers : List (String × MessageHandler S)}
    (hnodup : (handlers.map Prod.fst).Nodup) {request : Request} {handler : MessageHandler S}
    (h : (request.messageType, handler) ∈ handlers) (s : S) :
    (empty.registerHandlers handlers).routeMessage request s = handler request.message s := by
  rw [routeMessage, handlers_registerHandlers, Table.lookup_insertAll_of_mem _ hnodup h]

/-- A message of a type that is not registered is answered by the default handler. -/
theorem routeMessage_of_notMem {handlers : List (String × MessageHandler S)} {request : Request}
    (h : request.messageType ∉ handlers.map Prod.fst) (s : S) :
    (empty.registerHandlers handlers).routeMessage request s = (s, defaultReply request) := by
  rw [routeMessage, handlers_registerHandlers, Table.lookup_insertAll_of_notMem _ h]
  rfl

end RequestRouter

end PhineAf

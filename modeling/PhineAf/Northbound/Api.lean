import PhineAf.Core.Orchestrator
import PhineAf.Northbound.Handlers

/-!
# The API with AF core

Requests over HTTP come to the adapter, which exchanges messages with AF core; other clients
send AF core messages of their own, and its expired subscriptions are removed now and then. A
message of the adapter, or the reply to it, may be lost.

Whatever happens, the subscriptions are changed by calls of their manager only
(`serve_subscriptions`).
-/

namespace PhineAf

/-- How far a message to AF core comes. -/
inductive Delivery
  /-- It does not come to AF core: `send_request` throws an exception, or has no reply. -/
  | lost (what : Option String)
  /-- AF core handles it, and its reply does not come back. -/
  | unanswered (what : Option String)
  | answered
  deriving DecidableEq

/-- The message comes to AF core. -/
def Delivery.arrives : Delivery → Bool
  | lost _ => false
  | unanswered _ | answered => true

/-- How `send_request` ends without a reply. -/
def CoreAnswer.failed : Option String → CoreAnswer
  | none => .ok none
  | some what => .error what

/-- What happens to the adapter and AF core. -/
inductive ApiEvent
  /-- A request over HTTP, with the correlation identifier that is drawn for its message. -/
  | http (request : ApiRequest) (correlationId : String) (delivery : Delivery) (draws : Draws)
  /-- A message of another client of AF core. -/
  | message (request : Request) (draws : Draws)
  /-- The expired subscriptions are removed. -/
  | cleanup (now : ℤ)

/-- What comes of it. -/
inductive ApiOutcome
  | response (r : ApiResponse)
  | reply (r : Reply)
  | removed (count : ℕ)

/-- What the adapter and AF core depend on. -/
structure ApiSetting (Q : Type) where
  lib : Json.Library
  /-- How AF core writes a time point. -/
  format : ℤ → String
  qod : AfOrchestrator.QodHandlers Q
  /-- What the communication service of the adapter tells AF core along with a message. -/
  metadata : Table String String

namespace ApiSetting

variable {Q : Type} (a : ApiSetting Q)

/-- A message of the adapter comes to AF core. -/
def handle (d : Draws) (request : Request) (core : AfCore Q) : AfCore Q × Reply :=
  AfOrchestrator.processMessage a.lib a.format a.qod d
    { request with message := { request.message with metadata := a.metadata } } core

/-- The adapter exchanges messages with AF core. -/
def exchange (e : CoreExchange) (delivery : Delivery) (d : Draws) (core : AfCore Q) :
    AfCore Q × ApiResponse :=
  match delivery with
  | .lost what => (core, e.respond (.failed what))
  | .unanswered what => ((a.handle d e.request core).1, e.respond (.failed what))
  | .answered =>
    let (core, reply) := a.handle d e.request core
    (core, e.respond (.ok (some reply)))

def serve (core : AfCore Q) : ApiEvent → AfCore Q × ApiOutcome
  | .http request correlationId delivery d =>
    match ApiAdapter.setupRoutes a.lib correlationId request with
    | .error response => (core, .response response)
    | .ok e =>
      let (core, response) := a.exchange e delivery d core
      (core, .response response)
  | .message request d =>
    let (core, reply) := AfOrchestrator.processMessage a.lib a.format a.qod d request core
    (core, .reply reply)
  | .cleanup now =>
    let (subscriptions, count) := core.subscriptions.cleanupExpiredSubscriptions now
    ({ core with subscriptions }, .removed count)

/-- The call that a message of the adapter, which comes to AF core, makes of the subscription
    manager. -/
def coreCall (d : Draws) (request : Request) : Option TimedCall :=
  (AfOrchestrator.subscriptionCall d
    { request with message := { request.message with metadata := a.metadata } }).map (⟨d.now, ·⟩)

/-- The call of the subscription manager that may change its subscriptions. -/
def call : ApiEvent → Option TimedCall
  | .http request correlationId delivery d =>
    match ApiAdapter.setupRoutes a.lib correlationId request with
    | .error _ => none
    | .ok e => if delivery.arrives then a.coreCall d e.request else none
  | .message request d => (AfOrchestrator.subscriptionCall d request).map (⟨d.now, ·⟩)
  | .cleanup now => some ⟨now, .cleanup⟩

/-- The subscriptions are changed by calls of their manager only. -/
theorem serve_subscriptions (core : AfCore Q) (event : ApiEvent) :
    (a.serve core event).1.subscriptions =
      (a.call event).elim core.subscriptions fun c =>
        (core.subscriptions.serve a.lib a.format c).1 := by
  cases event with
  | http request correlationId delivery d =>
    rw [serve, call]
    rcases ApiAdapter.setupRoutes a.lib correlationId request with response | e
    · rfl
    · have hhandle : (a.handle d e.request core).1.subscriptions =
          (a.coreCall d e.request).elim core.subscriptions fun c =>
            (core.subscriptions.serve a.lib a.format c).1 := by
        rw [handle, AfOrchestrator.processMessage_subscriptions, coreCall, Option.elim_map]
        rfl
      cases delivery with
      | lost what => rfl
      | unanswered what => exact hhandle
      | answered => exact hhandle
  | message request d =>
    refine (AfOrchestrator.processMessage_subscriptions a.lib a.format a.qod request).trans ?_
    rw [call, Option.elim_map]
    rfl
  | cleanup now => rfl

end ApiSetting

end PhineAf

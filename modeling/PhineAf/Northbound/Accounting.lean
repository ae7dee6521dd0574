import PhineAf.Northbound.Answers
import Mathlib.Algebra.BigOperators.Group.List.Basic
import Mathlib.Algebra.Ring.Nat

/-!
# Counting subscriptions

As long as the adapter is the only client that creates and deletes subscriptions, the length of
its list is told by its answers: each creation that has been answered by 201 counts, less the
deletions answered by 204 and the subscriptions that have expired and been removed. What is not
certain are the requests whose reply was lost, each of which may count or not
(`ApiSetting.listed_count`).
-/

namespace PhineAf

open SubscriptionManager ApiHandlers

/-! ## What an answer tells -/

/-- A subscription has been created for certain. -/
def createdCount : ApiEvent × ApiOutcome → ℕ
  | (.http .., .response response) => if response.status = 201 then 1 else 0
  | _ => 0

/-- Subscriptions that have been removed for certain. -/
def removedCount : ApiEvent × ApiOutcome → ℕ
  | (.http .., .response response) => if response.status = 204 then 1 else 0
  | (.cleanup _, .removed count) => count
  | _ => 0

/-- A subscription may have been created, and the reply is lost. -/
def maybeCreatedCount : ApiEvent × ApiOutcome → ℕ
  | (.http ⟨.subscriptions, "POST", _⟩ _ (.unanswered _) _, _) => 1
  | _ => 0

/-- A subscription may have been removed, and the reply is lost. -/
def maybeRemovedCount : ApiEvent × ApiOutcome → ℕ
  | (.http ⟨.subscription _, "DELETE", _⟩ _ (.unanswered _) _, _) => 1
  | _ => 0

/-- The status tells of no creation and no deletion. -/
def ApiResponse.Unchanging (response : ApiResponse) : Prop :=
  response.status ≠ 201 ∧ response.status ≠ 204

instance (response : ApiResponse) : Decidable response.Unchanging :=
  inferInstanceAs (Decidable (_ ∧ _))

namespace ApiHandlers

variable {lib : Json.Library} {expected : List (String × (Reply → Except String ApiResponse))}
  {otherwise : ApiResponse} {caught : String → ApiResponse}

/-- What holds of every response of an exchange. -/
theorem respond_of_forall {P : ApiResponse → Prop} (hotherwise : P otherwise)
    (hcaught : ∀ what, P (caught what))
    (hexpected : ∀ e ∈ expected, ∀ reply response, e.2 reply = .ok response → P response)
    (answer : CoreAnswer) : P (respond expected otherwise caught answer) := by
  rcases answer with what | _ | reply
  · exact hcaught what
  · exact hotherwise
  · rcases hlookup : expected.lookup reply.messageType with _ | make
    · rw [respond_of_lookup_eq_none hlookup]
      exact hotherwise
    · rw [respond_of_lookup hlookup]
      rcases hmake : make reply with what | response
      · exact hcaught what
      · obtain ⟨before, later, rfl, -⟩ := List.lookup_eq_some_iff.1 hlookup
        exact hexpected _ (List.mem_append_right _ List.mem_cons_self) reply response hmake

theorem errorResponse_unchanging {status : ℕ} (h : status ≠ 201 ∧ status ≠ 204)
    (error message : String) : (errorResponse lib status error message).Unchanging := h

theorem forward_unchanging {status : ℕ} (h : status ≠ 201 ∧ status ≠ 204) {reply : Reply}
    {response : ApiResponse} (hresponse : forward lib status reply = .ok response) :
    response.Unchanging := by
  obtain ⟨body, -, hbody⟩ := Json.bind_eq_ok.1 hresponse
  cases hbody
  exact h

theorem notFound_unchanging (reply : Reply) {response : ApiResponse}
    (hresponse : notFound lib reply = .ok response) : response.Unchanging := by
  cases hresponse
  exact errorResponse_unchanging (by decide) _ _

theorem getSubscriptions_unchanging (correlationId : String) (answer : CoreAnswer) :
    ((getSubscriptions lib correlationId).respond answer).Unchanging := by
  refine respond_of_forall (errorResponse_unchanging (by decide) _ _)
    (fun what => errorResponse_unchanging (by decide) _ _) (fun e he reply response h => ?_) answer
  rw [List.mem_singleton.1 he] at h
  exact forward_unchanging (by decide) h

theorem getSubscription_unchanging (id correlationId : String) (answer : CoreAnswer) :
    ((getSubscription lib id correlationId).respond answer).Unchanging := by
  refine respond_of_forall (errorResponse_unchanging (by decide) _ _)
    (fun what => errorResponse_unchanging (by decide) _ _) (fun e he reply response h => ?_) answer
  simp only [List.mem_cons, List.not_mem_nil, or_false] at he
  rcases he with rfl | rfl
  · exact forward_unchanging (by decide) h
  · exact notFound_unchanging reply h

theorem requestQoS_unchanging {body correlationId : String} {e : CoreExchange}
    (he : requestQoS lib body correlationId = .ok e) (answer : CoreAnswer) :
    (e.respond answer).Unchanging := by
  rw [requestQoS, exchangeBody] at he
  rcases hparse : lib.parse body with what | j <;> rw [hparse] at he <;> cases he
  refine respond_of_forall (errorResponse_unchanging (by decide) _ _)
    (fun what => errorResponse_unchanging (by decide) _ _) (fun e he reply response h => ?_) answer
  simp only [List.mem_cons, List.not_mem_nil, or_false] at he
  rcases he with rfl | rfl
  · exact forward_unchanging (by decide) h
  · exact forward_unchanging (by decide) h

/-- A deletion that AF core does not confirm. -/
theorem deleteSubscription_unchanging (id correlationId : String) {answer : CoreAnswer}
    (h : ∀ reply, answer = .ok (some reply) → reply.messageType ≠ "subscription_deleted") :
    ((deleteSubscription lib id correlationId).respond answer).Unchanging := by
  rcases answer with what | _ | reply
  · exact errorResponse_unchanging (by decide) _ _
  · exact errorResponse_unchanging (by decide) _ _
  · by_cases hfound : reply.messageType = "subscription_not_found"
    · rw [deleteSubscription_notFound lib hfound]
      exact errorResponse_unchanging (by decide) _ _
    · have hlookup : [("subscription_deleted", fun _ => .ok ⟨204, none⟩),
          ("subscription_not_found", notFound lib)].lookup reply.messageType = none := by
        simp [h reply rfl, hfound]
      rw [deleteSubscription]
      dsimp only
      rw [respond_of_lookup_eq_none hlookup]
      exact errorResponse_unchanging (by decide) _ _

end ApiHandlers

/-- What `setupRoutes` makes of a request: a creation, a deletion, or neither. -/
theorem ApiAdapter.setupRoutes_cases (lib : Json.Library) (correlationId : String)
    (r : ApiRequest) :
    (∃ body, r = ⟨.subscriptions, "POST", body⟩ ∧
      setupRoutes lib correlationId r = createSubscription lib body correlationId) ∨
    (∃ id body, r = ⟨.subscription id, "DELETE", body⟩ ∧
      setupRoutes lib correlationId r = .ok (deleteSubscription lib id correlationId)) ∨
    (∃ response, setupRoutes lib correlationId r = .error response ∧ response.Unchanging) ∨
    ∃ e, setupRoutes lib correlationId r = .ok e ∧ (∀ answer, (e.respond answer).Unchanging) ∧
      e.request.messageType ≠ "create_subscription" ∧
        e.request.messageType ≠ "delete_subscription" := by
  obtain ⟨route, method, body⟩ := r
  cases route with
  | qos =>
    rw [setupRoutes]
    dsimp only
    split_ifs
    · rcases he : requestQoS lib body correlationId with response | e
      · refine .inr (.inr (.inl ⟨response, rfl, ?_⟩))
        rw [requestQoS, exchangeBody] at he
        rcases hparse : lib.parse body with what | j <;> rw [hparse] at he <;> cases he
        exact errorResponse_unchanging (by decide) _ _
      · refine .inr (.inr (.inr ⟨e, rfl, requestQoS_unchanging he, ?_⟩))
        rw [requestQoS, exchangeBody] at he
        rcases hparse : lib.parse body with what | j <;> rw [hparse] at he <;> cases he
        exact ⟨(by decide : "qos_request" ≠ "create_subscription"),
          (by decide : "qos_request" ≠ "delete_subscription")⟩
    · exact .inr (.inr (.inl ⟨_, rfl, by decide⟩))
  | subscriptions =>
    rw [setupRoutes]
    dsimp only
    split_ifs with hget hpost
    · refine .inr (.inr (.inr ⟨_, rfl, getSubscriptions_unchanging correlationId, ?_⟩))
      exact ⟨(by decide : "get_subscriptions" ≠ "create_subscription"),
        (by decide : "get_subscriptions" ≠ "delete_subscription")⟩
    · exact .inl ⟨body, by rw [hpost], rfl⟩
    · exact .inr (.inr (.inl ⟨_, rfl, by decide⟩))
  | subscription id =>
    rw [setupRoutes]
    dsimp only
    split_ifs with hempty hget hdelete
    · exact .inr (.inr (.inl ⟨_, rfl, by decide⟩))
    · refine .inr (.inr (.inr ⟨_, rfl, getSubscription_unchanging id correlationId, ?_⟩))
      exact ⟨(by decide : "get_subscription" ≠ "create_subscription"),
        (by decide : "get_subscription" ≠ "delete_subscription")⟩
    · exact .inr (.inl ⟨id, body, by rw [hdelete], rfl⟩)
    · exact .inr (.inr (.inl ⟨_, rfl, by decide⟩))
  | other => exact .inr (.inr (.inl ⟨_, rfl, by decide⟩))

/-! ## What a call changes -/

theorem ReplyType.eq_deleted_of_text {type : ReplyType} (h : type.text = "subscription_deleted") :
    type = .deleted := by
  cases type <;> simp_all [ReplyType.text]

namespace SubscriptionManager

variable (lib : Json.Library) (format : ℤ → String) {μ : SubscriptionManager}

/-- A creation under a new identifier adds a subscription, or changes nothing. -/
theorem createSubscription_count {id : String} (hid : μ.subscriptions.lookup id = none) (now : ℤ)
    (m : Message) :
    (∃ s, lib.parse m.payload >>= subscriptionOf lib id now m = .ok s ∧
      (createSubscription lib format id now m μ).2 =
        ⟨.created, m.correlationId, describe format false true s⟩ ∧
      (createSubscription lib format id now m μ).1.subscriptions.entries.length =
        μ.subscriptions.entries.length + 1) ∨
    ((createSubscription lib format id now m μ).2.messageType = .error ∧
      (createSubscription lib format id now m μ).1 = μ) := by
  rw [createSubscription]
  rcases hs : lib.parse m.payload >>= subscriptionOf lib id now m with what | s
  · exact .inr ⟨rfl, rfl⟩
  · obtain ⟨request, -, hrequest⟩ := Json.bind_eq_ok.1 hs
    refine .inl ⟨s, rfl, rfl, Table.length_insert ?_ s⟩
    rw [(subscriptionOf_eq_ok hrequest).1]
    exact hid

/-- A deletion removes a subscription, or changes nothing. -/
theorem deleteSubscription_count (m : Message) :
    ((deleteSubscription lib m μ).2.messageType = .deleted ∧
      (deleteSubscription lib m μ).1.subscriptions.entries.length + 1 =
        μ.subscriptions.entries.length) ∨
    ((deleteSubscription lib m μ).2.messageType ≠ .deleted ∧
      (deleteSubscription lib m μ).1 = μ) := by
  rw [deleteSubscription, find]
  rcases target lib m with what | ⟨id, clientId⟩
  · exact .inr ⟨by simp [badRequest], rfl⟩
  dsimp only
  rcases hs : μ.subscriptions.lookup id with _ | s
  · exact .inr ⟨by simp, rfl⟩
  dsimp only
  split_ifs
  · exact .inr ⟨by simp, rfl⟩
  · refine .inl ⟨rfl, Table.length_erase ?_⟩
    rw [← AList.lookup_isSome, hs]
    rfl

/-- The subscriptions that are removed are counted. -/
theorem cleanupExpiredSubscriptions_count (now : ℤ) :
    (cleanupExpiredSubscriptions now μ).1.subscriptions.entries.length +
        (cleanupExpiredSubscriptions now μ).2 = μ.subscriptions.entries.length := by
  rw [cleanupExpiredSubscriptions]
  refine Table.length_foldl_erase _ (μ.subscriptions.keys_nodup.filter _) fun id hid => ?_
  exact AList.mem_keys.2 (List.mem_filter.1 hid).1

end SubscriptionManager

/-! ## What an event changes -/

/-- The numbers of subscriptions before and after an event agree with what it tells. -/
structure Balanced (x : ApiEvent × ApiOutcome) (n n' : ℕ) : Prop where
  upper : n' + removedCount x ≤ n + createdCount x + maybeCreatedCount x
  lower : n + createdCount x ≤ n' + removedCount x + maybeRemovedCount x

section Balanced

variable {request : ApiRequest} {body id correlationId : String} {delivery : Delivery}
  {what : Option String} {d : Draws} {response : ApiResponse} {n n' : ℕ}

theorem createdCount_of_unchanging (h : response.Unchanging) :
    createdCount (.http request correlationId delivery d, .response response) = 0 := if_neg h.1

theorem removedCount_of_unchanging (h : response.Unchanging) :
    removedCount (.http request correlationId delivery d, .response response) = 0 := if_neg h.2

/-- Nothing is told, and nothing has changed. -/
theorem balanced_of_unchanging (h : response.Unchanging) (hn : n' = n) :
    Balanced (.http request correlationId delivery d, .response response) n n' where
  upper := by
    rw [removedCount_of_unchanging h]
    omega
  lower := by
    rw [createdCount_of_unchanging h]
    omega

/-- Nothing is told of a creation. -/
theorem balanced_of_unanswered_post (h : response.Unchanging) (hn : n' = n ∨ n' = n + 1) :
    Balanced (.http ⟨.subscriptions, "POST", body⟩ correlationId (.unanswered what) d,
      .response response) n n' := by
  have hmaybe : maybeCreatedCount (.http ⟨.subscriptions, "POST", body⟩ correlationId
      (.unanswered what) d, .response response) = 1 := rfl
  constructor
  · rw [removedCount_of_unchanging h, hmaybe]
    omega
  · rw [createdCount_of_unchanging h]
    omega

/-- Nothing is told of a deletion. -/
theorem balanced_of_unanswered_delete (h : response.Unchanging) (hn : n' = n ∨ n' + 1 = n) :
    Balanced (.http ⟨.subscription id, "DELETE", body⟩ correlationId (.unanswered what) d,
      .response response) n n' := by
  have hmaybe : maybeRemovedCount (.http ⟨.subscription id, "DELETE", body⟩ correlationId
      (.unanswered what) d, .response response) = 1 := rfl
  constructor
  · rw [removedCount_of_unchanging h]
    omega
  · rw [createdCount_of_unchanging h, hmaybe]
    omega

theorem balanced_of_created (h : response.status = 201) (hn : n' = n + 1) :
    Balanced (.http request correlationId delivery d, .response response) n n' := by
  have hcreated : createdCount (.http request correlationId delivery d, .response response) = 1 :=
    if_pos h
  have hremoved : removedCount (.http request correlationId delivery d, .response response) = 0 :=
    if_neg (by rw [h]; decide)
  constructor
  · rw [hcreated, hremoved]
    omega
  · rw [hcreated]
    omega

theorem balanced_of_deleted (h : response.status = 204) (hn : n' + 1 = n) :
    Balanced (.http request correlationId delivery d, .response response) n n' := by
  have hcreated : createdCount (.http request correlationId delivery d, .response response) = 0 :=
    if_neg (by rw [h]; decide)
  have hremoved : removedCount (.http request correlationId delivery d, .response response) = 1 :=
    if_pos h
  constructor
  · rw [hremoved]
    omega
  · rw [hcreated, hremoved]
    omega

end Balanced

namespace ApiSetting

variable {Q : Type} {a : ApiSetting Q} {core : AfCore Q} {known : Subscription → Prop}

/-- The number of subscriptions. -/
def count (core : AfCore Q) : ℕ := core.subscriptions.subscriptions.entries.length

/-- A request to create a subscription. -/
theorem balanced_post {body correlationId : String} {delivery : Delivery} {d : Draws}
    (hfresh : ∀ c, a.call (.http ⟨.subscriptions, "POST", body⟩ correlationId delivery d) = some c →
      ∀ id m, c.call = .create id m → core.subscriptions.subscriptions.lookup id = none)
    (hroute : ApiAdapter.setupRoutes a.lib correlationId ⟨.subscriptions, "POST", body⟩ =
      ApiHandlers.createSubscription a.lib body correlationId)
    (hknown : ∀ c, a.call (.http ⟨.subscriptions, "POST", body⟩ correlationId delivery d) = some c →
      ∀ s, c.Makes a.lib s → a.lib.Lossless (describe a.format false true s)) :
    Balanced (.http ⟨.subscriptions, "POST", body⟩ correlationId delivery d,
        (a.serve core (.http ⟨.subscriptions, "POST", body⟩ correlationId delivery d)).2)
      (count core)
      (count (a.serve core (.http ⟨.subscriptions, "POST", body⟩ correlationId delivery d)).1) := by
  rw [call, hroute, ApiHandlers.createSubscription, exchangeBody] at hfresh hknown
  rw [serve, hroute, ApiHandlers.createSubscription, exchangeBody]
  rcases hparse : a.lib.parse body with what | j
  · exact balanced_of_unchanging (errorResponse_unchanging (by decide) _ _) rfl
  rw [hparse] at hfresh hknown
  have hfailed : ∀ what, (respond [("subscription_created", forward a.lib 201),
      ("subscription_error", forward a.lib 400)] (unexpectedResponse a.lib)
        (errorResponse a.lib 400 "bad_request") (.failed what)).Unchanging := by
    rintro (_ | what)
    · exact errorResponse_unchanging (by decide) _ _
    · exact errorResponse_unchanging (by decide) _ _
  have hhandle : a.handle d (createMessage "create_subscription" (a.lib.dump j) correlationId)
      core = AfOrchestrator.createSubscription a.lib a.format d
        ⟨correlationId, a.lib.dump j, a.metadata⟩ core :=
    AfOrchestrator.processMessage_createSubscription a.lib a.format a.qod
  have hcases := fun hnone : core.subscriptions.subscriptions.lookup d.subscriptionId = none =>
    createSubscription_count a.lib a.format hnone d.now ⟨correlationId, a.lib.dump j, a.metadata⟩
  dsimp only [exchange]
  rw [hhandle, AfOrchestrator.createSubscription]
  cases delivery with
  | lost what => exact balanced_of_unchanging (hfailed what) rfl
  | unanswered what =>
    refine balanced_of_unanswered_post (hfailed what) ?_
    obtain ⟨s, -, -, hcount⟩ | ⟨-, hsame⟩ := hcases (hfresh _ rfl _ _ rfl)
    · exact .inr hcount
    · exact .inl (congrArg (·.subscriptions.entries.length) hsame)
  | answered =>
    obtain ⟨s, hs, hreply, hcount⟩ | ⟨herror, hsame⟩ := hcases (hfresh _ rfl _ _ rfl)
    · have hmakes : TimedCall.Makes a.lib s
          ⟨d.now, .create d.subscriptionId ⟨correlationId, a.lib.dump j, a.metadata⟩⟩ :=
        makes_create.2 hs
      have hlossless := hknown _ rfl s hmakes
      refine balanced_of_created ?_ hcount
      dsimp only
      rw [hreply]
      exact congrArg ApiResponse.status (respond_of_forward a.lib rfl rfl hlossless)
    · have hstatus : (respond [("subscription_created", forward a.lib 201),
          ("subscription_error", forward a.lib 400)] (unexpectedResponse a.lib)
            (errorResponse a.lib 400 "bad_request") (.ok (some
              ((SubscriptionManager.createSubscription a.lib a.format d.subscriptionId d.now
                ⟨correlationId, a.lib.dump j, a.metadata⟩ core.subscriptions).2.toReply
                  a.lib)))).status = 400 :=
        status_of_subscription_error a.lib (congrArg ReplyType.text herror)
      refine balanced_of_unchanging ⟨?_, ?_⟩ (congrArg (·.subscriptions.entries.length) hsame)
      · rw [hstatus]
        decide
      · rw [hstatus]
        decide

/-- A request to delete a subscription. -/
theorem balanced_delete {id body correlationId : String} {delivery : Delivery} {d : Draws}
    (hroute : ApiAdapter.setupRoutes a.lib correlationId ⟨.subscription id, "DELETE", body⟩ =
      .ok (ApiHandlers.deleteSubscription a.lib id correlationId)) :
    Balanced (.http ⟨.subscription id, "DELETE", body⟩ correlationId delivery d,
        (a.serve core (.http ⟨.subscription id, "DELETE", body⟩ correlationId delivery d)).2)
      (count core)
      (count (a.serve core
        (.http ⟨.subscription id, "DELETE", body⟩ correlationId delivery d)).1) := by
  have hfailed : ∀ what, ((ApiHandlers.deleteSubscription a.lib id correlationId).respond
      (.failed what)).Unchanging := by
    rintro (_ | what)
    · exact errorResponse_unchanging (by decide) _ _
    · exact errorResponse_unchanging (by decide) _ _
  have hhandle : a.handle d (ApiHandlers.deleteSubscription a.lib id correlationId).request core =
      AfOrchestrator.deleteSubscription a.lib
        ⟨correlationId, a.lib.dump (idContent id), a.metadata⟩ core :=
    AfOrchestrator.processMessage_deleteSubscription a.lib a.format a.qod
  have hcases := deleteSubscription_count a.lib (μ := core.subscriptions)
    ⟨correlationId, a.lib.dump (idContent id), a.metadata⟩
  rw [serve, hroute]
  dsimp only [exchange]
  rw [hhandle, AfOrchestrator.deleteSubscription]
  cases delivery with
  | lost what => exact balanced_of_unchanging (hfailed what) rfl
  | unanswered what =>
    refine balanced_of_unanswered_delete (hfailed what) ?_
    obtain ⟨-, hcount⟩ | ⟨-, hsame⟩ := hcases
    · exact .inr hcount
    · exact .inl (congrArg (·.subscriptions.entries.length) hsame)
  | answered =>
    obtain ⟨hdeleted, hcount⟩ | ⟨hother, hsame⟩ := hcases
    · refine balanced_of_deleted ?_ hcount
      exact congrArg ApiResponse.status
        (deleteSubscription_deleted a.lib id correlationId (congrArg ReplyType.text hdeleted))
    · refine balanced_of_unchanging (deleteSubscription_unchanging id correlationId ?_)
        (congrArg (·.subscriptions.entries.length) hsame)
      rintro reply hreply htext
      obtain rfl := Option.some.inj (Except.ok.inj hreply)
      exact hother (ReplyType.eq_deleted_of_text htext)

/-- No other client creates or deletes subscriptions. -/
def Alone (event : ApiEvent) : Prop :=
  ∀ request d, event = .message request d → AfOrchestrator.subscriptionCall d request = none

/-- What an event tells of the number of subscriptions agrees with what it changes. -/
theorem balanced_serve {event : ApiEvent} {events : List ApiEvent}
    (hlives : ∀ x, ∃ l, a.Lives x known (event :: events) core l) (halone : Alone event)
    (hwrites : ∀ s, known s → a.lib.Lossless (describe a.format false true s)) :
    Balanced (event, (a.serve core event).2) (count core) (count (a.serve core event).1) := by
  obtain ⟨_, hmade⟩ := hlives ""
  have hsame : a.call event = none → count (a.serve core event).1 = count core := by
    intro hcall
    rw [count, serve_subscriptions, hcall]
    rfl
  cases event with
  | http request correlationId delivery d =>
    obtain ⟨body, rfl, hroute⟩ | ⟨id, body, rfl, hroute⟩ | ⟨response, hroute, hresponse⟩ |
      ⟨e, hroute, hresponse, hcreate, hdelete⟩ :=
        ApiAdapter.setupRoutes_cases a.lib correlationId request
    · refine balanced_post (fun c hc id m hdrawn => ?_) hroute fun c hc s hs => hwrites s ?_
      · -- What is drawn now has not been stored.
        obtain ⟨l, h⟩ := hlives id
        rw [h.stored]
        by_contra hstored
        refine h.born (by rintro rfl; exact hstored rfl) _ List.mem_cons_self ?_
        rw [drawn, hc, Option.bind_some, hdrawn]
        rfl
      · exact hmade.made _ List.mem_cons_self c hc s hs
    · exact balanced_delete hroute
    · rw [serve, hroute]
      exact balanced_of_unchanging hresponse rfl
    · have hcall : a.call (.http request correlationId delivery d) = none := by
        rw [call, hroute]
        dsimp only
        rw [coreCall, AfOrchestrator.subscriptionCall, if_neg hcreate, if_neg hdelete,
          Option.map_none, ite_self]
      have hcount := hsame hcall
      rw [serve, hroute] at hcount ⊢
      cases delivery with
      | lost what => exact balanced_of_unchanging (hresponse _) hcount
      | unanswered what => exact balanced_of_unchanging (hresponse _) hcount
      | answered => exact balanced_of_unchanging (hresponse _) hcount
  | message request d =>
    have hcount := hsame (by rw [call, halone request d rfl]; rfl)
    exact ⟨Nat.le_of_eq hcount, Nat.le_of_eq hcount.symm⟩
  | cleanup now =>
    have hcount := cleanupExpiredSubscriptions_count now (μ := core.subscriptions)
    exact ⟨Nat.le_of_eq hcount, Nat.le_of_eq hcount.symm⟩

/-! ## All events -/

/-- The sum over all events. -/
def total (f : ApiEvent × ApiOutcome → ℕ) (exchanges : List (ApiEvent × ApiOutcome)) : ℕ :=
  (exchanges.map f).sum

/-- What the events tell of the number of subscriptions agrees with what they change. -/
theorem balanced_after {events : List ApiEvent}
    (hlives : ∀ x, ∃ l, a.Lives x known events core l) (halone : ∀ event ∈ events, Alone event)
    (hwrites : ∀ s, known s → a.lib.Lossless (describe a.format false true s)) :
    count (Service.after a.serve core events) +
        total removedCount (events.zip (Service.answers a.serve core events)) ≤
      count core + total createdCount (events.zip (Service.answers a.serve core events)) +
        total maybeCreatedCount (events.zip (Service.answers a.serve core events)) ∧
    count core + total createdCount (events.zip (Service.answers a.serve core events)) ≤
      count (Service.after a.serve core events) +
        total removedCount (events.zip (Service.answers a.serve core events)) +
        total maybeRemovedCount (events.zip (Service.answers a.serve core events)) := by
  induction events generalizing core with
  | nil => exact ⟨Nat.le_refl _, Nat.le_refl _⟩
  | cons event events ih =>
    obtain ⟨hevent, halone⟩ := List.forall_mem_cons.1 halone
    obtain ⟨hupper, hlower⟩ := balanced_serve hlives hevent hwrites
    have hnext : ∀ x, ∃ l, a.Lives x known events (a.serve core event).1 l := by
      intro x
      obtain ⟨l, h⟩ := hlives x
      exact ⟨_, h.serve⟩
    obtain ⟨hupper', hlower'⟩ := ih hnext halone
    rw [Service.answers, List.zip_cons_cons, Service.after_cons]
    simp only [total, List.map_cons, List.sum_cons] at hupper' hlower' ⊢
    constructor <;> omega

/-- The length of a list agrees with what has been told before: it is the number of creations
    less the number of removals, up to the requests whose reply was lost. -/
theorem listed_count (core : AfCore Q) (hempty : core.subscriptions.subscriptions = ∅)
    (events : List ApiEvent) (hdrawn : (events.filterMap a.drawn).Nodup)
    (halone : ∀ event ∈ events, Alone event) (hwrites : a.Writes (a.Made events))
    (hsource : a.source = "") (body correlationId : String) (d : Draws) :
    ∃ listed : List Subscription,
      (a.serve (Service.after a.serve core events)
        (.http ⟨.subscriptions, "GET", body⟩ correlationId .answered d)).2 =
          .response (jsonResponse a.lib 200 (.arr (listed.map (describe a.format true false)))) ∧
      listed.length + total removedCount (events.zip (Service.answers a.serve core events)) ≤
        total createdCount (events.zip (Service.answers a.serve core events)) +
          total maybeCreatedCount (events.zip (Service.answers a.serve core events)) ∧
      total createdCount (events.zip (Service.answers a.serve core events)) ≤
        listed.length + total removedCount (events.zip (Service.answers a.serve core events)) +
          total maybeRemovedCount (events.zip (Service.answers a.serve core events)) := by
  have hlives := fun x => lives_of_empty hempty hdrawn x
  obtain ⟨l, h⟩ := Lives.after (hlives "")
  have hlength : (a.visible (Service.after a.serve core events)).length =
      count (Service.after a.serve core events) := by
    have hall : ∀ s : Subscription, a.May s := fun s => .inl hsource
    rw [visible, List.filter_eq_self.2 fun s _ => decide_eq_true (hall s), Table.values,
      List.length_map]
    rfl
  have hbalanced := balanced_after (fun x => ⟨_, hlives x⟩) halone hwrites.created
  have hzero : count core = 0 := by
    rw [count, hempty]
    rfl
  have hlossless := hwrites.list (a.visible (Service.after a.serve core events))
    (nodup_visible h.ownIds) fun s hs => h.understood s ((mem_visible h.ownIds).1 hs).1
  refine ⟨_, serve_getSubscriptions hlossless body correlationId d, ?_⟩
  rw [hlength]
  omega

set_option maxRecDepth 2000 in
/-- The list after the run of `locationEvents` has no subscription, or one. -/
theorem listed_count_location : ∃ listed : List Subscription,
    (locationSetting.serve (Service.after locationSetting.serve emptyCore locationEvents)
      (.http ⟨.subscriptions, "GET", ""⟩ "api-0-4" .answered locationEvents.draws)).2 =
        .response (jsonResponse locationLibrary 200
          (.arr (listed.map (describe hourFormat true false)))) ∧
    listed.length + 0 ≤ 1 + 0 ∧ 1 ≤ listed.length + 0 + 1 :=
  listed_count emptyCore rfl locationEvents (by decide) (by simp [locationEvents, Alone])
    writes_location rfl "" "api-0-4" locationEvents.draws

end ApiSetting

end PhineAf

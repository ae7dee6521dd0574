import PhineAf.Northbound.Subscriptions
import Mathlib.Data.List.Nodup

/-!
# Answers about subscriptions

What the API answers about an identifier is what its life is (`ApiSetting.exists_life`): a
subscription that is alive is shown and listed as it was created, and deleted once; before and
after, it is not found. If the communication service tells AF core a name for the adapter, the
subscriptions of other clients are neither listed nor deleted, and a request for one is answered
as an error of the server.
-/

namespace PhineAf

open SubscriptionManager ApiHandlers

namespace ApiSetting

variable {Q : Type} {a : ApiSetting Q} {x : String} {known : Subscription → Prop}
  {event : ApiEvent} {events : List ApiEvent} {core : AfCore Q} {l : SubscriptionLife}

/-! ## One answer -/

/-- A message of the adapter names the subscription, on behalf of its source. -/
theorem target_idContent (hx : a.lib.Lossless (idContent x)) (correlationId : String) :
    target a.lib ⟨correlationId, a.lib.dump (idContent x), a.metadata⟩ = .ok (x, a.source) := by
  have hparse : a.lib.parse (a.lib.dump (idContent x)) = .ok (idContent x) := hx
  have hid : member a.lib (idContent x) "id" Json.getStr = .ok (some x) := rfl
  have hclient : member a.lib (idContent x) "client_id" Json.getStr = .ok none := rfl
  simp only [target, requestClient, hparse, hid, hclient, source, bind, Except.bind, pure,
    Except.pure, Option.getD_none]

theorem unauthorized_iff (a : ApiSetting Q) (s : Subscription) :
    (!a.source.isEmpty && s.clientId != a.source) = true ↔ ¬a.May s := by
  simp [May]

/-- The reply to a message that names a subscription. -/
theorem Lives.find (h : a.Lives x known events core l) (hx : a.lib.Lossless (idContent x))
    (verb correlationId : String) :
    find a.lib verb ⟨correlationId, a.lib.dump (idContent x), a.metadata⟩ core.subscriptions =
      l.stored.elim
        (.error ⟨.notFound, correlationId,
          errorBody "not_found" ("Subscription not found: " ++ x)⟩)
        fun s => if a.May s then .ok (x, s)
          else .error ⟨.unauthorized, correlationId,
            errorBody "unauthorized" ("Not authorized to " ++ verb ++ " this subscription")⟩ := by
  rw [SubscriptionManager.find, target_idContent hx]
  dsimp only
  rw [h.stored]
  rcases l.stored with _ | s
  · rfl
  · rw [Option.elim_some]
    dsimp only
    by_cases hs : a.May s
    · rw [if_neg ((a.unauthorized_iff s).not.2 (not_not.2 hs)), if_pos hs]
    · rw [if_pos ((a.unauthorized_iff s).2 hs), if_neg hs]

/-- A subscription is shown. -/
theorem Lives.shown (h : a.Lives x known events core l) (hwrites : a.Writes known)
    (hx : a.lib.Lossless (idContent x)) (hne : x ≠ "") (body correlationId : String) (d : Draws) :
    (a.serve core (.http ⟨.subscription x, "GET", body⟩ correlationId .answered d)).2 =
      .response (a.shown l) := by
  have hroute : ApiAdapter.setupRoutes a.lib correlationId ⟨.subscription x, "GET", body⟩ =
      .ok (getSubscription a.lib x correlationId) := by
    simp [ApiAdapter.setupRoutes, hne]
  have hreply : (a.handle d (getSubscription a.lib x correlationId).request core).2 =
      (core.subscriptions.getSubscription a.lib a.format
        ⟨correlationId, a.lib.dump (idContent x), a.metadata⟩).toReply a.lib :=
    congrArg Prod.snd (AfOrchestrator.processMessage_getSubscription a.lib a.format a.qod)
  rw [ApiSetting.serve, hroute]
  dsimp only [exchange]
  rw [hreply, SubscriptionManager.getSubscription, h.find hx]
  refine congrArg ApiOutcome.response ?_
  cases l with
  | unborn => exact getSubscription_notFound a.lib rfl
  | gone => exact getSubscription_notFound a.lib rfl
  | alive s =>
    have hknown := h.understood s ((h.stores_iff (h.ownIds x s h.stored)).2 rfl)
    rw [SubscriptionLife.stored, Option.elim_some]
    by_cases hs : a.May s
    · rw [if_pos hs, ApiSetting.shown, if_pos hs]
      exact respond_of_forward a.lib rfl rfl (hwrites.details s hknown)
    · rw [if_neg hs, ApiSetting.shown, if_neg hs]
      exact getSubscription_unauthorized a.lib rfl

/-- A subscription is deleted. -/
theorem Lives.deleted (h : a.Lives x known (event :: events) core l)
    (hx : a.lib.Lossless (idContent x)) (hne : x ≠ "") {body correlationId : String} {d : Draws}
    (hevent : event = .http ⟨.subscription x, "DELETE", body⟩ correlationId .answered d) :
    l.next (a.storedAfter core event x) = (a.deletion l).1 ∧
      (a.serve core event).2 = .response (a.deletion l).2 := by
  have hroute : ApiAdapter.setupRoutes a.lib correlationId ⟨.subscription x, "DELETE", body⟩ =
      .ok (deleteSubscription a.lib x correlationId) := by
    simp [ApiAdapter.setupRoutes, hne]
  have hhandle : a.handle d (deleteSubscription a.lib x correlationId).request core =
      AfOrchestrator.deleteSubscription a.lib
        ⟨correlationId, a.lib.dump (idContent x), a.metadata⟩ core :=
    AfOrchestrator.processMessage_deleteSubscription a.lib a.format a.qod
  rw [hevent, storedAfter, ApiSetting.serve, hroute]
  dsimp only [exchange]
  rw [hhandle, AfOrchestrator.deleteSubscription, SubscriptionManager.deleteSubscription,
    h.find hx]
  cases l with
  | unborn =>
    refine ⟨congrArg (SubscriptionLife.next _) h.stored, congrArg ApiOutcome.response ?_⟩
    exact deleteSubscription_notFound a.lib rfl
  | gone =>
    refine ⟨congrArg (SubscriptionLife.next _) h.stored, congrArg ApiOutcome.response ?_⟩
    exact deleteSubscription_notFound a.lib rfl
  | alive s =>
    rw [SubscriptionLife.stored, Option.elim_some]
    by_cases hs : a.May s
    · rw [if_pos hs, deletion, if_pos hs]
      refine ⟨?_, rfl⟩
      dsimp only
      rw [AList.lookup_erase]
      rfl
    · rw [if_neg hs, deletion, if_neg hs]
      refine ⟨congrArg (SubscriptionLife.next _) h.stored, congrArg ApiOutcome.response ?_⟩
      exact deleteSubscription_unauthorized a.lib rfl

/-- The subscriptions that the adapter may ask for. -/
def visible (a : ApiSetting Q) (core : AfCore Q) : List Subscription :=
  core.subscriptions.subscriptions.values.filter fun s => a.May s

theorem nodup_visible (h : core.subscriptions.OwnIds) : (a.visible core).Nodup :=
  (nodup_values h).filter _

theorem mem_visible (h : core.subscriptions.OwnIds) {s : Subscription} :
    s ∈ a.visible core ↔ core.subscriptions.Stores s ∧ a.May s := by
  rw [visible, List.mem_filter, Table.mem_values, decide_eq_true_iff]
  refine and_congr_left fun _ => ⟨?_, fun hs => ⟨s.id, hs⟩⟩
  rintro ⟨i, hi⟩
  exact stores_of_lookup h hi

/-- The subscriptions are listed. -/
theorem serve_getSubscriptions
    (hlossless : a.lib.Lossless (.arr ((a.visible core).map (describe a.format true false))))
    (body correlationId : String) (d : Draws) :
    (a.serve core (.http ⟨.subscriptions, "GET", body⟩ correlationId .answered d)).2 = .response
      (jsonResponse a.lib 200 (.arr ((a.visible core).map (describe a.format true false)))) := by
  have hroute : ApiAdapter.setupRoutes a.lib correlationId ⟨.subscriptions, "GET", body⟩ =
      .ok (getSubscriptions a.lib correlationId) := by
    simp [ApiAdapter.setupRoutes]
  have hreply : (a.handle d (getSubscriptions a.lib correlationId).request core).2 =
      (core.subscriptions.getAllSubscriptions a.lib a.format
        ⟨correlationId, "", a.metadata⟩).toReply a.lib :=
    congrArg Prod.snd (AfOrchestrator.processMessage_getSubscriptions a.lib a.format a.qod)
  have hclient : listingClient a.lib ⟨correlationId, "", a.metadata⟩ = a.source := rfl
  have hvisible : core.subscriptions.subscriptions.values.filter
      (fun s => a.source.isEmpty || s.clientId == a.source) = a.visible core := by
    refine List.filter_congr fun s _ => ?_
    rw [Bool.eq_iff_iff, decide_eq_true_iff]
    simp [May]
  rw [serve, hroute]
  dsimp only [exchange]
  rw [hreply, getAllSubscriptions, hclient]
  dsimp only
  rw [hvisible]
  exact congrArg ApiOutcome.response (respond_of_forward a.lib rfl rfl hlossless)

theorem Lives.listed (h : a.Lives x known events core l) (hwrites : a.Writes known)
    (body correlationId : String) (d : Draws) : ∃ response,
      (a.serve core (.http ⟨.subscriptions, "GET", body⟩ correlationId .answered d)).2 =
        .response response ∧ a.Lists x l response := by
  have hlossless := hwrites.list (a.visible core) (nodup_visible h.ownIds)
    fun s hs => h.understood s ((mem_visible h.ownIds).1 hs).1
  refine ⟨_, serve_getSubscriptions hlossless body correlationId d, a.visible core, rfl,
    fun s hs => ?_⟩
  rw [mem_visible h.ownIds, h.stores_iff hs]

/-- A subscription is created. -/
theorem Lives.created (h : a.Lives x known (event :: events) core l) (hwrites : a.Writes known)
    {body correlationId : String} {d : Draws}
    (hevent : event = .http ⟨.subscriptions, "POST", body⟩ correlationId .answered d)
    (hdrawn : d.subscriptionId = x) : ∃ response, (a.serve core event).2 = .response response ∧
      a.Creates l (l.next (a.storedAfter core event x)) response := by
  subst hevent hdrawn
  have hroute : ApiAdapter.setupRoutes a.lib correlationId ⟨.subscriptions, "POST", body⟩ =
      ApiHandlers.createSubscription a.lib body correlationId := by
    simp [ApiAdapter.setupRoutes]
  have hmade := h.made _ List.mem_cons_self
  rw [call, hroute, ApiHandlers.createSubscription, exchangeBody] at hmade
  rw [storedAfter, ApiSetting.serve, hroute, ApiHandlers.createSubscription, exchangeBody]
  rcases hparse : a.lib.parse body with what | j
  · -- The body cannot be read.
    refine ⟨_, rfl, .inr ⟨?_, rfl⟩⟩
    exact (congrArg l.next h.stored).trans l.next_stored
  have hhandle : a.handle d (createMessage "create_subscription" (a.lib.dump j) correlationId)
      core = AfOrchestrator.createSubscription a.lib a.format d
        ⟨correlationId, a.lib.dump j, a.metadata⟩ core :=
    AfOrchestrator.processMessage_createSubscription a.lib a.format a.qod
  rw [hparse] at hmade
  dsimp only [exchange]
  rw [hhandle, AfOrchestrator.createSubscription, SubscriptionManager.createSubscription]
  rcases hs : a.lib.parse (a.lib.dump j) >>= subscriptionOf a.lib d.subscriptionId d.now
    ⟨correlationId, a.lib.dump j, a.metadata⟩ with what | s
  · -- AF core does not accept it.
    refine ⟨_, rfl, .inr ⟨?_, status_of_subscription_error a.lib rfl⟩⟩
    exact (congrArg l.next h.stored).trans l.next_stored
  · obtain ⟨request, -, hrequest⟩ := Json.bind_eq_ok.1 hs
    have hid := (subscriptionOf_eq_ok hrequest).1
    have hmakes : TimedCall.Makes a.lib s
        ⟨d.now, .create d.subscriptionId ⟨correlationId, a.lib.dump j, a.metadata⟩⟩ :=
      makes_create.2 hs
    have hknown : known s := hmade _ rfl s hmakes
    refine ⟨_, rfl, .inl ⟨s, ?_, respond_of_forward a.lib rfl rfl (hwrites.created s hknown)⟩⟩
    dsimp only
    rw [hid, AList.lookup_insert]
    rfl

/-! ## All events -/

/-- The life goes on when something happens, and the API answers accordingly. -/
theorem Lives.explains (h : a.Lives x known (event :: events) core l) (hwrites : a.Writes known)
    (hx : a.lib.Lossless (idContent x)) (hne : x ≠ "") :
    a.Explains x l (event, (a.serve core event).2) (l.next (a.storedAfter core event x)) where
  step := h.step
  shown body correlationId d hevent := by
    obtain rfl : event = _ := hevent
    exact h.shown hwrites hx hne body correlationId d
  deleted body correlationId d hevent := h.deleted hx hne hevent
  listed body correlationId d hevent := by
    obtain rfl : event = _ := hevent
    exact h.listed hwrites body correlationId d
  created body correlationId d hevent hdrawn := h.created hwrites hevent hdrawn

/-- Nothing lives before there are subscriptions. -/
theorem lives_of_empty (hempty : core.subscriptions.subscriptions = ∅)
    (hdrawn : (events.filterMap a.drawn).Nodup) (x : String) :
    a.Lives x (a.Made events) events core .unborn where
  stored := by
    rw [hempty]
    rfl
  ownIds i s hs := by
    rw [hempty] at hs
    cases hs
  understood s hs := by
    rw [Stores, hempty] at hs
    cases hs
  made event hevent c hc s hs := ⟨event, hevent, c, hc, hs⟩
  fresh := hdrawn
  born h := absurd rfl h

/-- An identifier lives once, and all that the API answers about it is what its life is at the
    time, as long as no identifier is drawn twice. -/
theorem exists_life (core : AfCore Q) (hempty : core.subscriptions.subscriptions = ∅)
    (events : List ApiEvent) (hdrawn : (events.filterMap a.drawn).Nodup)
    (hwrites : a.Writes (a.Made events)) (hx : a.lib.Lossless (idContent x)) (hne : x ≠ "") :
    ∃ l, Service.Trace (a.Explains x) .unborn (events.zip (Service.answers a.serve core events))
      l :=
  Service.exists_trace (fun _ _ _ _ h => ⟨_, h.explains hwrites hx hne, h.serve⟩)
    (lives_of_empty hempty hdrawn x)

/-! ## A subscription that lives for a while -/

/-- The body of a request for a subscription. -/
def locationBody : String :=
  "\x7b\"event_type\":\"location\",\"callback_service\":\"analytics\"\x7d"

/-- The subscription that is created. -/
def locationSubscription : Subscription where
  id := "sub-1"
  clientId := "unknown"
  eventType := "location"
  notificationUrl := ""
  filterCriteria := ∅
  expiryTime := 3600 * nanos
  active := true
  callbackService := "analytics"

/-- How AF core writes the end of the first hour. -/
def hourFormat (_ : ℤ) : String := "1970-01-01T01:00:00Z"

/-- The text of the subscription, with the members that only some replies have. -/
def locationText (active : String) : String :=
  "\x7b" ++ active ++ "\"callback_service\":\"analytics\",\"client_id\":\"unknown\"," ++
    "\"event_type\":\"location\",\"expiry_time\":\"1970-01-01T01:00:00Z\",\"id\":\"sub-1\"\x7d"

/-- A library that knows the documents about the subscription. -/
def locationLibrary : Json.Library where
  dump
    | .arr [] => "[]"
    | .arr _ => "[" ++ locationText "\"active\":true," ++ "]"
    | .obj [(_, .str id)] => "\x7b\"id\":\"" ++ id ++ "\"\x7d"
    | .obj [("error", .str error), (_, .str message)] =>
      "\x7b\"error\":\"" ++ error ++ "\",\"message\":\"" ++ message ++ "\"\x7d"
    | .obj [_, _] => locationBody
    | .obj [_, _, _, _, _] => locationText ""
    | .obj [_, _, _, _, _, _] => locationText "\"active\":true,"
    | _ => "null"
  parse s :=
    if s = locationBody then
      .ok (.obj [("event_type", .str "location"), ("callback_service", .str "analytics")])
    else if s = "\x7b\"id\":\"sub-1\"\x7d" then .ok (idContent "sub-1")
    else if s = locationText "" then .ok (describe hourFormat false true locationSubscription)
    else if s = locationText "\"active\":true," then
      .ok (describe hourFormat true true locationSubscription)
    else if s = "[]" then .ok (.arr [])
    else if s = "[" ++ locationText "\"active\":true," ++ "]" then
      .ok (.arr [describe hourFormat true false locationSubscription])
    else .error "[json.exception.parse_error.101] parse error"
  what _ := ""

/-- A setting without QoD sessions, in which the adapter has no name. -/
def locationSetting : ApiSetting Unit where
  lib := locationLibrary
  format := hourFormat
  qod := ⟨handler, handler, handler, handler, handler⟩
  metadata := ∅
where
  handler m q := (q, ⟨"error", m.correlationId, "", ∅⟩)

/-- AF core without subscriptions. -/
def emptyCore : AfCore Unit := .create "pcf-handler:50052" [] ()

/-- The subscription is created, shown, and deleted twice; the reply to the first deletion is
    lost. -/
def locationEvents : List ApiEvent :=
  [.http ⟨.subscriptions, "POST", locationBody⟩ "api-0-0" .answered draws,
    .http ⟨.subscription "sub-1", "GET", ""⟩ "api-0-1" .answered draws,
    .http ⟨.subscription "sub-1", "DELETE", ""⟩ "api-0-2" (.unanswered none) draws,
    .http ⟨.subscription "sub-1", "DELETE", ""⟩ "api-0-3" .answered draws]
where
  draws : Draws := ⟨0, "sub-1", "policy-1", .ok none⟩

/-- The calls of the subscription manager in the run. -/
theorem filterMap_call_locationEvents : locationEvents.filterMap locationSetting.call =
    [⟨0, .create "sub-1" ⟨"api-0-0", locationBody, ∅⟩⟩,
      ⟨0, .delete ⟨"api-0-2", "\x7b\"id\":\"sub-1\"\x7d", ∅⟩⟩,
      ⟨0, .delete ⟨"api-0-3", "\x7b\"id\":\"sub-1\"\x7d", ∅⟩⟩] := rfl

/-- No other subscription is made. -/
theorem eq_of_made {s : Subscription} (h : locationSetting.Made locationEvents s) :
    s = locationSubscription := by
  obtain ⟨event, hevent, c, hc, m, hcall, hs⟩ := h
  have hmem : c ∈ locationEvents.filterMap locationSetting.call :=
    List.mem_filterMap.2 ⟨event, hevent, hc⟩
  rw [filterMap_call_locationEvents] at hmem
  simp only [List.mem_cons, List.not_mem_nil, or_false] at hmem
  rcases hmem with rfl | rfl | rfl <;>
    simp only [reduceCtorEq, SubscriptionCall.create.injEq] at hcall
  obtain ⟨hid, rfl⟩ := hcall
  rw [← hid] at hs
  have hcreated : locationSetting.lib.parse locationBody >>=
      subscriptionOf locationSetting.lib "sub-1" 0 ⟨"api-0-0", locationBody, ∅⟩ =
        .ok locationSubscription := rfl
  exact Except.ok.inj (hs.symm.trans hcreated)

set_option maxRecDepth 1000 in
theorem writes_location : locationSetting.Writes (locationSetting.Made locationEvents) where
  created s hs := by
    rw [eq_of_made hs]
    rfl
  details s hs := by
    rw [eq_of_made hs]
    rfl
  list l hl hmade := by
    have hall : ∀ s ∈ l, s = locationSubscription := fun s hs => eq_of_made (hmade s hs)
    rcases l with _ | ⟨s, _ | ⟨s', l⟩⟩
    · rfl
    · rw [hall s List.mem_cons_self]
      rfl
    · -- The subscription is listed once.
      have hsame : s = s' := (hall s (by simp)).trans (hall s' (by simp)).symm
      exact absurd (hsame ▸ List.mem_cons_self) (List.nodup_cons.1 hl).1

/-- The run follows the life of the subscription. -/
theorem exists_life_location : ∃ l, Service.Trace (locationSetting.Explains "sub-1") .unborn
    (locationEvents.zip (Service.answers locationSetting.serve emptyCore locationEvents)) l :=
  exists_life emptyCore rfl locationEvents (by decide) writes_location rfl (by decide)

end ApiSetting

end PhineAf

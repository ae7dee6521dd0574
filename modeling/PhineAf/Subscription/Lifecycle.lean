import PhineAf.Lib.Service
import PhineAf.Subscription.Filter

/-!
# Runs of the subscription manager

Calls of the manager, each at its time: subscriptions are created, listed, shown and
deleted, events are notified, and the expired subscriptions are removed. A call makes a
subscription (`TimedCall.Makes`) or puts an end to one (`TimedCall.Ends`), and what the manager
stores is told by these alone (`lookup_serve`).

Whom an event is sent to is decided by the history of the calls (`notified_of_history`), and
removing the expired subscriptions now and then, or never, makes no difference to any
event (`notifications_without_cleanup`).
-/

namespace PhineAf

/-- A call of the manager. -/
inductive SubscriptionCall
  /-- A creation, with the identifier that is drawn. -/
  | create (id : String) (m : Message)
  | list (m : Message)
  | get (m : Message)
  | delete (m : Message)
  | notify (eventType : String) (data : Json)
  | cleanup

/-- A call, and the time it is made at. -/
structure TimedCall where
  now : ℤ
  call : SubscriptionCall

/-- What a call returns. -/
inductive SubscriptionAnswer
  | reply (r : SubscriptionReply)
  /-- What has been sent for an event, and how much of it. -/
  | notified (sent : List EventNotification × ℕ)
  /-- The number of subscriptions that have been removed. -/
  | removed (count : ℕ)

namespace SubscriptionManager

variable (lib : Json.Library) (format : ℤ → String)

/-- A manager without subscriptions. -/
def empty (services : List String) : SubscriptionManager := ⟨∅, services⟩

/-- A call is served. -/
def serve (μ : SubscriptionManager) (c : TimedCall) : SubscriptionManager × SubscriptionAnswer :=
  match c.call with
  | .create id m =>
    let (μ, r) := createSubscription lib format id c.now m μ
    (μ, .reply r)
  | .list m => (μ, .reply (getAllSubscriptions lib format m μ))
  | .get m => (μ, .reply (getSubscription lib format m μ))
  | .delete m =>
    let (μ, r) := deleteSubscription lib m μ
    (μ, .reply r)
  | .notify eventType data => (μ, .notified (notifyEvent lib c.now eventType data μ))
  | .cleanup =>
    let (μ, count) := cleanupExpiredSubscriptions c.now μ
    (μ, .removed count)

end SubscriptionManager

namespace TimedCall

open SubscriptionManager

variable (lib : Json.Library)

/-- The call creates the subscription. -/
def Makes (s : Subscription) (c : TimedCall) : Prop :=
  ∃ m, c.call = .create s.id m ∧ lib.parse m.payload >>= subscriptionOf lib s.id c.now m = .ok s

/-- The call takes the identifier of the subscription for a new one, or asks for its deletion
    on behalf of its client, or of none. -/
def Cancels (s : Subscription) (c : TimedCall) : Prop :=
  (∃ s', s'.id = s.id ∧ c.Makes lib s') ∨
  ∃ m clientId, c.call = .delete m ∧ target lib m = .ok (s.id, clientId) ∧
    (clientId = "" ∨ s.clientId = clientId)

/-- The call puts an end to the subscription. -/
def Ends (s : Subscription) (c : TimedCall) : Prop :=
  c.Cancels lib s ∨ (c.call = .cleanup ∧ s.expiryTime < c.now)

end TimedCall

namespace SubscriptionManager

variable {lib : Json.Library} {format : ℤ → String}

/-! ## What a call does -/

variable (lib format) in
/-- What is stored after a creation. -/
theorem createSubscription_lookup (id : String) (now : ℤ) (m : Message)
    (μ : SubscriptionManager) (i : String) :
    (createSubscription lib format id now m μ).1.subscriptions.lookup i =
      if i = id then ((lib.parse m.payload >>= subscriptionOf lib id now m).toOption).or
        (μ.subscriptions.lookup i) else μ.subscriptions.lookup i := by
  rw [createSubscription]
  rcases hs : lib.parse m.payload >>= subscriptionOf lib id now m with what | s
  · split_ifs <;> rfl
  · obtain ⟨request, -, hrequest⟩ := Json.bind_eq_ok.1 hs
    dsimp only
    rw [Table.lookup_insert_eq, (subscriptionOf_eq_ok hrequest).1]
    split_ifs <;> rfl

variable (lib) in
/-- What is stored after a deletion. -/
theorem deleteSubscription_lookup (m : Message) (μ : SubscriptionManager) (i : String)
    (s : Subscription) :
    (deleteSubscription lib m μ).1.subscriptions.lookup i = some s ↔
      μ.subscriptions.lookup i = some s ∧
        ¬∃ clientId, target lib m = .ok (i, clientId) ∧
          (clientId = "" ∨ s.clientId = clientId) := by
  rw [deleteSubscription, find]
  rcases htarget : target lib m with what | ⟨id, clientId⟩
  · simp
  dsimp only
  rcases hs : μ.subscriptions.lookup id with _ | s'
  · refine (and_iff_left_of_imp fun hi => ?_).symm
    rintro ⟨c, hc, -⟩
    cases hc
    rw [hs] at hi
    cases hi
  dsimp only
  split_ifs with hclient
  · refine (and_iff_left_of_imp fun hi => ?_).symm
    rintro ⟨c, hc, hauthorized⟩
    cases hc
    rw [hs] at hi
    cases hi
    simp_all
  · dsimp only
    rw [Table.lookup_erase_eq]
    split_ifs with hi
    · subst hi
      refine iff_of_false (by simp) fun h => h.2 ⟨clientId, rfl, ?_⟩
      rw [hs] at h
      cases h.1
      by_cases hempty : clientId = ""
      · exact .inl hempty
      · exact .inr (by simpa [hempty] using hclient)
    · refine (and_iff_left fun h => hi ?_).symm
      obtain ⟨c, hc, -⟩ := h
      cases hc
      rfl

/-- What is stored after the expired subscriptions have been removed. -/
theorem cleanupExpiredSubscriptions_lookup (now : ℤ) (μ : SubscriptionManager) (i : String)
    (s : Subscription) :
    (cleanupExpiredSubscriptions now μ).1.subscriptions.lookup i = some s ↔
      μ.subscriptions.lookup i = some s ∧ ¬s.expiryTime < now := by
  rw [cleanupExpiredSubscriptions]
  dsimp only
  rw [Table.lookup_foldl_erase]
  split_ifs with hi
  · obtain ⟨-, hexpired⟩ := List.mem_filter.1 hi
    refine iff_of_false (by simp) fun h => h.2 ?_
    simpa [h.1] using hexpired
  · refine (and_iff_left_of_imp fun hs hexpired => hi ?_).symm
    refine List.mem_filter.2 ⟨?_, by simpa [hs] using hexpired⟩
    exact AList.mem_keys.1 (AList.lookup_isSome.1 (by rw [hs]; rfl))

/-- The subscription is stored. -/
def Stores (μ : SubscriptionManager) (s : Subscription) : Prop :=
  μ.subscriptions.lookup s.id = some s

/-- Subscriptions are stored under their identifiers. -/
def OwnIds (μ : SubscriptionManager) : Prop :=
  ∀ i s, μ.subscriptions.lookup i = some s → s.id = i

theorem stores_of_lookup {μ : SubscriptionManager} (h : μ.OwnIds) {i : String}
    {s : Subscription} (hs : μ.subscriptions.lookup i = some s) : μ.Stores s := by
  rwa [Stores, h i s hs]

variable (lib format) in
theorem ownIds_serve {μ : SubscriptionManager} (h : μ.OwnIds) (c : TimedCall) :
    (serve lib format μ c).1.OwnIds := by
  intro i s hs
  obtain ⟨now, call⟩ := c
  cases call with
  | create id m =>
    change (createSubscription lib format id now m μ).1.subscriptions.lookup i = some s at hs
    rw [createSubscription_lookup] at hs
    split_ifs at hs with hi
    · rcases hr : lib.parse m.payload >>= subscriptionOf lib id now m with what | s'
      · rw [hr] at hs
        exact h i s hs
      · rw [hr] at hs
        cases hs
        obtain ⟨request, -, hrequest⟩ := Json.bind_eq_ok.1 hr
        rw [(subscriptionOf_eq_ok hrequest).1, hi]
    · exact h i s hs
  | delete m => exact h i s ((deleteSubscription_lookup lib m μ i s).1 hs).1
  | cleanup => exact h i s ((cleanupExpiredSubscriptions_lookup now μ i s).1 hs).1
  | list m => exact h i s hs
  | get m => exact h i s hs
  | notify eventType data => exact h i s hs

/-- What a creation makes has its identifier. -/
theorem makes_create {now : ℤ} {id : String} {m : Message} {s : Subscription} :
    TimedCall.Makes lib s ⟨now, .create id m⟩ ↔
      lib.parse m.payload >>= subscriptionOf lib id now m = .ok s := by
  constructor
  · rintro ⟨m', hcall, hs⟩
    cases hcall
    exact hs
  · intro hs
    obtain ⟨request, -, hrequest⟩ := Json.bind_eq_ok.1 hs
    obtain rfl := (subscriptionOf_eq_ok hrequest).1
    exact ⟨m, rfl, hs⟩

/-- A creation that succeeds ends the subscription that has its identifier. -/
theorem ends_create {now : ℤ} {id : String} {m : Message} {s : Subscription} :
    TimedCall.Ends lib s ⟨now, .create id m⟩ ↔
      s.id = id ∧ ∃ s', lib.parse m.payload >>= subscriptionOf lib id now m = .ok s' := by
  simp only [TimedCall.Ends, TimedCall.Cancels, makes_create, reduceCtorEq, false_and,
    exists_false, or_false]
  constructor
  · rintro ⟨s', hid, hs'⟩
    obtain ⟨request, -, hrequest⟩ := Json.bind_eq_ok.1 hs'
    exact ⟨hid.symm.trans (subscriptionOf_eq_ok hrequest).1, s', hs'⟩
  · rintro ⟨rfl, s', hs'⟩
    obtain ⟨request, -, hrequest⟩ := Json.bind_eq_ok.1 hs'
    exact ⟨s', (subscriptionOf_eq_ok hrequest).1, hs'⟩

variable (lib format) in
/-- What is stored after a call is what it makes, and what it does not end. -/
theorem stores_serve (μ : SubscriptionManager) (c : TimedCall) (s : Subscription) :
    (serve lib format μ c).1.Stores s ↔ c.Makes lib s ∨ (μ.Stores s ∧ ¬c.Ends lib s) := by
  obtain ⟨now, call⟩ := c
  cases call with
  | create id m =>
    rw [makes_create, ends_create]
    change (createSubscription lib format id now m μ).1.subscriptions.lookup s.id = some s ↔ _
    rw [createSubscription_lookup]
    rcases hr : lib.parse m.payload >>= subscriptionOf lib id now m with what | s'
    · -- The creation fails.
      simp [Stores, Except.toOption]
    · obtain ⟨request, -, hrequest⟩ := Json.bind_eq_ok.1 hr
      have hid := (subscriptionOf_eq_ok hrequest).1
      by_cases hi : s.id = id
      · simp [hi, Except.toOption]
      · have hne : s' ≠ s := fun h => hi (h ▸ hid)
        simp [hi, hne, Stores]
  | delete m =>
    refine (deleteSubscription_lookup lib m μ s.id s).trans ?_
    simp [TimedCall.Makes, TimedCall.Ends, TimedCall.Cancels, Stores]
  | cleanup =>
    refine (cleanupExpiredSubscriptions_lookup now μ s.id s).trans ?_
    simp [TimedCall.Makes, TimedCall.Ends, TimedCall.Cancels, Stores]
  | list m => simp [serve, TimedCall.Makes, TimedCall.Ends, TimedCall.Cancels]
  | get m => simp [serve, TimedCall.Makes, TimedCall.Ends, TimedCall.Cancels]
  | notify eventType data => simp [serve, TimedCall.Makes, TimedCall.Ends, TimedCall.Cancels]

/-! ## Whom an event is sent to -/

variable (lib) in
/-- Some calls have created the subscription, and it has not been cancelled since. -/
def Subscribed (calls : List TimedCall) (s : Subscription) : Prop :=
  ∃ before c later, calls = before ++ c :: later ∧ c.Makes lib s ∧ ∀ d ∈ later, ¬d.Cancels lib s

theorem ownIds_empty (services : List String) : (empty services).OwnIds := by
  intro i s hs
  cases hs

variable (lib format) in
theorem ownIds_after (services : List String) (calls : List TimedCall) :
    (Service.after (serve lib format) (empty services) calls).OwnIds :=
  Service.after_of_invariant (fun _ c h => ownIds_serve lib format h c) (ownIds_empty services)

variable (lib format) in
/-- What has not expired is stored exactly if it is subscribed. -/
theorem stores_after_iff (services : List String) {calls : List TimedCall} {now : ℤ}
    (hclock : ∀ c ∈ calls, c.now ≤ now) {s : Subscription} (hs : now ≤ s.expiryTime) :
    (Service.after (serve lib format) (empty services) calls).Stores s ↔
      Subscribed lib calls s := by
  have hempty : ¬(empty services).Stores s := by
    rw [Stores, empty, AList.lookup_empty]
    exact nofun
  refine (Service.after_iff (P := (Stores · s)) (fun μ c => stores_serve lib format μ c s)
    hempty).trans ?_
  constructor
  · rintro ⟨before, c, later, hcalls, hmakes, hlater⟩
    exact ⟨before, c, later, hcalls, hmakes, fun d hd hcancels => hlater d hd (.inl hcancels)⟩
  · rintro ⟨before, c, later, rfl, hmakes, hlater⟩
    refine ⟨before, c, later, rfl, hmakes, fun d hd hends => ?_⟩
    rcases hends with hcancels | ⟨-, hexpired⟩
    · exact hlater d hd hcancels
    · have hd' := hclock d (by simp [hd])
      omega

/-- The values of a table whose keys can be told from them have no repetition. -/
theorem nodup_values {μ : SubscriptionManager} (h : μ.OwnIds) : μ.subscriptions.values.Nodup := by
  rw [Table.values]
  refine μ.subscriptions.nodupKeys.nodup.map_on ?_
  rintro ⟨i, s⟩ hs ⟨i', s'⟩ hs' heq
  obtain rfl : s = s' := heq
  rw [← h i s (AList.mem_lookup_iff.2 hs), ← h i' s (AList.mem_lookup_iff.2 hs')]

variable (lib format) in
/-- The services stay what they are. -/
theorem services_serve (μ : SubscriptionManager) (c : TimedCall) :
    (serve lib format μ c).1.services = μ.services := by
  obtain ⟨now, call⟩ := c
  cases call with
  | create id m =>
    change (createSubscription lib format id now m μ).1.services = _
    rw [createSubscription]
    split <;> rfl
  | delete m =>
    change (deleteSubscription lib m μ).1.services = _
    rw [deleteSubscription]
    split <;> rfl
  | _ => rfl

variable (lib format) in
theorem services_after (services : List String) (calls : List TimedCall) :
    (Service.after (serve lib format) (empty services) calls).services =
      (empty services).services :=
  Service.after_of_invariant (P := fun μ => μ.services = services)
    (fun μ c h => (services_serve lib format μ c).trans h) rfl

/-- What is sent for a subscription is told by the services. -/
theorem sendNotification_congr {data : Json} {μ ν : SubscriptionManager}
    (h : μ.services = ν.services) : sendNotification data μ = sendNotification data ν := by
  funext s
  rw [sendNotification, sendNotification, h]

theorem le_expiryTime_of_selects {now : ℤ} {eventType : String} {data : Json} {s : Subscription}
    (h : selects lib now eventType data s) : now ≤ s.expiryTime := by
  simp only [selects, Bool.and_eq_true, Bool.not_eq_true', decide_eq_false_iff_not] at h
  exact not_lt.1 h.1.2

theorem mem_matchingSubscriptions {μ : SubscriptionManager} (hown : μ.OwnIds) {now : ℤ}
    {eventType : String} {data : Json} {s : Subscription} :
    s ∈ matchingSubscriptions lib now eventType data μ ↔
      μ.Stores s ∧ selects lib now eventType data s := by
  rw [matchingSubscriptions, List.mem_filter, Table.mem_values]
  refine and_congr_left fun _ => ⟨?_, fun h => ⟨s.id, h⟩⟩
  rintro ⟨i, hi⟩
  exact stores_of_lookup hown hi

variable (lib format) in
/-- An event is sent once for each subscription that it selects, out of those that have been
    created and not cancelled since. -/
theorem notified_of_history (services : List String) (calls : List TimedCall) (now : ℤ)
    (hclock : ∀ c ∈ calls, c.now ≤ now) (eventType : String) (data : Json) :
    ∃ selected : List Subscription, selected.Nodup ∧
      (∀ s, s ∈ selected ↔ Subscribed lib calls s ∧ selects lib now eventType data s) ∧
      notifyEvent lib now eventType data
          (Service.after (serve lib format) (empty services) calls) =
        (selected.filterMap (sendNotification data (empty services)),
          (selected.filterMap (sendNotification data (empty services))).length) := by
  have hown := ownIds_after lib format services calls
  refine ⟨matchingSubscriptions lib now eventType data
    (Service.after (serve lib format) (empty services) calls), ?_, fun s => ?_, ?_⟩
  · exact (nodup_values hown).filter _
  · rw [mem_matchingSubscriptions hown]
    refine and_congr_left fun hs => ?_
    exact stores_after_iff lib format services hclock (le_expiryTime_of_selects hs)
  · rw [notifyEvent, sendNotification_congr (services_after lib format services calls)]

/-- The text of a request for the events of a type, to be sent to a service. -/
def serviceText (service : String) : String :=
  "\x7b\"callback_service\":\"" ++ service ++ "\",\"event_type\":\"location\"\x7d"

/-- The text of such a request, with an URL. -/
def urlText : String :=
  "\x7b\"event_type\":\"location\",\"notification_url\":\"https://maps.example.com\"\x7d"

/-- A library that knows such requests. -/
def eventLibrary : Json.Library where
  dump _ := "null"
  parse s :=
    if s = serviceText "analytics" then
      .ok (.obj [("callback_service", .str "analytics"), ("event_type", .str "location")])
    else if s = serviceText "billing" then
      .ok (.obj [("callback_service", .str "billing"), ("event_type", .str "location")])
    else if s = urlText then
      .ok (.obj [("event_type", .str "location"),
        ("notification_url", .str "https://maps.example.com")])
    else .error "parse error"
  what _ := ""

/-- Three subscriptions for an hour, and a clean-up before it is over. -/
def locationCalls : List TimedCall :=
  [⟨0, .create "sub-1" ⟨"corr-1", serviceText "analytics", ∅⟩⟩,
    ⟨0, .create "sub-2" ⟨"corr-2", serviceText "billing", ∅⟩⟩,
    ⟨0, .create "sub-3" ⟨"corr-3", urlText, ∅⟩⟩, ⟨1200 * nanos, .cleanup⟩]

/-- An event within the hour selects all three; it is sent to the service that is there, and
    logged for the URL. -/
theorem event_within_hour : ∃ selected : List Subscription, selected.Nodup ∧
    (∀ s, s ∈ selected ↔ Subscribed eventLibrary locationCalls s ∧
      selects eventLibrary (1800 * nanos) "location" .null s) ∧
    selected.filterMap (sendNotification .null (empty ["analytics"])) =
      [.external "https://maps.example.com", .message "analytics" "location" "sub-1" .null] ∧
    (notifyEvent eventLibrary (1800 * nanos) "location" .null
      (Service.after (serve eventLibrary toString) (empty ["analytics"]) locationCalls)).2 = 2 := by
  obtain ⟨selected, hnodup, hselected, hsent⟩ := notified_of_history eventLibrary toString
    ["analytics"] locationCalls (1800 * nanos) (by simp [locationCalls, nanos]) "location" .null
  have hall : notifyEvent eventLibrary (1800 * nanos) "location" .null
      (Service.after (serve eventLibrary toString) (empty ["analytics"]) locationCalls) =
        ([.external "https://maps.example.com", .message "analytics" "location" "sub-1" .null],
          2) := rfl
  exact ⟨selected, hnodup, hselected, congrArg Prod.fst (hsent.symm.trans hall),
    congrArg Prod.snd hall⟩

/-! ## Clean-ups -/

/-- The notification of an event, if the answer is one. -/
def notification : SubscriptionAnswer → Option (List EventNotification × ℕ)
  | .notified sent => some sent
  | _ => none

/-- The same is sent, in some order. -/
def SameSent (sent sent' : List EventNotification × ℕ) : Prop :=
  sent.1.Perm sent'.1 ∧ sent.2 = sent'.2

/-- Managers with the same services that, at the times of the calls to come, have the same
    subscriptions, but for those that have expired. -/
structure InStep (calls : List TimedCall) (μ ν : SubscriptionManager) : Prop where
  services : μ.services = ν.services
  ownIds : μ.OwnIds ∧ ν.OwnIds
  clock : calls.Pairwise fun c d => c.now ≤ d.now
  alive : ∀ c ∈ calls, ∀ s, c.now ≤ s.expiryTime → (μ.Stores s ↔ ν.Stores s)

/-- What is alive at a call is so at the calls before. -/
theorem InStep.le {c : TimedCall} {calls : List TimedCall} {μ ν : SubscriptionManager}
    (h : InStep (c :: calls) μ ν) {d : TimedCall} (hd : d ∈ calls) : c.now ≤ d.now :=
  (List.pairwise_cons.1 h.clock).1 d hd

variable (lib format) in
/-- Managers stay in step when both serve a call. -/
theorem InStep.serve {c : TimedCall} {calls : List TimedCall} {μ ν : SubscriptionManager}
    (h : InStep (c :: calls) μ ν) :
    InStep calls (SubscriptionManager.serve lib format μ c).1
      (SubscriptionManager.serve lib format ν c).1 where
  services := by rw [services_serve, services_serve, h.services]
  ownIds := ⟨ownIds_serve lib format h.ownIds.1 c, ownIds_serve lib format h.ownIds.2 c⟩
  clock := (List.pairwise_cons.1 h.clock).2
  alive d hd s hs := by
    rw [stores_serve, stores_serve, h.alive c List.mem_cons_self s ((h.le hd).trans hs)]

variable (lib format) in
/-- Managers stay in step when only one of them removes the expired subscriptions. -/
theorem InStep.cleanup {c : TimedCall} {calls : List TimedCall} {μ ν : SubscriptionManager}
    (h : InStep (c :: calls) μ ν) (hc : c.call = .cleanup) :
    InStep calls (SubscriptionManager.serve lib format μ c).1 ν where
  services := by rw [services_serve, h.services]
  ownIds := ⟨ownIds_serve lib format h.ownIds.1 c, h.ownIds.2⟩
  clock := (List.pairwise_cons.1 h.clock).2
  alive d hd s hs := by
    have hle := h.le hd
    rw [stores_serve, ← h.alive c List.mem_cons_self s (hle.trans hs)]
    have hmakes : ¬c.Makes lib s := by
      rintro ⟨m, hcreate, -⟩
      rw [hc] at hcreate
      cases hcreate
    have hends : ¬c.Ends lib s := by
      rintro ((⟨s', -, m, hcreate, -⟩ | ⟨m, clientId, hdelete, -⟩) | ⟨-, hexpired⟩)
      · rw [hc] at hcreate
        cases hcreate
      · rw [hc] at hdelete
        cases hdelete
      · omega
    rw [or_iff_right hmakes, and_iff_left hends]

/-- An event sends the same from managers in step. -/
theorem InStep.sameSent {c : TimedCall} {calls : List TimedCall} {μ ν : SubscriptionManager}
    (h : InStep (c :: calls) μ ν) (eventType : String) (data : Json) :
    SameSent (notifyEvent lib c.now eventType data μ) (notifyEvent lib c.now eventType data ν) := by
  have hperm : (matchingSubscriptions lib c.now eventType data μ).Perm
      (matchingSubscriptions lib c.now eventType data ν) := by
    refine (List.perm_ext_iff_of_nodup ((nodup_values h.ownIds.1).filter _)
      ((nodup_values h.ownIds.2).filter _)).2 fun s => ?_
    change s ∈ matchingSubscriptions lib c.now eventType data μ ↔
      s ∈ matchingSubscriptions lib c.now eventType data ν
    rw [mem_matchingSubscriptions h.ownIds.1, mem_matchingSubscriptions h.ownIds.2]
    refine and_congr_left fun hs => ?_
    exact h.alive c List.mem_cons_self s (le_expiryTime_of_selects hs)
  have hsent := hperm.filterMap (sendNotification data ν)
  rw [notifyEvent, notifyEvent, sendNotification_congr h.services]
  exact ⟨hsent, hsent.length_eq⟩

variable (lib format) in
/-- Whether, and when, the expired subscriptions are removed makes no difference to what the
    events send. -/
theorem notifications_without_cleanup (services : List String) (calls : List TimedCall)
    (hclock : calls.Pairwise fun c d => c.now ≤ d.now) (keep : TimedCall → Bool)
    (hkeep : ∀ c ∈ calls, keep c = false → c.call = .cleanup) :
    List.Forall₂ SameSent
      ((Service.answers (serve lib format) (empty services) calls).filterMap notification)
      ((Service.answers (serve lib format) (empty services) (calls.filter keep)).filterMap
        notification) := by
  refine Service.observed_forall₂
    (R := fun calls μ ν => InStep calls μ ν ∧ ∀ c ∈ calls, keep c = false → c.call = .cleanup)
    ?_ ?_ ⟨⟨rfl, ⟨ownIds_empty services, ownIds_empty services⟩, hclock, fun _ _ _ _ => Iff.rfl⟩,
      hkeep⟩
  · rintro c calls μ ν ⟨h, hkeep⟩ -
    refine ⟨⟨h.serve lib format, fun d hd => hkeep d (List.mem_cons_of_mem c hd)⟩, ?_⟩
    obtain ⟨now, call⟩ := c
    cases call with
    | notify eventType data => exact .some (h.sameSent eventType data)
    | _ => exact .none
  · rintro c calls μ ν ⟨h, hkeep⟩ hc
    have hcleanup := hkeep c List.mem_cons_self hc
    refine ⟨⟨h.cleanup lib format hcleanup, fun d hd => hkeep d (List.mem_cons_of_mem c hd)⟩, ?_⟩
    rw [SubscriptionManager.serve, hcleanup]
    rfl

/-- A subscription for an hour, a clean-up after two hours, and an event. -/
def hourEvents : List TimedCall :=
  [⟨0, .create "sub-1" ⟨"corr-1", serviceText "analytics", ∅⟩⟩, ⟨7200 * nanos, .cleanup⟩,
    ⟨7200 * nanos, .notify "location" .null⟩]

/-- A call other than a clean-up. -/
def noCleanup (c : TimedCall) : Bool := !(c.call matches .cleanup)

/-- The clean-up before the event is left out. -/
theorem hourEvents_without_cleanup : List.Forall₂ SameSent
    ((Service.answers (serve eventLibrary toString) (empty ["analytics"]) hourEvents).filterMap
      notification)
    ((Service.answers (serve eventLibrary toString) (empty ["analytics"])
      (hourEvents.filter noCleanup)).filterMap notification) :=
  notifications_without_cleanup eventLibrary toString ["analytics"] hourEvents
    (by simp [hourEvents, nanos]) noCleanup
    (by simp [hourEvents, noCleanup])

end SubscriptionManager

end PhineAf

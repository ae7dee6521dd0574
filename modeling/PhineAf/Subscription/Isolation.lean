import PhineAf.Subscription.Manager

/-!
# Isolation of subscribers

A client is shown, and can delete, its own subscriptions only. The list of all
subscriptions and the requests for one find the client in slightly different ways:
the list falls back on the metadata of the message whenever the payload has no readable
client, a request for one throws if what the payload has is not a text.

`subscription_isolation` is stated for whatever a message is: of a payload that cannot be
read, a request for one subscription only makes an error.
-/

namespace PhineAf.SubscriptionManager

variable {lib : Json.Library} {format : ℤ → String}

variable (lib) in
/-- The client of a request for one subscription: that of the payload, else that of the
    metadata, also if there is nothing to be read in the payload. -/
def Resolves (m : Message) (c : String) : Prop :=
  match lib.parse m.payload with
  | .ok request => requestClient lib m request = .ok c
  | .error _ => m.metadata.lookup "source_service" = some c

variable (lib) in
/-- A refusal to `verb` a subscription tells what the message itself tells, and at most
    whether there is a subscription. -/
def IsRefusal (verb : String) (m : Message) (body : Json) : Prop :=
  (∃ what, target lib m = .error what ∧ body = errorBody "bad_request" what) ∨
  (∃ id c, target lib m = .ok (id, c) ∧
    body = errorBody "not_found" ("Subscription not found: " ++ id)) ∨
  body = errorBody "unauthorized" ("Not authorized to " ++ verb ++ " this subscription")

/-! ## One subscription -/

/-- A client that is found with the identifier is the one the message resolves to. -/
theorem client_eq_of_target {m : Message} {id c c' : String} (h : target lib m = .ok (id, c'))
    (hc : Resolves lib m c) : c' = c := by
  rw [target, Json.bind_eq_ok] at h
  obtain ⟨request, hrequest, h⟩ := h
  rw [Resolves, hrequest] at hc
  dsimp only at hc
  obtain ⟨_ | id', -, h⟩ := Json.bind_eq_ok.1 h
  · cases h
  · obtain ⟨c'', hc'', h⟩ := Json.bind_eq_ok.1 h
    rw [hc, Except.ok.injEq] at hc''
    cases h
    exact hc''.symm

/-- A subscription that is found is the client's; what is said without one is an error. -/
theorem find_cases (verb : String) {m : Message} {c : String} (hc : Resolves lib m c)
    (hne : c ≠ "") (μ : SubscriptionManager) :
    (∃ id s, find lib verb m μ = .ok (id, s) ∧ target lib m = .ok (id, c) ∧
      μ.subscriptions.lookup id = some s ∧ s.clientId = c) ∨
    ∃ reply, find lib verb m μ = .error reply ∧ IsRefusal lib verb m reply.body := by
  rw [find]
  rcases htarget : target lib m with what | ⟨id, c'⟩
  · exact .inr ⟨_, rfl, .inl ⟨what, htarget, rfl⟩⟩
  have hclient := client_eq_of_target htarget hc
  subst hclient
  dsimp only
  rcases hs : μ.subscriptions.lookup id with _ | s
  · exact .inr ⟨_, rfl, .inr (.inl ⟨id, c', htarget, rfl⟩)⟩
  dsimp only
  split
  next => exact .inr ⟨_, rfl, .inr (.inr rfl)⟩
  next hauthorized =>
    refine .inl ⟨id, s, rfl, rfl, hs, ?_⟩
    simpa [hne] using hauthorized

/-- Details are given of a subscription of the client only. -/
theorem getSubscription_body {m : Message} {c : String} (hc : Resolves lib m c) (hne : c ≠ "")
    (μ : SubscriptionManager) :
    (∃ id s, target lib m = .ok (id, c) ∧ μ.subscriptions.lookup id = some s ∧ s.clientId = c ∧
      (getSubscription lib format m μ).body = describe format true true s) ∨
    IsRefusal lib "access" m (getSubscription lib format m μ).body := by
  rw [getSubscription]
  obtain ⟨id, s, hfind, htarget, hs, hclient⟩ | ⟨reply, hfind, hrefusal⟩ :=
    find_cases "access" hc hne μ
  · rw [hfind]
    exact .inl ⟨id, s, htarget, hs, hclient, rfl⟩
  · rw [hfind]
    exact .inr hrefusal

/-- The subscription a message names is deleted if it is the client's, and nothing else. -/
theorem deleteSubscription_store {m : Message} {c : String} (hc : Resolves lib m c)
    (hne : c ≠ "") (μ : SubscriptionManager) :
    (∃ id s, target lib m = .ok (id, c) ∧ μ.subscriptions.lookup id = some s ∧ s.clientId = c ∧
      (deleteSubscription lib m μ).1 =
        { μ with subscriptions := μ.subscriptions.erase id }) ∨
    (deleteSubscription lib m μ).1 = μ := by
  rw [deleteSubscription]
  obtain ⟨id, s, hfind, htarget, hs, hclient⟩ | ⟨reply, hfind, -⟩ :=
    find_cases "delete" hc hne μ
  · rw [hfind]
    exact .inl ⟨id, s, htarget, hs, hclient, rfl⟩
  · rw [hfind]
    exact .inr rfl

/-! ## The list -/

/-- The subscriptions of a client. -/
def ownedBy (c : String) (μ : SubscriptionManager) : List Subscription :=
  μ.subscriptions.values.filter fun s => s.clientId == c

theorem getAllSubscriptions_body {m : Message} {c : String} (hc : listingClient lib m = c)
    (hne : c ≠ "") (μ : SubscriptionManager) :
    (getAllSubscriptions lib format m μ).body =
      .arr ((ownedBy c μ).map (describe format true false)) := by
  have hempty : c.isEmpty = false := by simpa using hne
  simp only [getAllSubscriptions, hc, hempty, ownedBy, Bool.false_or]

/-- Managers with the same subscriptions of a client. -/
def SameFor (c : String) (μ μ' : SubscriptionManager) : Prop :=
  ∀ id s, s.clientId = c →
    (μ.subscriptions.lookup id = some s ↔ μ'.subscriptions.lookup id = some s)

theorem SameFor.ownedBy_perm {c : String} {μ μ' : SubscriptionManager} (h : SameFor c μ μ') :
    (ownedBy c μ).Perm (ownedBy c μ') :=
  Table.filter_values_perm fun id s hs => h id s (beq_iff_eq.1 hs)

/-! ## Isolation -/

variable (lib format) in
/-- What a client is shown, and what it deletes, is its own. -/
theorem subscription_isolation (c : String) (hne : c ≠ "") (m : Message)
    (μ : SubscriptionManager) :
    (listingClient lib m = c →
      (getAllSubscriptions lib format m μ).body =
        .arr ((ownedBy c μ).map (describe format true false)) ∧
      ∀ μ', SameFor c μ μ' → (getAllSubscriptions lib format m μ).body.elements.Perm
        (getAllSubscriptions lib format m μ').body.elements) ∧
    (Resolves lib m c →
      ((∃ id s, target lib m = .ok (id, c) ∧ μ.subscriptions.lookup id = some s ∧
          s.clientId = c ∧ (getSubscription lib format m μ).body = describe format true true s) ∨
        IsRefusal lib "access" m (getSubscription lib format m μ).body) ∧
      ((∃ id s, target lib m = .ok (id, c) ∧ μ.subscriptions.lookup id = some s ∧
          s.clientId = c ∧ (deleteSubscription lib m μ).1 =
            { μ with subscriptions := μ.subscriptions.erase id }) ∨
        (deleteSubscription lib m μ).1 = μ)) := by
  refine ⟨fun hc => ⟨getAllSubscriptions_body hc hne μ, fun μ' hsame => ?_⟩,
    fun hc => ⟨getSubscription_body hc hne μ, deleteSubscription_store hc hne μ⟩⟩
  rw [getAllSubscriptions_body hc hne, getAllSubscriptions_body hc hne]
  exact hsame.ownedBy_perm.map _

/-- A subscription of a client. -/
def heldBy (clientId id : String) : Subscription :=
  ⟨id, clientId, "location", "", ∅, 0, true, "analytics"⟩

/-- The text of a request for a subscription. -/
def mapsText : String := "\x7b\"id\":\"sub-2\"\x7d"

/-- A library that knows this request. -/
def nameLibrary : Json.Library where
  dump _ := mapsText
  parse s := if s = mapsText then .ok (.obj [("id", .str "sub-2")]) else .error "parse error"
  what _ := "[json.exception.type_error.302] type must be string"

/-- A request of the service `"maps"`. -/
def mapsRequest : Message := ⟨"corr-1", mapsText, (∅ : Table String String).insert
  "source_service" "maps"⟩

/-- A manager with a subscription of each of two clients. -/
def twoClients : SubscriptionManager where
  subscriptions := ((∅ : Table String Subscription).insert "sub-1" (heldBy "games" "sub-1")).insert
    "sub-2" (heldBy "maps" "sub-2")
  services := []

/-- The second client lists its subscription only, and may delete it. -/
theorem second_client_isolated :
    (getAllSubscriptions nameLibrary toString mapsRequest twoClients).body =
      .arr [describe toString true false (heldBy "maps" "sub-2")] ∧
    ((∃ id s, target nameLibrary mapsRequest = .ok (id, "maps") ∧
        twoClients.subscriptions.lookup id = some s ∧ s.clientId = "maps" ∧
        (deleteSubscription nameLibrary mapsRequest twoClients).1 =
          { twoClients with subscriptions := twoClients.subscriptions.erase id }) ∨
      (deleteSubscription nameLibrary mapsRequest twoClients).1 = twoClients) := by
  have h := subscription_isolation nameLibrary toString "maps" (by decide) mapsRequest twoClients
  exact ⟨(h.1 rfl).1, (h.2 rfl).2⟩

end PhineAf.SubscriptionManager

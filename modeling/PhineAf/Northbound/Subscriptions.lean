import PhineAf.Northbound.Api

/-!
# Subscriptions over the API

Each subscription lives once: it is created, shown as it was created, and is gone for ever when
it has been deleted or has expired. All that the API answers about its identifier is what its
life is at the time, whatever other clients do and whichever messages are lost
(`ApiSetting.exists_life`).
-/

namespace PhineAf

open SubscriptionManager ApiHandlers

/-- The life of an identifier. -/
inductive SubscriptionLife
  | unborn
  | alive (s : Subscription)
  | gone

namespace SubscriptionLife

/-- What is stored under the identifier. -/
def stored : SubscriptionLife → Option Subscription
  | alive s => some s
  | unborn | gone => none

/-- The life that goes on with what is stored. -/
def next : SubscriptionLife → Option Subscription → SubscriptionLife
  | _, some s => alive s
  | unborn, none => unborn
  | _, none => gone

theorem stored_next (l : SubscriptionLife) (s : Option Subscription) : (l.next s).stored = s := by
  cases l <;> cases s <;> rfl

theorem next_stored (l : SubscriptionLife) : l.next l.stored = l := by
  cases l <;> rfl

/-- The life of the identifier `x` goes on when a call is made, or none. -/
inductive Step (lib : Json.Library) (x : String) :
    SubscriptionLife → Option TimedCall → SubscriptionLife → Prop
  | created {c : TimedCall} {s : Subscription} : s.id = x → c.Makes lib s →
      Step lib x .unborn (some c) (.alive s)
  | ended {c : TimedCall} {s : Subscription} : c.Ends lib s → Step lib x (.alive s) (some c) .gone
  | stays {l : SubscriptionLife} {call : Option TimedCall} :
      (l = .unborn → ∀ c ∈ call, ∀ s, s.id = x → ¬c.Makes lib s) →
      (∀ s, l = .alive s → ∀ c ∈ call, ¬c.Ends lib s) → Step lib x l call l

end SubscriptionLife

/-- The identifier that is drawn for a creation. -/
def SubscriptionCall.drawn : SubscriptionCall → Option String
  | .create id _ => some id
  | _ => none

theorem TimedCall.Makes.drawn {lib : Json.Library} {c : TimedCall} {s : Subscription}
    (h : c.Makes lib s) : c.call.drawn = some s.id := by
  obtain ⟨m, hcall, -⟩ := h
  rw [hcall]
  rfl

namespace ApiSetting

variable {Q : Type} (a : ApiSetting Q)

/-! ## What the API answers -/

/-- The client on behalf of which the adapter asks AF core: none if the text is empty. -/
def source : String := (a.metadata.lookup "source_service").getD ""

/-- The adapter may ask for the subscription. -/
def May (s : Subscription) : Prop := a.source = "" ∨ s.clientId = a.source

instance (s : Subscription) : Decidable (a.May s) := inferInstanceAs (Decidable (_ ∨ _))

/-- The response to a request for a subscription. -/
def shown : SubscriptionLife → ApiResponse
  | .alive s =>
    if a.May s then jsonResponse a.lib 200 (describe a.format true true s)
    else unexpectedResponse a.lib
  | .unborn | .gone => errorResponse a.lib 404 "not_found" "Subscription not found"

/-- What becomes of a subscription that is to be deleted, and the response. -/
def deletion : SubscriptionLife → SubscriptionLife × ApiResponse
  | .alive s => if a.May s then (.gone, ⟨204, none⟩) else (.alive s, unexpectedResponse a.lib)
  | l => (l, errorResponse a.lib 404 "not_found" "Subscription not found")

/-- A list shows the subscription under the identifier, if there is one. -/
def Lists (x : String) (l : SubscriptionLife) (response : ApiResponse) : Prop :=
  ∃ listed : List Subscription,
    response = jsonResponse a.lib 200 (.arr (listed.map (describe a.format true false))) ∧
      ∀ s, s.id = x → (s ∈ listed ↔ l = .alive s ∧ a.May s)

/-- The request to create a subscription under the identifier has succeeded, or not. -/
def Creates (l l' : SubscriptionLife) (response : ApiResponse) : Prop :=
  (∃ s, l' = .alive s ∧ response = jsonResponse a.lib 201 (describe a.format false true s)) ∨
    (l' = l ∧ response.status = 400)

/-- The life of the identifier `x` goes on, and the API answers accordingly. -/
structure Explains (x : String) (l : SubscriptionLife) (e : ApiEvent × ApiOutcome)
    (l' : SubscriptionLife) : Prop where
  step : SubscriptionLife.Step a.lib x l (a.call e.1) l'
  shown : ∀ body correlationId d,
    e.1 = .http ⟨.subscription x, "GET", body⟩ correlationId .answered d →
      e.2 = .response (a.shown l)
  deleted : ∀ body correlationId d,
    e.1 = .http ⟨.subscription x, "DELETE", body⟩ correlationId .answered d →
      l' = (a.deletion l).1 ∧ e.2 = .response (a.deletion l).2
  listed : ∀ body correlationId d,
    e.1 = .http ⟨.subscriptions, "GET", body⟩ correlationId .answered d →
      ∃ response, e.2 = .response response ∧ a.Lists x l response
  created : ∀ body correlationId d,
    e.1 = .http ⟨.subscriptions, "POST", body⟩ correlationId .answered d →
      d.subscriptionId = x → ∃ response, e.2 = .response response ∧ a.Creates l l' response

/-- The identifier that an event draws for a subscription. -/
def drawn (event : ApiEvent) : Option String := (a.call event).bind (·.call.drawn)

/-- One of the events makes the subscription. -/
def Made (events : List ApiEvent) (s : Subscription) : Prop :=
  ∃ event ∈ events, ∃ c, a.call event = some c ∧ c.Makes a.lib s

/-- What AF core writes of some subscriptions can be read. -/
structure Writes (known : Subscription → Prop) : Prop where
  created : ∀ s, known s → a.lib.Lossless (describe a.format false true s)
  details : ∀ s, known s → a.lib.Lossless (describe a.format true true s)
  list : ∀ l : List Subscription, l.Nodup → (∀ s ∈ l, known s) →
    a.lib.Lossless (.arr (l.map (describe a.format true false)))

/-! ## One event -/

/-- What AF core stores under the identifier `x` is what its life is, with the events to come. -/
structure Lives (x : String) (known : Subscription → Prop) (events : List ApiEvent)
    (core : AfCore Q) (l : SubscriptionLife) : Prop where
  stored : core.subscriptions.subscriptions.lookup x = l.stored
  ownIds : core.subscriptions.OwnIds
  understood : ∀ s, core.subscriptions.Stores s → known s
  made : ∀ event ∈ events, ∀ c, a.call event = some c → ∀ s, c.Makes a.lib s → known s
  fresh : (events.filterMap a.drawn).Nodup
  born : l ≠ .unborn → ∀ event ∈ events, a.drawn event ≠ some x

variable {a} {x : String} {known : Subscription → Prop} {event : ApiEvent}
  {events : List ApiEvent} {core : AfCore Q} {l : SubscriptionLife}

/-- What is stored under the identifier after an event. -/
def storedAfter (a : ApiSetting Q) (core : AfCore Q) (event : ApiEvent) (x : String) :
    Option Subscription := (a.serve core event).1.subscriptions.subscriptions.lookup x

theorem Lives.stores_iff (h : a.Lives x known events core l) {s : Subscription} (hs : s.id = x) :
    core.subscriptions.Stores s ↔ l = .alive s := by
  rw [Stores, hs, h.stored]
  cases l <;> simp [SubscriptionLife.stored]

/-- What is stored after an event has been made, or has not been ended. -/
theorem Lives.storedAfter_iff (h : a.Lives x known (event :: events) core l) {s : Subscription} :
    a.storedAfter core event x = some s ↔ s.id = x ∧
      ((∃ c, a.call event = some c ∧ c.Makes a.lib s) ∨
        (l = .alive s ∧ ∀ c, a.call event = some c → ¬c.Ends a.lib s)) := by
  rw [storedAfter, serve_subscriptions]
  rcases a.call event with _ | c
  · rw [Option.elim_none, h.stored]
    constructor
    · intro hs
      cases l <;> cases hs
      exact ⟨h.ownIds x s h.stored, .inr ⟨rfl, by simp⟩⟩
    · rintro ⟨-, ⟨c, hc, -⟩ | ⟨rfl, -⟩⟩
      · cases hc
      · rfl
  · have hown := ownIds_serve a.lib a.format h.ownIds c
    rw [Option.elim_some]
    constructor
    · intro hs
      obtain rfl := hown x s hs
      refine ⟨rfl, ?_⟩
      rcases (stores_serve a.lib a.format core.subscriptions c s).1 hs with hmakes | ⟨hs, hends⟩
      · exact .inl ⟨c, rfl, hmakes⟩
      · refine .inr ⟨(h.stores_iff rfl).1 hs, fun c' hc' => ?_⟩
        obtain rfl := Option.some.inj hc'
        exact hends
    · rintro ⟨rfl, hs⟩
      refine (stores_serve a.lib a.format core.subscriptions c s).2 ?_
      rcases hs with ⟨c', hc', hmakes⟩ | ⟨hl, hends⟩
      · obtain rfl := Option.some.inj hc'
        exact .inl hmakes
      · exact .inr ⟨(h.stores_iff rfl).2 hl, hends c rfl⟩

/-- Only what is unborn can be made. -/
theorem Lives.unborn_of_makes (h : a.Lives x known (event :: events) core l) {c : TimedCall}
    (hc : a.call event = some c) {s : Subscription} (hs : s.id = x) (hmakes : c.Makes a.lib s) :
    l = .unborn := by
  by_contra hne
  refine h.born hne event List.mem_cons_self ?_
  rw [drawn, hc, Option.bind_some, hmakes.drawn, hs]

/-- The life of the identifier goes on. -/
theorem Lives.step (h : a.Lives x known (event :: events) core l) :
    SubscriptionLife.Step a.lib x l (a.call event) (l.next (a.storedAfter core event x)) := by
  have hstored := fun s => h.storedAfter_iff (s := s)
  rcases hafter : a.storedAfter core event x with _ | s
  · have hnone : ∀ s, s.id = x → (∀ c, a.call event = some c → ¬c.Makes a.lib s) ∧
        (l = .alive s → ∃ c, a.call event = some c ∧ c.Ends a.lib s) := by
      intro s hs
      have hnot := (hstored s).not.1 (by rw [hafter]; simp)
      push Not at hnot
      exact hnot hs
    cases l with
    | unborn => exact .stays (fun _ c hc s hs => (hnone s hs).1 c hc) (by simp)
    | alive s =>
      obtain ⟨c, hc, hends⟩ := (hnone s (h.ownIds x s h.stored)).2 rfl
      rw [hc]
      exact .ended hends
    | gone => exact .stays (by simp) (by simp)
  · obtain ⟨hs, ⟨c, hc, hmakes⟩ | ⟨rfl, hends⟩⟩ := (hstored s).1 hafter
    · obtain rfl := h.unborn_of_makes hc hs hmakes
      rw [hc]
      exact .created hs hmakes
    · refine .stays (by simp) fun s' hs' c hc => ?_
      cases hs'
      exact hends c hc

/-- What AF core stores goes on to be what the life is. -/
theorem Lives.serve (h : a.Lives x known (event :: events) core l) :
    a.Lives x known events (a.serve core event).1 (l.next (a.storedAfter core event x)) where
  stored := (SubscriptionLife.stored_next l _).symm
  ownIds := by
    rw [serve_subscriptions]
    rcases a.call event with _ | c
    · exact h.ownIds
    · exact ownIds_serve a.lib a.format h.ownIds c
  understood s hs := by
    rw [serve_subscriptions] at hs
    rcases hc : a.call event with _ | c <;> rw [hc] at hs
    · exact h.understood s hs
    · rcases (stores_serve a.lib a.format core.subscriptions c s).1 hs with hmakes | ⟨hs, -⟩
      · exact h.made event List.mem_cons_self c hc s hmakes
      · exact h.understood s hs
  made event' hevent' := h.made event' (List.mem_cons_of_mem _ hevent')
  fresh := by
    have hfresh := h.fresh
    rw [List.filterMap_cons] at hfresh
    split at hfresh
    · exact hfresh
    · exact (List.nodup_cons.1 hfresh).2
  born hne event' hevent' hdrawn := by
    have hmem : x ∈ events.filterMap a.drawn := List.mem_filterMap.2 ⟨event', hevent', hdrawn⟩
    by_cases hl : l = .unborn
    · -- It has been born just now.
      subst hl
      rcases hafter : a.storedAfter core event x with _ | s
      · rw [hafter] at hne
        exact hne rfl
      · obtain ⟨hs, ⟨c, hc, hmakes⟩ | ⟨hl, -⟩⟩ := h.storedAfter_iff.1 hafter
        · have hdrawn' : a.drawn event = some x := by
            rw [drawn, hc, Option.bind_some, hmakes.drawn, hs]
          have hfresh := h.fresh
          rw [List.filterMap_cons_some hdrawn'] at hfresh
          exact (List.nodup_cons.1 hfresh).1 hmem
        · cases hl
    · exact h.born hl event' (List.mem_cons_of_mem _ hevent') hdrawn

/-- The life after all events. -/
theorem Lives.after (h : a.Lives x known events core l) :
    ∃ l', a.Lives x known [] (Service.after a.serve core events) l' := by
  induction events generalizing core l with
  | nil => exact ⟨l, h⟩
  | cons event events ih => exact ih h.serve

end ApiSetting

end PhineAf

import PhineAf.Subscription.Manager

/-!
# Which subscriptions an event selects

A filter is meant to be compared with an event as JSON values (`Agrees`). It is kept as
texts, and a member that is a text is kept without the quotes that the library writes
around it, so the comparison goes wrong in two ways: an event that agrees with a filter is
missed if the filter has a text, or a number the event writes in another way (`Missed`);
and an event is taken for one that agrees if each member, quotes and all, is written as
the filter's is kept (`Confused`). `matchingSubscriptions_correct_iff`: these are the only
ways.
-/

namespace PhineAf.SubscriptionManager

variable (lib : Json.Library) {format : ℤ → String}

/-! ## What a filter means -/

/-- The subscription can be selected by an event of the type, whatever its data. -/
def Eligible (now : ℤ) (eventType : String) (s : Subscription) : Prop :=
  s.active = true ∧ s.eventType = eventType ∧ ¬s.expiryTime < now

/-- The data have every member of the filter, with an equal value. -/
def Agrees (filter data : Json) : Prop :=
  ∀ key v, filter.find? key = some v → ∃ w, data.find? key = some w ∧ w.Equal v

/-- A member of the filter is a text. -/
def HasText (filter : Json) : Prop := ∃ key t, filter.find? key = some (.str t)

/-- The data agree with a filter that has a text, or a member the library writes in
    another way than that of the data. -/
def Missed (filter data : Json) : Prop :=
  Agrees filter data ∧ (HasText filter ∨ ∃ key v w, filter.find? key = some v ∧
    data.find? key = some w ∧ lib.dump w ≠ lib.dump v)

/-- Every member of a filter that has a text is kept as the text that the library writes
    for the member of the data. -/
def Confused (filter data : Json) : Prop :=
  HasText filter ∧ ∀ key v, filter.find? key = some v →
    ∃ w, data.find? key = some w ∧ lib.dump w = encode lib v

/-! ## What is kept of a filter -/

variable {lib}

theorem lookup_filterOf (fields : List (String × Json)) (key : String) :
    (filterOf lib fields).lookup key = (fields.lookup key).map (encode lib) := by
  induction fields with
  | nil => rfl
  | cons f fields ih =>
    rw [filterOf, List.foldr_cons, ← filterOf, Table.lookup_insert_eq, ih, List.lookup_cons]
    by_cases hkey : key = f.1
    · simp [hkey]
    · simp [hkey, beq_false_of_ne hkey]

theorem lookup_members (filter : Json) (key : String) :
    filter.members.lookup key = filter.find? key := by
  cases filter <;> rfl

theorem matchesFilter_iff {filter : Table String String} {data : Json} :
    matchesFilter lib filter data = true ↔
      ∀ key t, filter.lookup key = some t → ∃ w, data.find? key = some w ∧ lib.dump w = t := by
  rw [matchesFilter, List.all_eq_true]
  constructor
  · intro h key t hkey
    simpa [Option.any_eq_true] using h ⟨key, t⟩ (AList.mem_lookup_iff.1 hkey)
  · rintro h ⟨key, t⟩ hmem
    simpa [Option.any_eq_true] using h key t (AList.mem_lookup_iff.2 hmem)

/-- A subscription is selected if it is eligible and each member of its filter is kept as
    the library writes that of the data. -/
theorem selects_iff {now : ℤ} {eventType : String} {data filter : Json} {s : Subscription}
    (hkept : s.filterCriteria = filterOf lib filter.members) :
    selects lib now eventType data s = true ↔ Eligible now eventType s ∧
      ∀ key v, filter.find? key = some v →
        ∃ w, data.find? key = some w ∧ lib.dump w = encode lib v := by
  have hmatches : matchesFilter lib s.filterCriteria data = true ↔
      ∀ key v, filter.find? key = some v →
        ∃ w, data.find? key = some w ∧ lib.dump w = encode lib v := by
    rw [matchesFilter_iff, hkept]
    simp only [lookup_filterOf, lookup_members, Option.map_eq_some_iff]
    constructor
    · intro h key v hv
      exact h key _ ⟨v, hv, rfl⟩
    · rintro h key t ⟨v, hv, rfl⟩
      exact h key v hv
  rw [← hmatches, selects, Eligible]
  simp [and_assoc]

/-! ## Creation -/

/-- What a request without an exception makes. -/
theorem subscriptionOf_eq_ok {id : String} {now : ℤ} {m : Message} {request : Json}
    {s : Subscription} (h : subscriptionOf lib id now m request = .ok s) :
    s.id = id ∧ s.active = true ∧
      s.filterCriteria =
        filterOf lib ((request.find? "filter_criteria").elim [] Json.members) := by
  simp only [subscriptionOf, bind, Except.bind] at h
  repeat' split at h
  all_goals first
    | (simp only [pure, Except.pure, Except.ok.injEq] at h; subst h; exact ⟨rfl, rfl, rfl⟩)
    | cases h

/-- What `create_subscription` stores if its reply says so. -/
theorem lookup_createSubscription {id : String} {now : ℤ} {m : Message}
    {μ : SubscriptionManager} {request : Json} {s : Subscription}
    (hcreated : (createSubscription lib format id now m μ).2.messageType = .created)
    (hs : (createSubscription lib format id now m μ).1.subscriptions.lookup id = some s)
    (hrequest : lib.parse m.payload = .ok request) :
    s.filterCriteria =
      filterOf lib ((request.find? "filter_criteria").elim [] Json.members) := by
  rw [createSubscription, hrequest] at hcreated hs
  dsimp only [bind, Except.bind] at hcreated hs
  rcases hmade : subscriptionOf lib id now m request with what | made
  · -- An exception: the reply says so.
    rw [hmade] at hcreated
    cases hcreated
  · rw [hmade] at hs
    obtain ⟨hid, -, hfilter⟩ := subscriptionOf_eq_ok hmade
    dsimp only at hs
    rw [hid, AList.lookup_insert, Option.some.injEq] at hs
    rw [← hs, hfilter]

/-! ## Agreement and what is compared -/

theorem encode_of_not_hasText {filter : Json} {key : String} {v : Json}
    (h : ¬HasText filter) (hv : filter.find? key = some v) : encode lib v = lib.dump v := by
  cases v with
  | str t => exact absurd ⟨key, t, hv⟩ h
  | _ => rfl

/-- A text is never kept as the library writes it, nor is a value equal to it. -/
theorem not_agrees_of_kept {filter : Json} (data : Json) (hquoted : ∀ t, lib.dump (.str t) ≠ t)
    (htext : HasText filter) (hkept : ∀ key v, filter.find? key = some v →
      ∃ w, data.find? key = some w ∧ lib.dump w = encode lib v) : ¬Agrees filter data := by
  obtain ⟨key, t, ht⟩ := htext
  intro hagrees
  obtain ⟨w, hw, hequal⟩ := hagrees key _ ht
  obtain ⟨w', hw', hdump⟩ := hkept key _ ht
  rw [hw, Option.some.injEq] at hw'
  subst hw'
  rw [Json.eq_of_equal_str hequal] at hdump
  exact hquoted t hdump

/-- When the comparison of texts decides whether the data agree with a filter. -/
theorem kept_iff_agrees_iff {filter data : Json} (hquoted : ∀ t, lib.dump (.str t) ≠ t)
    (hinjective : ∀ key v w, filter.find? key = some v → data.find? key = some w →
      lib.dump w = lib.dump v → w.Equal v) :
    ((∀ key v, filter.find? key = some v →
        ∃ w, data.find? key = some w ∧ lib.dump w = encode lib v) ↔ Agrees filter data) ↔
      ¬(Missed lib filter data ∨ Confused lib filter data) := by
  by_cases htext : HasText filter
  · -- With a text, what is compared and what is meant exclude each other.
    have hnot := not_agrees_of_kept data hquoted htext
    simp only [Missed, Confused, htext, true_or, and_true, true_and]
    tauto
  · have hcompared : (∀ key v, filter.find? key = some v →
        ∃ w, data.find? key = some w ∧ lib.dump w = encode lib v) ↔
        ∀ key v, filter.find? key = some v →
          ∃ w, data.find? key = some w ∧ lib.dump w = lib.dump v := by
      refine forall₂_congr fun key v => forall_congr' fun hv => ?_
      rw [encode_of_not_hasText htext hv]
    rw [hcompared]
    simp only [Missed, Confused, htext, false_or, false_and, or_false]
    constructor
    · rintro h ⟨hagrees, key, v, w, hv, hw, hne⟩
      obtain ⟨w', hw', hdump⟩ := h.2 hagrees key v hv
      rw [hw, Option.some.injEq] at hw'
      exact hne (hw' ▸ hdump)
    · intro h
      constructor
      · intro hkept key v hv
        obtain ⟨w, hw, hdump⟩ := hkept key v hv
        exact ⟨w, hw, hinjective key v w hv hw hdump⟩
      · intro hagrees key v hv
        obtain ⟨w, hw, -⟩ := hagrees key v hv
        by_contra hnone
        exact h ⟨hagrees, key, v, w, hv, hw, fun hdump => hnone ⟨w, hw, hdump⟩⟩

/-- An event selects a subscription just when it should, unless the subscription is
    eligible and the event is missed or taken for another. -/
theorem matchingSubscriptions_correct_iff {id eventType : String} {created now : ℤ} {m : Message}
    {μ₀ μ : SubscriptionManager} {request filter data : Json} {s : Subscription}
    (hquoted : ∀ t, lib.dump (.str t) ≠ t)
    (hinjective : ∀ key v w, filter.find? key = some v → data.find? key = some w →
      lib.dump w = lib.dump v → w.Equal v)
    (hrequest : lib.parse m.payload = .ok request)
    (hfilter : request.find? "filter_criteria" = some filter)
    (hcreated : (createSubscription lib format id created m μ₀).2.messageType = .created)
    (hs : (createSubscription lib format id created m μ₀).1.subscriptions.lookup id = some s)
    (hstored : μ.subscriptions.lookup id = some s) :
    (s ∈ matchingSubscriptions lib now eventType data μ ↔
        Eligible now eventType s ∧ Agrees filter data) ↔
      ¬(Eligible now eventType s ∧ (Missed lib filter data ∨ Confused lib filter data)) := by
  have hkept := lookup_createSubscription hcreated hs hrequest
  rw [hfilter] at hkept
  have hmem : s ∈ matchingSubscriptions lib now eventType data μ ↔
      selects lib now eventType data s = true := by
    rw [matchingSubscriptions, List.mem_filter]
    exact and_iff_right (Table.mem_values.2 ⟨id, hstored⟩)
  rw [hmem, selects_iff hkept]
  have hagree := kept_iff_agrees_iff hquoted hinjective
  by_cases heligible : Eligible now eventType s
  · simpa only [heligible, true_and] using hagree
  · simp only [heligible, false_and, not_false_eq_true]

/-! ## A text in a filter -/

/-- A filter for an area. -/
def area (name : String) : Json := .obj [("area", .str name)]

/-- The text of a request for the `location` events of the area `"abc"`. -/
def areaText : String :=
  "\x7b\"callback_service\":\"analytics\",\"event_type\":\"location\"," ++
    "\"filter_criteria\":\x7b\"area\":\"abc\"\x7d\x7d"

/-- A library that writes a text in quotes, and knows this request. -/
def quotingLibrary : Json.Library where
  dump
    | .str t => "\"" ++ t ++ "\""
    | .int n => toString n
    | _ => "null"
  parse s :=
    if s = areaText then .ok (.obj [("callback_service", .str "analytics"),
      ("event_type", .str "location"), ("filter_criteria", area "abc")])
    else .error "parse error"
  what _ := "[json.exception.type_error.302] type must be string"

/-- A text in quotes is longer than the text. -/
theorem quotingLibrary_quotes (t : String) : quotingLibrary.dump (.str t) ≠ t := by
  intro h
  have hlength := congrArg String.length h
  simp only [quotingLibrary, String.length_append] at hlength
  have hquote : "\"".length = 1 := rfl
  omega

theorem eq_of_find?_area {name key : String} {v : Json} (h : (area name).find? key = some v) :
    key = "area" ∧ v = .str name := by
  have hkey : key = "area" := by
    by_contra hne
    simp [area, Json.find?, List.lookup_cons, beq_false_of_ne hne] at h
  subst hkey
  exact ⟨rfl, (Option.some.inj h).symm⟩

/-- The library writes texts injectively. -/
theorem quotingLibrary_injective {name name' key : String} {v w : Json}
    (hv : (area name).find? key = some v) (hw : (area name').find? key = some w)
    (h : quotingLibrary.dump w = quotingLibrary.dump v) : w.Equal v := by
  obtain ⟨-, rfl⟩ := eq_of_find?_area hv
  obtain ⟨-, rfl⟩ := eq_of_find?_area hw
  have htext : name' = name := by simpa [quotingLibrary] using h
  subst htext
  exact .str name'

/-- The request at the time 0, made to a manager without subscriptions. -/
def areaRequest : SubscriptionManager × SubscriptionReply :=
  createSubscription quotingLibrary toString "sub-1" 0 ⟨"corr-1", areaText, ∅⟩
    ⟨∅, ["analytics"]⟩

/-- The subscription of the request. -/
def areaSubscription : Subscription :=
  ⟨"sub-1", "unknown", "location", "", filterOf quotingLibrary [("area", .str "abc")],
    after 0 3600, true, "analytics"⟩

/-- An event in the area does not select the subscription to the area. -/
theorem area_missed : areaRequest.1.subscriptions.lookup "sub-1" = some areaSubscription ∧
    Eligible 1 "location" areaSubscription ∧ Agrees (area "abc") (area "abc") ∧
    (∀ key v w, (area "abc").find? key = some v → (area "abc").find? key = some w →
      quotingLibrary.dump w = quotingLibrary.dump v → w.Equal v) ∧
    matchingSubscriptions quotingLibrary 1 "location" (area "abc") areaRequest.1 = [] := by
  refine ⟨rfl, ⟨rfl, rfl, by decide⟩, ?_, fun _ _ _ => quotingLibrary_injective, by decide⟩
  intro key v hv
  obtain ⟨rfl, rfl⟩ := eq_of_find?_area hv
  exact ⟨_, rfl, .str _⟩

/-- An event elsewhere is rightly left out, and the condition says so. -/
theorem elsewhere_correct :
    (areaSubscription ∈
          matchingSubscriptions quotingLibrary 1 "location" (area "xyz") areaRequest.1 ↔
        Eligible 1 "location" areaSubscription ∧ Agrees (area "abc") (area "xyz")) ↔
      ¬(Eligible 1 "location" areaSubscription ∧
        (Missed quotingLibrary (area "abc") (area "xyz") ∨
          Confused quotingLibrary (area "abc") (area "xyz"))) := by
  have hcreated : areaRequest.2.messageType = .created := rfl
  have hs : areaRequest.1.subscriptions.lookup "sub-1" = some areaSubscription := rfl
  exact matchingSubscriptions_correct_iff quotingLibrary_quotes
    (fun _ _ _ => quotingLibrary_injective) rfl rfl hcreated hs hs

end PhineAf.SubscriptionManager

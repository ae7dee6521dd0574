import PhineAf.Lib.Schema
import PhineAf.Pcf.Validation

/-!
# What an accepted application session satisfies

The validators visit the values of a document by a schema (`appSessionSchema`), which has a
place for each of them: what they check of a value there, and the values below that they
visit. Of an accepted document every value that is visited passes its checks
(`Place.checksPass`).

The validators pass over a member that is no text where a text is expected, and report any
other value of the wrong type. So a constraint is satisfied exactly if no text is expected,
or the value is a text (`holds_iff_of_accepted`).
-/

namespace PhineAf

open Schema

/-- The values that are validated. -/
inductive Place
  | appSessionContext
  | reqData
  | respData
  | eventsNotification
  | eventsSubscription
  | afEventSubscription
  | afEventNotification
  | qosMonitoringInformation
  | qosMonitoringReport
  | accessNetChargingIdentifier
  | ueIdentityInfo
  | flows
  | mediaComponent
  | mediaSubComponent
  | ethFlowDescription
  | alternativeServiceRequirementsData
  | afRoutingRequirement
  | spatialValidity
  | temporalValidity
  deriving DecidableEq, Repr

namespace Place

/-- The validator of the values at a place. -/
def validate : Place → Json → ValidationResult
  | appSessionContext => validateAppSessionContext
  | reqData => validateAppSessionContextReqData
  | respData => validateAppSessionContextRespData
  | eventsNotification => validateEventsNotification
  | eventsSubscription => validateEventsSubscriptionReqData
  | afEventSubscription => validateAfEventSubscription
  | afEventNotification => validateAfEventNotification
  | qosMonitoringInformation => validateQosMonitoringInformation
  | qosMonitoringReport => validateQosMonitoringReport
  | accessNetChargingIdentifier => validateAccessNetChargingIdentifier
  | ueIdentityInfo => validateUeIdentityInfo
  | flows => validateFlows
  | mediaComponent => validateMediaComponent
  | mediaSubComponent => validateMediaSubComponent
  | ethFlowDescription => validateEthFlowDescription
  | alternativeServiceRequirementsData => validateAlternativeServiceRequirementsData
  | afRoutingRequirement => validateAfRoutingRequirement
  | spatialValidity => validateSpatialValidity
  | temporalValidity => validateTemporalValidity

/-- The constraints on the members of the values at a place. -/
def checks : Place → List (String × Check)
  | appSessionContext => []
  | reqData =>
    [("notifUri", .text isValidUrl), ("ueIpv4", .text isValidIpv4), ("ueIpv6", .text isValidIpv6),
      ("ueMac", .text isValidMacAddr48), ("resPrio", .text isValidReservationPriority),
      ("sponStatus", .text isValidSponsoringStatus),
      ("servInfStatus", .text isValidServiceInfoStatus), ("medComponents", .properties 0),
      ("tsnPortManContNwtts", .minItems 1)]
  | respData => [("ueIds", .minItems 1)]
  | eventsNotification =>
    [("evSubsUri", .text isValidUrl), ("evNotifs", .minItems 1), ("adReports", .minItems 1),
      ("anChargIds", .minItems 1), ("failedResourcAllocReports", .minItems 1),
      ("succResourcAllocReports", .minItems 1), ("qosMonReports", .minItems 1)]
  | eventsSubscription =>
    [("events", .minItems 1), ("notifUri", .text isValidUrl), ("reqQosMonParams", .minItems 1),
      ("reqAnis", .minItems 1), ("reqAnis", .texts isValidRequiredAccessInfo),
      ("afAppIds", .minItems 1)]
  | afEventSubscription =>
    [("event", .text isValidAfEvent), ("notifMethod", .text isValidAfNotifMethod)]
  | afEventNotification => [("event", .text isValidAfEvent), ("flows", .minItems 1)]
  | qosMonitoringInformation =>
    [("repThreshDl", .integer), ("repThreshUl", .integer), ("repThreshRp", .integer)]
  | qosMonitoringReport =>
    [("flows", .minItems 1), ("ulDelays", .minItems 1), ("ulDelays", .integers),
      ("dlDelays", .minItems 1), ("dlDelays", .integers), ("rtDelays", .minItems 1),
      ("rtDelays", .integers)]
  | accessNetChargingIdentifier => [("flows", .minItems 1)]
  | ueIdentityInfo => []
  | flows =>
    [("medCompN", .integer), ("contVers", .minItems 1), ("fNums", .minItems 1),
      ("fNums", .integers)]
  | mediaComponent =>
    [("medCompN", .integer), ("medType", .text isValidMediaType),
      ("fStatus", .text isValidFlowStatus), ("resPrio", .text isValidReservationPriority),
      ("codecs", .minItems 1), ("codecs", .maxItems 2), ("altSerReqs", .minItems 1),
      ("altSerReqsData", .minItems 1), ("medSubComps", .properties 1)] ++
      bitrateFields.map fun field => (field, .text isValidBitrate)
  | mediaSubComponent =>
    [("fNum", .integer), ("ethfDescs", .minItems 1), ("ethfDescs", .maxItems 2),
      ("fDescs", .minItems 1), ("fDescs", .maxItems 2), ("fStatus", .text isValidFlowStatus),
      ("flowUsage", .text isValidFlowUsage), ("marBwDl", .text isValidBitrate),
      ("marBwUl", .text isValidBitrate)]
  | ethFlowDescription =>
    [("destMacAddr", .text isValidMacAddr48), ("sourceMacAddr", .text isValidMacAddr48),
      ("srcMacAddrEnd", .text isValidMacAddr48), ("destMacAddrEnd", .text isValidMacAddr48),
      ("vlanTags", .minItems 1), ("vlanTags", .maxItems 2)]
  | alternativeServiceRequirementsData => []
  | afRoutingRequirement =>
    [("routeToLocs", .minItems 1), ("tempVals", .minItems 1), ("easIpReplaceInfos", .minItems 1)]
  | spatialValidity => [("presenceInfoList", .properties 1)]
  | temporalValidity => [("startTime", .text isValidDatetime), ("stopTime", .text isValidDatetime)]

/-- The values below the values at a place. -/
def children : Place → List (String × Shape × Place)
  | appSessionContext =>
    [("ascReqData", .value, reqData), ("ascRespData", .value, respData),
      ("evsNotif", .value, eventsNotification)]
  | reqData =>
    [("evSubsc", .value, eventsSubscription), ("medComponents", .members, mediaComponent),
      ("afRoutReq", .value, afRoutingRequirement)]
  | respData => [("ueIds", .elements, ueIdentityInfo)]
  | eventsNotification =>
    [("evNotifs", .elements, afEventNotification),
      ("anChargIds", .elements, accessNetChargingIdentifier),
      ("qosMonReports", .elements, qosMonitoringReport)]
  | eventsSubscription =>
    [("events", .elements, afEventSubscription), ("qosMon", .value, qosMonitoringInformation)]
  | afEventNotification => [("flows", .elements, flows)]
  | qosMonitoringReport => [("flows", .elements, flows)]
  | accessNetChargingIdentifier => [("flows", .elements, flows)]
  | mediaComponent =>
    [("altSerReqsData", .elements, alternativeServiceRequirementsData),
      ("medSubComps", .members, mediaSubComponent)]
  | mediaSubComponent => [("ethfDescs", .elements, ethFlowDescription)]
  | afRoutingRequirement =>
    [("tempVals", .elements, temporalValidity), ("spVal", .value, spatialValidity)]
  | _ => []

end Place

/-- The schema of the validators. -/
def appSessionSchema : Schema Place where
  checks := Place.checks
  children := Place.children

/-! ## Checks that find nothing -/

section NoErrors

variable {json : Json} {field message : String} {validate : Json → ValidationResult}

theorem validateString_iff {isValid : String → Bool} :
    validateString json field isValid message = [] ↔
      json.AtMember field (Check.text isValid).Passes := by
  rw [validateString_eq_nil_iff]
  exact ⟨fun h v hv s hs => h s (hs ▸ hv), fun h s hs => h _ hs s rfl⟩

theorem validateInteger_iff :
    validateInteger json field = [] ↔ json.AtMember field Check.integer.Passes := by
  rw [validateInteger, validateMember_eq_nil_iff]
  refine Json.AtMember.congr fun v => ?_
  split_ifs with h
  · exact iff_of_true rfl h
  · exact iff_of_false (fun h => by cases h) h

/-- An array whose length is checked. -/
theorem arrayCheck_iff {refused : List Json → Prop} [DecidablePred refused] {e e' : String}
    (v : Json) : (match v with
      | .arr l => if refused l then [e] else []
      | _ => [e'] : ValidationResult) = [] ↔ ∃ l, v = .arr l ∧ ¬refused l := by
  rcases v with _ | _ | _ | _ | _ | l | _
  case arr =>
    dsimp only
    split_ifs with h
    · refine iff_of_false (fun h => by cases h) ?_
      rintro ⟨l', heq, hl'⟩
      cases heq
      exact hl' h
    · exact iff_of_true rfl ⟨l, rfl, h⟩
  all_goals exact iff_of_false (fun h => by cases h) fun ⟨_, h, _⟩ => by cases h

theorem validateArrayMinItems_iff {n : ℕ} :
    validateArrayMinItems json field n = [] ↔ json.AtMember field (Check.minItems n).Passes := by
  rw [validateArrayMinItems, validateMember_eq_nil_iff]
  refine Json.AtMember.congr fun v => (arrayCheck_iff v).trans ?_
  exact exists_congr fun l => and_congr_right' not_lt

theorem validateArrayMaxItems_iff {n : ℕ} :
    validateArrayMaxItems json field n = [] ↔ json.AtMember field (Check.maxItems n).Passes := by
  rw [validateArrayMaxItems, validateMember_eq_nil_iff]
  refine Json.AtMember.congr fun v => (arrayCheck_iff v).trans ?_
  exact exists_congr fun l => and_congr_right' not_lt

theorem validateElements_iff : validateElements json field validate = [] ↔
    json.AtMember field fun w => ∀ x ∈ Shape.elements.parts w, validate x = [] := by
  rw [validateElements, validateMember_eq_nil_iff]
  exact Json.AtMember.congr fun v => List.flatMap_eq_nil_iff

theorem validateMember_iff : validateMember json field validate = [] ↔
    json.AtMember field fun w => ∀ x ∈ Shape.value.parts w, validate x = [] := by
  rw [validateMember_eq_nil_iff]
  exact Json.AtMember.congr fun v =>
    (List.forall_mem_singleton (p := fun x => validate x = [])).symm

theorem validateArray_iff : validateArray json field validate = [] ↔
    json.AtMember field (Check.minItems 1).Passes ∧
      json.AtMember field fun w => ∀ x ∈ Shape.elements.parts w, validate x = [] := by
  rw [validateArray, List.append_eq_nil_iff, validateArrayMinItems_iff, validateElements_iff]

theorem validateIntegers_iff : validateIntegers json field = [] ↔
    json.AtMember field (Check.minItems 1).Passes ∧ json.AtMember field Check.integers.Passes := by
  rw [validateIntegers, List.append_eq_nil_iff, validateArrayMinItems_iff,
    validateMember_eq_nil_iff]
  refine and_congr_right' (Json.AtMember.congr fun v => ?_)
  split_ifs with h
  · exact iff_of_true rfl (List.all_eq_true.1 h)
  · exact iff_of_false (fun h => by cases h) fun hall => h (List.all_eq_true.2 hall)

/-- The elements of a member that are texts are access informations. -/
theorem validateReqAnis_iff :
    (json.AtMember field fun w => ∀ x ∈ Shape.elements.parts w, validateReqAni x = []) ↔
      json.AtMember field (Check.texts isValidRequiredAccessInfo).Passes := by
  refine Json.AtMember.congr fun v => forall₂_congr fun x _ => ?_
  rcases x with _ | _ | _ | _ | s | _ | _
  case str =>
    rw [validateReqAni]
    split_ifs with h
    · refine iff_of_true rfl ?_
      rintro _ heq
      cases heq
      exact h
    · exact iff_of_false (fun h => by cases h) fun hs => h (hs s rfl)
  all_goals exact iff_of_true rfl fun _ h => by cases h

theorem validatePresence_iff : (validateMember json "presenceInfoList" fun list =>
      if !list.isObject then ["presenceInfoList must be an object"]
      else if list.members.isEmpty then ["presenceInfoList must have at least one property"]
      else []) = [] ↔ json.AtMember "presenceInfoList" (Check.properties 1).Passes := by
  rw [validateMember_eq_nil_iff]
  refine Json.AtMember.congr fun v => ?_
  rcases v with _ | _ | _ | _ | _ | _ | fields
  case obj =>
    rcases fields with _ | ⟨m, fields⟩
    · refine iff_of_false (fun h => by cases h) ?_
      rintro ⟨_, heq, h⟩
      cases heq
      cases h
    · exact iff_of_true rfl ⟨_, rfl, Nat.le_add_left 1 _⟩
  all_goals exact iff_of_false (fun h => by cases h) fun ⟨_, h, _⟩ => by cases h

end NoErrors

/-! ## Members that are objects of values -/

section Components

variable {json : Json} {field e : String} {validate : Json → ValidationResult}

/-- A member that must be an object, and what is checked after it. -/
theorem objectMember_iff {errors : Json → ValidationResult} {rest result : ValidationResult}
    (hnone : json.find? field = none → result = rest)
    (hsome : ∀ w, json.find? field = some w →
      result = if !w.isObject then [e] else errors w ++ rest) :
    result = [] ↔
      json.AtMember field (fun w => w.isObject = true ∧ errors w = []) ∧ rest = [] := by
  rw [Json.AtMember]
  rcases hfind : json.find? field with _ | w
  · rw [hnone hfind]
    exact (and_iff_right fun _ h => by cases h).symm
  · rw [hsome w hfind]
    by_cases h : w.isObject = true
    · simp [h]
    · simp [h]

theorem isObject_iff {v : Json} : v.isObject = true ↔ ∃ fields, v = .obj fields := by
  rcases v with _ | _ | _ | _ | _ | _ | fields
  case obj => exact iff_of_true rfl ⟨fields, rfl⟩
  all_goals exact iff_of_false (fun h => by cases h) fun ⟨_, h⟩ => by cases h

theorem forall_members_iff {v : Json} : v.members.flatMap (fun m => validate m.2) = [] ↔
    ∀ x ∈ Shape.members.parts v, validate x = [] := by
  rw [List.flatMap_eq_nil_iff, Shape.parts, List.forall_mem_map]

/-- An object of values. -/
theorem components_iff {v : Json} :
    (v.isObject = true ∧ v.members.flatMap (fun m => validate m.2) = []) ↔
      (Check.properties 0).Passes v ∧ ∀ x ∈ Shape.members.parts v, validate x = [] := by
  rw [forall_members_iff, isObject_iff]
  exact and_congr_left' (exists_congr fun fields => (and_iff_left (Nat.zero_le _)).symm)

/-- An object of values, with one at least. -/
theorem subComps_iff {v : Json} :
    (v.isObject = true ∧ (if v.members.isEmpty then [e] else []) ++
        v.members.flatMap (fun m => validate m.2) = []) ↔
      (Check.properties 1).Passes v ∧ ∀ x ∈ Shape.members.parts v, validate x = [] := by
  rw [List.append_eq_nil_iff, forall_members_iff, isObject_iff, ← and_assoc]
  refine and_congr_left' ?_
  constructor
  · rintro ⟨⟨fields, rfl⟩, h⟩
    refine ⟨fields, rfl, ?_⟩
    rcases fields with _ | ⟨m, fields⟩
    · cases h
    · exact Nat.le_add_left 1 _
  · rintro ⟨fields, rfl, h⟩
    refine ⟨⟨fields, rfl⟩, if_neg ?_⟩
    rcases fields with _ | ⟨m, fields⟩
    · cases h
    · exact Bool.false_ne_true

theorem validateRouting_iff : validateRouting json = [] ↔
    (json.AtMember "afRoutReq" fun w =>
      ∀ x ∈ Shape.value.parts w, validateAfRoutingRequirement x = []) ∧
      json.AtMember "tsnPortManContNwtts" (Check.minItems 1).Passes := by
  rw [validateRouting, List.append_eq_nil_iff, validateMember_iff, validateArrayMinItems_iff]

theorem passes_of_validateMediaRates (h : validateMediaRates json = []) :
    ∀ field ∈ bitrateFields, json.AtMember field (Check.text isValidBitrate).Passes := by
  rw [validateMediaRates, List.append_eq_nil_iff, List.flatMap_eq_nil_iff] at h
  exact fun field hfield => validateString_iff.1 (h.2 field hfield)

end Components

/-! ## Places -/

/-- The validators accept the value at the place. -/
def Accepts (place : Place) (v : Json) : Prop := place.validate v = []

namespace Place

/-- A value that is accepted passes its checks, and the values below it are accepted. -/
def Passes (place : Place) (v : Json) : Prop :=
  appSessionSchema.ChecksPass place v ∧ appSessionSchema.Descends Accepts place v

theorem passes_reqData {v : Json} (h : Accepts reqData v) : Passes reqData v := by
  rw [Accepts, validate, validateAppSessionContextReqData, validateObject_eq_nil_iff,
    List.append_eq_nil_iff] at h
  obtain ⟨-, hmembers, hrest⟩ := h
  obtain ⟨hcomponents, hrouting⟩ : v.AtMember "medComponents" (fun w => w.isObject = true ∧
      w.members.flatMap (fun m => validateMediaComponent m.2) = []) ∧ validateRouting v = [] :=
    (objectMember_iff (fun h => by rw [h]) fun w h => by rw [h]).1 hrest
  rw [Json.AtMember.congr fun _ => components_iff, Json.atMember_and] at hcomponents
  rw [validateRouting_iff] at hrouting
  simp only [List.append_eq_nil_iff, validateString_iff, validateMember_iff] at hmembers
  simp only [Passes, ChecksPass, Descends, appSessionSchema, checks, children,
    List.forall_mem_cons, List.not_mem_nil, false_implies, implies_true, and_true, Accepts,
    validate]
  simp only [hmembers, hcomponents, hrouting, and_self]

theorem passes_mediaComponent {v : Json} (h : Accepts mediaComponent v) :
    Passes mediaComponent v := by
  rw [Accepts, validate, validateMediaComponent, validateObject_eq_nil_iff,
    List.append_eq_nil_iff] at h
  obtain ⟨-, hmembers, hrest⟩ := h
  obtain ⟨hsubComps, hrates⟩ : v.AtMember "medSubComps" (fun w => w.isObject = true ∧
      (if w.members.isEmpty then ["medSubComps must have at least one property"] else []) ++
        w.members.flatMap (fun m => validateMediaSubComponent m.2) = []) ∧
      validateMediaRates v = [] :=
    (objectMember_iff (fun h => by rw [h]) fun w h => by rw [h]).1 hrest
  rw [Json.AtMember.congr fun _ => subComps_iff, Json.atMember_and] at hsubComps
  simp only [List.append_eq_nil_iff, validateString_iff, validateInteger_iff,
    validateArrayMinItems_iff, validateArrayMaxItems_iff, validateArray_iff] at hmembers
  simp only [Passes, ChecksPass, Descends, appSessionSchema, checks, children,
    List.forall_mem_append, List.forall_mem_map, List.forall_mem_cons, List.not_mem_nil,
    false_implies, implies_true, and_true, Accepts, validate]
  refine ⟨⟨?_, passes_of_validateMediaRates hrates⟩, ?_⟩
  · simp only [hmembers, hsubComps, and_self]
  · simp only [hmembers, hsubComps, and_self]

/-- A value that is accepted passes. -/
theorem passes_of_accepts {place : Place} {v : Json} (h : Accepts place v) : Passes place v := by
  cases place
  case reqData => exact passes_reqData h
  case mediaComponent => exact passes_mediaComponent h
  case ueIdentityInfo => exact ⟨List.forall_mem_nil _, List.forall_mem_nil _⟩
  case alternativeServiceRequirementsData =>
    exact ⟨List.forall_mem_nil _, List.forall_mem_nil _⟩
  case spatialValidity =>
    rw [Accepts, validate, validateSpatialValidity, validateObject_eq_nil_iff,
      List.append_eq_nil_iff, validatePresence_iff] at h
    exact ⟨List.forall_mem_singleton.2 h.2.2, List.forall_mem_nil _⟩
  all_goals
    simp only [Accepts, validate, validateAppSessionContext, validateAppSessionContextRespData,
      validateEventsNotification, validateEventsSubscriptionReqData, validateAfEventSubscription,
      validateAfEventNotification, validateQosMonitoringInformation, validateQosMonitoringReport,
      validateAccessNetChargingIdentifier, validateFlows, validateMediaSubComponent,
      validateEthFlowDescription, validateAfRoutingRequirement, validateTemporalValidity,
      validateObject_eq_nil_iff, List.append_eq_nil_iff] at h
    simp only [validateString_iff, validateInteger_iff, validateArrayMinItems_iff,
      validateArrayMaxItems_iff, validateArray_iff, validateElements_iff, validateIntegers_iff,
      validateReqAnis_iff, validateMember_iff] at h
    simp only [Passes, ChecksPass, Descends, appSessionSchema, checks, children,
      List.forall_mem_cons, List.not_mem_nil, false_implies, implies_true, and_true, Accepts,
      validate]
    simp only [h, and_self]

end Place

/-! ## Accepted documents -/

/-- A constraint on a value in the document, at a place that the validators visit. -/
def Occurs (json : Json) (check : Check) (w : Json) : Prop :=
  ∃ place v field, appSessionSchema.Visited .appSessionContext json place v ∧
    (field, check) ∈ place.checks ∧ v.find? field = some w

theorem Occurs.passes {json w : Json} {check : Check} (hw : Occurs json check w)
    (h : validateAppSessionContext json = []) : check.Passes w := by
  obtain ⟨place, v, field, hv, hcheck, hw⟩ := hw
  have hroot : Accepts .appSessionContext json := h
  have haccepts : Accepts place v :=
    hv.invariant (fun _ _ h => (Place.passes_of_accepts h).2) hroot
  exact (Place.passes_of_accepts haccepts).1 _ hcheck w hw

/-- In an accepted document, the value satisfies a constraint that is on it exactly if it is
    a text where a text is expected. -/
theorem holds_iff_of_accepted {json w : Json} {check : Check}
    (h : validateAppSessionContext json = []) (hw : Occurs json check w) :
    check.Holds w ↔ check.TextTyped w :=
  Check.holds_iff (hw.passes h)

/-- A document with a number for the IPv4 address of the UE. -/
def numberedUe : Json :=
  .obj [("ascReqData", .obj [("notifUri", .str "http://af/notif"), ("suppFeat", .str "0"),
    ("ueIpv4", .int 42)])]

theorem validateAppSessionContext_numberedUe : validateAppSessionContext numberedUe = [] := by
  decide

/-- What is checked of the request data. -/
theorem occurs_reqData {fields : List (String × Json)} {field : String} {check : Check} {w : Json}
    (hcheck : (field, check) ∈ Place.checks .reqData) (hw : fields.lookup field = some w) :
    Occurs (.obj [("ascReqData", .obj fields)]) check w :=
  ⟨.reqData, .obj fields, field,
    .child (v := .obj [("ascReqData", .obj fields)]) .root List.mem_cons_self rfl
      List.mem_cons_self, hcheck, hw⟩

/-- The notification URI is a text, and so a URL. -/
theorem holds_notifUri : (Check.text isValidUrl).Holds (.str "http://af/notif") :=
  (holds_iff_of_accepted validateAppSessionContext_numberedUe
    (occurs_reqData List.mem_cons_self rfl)).2 ⟨_, rfl⟩

/-- The address of the UE is a number, and the document accepted. -/
theorem not_holds_ueIpv4 : validateAppSessionContext numberedUe = [] ∧
    Occurs numberedUe (.text isValidIpv4) (.int 42) ∧
      ¬(Check.text isValidIpv4).Holds (.int 42) := by
  refine ⟨validateAppSessionContext_numberedUe,
    occurs_reqData (List.mem_cons_of_mem _ List.mem_cons_self) rfl, ?_⟩
  rintro ⟨s, h, -⟩
  cases h

end PhineAf

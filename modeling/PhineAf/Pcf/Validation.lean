import Mathlib.Tactic.SplitIfs
import PhineAf.Lib.Json
import PhineAf.Lib.Text

/-!
# Validation of requests to the PCF

The validators of `helpers.cpp` for the JSON body of an application session, each as a
function from a value to its errors: the formats of texts, the enumerations, and the
nested objects that `validate_app_session_context` visits.

An object is mostly checked member by member, and a member that is absent, or not of
the kind that is checked, is passed over. `validateMember_eq_nil_iff` and its siblings say
what a value without errors satisfies.
-/

namespace PhineAf

/-! ## Formats -/

section Formats

open RegularExpression Text

/-- What follows the scheme of a URL. The expression `[^\s/$.?#].[^\s]*` is matched byte
    by byte: the first character is the first two bytes unless it is an ASCII character. -/
def isAuthority : List Char → Bool
  | [] => false
  | c :: rest =>
    !isSpace c && !(['/', '$', '.', '?', '#'].contains c) &&
      if c.toNat < 128 then
        match rest with
        | [] => false
        | d :: rest => d != '\n' && d != '\r' && rest.all fun c => !isSpace c
      else rest.all fun c => !isSpace c

/-- `is_valid_url`, whatever the case of the scheme. -/
def isValidUrl (url : String) : Bool :=
  ["http://", "https://", "ftp://"].any fun scheme =>
    (url.toList.take scheme.length).map Char.toLower == scheme.toList &&
      isAuthority (url.toList.drop scheme.length)

/-- `is_valid_bitrate`. -/
def isValidBitrate (bitrate : String) : Bool :=
  fullMatch (many1 digit * opt (char '.' * many1 digit) * char ' ' *
    oneOf ["bps", "Kbps", "Mbps", "Gbps", "Tbps"]) bitrate

/-- `is_valid_datetime`. -/
def isValidDatetime (datetime : String) : Bool :=
  fullMatch (times 4 digit * char '-' * times 2 digit * char '-' * times 2 digit * char 'T' *
    times 2 digit * char ':' * times 2 digit * char ':' * times 2 digit *
    opt (char '.' * many1 digit) *
    (char 'Z' + (char '+' + char '-') * times 2 digit * char ':' * times 2 digit)) datetime

/-- A number from `0` to `255` of at most three digits. -/
def octet : Pattern :=
  char '2' * char '5' * range '0' '5' + char '2' * range '0' '4' * digit +
    opt (char '0' + char '1') * digit * opt digit

/-- `is_valid_ipv4`. -/
def isValidIpv4 (ipv4 : String) : Bool := fullMatch (times 3 (octet * char '.') * octet) ipv4

/-- A group of an IPv6 address. -/
def hexGroup : Pattern := between 1 3 hexDigit

/-- `is_valid_ipv6`. -/
def isValidIpv6 (ipv6 : String) : Bool :=
  fullMatch (times 7 (hexGroup * char ':') * hexGroup + word "::1" + word "::" +
    star (hexGroup * char ':') * word "::" * hexGroup * star (char ':' * hexGroup)) ipv6

/-- `is_valid_mac_addr48`. -/
def isValidMacAddr48 (mac : String) : Bool :=
  fullMatch (times 5 (times 2 hexDigit * char ':') * times 2 hexDigit) mac

end Formats

/-! ## Enumerations -/

def isValidMediaType (mediaType : String) : Bool :=
  mediaType ∈ ["AUDIO", "VIDEO", "DATA", "APPLICATION", "CONTROL", "TEXT", "MESSAGE", "OTHER"]

def isValidAfEvent (afEvent : String) : Bool :=
  afEvent ∈
    ["ACCESS_TYPE_CHANGE", "ANI_REPORT", "APP_DETECTION", "BAT_OFFSET_INFO",
      "CHARGING_CORRELATION", "CN_HEALTH_MONITOR", "EPS_FALLBACK", "EXTRA_UE_ADDR",
      "FAILED_QOS_UPDATE", "FAILED_RESOURCES_ALLOCATION", "L4S_SUPP", "OUT_OF_CREDIT",
      "PACK_DEL_VAR", "PDU_SESSION_STATUS", "PLMN_CHG", "QOS_MON_CAP_REPO", "QOS_MONITORING",
      "QOS_NOTIF", "RAN_NAS_CAUSE", "RATE_LIMIT_INFO_REPO", "REALLOCATION_OF_CREDIT",
      "RT_DELAY_TWO_QOS_FLOWS", "SAT_CATEGORY_CHG", "SUCCESSFUL_QOS_UPDATE",
      "SUCCESSFUL_RESOURCES_ALLOCATION", "TSN_BRIDGE_INFO", "UE_REACH_STATUS_CH",
      "UP_PATH_CHG_FAILURE", "UP_PATH_CHANGE", "URSP_ENF_INFO", "USAGE_REPORT"]

def isValidAfNotifMethod (notifMethod : String) : Bool :=
  notifMethod ∈ ["EVENT_DETECTION", "ONE_TIME", "PERIODIC", "PDU_SESSION_RELEASE"]

def isValidFlowStatus (flowStatus : String) : Bool :=
  flowStatus ∈ ["ENABLED-UPLINK", "ENABLED-DOWNLINK", "ENABLED", "DISABLED", "REMOVED"]

def isValidFlowUsage (flowUsage : String) : Bool :=
  flowUsage ∈ ["NO_INFO", "RTCP", "AF_SIGNALLING"]

def isValidReservationPriority (resPrio : String) : Bool :=
  resPrio ∈
    ["PRIO_1", "PRIO_2", "PRIO_3", "PRIO_4", "PRIO_5", "PRIO_6", "PRIO_7", "PRIO_8",
      "PRIO_9", "PRIO_10", "PRIO_11", "PRIO_12", "PRIO_13", "PRIO_14", "PRIO_15", "PRIO_16"]

def isValidSponsoringStatus (sponStatus : String) : Bool :=
  sponStatus ∈ ["SPONSOR_DISABLED", "SPONSOR_ENABLED"]

def isValidServiceInfoStatus (servStatus : String) : Bool :=
  servStatus ∈ ["FINAL", "PRELIMINARY"]

def isValidRequiredAccessInfo (reqAccessInfo : String) : Bool :=
  reqAccessInfo ∈ ["USER_LOCATION", "UE_TIME_ZONE"]

/-! ## Checks of members -/

/-- The errors found; there is none in a valid value. `add_error` appends one, and
    `merge` those of another result. -/
abbrev ValidationResult := List String

/-- `validate_required_fields`. -/
def validateRequiredFields (json : Json) (fields : List String) : ValidationResult :=
  (fields.filter fun f => !json.contains f).map ("Missing required field: " ++ ·)

/-- `validate_one_of_required`. -/
def validateOneOfRequired (json : Json) (fields : List String) : ValidationResult :=
  if fields.countP json.contains = 1 then []
  else ["Exactly one of the following fields must be present: " ++ ", ".intercalate fields]

/-- `validate_any_of_required`. -/
def validateAnyOfRequired (json : Json) (fields : List String) : ValidationResult :=
  if fields.any json.contains then []
  else ["At least one of the following fields must be present: " ++ ", ".intercalate fields]

/-- A check of a member, if it is there. -/
def validateMember (json : Json) (field : String) (validate : Json → ValidationResult) :
    ValidationResult :=
  (json.find? field).elim [] validate

/-- `validate_array_min_items`. -/
def validateArrayMinItems (json : Json) (field : String) (minItems : ℕ) : ValidationResult :=
  validateMember json field fun
    | .arr l => if l.length < minItems then
        ["Field " ++ field ++ " must have at least " ++ toString minItems ++ " items"] else []
    | _ => ["Field " ++ field ++ " must be an array"]

/-- `validate_array_max_items`. -/
def validateArrayMaxItems (json : Json) (field : String) (maxItems : ℕ) : ValidationResult :=
  validateMember json field fun
    | .arr l => if maxItems < l.length then
        ["Field " ++ field ++ " must have at most " ++ toString maxItems ++ " items"] else []
    | _ => ["Field " ++ field ++ " must be an array"]

/-- A format or an enumeration, of a member that is a text. -/
def validateString (json : Json) (field : String) (isValid : String → Bool) (message : String) :
    ValidationResult :=
  validateMember json field fun
    | .str s => if isValid s then [] else [message]
    | _ => []

/-- A member that must be an integer. -/
def validateInteger (json : Json) (field : String) : ValidationResult :=
  validateMember json field fun v => if v.isInteger then [] else [field ++ " must be an integer"]

/-- The elements of a member that is an array. -/
def validateElements (json : Json) (field : String) (validate : Json → ValidationResult) :
    ValidationResult :=
  validateMember json field fun v => v.elements.flatMap validate

/-- An array with one element at least, and its elements. -/
def validateArray (json : Json) (field : String) (validate : Json → ValidationResult) :
    ValidationResult :=
  validateArrayMinItems json field 1 ++ validateElements json field validate

/-- An array with one element at least, of integers. -/
def validateIntegers (json : Json) (field : String) : ValidationResult :=
  validateArrayMinItems json field 1 ++
    validateMember json field fun v =>
      if v.elements.all Json.isInteger then [] else ["All " ++ field ++ " must be integers"]

/-- A value that must be an object, and its members. -/
def validateObject (name : String) (json : Json) (members : ValidationResult) : ValidationResult :=
  if json.isObject then members else [name ++ " must be an object"]

/-! ## Objects -/

def validateFlows (json : Json) : ValidationResult :=
  validateObject "Flows" json
    (validateRequiredFields json ["medCompN"] ++
      validateInteger json "medCompN" ++
      validateArrayMinItems json "contVers" 1 ++
      validateIntegers json "fNums")

def validateEthFlowDescription (json : Json) : ValidationResult :=
  let macAddr (field : String) : ValidationResult :=
    validateString json field isValidMacAddr48 (field ++ " must be a valid MAC address")
  validateObject "EthFlowDescription" json
    (validateRequiredFields json ["ethType"] ++
      macAddr "destMacAddr" ++ macAddr "sourceMacAddr" ++
      macAddr "srcMacAddrEnd" ++ macAddr "destMacAddrEnd" ++
      validateArrayMinItems json "vlanTags" 1 ++ validateArrayMaxItems json "vlanTags" 2)

def validateQosMonitoringInformation (json : Json) : ValidationResult :=
  validateObject "QosMonitoringInformation" json
    (validateInteger json "repThreshDl" ++ validateInteger json "repThreshUl" ++
      validateInteger json "repThreshRp")

def validateQosMonitoringReport (json : Json) : ValidationResult :=
  validateObject "QosMonitoringReport" json
    (validateArray json "flows" validateFlows ++ validateIntegers json "ulDelays" ++
      validateIntegers json "dlDelays" ++ validateIntegers json "rtDelays")

def validateUeIdentityInfo (json : Json) : ValidationResult :=
  validateObject "UeIdentityInfo" json (validateAnyOfRequired json ["gpsi", "pei", "supi"])

def validateAccessNetChargingIdentifier (json : Json) : ValidationResult :=
  validateObject "AccessNetChargingIdentifier" json
    (validateOneOfRequired json ["accNetChaIdValue", "accNetChargIdString"] ++
      validateArray json "flows" validateFlows)

def validateAlternativeServiceRequirementsData (json : Json) : ValidationResult :=
  validateObject "AlternativeServiceRequirementsData" json
    (validateRequiredFields json ["altQosParamSetRef"])

def validateSpatialValidity (json : Json) : ValidationResult :=
  validateObject "SpatialValidity" json
    (validateRequiredFields json ["presenceInfoList"] ++
      validateMember json "presenceInfoList" fun list =>
        if !list.isObject then ["presenceInfoList must be an object"]
        else if list.members.isEmpty then ["presenceInfoList must have at least one property"]
        else [])

def validateTemporalValidity (json : Json) : ValidationResult :=
  validateObject "TemporalValidity" json
    (validateString json "startTime" isValidDatetime "startTime must be a valid RFC 3339 date-time" ++
      validateString json "stopTime" isValidDatetime "stopTime must be a valid RFC 3339 date-time")

def validateAfRoutingRequirement (json : Json) : ValidationResult :=
  validateObject "AfRoutingRequirement" json
    (validateArrayMinItems json "routeToLocs" 1 ++
      validateArray json "tempVals" validateTemporalValidity ++
      validateArrayMinItems json "easIpReplaceInfos" 1 ++
      validateMember json "spVal" validateSpatialValidity)

def validateAfEventSubscription (json : Json) : ValidationResult :=
  validateObject "AfEventSubscription" json
    (validateRequiredFields json ["event"] ++
      validateString json "event" isValidAfEvent "event contains invalid AF event value" ++
      validateString json "notifMethod" isValidAfNotifMethod
        "notifMethod contains invalid notification method value")

def validateAfEventNotification (json : Json) : ValidationResult :=
  validateObject "AfEventNotification" json
    (validateRequiredFields json ["event"] ++
      validateString json "event" isValidAfEvent "event contains invalid AF event value" ++
      validateArray json "flows" validateFlows)

def validateEventsNotification (json : Json) : ValidationResult :=
  validateObject "EventsNotification" json
    (validateRequiredFields json ["evSubsUri", "evNotifs"] ++
      validateString json "evSubsUri" isValidUrl "evSubsUri must be a valid URI" ++
      validateArray json "evNotifs" validateAfEventNotification ++
      validateArrayMinItems json "adReports" 1 ++
      validateArray json "anChargIds" validateAccessNetChargingIdentifier ++
      validateArrayMinItems json "failedResourcAllocReports" 1 ++
      validateArrayMinItems json "succResourcAllocReports" 1 ++
      validateArray json "qosMonReports" validateQosMonitoringReport)

/-- A required access information. -/
def validateReqAni : Json → ValidationResult
  | .str ani => if isValidRequiredAccessInfo ani then []
      else ["reqAnis contains invalid access info value: " ++ ani]
  | _ => []

def validateEventsSubscriptionReqData (json : Json) : ValidationResult :=
  validateObject "EventsSubscReqData" json
    (validateRequiredFields json ["events"] ++
      validateArray json "events" validateAfEventSubscription ++
      validateString json "notifUri" isValidUrl "notifUri must be a valid URI" ++
      validateArrayMinItems json "reqQosMonParams" 1 ++
      validateArray json "reqAnis" validateReqAni ++
      validateArrayMinItems json "afAppIds" 1 ++
      validateMember json "qosMon" validateQosMonitoringInformation)

def validateMediaSubComponent (json : Json) : ValidationResult :=
  let bitrate (field : String) : ValidationResult :=
    validateString json field isValidBitrate (field ++ " must match TS 29.571 BitRate format")
  validateObject "MediaSubComponent" json
    (validateRequiredFields json ["fNum"] ++
      validateInteger json "fNum" ++
      validateArrayMinItems json "ethfDescs" 1 ++ validateArrayMaxItems json "ethfDescs" 2 ++
      validateElements json "ethfDescs" validateEthFlowDescription ++
      validateArrayMinItems json "fDescs" 1 ++ validateArrayMaxItems json "fDescs" 2 ++
      validateString json "fStatus" isValidFlowStatus "fStatus contains invalid flow status value" ++
      validateString json "flowUsage" isValidFlowUsage "flowUsage contains invalid flow usage value" ++
      bitrate "marBwDl" ++ bitrate "marBwUl")

/-- The members of a media component that are bit rates. -/
def bitrateFields : List String :=
  ["marBwDl", "marBwUl", "mirBwDl", "mirBwUl", "minDesBwDl", "minDesBwUl", "maxSuppBwDl",
    "maxSuppBwUl", "rrBw", "rsBw"]

/-- What is checked of a media component after its sub-components. -/
def validateMediaRates (json : Json) : ValidationResult :=
  (if json.contains "altSerReqs" && json.contains "altSerReqsData" then
      ["Cannot have both altSerReqs and altSerReqsData"] else []) ++
    (if json.contains "qosReference" && json.contains "altSerReqsData" then
      ["Cannot have both qosReference and altSerReqsData"] else []) ++
    bitrateFields.flatMap fun field => validateString json field isValidBitrate
      (field ++ " must match TS 29.571 BitRate format: '<value> <unit>' " ++
        "(e.g., \"100 Mbps\", \"1.5 Gbps\")")

def validateMediaComponent (json : Json) : ValidationResult :=
  validateObject "MediaComponent" json
    (validateRequiredFields json ["medCompN"] ++
      validateInteger json "medCompN" ++
      validateString json "medType" isValidMediaType "medType contains invalid media type value" ++
      validateString json "fStatus" isValidFlowStatus "fStatus contains invalid flow status value" ++
      validateString json "resPrio" isValidReservationPriority
        "resPrio contains invalid reservation priority value" ++
      validateArrayMinItems json "codecs" 1 ++ validateArrayMaxItems json "codecs" 2 ++
      validateArrayMinItems json "altSerReqs" 1 ++
      validateArray json "altSerReqsData" validateAlternativeServiceRequirementsData ++
      match json.find? "medSubComps" with
      | none => validateMediaRates json
      | some subComps =>
        -- The rest of the component is not looked at.
        if !subComps.isObject then ["medSubComps must be an object"]
        else
          (if subComps.members.isEmpty then ["medSubComps must have at least one property"]
            else []) ++
          subComps.members.flatMap (fun m => validateMediaSubComponent m.2) ++
          validateMediaRates json)

def validateAppSessionContextRespData (json : Json) : ValidationResult :=
  validateObject "AppSessionContextRespData" json (validateArray json "ueIds" validateUeIdentityInfo)

/-- What is checked of the request data after its media components. -/
def validateRouting (json : Json) : ValidationResult :=
  validateMember json "afRoutReq" validateAfRoutingRequirement ++
    validateArrayMinItems json "tsnPortManContNwtts" 1

def validateAppSessionContextReqData (json : Json) : ValidationResult :=
  validateObject "AppSessionContextReqData" json
    (validateRequiredFields json ["notifUri", "suppFeat"] ++
      validateOneOfRequired json ["ueIpv4", "ueIpv6", "ueMac"] ++
      validateString json "notifUri" isValidUrl "notifUri must be a valid URI" ++
      validateString json "ueIpv4" isValidIpv4 "ueIpv4 must be a valid IPv4 address" ++
      validateString json "ueIpv6" isValidIpv6 "ueIpv6 must be a valid IPv6 address" ++
      validateString json "ueMac" isValidMacAddr48 "ueMac must be a valid MAC address" ++
      validateString json "resPrio" isValidReservationPriority
        "resPrio contains invalid reservation priority value" ++
      validateString json "sponStatus" isValidSponsoringStatus
        "sponStatus contains invalid sponsoring status value" ++
      validateString json "servInfStatus" isValidServiceInfoStatus
        "servInfStatus contains invalid service info status value" ++
      validateMember json "evSubsc" validateEventsSubscriptionReqData ++
      match json.find? "medComponents" with
      | none => validateRouting json
      | some components =>
        if !components.isObject then ["medComponents must be an object"]
        else components.members.flatMap (fun m => validateMediaComponent m.2) ++ validateRouting json)

def validateAppSessionContext (json : Json) : ValidationResult :=
  validateObject "AppSessionContext" json
    (validateMember json "ascReqData" validateAppSessionContextReqData ++
      validateMember json "ascRespData" validateAppSessionContextRespData ++
      validateMember json "evsNotif" validateEventsNotification)

/-! ## Values without errors -/

section NoErrors

variable {json : Json} {field message : String}

theorem validateObject_eq_nil_iff {name : String} {members : ValidationResult} :
    validateObject name json members = [] ↔ json.isObject ∧ members = [] := by
  rw [validateObject]
  split_ifs with h <;> simp [h]

theorem validateRequiredFields_eq_nil_iff {fields : List String} :
    validateRequiredFields json fields = [] ↔ ∀ f ∈ fields, json.contains f := by
  simp [validateRequiredFields, List.filter_eq_nil_iff]

theorem validateOneOfRequired_eq_nil_iff {fields : List String} :
    validateOneOfRequired json fields = [] ↔ fields.countP json.contains = 1 := by
  rw [validateOneOfRequired]
  split_ifs with h <;> simp [h]

theorem validateMember_eq_nil_iff {validate : Json → ValidationResult} :
    validateMember json field validate = [] ↔ ∀ v ∈ json.find? field, validate v = [] := by
  rw [validateMember]
  cases json.find? field <;> simp

theorem validateString_eq_nil_iff {isValid : String → Bool} :
    validateString json field isValid message = [] ↔
      ∀ s, json.find? field = some (.str s) → isValid s := by
  rw [validateString, validateMember_eq_nil_iff]
  constructor
  · intro h s hs
    have := h _ hs
    simpa using this
  · rintro h (_ | _ | _ | _ | s | _ | _) hv
    case str => simpa using h s hv
    all_goals rfl

theorem validateMember_of_none {validate : Json → ValidationResult} (h : json.find? field = none) :
    validateMember json field validate = [] := by
  rw [validateMember, h]
  rfl

theorem validateString_of_none {isValid : String → Bool} (h : json.find? field = none) :
    validateString json field isValid message = [] :=
  validateMember_of_none h

/-- A member that is absent or a text. -/
theorem validateString_of_text {isValid : String → Bool} {text : Option String}
    (h : json.find? field = text.map .str) :
    validateString json field isValid message = [] ↔ ∀ s ∈ text, isValid s := by
  rw [validateString_eq_nil_iff, h]
  rcases text with _ | t
  · simp
  · simp

end NoErrors

end PhineAf

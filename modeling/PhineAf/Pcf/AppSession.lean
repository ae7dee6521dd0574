import Mathlib.Tactic.FinCases
import PhineAf.Pcf.Flow
import PhineAf.Pcf.Handler
import PhineAf.Pcf.Validation

/-!
# Requests to the PCF

The application session `QodPcfHandler` asks the PCF for: the media component with the
flows and the QoS parameters of a session, the subscription to QoS notifications, and the
context around them. `validateAppSessionContext_eq_nil_iff` says of which sessions the
handler accepts its own request.
-/

namespace PhineAf

/-- What the handler is configured with. -/
structure AfConfig where
  afId : String := "af_qod_service"
  afNotificationUri : String := QodPcfHandler.afNotificationUri
  deriving DecidableEq, Repr

/-- The session the requests are made of, with the fields the handler does not read. -/
def ReceivedSession.toSession (received : ReceivedSession) : QodSession where
  sessionId := received.sessionId
  apiConsumerId := ""
  device := received.device
  applicationServer := received.applicationServer
  devicePorts := received.devicePorts
  applicationServerPorts := received.applicationServerPorts
  qosProfile := received.qosProfile
  qosProfileMapping := received.qosProfileMapping
  duration := received.duration
  sink := received.sink
  sinkCredential := none
  createdAt := 0
  qosStatus := .requested
  ueSupi := received.ueSupi

namespace QodPcfHandler

/-! ## Media components -/

/-- The media type of a profile. -/
def mediaTypeOf (profile : String) : String :=
  if profile = "voice" ∨ profile = "QOS_E" then "AUDIO"
  else if profile = "video" ∨ profile = "QOS_S" then "VIDEO"
  else "APPLICATION"

/-- The members of a media component that do not depend on the QoS mapping. -/
def basicFields (session : QodSession) : List (String × Option Json) :=
  [("medCompN", some (.int 1)), ("fStatus", some (.str "ENABLED")),
    ("medType", some (.str (mediaTypeOf session.qosProfile))),
    ("medSubComps", some (mapPortsToMediaSubcomponents session.flowSession))]

/-- The latency asked for, in milliseconds. -/
def desMaxLatency (fiveqi : ℤ) : Option Json :=
  if fiveqi = 1 ∨ fiveqi = 2 then some (.float 100)
  else if fiveqi = 3 ∨ fiveqi = 4 then some (.float 50)
  else if 5 ≤ fiveqi ∧ fiveqi ≤ 9 then some (.float 300)
  else none

/-- The loss asked for, by the group of the 5QI. -/
def lossOf (fiveqi : ℤ) (conversational gaming : Json) : Option Json :=
  if fiveqi = 1 ∨ fiveqi = 2 then some conversational
  else if fiveqi = 3 ∨ fiveqi = 4 then some gaming
  else none

/-- The members made of the QoS mapping. -/
def mappingFields (mapping : QosProfileMapping) : List (String × Option Json) :=
  let guaranteed (rate : Option String) : Option Json := if mapping.isGbr then rate.map .str else none
  let high := mapping.priorityLevel.any (· ≤ 15)
  [("qosReference", if 0 < mapping.fiveqi then some (.str (toString mapping.fiveqi)) else none),
    ("resPrio", mapping.priorityLevel.map fun p => .str ("PRIO_" ++ toString p)),
    ("marBwDl", mapping.maxDownlinkRate.map .str), ("marBwUl", mapping.maxUplinkRate.map .str),
    ("mirBwDl", guaranteed mapping.guaranteedDownlinkRate),
    ("mirBwUl", guaranteed mapping.guaranteedUplinkRate),
    ("minDesBwDl", guaranteed mapping.guaranteedDownlinkRate),
    ("minDesBwUl", guaranteed mapping.guaranteedUplinkRate),
    ("maxSuppBwDl", mapping.maxDownlinkRate.map .str),
    ("maxSuppBwUl", mapping.maxUplinkRate.map .str),
    ("desMaxLatency", desMaxLatency mapping.fiveqi),
    ("desMaxLoss", lossOf mapping.fiveqi (.float 1) (.float (1 / 10))),
    ("maxPacketLossRateDl", lossOf mapping.fiveqi (.int 10) (.int 3)),
    ("maxPacketLossRateUl", lossOf mapping.fiveqi (.int 10) (.int 3)),
    ("preemptCap", some (.str (if high then "MAY_PREEMPT" else "NOT_PREEMPT"))),
    ("preemptVuln", some (.str (if high then "NOT_PREEMPTABLE" else "PREEMPTABLE")))]

/-- The media component of a session. -/
def mediaComponent (session : QodSession) : Json :=
  .ofFields (basicFields session ++ session.qosProfileMapping.elim [] mappingFields)

/-- `build_media_components`. -/
def buildMediaComponents (session : QodSession) : Json := .obj [("1", mediaComponent session)]

/-! ## The application session -/

section Request

variable (config : AfConfig)

/-- `build_subscription_info`. -/
def buildSubscriptionInfo (sessionId : String) : Json :=
  .obj [("events", .arr [.obj [("event", .str "QOS_NOTIF")]]),
    ("notifUri", .str (config.afNotificationUri ++ "/" ++ sessionId)),
    ("notifCorreId", .str sessionId)]

/-- The members that identify the device: the first identifier there is. -/
def ueFields (device : Option QodDevice) : List (String × Option Json) :=
  let ipv4 := device.bind (·.ipv4Address)
  let ipv6 := if ipv4.isSome then none else device.bind (·.ipv6Address)
  let gpsi := if ipv4.isSome || ipv6.isSome then none
    else device.bind fun d => d.phoneNumber.or d.networkAccessIdentifier
  [("ueIpv4", ipv4.map (.str ·.publicAddress.value)), ("ueIpv6", ipv6.map (.str ·.value)),
    ("gpsi", gpsi.map .str)]

/-- The members of `build_app_session_context`. -/
def contextFields (session : QodSession) : List (String × Option Json) :=
  [("medComponents", some (buildMediaComponents session)),
    ("evSubsc", some (buildSubscriptionInfo config session.sessionId)),
    ("afAppId", some (.str config.afId)),
    ("servUrn", some (.str ("urn:x-3gpp-qod:" ++ session.qosProfile))),
    ("notifUri", some (.str (config.afNotificationUri ++ "/" ++ session.sessionId))),
    ("suppFeat", some (.str "1"))] ++
  ueFields session.device ++
  [("supi", session.ueSupi.map (.str ·.value)),
    ("dnn", session.pduSessionId.map fun _ => .str "internet"),
    ("servInfStatus", some (.str "PRELIMINARY"))]

/-- `build_app_session_context`. -/
def buildAppSessionContext (session : QodSession) : Json := .ofFields (contextFields config session)

/-- `build_pcf_create_request`. -/
def buildPcfCreateRequest (session : QodSession) : Json :=
  .obj [("ascReqData", buildAppSessionContext config session)]

end Request

/-! ## What the validator makes of it -/

/-- The priorities of the enumeration are the levels from one to sixteen. -/
theorem isValidReservationPriority_iff (p : ℤ) :
    isValidReservationPriority ("PRIO_" ++ toString p) ↔ 1 ≤ p ∧ p ≤ 16 := by
  have hlist : ∀ s, isValidReservationPriority s ↔
      ∃ k ∈ List.range' 1 16, "PRIO_" ++ toString k = s := by
    intro s
    rw [isValidReservationPriority, decide_eq_true_iff, ← List.mem_map]
    exact Iff.rfl
  rw [hlist]
  simp only [String.append_right_inj, List.mem_range'_1]
  rcases p with n | n
  · -- A natural number, with the same text.
    constructor
    · rintro ⟨k, hk, heq⟩
      have := Text.toString_injective (heq.trans rfl : toString k = toString n)
      simp only [Int.ofNat_eq_natCast]
      omega
    · intro h
      simp only [Int.ofNat_eq_natCast] at h
      exact ⟨n, by omega, rfl⟩
  · -- A negative number: its text starts with a sign.
    constructor
    · rintro ⟨k, -, heq⟩
      have hmem : '-' ∈ (toString k).toList := by
        rw [heq, show toString (Int.negSucc n) = "-" ++ toString (n + 1) from rfl,
          String.toList_append]
        exact List.mem_append_left _ (List.mem_singleton.2 rfl)
      have := Text.isDigit_of_mem_toString hmem
      cases this
    · intro h
      omega

/-- More characters that are no white space do not harm what follows a scheme. -/
theorem isAuthority_append {cs tail : List Char} (h : isAuthority cs)
    (htail : ∀ c ∈ tail, Text.isSpace c = false) : isAuthority (cs ++ tail) := by
  have hall : ∀ l : List Char, (l.all fun c => !Text.isSpace c) →
      ((l ++ tail).all fun c => !Text.isSpace c) := by
    intro l hl
    rw [List.all_append, hl, Bool.true_and, List.all_eq_true]
    intro c hc
    rw [htail c hc]
    rfl
  rcases cs with _ | ⟨c, cs⟩
  · cases h
  rw [isAuthority.eq_def] at h
  rw [List.cons_append, isAuthority.eq_def]
  dsimp only at h ⊢
  obtain ⟨hc, hrest⟩ := (Bool.and_eq_true _ _).mp h
  rw [hc, Bool.true_and]
  split_ifs at hrest ⊢
  · rcases cs with _ | ⟨d, cs⟩
    · cases hrest
    · obtain ⟨hd, hcs⟩ := (Bool.and_eq_true _ _).mp hrest
      exact (Bool.and_eq_true _ _).mpr ⟨hd, hall cs hcs⟩
  · exact hall cs hrest

/-- A session id without white space can be appended to a URL. -/
theorem isValidUrl_append {uri sessionId : String} (huri : isValidUrl uri)
    (hid : ∀ c ∈ sessionId.toList, Text.isSpace c = false) : isValidUrl (uri ++ "/" ++ sessionId) := by
  obtain ⟨scheme, hmem, hscheme⟩ := List.any_eq_true.1 huri
  obtain ⟨hmatch, hauthority⟩ := (Bool.and_eq_true _ _).mp hscheme
  have hlength : scheme.length ≤ uri.toList.length := by
    have := congrArg List.length (eq_of_beq hmatch)
    rw [List.length_map, List.length_take, String.length_toList, String.length_toList] at this
    rw [String.length_toList]
    omega
  refine List.any_eq_true.2 ⟨scheme, hmem, (Bool.and_eq_true _ _).mpr ⟨?_, ?_⟩⟩
  · rw [String.append_assoc, String.toList_append, List.take_append_of_le_length hlength]
    exact hmatch
  · rw [String.append_assoc, String.toList_append, List.drop_append_of_le_length hlength]
    refine isAuthority_append hauthority ?_
    intro c hc
    rw [String.toList_append] at hc
    rcases List.mem_append.1 hc with hc | hc
    · rw [List.mem_singleton.1 hc]
      decide
    · exact hid c hc

theorem validateMediaSubComponent_mediaSubComponent (k : ℕ) (description : String) :
    validateMediaSubComponent (mediaSubComponent k description) = [] := by
  rfl

/-- The subscription of a session whose notification URI is valid. -/
theorem validateEventsSubscriptionReqData_buildSubscriptionInfo {config : AfConfig}
    {sessionId : String} (h : isValidUrl (config.afNotificationUri ++ "/" ++ sessionId)) :
    validateEventsSubscriptionReqData (buildSubscriptionInfo config sessionId) = [] := by
  have huri : validateString (buildSubscriptionInfo config sessionId) "notifUri" isValidUrl
      "notifUri must be a valid URI" = [] := if_pos h
  rw [validateEventsSubscriptionReqData, huri]
  rfl

/-- All sub-components of a session are valid, and there is one at least. -/
theorem validate_mapPortsToMediaSubcomponents (s : FlowSession) :
    (mapPortsToMediaSubcomponents s).isObject ∧
      (mapPortsToMediaSubcomponents s).members ≠ [] ∧
      (mapPortsToMediaSubcomponents s).members.flatMap (fun m => validateMediaSubComponent m.2) =
        [] := by
  rw [mapPortsToMediaSubcomponents_eq]
  refine ⟨rfl, ?_, ?_⟩
  · have hne : descriptions "out" s ≠ [] := by
      rw [← List.length_pos_iff, length_descriptions]
      have := List.length_pos_iff.2 (specPairs_ne_nil s)
      omega
    simpa [Json.members, numbered] using hne
  · rw [List.flatMap_eq_nil_iff]
    intro m hm
    obtain ⟨d, -, rfl⟩ := List.mem_map.1 hm
    exact validateMediaSubComponent_mediaSubComponent d.2 d.1

theorem find?_mediaComponent (session : QodSession) (key : String) :
    (mediaComponent session).find? key =
      ((basicFields session ++ session.qosProfileMapping.elim [] mappingFields).lookup key).join := by
  refine Json.find?_ofFields key ?_
  rcases session.qosProfileMapping with _ | mapping
  · exact (by decide : ["medCompN", "fStatus", "medType", "medSubComps"].Nodup)
  · exact (by decide : ["medCompN", "fStatus", "medType", "medSubComps", "qosReference", "resPrio",
      "marBwDl", "marBwUl", "mirBwDl", "mirBwUl", "minDesBwDl", "minDesBwUl", "maxSuppBwDl",
      "maxSuppBwUl", "desMaxLatency", "desMaxLoss", "maxPacketLossRateDl", "maxPacketLossRateUl",
      "preemptCap", "preemptVuln"].Nodup)

/-- The QoS parameters of a session are in the formats of the PCF. -/
structure ValidMapping (mapping : QosProfileMapping) : Prop where
  priorityLevel : ∀ p ∈ mapping.priorityLevel, 1 ≤ p ∧ p ≤ 16
  maxDownlinkRate : ∀ r ∈ mapping.maxDownlinkRate, isValidBitrate r
  maxUplinkRate : ∀ r ∈ mapping.maxUplinkRate, isValidBitrate r
  guaranteedDownlinkRate : mapping.isGbr → ∀ r ∈ mapping.guaranteedDownlinkRate, isValidBitrate r
  guaranteedUplinkRate : mapping.isGbr → ∀ r ∈ mapping.guaranteedUplinkRate, isValidBitrate r

section MediaComponent

variable (session : QodSession)

/-- A member made of the mapping alone. -/
theorem find?_of_mapping (key : String) (f : QosProfileMapping → Option String)
    (hbasic : (basicFields session).lookup key = none)
    (hmapping : ∀ mapping, ((mappingFields mapping).lookup key).join = (f mapping).map .str) :
    (mediaComponent session).find? key = (session.qosProfileMapping.bind f).map .str := by
  rw [find?_mediaComponent]
  rcases session.qosProfileMapping with _ | mapping
  · rw [Option.elim_none, List.append_nil, hbasic]
    rfl
  · rw [Option.elim_some, List.lookup_append, hbasic, Option.none_or, hmapping]
    rfl

theorem find?_basicFields {key : String} {v : Json}
    (h : (basicFields session).lookup key = some (some v)) :
    (mediaComponent session).find? key = some v := by
  rw [find?_mediaComponent, List.lookup_append, h]
  rfl

/-- The members that are never set. -/
theorem find?_mediaComponent_absent : ∀ key ∈ ["codecs", "altSerReqs", "altSerReqsData"],
    (mediaComponent session).find? key = none := by
  intro key hkey
  rw [find?_mediaComponent]
  rcases session.qosProfileMapping with _ | mapping <;> fin_cases hkey <;> rfl

/-- A bit rate that is only set for guaranteed ones. -/
def guaranteedRate (f : QosProfileMapping → Option String) (mapping : QosProfileMapping) :
    Option String :=
  if mapping.isGbr then f mapping else none

theorem map_guaranteedRate (f : QosProfileMapping → Option String) (mapping : QosProfileMapping) :
    (if mapping.isGbr then (f mapping).map Json.str else none) =
      (guaranteedRate f mapping).map .str := by
  rw [guaranteedRate]
  split_ifs <;> rfl

/-- Where the bit rates of a media component come from. -/
def rateSources : List (String × (QosProfileMapping → Option String)) :=
  [("marBwDl", (·.maxDownlinkRate)), ("marBwUl", (·.maxUplinkRate)),
    ("mirBwDl", guaranteedRate (·.guaranteedDownlinkRate)),
    ("mirBwUl", guaranteedRate (·.guaranteedUplinkRate)),
    ("minDesBwDl", guaranteedRate (·.guaranteedDownlinkRate)),
    ("minDesBwUl", guaranteedRate (·.guaranteedUplinkRate)),
    ("maxSuppBwDl", (·.maxDownlinkRate)), ("maxSuppBwUl", (·.maxUplinkRate)),
    ("rrBw", fun _ => none), ("rsBw", fun _ => none)]

theorem find?_rateSources :
    ∀ r ∈ rateSources, (mediaComponent session).find? r.1 =
      (session.qosProfileMapping.bind r.2).map .str := by
  intro r hr
  have hrates : ∀ mapping, ((mappingFields mapping).lookup r.1).join = (r.2 mapping).map .str := by
    intro mapping
    fin_cases hr
    all_goals first | rfl | exact map_guaranteedRate _ mapping
  refine find?_of_mapping session r.1 r.2 ?_ hrates
  fin_cases hr <;> rfl

theorem validateMediaRates_mediaComponent :
    validateMediaRates (mediaComponent session) = [] ↔
      ∀ r ∈ rateSources, ∀ rate ∈ session.qosProfileMapping.bind r.2, isValidBitrate rate := by
  have hfields : bitrateFields = rateSources.map Prod.fst := rfl
  have hreqs := find?_mediaComponent_absent session "altSerReqs" (by simp)
  have hdata := find?_mediaComponent_absent session "altSerReqsData" (by simp)
  rw [validateMediaRates, Json.contains, Json.contains, hreqs, hdata, hfields]
  simp only [Option.isSome_none, Bool.and_false, Bool.false_eq_true, if_false, List.nil_append,
    List.flatMap_eq_nil_iff, List.forall_mem_map]
  refine forall₂_congr fun r hr => ?_
  exact validateString_of_text (find?_rateSources session r hr)

theorem rateSources_iff (mapping : QosProfileMapping) :
    (∀ r ∈ rateSources, ∀ rate ∈ r.2 mapping, isValidBitrate rate) ↔
      (∀ r ∈ mapping.maxDownlinkRate, isValidBitrate r) ∧
      (∀ r ∈ mapping.maxUplinkRate, isValidBitrate r) ∧
      (mapping.isGbr → ∀ r ∈ mapping.guaranteedDownlinkRate, isValidBitrate r) ∧
      (mapping.isGbr → ∀ r ∈ mapping.guaranteedUplinkRate, isValidBitrate r) := by
  have hguaranteed : ∀ f : QosProfileMapping → Option String,
      (∀ rate ∈ guaranteedRate f mapping, isValidBitrate rate) ↔
        (mapping.isGbr → ∀ r ∈ f mapping, isValidBitrate r) := by
    intro f
    rw [guaranteedRate]
    split_ifs with h <;> simp [h]
  simp only [rateSources, List.forall_mem_cons, hguaranteed]
  simp only [List.not_mem_nil, Option.mem_def]
  tauto

theorem validateResPrio_mediaComponent :
    validateString (mediaComponent session) "resPrio" isValidReservationPriority
        "resPrio contains invalid reservation priority value" = [] ↔
      ∀ mapping ∈ session.qosProfileMapping, ∀ p ∈ mapping.priorityLevel, 1 ≤ p ∧ p ≤ 16 := by
  have hfind := find?_of_mapping session "resPrio"
    (fun mapping => mapping.priorityLevel.map fun p => "PRIO_" ++ toString p) rfl
    (fun mapping => by rw [Option.map_map]; rfl)
  rw [validateString_of_text hfind]
  rcases session.qosProfileMapping with _ | mapping
  · simp
  · rcases hlevel : mapping.priorityLevel with _ | p
    · simp [hlevel]
    · simpa [hlevel] using isValidReservationPriority_iff p

/-- The media component is accepted if its QoS parameters are in the formats of the PCF. -/
theorem validateMediaComponent_mediaComponent :
    validateMediaComponent (mediaComponent session) = [] ↔
      ∀ mapping ∈ session.qosProfileMapping, ValidMapping mapping := by
  obtain ⟨hobject, hnonempty, hvalid⟩ := validate_mapPortsToMediaSubcomponents session.flowSession
  have hcomponent : (mediaComponent session).isObject := by
    rw [mediaComponent, Json.isObject_ofFields, Json.isNull_ofFields]
    rfl
  have hcodecs := find?_mediaComponent_absent session "codecs" (by simp)
  have hreqs := find?_mediaComponent_absent session "altSerReqs" (by simp)
  have hdata := find?_mediaComponent_absent session "altSerReqsData" (by simp)
  have hnumber : (mediaComponent session).find? "medCompN" = some (.int 1) :=
    find?_basicFields session rfl
  have hsub : (mediaComponent session).find? "medSubComps" =
      some (mapPortsToMediaSubcomponents session.flowSession) := find?_basicFields session rfl
  have hrequired : validateRequiredFields (mediaComponent session) ["medCompN"] = [] := by
    rw [validateRequiredFields_eq_nil_iff]
    simp [Json.contains, hnumber]
  have hinteger : validateInteger (mediaComponent session) "medCompN" = [] := by
    rw [validateInteger, validateMember, hnumber]
    rfl
  have htype : validateString (mediaComponent session) "medType" isValidMediaType
      "medType contains invalid media type value" = [] := by
    have hfind : (mediaComponent session).find? "medType" =
      (some (mediaTypeOf session.qosProfile)).map .str := find?_basicFields session rfl
    rw [validateString_of_text hfind]
    rintro _ ⟨⟩
    rw [mediaTypeOf]
    split_ifs <;> decide
  have hstatus : validateString (mediaComponent session) "fStatus" isValidFlowStatus
      "fStatus contains invalid flow status value" = [] := by
    have hfind : (mediaComponent session).find? "fStatus" = some (.str "ENABLED") :=
      find?_basicFields session rfl
    rw [validateString, validateMember, hfind]
    rfl
  have hrates : (∀ r ∈ rateSources, ∀ rate ∈ session.qosProfileMapping.bind r.2,
      isValidBitrate rate) ↔ ∀ mapping ∈ session.qosProfileMapping,
        ∀ r ∈ rateSources, ∀ rate ∈ r.2 mapping, isValidBitrate rate := by
    rcases session.qosProfileMapping with _ | mapping <;> simp
  rw [validateMediaComponent, validateObject_eq_nil_iff, hsub]
  dsimp only
  rw [hrequired, hinteger, htype, hstatus, validateArray, validateArrayMinItems,
    validateMember_of_none hcodecs, validateArrayMaxItems, validateMember_of_none hcodecs,
    validateArrayMinItems, validateMember_of_none hreqs, validateArrayMinItems,
    validateMember_of_none hdata, validateElements, validateMember_of_none hdata, hobject, hvalid]
  simp only [hcomponent, true_and, Bool.not_true, Bool.false_eq_true, if_false, List.isEmpty_iff,
    hnonempty, List.append_eq_nil_iff, and_true, validateResPrio_mediaComponent,
    validateMediaRates_mediaComponent, hrates, rateSources_iff]
  constructor
  · rintro ⟨hprio, hrate⟩ mapping hmapping
    obtain ⟨h₁, h₂, h₃, h₄⟩ := hrate mapping hmapping
    exact ⟨hprio mapping hmapping, h₁, h₂, h₃, h₄⟩
  · intro h
    refine ⟨fun mapping hmapping => (h mapping hmapping).priorityLevel, fun mapping hmapping => ?_⟩
    obtain ⟨-, h₁, h₂, h₃, h₄⟩ := h mapping hmapping
    exact ⟨h₁, h₂, h₃, h₄⟩

end MediaComponent

section Context

variable (config : AfConfig) (session : QodSession)

theorem find?_buildAppSessionContext (key : String) :
    (buildAppSessionContext config session).find? key =
      ((contextFields config session).lookup key).join :=
  Json.find?_ofFields key
    (by decide : ["medComponents", "evSubsc", "afAppId", "servUrn", "notifUri", "suppFeat", "ueIpv4",
      "ueIpv6", "gpsi", "supi", "dnn", "servInfStatus"].Nodup)

/-- The IPv4 addresses sent, if any. -/
def sentIpv4 (device : Option QodDevice) : Option DeviceIpv4Addr := device.bind (·.ipv4Address)

/-- The IPv6 address sent, if any. -/
def sentIpv6 (device : Option QodDevice) : Option Ipv6Addr :=
  if (sentIpv4 device).isSome then none else device.bind (·.ipv6Address)

/-- The device has an address the PCF is told, in the format of the PCF. -/
def HasValidAddress (device : Option QodDevice) : Prop :=
  ∃ d, device = some d ∧
    ((∃ a, d.ipv4Address = some a ∧ isValidIpv4 a.publicAddress.value) ∨
      (d.ipv4Address = none ∧ ∃ a, d.ipv6Address = some a ∧ isValidIpv6 a.value))

/-- Exactly one address is sent and it is valid. -/
theorem hasValidAddress_iff (device : Option QodDevice) :
    HasValidAddress device ↔
      (((sentIpv4 device).isSome.toNat + (sentIpv6 device).isSome.toNat = 1) ∧
        (∀ a ∈ sentIpv4 device, isValidIpv4 a.publicAddress.value) ∧
        ∀ a ∈ sentIpv6 device, isValidIpv6 a.value) := by
  rcases device with _ | ⟨_, _, ipv4, ipv6⟩
  · simp [HasValidAddress, sentIpv4, sentIpv6]
  · rcases ipv4 with _ | a <;> rcases ipv6 with _ | b <;>
      simp [HasValidAddress, sentIpv4, sentIpv6]

/-- The addresses in the request are checked for their format and number. -/
theorem validateAddress_buildAppSessionContext :
    validateOneOfRequired (buildAppSessionContext config session) ["ueIpv4", "ueIpv6", "ueMac"] = [] ∧
      validateString (buildAppSessionContext config session) "ueIpv4" isValidIpv4
        "ueIpv4 must be a valid IPv4 address" = [] ∧
      validateString (buildAppSessionContext config session) "ueIpv6" isValidIpv6
        "ueIpv6 must be a valid IPv6 address" = [] ↔ HasValidAddress session.device := by
  have hipv4 : (buildAppSessionContext config session).find? "ueIpv4" =
      ((sentIpv4 session.device).map (·.publicAddress.value)).map .str := by
    rw [find?_buildAppSessionContext, Option.map_map]
    rfl
  have hipv6 : (buildAppSessionContext config session).find? "ueIpv6" =
      ((sentIpv6 session.device).map (·.value)).map .str := by
    rw [find?_buildAppSessionContext, Option.map_map]
    rfl
  have hmac : (buildAppSessionContext config session).find? "ueMac" = none := by
    rw [find?_buildAppSessionContext]
    rfl
  rw [hasValidAddress_iff, validateOneOfRequired_eq_nil_iff, validateString_of_text hipv4,
    validateString_of_text hipv6]
  have hcount : ["ueIpv4", "ueIpv6", "ueMac"].countP (buildAppSessionContext config session).contains =
      (sentIpv4 session.device).isSome.toNat + (sentIpv6 session.device).isSome.toNat := by
    simp only [List.countP_cons, List.countP_nil, Json.contains, hipv4, hipv6, hmac]
    rcases sentIpv4 session.device <;> rcases sentIpv6 session.device <;> rfl
  rw [hcount]
  simp

/-- The request data is accepted if the address and the media component are. -/
theorem validateAppSessionContextReqData_eq_nil_iff
    (hurl : isValidUrl (config.afNotificationUri ++ "/" ++ session.sessionId)) :
    validateAppSessionContextReqData (buildAppSessionContext config session) = [] ↔
      HasValidAddress session.device ∧ validateMediaComponent (mediaComponent session) = [] := by
  have hobject : (buildAppSessionContext config session).isObject := by
    rw [buildAppSessionContext, Json.isObject_ofFields, Json.isNull_ofFields]
    rfl
  have hpresent : ∀ {key : String} {v : Json},
      (contextFields config session).lookup key = some (some v) →
      (buildAppSessionContext config session).find? key = some v := by
    intro key v h
    rw [find?_buildAppSessionContext, h]
    rfl
  have habsent : ∀ key ∈ ["ueMac", "resPrio", "sponStatus", "afRoutReq", "tsnPortManContNwtts"],
      (buildAppSessionContext config session).find? key = none := by
    intro key hkey
    rw [find?_buildAppSessionContext]
    fin_cases hkey <;> rfl
  have hrequired : validateRequiredFields (buildAppSessionContext config session)
      ["notifUri", "suppFeat"] = [] := by
    rw [validateRequiredFields_eq_nil_iff]
    intro key hkey
    rw [Json.contains, find?_buildAppSessionContext]
    fin_cases hkey <;> rfl
  have huri : validateString (buildAppSessionContext config session) "notifUri" isValidUrl
      "notifUri must be a valid URI" = [] := by
    rw [validateString, validateMember, hpresent rfl]
    exact if_pos hurl
  have hstatus : validateString (buildAppSessionContext config session) "servInfStatus"
      isValidServiceInfoStatus "servInfStatus contains invalid service info status value" = [] := by
    rw [validateString, validateMember, hpresent rfl]
    rfl
  have hevents : validateMember (buildAppSessionContext config session) "evSubsc"
      validateEventsSubscriptionReqData = [] := by
    rw [validateMember, hpresent rfl]
    exact validateEventsSubscriptionReqData_buildSubscriptionInfo hurl
  have hrouting : validateRouting (buildAppSessionContext config session) = [] := by
    rw [validateRouting, validateMember_of_none (habsent _ (by simp)), validateArrayMinItems,
      validateMember_of_none (habsent _ (by simp))]
    rfl
  have hmap : (buildMediaComponents session).isObject = true := rfl
  have hcomponents : (buildAppSessionContext config session).find? "medComponents" =
      some (buildMediaComponents session) := hpresent rfl
  rw [← validateAddress_buildAppSessionContext config session, validateAppSessionContextReqData,
    validateObject_eq_nil_iff, hcomponents]
  dsimp only
  rw [hrequired, huri, hstatus, hevents, hrouting, validateString_of_none (habsent "ueMac" (by simp)),
    validateString_of_none (habsent "resPrio" (by simp)),
    validateString_of_none (habsent "sponStatus" (by simp)), hmap]
  simp only [hobject, true_and, Bool.not_true, Bool.false_eq_true, if_false, List.nil_append,
    List.append_nil, List.append_eq_nil_iff, and_assoc, buildMediaComponents, Json.members,
    List.flatMap_cons, List.flatMap_nil]

/-- The request is accepted if its data is. -/
theorem validate_buildPcfCreateRequest
    (hurl : isValidUrl (config.afNotificationUri ++ "/" ++ session.sessionId)) :
    validateAppSessionContext (buildPcfCreateRequest config session) = [] ↔
      HasValidAddress session.device ∧
        ∀ mapping ∈ session.qosProfileMapping, ValidMapping mapping := by
  rw [← validateMediaComponent_mediaComponent,
    ← validateAppSessionContextReqData_eq_nil_iff config session hurl]
  have hdata : validateAppSessionContext (buildPcfCreateRequest config session) =
      validateAppSessionContextReqData (buildAppSessionContext config session) ++ [] ++ [] := rfl
  rw [hdata, List.append_nil, List.append_nil]

/-- The handler accepts its own request for exactly the sessions whose device has an
    address and whose QoS parameters are in the formats of the PCF. -/
theorem validateAppSessionContext_eq_nil_iff
    (hid : ∀ c ∈ session.sessionId.toList, Text.isSpace c = false)
    (huri : isValidUrl config.afNotificationUri) :
    validateAppSessionContext (buildPcfCreateRequest config session) = [] ↔
      HasValidAddress session.device ∧
        ∀ mapping ∈ session.qosProfileMapping, ValidMapping mapping :=
  validate_buildPcfCreateRequest config session (isValidUrl_append huri hid)

/-- A session with an IPv4 address and a GBR profile. -/
def voiceCall : QodSession where
  sessionId := "session-1"
  apiConsumerId := "consumer"
  device := some { ipv4Address := some { publicAddress := ⟨"203.0.113.5"⟩ } }
  applicationServer := { ipv4Address := some "198.51.100.7" }
  devicePorts := none
  applicationServerPorts := none
  qosProfile := "voice"
  qosProfileMapping := some
    (gbrMapping 1 2 100 (1 / 1000) "64 Kbps" "64 Kbps" "128 Kbps" "128 Kbps")
  duration := 600
  sink := none
  sinkCredential := none
  createdAt := 0
  qosStatus := .requested

theorem validateAppSessionContext_voiceCall :
    validateAppSessionContext (buildPcfCreateRequest {} voiceCall) = [] ↔
      HasValidAddress voiceCall.device ∧
        ∀ mapping ∈ voiceCall.qosProfileMapping, ValidMapping mapping :=
  validateAppSessionContext_eq_nil_iff {} voiceCall (by simp [voiceCall, Text.isSpace]) (by decide)

/-! ## The handler with these requests -/

/-- The requests the handler builds, and how it validates them. -/
def requestRules : RequestRules where
  buildPcfCreateRequest received := buildPcfCreateRequest config received.toSession
  buildMediaComponents received := buildMediaComponents received.toSession
  validateAppSessionContext json := (validateAppSessionContext json).isEmpty

/-- The PCF is not asked for a session without a valid address, or with QoS parameters
    that are not in its formats. -/
theorem createPcfSession_of_not_valid (h : QodPcfHandler) {received : ReceivedSession}
    (hid : ∀ c ∈ received.sessionId.toList, Text.isSpace c = false)
    (huri : isValidUrl config.afNotificationUri)
    (hinvalid : ¬(HasValidAddress received.device ∧
      ∀ mapping ∈ received.qosProfileMapping, ValidMapping mapping))
    (success : Bool) (response : Json) (now : ℤ) :
    h.createPcfSession (requestRules config) received success response now =
      (some (.error 400 "pcf_request_invalid" "PCF create app session request validation failed"
        received.sessionId), h) := by
  have hiff := validate_buildPcfCreateRequest config received.toSession (isValidUrl_append huri hid)
  have hvalid : (requestRules config).validateAppSessionContext
      ((requestRules config).buildPcfCreateRequest received) = false := by
    simp only [requestRules]
    rw [List.isEmpty_eq_false_iff, ne_eq, hiff]
    exact hinvalid
  simp only [createPcfSession, hvalid, Bool.not_false, if_true]

end Context

end QodPcfHandler

end PhineAf

import PhineAf.Pcf.AppSession
import PhineAf.Pcf.SessionMap

/-!
# The location of an application session

The PCF answers a creation with the location of the application session, in a header. The
gateway puts the headers of the answer into its reply, as texts, and
`QodPcfHandler::create_pcf_session` takes everything after `/app-sessions/` for the id.

The pattern begins and ends with a slash: it could be found too early, where the end of
what is before it begins an occurrence. It is not if `/app-sessions` is not in there
(`QodPcfHandler.appSessionIdOf_append`). Then the id is stored in both maps; without an id,
they are as before (`QodPcfHandler.createPcfSession_location`).
-/

namespace PhineAf

/-! ## The gateway -/

/-- The answer to an HTTP request. -/
structure HttpResponse where
  error : Bool := false
  errorMessage : String := ""
  statusCode : ℤ
  headers : List (String × String)
  body : String := ""

namespace HttpPcfGateway

/-- The headers in a reply. -/
def headersJson (headers : List (String × String)) : Json :=
  .obj (headers.foldl (fun fields e => Json.assign fields e.1 (.str e.2)) [])

/-- The members of a reply before the headers are attached. -/
def bodyFields (lib : Json.Library) (body : String) : List (String × Json) :=
  if body.isEmpty then [("body", .null)]
  else match lib.parse body with
    | .error _ => [("raw_body", .str body)]
    | .ok (.obj fields) => fields
    | .ok json => [("body", json)]

/-- `build_response_json`. -/
def buildResponseJson (lib : Json.Library) (response : HttpResponse) : Json :=
  let fields := bodyFields lib response.body
  .obj (Json.assign (Json.assign fields "headers" (headersJson response.headers)) "http_code"
    (.int response.statusCode))

/-- The reply to an error of the PCF. -/
def errorJson (lib : Json.Library) (response : HttpResponse) : Json :=
  if response.body.isEmpty then .obj [("status", .int response.statusCode)]
  else match lib.parse response.body with
    | .ok json => json
    | .error _ => .obj [("status", .int response.statusCode), ("detail", .str response.body)]

/-- `create_app_session`: whether it succeeded, and the reply. There may be an exception
    instead of an answer. -/
def createAppSession (lib : Json.Library) (answer : Except String HttpResponse) : Bool × Json :=
  match answer with
  | .error what => (false, .obj [("error", .str what)])
  | .ok response =>
    if response.error then (false, .obj [("error", .str response.errorMessage)])
    else if 200 ≤ response.statusCode ∧ response.statusCode < 300 then
      (true, buildResponseJson lib response)
    else (false, errorJson lib response)

end HttpPcfGateway

/-! ## The header -/

/-- The reply has a `Location` header, or else a `location` header. Headers are texts. -/
def HasLocation (response : Json) (location : String) : Prop :=
  ∃ headers, response.find? "headers" = some headers ∧
    ∃ upper lower : Option String, headers.find? "Location" = upper.map .str ∧
      headers.find? "location" = lower.map .str ∧ upper.or lower = some location

/-- The reply has none of the two. -/
def NoLocation (response : Json) : Prop :=
  ∀ headers, response.find? "headers" = some headers →
    headers.find? "Location" = none ∧ headers.find? "location" = none

namespace HttpPcfGateway

/-- The headers are texts. -/
theorem exists_find?_headersJson (headers : List (String × String)) (key : String) :
    ∃ s : Option String, (headersJson headers).find? key = s.map .str := by
  have hfold : ∀ fields : List (String × Json),
      (∃ s : Option String, fields.lookup key = s.map .str) →
      ∃ s : Option String, (headers.foldl (fun fields e => Json.assign fields e.1 (.str e.2))
        fields).lookup key = s.map .str := by
    induction headers with
    | nil => exact fun fields h => h
    | cons e headers ih =>
      rintro fields ⟨s, hs⟩
      refine ih _ ?_
      rw [Json.lookup_assign]
      split
      next => exact ⟨some e.2, rfl⟩
      next => exact ⟨s, hs⟩
  exact hfold [] ⟨none, rfl⟩

theorem find?_buildResponseJson (lib : Json.Library) (response : HttpResponse) :
    (buildResponseJson lib response).find? "headers" = some (headersJson response.headers) := by
  rw [buildResponseJson, Json.find?, Json.lookup_assign, if_neg (by decide), Json.lookup_assign,
    if_pos rfl]

/-- A successful reply of the gateway has the header or it has not. -/
theorem hasLocation_or_noLocation {lib : Json.Library} {answer : Except String HttpResponse}
    (h : (createAppSession lib answer).1 = true) :
    (∃ location, HasLocation (createAppSession lib answer).2 location) ∨
      NoLocation (createAppSession lib answer).2 := by
  obtain ⟨response, hresponse⟩ :
      ∃ response, (createAppSession lib answer).2 = buildResponseJson lib response := by
    rcases answer with what | response
    · cases h
    · refine ⟨response, ?_⟩
      rw [createAppSession] at h ⊢
      split_ifs at h ⊢
      rfl
  obtain ⟨upper, hupper⟩ := exists_find?_headersJson response.headers "Location"
  obtain ⟨lower, hlower⟩ := exists_find?_headersJson response.headers "location"
  rw [hresponse]
  rcases hor : upper.or lower with _ | location
  · obtain ⟨rfl, rfl⟩ := Option.or_eq_none_iff.1 hor
    refine .inr fun headers hheaders => ?_
    rw [find?_buildResponseJson] at hheaders
    obtain rfl := Option.some.inj hheaders
    exact ⟨hupper, hlower⟩
  · exact .inl ⟨location, headersJson response.headers, find?_buildResponseJson lib response, upper,
      lower, hupper, hlower, hor⟩

end HttpPcfGateway

namespace QodPcfHandler

variable {response : Json} {location : String}

theorem locationOf_of_noLocation (h : NoLocation response) : locationOf response = .ok none := by
  rw [locationOf]
  rcases hheaders : response.find? "headers" with _ | headers
  · rfl
  · obtain ⟨hupper, hlower⟩ := h headers hheaders
    simp [Json.contains, hupper, hlower]

theorem locationOf_of_hasLocation (h : HasLocation response location) :
    locationOf response = .ok (some location) := by
  obtain ⟨headers, hheaders, upper, lower, hupper, hlower, hor⟩ := h
  have hcontains : (headers.contains "Location" || headers.contains "location") = true := by
    rw [Json.contains, Json.contains, hupper, hlower, Option.isSome_map, Option.isSome_map,
      ← Option.isSome_or, hor]
    rfl
  obtain ⟨fields, rfl⟩ : ∃ fields, headers = .obj fields := by
    rcases headers with _ | _ | _ | _ | _ | _ | fields
    case obj => exact ⟨fields, rfl⟩
    all_goals cases hcontains
  have hvalue : ∀ key default, (Json.obj fields).value key default =
      .ok (((Json.obj fields).find? key).getD default) := fun _ _ => rfl
  rw [locationOf, hheaders]
  simp only [hcontains, if_true, hvalue, hupper, hlower]
  rcases upper with _ | u <;> rcases lower with _ | l <;> cases hor <;> rfl

/-! ## The id -/

/-- The id is everything after the pattern, if the pattern does not begin before. -/
theorem appSessionIdOf_append {apiRoot : String} (id : String)
    (hroot : ¬"/app-sessions".toList <:+: apiRoot.toList) :
    appSessionIdOf (apiRoot ++ "/app-sessions/" ++ id) = some id := by
  have hpattern : "/app-sessions/".toList = '/' :: "app-sessions".toList ++ ['/'] := by decide
  have hafter : Text.afterFirst "/app-sessions/".toList
      (apiRoot ++ "/app-sessions/" ++ id).toList = some id.toList := by
    rw [Text.afterFirst_eq_some_iff]
    refine ⟨apiRoot.toList, by simp, fun a b hab => ?_⟩
    rw [String.toList_append, String.toList_append, hpattern] at hab
    exact Text.length_le_of_occurrence (by decide) hroot hab
  rw [appSessionIdOf, hafter, Option.map_some, String.ofList_toList]

/-- Nothing follows the pattern, wherever it is. -/
theorem appSessionIdOf_of_nothing {location : String}
    (h : ∀ a b, location = a ++ "/app-sessions/" ++ b → b = "") :
    appSessionIdOf location = none ∨ appSessionIdOf location = some "" := by
  rw [appSessionIdOf]
  rcases hafter : Text.afterFirst "/app-sessions/".toList location.toList with _ | t
  · exact .inl rfl
  · obtain ⟨s, hs, -⟩ := Text.afterFirst_eq_some_iff.1 hafter
    refine .inr (congrArg some (h (String.ofList s) (String.ofList t) ?_))
    rw [← String.toList_inj, hs]
    simp

/-! ## Creation -/

/-- The id of a location is stored in both maps. Without it there is an error, and the maps
    are as before. -/
theorem createPcfSession_location (rules : RequestRules) (h : QodPcfHandler)
    (session : ReceivedSession) (success : Bool) (response : Json) (now : ℤ)
    (hvalid : rules.validateAppSessionContext (rules.buildPcfCreateRequest session) = true) :
    (∀ apiRoot id, success = true →
      HasLocation response (apiRoot ++ "/app-sessions/" ++ id) →
      ¬"/app-sessions".toList <:+: apiRoot.toList → id ≠ "" →
        (h.createPcfSession rules session success response now).1 =
          some (.success .qodSessionCreated id session.sessionId) ∧
        Paired session.sessionId id h (h.createPcfSession rules session success response now).2) ∧
    ((success = false ∨ NoLocation response ∨ ∃ location, HasLocation response location ∧
        ∀ a b, location = a ++ "/app-sessions/" ++ b → b = "") →
      (∃ status code message, (h.createPcfSession rules session success response now).1 =
        some (.error status code message session.sessionId)) ∧
      (h.createPcfSession rules session success response now).2.qodToPcfSessions =
        h.qodToPcfSessions ∧
      (h.createPcfSession rules session success response now).2.pcfToQodSessions =
        h.pcfToQodSessions) := by
  have hnot : (!rules.validateAppSessionContext (rules.buildPcfCreateRequest session)) = false := by
    rw [hvalid]
    rfl
  constructor
  · rintro apiRoot id rfl hlocation hroot hid
    have hempty : id.isEmpty = false := by simpa using hid
    rw [createPcfSession]
    simp only [hnot, locationOf_of_hasLocation hlocation, appSessionIdOf_append id hroot, hempty]
    exact ⟨rfl, paired_creation ..⟩
  · rw [createPcfSession]
    simp only [hnot]
    rcases success with _ | _
    · exact fun _ => ⟨⟨_, _, _, rfl⟩, rfl, rfl⟩
    · rintro (hfalse | hnone | ⟨location, hlocation, hnothing⟩)
      · cases hfalse
      · rw [locationOf_of_noLocation hnone]
        exact ⟨⟨_, _, _, rfl⟩, rfl, rfl⟩
      · rw [locationOf_of_hasLocation hlocation]
        dsimp only
        rcases appSessionIdOf_of_nothing hnothing with hid | hid <;> rw [hid] <;>
          exact ⟨⟨_, _, _, rfl⟩, rfl, rfl⟩

/-- A session without QoS parameters. -/
def voiceCallReceived : ReceivedSession where
  sessionId := "session-1"
  device := some { ipv4Address := some { publicAddress := ⟨"203.0.113.5"⟩ } }
  applicationServer := { ipv4Address := some "198.51.100.7" }
  devicePorts := none
  applicationServerPorts := none
  qosProfile := "voice"
  duration := 600
  sink := none
  ueSupi := none
  qosProfileMapping := none

/-- The reply to an answer of the PCF with a location. -/
def createdReply : Json := HttpPcfGateway.buildResponseJson plainSetup.lib
  { statusCode := 201
    headers := [("location", "http://pcf/npcf-policyauthorization/v1/app-sessions/a/b")] }

/-- The id has a slash. -/
theorem location_stored :
    (createPcfSession empty (requestRules {}) voiceCallReceived true createdReply 0).1 =
      some (.success .qodSessionCreated "a/b" "session-1") ∧
    Paired "session-1" "a/b" empty
      (createPcfSession empty (requestRules {}) voiceCallReceived true createdReply 0).2 := by
  have hvalid : validateAppSessionContext
      (buildPcfCreateRequest {} voiceCallReceived.toSession) = [] := by
    rw [validate_buildPcfCreateRequest {} _ (isValidUrl_append (by decide) (by
      simp [voiceCallReceived, ReceivedSession.toSession, Text.isSpace]))]
    exact ⟨⟨_, rfl, .inl ⟨_, rfl, by decide⟩⟩, fun mapping h => (by cases h)⟩
  refine (createPcfSession_location (requestRules {}) empty voiceCallReceived true createdReply 0
    (List.isEmpty_iff.2 hvalid)).1 "http://pcf/npcf-policyauthorization/v1" "a/b" rfl
    ⟨_, rfl, none, some _, rfl, rfl, rfl⟩ (by decide) (by decide)

end QodPcfHandler

end PhineAf

import PhineAf.Adapter.Sessions
import PhineAf.Adapter.Transports

/-!
# Retrieval through the adapter

One call of `retrieve_sessions`, by messages or over HTTP: the device as a JSON text
(`serialise_device`), read by `QodHandler::handle_retrieve_sessions`, and the list of sessions
of the reply, read by the client (`parse_session_list`).

What the client is told of is what AF core holds: the sessions of the consumer for the device,
in their order, or why the device is refused (`retrieved_as_seen`).
-/

namespace PhineAf.Adapter

open QodHandler

variable {lib : Json.Library} {helpers : ServiceHandlerHelpers} {format : ℤ → String}

/-! ## The request -/

/-- The body of the request. -/
def deviceRequestJson (device : Device) : Json := .ofFields [("device", some (deviceJson device))]

/-- `serialise_device`. -/
def serialiseDevice (lib : Json.Library) (device : Device) : String :=
  lib.dump (deviceRequestJson device)

/-- The code with which a device is refused. -/
def refusedDevice (context : QodRequestContext) : ErrorCode :=
  if context.isThreeLegged then .unnecessaryIdentifier else .missingIdentifier

/-- The device is read as it is, and validated. -/
theorem readRetrieveRequest_serialise {device : Device}
    (hport : ∀ a ∈ device.ipv4Address, a.publicPort.toInt ≤ 65535)
    (hdump : ∀ json, lib.dump json ≠ "") (hlossless : lib.Lossless (deviceRequestJson device))
    (context : QodRequestContext) :
    ∃ device', SameDevice device device' ∧
      readRetrieveRequest lib context (serialiseDevice lib device) =
        match validateDevice device' context with
        | some message => .error ⟨422, refusedDevice context, message⟩
        | none => .ok device' := by
  obtain ⟨device', hread, hsame⟩ := parseDevice_deviceJson hport
  refine ⟨device', hsame, ?_⟩
  have hparse : lib.parse (serialiseDevice lib device) = .ok (deviceRequestJson device) := hlossless
  have hmember : deviceMember (deviceRequestJson device) = .ok device' :=
    congrArg (fun r => (r.map some).map Option.join) hread
  have hcontains : (deviceRequestJson device).contains "device" = true := rfl
  rw [readRetrieveRequest, if_neg (by simpa [serialiseDevice] using hdump _), hparse]
  dsimp only
  rw [hcontains, if_pos rfl, hmember]
  change (check (validateDevice device' context) 422 (refusedDevice context)).bind
    (fun _ => .ok device') = _
  rcases validateDevice device' context with _ | message
  · rfl
  · rfl

/-! ## The reply -/

/-- `parse_session_list`. -/
def parseSessionList (lib : Json.Library) (raw : String) : List SessionInfo :=
  if raw.isEmpty then []
  else match lib.parse raw with
    | .error _ => []
    | .ok (.arr items) => items.map fun item => parseSessionInfo lib (lib.dump item)
    | .ok _ => [parseSessionInfo lib raw]

/-- `retrieve_sessions`, once the call has returned. -/
def retrieveSessionsResult (lib : Json.Library) : Result String → Result (List SessionInfo)
  | .ok payload => .ok (parseSessionList lib payload)
  | .error code message => .error code message

/-- What AF core writes of a session, for those that may see its device. -/
def wholeSession (format : ℤ → String) (session : QodSession) : Json :=
  sessionToJson format session (session.device.isSome && session.deviceResponse.isSome)

/-- The list that AF core writes is read as its sessions. -/
theorem parseSessionList_sessions (hdump : ∀ json, lib.dump json ≠ "") {sessions : List QodSession}
    (hlist : lib.Lossless (.arr (sessions.map (wholeSession format))))
    (hlossless : ∀ session ∈ sessions, lib.Lossless (wholeSession format session)) :
    parseSessionList lib (lib.dump (.arr (sessions.map (wholeSession format)))) =
      sessions.map (seen format) := by
  rw [parseSessionList, if_neg (by simpa using hdump _), hlist]
  dsimp only
  rw [List.map_map]
  refine List.map_congr_left fun session hsession => ?_
  exact parseSessionInfo_sessionToJson format session _ (hlossless session hsession) (hdump _)

/-- The client reads the sessions off the reply. -/
theorem retrieveSessionsResult_sessions (hdump : ∀ json, lib.dump json ≠ "")
    {sessions : List QodSession} {correlationId : String} {r : Result String}
    (hwrites : helpers.WritesData lib (.arr (sessions.map (wholeSession format))) 200 correlationId)
    (hlossless : ∀ session ∈ sessions, lib.Lossless (wholeSession format session))
    (hfinal : Client.final lib (.reply (helpers.createSuccessResponse
      (.arr (sessions.map (wholeSession format))) 200 correlationId).payload) = some r) :
    retrieveSessionsResult lib r = .ok (sessions.map (seen format)) := by
  rw [hwrites.payload, Client.final,
    errorOf_of_isSessions format (.inr ⟨_, rfl⟩) hwrites.lossless] at hfinal
  obtain rfl := Option.some.inj hfinal
  exact congrArg Result.ok (parseSessionList_sessions hdump hwrites.lossless hlossless)

/-! ## The call -/

/-- Whatever AF core holds, and however the attempts before have failed, both transports tell the
    same: why the device is refused, or the sessions of the consumer for the device. -/
theorem retrieved_as_seen (m : QodSessionManager) (reader : CredentialReader)
    (context : QodRequestContext) {device : Device}
    (hport : ∀ a ∈ device.ipv4Address, a.publicPort.toInt ≤ 65535)
    (hdump : ∀ json, lib.dump json ≠ "") (hlossless : lib.Lossless (deviceRequestJson device))
    (hsessions : ∀ session ∈ m.qod.getAllSessions, lib.Lossless (wholeSession format session))
    {reply : Reply} (hreply : (handle lib reader format m
      (.retrieveSessions context (serialiseDevice lib device))).2.toReply helpers = some reply)
    (hdocumented : (handle lib reader format m
      (.retrieveSessions context (serialiseDevice lib device))).2.Documented helpers lib)
    (config : QodClientConfig) (fails : List Outcome) (httpFails : List HttpOutcome)
    (hfails : ∀ o ∈ fails, Client.final lib o = none) (hhttpFails : ∀ o ∈ httpFails, o.final = none)
    (hlength : fails.length < config.maxRetries)
    (hhttpLength : httpFails.length < config.maxRetries) :
    ∃ device' result, SameDevice device device' ∧
      (result = match validateDevice device' context with
        | some message => .error (helpers.errorText (refusedDevice context)) message
        | none => .ok ((m.retrieveSessionsByDevice device' context.apiConsumerId).map
            (seen format))) ∧
      (grpcResult lib config (fails ++ [.reply reply.payload])).map (retrieveSessionsResult lib) =
        some result ∧
      (httpResult lib config (httpFails ++ [httpOutcome reply])).map (retrieveSessionsResult lib) =
        some result := by
  have hwritten := written_handle m (.retrieveSessions context (serialiseDevice lib device))
    hdocumented
  rw [hreply] at hwritten
  obtain ⟨r, result, hfinal, hhttpFinal, heq⟩ := final_of_written hwritten
  obtain ⟨device', hsame, hread⟩ := readRetrieveRequest_serialise hport hdump hlossless context
  refine ⟨device', retrieveSessionsResult lib r, hsame, ?_, ?_, ?_⟩
  · simp only [handle, handleRetrieveSessions] at hreply hdocumented
    rw [hread] at hreply hdocumented
    rcases hvalid : validateDevice device' context with _ | message <;>
      rw [hvalid] at hreply hdocumented
    · obtain rfl := Option.some.inj hreply
      exact retrieveSessionsResult_sessions hdump hdocumented
        (fun session hsession => hsessions session (List.mem_of_mem_filter hsession)) hfinal
    · obtain rfl : helpers.createErrorResponse 422 (helpers.errorText (refusedDevice context))
          message context.correlationId = reply := Option.some.inj hreply
      rw [Client.final, errorOf_of_error hdocumented.payload_ne hdocumented.parse] at hfinal
      obtain rfl := Option.some.inj hfinal
      rfl
  · rw [grpcResult_of_final hfails hlength hfinal, Option.map_some]
  · rw [httpResult_of_final hhttpFails hhttpLength hhttpFinal, heq, Option.map_some]

theorem SameDevice.of_phoneNumber {phoneNumber : String} {device' : Option QodDevice}
    (h : SameDevice { phoneNumber := some phoneNumber } device') :
    device' = some { phoneNumber := some phoneNumber } := by
  cases h with
  | @present _ d _ hphone hidentifier hipv4 hipv6 =>
    obtain ⟨phoneNumber', networkAccessIdentifier, ipv4Address, ipv6Address⟩ := d
    obtain rfl : phoneNumber' = _ := hphone
    obtain rfl : networkAccessIdentifier = _ := hidentifier
    obtain rfl : ipv6Address = _ := hipv6
    cases hipv4
    rfl

/-- AF core with a session of ten minutes. -/
def tenMinutes : QodSessionManager :=
  (QodRun.initial.manager.createSession (QodRun.phoneSession "consumer") "session-1" 0
    (some (.created "pcf-1")) 1).2

/-- The text of this session, when it lasts a number of seconds. -/
def sessionText (seconds : String) : String :=
  "\x7b\"applicationServer\":\x7b\"ipv4Address\":\"203.0.113.5\"\x7d,\"duration\":" ++ seconds ++
    ",\"expiresAt\":\"" ++ seconds ++ "000000001\",\"qosProfile\":\"QOS_E\"," ++
    "\"qosStatus\":\"AVAILABLE\",\"sessionId\":\"session-1\",\"startedAt\":\"1\"\x7d"

/-- The text of the list of it. -/
def sessionsText : String := "[" ++ sessionText "600" ++ "]"

/-- The text of a request for the sessions of its device. -/
def deviceText : String := "\x7b\"device\":\x7b\"phoneNumber\":\"+49170123456\"\x7d\x7d"

/-- A library that knows these texts. -/
def phoneSessionLibrary : Json.Library where
  dump
    | .arr _ => sessionsText
    | j => if j.contains "sessionId" then sessionText "600" else deviceText
  parse s :=
    let sessions := tenMinutes.qod.getAllSessions.map (wholeSession toString)
    if s = sessionsText then .ok (.arr sessions)
    else if s = sessionText "600" then .ok (sessions.headD .null)
    else if s = deviceText then .ok (deviceRequestJson { phoneNumber := some "+49170123456" })
    else .error "parse error"
  what _ := ""

theorem parse_sessionsText : phoneSessionLibrary.parse sessionsText =
    .ok (.arr (tenMinutes.qod.getAllSessions.map (wholeSession toString))) := by
  simp only [phoneSessionLibrary, if_true]

theorem parse_sessionText : phoneSessionLibrary.parse (sessionText "600") =
    .ok ((tenMinutes.qod.getAllSessions.map (wholeSession toString)).headD .null) := by
  have hlist : sessionText "600" ≠ sessionsText := by decide
  simp only [phoneSessionLibrary, if_neg hlist, if_true]

theorem parse_deviceText : phoneSessionLibrary.parse deviceText =
    .ok (deviceRequestJson { phoneNumber := some "+49170123456" }) := by
  have hlist : deviceText ≠ sessionsText := by decide
  have hsession : deviceText ≠ sessionText "600" := by decide
  simp only [phoneSessionLibrary, if_neg hlist, if_neg hsession, if_true]

/-- The session is found by its phone, after attempts that have failed. -/
theorem retrieved_phoneSession : ∃ info : SessionInfo, info.sessionId = "session-1" ∧
    (grpcResult phoneSessionLibrary {} [.failed .unavailable "", .reply sessionsText]).map
      (retrieveSessionsResult phoneSessionLibrary) = some (.ok [info]) ∧
    (httpResult phoneSessionLibrary {} [.response 503 "", .response 200 sessionsText]).map
      (retrieveSessionsResult phoneSessionLibrary) = some (.ok [info]) := by
  let context : QodRequestContext := ⟨"consumer", "correlation-1", false⟩
  let device : Device := { phoneNumber := some "+49170123456" }
  let reader : CredentialReader := ⟨⟨.plain, none, none, none, none, none, none, none⟩, fun _ => 0⟩
  have hdump : ∀ json, phoneSessionLibrary.dump json ≠ "" := by
    intro json
    simp only [phoneSessionLibrary]
    split
    · decide
    · split_ifs <;> decide
  have hsessions : ∀ session ∈ tenMinutes.qod.getAllSessions,
      phoneSessionLibrary.Lossless (wholeSession toString session) := by
    intro session hsession
    obtain rfl := List.mem_singleton.1 hsession
    exact parse_sessionText
  -- AF core reads the device, and answers with the list of its session.
  have hread : readRetrieveRequest phoneSessionLibrary context deviceText =
      .ok (some { phoneNumber := some "+49170123456" }) := by
    have hnonempty : deviceText.isEmpty = false := by decide
    simp only [readRetrieveRequest, hnonempty, parse_deviceText]
    rfl
  have hanswer : handle phoneSessionLibrary reader toString tenMinutes (.retrieveSessions
      context deviceText) = (tenMinutes, .retrieved (.success
        (.arr (tenMinutes.qod.getAllSessions.map (wholeSession toString))) 200 "correlation-1")) := by
    simp only [handle, handleRetrieveSessions, hread]
    rfl
  have hdocumented : (handle phoneSessionLibrary reader toString tenMinutes (.retrieveSessions
      context deviceText)).2.Documented (textHelpers phoneSessionLibrary) phoneSessionLibrary := by
    rw [hanswer]
    exact ⟨rfl, parse_sessionsText, rfl⟩
  have hreply := congrArg (fun a => a.2.toReply (textHelpers phoneSessionLibrary)) hanswer
  have hport : ∀ a ∈ device.ipv4Address, a.publicPort.toInt ≤ 65535 := by
    intro a ha
    cases ha
  obtain ⟨device', result, hsame, hresult, hgrpc, hhttp⟩ := retrieved_as_seen tenMinutes reader
    context hport hdump parse_deviceText hsessions hreply hdocumented {} [.failed .unavailable ""]
    [.response 503 ""] (by simp [Client.final, isRetryable])
    (by simp [HttpOutcome.final, isSuccess, isRetryableStatus]) (by decide) (by decide)
  obtain rfl := hsame.of_phoneNumber
  obtain rfl : result = _ := hresult
  exact ⟨_, rfl, hgrpc, hhttp⟩

end PhineAf.Adapter

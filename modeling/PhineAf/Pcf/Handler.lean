import PhineAf.Lib.Text
import PhineAf.Pcf.Request

/-!
# The QoD handler at the PCF

`QodPcfHandler`: it turns the requests of the session manager into calls of the PCF
gateway, and keeps which application session serves which QoD session, in two maps.

Every call of the gateway is logged with its result. How the requests to the PCF are
built and validated is left open (`RequestRules`): it decides what is sent and whether a
creation is refused, and nothing else here depends on it.
-/

namespace PhineAf

/-! ## Data -/

inductive PcfSessionState
  | creating
  | active
  | updating
  | deleting
  | terminated
  deriving DecidableEq, Repr

structure PcfSessionInfo where
  pcfSessionId : String
  qodSessionId : String
  state : PcfSessionState
  createdAt : ℤ
  lastRequest : Json := .null
  lastResponse : Json := .null

/-- How the requests to the PCF are built and validated. -/
structure RequestRules where
  buildPcfCreateRequest : ReceivedSession → Json
  buildMediaComponents : ReceivedSession → Json
  /-- `validate_app_session_context` finds no error. -/
  validateAppSessionContext : Json → Bool

/-- A call of the PCF gateway, with its result. -/
inductive GatewayCall
  | createAppSession (request : Json) (success : Bool) (response : Json)
  | updateAppSession (appSessionId : String) (request : Json) (success : Bool)
  | deleteAppSession (appSessionId : String) (request : Json) (success : Bool)

/-- The types of the replies to the session manager. -/
inductive HandlerReplyType
  /-- `pcf_qod_session_created`. -/
  | qodSessionCreated
  /-- `pcf_update_app_session`. -/
  | updateAppSession
  /-- `pcf_delete_app_session`. -/
  | deleteAppSession
  deriving DecidableEq, Repr

/-- A reply to the session manager: `create_success_response` with the id of the PCF
    session, or `create_error_response`. -/
inductive HandlerReply
  | success (type : HandlerReplyType) (pcfSessionId correlationId : String)
  | error (status : ℕ) (code message correlationId : String)
  deriving DecidableEq, Repr

/-- The types of the responses of the PCF. -/
inductive PcfResponseType
  /-- `pcf_app_session_created`. -/
  | created
  /-- `pcf_app_session_updated`. -/
  | updated
  /-- `pcf_app_session_deleted`. -/
  | deleted
  /-- `pcf_error`. -/
  | error
  /-- Any other. -/
  | other
  deriving DecidableEq, Repr

/-- The handler. -/
structure QodPcfHandler where
  /-- The PCF session of a QoD session. -/
  qodToPcfSessions : Table String PcfSessionInfo
  /-- The QoD session of a PCF session. -/
  pcfToQodSessions : Table String String
  /-- The calls of the gateway, latest first. -/
  calls : List GatewayCall

namespace QodPcfHandler

/-- A new handler. -/
def empty : QodPcfHandler := ⟨∅, ∅, []⟩

variable (h : QodPcfHandler)

/-! ## Session mapping -/

/-- `get_pcf_session_info`. -/
def getPcfSessionInfo (qodSessionId : String) : Option PcfSessionInfo :=
  h.qodToPcfSessions.lookup qodSessionId

/-- `get_qod_session_id`, where the empty text stands for none. -/
def getQodSessionId (pcfSessionId : String) : String :=
  (h.pcfToQodSessions.lookup pcfSessionId).getD ""

/-- `store_session_mapping`. -/
def storeSessionMapping (qodSessionId pcfSessionId : String) (state : PcfSessionState)
    (now : ℤ) : QodPcfHandler :=
  { h with
    qodToPcfSessions := h.qodToPcfSessions.insert qodSessionId
      { pcfSessionId, qodSessionId, state, createdAt := now }
    pcfToQodSessions := h.pcfToQodSessions.insert pcfSessionId qodSessionId }

/-- The information on the PCF session of a QoD session is changed, if there is any. -/
def modifyInfo (qodSessionId : String) (f : PcfSessionInfo → PcfSessionInfo) : QodPcfHandler :=
  match h.qodToPcfSessions.lookup qodSessionId with
  | none => h
  | some info => { h with qodToPcfSessions := h.qodToPcfSessions.insert qodSessionId (f info) }

/-- `update_session_state`. -/
def updateSessionState (pcfSessionId : String) (state : PcfSessionState) : QodPcfHandler :=
  match h.pcfToQodSessions.lookup pcfSessionId with
  | none => h
  | some qodSessionId => h.modifyInfo qodSessionId fun info => { info with state }

/-- `remove_session_mapping`. -/
def removeSessionMapping (qodSessionId : String) : QodPcfHandler :=
  match h.qodToPcfSessions.lookup qodSessionId with
  | none => h
  | some info =>
    { h with
      qodToPcfSessions := h.qodToPcfSessions.erase qodSessionId
      pcfToQodSessions := h.pcfToQodSessions.erase info.pcfSessionId }

/-- The gateway is called. -/
def call (c : GatewayCall) : QodPcfHandler := { h with calls := c :: h.calls }

/-! ## PCF sessions -/

/-- The `Location` header of a response of the PCF, also in lower case. -/
def locationOf (response : Json) : Except Json.Error (Option String) :=
  match response.find? "headers" with
  | none => .ok none
  | some headers =>
    if headers.contains "Location" || headers.contains "location" then do
      let lower ← (← headers.value "location" (.str "")).getStr
      return some (← (← headers.value "Location" (.str lower)).getStr)
    else .ok none

/-- The id of the application session in a location: everything after the pattern. -/
def appSessionIdOf (location : String) : Option String :=
  (Text.afterFirst "/app-sessions/".toList location.toList).map String.ofList

/-- `create_pcf_session`: nothing if an exception is thrown. -/
def createPcfSession (rules : RequestRules) (session : ReceivedSession) (success : Bool)
    (response : Json) (now : ℤ) : Option HandlerReply × QodPcfHandler :=
  let request := rules.buildPcfCreateRequest session
  let fail (h : QodPcfHandler) (status : ℕ) (code message : String) :
      Option HandlerReply × QodPcfHandler :=
    (some (.error status code message session.sessionId), h)
  if !rules.validateAppSessionContext request then
    fail h 400 "pcf_request_invalid" "PCF create app session request validation failed"
  else
    let h := h.call (.createAppSession request success response)
    if !success then
      fail h 502 "pcf_request_failed" "Failed to send create app session request to PCF"
    else match locationOf response with
      | .error _ => (none, h)
      | .ok none => fail h 502 "pcf_response_invalid" "PCF response missing Location header"
      | .ok (some location) =>
        match appSessionIdOf location with
        | none => fail h 502 "pcf_response_invalid"
            "PCF Location header missing '/app-sessions/' pattern"
        | some appSessionId =>
          if appSessionId.isEmpty then
            fail h 502 "pcf_response_invalid" "PCF Location header contains empty app session ID"
          else
            let h := h.storeSessionMapping session.sessionId appSessionId .creating now
            (some (.success .qodSessionCreated appSessionId session.sessionId),
              h.modifyInfo session.sessionId fun info => { info with lastRequest := request })

/-- The request of `update_pcf_session`. -/
def updateRequest (rules : RequestRules) (session : ReceivedSession) (appSessionId : String) :
    Json :=
  .ofFields [("appSessionId", some (.str appSessionId)),
    ("medComponents", some (rules.buildMediaComponents session)),
    ("maxReqBwDl", (session.qosProfileMapping.bind (·.maxDownlinkRate)).map .str),
    ("maxReqBwUl", (session.qosProfileMapping.bind (·.maxUplinkRate)).map .str)]

/-- `update_pcf_session`. -/
def updatePcfSession (rules : RequestRules) (session : ReceivedSession) (success : Bool) :
    Option HandlerReply × QodPcfHandler :=
  match h.getPcfSessionInfo session.sessionId with
  | none => (none, h)
  | some info =>
    let request := updateRequest rules session info.pcfSessionId
    let h := h.call (.updateAppSession info.pcfSessionId request success)
    if !success then
      (some (.error 502 "pcf_request_failed" "Failed to send update app session request to PCF"
        session.sessionId), h)
    else
      let h := h.updateSessionState info.pcfSessionId .updating
      (some (.success .updateAppSession info.pcfSessionId session.sessionId),
        h.modifyInfo session.sessionId fun info => { info with lastRequest := request })

/-- `af_notification_uri_`. -/
def afNotificationUri : String := "http://phine.af-core:50051/qod/notifications"

/-- The request of `delete_pcf_session`. -/
def deleteRequest (sessionId : String) : Json :=
  .obj [("events", .arr [.obj [("event", .str "QOS_NOTIF")]]),
    ("notifUri", .str (afNotificationUri ++ "/" ++ sessionId))]

/-- `delete_pcf_session`: the mapping is kept, and marked. -/
def deletePcfSession (sessionId : String) (success : Bool) : Option HandlerReply × QodPcfHandler :=
  match h.getPcfSessionInfo sessionId with
  | none => (none, h)
  | some info =>
    let h := h.call (.deleteAppSession info.pcfSessionId (deleteRequest sessionId) success)
    if !success then
      (some (.error 502 "pcf_request_failed" "Failed to send delete app session request to PCF"
        sessionId), h)
    else
      (some (.success .deleteAppSession info.pcfSessionId sessionId),
        h.updateSessionState info.pcfSessionId .deleting)

/-! ## Requests of the session manager -/

/-- The request `handle_qod_update_pcf_session` reads from a body: it insists on the
    consumer too. -/
def parseUpdateRequest (mapper : QosProfileMapper) (json : Json) :
    Except RequestError ReceivedSession :=
  let consumer : Except Json.Error String := do
    let _ ← (← json.field "session_id").getStr
    (← json.field "api_consumer_id").getStr
  match consumer with
  | .error e => .error (.exception e)
  | .ok _ => parseCreateRequest mapper json

/-- The text of an error in a request. -/
def errorText (lib : Json.Library) : RequestError → String
  | .exception e => lib.what e
  | .invalidQosProfileMapping => "Invalid qos_profile_mapping"

/-- A request is read and served. A body that does not parse, or cannot be read, is a bad
    request. -/
def serveRequest {α : Type} (lib : Json.Library) (parse : Json → Except RequestError α)
    (failure : String) (serve : α → Option HandlerReply × QodPcfHandler)
    (body : Except String Json) (correlationId : String) : HandlerReply × QodPcfHandler :=
  match body with
  | .error what => (.error 400 "bad_request" what correlationId, h)
  | .ok json =>
    match parse json with
    | .error e => (.error 400 "bad_request" (errorText lib e) correlationId, h)
    | .ok request =>
      let (reply, h) := serve request
      (reply.getD (.error 500 "pcf_request_creation_failed" failure correlationId), h)

/-- `handle_qod_create_pcf_session`. -/
def handleQodCreatePcfSession (lib : Json.Library) (mapper : QosProfileMapper)
    (rules : RequestRules) (body : Except String Json) (correlationId : String) (success : Bool)
    (response : Json) (now : ℤ) : HandlerReply × QodPcfHandler :=
  h.serveRequest lib (parseCreateRequest mapper) "Failed to create PCF session request"
    (fun session => h.createPcfSession rules session success response now) body correlationId

/-- `handle_qod_update_pcf_session`. -/
def handleQodUpdatePcfSession (lib : Json.Library) (mapper : QosProfileMapper)
    (rules : RequestRules) (body : Except String Json) (correlationId : String) (success : Bool) :
    HandlerReply × QodPcfHandler :=
  h.serveRequest lib (parseUpdateRequest mapper) "Failed to create PCF session update request"
    (fun session => h.updatePcfSession rules session success) body correlationId

/-- The session id `handle_qod_delete_pcf_session` reads from a body: what the exception
    says, if it is missing. -/
def parseDeleteRequest (lib : Json.Library) (json : Json) : Except String String :=
  if !json.contains "session_id" then .error "Missing required field: session_id"
  else (do (← json.field "session_id").getStr : Except Json.Error String).mapError lib.what

/-- `handle_qod_delete_pcf_session`. -/
def handleQodDeletePcfSession (lib : Json.Library) (body : Except String Json)
    (correlationId : String) (success : Bool) : HandlerReply × QodPcfHandler :=
  match body.bind (parseDeleteRequest lib) with
  | .error what => (.error 400 "bad_request" what correlationId, h)
  | .ok sessionId =>
    let (reply, h) := h.deletePcfSession sessionId success
    (reply.getD (.error 500 "pcf_request_creation_failed"
      "Failed to create PCF session delete request" correlationId), h)

/-! ## Responses of the PCF -/

/-- The text under a key of a response, with a default. -/
def textIn (json : Json) (key default : String) : Except Json.Error String := do
  (← json.value key (.str default)).getStr

/-- `handle_pcf_create_response`: it writes the id of the response into one map only. -/
def handlePcfCreateResponse (lib : Json.Library) (type : PcfResponseType) (correlationId : String)
    (payload : Except String Json) : (Bool × String) × QodPcfHandler :=
  match payload with
  | .error what => ((false, "Exception: " ++ what), h)
  | .ok json =>
    match type with
    | .created =>
      match textIn json "appSessionId" "" with
      | .error e => ((false, "Exception: " ++ lib.what e), h)
      | .ok pcfSessionId =>
        if pcfSessionId.isEmpty then ((false, "Missing PCF session ID"), h)
        else
          let h := h.updateSessionState pcfSessionId .active
          ((true, pcfSessionId), h.modifyInfo correlationId fun info =>
            { info with lastResponse := json, pcfSessionId })
    | .error =>
      match textIn json "message" "Unknown PCF error", textIn json "code" "UNKNOWN" with
      | .ok message, .ok _ => ((false, message), h.removeSessionMapping correlationId)
      | .error e, _ => ((false, "Exception: " ++ lib.what e), h)
      | _, .error e => ((false, "Exception: " ++ lib.what e), h)
    | _ => ((false, "Unexpected response type"), h)

/-- `handle_pcf_update_response`. -/
def handlePcfUpdateResponse (type : PcfResponseType) (correlationId : String)
    (payload : Except String Json) : Bool × QodPcfHandler :=
  match payload, type with
  | .ok json, .updated =>
    match h.getPcfSessionInfo correlationId with
    | none => (true, h)
    | some info =>
      let h := h.updateSessionState info.pcfSessionId .active
      (true, h.modifyInfo correlationId fun info => { info with lastResponse := json })
  | _, _ => (false, h)

/-- `handle_pcf_delete_response`. -/
def handlePcfDeleteResponse (type : PcfResponseType) (correlationId : String) :
    Bool × QodPcfHandler :=
  match type with
  | .deleted => (true, h.removeSessionMapping correlationId)
  | _ => (false, h)

/-- `handle_pcf_notification`: the QoD session, and the reason. -/
def handlePcfNotification (payload : Except String Json) : Option (String × String) := do
  let json ← payload.toOption
  let pcfSessionId ← (textIn json "appSessionId" "").toOption
  if pcfSessionId.isEmpty then none
  else if (h.getQodSessionId pcfSessionId).isEmpty then none
  else
    let eventType ← (textIn json "eventType" "").toOption
    if eventType = "QOS_NOTIF" then some (h.getQodSessionId pcfSessionId, "QOS_NOTIF") else none

end QodPcfHandler

end PhineAf

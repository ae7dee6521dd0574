import PhineAf.Lib.Text
import PhineAf.Pcf.Request

/-!
# The QoD handler

`QodHandler::handle_create_session`: the JSON body of a message is read member by member
and checked, the session manager creates the session, and the reply is an error or the
session as JSON. `QodHandler::handle_retrieve_sessions`: a device is read from the body, if
there is one, and the reply is an error or the sessions the manager has for it.

The context of a message is what the common library makes of it. A member of a port range
or of a credential that is missing, an assertion of the JSON library, is an exception
here. The reading of timestamps and the default of a credential (`CredentialReader`) and
the writing of timestamps are parameters.
-/

namespace PhineAf

/-- The context of a message. -/
structure QodRequestContext where
  apiConsumerId : String
  correlationId : String
  isThreeLegged : Bool

inductive ErrorCode
  | invalidArgument
  | outOfRange
  | missingIdentifier
  | unnecessaryIdentifier
  | durationOutOfRange
  | invalidSink
  | internalError
  deriving DecidableEq, Repr

/-- The arguments of `create_error_response`. -/
structure ErrorReply where
  status : ℤ
  code : ErrorCode
  message : String
  deriving DecidableEq, Repr

/-- A reply: an error, or data with a status; and the correlation id. -/
inductive QodReply
  | error (e : ErrorReply) (correlationId : String)
  | success (data : Json) (status : ℤ) (correlationId : String)

/-- What a credential is before its members are read, and the time point that
    `std::get_time` and `std::mktime` make of a text. -/
structure CredentialReader where
  blank : SinkCredential
  timeOf : String → ℤ

namespace QodHandler

open Text
open QodPcfHandler (parseIpv4)

/-! ## Reading -/

/-- `parse_device`. -/
def parseDevice (json : Json) : Except Json.Error (Option QodDevice) :=
  if json.isNull then .ok none
  else do
    let phoneNumber ← json.optional "phoneNumber" Json.getStr
    let networkAccessIdentifier ← json.optional "networkAccessIdentifier" Json.getStr
    let ipv4Address ← json.optional "ipv4Address" parseIpv4
    let ipv6Address ← json.optional "ipv6Address" Json.getStr
    return some {
      phoneNumber, networkAccessIdentifier, ipv4Address
      ipv6Address := ipv6Address.map (⟨·⟩) }

/-- `parse_application_server`, as in the PCF handler. -/
def parseApplicationServer (json : Json) : Except Json.Error ApplicationServer :=
  QodPcfHandler.parseApplicationServer json

/-- `parse_ports`, as in the PCF handler. -/
def parsePorts (json : Json) : Except Json.Error (Option PortsSpec) :=
  QodPcfHandler.parsePorts json

/-- `parse_sink_credential`. -/
def parseSinkCredential (reader : CredentialReader) (json : Json) :
    Except Json.Error (Option SinkCredential) :=
  if json.isNull then .ok none
  else do
    let type ← (← json.field "credentialType").getStr
    if type = "ACCESSTOKEN" then
      let accessToken ← json.optional "accessToken" Json.getStr
      let accessTokenExpiresUtc ← json.optional "accessTokenExpiresUtc" Json.getStr
      let accessTokenType ← json.optional "accessTokenType" Json.getStr
      return some { reader.blank with
        credentialType := .accessToken
        accessToken := accessToken.or reader.blank.accessToken
        accessTokenExpiresUtc :=
          (accessTokenExpiresUtc.map reader.timeOf).or reader.blank.accessTokenExpiresUtc
        accessTokenType := accessTokenType.or reader.blank.accessTokenType }
    else if type = "PLAIN" then
      let identifier ← (← json.value "identifier" (.str "")).getStr
      let secret ← (← json.value "secret" (.str "")).getStr
      return some { reader.blank with
        credentialType := .plain
        identifier := some identifier
        secret := some secret }
    else if type = "REFRESHTOKEN" then
      let accessToken ← (← json.value "accessToken" (.str "")).getStr
      let refreshToken ← (← json.value "refreshToken" (.str "")).getStr
      let refreshTokenEndpoint ← (← json.value "refreshTokenEndpoint" (.str "")).getStr
      return some { reader.blank with
        credentialType := .refreshToken
        accessToken := some accessToken
        refreshToken := some refreshToken
        refreshTokenEndpoint := some refreshTokenEndpoint }
    else return some reader.blank

/-- The device of a request, if it is a member. -/
def deviceMember (json : Json) : Except Json.Error (Option QodDevice) :=
  (json.optional "device" parseDevice).map Option.join

/-- The application server of a request, if it is a member. -/
def serverMember (json : Json) : Except Json.Error (Option ApplicationServer) :=
  json.optional "applicationServer" parseApplicationServer

/-- The ports under a key of a request, if they are a member. -/
def portsMember (json : Json) (key : String) : Except Json.Error (Option PortsSpec) :=
  (json.optional key parsePorts).map Option.join

/-- The QoS profile of a request, if it is a member. -/
def profileMember (json : Json) : Except Json.Error (Option String) :=
  json.optional "qosProfile" Json.getStr

/-- The duration of a request, if it is a member. -/
def durationMember (json : Json) : Except Json.Error (Option ℤ) :=
  json.optional "duration" Json.getInt32

/-- The notification sink of a request, if it is a member. -/
def sinkMember (json : Json) : Except Json.Error (Option String) :=
  json.optional "sink" Json.getStr

/-- The credential of the sink, if it is a member. -/
def credentialMember (reader : CredentialReader) (json : Json) :
    Except Json.Error (Option SinkCredential) :=
  (json.optional "sinkCredential" (parseSinkCredential reader)).map Option.join

/-! ## Checks -/

/-- `^\+[1-9][0-9]{4,14}$`. -/
def isPhoneNumber (s : String) : Bool :=
  fullMatch (.char '+' * range '1' '9' * between 4 10 digit) s

/-- `^https://[^\s]+$`. -/
def isHttpsUrl (s : String) : Bool :=
  let rest := s.toList.drop "https://".length
  "https://".toList.isPrefixOf s.toList && !rest.isEmpty && rest.all fun c => !isSpace c

/-- The first text that is there. -/
def firstError (errors : List (Bool × String)) : Option String :=
  (errors.find? (·.1)).map (·.2)

/-- `validate_device`. -/
def validateDevice (device : Option QodDevice) (context : QodRequestContext) : Option String :=
  match device with
  | none =>
    if context.isThreeLegged then none else some "Device is required for 2-legged authentication"
  | some d => firstError
    [(context.isThreeLegged, "Device must not be provided with 3-legged authentication"),
      (d.phoneNumber.any (!isPhoneNumber ·),
        "Invalid phone number format - must be E.164 format with + prefix"),
      (d.ipv4Address.any (·.publicAddress.value.isEmpty),
        "Public IPv4 address is required when using IPv4 identification"),
      (d.ipv4Address.any fun a => a.privateAddress.isNone && a.publicPort.isNone,
        "Either private address or public port must be provided with public IPv4 address"),
      (d.isEmpty, "At least one device identifier must be provided")]

/-- `validate_application_server`. -/
def validateApplicationServer (server : ApplicationServer) : Option String :=
  if server.ipv4Address.isNone && server.ipv6Address.isNone then
    some "Application server must have at least one IP address"
  else none

/-- A range of `validate_ports`; a `Port` passes the second check. -/
def validateRange (range : PortRange) : Option String := firstError
  [(range.hi < range.lo, "Invalid port range - 'from' must be less than or equal to 'to'"),
    (65535 < range.lo.toNat || 65535 < range.hi.toNat,
      "Port numbers must be between 0 and 65535")]

/-- `validate_ports`. -/
def validatePorts (ports : Option PortsSpec) : Option String :=
  ports.bind fun ports => (ports.ranges.findSome? validateRange).or
    (firstError [(ports.ports.any (65535 < ·.toNat), "Port numbers must be between 0 and 65535")])

/-- `validate_duration`. -/
def validateDuration (duration : ℤ) : Option String :=
  if duration < 1 then some "Duration must be at least 1 second" else none

/-- The credential of `validate_sink`. -/
def validateCredential (credential : SinkCredential) (now : ℤ) : Option String := firstError
  [(credential.credentialType != .accessToken, "Only ACCESSTOKEN credential type is supported"),
    (credential.accessToken.all String.isEmpty,
      "Access token is required for ACCESSTOKEN credential type"),
    (credential.accessTokenExpiresUtc.isNone, "Access token expiry time is required"),
    (credential.accessTokenType != some "bearer", "Access token type must be 'bearer'"),
    (credential.accessTokenExpiresUtc.any (· < now), "Access token has already expired")]

/-- `validate_sink`. -/
def validateSink (sink : Option String) (credential : Option SinkCredential) (now : ℤ) :
    Option String :=
  sink.bind fun sink =>
    if !isHttpsUrl sink then some "Sink must be a valid HTTPS URL"
    else credential.bind (validateCredential · now)

/-! ## Creation -/

/-- The reply to an exception other than a parse error. -/
def internalError : ErrorReply := ⟨500, .internalError, "Internal server error"⟩

/-- An exception while a member is read. -/
def read {α : Type} (r : Except Json.Error α) : Except ErrorReply α :=
  r.mapError fun _ => internalError

/-- A check that has failed is answered. -/
def check (error : Option String) (status : ℤ) (code : ErrorCode) : Except ErrorReply Unit :=
  error.elim (.ok ()) fun message => .error ⟨status, code, message⟩

/-- A required member. -/
def required {α : Type} (r : Except Json.Error (Option α)) (message : String) :
    Except ErrorReply α := do
  (← read r).elim (.error ⟨400, .invalidArgument, message⟩) .ok

/-- The device of `handle_create_session`. -/
def createDevice (context : QodRequestContext) (json : Json) :
    Except ErrorReply (Option QodDevice) :=
  if json.contains "device" then do
    let device ← read (deviceMember json)
    check (validateDevice device context) 422
      (if context.isThreeLegged then .unnecessaryIdentifier else .missingIdentifier)
    return device
  else if context.isThreeLegged then .ok none
  else .error ⟨422, .missingIdentifier,
    "Device identifier is required for 2-legged authentication"⟩

/-- The ports of `handle_create_session`. -/
def createPorts (json : Json) (key : String) : Except ErrorReply (Option PortsSpec) := do
  let ports ← read (portsMember json key)
  check (validatePorts ports) 400 .outOfRange
  return ports

/-- The sink of `handle_create_session`, with its credential: without a sink that is not
    read. -/
def createSink (reader : CredentialReader) (json : Json) (now : ℤ) :
    Except ErrorReply (Option String × Option SinkCredential) := do
  match ← read (sinkMember json) with
  | none => return (none, none)
  | some sink =>
    let credential ← read (credentialMember reader json)
    check (validateSink (some sink) credential now) 400 .invalidSink
    return (some sink, credential)

/-- The request `handle_create_session` makes of a body. -/
def parseCreateRequest (reader : CredentialReader) (context : QodRequestContext) (json : Json)
    (now : ℤ) : Except ErrorReply CreateSessionRequest := do
  let device ← createDevice context json
  let applicationServer ← required (serverMember json) "applicationServer is required"
  check (validateApplicationServer applicationServer) 400 .invalidArgument
  let devicePorts ← createPorts json "devicePorts"
  let applicationServerPorts ← createPorts json "applicationServerPorts"
  let qosProfile ← required (profileMember json) "qosProfile is required"
  let duration ← required (durationMember json) "duration is required"
  check (validateDuration duration) 400 .durationOutOfRange
  let (sink, sinkCredential) ← createSink reader json now
  return {
    apiConsumerId := context.apiConsumerId
    device, applicationServer, devicePorts, applicationServerPorts, qosProfile, duration, sink
    sinkCredential }

/-- The request `handle_create_session` makes of a payload. -/
def readCreateRequest (lib : Json.Library) (reader : CredentialReader)
    (context : QodRequestContext) (payload : String) (now : ℤ) :
    Except ErrorReply CreateSessionRequest :=
  match lib.parse payload with
  | .ok json => parseCreateRequest reader context json now
  | .error _ => .error ⟨400, .invalidArgument, "Invalid JSON in request body"⟩

/-! ## Replies -/

/-- `qos_status_to_string`. -/
def qosStatusToString : QosStatus → String
  | .requested => "REQUESTED"
  | .available => "AVAILABLE"
  | .unavailable => "UNAVAILABLE"

/-- `status_info_to_string`. -/
def statusInfoToString : StatusInfo → String
  | .durationExpired => "DURATION_EXPIRED"
  | .networkTerminated => "NETWORK_TERMINATED"
  | .deleteRequested => "DELETE_REQUESTED"

/-- `device_to_json`. -/
def deviceToJson (device : QodDevice) : Json :=
  .ofFields
    [("phoneNumber", device.phoneNumber.map .str),
      ("networkAccessIdentifier", device.networkAccessIdentifier.map .str),
      ("ipv4Address", device.ipv4Address.map QodSessionManager.convertIpv4ToPcf),
      ("ipv6Address", device.ipv6Address.map (.str ·.value))]

/-- The ports of `session_to_json`. -/
def portsToJson (ports : PortsSpec) : Json :=
  .ofFields
    [("ranges", Json.nonemptyArr (fun r => .ofFields
        [("from", some (.int r.lo.toNat)), ("to", some (.int r.hi.toNat))]) ports.ranges),
      ("ports", Json.nonemptyArr (fun p => .int p.toNat) ports.ports)]

/-- The members of `session_to_json`; a time point is written by `format`. -/
def sessionFields (format : ℤ → String) (session : QodSession) (includeDevice : Bool) :
    List (String × Option Json) :=
  let timed := session.qosStatus != .requested
  [("sessionId", some (.str session.sessionId)),
    ("qosStatus", some (.str (qosStatusToString session.qosStatus))),
    ("qosProfile", some (.str session.qosProfile)),
    ("duration", some (.int session.duration)),
    ("applicationServer",
      some (.ofFields (QodSessionManager.serverFields session.applicationServer))),
    ("device", if includeDevice then session.deviceResponse.map deviceToJson else none),
    ("devicePorts", session.devicePorts.map portsToJson),
    ("applicationServerPorts", session.applicationServerPorts.map portsToJson),
    ("sink", session.sink.map .str),
    ("startedAt", if timed then session.startedAt.map (.str <| format ·) else none),
    ("expiresAt", if timed then session.expiresAt.map (.str <| format ·) else none),
    ("statusInfo", if session.qosStatus == .unavailable then
      session.statusInfo.map (.str <| statusInfoToString ·) else none)]

/-- `session_to_json`. -/
def sessionToJson (format : ℤ → String) (session : QodSession) (includeDevice : Bool) : Json :=
  .ofFields (sessionFields format session includeDevice)

/-- The reply of `handle_create_session` to the result of `create_session`. -/
def createReply (format : ℤ → String) (context : QodRequestContext)
    (request : CreateSessionRequest) : Except Exn (Option QodSession) → QodReply
  | .ok (some session) => .success
      (sessionToJson format session (request.device.isSome && !context.isThreeLegged)) 201
      context.correlationId
  | .ok none => .error ⟨400, .invalidArgument,
      "Failed to create session - possible conflict with existing session"⟩ context.correlationId
  | .error _ => .error internalError context.correlationId

/-- `handle_create_session`. The clock is read when the sink is checked (`checked`), when the
    session is made (`now`) and when the PCF has replied (`later`). -/
def handleCreateSession (lib : Json.Library) (reader : CredentialReader) (format : ℤ → String)
    (m : QodSessionManager) (context : QodRequestContext) (payload : String) (checked : ℤ)
    (sessionId : String) (now : ℤ) (reply : Option PcfReply) (later : ℤ) :
    QodReply × QodSessionManager :=
  match readCreateRequest lib reader context payload checked with
  | .error e => (.error e context.correlationId, m)
  | .ok request =>
    let (result, m) := m.createSession request sessionId now reply later
    (createReply format context request result, m)

/-! ## Retrieval -/

/-- The device `handle_retrieve_sessions` asks the manager for. -/
def readRetrieveRequest (lib : Json.Library) (context : QodRequestContext) (payload : String) :
    Except ErrorReply (Option QodDevice) :=
  if payload.isEmpty then
    if context.isThreeLegged then .ok none
    else .error ⟨422, .missingIdentifier,
      "Device identifier is required for 2-legged authentication"⟩
  else match lib.parse payload with
    | .error _ => .error ⟨400, .invalidArgument, "Invalid JSON in request body"⟩
    | .ok json =>
      if json.contains "device" then do
        let device ← read (deviceMember json)
        check (validateDevice device context) 422
          (if context.isThreeLegged then .unnecessaryIdentifier else .missingIdentifier)
        return device
      else .ok none

/-- The sessions of `handle_retrieve_sessions`. -/
def retrieveReply (format : ℤ → String) (context : QodRequestContext)
    (sessions : List QodSession) : QodReply :=
  .success
    (.arr (sessions.map fun session =>
      sessionToJson format session (session.device.isSome && session.deviceResponse.isSome)))
    200 context.correlationId

/-- `handle_retrieve_sessions`. -/
def handleRetrieveSessions (lib : Json.Library) (format : ℤ → String) (m : QodSessionManager)
    (context : QodRequestContext) (payload : String) : QodReply :=
  match readRetrieveRequest lib context payload with
  | .error e => .error e context.correlationId
  | .ok device =>
    retrieveReply format context (m.retrieveSessionsByDevice device context.apiConsumerId)

end QodHandler

end PhineAf

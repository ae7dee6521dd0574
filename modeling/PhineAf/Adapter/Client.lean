import PhineAf.Lib.Json

/-!
# The client of the demo adapter

`QodClient` of the demo adapter: the request for a session as a JSON text, the calls that
send it, one after the other as long as they fail in a way that may pass, and what is read
from the reply.

A `Client` is a call of `send_message` on its way through its loop: it comes to the head
of the loop (`Client.send`), waits for the call, and gets its outcome
(`Client.receive`). The waiting times are left out.
-/

namespace PhineAf.Adapter

/-! ## Requests -/

structure DeviceIpv4Addr where
  publicAddress : String
  publicPort : Int32 := 0
  deriving DecidableEq

structure Device where
  phoneNumber : Option String := none
  networkAccessIdentifier : Option String := none
  ipv4Address : Option DeviceIpv4Addr := none
  deriving DecidableEq

structure ApplicationServer where
  ipv4Address : String
  deriving DecidableEq

/-- The ports from `lo` to `hi`. -/
structure PortRange where
  lo : Int32
  hi : Int32
  deriving DecidableEq

structure PortsSpec where
  ranges : List PortRange := []
  ports : List Int32 := []
  deriving DecidableEq

structure CreateSessionRequest where
  device : Device
  applicationServer : ApplicationServer
  devicePorts : Option PortsSpec := none
  applicationServerPorts : Option PortsSpec := none
  qosProfile : String
  durationSeconds : Int32 := 3600
  sink : Option String := none
  deriving DecidableEq

/-! ## Serialisation -/

/-- The IPv4 address of a device: a port that is not positive is left out. -/
def ipv4Json (a : DeviceIpv4Addr) : Json :=
  .ofFields
    [("publicAddress", some (.str a.publicAddress)),
      ("publicPort", if 0 < a.publicPort.toInt then some (.int a.publicPort.toInt) else none)]

/-- The device, null without any identifier. -/
def deviceJson (device : Device) : Json :=
  .ofFields
    [("phoneNumber", device.phoneNumber.map .str),
      ("networkAccessIdentifier", device.networkAccessIdentifier.map .str),
      ("ipv4Address", device.ipv4Address.map ipv4Json)]

def rangeJson (range : PortRange) : Json :=
  .ofFields [("from", some (.int range.lo.toInt)), ("to", some (.int range.hi.toInt))]

/-- The ports, null without any ports or ranges. -/
def portsJson (spec : PortsSpec) : Json :=
  .ofFields
    [("ports", Json.nonemptyArr (fun p => .int p.toInt) spec.ports),
      ("ranges", Json.nonemptyArr rangeJson spec.ranges)]

/-- The members of the request. -/
def createRequestFields (req : CreateSessionRequest) : List (String × Option Json) :=
  [("device", some (deviceJson req.device)),
    ("applicationServer", some (.ofFields
      [("ipv4Address", some (.str req.applicationServer.ipv4Address))])),
    ("devicePorts", req.devicePorts.map portsJson),
    ("applicationServerPorts", req.applicationServerPorts.map portsJson),
    ("qosProfile", some (.str req.qosProfile)),
    ("duration", some (.int req.durationSeconds.toInt)),
    ("sink", req.sink.map .str)]

def createRequestJson (req : CreateSessionRequest) : Json := .ofFields (createRequestFields req)

/-- `serialise_create_request`. -/
def serialiseCreateRequest (lib : Json.Library) (req : CreateSessionRequest) : String :=
  lib.dump (createRequestJson req)

/-! ## Calls -/

inductive Result (α : Type)
  | ok (value : α)
  | error (code message : String)

/-- The codes of a call that has failed. -/
inductive StatusCode
  | cancelled
  | unknown
  | invalidArgument
  | deadlineExceeded
  | notFound
  | alreadyExists
  | permissionDenied
  | resourceExhausted
  | failedPrecondition
  | aborted
  | outOfRange
  | unimplemented
  | internal
  | unavailable
  | dataLoss
  | unauthenticated
  deriving DecidableEq, Repr

/-- The number of a code. -/
def StatusCode.toNat : StatusCode → ℕ
  | .cancelled => 1
  | .unknown => 2
  | .invalidArgument => 3
  | .deadlineExceeded => 4
  | .notFound => 5
  | .alreadyExists => 6
  | .permissionDenied => 7
  | .resourceExhausted => 8
  | .failedPrecondition => 9
  | .aborted => 10
  | .outOfRange => 11
  | .unimplemented => 12
  | .internal => 13
  | .unavailable => 14
  | .dataLoss => 15
  | .unauthenticated => 16

/-- `is_retryable`. -/
def isRetryable (code : StatusCode) : Bool :=
  code == .unavailable || code == .deadlineExceeded || code == .resourceExhausted

/-- How a call ends: with the payload of the reply, or a status. -/
inductive Outcome
  | reply (payload : String)
  | failed (code : StatusCode) (message : String)

/-- The error a payload tells of, if it has a status, a code and a message. -/
def errorOf (lib : Json.Library) (payload : String) : Option (String × String) :=
  if payload.isEmpty then none
  else match lib.parse payload with
    | .ok json =>
      if json.contains "status" && json.contains "code" && json.contains "message" then
        match json.field "code" >>= Json.getStr, json.field "message" >>= Json.getStr with
        | .ok code, .ok message => some (code, message)
        | _, _ => none
      else none
    | .error _ => none

structure QodClientConfig where
  maxRetries : ℤ := 3

/-- `send_message`, on its way. -/
inductive Client
  /-- At the head of the loop. -/
  | ready (attempt : ℤ)
  /-- The call of an attempt is under way. -/
  | waiting (attempt : ℤ)
  | returned (result : Result String)

namespace Client

/-- The head of the loop. -/
def send (config : QodClientConfig) : Client → Client
  | .ready attempt =>
    if attempt ≤ config.maxRetries then .waiting attempt
    else .returned (.error "GRPC_RETRIES_EXHAUSTED" "All retry attempts failed")
  | c => c

/-- The call ends. -/
def receive (lib : Json.Library) : Client → Outcome → Client
  | .waiting _, .reply payload => .returned <|
    match errorOf lib payload with
    | some (code, message) => .error code message
    | none => .ok payload
  | .waiting attempt, .failed code message =>
    if isRetryable code then .ready (attempt + 1)
    else .returned (.error ("GRPC_" ++ toString code.toNat) message)
  | c, _ => c

end Client

/-! ## Sessions -/

inductive QosStatus
  | requested
  | available
  | unavailable
  deriving DecidableEq, Repr

inductive StatusInfo
  | none
  | durationExpired
  | networkTerminated
  | deleteRequested
  deriving DecidableEq, Repr

/-- `qos_status_from_string`. -/
def qosStatusFromString (s : String) : QosStatus :=
  if s = "AVAILABLE" then .available else if s = "UNAVAILABLE" then .unavailable else .requested

/-- `status_info_from_string`. -/
def statusInfoFromString (s : String) : StatusInfo :=
  if s = "DURATION_EXPIRED" then .durationExpired
  else if s = "NETWORK_TERMINATED" then .networkTerminated
  else if s = "DELETE_REQUESTED" then .deleteRequested
  else .none

structure SessionInfo where
  sessionId : String := ""
  qosStatus : QosStatus := .requested
  statusInfo : Option StatusInfo := none
  duration : ℤ := 0
  qosProfile : String := ""
  startedAt : Option String := none
  expiresAt : Option String := none

/-- A member is read into the session, if it is there; an exception keeps what has been
    read before. -/
def readMember {α : Type} (json : Json) (key : String) (read : Json → Except Json.Error α)
    (set : SessionInfo → α → SessionInfo) (info : SessionInfo) :
    Except SessionInfo SessionInfo :=
  match json.optional key read with
  | .ok v => .ok (v.elim info (set info))
  | .error _ => .error info

/-- `parse_session_info`. -/
def parseSessionInfo (lib : Json.Library) (raw : String) : SessionInfo :=
  if raw.isEmpty then {}
  else match lib.parse raw with
    | .error _ => {}
    | .ok json =>
      let read : Except SessionInfo SessionInfo := do
        let info ← readMember json "sessionId" Json.getStr
          (fun info v => { info with sessionId := v }) {}
        let info ← readMember json "qosStatus" Json.getStr
          (fun info v => { info with qosStatus := qosStatusFromString v }) info
        let info ← readMember json "statusInfo" Json.getStr
          (fun info v => { info with statusInfo := some (statusInfoFromString v) }) info
        let info ← readMember json "duration" Json.getInt32
          (fun info v => { info with duration := v }) info
        let info ← readMember json "qosProfile" Json.getStr
          (fun info v => { info with qosProfile := v }) info
        let info ← readMember json "startedAt" Json.getStr
          (fun info v => { info with startedAt := some v }) info
        readMember json "expiresAt" Json.getStr
          (fun info v => { info with expiresAt := some v }) info
      match read with
      | .ok info | .error info => info

/-- `create_session`, once `send_message` has returned. -/
def createSessionResult (lib : Json.Library) : Result String → Result SessionInfo
  | .ok payload => .ok (parseSessionInfo lib payload)
  | .error code message => .error code message

end PhineAf.Adapter

import Mathlib.Data.List.Infix
import PhineAf.Common

/-!
# QoD sessions

The records of QualityOnDemand: devices and application servers with their
ports, the mapping of a QoS profile, and the sessions themselves; the requests of
the API consumers, and the messages exchanged with the PCF handler.
-/

namespace PhineAf

/-! ## Devices and servers -/

/-- A port of a transport protocol. The type is one of the common library, which is not part of
    the repository: sixteen bits are an assumption, under which no port fails a check against
    65535. -/
abbrev Port := UInt16

/-- The ports from `lo` to `hi`. -/
structure PortRange where
  lo : Port
  hi : Port
  deriving DecidableEq, Repr

structure PortsSpec where
  ranges : List PortRange := []
  ports : List Port := []
  deriving DecidableEq, Repr

structure DeviceIpv4Addr where
  publicAddress : Ipv4Addr := ⟨""⟩
  privateAddress : Option Ipv4Addr := none
  publicPort : Option Port := none
  deriving DecidableEq, Repr

structure QodDevice where
  phoneNumber : Option String := none
  networkAccessIdentifier : Option String := none
  ipv4Address : Option DeviceIpv4Addr := none
  ipv6Address : Option Ipv6Addr := none
  deriving DecidableEq, Repr

/-- `is_empty`: no identifier is present. -/
def QodDevice.isEmpty (d : QodDevice) : Bool := d == {}

structure ApplicationServer where
  ipv4Address : Option String := none
  ipv6Address : Option String := none
  deriving DecidableEq, Repr

/-- The server has an address. -/
def ApplicationServer.HasAddress (server : ApplicationServer) : Prop :=
  server.ipv4Address.isSome ∨ server.ipv6Address.isSome

/-! ## Sessions -/

inductive QosStatus
  | requested
  | available
  | unavailable
  deriving DecidableEq, Repr

inductive StatusInfo
  | durationExpired
  | networkTerminated
  | deleteRequested
  deriving DecidableEq, Repr

/-- The 5G parameters of a QoS profile. -/
structure QosProfileMapping where
  fiveqi : ℤ
  priorityLevel : Option ℤ
  packetDelayBudget : ℤ
  packetErrorRate : ℚ
  maxDataBurst : Option ℤ
  isGbr : Bool
  guaranteedUplinkRate : Option String
  guaranteedDownlinkRate : Option String
  maxUplinkRate : Option String
  maxDownlinkRate : Option String
  deriving DecidableEq, Repr

inductive CredentialType
  | plain
  | accessToken
  | refreshToken
  deriving DecidableEq, Repr

structure SinkCredential where
  credentialType : CredentialType
  identifier : Option String := none
  secret : Option String := none
  accessToken : Option String := none
  accessTokenExpiresUtc : Option ℤ := none
  accessTokenType : Option String := none
  refreshToken : Option String := none
  refreshTokenEndpoint : Option String := none
  deriving DecidableEq, Repr

structure QodSession where
  sessionId : String
  apiConsumerId : String
  device : Option QodDevice
  applicationServer : ApplicationServer
  devicePorts : Option PortsSpec
  applicationServerPorts : Option PortsSpec
  qosProfile : String
  qosProfileMapping : Option QosProfileMapping
  duration : ℤ
  sink : Option String
  sinkCredential : Option SinkCredential
  createdAt : ℤ
  qosStatus : QosStatus
  statusInfo : Option StatusInfo := none
  ueSupi : Option Supi := none
  pduSessionId : Option String := none
  deviceResponse : Option QodDevice := none
  pcfSessionId : Option String := none
  pcfTransactionId : Option String := none
  startedAt : Option ℤ := none
  expiresAt : Option ℤ := none
  errorMessage : Option String := none
  deriving DecidableEq

structure CreateSessionRequest where
  apiConsumerId : String
  device : Option QodDevice
  applicationServer : ApplicationServer
  devicePorts : Option PortsSpec := none
  applicationServerPorts : Option PortsSpec := none
  qosProfile : String
  duration : ℤ
  sink : Option String := none
  sinkCredential : Option SinkCredential := none
  deriving DecidableEq

/-- The device returned to a two-legged consumer: one identifier of the device,
    by priority. -/
def responseDevice (apiConsumerId : String) (device : Option QodDevice) : Option QodDevice :=
  device.bind fun d =>
    if "2-legged".toList <:+: apiConsumerId.toList then
      let response : QodDevice :=
        if d.phoneNumber.isSome then { phoneNumber := d.phoneNumber }
        else if d.ipv4Address.isSome then { ipv4Address := d.ipv4Address }
        else { ipv6Address := d.ipv6Address }
      if response.isEmpty then none else some response
    else none

/-! ## Messages -/

/-- A request sent to the PCF handler. Its payload is the JSON made from the
    session, or the ids of the session to delete. -/
inductive PcfRequest
  /-- `pcf_create_qod_session`. -/
  | createQodSession (session : QodSession)
  /-- `pcf_delete_qod_session`. -/
  | deleteQodSession (pcfSessionId sessionId : String)
  deriving DecidableEq

inductive PcfReplyType
  /-- `pcf_qod_session_created`. -/
  | qodSessionCreated
  /-- `pcf_delete_app_session`. -/
  | deleteAppSession
  /-- `pcf_error`. -/
  | error
  /-- Any other. -/
  | other
  deriving DecidableEq, Repr

/-- A reply of the PCF handler; the payload may not parse. -/
structure PcfReply where
  type : PcfReplyType
  payload : Option Json

/-- An application session has been created. -/
def PcfReply.created (pcfSessionId : String) : PcfReply :=
  ⟨.qodSessionCreated, some (.obj [("pcf_session_id", .str pcfSessionId)])⟩

/-- An application session has been removed. -/
def PcfReply.removed (pcfSessionId : String) : PcfReply :=
  ⟨.deleteAppSession, some (.obj [("pcf_session_id", .str pcfSessionId)])⟩

/-- A status change delivered to the sink of a session. -/
structure Notification where
  sessionId : String
  qosStatus : QosStatus
  statusInfo : Option StatusInfo
  source : String
  sink : String
  sinkCredential : Option SinkCredential
  deriving DecidableEq

end PhineAf

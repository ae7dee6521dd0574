import PhineAf.Qod.Store
import PhineAf.Ue.Store

/-!
# The QoD session manager

`QodSessionManager`: the sessions of the API consumers, from their creation to
their end, with the UE store and the QoD store it works on, the requests it has
sent to the PCF handler and the notifications it has delivered.

An operation is a function of the manager. The id drawn for a session, the
readings of the clock and the reply of the PCF handler are its arguments. An
operation that calls the PCF handler is split where it waits for the reply: what
it does before (`prepareSession`, `storeSession`, `deleteRequest`) and what it
makes of the reply (`applyReply`, `concludeSession`, `removeReply`,
`finishDelete`). What an operation wrote before it throws stays written.
-/

namespace PhineAf

/-! ## Configuration -/

structure QodSessionConfig where
  maxSessionDuration : ℤ := 86400
  minSessionDuration : ℤ := 60
  unavailableSessionTtl : ℤ := 360
  enableNotifications : Bool := true
  apiBaseUrl : String := "https://api.example.com/qod/v1"
  qosProfileMaxDurations : Table String ℤ := ∅

/-- The maximal durations of the standard profiles. -/
def defaultMaxDurations : List (String × ℤ) :=
  [("QOS_E", 3600), ("QOS_S", 7200), ("QOS_M", 14400), ("QOS_L", 28800), ("voice", 7200),
    ("video", 14400), ("game", 28800), ("data", 86400), ("premium", 43200), ("enterprise", 28800)]

/-- The constructor takes the default durations if none are configured. -/
def QodSessionConfig.complete (config : QodSessionConfig) : QodSessionConfig :=
  if config.qosProfileMaxDurations.entries.isEmpty then
    { config with qosProfileMaxDurations :=
        defaultMaxDurations.foldl (fun t d => t.insert d.1 d.2) ∅ }
  else config

/-- `supported_profiles_`. -/
def supportedProfiles : List String :=
  ["QOS_E", "QOS_S", "QOS_M", "QOS_L", "voice", "video", "game", "data", "premium", "enterprise"]

/-- A session manager, with its stores. -/
structure QodSessionManager where
  config : QodSessionConfig
  /-- A communication service for the PCF handler is set. -/
  pcfService : Bool
  pcfDestination : String
  /-- A notification handler is set. -/
  notificationHandler : Bool
  ue : UeStore
  qod : QodStore
  /-- The requests sent to the PCF handler, latest first. -/
  sent : List PcfRequest
  /-- The notifications delivered, latest first. -/
  delivered : List Notification

namespace QodSessionManager

/-- A new manager, after `initialize`. -/
def create (config : QodSessionConfig) (pcfService : Bool) (pcfDestination : String)
    (notificationHandler : Bool) : QodSessionManager where
  config := config.complete
  pcfService := pcfService
  pcfDestination := pcfDestination
  notificationHandler := notificationHandler
  ue := .empty
  qod := .empty
  sent := []
  delivered := []

variable (m : QodSessionManager)

/-! ## Queries -/

/-- `get_max_duration_for_profile`. -/
def getMaxDurationForProfile (profile : String) : ℤ :=
  (m.config.qosProfileMaxDurations.lookup profile).getD m.config.maxSessionDuration

/-- `validate_qos_profile`. -/
def validateQosProfile (profile : String) : Bool := profile ∈ supportedProfiles

/-- `get_session`. -/
def getSession (sessionId apiConsumerId : String) : Option QodSession :=
  (m.qod.getSessionById sessionId).filter (·.apiConsumerId == apiConsumerId)

/-- Two values that are both present agree in `f`. -/
def agree {α β : Type} [BEq β] (f : α → β) : Option α → Option α → Bool
  | some a, some b => f a == f b
  | _, _ => false

/-- The device of a request matches that of a session in
    `retrieve_sessions_by_device`. -/
def deviceMatches (device sessionDevice : QodDevice) : Bool :=
  agree id device.phoneNumber sessionDevice.phoneNumber ||
    agree (·.publicAddress.value) device.ipv4Address sessionDevice.ipv4Address ||
    agree Ipv4Addr.value (device.ipv4Address.bind (·.privateAddress))
      (sessionDevice.ipv4Address.bind (·.privateAddress)) ||
    agree Ipv6Addr.value device.ipv6Address sessionDevice.ipv6Address

/-- `retrieve_sessions_by_device`. -/
def retrieveSessionsByDevice (device : Option QodDevice) (apiConsumerId : String) :
    List QodSession :=
  m.qod.getAllSessions.filter fun session =>
    session.apiConsumerId == apiConsumerId && session.qosStatus != .unavailable &&
      match device, session.device with
      | none, _ => true
      | some _, none => false
      | some d, some d' => deviceMatches d d'

/-- The servers are the same in `check_session_conflict`: by their IPv4
    addresses if both have one, else by their IPv6 addresses. -/
def sameServer (a b : ApplicationServer) : Bool :=
  match a.ipv4Address, b.ipv4Address with
  | some x, some y => x == y
  | _, _ => agree id a.ipv6Address b.ipv6Address

/-- `check_session_conflict`: it asks for the sessions of the consumer `""`. -/
def checkSessionConflict (device : QodDevice) (server : ApplicationServer) : Option String :=
  ((m.retrieveSessionsByDevice (some device) "").find? fun session =>
    session.qosStatus != .unavailable && sameServer server session.applicationServer).map
      (·.sessionId)

/-! ## UE states -/

/-- The first result, or the next one if there is none. -/
def orTry {α : Type} (r : Option α) (next : Except Exn (Option α)) : Except Exn (Option α) :=
  if r.isSome then .ok r else next

/-- The UE found by the identifiers of a device, in `resolve_device`. -/
def findUeState (device : QodDevice) : Except Exn (Option AfUeSubscriptionState) := do
  let byPhone ← device.phoneNumber.elim (.ok none) fun p => m.ue.getUeStateByGpsi ⟨p⟩
  let byIpv4 ← orTry byPhone (device.ipv4Address.elim (.ok none) fun a => do
    let byPublic ← if a.publicAddress.value.isEmpty then .ok none
      else m.ue.getUeStateByIpv4 a.publicAddress
    orTry byPublic (a.privateAddress.elim (.ok none) m.ue.getUeStateByIpv4))
  orTry byIpv4 (device.ipv6Address.elim (.ok none) m.ue.getUeStateByIpv6Addr)

/-- `resolve_device`: the SUPI of the UE, and its first active PDU session. -/
def resolveDevice (device : QodDevice) : Except Exn (Option Supi × Option String) := do
  match ← m.findUeState device with
  | some st => return (st.supi, (st.pduSessions.find? (·.status == "ACTIVE")).map (·.pduSessionId))
  | none => return (none, none)

/-- A key from the identifiers of a device, by priority. -/
def deviceKey (device : QodDevice) : Except Exn (Option UeKey) :=
  match device.phoneNumber, device.ipv4Address, device.ipv6Address with
  | some p, _, _ => (UeKey.fromGpsi ⟨p⟩).map some
  | none, some a, _ => (UeKey.fromIpv4 a.publicAddress).map some
  | none, none, some a => (UeKey.fromIpv6 a).map some
  | none, none, none => .ok none

/-- `create_or_get_ue_key`: the SUPI comes first. -/
def createOrGetUeKey (session : QodSession) : Except Exn (Option UeKey) :=
  match session.device, session.ueSupi with
  | none, _ => .ok none
  | some _, some supi => (UeKey.fromSupi supi).map some
  | some device, none => deviceKey device

/-- The state `create_or_update_ue_state` hands to the UE store. -/
def initialUeState (session : QodSession) (device : QodDevice) (key : UeKey) (now : ℤ) :
    Except Exn AfUeSubscriptionState := do
  let st ← session.ueSupi.elim (.ok (.ofKey key now)) (AfUeSubscriptionState.ofSupi · now)
  let st := device.phoneNumber.elim st fun p => st.setGpsi now ⟨p⟩
  let st := device.ipv4Address.elim st fun a =>
    let st := (st.addKnownIdentifier now .ipv4 a.publicAddress.value).2
    a.privateAddress.elim st fun p => (st.addKnownIdentifier now .ipv4 p.value).2
  let st := device.ipv6Address.elim st fun a => (st.addKnownIdentifier now .ipv6 a.value).2
  return device.phoneNumber.elim st fun p => (st.addKnownIdentifier now .gpsi p).2

/-- The PDU session `create_or_update_ue_state` adds for a QoD session. -/
def pduSessionFor (sessionId pduSessionId : String) (device : QodDevice) : PduSessionData where
  pduSessionId := pduSessionId
  status := "ACTIVE"
  pduSessionType :=
    if device.ipv6Address.isSome then if device.ipv4Address.isSome then "IPV4V6" else "IPV6"
    else "IPV4"
  ueIpv4Address := device.ipv4Address.map (·.publicAddress)
  ueIpv6Addresses := device.ipv6Address.toList
  activeQodSessionIds := [sessionId]

/-- `create_or_update_ue_state`: an exception is logged, and the rest left out. -/
def createOrUpdateUeState (session : QodSession) (now : ℤ) (ue : UeStore) : UeStore :=
  match session.device, createOrGetUeKey session with
  | some device, .ok (some key) =>
    match initialUeState session device key now with
    | .ok st =>
      let ue := ue.createOrUpdateProvisionalUeState key (some st) now
      match session.pduSessionId with
      | some pduSessionId =>
        if device.ipv4Address.isSome || device.ipv6Address.isSome then
          (ue.addOrUpdatePduSession key (pduSessionFor session.sessionId pduSessionId device) now).2
        else ue
      | none => ue
    | .error _ => ue
  | _, _ => ue

/-- The first part of `update_ue_state_from_pcf_response`: a state under another
    key is promoted to the SUPI, or merged into the state of the SUPI. -/
def promoteFromPcfResponse (supi : Supi) (device : QodDevice) (now : ℤ) (ue : UeStore) :
    Except Exn UeStore := do
  match ← deviceKey device with
  | none => return ue
  | some currentKey =>
    let supiKey ← UeKey.fromSupi supi
    if currentKey.getPrimaryKey = supiKey.getPrimaryKey then return ue
    else match ← ue.promoteUeStateToResolved currentKey supi now with
      | (true, ue) => return ue
      | (false, ue) =>
        if (ue.getUeStateBySupi supi).isSome then
          return (← ue.mergeUeStates supiKey currentKey now).2
        else return ue

/-- `update_ue_state_from_pcf_response`: an exception is logged, and the rest left
    out. -/
def updateUeStateFromPcfResponse (session : QodSession) (now : ℤ) (ue : UeStore) : UeStore :=
  match session.device with
  | none => ue
  | some device =>
    match session.ueSupi.elim (.ok ue) fun supi => promoteFromPcfResponse supi device now ue with
    | .error _ => ue
    | .ok ue =>
      match session.pduSessionId, createOrGetUeKey session with
      | some pduSessionId, .ok (some key) =>
        (ue.addQodSessionToPduSession key pduSessionId session.sessionId now).2
      | _, _ => ue

/-! ## Notifications -/

/-- `send_status_change_notification`. -/
def sendStatusChangeNotification (session : QodSession) (info : Option StatusInfo) :
    QodSessionManager :=
  match session.sink with
  | some sink =>
    if m.notificationHandler then
      { m with delivered := {
          sessionId := session.sessionId
          qosStatus := session.qosStatus
          statusInfo := info.or session.statusInfo
          source := m.config.apiBaseUrl
          sink := sink
          sinkCredential := session.sinkCredential } :: m.delivered }
    else m
  | none => m

/-- A notification is sent when they are enabled and a condition holds. -/
def notifyIf (condition : Bool) (session : QodSession) (info : Option StatusInfo) :
    QodSessionManager :=
  if condition && m.config.enableNotifications then m.sendStatusChangeNotification session info
  else m

/-! ## PCF events -/

/-- The session `handle_pcf_session_response` writes back on success. -/
def activated (session : QodSession) (pcfSessionId : String) (now : ℤ) : QodSession :=
  { session with
    qosStatus := .available
    pcfSessionId := some pcfSessionId
    startedAt := some now
    expiresAt := some (after now session.duration) }

/-- The session `handle_pcf_session_response` writes back on failure. -/
def failed (session : QodSession) (errorMessage : String) : QodSession :=
  { session with
    qosStatus := .unavailable
    statusInfo := some .networkTerminated
    errorMessage := some errorMessage }

/-- `handle_pcf_session_response`. -/
def handlePcfSessionResponse (qodSessionId pcfSessionId : String) (success : Bool)
    (errorMessage : String) (now : ℤ) : QodSessionManager :=
  match m.qod.getSessionById qodSessionId with
  | none => m
  | some session =>
    if success then
      let session := activated session pcfSessionId now
      let m := { m with
        ue := updateUeStateFromPcfResponse session now m.ue
        qod := m.qod.updatePcfSessionMap pcfSessionId qodSessionId }
      let m := m.notifyIf session.sink.isSome session none
      { m with qod := (m.qod.updateSession session).2 }
    else
      let session := failed session errorMessage
      let m := m.notifyIf session.sink.isSome session (some .networkTerminated)
      { m with qod := (m.qod.updateSession session).2 }

/-- The known addresses of the device are taken off the UE. -/
def removeDeviceAddresses (key : UeKey) (device : QodDevice) (now : ℤ) (ue : UeStore) : UeStore :=
  let ue := device.ipv4Address.elim ue fun a =>
    (ue.removeNonPrimaryUeIdentifier key .ipv4 a.publicAddress.value now).2
  device.ipv6Address.elim ue fun a => (ue.removeNonPrimaryUeIdentifier key .ipv6 a.value now).2

/-- What `handle_pcf_session_terminated` does to the UE of an available session:
    `none` when it returns early, without a key for the UE. -/
def releaseUe (session : QodSession) (now : ℤ) (ue : UeStore) : Except Exn (Option UeStore) :=
  match session.pduSessionId, session.device with
  | none, none => return some ue
  | none, some device => do
    return some ((← createOrGetUeKey session).elim ue fun key =>
      removeDeviceAddresses key device now ue)
  | some _, none => return none
  | some pduSessionId, some device => do
    return (← createOrGetUeKey session).map fun key => removeDeviceAddresses key device now
      (ue.removeQodSessionFromPduSession key pduSessionId session.sessionId now).2

/-- The session is removed, and the mapping of the PCF id. -/
def dropTerminated (sessionId pcfSessionId : String) : QodSessionManager :=
  { m with qod := ((m.qod.removeSession sessionId).2.removePcfToQodSessionMapping pcfSessionId).2 }

/-- `handle_pcf_session_terminated`. -/
def handlePcfSessionTerminated (pcfSessionId : String) (now : ℤ) :
    Except Exn Unit × QodSessionManager :=
  match m.qod.getSessionByPcfSessionId pcfSessionId with
  | none => (.ok (), m)
  | some session =>
    if session.qosStatus = .available then
      let session := { session with
        qosStatus := .unavailable
        statusInfo := some .networkTerminated
        expiresAt := some now }
      match releaseUe session now m.ue with
      | .error e => (.error e, m)
      | .ok none => (.ok (), m)
      | .ok (some ue) =>
        let m := { m with ue }
        let m := m.notifyIf session.sink.isSome session (some .networkTerminated)
        (.ok (), m.dropTerminated session.sessionId pcfSessionId)
    else (.ok (), m.dropTerminated session.sessionId pcfSessionId)

/-- `handle_pdu_session_terminated_event`. -/
def handlePduSessionTerminatedEvent (supi : Supi) (pduSessionId : String) (order : List String) :
    QodSessionManager :=
  match m.qod.getSessionByPduSession supi pduSessionId order with
  | none => m
  | some session =>
    let m := { m with qod := (m.qod.removeSession session.sessionId).2 }
    m.notifyIf (session.sink.isSome && session.qosStatus == .available) session
      (some .networkTerminated)

/-! ## Creation -/

/-- What `create_session` does before it stores the session: the session, or
    nothing if the request is refused. -/
def prepareSession (request : CreateSessionRequest) (sessionId : String) (now : ℤ) :
    Except Exn (Option QodSession) :=
  if !validateQosProfile request.qosProfile then .ok none
  else if m.getMaxDurationForProfile request.qosProfile < request.duration ∨
      request.duration < m.config.minSessionDuration then .ok none
  else match m.qod.getQosProfileMapping request.qosProfile with
    | none => .ok none
    | some mapping => do
      let (supi, pduSessionId) ← request.device.elim (.ok (none, none)) m.resolveDevice
      if request.device.any fun d => (m.checkSessionConflict d request.applicationServer).isSome then
        return none
      return some {
        sessionId := sessionId
        apiConsumerId := request.apiConsumerId
        device := request.device
        applicationServer := request.applicationServer
        devicePorts := request.devicePorts
        applicationServerPorts := request.applicationServerPorts
        qosProfile := request.qosProfile
        qosProfileMapping := some mapping
        duration := request.duration
        sink := request.sink
        sinkCredential := request.sinkCredential
        createdAt := now
        qosStatus := .requested
        ueSupi := supi
        pduSessionId := pduSessionId
        deviceResponse := responseDevice request.apiConsumerId request.device }

/-- The session is stored, and the state of its UE. -/
def storeSession (session : QodSession) (now : ℤ) : QodSessionManager :=
  { m with
    qod := m.qod.addSession session
    ue := createOrUpdateUeState session now m.ue }

/-- The PCF handler can be called. -/
def pcfReady : Bool := m.pcfService && !m.pcfDestination.isEmpty

/-- A request is sent to the PCF handler. -/
def send (request : PcfRequest) : QodSessionManager := { m with sent := request :: m.sent }

/-- The text under a key of a payload, which may not parse. -/
def textOf (payload : Option Json) (key default : String) : Except Json.Error String := do
  let json ← payload.elim (.error .typeError) .ok
  (← json.value key (.str default)).getStr

/-- What `apply_session_to_pcf` makes of the reply, and its result. -/
def applyReply (sessionId : String) (reply : Option PcfReply) (now : ℤ) :
    Bool × QodSessionManager :=
  match reply with
  | none => (false, m)
  | some ⟨.qodSessionCreated, payload⟩ =>
    match textOf payload "pcf_session_id" "" with
    | .ok pcfSessionId => (true, m.handlePcfSessionResponse sessionId pcfSessionId true "" now)
    | .error _ => (false, m)
  | some ⟨.deleteAppSession, payload⟩ =>
    match textOf payload "pcf_session_id" "", textOf payload "reason" "Requested by user" with
    | .ok pcfSessionId, .ok _ =>
      let (result, m) := m.handlePcfSessionTerminated pcfSessionId now
      (result.isOk, m)
    | _, _ => (false, m)
  | some ⟨.error, payload⟩ =>
    match textOf payload "message" "Unknown error",
        payload.elim (.error .typeError) fun j => j.value "status" (.int 500) >>= Json.getInt32 with
    | .ok message, .ok _ => (false, m.handlePcfSessionResponse sessionId "" false message now)
    | _, _ => (false, m)
  | some ⟨.other, _⟩ => (false, m)

/-- What `create_session` does when the session could not be applied. -/
def abandonSession (sessionId : String) (sink : Option String) :
    Except Exn QodSession × QodSessionManager :=
  let m := { m with
    qod := (m.qod.updateSessionStatus sessionId .unavailable (some .networkTerminated)).2 }
  match m.qod.getSessionById sessionId with
  | none => (.error .badOptionalAccess, m)
  | some session => (.ok session, m.notifyIf sink.isSome session (some .networkTerminated))

/-- What `create_session` does with the result of `apply_session_to_pcf`. -/
def concludeSession (session : QodSession) (r : Bool × QodSessionManager) :
    Except Exn (Option QodSession) × QodSessionManager :=
  if r.1 then (.ok (some { session with pcfTransactionId := some session.sessionId }), r.2)
  else
    let (result, m) := r.2.abandonSession session.sessionId session.sink
    (result.map some, m)

/-- `create_session`. -/
def createSession (request : CreateSessionRequest) (sessionId : String) (now : ℤ)
    (reply : Option PcfReply) (later : ℤ) : Except Exn (Option QodSession) × QodSessionManager :=
  match m.prepareSession request sessionId now with
  | .error e => (.error e, m)
  | .ok none => (.ok none, m)
  | .ok (some session) =>
    let m := m.storeSession session now
    if m.pcfReady then
      concludeSession session
        ((m.send (.createQodSession session)).applyReply session.sessionId reply later)
    else concludeSession session (false, m)

/-! ## Deletion -/

/-- The session a consumer may delete. -/
def deleteRequest (sessionId apiConsumerId : String) : Option QodSession :=
  (m.qod.getSessionById sessionId).filter (·.apiConsumerId == apiConsumerId)

/-- The session to remove from the PCF: that of an available session. -/
def pcfSessionOf (session : QodSession) : Option String :=
  if session.qosStatus = .available then session.pcfSessionId else none

/-- What `remove_session_from_pcf` makes of the reply, and its result. -/
def removeReply (reply : Option PcfReply) : Bool × QodSessionManager :=
  match reply with
  | some ⟨.deleteAppSession, payload⟩ =>
    match textOf payload "pcf_session_id" "", textOf payload "reason" "Requested by user" with
    | .ok pcfSessionId, .ok _ =>
      (true, { m with qod := (m.qod.removePcfToQodSessionMapping pcfSessionId).2 })
    | _, _ => (false, m)
  | _ => (false, m)

/-- The session `delete_session` writes back. -/
def deleted (session : QodSession) (now : ℤ) : QodSession :=
  { session with
    qosStatus := .unavailable
    statusInfo := some .deleteRequested
    expiresAt := some now }

/-- What `delete_session` does once the session is gone from the PCF: it works on
    the copy read at the start, and writes that back. -/
def finishDelete (session : QodSession) (now : ℤ) : Except Exn Bool × QodSessionManager :=
  let session' := deleted session now
  let finish (m : QodSessionManager) : Except Exn Bool × QodSessionManager :=
    let m := m.notifyIf (session.sink.isSome && session.qosStatus == .available) session'
      (some .deleteRequested)
    (.ok true, { m with qod := (m.qod.updateSession session').2 })
  match session.pduSessionId with
  | none => finish m
  | some pduSessionId =>
    match createOrGetUeKey session' with
    | .error e => (.error e, m)
    | .ok none => (.ok false, m)
    | .ok (some key) => finish { m with
        ue := (m.ue.removeQodSessionFromPduSession key pduSessionId session.sessionId now).2 }

/-- `delete_session`. -/
def deleteSession (sessionId apiConsumerId : String) (reply : Option PcfReply) (now : ℤ) :
    Except Exn Bool × QodSessionManager :=
  match m.deleteRequest sessionId apiConsumerId with
  | none => (.ok false, m)
  | some session =>
    match pcfSessionOf session with
    | none => m.finishDelete session now
    | some pcfSessionId =>
      if m.pcfReady then
        match (m.send (.deleteQodSession pcfSessionId session.sessionId)).removeReply reply with
        | (true, m) => m.finishDelete session now
        | (false, m) => (.ok false, m)
      else (.ok false, m)

/-! ## Extension, clean-up and stop -/

/-- The duration `extend_session_duration` gives a session. -/
def extendedDuration (session : QodSession) (additional : ℤ) : ℤ :=
  min (session.duration + additional) (m.getMaxDurationForProfile session.qosProfile)

/-- The session `extend_session_duration` writes back. -/
def extended (session : QodSession) (additional startedAt : ℤ) : QodSession :=
  { session with
    duration := m.extendedDuration session additional
    expiresAt := some (after startedAt (m.extendedDuration session additional)) }

/-- `extend_session_duration`. -/
def extendSessionDuration (sessionId : String) (additional : ℤ) (apiConsumerId : String) :
    Except Exn (Option QodSession) × QodSessionManager :=
  match m.qod.getSessionById sessionId with
  | none => (.ok none, m)
  | some session =>
    if session.apiConsumerId ≠ apiConsumerId then (.ok none, m)
    else if session.qosStatus = .unavailable then (.ok none, m)
    else match session.startedAt with
      | none => (.error .emptyDereference, m)
      | some startedAt =>
        let session := m.extended session additional startedAt
        (.ok (some session), { m with qod := (m.qod.updateSession session).2 })

/-- `cleanup_expired_sessions`. -/
def cleanupExpiredSessions (now : ℤ) : QodSessionManager :=
  let toRemove := m.qod.getExpiredSessions now m.config.unavailableSessionTtl
  { m with qod := toRemove.foldl (fun qod session => (qod.removeSession session.sessionId).2) m.qod }

/-- `stop`. -/
def stop : QodSessionManager := { m with qod := m.qod.clearAllSessions }

end QodSessionManager

end PhineAf

import PhineAf.Qod.Manager

/-!
# Session requests to the PCF handler

The JSON body `QodSessionManager::build_pcf_request` makes of a session, and what
`QodPcfHandler::handle_qod_create_pcf_session` reads from it. The two only agree
by spelling the same keys. They do not everywhere:

* the SUPI is sent as `supi` and read as the network access identifier, and the
  network access identifier is not sent;
* the port ranges of the device are sent as `port_ranges` and read as `ranges`;
* the ports of the application server are not sent;
* a request without a device, or without an address of the server, has no
  member the handler insists on;
* the duration is read as an integer of 32 bits.

`roundTrips_iff` says that nothing else gets lost.
-/

namespace PhineAf

/-- `QosProfileMapper`, of the common library: how a mapping is written to JSON,
    read from it, and validated. -/
structure QosProfileMapper where
  serializeQosMapping : QosProfileMapping → Json
  tryDeserializeQosMapping : Json → Option QosProfileMapping
  validateQosMapping : QosProfileMapping → Bool

/-- The mapper writes a valid mapping, and reads it back. -/
structure QosProfileMapper.Faithful (mapper : QosProfileMapper) (mapping : QosProfileMapping) :
    Prop where
  present : (mapper.serializeQosMapping mapping).isNull = false
  lossless : mapper.tryDeserializeQosMapping (mapper.serializeQosMapping mapping) = some mapping
  valid : mapper.validateQosMapping mapping = true

/-! ## The session manager's side -/

namespace QodSessionManager

/-- The IPv4 addresses of a device, in `convert_device_to_pcf`. -/
def convertIpv4ToPcf (a : DeviceIpv4Addr) : Json :=
  .ofFields
    [("publicAddress", some (.str a.publicAddress.value)),
      ("privateAddress", a.privateAddress.map (.str ·.value)),
      ("publicPort", a.publicPort.map (.int ·.toNat))]

/-- `convert_device_to_pcf`. -/
def convertDeviceToPcf (device : QodDevice) (supi : Option Supi) : Json :=
  .ofFields
    [("supi", supi.map (.str ·.value)),
      ("gpsi", device.phoneNumber.map .str),
      ("ipv4Address", device.ipv4Address.map convertIpv4ToPcf),
      ("ipv6Address", device.ipv6Address.map (.str ·.value))]

/-- A member that is only made by assigning to members of its own. -/
def nested (fields : List (String × Option Json)) : Option Json :=
  if (Json.ofFields fields).isNull then none else some (.ofFields fields)

/-- The members of the application server. -/
def serverFields (server : ApplicationServer) : List (String × Option Json) :=
  [("ipv4Address", server.ipv4Address.map .str), ("ipv6Address", server.ipv6Address.map .str)]

/-- The members of the device ports. -/
def portFields (ports : PortsSpec) : List (String × Option Json) :=
  [("port_ranges", Json.nonemptyArr (fun r => .ofFields
      [("from", some (.int r.lo.toNat)), ("to", some (.int r.hi.toNat))]) ports.ranges),
    ("ports", Json.nonemptyArr (fun p => .int p.toNat) ports.ports)]

/-- The 5QI sent for a profile without a mapping. -/
def fallbackFiveqi (profile : String) : ℤ :=
  if profile = "QOS_E" ∨ profile = "voice" then 1
  else if profile = "QOS_S" ∨ profile = "video" then 2
  else if profile = "QOS_M" ∨ profile = "game" then 3
  else if profile = "QOS_L" then 4
  else 9

/-- The members of `build_pcf_request`. -/
def requestFields (mapper : QosProfileMapper) (session : QodSession) :
    List (String × Option Json) :=
  [("session_id", some (.str session.sessionId)),
    ("qos_profile", some (.str session.qosProfile)),
    ("duration", some (.int session.duration)),
    ("device", session.device.map (convertDeviceToPcf · session.ueSupi)),
    ("ue_supi", if session.device.isSome then none else session.ueSupi.map (.str ·.value)),
    ("application_server", nested (serverFields session.applicationServer)),
    ("device_ports", session.devicePorts.bind fun p => nested (portFields p)),
    ("qos_profile_mapping", session.qosProfileMapping.map mapper.serializeQosMapping),
    ("5qi", if session.qosProfileMapping.isSome then none
      else some (.int (fallbackFiveqi session.qosProfile)))]

/-- `build_pcf_request`. -/
def buildPcfRequest (mapper : QosProfileMapper) (session : QodSession) : Json :=
  .ofFields (requestFields mapper session)

end QodSessionManager

/-! ## The PCF handler's side -/

/-- The fields of a session that the PCF handler reads from a request. -/
structure ReceivedSession where
  sessionId : String
  device : Option QodDevice
  applicationServer : ApplicationServer
  devicePorts : Option PortsSpec
  applicationServerPorts : Option PortsSpec
  qosProfile : String
  duration : ℤ
  sink : Option String
  ueSupi : Option Supi
  qosProfileMapping : Option QosProfileMapping
  deriving DecidableEq

namespace QodPcfHandler

/-- Why a request is answered with an error: an exception, or an invalid mapping. -/
inductive RequestError
  | exception (e : Json.Error)
  | invalidQosProfileMapping
  deriving DecidableEq, Repr

/-- The IPv4 addresses of a device, in `parse_device`. -/
def parseIpv4 (json : Json) : Except Json.Error DeviceIpv4Addr := do
  let publicAddress ← json.optional "publicAddress" Json.getStr
  let privateAddress ← json.optional "privateAddress" Json.getStr
  let publicPort ← json.optional "publicPort" Json.getUInt16
  return {
    publicAddress := ⟨publicAddress.getD ""⟩
    privateAddress := privateAddress.map (⟨·⟩)
    publicPort }

/-- `parse_device`. -/
def parseDevice (json : Json) : Except Json.Error (Option QodDevice) :=
  if json.isNull then .ok none
  else do
    let phoneNumber ← json.optional "gpsi" Json.getStr
    let networkAccessIdentifier ← json.optional "supi" Json.getStr
    let ipv4Address ← json.optional "ipv4Address" parseIpv4
    let ipv6Address ← json.optional "ipv6Address" Json.getStr
    return some {
      phoneNumber, networkAccessIdentifier, ipv4Address
      ipv6Address := ipv6Address.map (⟨·⟩) }

/-- `parse_application_server`. -/
def parseApplicationServer (json : Json) : Except Json.Error ApplicationServer := do
  let ipv4Address ← json.optional "ipv4Address" Json.getStr
  let ipv6Address ← json.optional "ipv6Address" Json.getStr
  return { ipv4Address, ipv6Address }

/-- A range of ports. -/
def parseRange (json : Json) : Except Json.Error PortRange := do
  return { lo := ← (← json.field "from").getUInt16, hi := ← (← json.field "to").getUInt16 }

/-- `parse_ports`: a member that is not an array is passed over. -/
def parsePorts (json : Json) : Except Json.Error (Option PortsSpec) :=
  if json.isNull then .ok none
  else do
    let ranges ← ((json.find? "ranges").elim [] Json.elements).mapM parseRange
    let ports ← ((json.find? "ports").elim [] Json.elements).mapM Json.getUInt16
    return some { ranges, ports }

/-- The fields of a request, apart from the mapping. -/
def parseFields (json : Json) : Except Json.Error ReceivedSession := do
  let sessionId ← (← json.field "session_id").getStr
  let device ← parseDevice (← json.field "device")
  let applicationServer ← parseApplicationServer (← json.field "application_server")
  let devicePorts ← parsePorts (← json.value "device_ports" .null)
  let applicationServerPorts ← parsePorts (← json.value "application_server_ports" .null)
  let qosProfile ← (← json.field "qos_profile").getStr
  let duration ← (← json.field "duration").getInt32
  let sink ← json.optional "sink" Json.getStr
  let ueSupi ← json.optional "ue_supi" Json.getStr
  return {
    sessionId, device, applicationServer, devicePorts, applicationServerPorts, qosProfile, duration
    sink
    ueSupi := ueSupi.map (⟨·⟩)
    qosProfileMapping := none }

/-- The request `handle_qod_create_pcf_session` reads from a body, before it
    creates the PCF session. -/
def parseCreateRequest (mapper : QosProfileMapper) (json : Json) :
    Except RequestError ReceivedSession :=
  match parseFields json with
  | .error e => .error (.exception e)
  | .ok session =>
    match json.find? "qos_profile_mapping" with
    | none => .ok session
    | some j =>
      if j.isNull then .ok session
      else match mapper.tryDeserializeQosMapping j with
        | none => .error .invalidQosProfileMapping
        | some mapping =>
          if mapper.validateQosMapping mapping then
            .ok { session with qosProfileMapping := some mapping }
          else .error .invalidQosProfileMapping

/-! ## What arrives -/

open QodSessionManager

theorem getUInt16_port (p : Port) : (Json.int p.toNat).getUInt16 = .ok p := by
  have hmod : ((p.toNat : ℤ) % 2 ^ 16).toNat = p.toNat := by
    have := p.toNat_lt
    omega
  have hp : UInt16.ofInt (p.toNat : ℤ) = p := by
    rw [UInt16.ofInt, hmod, UInt16.ofNat_toNat]
  simp [Json.getUInt16, Json.getInt, bind, Except.bind, pure, Except.pure, hp]

theorem mapM_getUInt16 (l : List Port) :
    (l.map fun p => Json.int p.toNat).mapM Json.getUInt16 = .ok l := by
  induction l with
  | nil => rfl
  | cons p l ih => simp [List.mapM_cons, getUInt16_port, ih, bind, Except.bind, pure, Except.pure]

theorem parseIpv4_convertIpv4ToPcf (a : DeviceIpv4Addr) :
    parseIpv4 (convertIpv4ToPcf a) = .ok a := by
  obtain ⟨publicAddress, privateAddress, publicPort⟩ := a
  rw [parseIpv4, convertIpv4ToPcf]
  repeat rw [Json.optional_ofFields _ _ (by simp)]
  cases privateAddress <;> cases publicPort <;>
    simp [List.lookup_cons, Json.getStr, getUInt16_port, Except.map, bind, Except.bind, pure,
      Except.pure]

/-- The device as the handler sees it: the SUPI in the place of the network
    access identifier. -/
def seenDevice (device : QodDevice) (supi : Option Supi) : QodDevice :=
  { device with networkAccessIdentifier := supi.map Supi.value }

theorem parseDevice_convertDeviceToPcf (device : QodDevice) (supi : Option Supi) :
    parseDevice (convertDeviceToPcf device supi) =
      .ok (if (seenDevice device supi).isEmpty then none else some (seenDevice device supi)) := by
  obtain ⟨phoneNumber, _, ipv4Address, ipv6Address⟩ := device
  rw [parseDevice, convertDeviceToPcf]
  rw [Json.isNull_ofFields]
  repeat rw [Json.optional_ofFields _ _ (by simp)]
  cases phoneNumber <;> cases ipv4Address <;> cases ipv6Address <;> cases supi <;>
    simp [List.lookup_cons, seenDevice, QodDevice.isEmpty, Json.getStr, parseIpv4_convertIpv4ToPcf,
      Except.map, bind, Except.bind, pure, Except.pure]

theorem parseApplicationServer_serverFields (server : ApplicationServer) :
    parseApplicationServer (.ofFields (serverFields server)) = .ok server := by
  obtain ⟨ipv4Address, ipv6Address⟩ := server
  rw [parseApplicationServer, serverFields]
  repeat rw [Json.optional_ofFields _ _ (by simp)]
  cases ipv4Address <;> cases ipv6Address <;>
    simp [List.lookup_cons, Json.getStr, Except.map, bind, Except.bind, pure, Except.pure]

/-- The ranges get lost, and an empty specification with them. -/
theorem parsePorts_nested (ports : PortsSpec) :
    parsePorts ((nested (portFields ports)).getD .null) =
      .ok (if ports.ranges = [] ∧ ports.ports = [] then none else some { ports := ports.ports }) := by
  obtain ⟨ranges, ports⟩ := ports
  have hkeys : ((portFields ⟨ranges, ports⟩).map Prod.fst).Nodup := by simp [portFields]
  have hnull : (Json.ofFields (portFields ⟨ranges, ports⟩)).isNull =
      (ranges.isEmpty && ports.isEmpty) := by
    rw [Json.isNull_ofFields]
    cases ranges <;> cases ports <;> simp [portFields, Json.nonemptyArr]
  rw [nested, parsePorts]
  cases hnil : ranges.isEmpty && ports.isEmpty with
  | true =>
    -- Without ports nothing is written, and the default, null, is read.
    obtain ⟨rfl, rfl⟩ : ranges = [] ∧ ports = [] := by simpa using hnil
    rfl
  | false =>
    have hne : ¬(ranges = [] ∧ ports = []) := by simpa using hnil
    rw [hnull, hnil, if_neg Bool.false_ne_true, Option.getD_some, hnull, hnil,
      if_neg Bool.false_ne_true, if_neg hne, Json.find?_ofFields _ hkeys, Json.find?_ofFields _ hkeys]
    -- The ranges are written under another name than the handler reads.
    cases ports with
    | nil => simp [portFields, Json.nonemptyArr, List.lookup_cons, bind, Except.bind, pure, Except.pure]
    | cons p l =>
      have hports := mapM_getUInt16 (p :: l)
      simp only [List.map_cons] at hports
      simp [portFields, Json.nonemptyArr, List.lookup_cons, Json.elements, hports, bind, Except.bind, pure,
        Except.pure]

/-- The ports of the device as the handler sees them. -/
def seenPorts (ports : Option PortsSpec) : Option PortsSpec :=
  ports.bind fun p => if p.ranges = [] ∧ p.ports = [] then none else some { ports := p.ports }

theorem nested_serverFields_of_hasAddress {server : ApplicationServer} (h : server.HasAddress) :
    nested (serverFields server) = some (.ofFields (serverFields server)) := by
  refine if_neg ?_
  rw [Json.isNull_ofFields]
  simpa [serverFields, ApplicationServer.HasAddress, Option.isSome_iff_ne_none,
    or_iff_not_imp_left] using h

theorem nested_serverFields_of_not_hasAddress {server : ApplicationServer}
    (h : ¬server.HasAddress) : nested (serverFields server) = none := by
  refine if_pos ?_
  rw [Json.isNull_ofFields]
  simpa [serverFields, ApplicationServer.HasAddress] using h

section Received

variable (mapper : QosProfileMapper) {session : QodSession}

theorem nodup_requestFields (session : QodSession) :
    ((requestFields mapper session).map Prod.fst).Nodup := by
  simp [requestFields]

theorem isNull_buildPcfRequest (session : QodSession) :
    (buildPcfRequest mapper session).isNull = false := by
  rw [buildPcfRequest, Json.isNull_ofFields]
  rfl

variable {mapper}

/-- A session for a device as the handler sees it. -/
def seenSession (session : QodSession) (device : QodDevice) : ReceivedSession where
  sessionId := session.sessionId
  device := if (seenDevice device session.ueSupi).isEmpty then none
    else some (seenDevice device session.ueSupi)
  applicationServer := session.applicationServer
  devicePorts := seenPorts session.devicePorts
  applicationServerPorts := none
  qosProfile := session.qosProfile
  duration := session.duration.bmod (2 ^ 32)
  sink := none
  ueSupi := none
  qosProfileMapping := none

/-- What the handler reads from the request for a session with a device and a
    server address. -/
theorem parseFields_buildPcfRequest {device : QodDevice} (hd : session.device = some device)
    (hs : session.applicationServer.HasAddress) :
    parseFields (buildPcfRequest mapper session) = .ok (seenSession session device) := by
  have hports : parsePorts ((session.devicePorts.bind fun p => nested (portFields p)).getD .null) =
      .ok (seenPorts session.devicePorts) := by
    cases session.devicePorts with
    | none => rfl
    | some p => exact parsePorts_nested p
  have hkeys := nodup_requestFields mapper session
  have hnull := isNull_buildPcfRequest mapper session
  have hserver : (requestFields mapper session).lookup "application_server" =
      some (some (.ofFields (serverFields session.applicationServer))) := by
    rw [← nested_serverFields_of_hasAddress hs]
    rfl
  have hdevice : (requestFields mapper session).lookup "device" =
      some (some (convertDeviceToPcf device session.ueSupi)) := by
    simp [requestFields, hd, List.lookup_cons]
  -- The SUPI is written for a session without a device only.
  have hsupi : (requestFields mapper session).lookup "ue_supi" = some none := by
    simp [requestFields, hd, List.lookup_cons]
  rw [parseFields, buildPcfRequest]
  rw [Json.field_ofFields "session_id" hkeys rfl, Json.field_ofFields _ hkeys hdevice,
    Json.field_ofFields _ hkeys hserver, Json.value_ofFields _ _ hkeys hnull,
    Json.value_ofFields _ _ hkeys hnull, Json.field_ofFields "qos_profile" hkeys rfl,
    Json.field_ofFields "duration" hkeys rfl, Json.optional_ofFields _ _ hkeys,
    Json.optional_ofFields _ _ hkeys, hsupi]
  simp only [bind, Except.bind, Json.getStr, parseDevice_convertDeviceToPcf,
    parseApplicationServer_serverFields]
  rw [show (requestFields mapper session).lookup "device_ports" =
    some (session.devicePorts.bind fun p => nested (portFields p)) from rfl, Option.join_some, hports]
  rfl

variable (mapper) in
/-- Without a device, or an address of the server, the handler throws. -/
theorem parseFields_buildPcfRequest_error
    (h : ¬(session.device.isSome ∧ session.applicationServer.HasAddress)) :
    ∃ e, parseFields (buildPcfRequest mapper session) = .error e := by
  have hkeys := nodup_requestFields mapper session
  rw [parseFields, buildPcfRequest]
  rw [Json.field_ofFields "session_id" hkeys rfl]
  cases hd : session.device with
  | none =>
    have hdevice : ((requestFields mapper session).lookup "device").join = none := by
      simp [requestFields, hd, List.lookup_cons]
    obtain ⟨e, he⟩ := Json.field_ofFields_of_none hkeys hdevice
    rw [he]
    exact ⟨e, rfl⟩
  | some device =>
    have hs : ¬session.applicationServer.HasAddress := by simpa [hd] using h
    have hdevice : (requestFields mapper session).lookup "device" =
        some (some (convertDeviceToPcf device session.ueSupi)) := by
      simp [requestFields, hd, List.lookup_cons]
    have hserver : ((requestFields mapper session).lookup "application_server").join = none := by
      rw [← nested_serverFields_of_not_hasAddress hs]
      rfl
    obtain ⟨e, he⟩ := Json.field_ofFields_of_none hkeys hserver
    rw [Json.field_ofFields _ hkeys hdevice, he]
    simp only [bind, Except.bind, Json.getStr, parseDevice_convertDeviceToPcf]
    exact ⟨e, rfl⟩

/-- The whole request, with its mapping. -/
theorem parseCreateRequest_buildPcfRequest {received : ReceivedSession}
    (hm : ∀ mapping, session.qosProfileMapping = some mapping → mapper.Faithful mapping)
    (h : parseFields (buildPcfRequest mapper session) = .ok received)
    (hnone : received.qosProfileMapping = none) :
    parseCreateRequest mapper (buildPcfRequest mapper session) =
      .ok { received with qosProfileMapping := session.qosProfileMapping } := by
  have hfind : (buildPcfRequest mapper session).find? "qos_profile_mapping" =
      session.qosProfileMapping.map mapper.serializeQosMapping :=
    Json.find?_ofFields _ (nodup_requestFields ..)
  rw [parseCreateRequest]
  rw [h, hfind]
  cases hq : session.qosProfileMapping with
  | none =>
    change Except.ok received = .ok { received with qosProfileMapping := none }
    rw [← hnone]
  | some mapping =>
    obtain ⟨hpresent, hlossless, hvalid⟩ := hm mapping hq
    simp only [Option.map_some, hpresent, Bool.false_eq_true, if_false, hlossless, hvalid, if_true]

end Received

/-! ## What is the same -/

/-- The request that arrives has the identifiers of the device, the server, the
    ports, the profile and the duration of the session. -/
structure SameRequest (session : QodSession) (received : ReceivedSession) : Prop where
  supi : received.ueSupi = session.ueSupi
  networkAccessIdentifier : received.device.bind (·.networkAccessIdentifier) =
    session.device.bind (·.networkAccessIdentifier)
  phoneNumber : received.device.bind (·.phoneNumber) = session.device.bind (·.phoneNumber)
  ipv4Address : received.device.bind (·.ipv4Address) = session.device.bind (·.ipv4Address)
  ipv6Address : received.device.bind (·.ipv6Address) = session.device.bind (·.ipv6Address)
  applicationServer : received.applicationServer = session.applicationServer
  devicePorts : received.devicePorts.getD {} = session.devicePorts.getD {}
  applicationServerPorts :
    received.applicationServerPorts.getD {} = session.applicationServerPorts.getD {}
  qosProfile : received.qosProfile = session.qosProfile
  qosProfileMapping : received.qosProfileMapping = session.qosProfileMapping
  duration : received.duration = session.duration

/-- The request for the session is read without an exception, and is the same. -/
def RoundTrips (mapper : QosProfileMapper) (session : QodSession) : Prop :=
  ∃ received, parseCreateRequest mapper (buildPcfRequest mapper session) = .ok received ∧
    SameRequest session received

/-- The sessions for which nothing gets lost. -/
structure Transferable (session : QodSession) : Prop where
  device : session.device.isSome
  supi : session.ueSupi = none
  networkAccessIdentifier : session.device.bind (·.networkAccessIdentifier) = none
  server : session.applicationServer.HasAddress
  ranges : (session.devicePorts.getD {}).ranges = []
  serverPorts : session.applicationServerPorts.getD {} = {}
  duration : -2 ^ 31 ≤ session.duration ∧ session.duration < 2 ^ 31

/-- A device without identifiers is not seen at all. -/
theorem bind_seen {α : Type} {f : QodDevice → Option α} (hf : f {} = none) (device : QodDevice) :
    (if device.isEmpty then none else some device).bind f = f device := by
  split_ifs with h
  · rw [eq_of_beq h, hf]
    rfl
  · rfl

theorem getD_seenPorts (ports : Option PortsSpec) :
    (seenPorts ports).getD {} = { ports := (ports.getD {}).ports } := by
  cases ports with
  | none => rfl
  | some p =>
    rw [seenPorts]
    rw [Option.bind_some]
    split_ifs with h
    · simp [h.2]
    · rfl

theorem bmod_eq_self_iff (n : ℤ) : n.bmod (2 ^ 32) = n ↔ -2 ^ 31 ≤ n ∧ n < 2 ^ 31 := by
  rw [Int.bmod_def]
  split_ifs <;> omega

section RoundTrip

variable {mapper : QosProfileMapper} {session : QodSession}
  (hm : ∀ mapping, session.qosProfileMapping = some mapping → mapper.Faithful mapping)

include hm

theorem roundTrips_of_transferable (h : Transferable session) : RoundTrips mapper session := by
  obtain ⟨device, hd⟩ := Option.isSome_iff_exists.1 h.device
  have hparse := parseCreateRequest_buildPcfRequest hm (parseFields_buildPcfRequest hd h.server) rfl
  have hnai : (seenDevice device session.ueSupi).networkAccessIdentifier =
      device.networkAccessIdentifier := by
    have hnone := h.networkAccessIdentifier
    rw [hd, Option.bind_some] at hnone
    rw [seenDevice, h.supi, hnone]
    rfl
  refine ⟨_, hparse, h.supi.symm, ?_, ?_, ?_, ?_, rfl, ?_, h.serverPorts.symm, rfl, rfl,
    (bmod_eq_self_iff _).2 h.duration⟩
  · -- The network access identifier is overwritten with the SUPI, and there is neither.
    rw [seenSession, bind_seen rfl, hnai, hd, Option.bind_some]
  · rw [seenSession, bind_seen rfl, hd, Option.bind_some, seenDevice]
  · rw [seenSession, bind_seen rfl, hd, Option.bind_some, seenDevice]
  · rw [seenSession, bind_seen rfl, hd, Option.bind_some, seenDevice]
  · have hranges := h.ranges
    rw [seenSession, getD_seenPorts]
    generalize session.devicePorts.getD {} = ports at hranges
    obtain ⟨ranges, ports⟩ := ports
    obtain rfl : ranges = [] := hranges
    rfl

theorem transferable_of_roundTrips (h : RoundTrips mapper session) : Transferable session := by
  obtain ⟨received, hr, hsame⟩ := h
  by_cases hread : session.device.isSome ∧ session.applicationServer.HasAddress
  · obtain ⟨hdevice, hserver⟩ := hread
    obtain ⟨device, hd⟩ := Option.isSome_iff_exists.1 hdevice
    rw [parseCreateRequest_buildPcfRequest hm (parseFields_buildPcfRequest hd hserver) rfl] at hr
    obtain rfl := Except.ok.inj hr
    -- The handler never sees a SUPI, a range of ports or the ports of the server.
    have hsupi : session.ueSupi = none := hsame.supi.symm
    refine ⟨hdevice, hsupi, ?_, hserver, ?_, hsame.applicationServerPorts.symm,
      (bmod_eq_self_iff _).1 hsame.duration⟩
    · have hnai := hsame.networkAccessIdentifier
      rw [seenSession, bind_seen rfl, hsupi] at hnai
      exact hnai.symm
    · have hports := hsame.devicePorts
      rw [seenSession, getD_seenPorts] at hports
      rw [← hports]
  · obtain ⟨e, he⟩ := parseFields_buildPcfRequest_error mapper hread
    rw [parseCreateRequest, he] at hr
    cases hr

/-- A request arrives unchanged exactly for a session with a device and without a
    SUPI or network access identifier, with an address of the server, without
    port ranges of the device or ports of the server, and of a duration of 32
    bits. -/
theorem roundTrips_iff : RoundTrips mapper session ↔ Transferable session :=
  ⟨transferable_of_roundTrips hm, roundTrips_of_transferable hm⟩

end RoundTrip

/-! ## Two requests -/

/-- The integer of a value. -/
def intOf : Json → Option ℤ
  | .int n => some n
  | _ => none

/-- The text of a value. -/
def textOf : Json → Option String
  | .str s => some s
  | _ => none

/-- A mapper that writes all fields of a mapping, and reads them back. -/
def fieldMapper : QosProfileMapper where
  serializeQosMapping m := .ofFields
    [("fiveqi", some (.int m.fiveqi)), ("priorityLevel", m.priorityLevel.map .int),
      ("packetDelayBudget", some (.int m.packetDelayBudget)),
      ("packetErrorRate", some (.float m.packetErrorRate)),
      ("maxDataBurst", m.maxDataBurst.map .int), ("isGbr", some (.bool m.isGbr)),
      ("guaranteedUplinkRate", m.guaranteedUplinkRate.map .str),
      ("guaranteedDownlinkRate", m.guaranteedDownlinkRate.map .str),
      ("maxUplinkRate", m.maxUplinkRate.map .str),
      ("maxDownlinkRate", m.maxDownlinkRate.map .str)]
  tryDeserializeQosMapping j := do
    let .float packetErrorRate ← j.find? "packetErrorRate" | none
    let .bool isGbr ← j.find? "isGbr" | none
    let fiveqi ← (j.find? "fiveqi").bind intOf
    let packetDelayBudget ← (j.find? "packetDelayBudget").bind intOf
    return {
      fiveqi, packetDelayBudget, packetErrorRate, isGbr
      priorityLevel := (j.find? "priorityLevel").bind intOf
      maxDataBurst := (j.find? "maxDataBurst").bind intOf
      guaranteedUplinkRate := (j.find? "guaranteedUplinkRate").bind textOf
      guaranteedDownlinkRate := (j.find? "guaranteedDownlinkRate").bind textOf
      maxUplinkRate := (j.find? "maxUplinkRate").bind textOf
      maxDownlinkRate := (j.find? "maxDownlinkRate").bind textOf }
  validateQosMapping m := decide (∀ p ∈ m.priorityLevel, 1 ≤ p ∧ p ≤ 16)

theorem bind_intOf (n : Option ℤ) : (n.map Json.int).bind intOf = n := by cases n <;> rfl

theorem bind_textOf (t : Option String) : (t.map Json.str).bind textOf = t := by cases t <;> rfl

theorem faithful_fieldMapper {mapping : QosProfileMapping}
    (h : ∀ p ∈ mapping.priorityLevel, 1 ≤ p ∧ p ≤ 16) : fieldMapper.Faithful mapping where
  present := by
    rw [fieldMapper]
    dsimp only
    rw [Json.isNull_ofFields]
    rfl
  lossless := by
    rw [fieldMapper]
    dsimp only
    repeat rw [Json.find?_ofFields _ (by simp)]
    simp [List.lookup_cons, intOf, bind_intOf, bind_textOf]
  valid := decide_eq_true h

/-- A request for a phone and a server. -/
def phoneRequest (devicePorts : PortsSpec) : CreateSessionRequest where
  apiConsumerId := "consumer"
  device := some { phoneNumber := some "+49170123456" }
  applicationServer := { ipv4Address := some "203.0.113.5" }
  devicePorts := some devicePorts
  qosProfile := "QOS_E"
  duration := 600

/-- Single ports arrive. -/
theorem roundTrips_ports : ∃ session,
    (QodSessionManager.create {} true "pcf" true).prepareSession
      (phoneRequest { ports := [5000, 5001] }) "session-1" 0 = .ok (some session) ∧
    RoundTrips fieldMapper session := by
  refine ⟨_, rfl, (roundTrips_iff ?_).2 ?_⟩
  · rintro _ ⟨⟩
    exact faithful_fieldMapper (by decide)
  · exact ⟨rfl, rfl, rfl, .inl rfl, rfl, rfl, by decide⟩

/-- A range of ports does not. -/
theorem not_roundTrips_range : ∃ session,
    (QodSessionManager.create {} true "pcf" true).prepareSession
      (phoneRequest { ranges := [⟨5000, 5010⟩] }) "session-1" 0 = .ok (some session) ∧
    ¬RoundTrips fieldMapper session := by
  refine ⟨_, rfl, fun h => ?_⟩
  have ht := transferable_of_roundTrips (by rintro _ ⟨⟩; exact faithful_fieldMapper (by decide)) h
  exact absurd ht.ranges nofun

end QodPcfHandler

end PhineAf

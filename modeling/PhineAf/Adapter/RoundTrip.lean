import PhineAf.Adapter.Client
import PhineAf.Qod.Handler

/-!
# The adapter's request at AF core

The text `QodClient::serialise_create_request` makes of a request, read by the parsers of
`QodHandler::handle_create_session`. The two are written independently, and agree
(`recovers_serialise`): what the adapter asks for is what arrives, if its ports are port
numbers, except that

* a public port that is not positive is absent;
* ports without any ports or ranges, written as null, are absent;
* a device without any identifier, written as null, is absent.
-/

namespace PhineAf.Adapter

open QodHandler

/-! ## What is to be recovered -/

/-- A port number. -/
def IsPort (p : Int32) : Prop := 0 ≤ p.toInt ∧ p.toInt ≤ 65535

structure PortsSpec.InRange (spec : PortsSpec) : Prop where
  ranges : ∀ r ∈ spec.ranges, IsPort r.lo ∧ IsPort r.hi
  ports : ∀ p ∈ spec.ports, IsPort p

/-- The ports of a request are port numbers; the public port of the device may be negative. -/
structure CreateSessionRequest.PortsInRange (req : CreateSessionRequest) : Prop where
  device : ∀ a ∈ req.device.ipv4Address, a.publicPort.toInt ≤ 65535
  devicePorts : ∀ spec ∈ req.devicePorts, spec.InRange
  applicationServerPorts : ∀ spec ∈ req.applicationServerPorts, spec.InRange

/-- The ranges and ports of the adapter, as numbers. -/
def PortsSpec.numbers (spec : PortsSpec) : List (ℤ × ℤ) × List ℤ :=
  (spec.ranges.map fun r => (r.lo.toInt, r.hi.toInt), spec.ports.map (·.toInt))

/-- The ranges and ports of AF core, as numbers. -/
def coreNumbers (spec : PhineAf.PortsSpec) : List (ℤ × ℤ) × List ℤ :=
  (spec.ranges.map fun r => ((r.lo.toNat : ℤ), (r.hi.toNat : ℤ)),
    spec.ports.map fun p => (p.toNat : ℤ))

/-- The same ports: absent, if there are none. -/
def SamePorts (spec : Option PortsSpec) (ports : Option PhineAf.PortsSpec) : Prop :=
  ports.map coreNumbers = (spec.filter (· ≠ {})).map PortsSpec.numbers

/-- The same address, with its public port if that is positive. -/
structure SameAddress (a : DeviceIpv4Addr) (a' : PhineAf.DeviceIpv4Addr) : Prop where
  publicAddress : a'.publicAddress.value = a.publicAddress
  privateAddress : a'.privateAddress = none
  publicPort : a'.publicPort.map (fun p => (p.toNat : ℤ)) =
    if 0 < a.publicPort.toInt then some a.publicPort.toInt else none

/-- The same device: absent, if it has no identifier. -/
inductive SameDevice : Device → Option QodDevice → Prop
  | absent : SameDevice {} none
  | present {d : Device} {d' : QodDevice} : d ≠ {} → d'.phoneNumber = d.phoneNumber →
      d'.networkAccessIdentifier = d.networkAccessIdentifier →
      Option.Rel SameAddress d.ipv4Address d'.ipv4Address → d'.ipv6Address = none →
      SameDevice d (some d')

/-- The parsers of the members of a body recover a request. -/
structure Recovers (req : CreateSessionRequest) (json : Json) : Prop where
  device : ∃ device, deviceMember json = .ok device ∧ SameDevice req.device device
  applicationServer : serverMember json =
    .ok (some { ipv4Address := some req.applicationServer.ipv4Address })
  devicePorts : ∃ ports, portsMember json "devicePorts" = .ok ports ∧
    SamePorts req.devicePorts ports
  applicationServerPorts : ∃ ports, portsMember json "applicationServerPorts" = .ok ports ∧
    SamePorts req.applicationServerPorts ports
  qosProfile : profileMember json = .ok (some req.qosProfile)
  duration : durationMember json = .ok (some req.durationSeconds.toInt)
  sink : sinkMember json = .ok req.sink

/-! ## Ports -/

/-- The port AF core makes of a number. -/
def corePort (p : Int32) : Port := UInt16.ofInt p.toInt

def coreRange (r : PortRange) : PhineAf.PortRange := ⟨corePort r.lo, corePort r.hi⟩

theorem toNat_corePort {p : Int32} (h : IsPort p) : ((corePort p).toNat : ℤ) = p.toInt := by
  obtain ⟨hpos, hle⟩ := h
  rw [corePort, UInt16.ofInt, UInt16.toNat_ofNat']
  omega

theorem parseRange_rangeJson (r : PortRange) :
    QodPcfHandler.parseRange (rangeJson r) = .ok (coreRange r) := rfl

theorem parsePorts_portsJson (spec : PortsSpec) :
    parsePorts (portsJson spec) = .ok (if spec.ports = [] ∧ spec.ranges = [] then none
      else some { ranges := spec.ranges.map coreRange, ports := spec.ports.map corePort }) := by
  have hkeys : (["ports", "ranges"] : List String).Nodup := by decide
  have hnull : (portsJson spec).isNull = (spec.ports.isEmpty && spec.ranges.isEmpty) := by
    rw [portsJson, Json.isNull_ofFields, List.all_cons, List.all_cons, List.all_nil,
      Json.isNone_nonemptyArr, Json.isNone_nonemptyArr, Bool.and_true]
  have hranges : (portsJson spec).find? "ranges" = Json.nonemptyArr rangeJson spec.ranges :=
    Json.find?_ofFields _ hkeys
  have hports : (portsJson spec).find? "ports" =
      Json.nonemptyArr (fun p : Int32 => .int p.toInt) spec.ports :=
    Json.find?_ofFields _ hkeys
  rw [parsePorts, QodPcfHandler.parsePorts]
  rw [hnull, hranges, hports, Json.elements_nonemptyArr, Json.elements_nonemptyArr,
    Json.mapM_map parseRange_rangeJson, Json.mapM_map (g := corePort) fun _ => rfl]
  simp only [Bool.and_eq_true, List.isEmpty_iff]
  split <;> rfl

/-- The numbers of ports stay the same. -/
theorem coreNumbers_core {spec : PortsSpec} (h : spec.InRange) :
    coreNumbers { ranges := spec.ranges.map coreRange, ports := spec.ports.map corePort } =
      spec.numbers := by
  rw [coreNumbers, PortsSpec.numbers]
  dsimp only
  rw [List.map_map, List.map_map]
  refine Prod.ext (List.map_congr_left fun r hr => ?_) (List.map_congr_left fun p hp => ?_)
  · obtain ⟨hlo, hhi⟩ := h.ranges r hr
    exact Prod.ext (toNat_corePort hlo) (toNat_corePort hhi)
  · exact toNat_corePort (h.ports p hp)

theorem portsMember_portsJson {json : Json} {key : String} {spec : Option PortsSpec}
    (hfind : json.find? key = spec.map portsJson) (h : ∀ s ∈ spec, s.InRange) :
    ∃ ports, portsMember json key = .ok ports ∧ SamePorts spec ports := by
  rcases spec with _ | spec
  · refine ⟨none, ?_, rfl⟩
    rw [portsMember, Json.optional, hfind]
    rfl
  · rw [portsMember, Json.optional, hfind]
    refine ⟨_, congrArg (fun r => (r.map some).map Option.join) (parsePorts_portsJson spec), ?_⟩
    rw [SamePorts, Option.join_some]
    by_cases hempty : spec.ports = [] ∧ spec.ranges = []
    · have hspec : spec = {} := by
        rcases spec with ⟨ranges, ports⟩
        obtain ⟨rfl, rfl⟩ := hempty
        rfl
      rw [if_pos hempty, hspec]
      rfl
    · have hspec : spec ≠ {} := by
        rintro rfl
        exact hempty ⟨rfl, rfl⟩
      rw [if_neg hempty, Option.filter_some_pos (by simpa using hspec), Option.map_some,
        Option.map_some, coreNumbers_core (h spec rfl)]

/-! ## The device -/

theorem parseIpv4_ipv4Json {a : DeviceIpv4Addr} (h : a.publicPort.toInt ≤ 65535) :
    ∃ a', QodPcfHandler.parseIpv4 (ipv4Json a) = .ok a' ∧ SameAddress a a' := by
  by_cases hpos : 0 < a.publicPort.toInt
  · refine ⟨{ publicAddress := ⟨a.publicAddress⟩, publicPort := some (corePort a.publicPort) },
      ?_, rfl, rfl, ?_⟩
    · rw [ipv4Json, if_pos hpos]
      rfl
    · rw [if_pos hpos, Option.map_some, toNat_corePort ⟨hpos.le, h⟩]
  · refine ⟨{ publicAddress := ⟨a.publicAddress⟩ }, ?_, rfl, rfl, ?_⟩
    · rw [ipv4Json, if_neg hpos]
      rfl
    · rw [if_neg hpos]
      rfl

theorem parseDevice_deviceJson {d : Device}
    (h : ∀ a ∈ d.ipv4Address, a.publicPort.toInt ≤ 65535) :
    ∃ d', parseDevice (deviceJson d) = .ok d' ∧ SameDevice d d' := by
  have hkeys : (["phoneNumber", "networkAccessIdentifier", "ipv4Address"] : List String).Nodup := by
    decide
  by_cases hempty : d = {}
  · subst hempty
    exact ⟨none, rfl, .absent⟩
  · have hnull : (deviceJson d).isNull = false := by
      rw [deviceJson, Json.isNull_ofFields]
      obtain ⟨phoneNumber, networkAccessIdentifier, ipv4Address⟩ := d
      refine Bool.eq_false_iff.2 fun hall => hempty ?_
      simpa using hall
    have hphone : (deviceJson d).optional "phoneNumber" Json.getStr = .ok d.phoneNumber :=
      Json.optional_str (Json.find?_ofFields _ hkeys)
    have hidentifier : (deviceJson d).optional "networkAccessIdentifier" Json.getStr =
        .ok d.networkAccessIdentifier :=
      Json.optional_str (Json.find?_ofFields _ hkeys)
    have hipv6 : (deviceJson d).optional "ipv6Address" Json.getStr = .ok none :=
      Json.optional_str (s := none) (Json.find?_ofFields _ hkeys)
    obtain ⟨ipv4Address, hipv4, hsame⟩ : ∃ a, (deviceJson d).optional "ipv4Address"
        QodPcfHandler.parseIpv4 = .ok a ∧ Option.Rel SameAddress d.ipv4Address a := by
      have hfind : (deviceJson d).find? "ipv4Address" = d.ipv4Address.map ipv4Json :=
        Json.find?_ofFields _ hkeys
      rw [Json.optional, hfind]
      rcases ha : d.ipv4Address with _ | a
      · exact ⟨none, rfl, .none⟩
      · obtain ⟨a', hread, hsame⟩ := parseIpv4_ipv4Json (h a ha)
        refine ⟨some a', ?_, .some hsame⟩
        rw [Option.map_some, Option.elim_some, hread]
        rfl
    refine ⟨some ⟨d.phoneNumber, d.networkAccessIdentifier, ipv4Address, none⟩, ?_,
      .present hempty rfl rfl hsame rfl⟩
    rw [parseDevice, hnull, hphone, hidentifier, hipv4, hipv6]
    rfl

/-! ## The request -/

/-- The text of a request is read as the request. -/
theorem recovers_serialise {req : CreateSessionRequest} (hports : req.PortsInRange)
    {lib : Json.Library} (hlib : lib.Lossless (createRequestJson req)) :
    ∃ json, lib.parse (serialiseCreateRequest lib req) = .ok json ∧ Recovers req json := by
  have hkeys : ((createRequestFields req).map Prod.fst).Nodup := by
    simp [createRequestFields]
  have hfind : ∀ key, (createRequestJson req).find? key =
      ((createRequestFields req).lookup key).join := fun key => Json.find?_ofFields key hkeys
  refine ⟨createRequestJson req, hlib, ?_, ?_, ?_, ?_, ?_, ?_, ?_⟩
  · obtain ⟨device, hread, hsame⟩ := parseDevice_deviceJson hports.device
    refine ⟨device, ?_, hsame⟩
    rw [deviceMember, Json.optional, hfind]
    exact congrArg (fun r => (r.map some).map Option.join) hread
  · rw [serverMember, Json.optional, hfind]
    rfl
  · exact portsMember_portsJson (hfind _) hports.devicePorts
  · exact portsMember_portsJson (hfind _) hports.applicationServerPorts
  · exact Json.optional_str (s := some req.qosProfile) (hfind _)
  · rw [durationMember, Json.optional, hfind]
    have hlt := req.durationSeconds.toInt_lt
    have hle := req.durationSeconds.le_toInt
    have hmod : req.durationSeconds.toInt.bmod (2 ^ 32) = req.durationSeconds.toInt := by
      rw [Int.bmod_eq_of_le] <;> omega
    exact congrArg (fun n => Except.ok (some n)) hmod
  · exact Json.optional_str (hfind _)

/-- A phone, with an empty specification of its ports. -/
def phoneRequest : CreateSessionRequest where
  device := { phoneNumber := some "+4915112345678" }
  applicationServer := ⟨"10.0.0.2"⟩
  devicePorts := some {}
  applicationServerPorts := some { ports := [443] }
  qosProfile := "QOS_E"

/-- The text of `phoneRequest`. -/
def phoneText : String :=
  "\x7b\"applicationServer\":\x7b\"ipv4Address\":\"10.0.0.2\"\x7d," ++
    "\"applicationServerPorts\":\x7b\"ports\":[443]\x7d," ++
    "\"device\":\x7b\"phoneNumber\":\"+4915112345678\"\x7d,\"devicePorts\":null," ++
    "\"duration\":3600,\"qosProfile\":\"QOS_E\"\x7d"

/-- A library that knows this text. -/
def phoneLibrary : Json.Library where
  dump _ := phoneText
  parse s := if s = phoneText then .ok (createRequestJson phoneRequest) else .error "parse error"
  what _ := ""

theorem recovers_phoneRequest : ∃ json,
    phoneLibrary.parse (serialiseCreateRequest phoneLibrary phoneRequest) = .ok json ∧
      Recovers phoneRequest json := by
  have hlossless : phoneLibrary.Lossless (createRequestJson phoneRequest) := by
    simp only [Json.Library.Lossless, phoneLibrary, if_true]
  refine recovers_serialise ⟨fun a ha => (by cases ha), fun spec hspec => ?_, fun spec hspec => ?_⟩
    hlossless
  · obtain rfl := Option.mem_some.1 hspec
    exact ⟨nofun, nofun⟩
  · obtain rfl := Option.mem_some.1 hspec
    refine ⟨nofun, fun p hp => ?_⟩
    obtain rfl := List.mem_singleton.1 hp
    exact ⟨by decide, by decide⟩

end PhineAf.Adapter

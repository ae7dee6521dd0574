import PhineAf.Ue.Key

/-!
# UE states

What is known of one UE: its key and identifiers, its PDU sessions with their
addresses and the QoD sessions active on them, and the network data reported
for it. The mutators follow the class; a mutator that reads the clock takes its
reading as the argument `now`.
-/

namespace PhineAf

/-! ## Identifiers of the secondary indices -/

/-- The secondary indices of the UE store that are written. -/
inductive IndexKind
  | supi
  | gpsi
  | ipv4Addr
  | ipv6Addr
  | ipv6Prefix
  deriving DecidableEq, Repr

/-- An identifier a UE can be looked up by: an index and a value in it. -/
structure Identifier where
  kind : IndexKind
  value : String
  deriving DecidableEq, Repr

/-! ## PDU sessions -/

structure PduSessionData where
  pduSessionId : String := ""
  dnn : String := ""
  snssai : Option Snssai := none
  pduSessionType : String := ""
  status : String := ""
  statusTimestamp : Option ℤ := none
  ueIpv4Address : Option Ipv4Addr := none
  ueIpv6Prefixes : List Ipv6Prefix := []
  ueIpv6Addresses : List Ipv6Addr := []
  ueMacAddress : Option MacAddr48 := none
  ipAddressTimestamp : Option ℤ := none
  publicPortNumber : Option ℤ := none
  dnai : Option String := none
  dnaiTimestamp : Option ℤ := none
  n6TrafficRoutingInfo : List RouteToLocation := []
  n6TrafficRoutingInfoTimestamp : Option ℤ := none
  /-- A set, without repetitions. -/
  activeQodSessionIds : List String := []
  deriving DecidableEq, Repr

namespace PduSessionData

/-- The indexed addresses of a PDU session, in the order they are indexed. -/
def identifiers (p : PduSessionData) : List Identifier :=
  p.ueIpv4Address.toList.map (⟨.ipv4Addr, ·.value⟩) ++
    p.ueIpv6Prefixes.map (⟨.ipv6Prefix, ·.value⟩) ++ p.ueIpv6Addresses.map (⟨.ipv6Addr, ·.value⟩)

end PduSessionData

/-! ## UE states -/

inductive ResolutionState
  | provisional
  | partiallyResolved
  | resolved
  deriving DecidableEq, Repr

structure AfUeSubscriptionState where
  ueKey : UeKey
  supi : Option Supi := none
  gpsi : Option Gpsi := none
  resolutionState : ResolutionState
  supiResolvedAt : Option ℤ := none
  knownIpv4Addresses : List String := []
  knownIpv6Addresses : List String := []
  knownGpsiValues : List String := []
  knownIpv6Prefixes : List String := []
  knownMacAddresses : List String := []
  locationInfo : Option UeLocationInfo := none
  locationTimestamp : Option ℤ := none
  accessMobilityData : Option UeAccessMobilityData := none
  pduSessions : List PduSessionData := []
  uePolicyDataInfo : Option String := none
  prosePduidInformation : Option PduidInformation := none
  timeSyncServiceAvailableAndCapable : Option Bool := none
  serviceAreaCoverageAllowed : List ServiceAreaCoverageInfo := []
  highThroughputDesiredForUeTraffic : Option Bool := none
  createdAt : ℤ
  lastUpdated : ℤ
  lastActivity : Option ℤ := none
  deriving DecidableEq

namespace AfUeSubscriptionState

/-- The constructor from a key: a provisional state. -/
def ofKey (key : UeKey) (now : ℤ) : AfUeSubscriptionState where
  ueKey := key
  resolutionState := .provisional
  createdAt := now
  lastUpdated := now

/-- The constructor from a SUPI: a resolved state. -/
def ofSupi (supi : Supi) (now : ℤ) : Except Exn AfUeSubscriptionState := do
  let key ← UeKey.fromSupi supi
  return {
    ueKey := key
    supi := some supi
    resolutionState := .resolved
    supiResolvedAt := some now
    createdAt := now
    lastUpdated := now }

/-- The identifiers `add_ue_indices` indexes, in its order. -/
def identifiers (st : AfUeSubscriptionState) : List Identifier :=
  st.supi.toList.map (⟨.supi, ·.value⟩) ++ st.gpsi.toList.map (⟨.gpsi, ·.value⟩) ++
    st.pduSessions.flatMap PduSessionData.identifiers

/-- The primary key of the key of the state. -/
def primaryKey (st : AfUeSubscriptionState) : String := st.ueKey.getPrimaryKey

variable (now : ℤ) (st : AfUeSubscriptionState)

/-- `touch`. -/
def touch : AfUeSubscriptionState := { st with lastUpdated := now }

/-- `set_gpsi`. -/
def setGpsi (gpsi : Gpsi) : AfUeSubscriptionState := { st with gpsi := some gpsi }.touch now

/-- `set_location_info`. -/
def setLocationInfo (info : UeLocationInfo) : AfUeSubscriptionState :=
  { st with locationInfo := some info, locationTimestamp := some now }.touch now

/-- `set_access_mobility_data`. -/
def setAccessMobilityData (data : UeAccessMobilityData) : AfUeSubscriptionState :=
  { st with accessMobilityData := some data }.touch now

/-- `set_ue_policy_data_info`. -/
def setUePolicyDataInfo (info : String) : AfUeSubscriptionState :=
  { st with uePolicyDataInfo := some info }.touch now

/-- `set_prose_pduid_information`. -/
def setProsePduidInformation (info : PduidInformation) : AfUeSubscriptionState :=
  { st with prosePduidInformation := some info }.touch now

/-- `set_time_sync_service_available_and_capable`. -/
def setTimeSyncServiceAvailableAndCapable (available : Bool) : AfUeSubscriptionState :=
  { st with timeSyncServiceAvailableAndCapable := some available }.touch now

/-- `set_service_area_coverage_allowed`. -/
def setServiceAreaCoverageAllowed (coverage : List ServiceAreaCoverageInfo) :
    AfUeSubscriptionState :=
  { st with serviceAreaCoverageAllowed := coverage }.touch now

/-- `set_high_throughput_desired_for_ue_traffic`. -/
def setHighThroughputDesiredForUeTraffic (desired : Bool) : AfUeSubscriptionState :=
  { st with highThroughputDesiredForUeTraffic := some desired }.touch now

/-- `record_activity`. -/
def recordActivity : AfUeSubscriptionState := { st with lastActivity := some now }.touch now

/-- The assignments of `resolve_supi`. -/
def assignSupi (key : UeKey) (supi : Supi) : AfUeSubscriptionState :=
  { st with
    ueKey := key
    supi := some supi
    resolutionState := .resolved
    supiResolvedAt := some now }.touch now

/-- `resolve_supi`: it only acts on a state without a SUPI. The format of the
    SUPI is checked when the key is replaced. -/
def resolveSupi (supi : Supi) : Except Exn AfUeSubscriptionState :=
  if st.supi.isSome then .ok st
  else if st.ueKey.canPromoteToSupi then .ok (st.assignSupi now st.ueKey.promoteToSupi supi)
  else return st.assignSupi now (← UeKey.fromSupi supi) supi

/-- The types of the alternative identifiers of a UE, as texts in the source:
    `"ipv4"`, `"ipv6"`, `"gpsi"`, `"ipv6_prefix"`, `"mac"`, or any other. -/
inductive KnownType
  | ipv4
  | ipv6
  | gpsi
  | ipv6Prefix
  | mac
  | unknown
  deriving DecidableEq, Repr

/-- The known identifiers of a type. -/
def known : KnownType → List String
  | .ipv4 => st.knownIpv4Addresses
  | .ipv6 => st.knownIpv6Addresses
  | .gpsi => st.knownGpsiValues
  | .ipv6Prefix => st.knownIpv6Prefixes
  | .mac => st.knownMacAddresses
  | .unknown => []

/-- The known identifiers of a type are replaced. -/
def setKnown : KnownType → List String → AfUeSubscriptionState
  | .ipv4, l => { st with knownIpv4Addresses := l }
  | .ipv6, l => { st with knownIpv6Addresses := l }
  | .gpsi, l => { st with knownGpsiValues := l }
  | .ipv6Prefix, l => { st with knownIpv6Prefixes := l }
  | .mac, l => { st with knownMacAddresses := l }
  | .unknown, _ => st

/-- The type of a key based on an identifier of a type. -/
def KnownType.keyType : KnownType → Option KeyType
  | .ipv4 => some .ipv4Based
  | .ipv6 => some .ipv6Based
  | .gpsi => some .gpsiBased
  | .ipv6Prefix => some .ipv6PrefixBased
  | .mac => some .macAddrBased
  | .unknown => none

/-- `add_known_identifier`: whether it was new, and the state. -/
def addKnownIdentifier (type : KnownType) (value : String) : Bool × AfUeSubscriptionState :=
  if type ≠ .unknown ∧ value ∉ st.known type then
    (true, (st.setKnown type (st.known type ++ [value])).touch now)
  else (false, st)

/-- `remove_known_identifier`: whether it was known, and the state. The key is
    demoted when the last identifier of its own type goes. -/
def removeKnownIdentifier (type : KnownType) (value : String) : Bool × AfUeSubscriptionState :=
  if value ∈ st.known type then
    let rest := (st.known type).erase value
    let shouldDemote := type.keyType = some st.ueKey.type ∧ rest.isEmpty
    let st' := st.setKnown type rest
    let st' := if shouldDemote then { st' with ueKey := st'.ueKey.demoteToComposite } else st'
    (true, st'.touch now)
  else (false, st)

/-- A PDU session replaces the first one with its id, or is appended. -/
def putPduSession (pdu : PduSessionData) (l : List PduSessionData) : List PduSessionData :=
  (List.replaceFirst? (·.pduSessionId == pdu.pduSessionId) (fun _ => pdu) l).getD (l ++ [pdu])

/-- `add_or_update_pdu_session` of the class. -/
def addOrUpdatePduSession (pdu : PduSessionData) : AfUeSubscriptionState :=
  { st with pduSessions := putPduSession pdu st.pduSessions }.touch now

/-- `remove_pdu_session` of the class. -/
def removePduSession (pduSessionId : String) : Bool × AfUeSubscriptionState :=
  if st.pduSessions.any (·.pduSessionId == pduSessionId) then
    (true, { st with pduSessions := st.pduSessions.eraseP (·.pduSessionId == pduSessionId) }.touch now)
  else (false, st)

/-! ## What the indices see of a change

Most mutators change neither the identifiers nor the key. -/

@[simp]
theorem identifiers_touch : (st.touch now).identifiers = st.identifiers := rfl

@[simp]
theorem primaryKey_touch : (st.touch now).primaryKey = st.primaryKey := rfl

@[simp]
theorem identifiers_recordActivity : (st.recordActivity now).identifiers = st.identifiers := rfl

@[simp]
theorem primaryKey_ofKey (key : UeKey) : (ofKey key now).primaryKey = key.getPrimaryKey := rfl

theorem identifiers_setKnown (type : KnownType) (l : List String) :
    (st.setKnown type l).identifiers = st.identifiers := by
  cases type <;> rfl

theorem ueKey_setKnown (type : KnownType) (l : List String) :
    (st.setKnown type l).ueKey = st.ueKey := by
  cases type <;> rfl

theorem primaryKey_addKnownIdentifier (type : KnownType) (value : String) :
    (st.addKnownIdentifier now type value).2.primaryKey = st.primaryKey := by
  rw [addKnownIdentifier]
  split_ifs
  · rw [primaryKey_touch, primaryKey, ueKey_setKnown, primaryKey]
  · rfl

theorem identifiers_removeKnownIdentifier (type : KnownType) (value : String) :
    (st.removeKnownIdentifier now type value).2.identifiers = st.identifiers := by
  rw [removeKnownIdentifier]
  split
  · rw [identifiers_touch]
    split
    · exact identifiers_setKnown st type _
    · exact identifiers_setKnown st type _
  · rfl

/-- Demotion does not move a state to another key. -/
theorem primaryKey_removeKnownIdentifier (type : KnownType) (value : String) :
    (st.removeKnownIdentifier now type value).2.primaryKey = st.primaryKey := by
  rw [removeKnownIdentifier]
  split
  · rw [primaryKey_touch]
    split
    · simp only [primaryKey, UeKey.getPrimaryKey_demoteToComposite, ueKey_setKnown]
    · simp only [primaryKey, ueKey_setKnown]
  · rfl

/-- An identifier is removed exactly if it was known. -/
theorem removeKnownIdentifier_fst_iff (type : KnownType) (value : String) :
    (st.removeKnownIdentifier now type value).1 = true ↔ value ∈ st.known type := by
  rw [removeKnownIdentifier]
  split
  next h => exact iff_of_true rfl h
  next h => exact iff_of_false Bool.false_ne_true h

/-- A PDU session of the list has the address `x`. -/
def HasAddress (l : List PduSessionData) (x : Identifier) : Prop := ∃ pdu ∈ l, x ∈ pdu.identifiers

@[simp]
theorem hasAddress_cons {l : List PduSessionData} {pdu : PduSessionData} {x : Identifier} :
    HasAddress (pdu :: l) x ↔ x ∈ pdu.identifiers ∨ HasAddress l x := by
  simp [HasAddress]

theorem hasAddress_append {l l' : List PduSessionData} {x : Identifier} :
    HasAddress (l ++ l') x ↔ HasAddress l x ∨ HasAddress l' x := by
  simp only [HasAddress, List.mem_append, or_and_right, exists_or]

theorem hasAddress_perm {l l' : List PduSessionData} (h : l.Perm l') {x : Identifier} :
    HasAddress l x ↔ HasAddress l' x := by
  simp only [HasAddress, h.mem_iff]

theorem mem_identifiers {x : Identifier} : x ∈ st.identifiers ↔
    (∃ supi, st.supi = some supi ∧ x = ⟨.supi, supi.value⟩) ∨
      (∃ gpsi, st.gpsi = some gpsi ∧ x = ⟨.gpsi, gpsi.value⟩) ∨ HasAddress st.pduSessions x := by
  simp only [identifiers, List.mem_append, List.mem_map, Option.mem_toList, List.mem_flatMap,
    HasAddress, or_assoc, eq_comm (a := x)]

/-- A state whose PDU sessions are replaced by ones with the same addresses
    carries the same identifiers. -/
theorem mem_identifiers_congr {st st' : AfUeSubscriptionState} {x : Identifier}
    (hsupi : st'.supi = st.supi) (hgpsi : st'.gpsi = st.gpsi)
    (hpdus : HasAddress st'.pduSessions x ↔ HasAddress st.pduSessions x) :
    x ∈ st'.identifiers ↔ x ∈ st.identifiers := by
  rw [mem_identifiers, mem_identifiers, hsupi, hgpsi, hpdus]

/-- The addresses of PDU sessions are not SUPIs or GPSIs. -/
theorem HasAddress.kind {l : List PduSessionData} {x : Identifier} (h : HasAddress l x) :
    x.kind ≠ .supi ∧ x.kind ≠ .gpsi := by
  obtain ⟨pdu, -, h⟩ := h
  simp only [PduSessionData.identifiers, List.mem_append, List.mem_map] at h
  rcases h with (⟨_, _, rfl⟩ | ⟨_, _, rfl⟩) | ⟨_, _, rfl⟩ <;> exact ⟨nofun, nofun⟩

/-- So a state carries an address only on a PDU session. -/
theorem HasAddress.mem_identifiers_iff {l : List PduSessionData} {x : Identifier}
    (h : HasAddress l x) : x ∈ st.identifiers ↔ HasAddress st.pduSessions x := by
  rw [mem_identifiers]
  refine ⟨?_, fun hx => .inr (.inr hx)⟩
  rintro (⟨_, -, rfl⟩ | ⟨_, -, rfl⟩ | hx)
  · exact absurd rfl h.kind.1
  · exact absurd rfl h.kind.2
  · exact hx

/-! ## PDU sessions put under their id -/

section PutPduSession

variable {pdu : PduSessionData} {l : List PduSessionData}

/-- Without a session of the id, a PDU session is added. -/
theorem putPduSession_of_find?_eq_none (h : l.find? (·.pduSessionId == pdu.pduSessionId) = none) :
    putPduSession pdu l = l ++ [pdu] := by
  rw [putPduSession, List.replaceFirst?_eq_none.2 h, Option.getD_none]

/-- With a session of the id, a PDU session takes the place of the first. -/
theorem putPduSession_perm {old : PduSessionData}
    (h : l.find? (·.pduSessionId == pdu.pduSessionId) = some old) :
    (putPduSession pdu l).Perm (pdu :: l.eraseP (·.pduSessionId == pdu.pduSessionId)) := by
  cases hr : List.replaceFirst? (·.pduSessionId == pdu.pduSessionId) (fun _ => pdu) l with
  | none =>
    rw [List.replaceFirst?_eq_none, h] at hr
    cases hr
  | some l' =>
    obtain ⟨_, -, -, hp⟩ := List.replaceFirst?_perm hr
    rwa [putPduSession, hr, Option.getD_some]

theorem putPduSession_cons (p : PduSessionData) :
    putPduSession pdu (p :: l) =
      if p.pduSessionId == pdu.pduSessionId then pdu :: l else p :: putPduSession pdu l := by
  rw [putPduSession, List.replaceFirst?]
  split_ifs
  · rfl
  · cases h : List.replaceFirst? (·.pduSessionId == pdu.pduSessionId) (fun _ => pdu) l <;>
      simp [putPduSession, h]

theorem find?_putPduSession (id : String) :
    (putPduSession pdu l).find? (·.pduSessionId == id) =
      if pdu.pduSessionId = id then some pdu else l.find? (·.pduSessionId == id) := by
  induction l with
  | nil => by_cases h : pdu.pduSessionId = id <;> simp [putPduSession, List.replaceFirst?, h]
  | cons p l ih =>
    rw [putPduSession_cons]
    by_cases hp : p.pduSessionId = pdu.pduSessionId
    · by_cases h : pdu.pduSessionId = id <;> simp [hp, h]
    · rw [if_neg (by simpa using hp), List.find?_cons, List.find?_cons, ih]
      by_cases h : pdu.pduSessionId = id
      · have hid : (p.pduSessionId == id) = false := by simpa using h ▸ hp
        simp [h, hid]
      · simp [h]

/-- The session first found under `id` has the address `x`. -/
def FoundAddress (l : List PduSessionData) (id : String) (x : Identifier) : Prop :=
  ∃ old, l.find? (·.pduSessionId == id) = some old ∧ x ∈ old.identifiers

/-- A PDU session with the addresses of the one whose place it takes changes no
    address. -/
theorem hasAddress_putPduSession_of_same
    (h : ∀ x, x ∈ pdu.identifiers ↔ FoundAddress l pdu.pduSessionId x) (x : Identifier) :
    HasAddress (putPduSession pdu l) x ↔ HasAddress l x := by
  cases hf : l.find? (·.pduSessionId == pdu.pduSessionId) with
  | none =>
    have hx : ¬HasAddress [pdu] x := by simp [HasAddress, h, FoundAddress, hf]
    rw [putPduSession_of_find?_eq_none hf, hasAddress_append, or_iff_left hx]
  | some old =>
    have hx : x ∈ pdu.identifiers ↔ x ∈ old.identifiers := by simp [h, FoundAddress, hf]
    rw [hasAddress_perm (putPduSession_perm hf), hasAddress_perm (List.perm_cons_eraseP hf),
      hasAddress_cons, hasAddress_cons, hx]

theorem foundAddress_putPduSession_of_same
    (h : ∀ x, x ∈ pdu.identifiers ↔ FoundAddress l pdu.pduSessionId x) (id : String)
    (x : Identifier) : FoundAddress (putPduSession pdu l) id x ↔ FoundAddress l id x := by
  rw [FoundAddress, find?_putPduSession]
  split_ifs with hid
  · simp [← hid, ← h]
  · rfl

/-- The same for a whole list of PDU sessions put one after the other. -/
theorem hasAddress_foldl_putPduSession_of_same {pdus : List PduSessionData}
    (h : ∀ pdu ∈ pdus, ∀ x, x ∈ pdu.identifiers ↔ FoundAddress l pdu.pduSessionId x)
    (x : Identifier) :
    HasAddress (pdus.foldl (fun l pdu => putPduSession pdu l) l) x ↔ HasAddress l x := by
  induction pdus generalizing l with
  | nil => rfl
  | cons pdu pdus ih =>
    obtain ⟨hpdu, hpdus⟩ := List.forall_mem_cons.1 h
    rw [List.foldl_cons, ih, hasAddress_putPduSession_of_same hpdu]
    intro p hp y
    rw [hpdus p hp y, foundAddress_putPduSession_of_same hpdu]

end PutPduSession

end AfUeSubscriptionState

end PhineAf

import PhineAf.Lib.Index
import PhineAf.Lib.System
import PhineAf.Ue.State

/-!
# The UE store

`UeStateManager` without its lock: the UE states under the primary keys of
their keys, and the secondary indices by SUPI, GPSI, IPv4 address, IPv6 address
and IPv6 prefix, here one index on tagged identifiers. (The indices by MAC
address and by PDU session id are declared but never written.)

The operations are those of the class, in its order, as functions of the
store. `UeOp` lists the public operations with their arguments and
`UeStore.perform` runs one; a run of the store is a sequence of operations from
the empty store (`ueSystem`). An operation that throws leaves the store as it
is; one with undefined behaviour has no next store.
-/

namespace PhineAf

/-- The UE store: `ue_states_by_key_`, and the maps `key_by_…_` as one index. -/
abbrev UeStore := Indexed String AfUeSubscriptionState Identifier

namespace UeStore

/-! ## Indices -/

/-- `add_ue_indices`. -/
def addUeIndices (st : AfUeSubscriptionState) (s : UeStore) : UeStore :=
  { s with index := link st.primaryKey st.identifiers s.index }

/-- `remove_ue_indices`: the entries go whoever they point to. -/
def removeUeIndices (st : AfUeSubscriptionState) (s : UeStore) : UeStore :=
  { s with index := unlink st.identifiers s.index }

/-- `add_pdu_session_indices`. -/
def addPduSessionIndices (key : String) (pdu : PduSessionData) (s : UeStore) : UeStore :=
  { s with index := link key pdu.identifiers s.index }

/-- `remove_pdu_session_indices`: only the entries pointing to the UE go. -/
def removePduSessionIndices (key : String) (pdu : PduSessionData) (s : UeStore) : UeStore :=
  { s with index := unlinkOwned key pdu.identifiers s.index }

/-- A state is stored under a key. -/
def put (key : String) (st : AfUeSubscriptionState) (s : UeStore) : UeStore :=
  { s with states := s.states.insert key st }

/-- The state under a key is erased. -/
def drop (key : String) (s : UeStore) : UeStore := { s with states := s.states.erase key }

/-! ## Core operations -/

/-- `update_ue_state`. -/
def updateUeState (st : AfUeSubscriptionState) (s : UeStore) : UeStore :=
  match s.states.lookup st.primaryKey with
  | some old => ((s.removeUeIndices old).put st.primaryKey st).addUeIndices st
  | none => (s.put st.primaryKey st).addUeIndices st

/-- The data of `initial_data` that `create_or_update_provisional_ue_state`
    takes over into an existing state. -/
def mergeInitialData (now : ℤ) (st data : AfUeSubscriptionState) : AfUeSubscriptionState :=
  let st := data.gpsi.elim st (st.setGpsi now)
  let st := data.locationInfo.elim st (st.setLocationInfo now)
  let st := data.accessMobilityData.elim st (st.setAccessMobilityData now)
  let st := data.uePolicyDataInfo.elim st (st.setUePolicyDataInfo now)
  data.pduSessions.foldl (fun st pdu => st.addOrUpdatePduSession now pdu) st

/-- `create_or_update_provisional_ue_state`: an existing state takes over the
    initial data without any change of the indices; a new one is stored as it
    is given, under the key. -/
def createOrUpdateProvisionalUeState (key : UeKey) (initialData : Option AfUeSubscriptionState)
    (now : ℤ) (s : UeStore) : UeStore :=
  match s.states.lookup key.getPrimaryKey with
  | some st => initialData.elim s fun data => s.put key.getPrimaryKey (mergeInitialData now st data)
  | none =>
    let st := initialData.getD (.ofKey key now)
    (s.put key.getPrimaryKey st).addUeIndices st

/-- The known identifiers of the types `merge_ue_states` looks at are added. -/
def mergeKnown (now : ℤ) (st other : AfUeSubscriptionState) : AfUeSubscriptionState :=
  let add (type : AfUeSubscriptionState.KnownType) (st : AfUeSubscriptionState) :=
    (other.known type).foldl (fun st v => (st.addKnownIdentifier now type v).2) st
  add .gpsi (add .ipv6 (add .ipv4 st))

/-- The PDU sessions of another state with new ids are appended. -/
def mergePduSessions (l : List PduSessionData) (other : List PduSessionData) :
    List PduSessionData :=
  other.foldl (fun l pdu => if l.any (·.pduSessionId == pdu.pduSessionId) then l else l ++ [pdu]) l

/-- The state `merge_ue_states` leaves under the primary key. -/
def mergedState (now : ℤ) (st other : AfUeSubscriptionState) : AfUeSubscriptionState :=
  let st := mergeKnown now st other
  let pdus := mergePduSessions st.pduSessions other.pduSessions
  let modified := pdus.length ≠ st.pduSessions.length
  let st := { st with pduSessions := pdus }
  if modified then st.recordActivity now else st

/-- `merge_ue_states`. With twice the same key, the state is erased and then
    indexed through the dangling reference. -/
def mergeUeStates (primaryKey secondaryKey : UeKey) (now : ℤ) (s : UeStore) :
    Except Exn (Bool × UeStore) :=
  match s.states.lookup primaryKey.getPrimaryKey, s.states.lookup secondaryKey.getPrimaryKey with
  | some st, some other =>
    if primaryKey.getPrimaryKey = secondaryKey.getPrimaryKey then .error .useAfterErase
    else
      let merged := mergedState now st other
      let s := (s.removeUeIndices st).removeUeIndices other
      let s := (s.put primaryKey.getPrimaryKey merged).drop secondaryKey.getPrimaryKey
      .ok (true, s.addUeIndices merged)
  | _, _ => .ok (false, s)

/-- `promote_ue_state_to_resolved`. -/
def promoteUeStateToResolved (currentKey : UeKey) (supi : Supi) (now : ℤ) (s : UeStore) :
    Except Exn (Bool × UeStore) :=
  match s.states.lookup currentKey.getPrimaryKey with
  | none => .ok (false, s)
  | some st => do
    let supiKey ← UeKey.fromSupi supi
    if currentKey.getPrimaryKey = supiKey.getPrimaryKey then
      -- Already SUPI-based: the state is resolved, the indices stay.
      let st' ← st.resolveSupi now supi
      return (true, s.put currentKey.getPrimaryKey st')
    else if (s.states.lookup supiKey.getPrimaryKey).isSome then
      s.mergeUeStates supiKey currentKey now
    else
      let st' ← st.resolveSupi now supi
      let s := ((s.removeUeIndices st).drop currentKey.getPrimaryKey).put supiKey.getPrimaryKey st'
      return (true, s.addUeIndices st')

/-- `remove_ue_state`. -/
def removeUeState (key : UeKey) (s : UeStore) : Bool × UeStore :=
  match s.states.lookup key.getPrimaryKey with
  | some st => (true, (s.removeUeIndices st).drop key.getPrimaryKey)
  | none => (false, s)

/-! ## Lookups -/

/-- `get_all_ue_states`. -/
def getAllUeStates (s : UeStore) : List AfUeSubscriptionState := s.states.values

/-- `get_ue_state_by_key`. -/
def getUeStateByKey (key : UeKey) (s : UeStore) : Option AfUeSubscriptionState :=
  s.states.lookup key.getPrimaryKey

/-- `get_ue_state_by_supi`: through the index. -/
def getUeStateBySupi (supi : Supi) (s : UeStore) : Option AfUeSubscriptionState :=
  (s.index.lookup ⟨.supi, supi.value⟩).bind s.states.lookup

/-- The lookups by GPSI, IPv4 address, IPv6 address and IPv6 prefix: when the
    index has the identifier, the state under the key *built from the
    identifier*. -/
def getUeStateBy (x : Identifier) (key : Except Exn UeKey) (s : UeStore) :
    Except Exn (Option AfUeSubscriptionState) :=
  if (s.index.lookup x).isSome then return s.getUeStateByKey (← key) else return none

/-- `get_ue_state_by_gpsi`. -/
def getUeStateByGpsi (gpsi : Gpsi) : UeStore → Except Exn (Option AfUeSubscriptionState) :=
  getUeStateBy ⟨.gpsi, gpsi.value⟩ (UeKey.fromGpsi gpsi)

/-- `get_ue_state_by_ipv4`. -/
def getUeStateByIpv4 (ipv4 : Ipv4Addr) : UeStore → Except Exn (Option AfUeSubscriptionState) :=
  getUeStateBy ⟨.ipv4Addr, ipv4.value⟩ (UeKey.fromIpv4 ipv4)

/-- `get_ue_state_by_ipv6_addr`. -/
def getUeStateByIpv6Addr (ipv6 : Ipv6Addr) : UeStore → Except Exn (Option AfUeSubscriptionState) :=
  getUeStateBy ⟨.ipv6Addr, ipv6.value⟩ (UeKey.fromIpv6 ipv6)

/-- `get_ue_state_by_ipv6_prefix`. -/
def getUeStateByIpv6Prefix (ipv6Prefix : Ipv6Prefix) :
    UeStore → Except Exn (Option AfUeSubscriptionState) :=
  getUeStateBy ⟨.ipv6Prefix, ipv6Prefix.value⟩ (UeKey.fromIpv6Prefix ipv6Prefix)

/-- `get_ue_state_by_mac_addr`. -/
def getUeStateByMacAddr (mac : MacAddr48) (s : UeStore) : Option AfUeSubscriptionState :=
  s.getAllUeStates.find? fun st => st.pduSessions.any fun pdu => pdu.ueMacAddress == some mac

/-- `get_ue_state_by_pdu_session_id`. -/
def getUeStateByPduSessionId (pduSessionId : String) (s : UeStore) :
    Option AfUeSubscriptionState :=
  s.getAllUeStates.find? fun st => st.pduSessions.any fun pdu => pdu.pduSessionId == pduSessionId

/-! ## Updates -/

/-- `update_ue_gpsi`: the entry of the old GPSI goes whoever it points to. -/
def updateUeGpsi (key : UeKey) (gpsi : Gpsi) (now : ℤ) (s : UeStore) : Bool × UeStore :=
  match s.states.lookup key.getPrimaryKey with
  | some st =>
    let old := st.gpsi.toList.map fun g => (⟨.gpsi, g.value⟩ : Identifier)
    let index := link key.getPrimaryKey [⟨.gpsi, gpsi.value⟩] (unlink old s.index)
    (true, { states := s.states.insert key.getPrimaryKey (st.setGpsi now gpsi), index })
  | none => (false, s)

/-- The updates of one datum of a UE, found by its key: the location, the
    access and mobility data, the policy data, and so on. -/
def updateUe (key : UeKey) (f : AfUeSubscriptionState → AfUeSubscriptionState) (s : UeStore) :
    Bool × UeStore :=
  match s.states.lookup key.getPrimaryKey with
  | some st => (true, s.put key.getPrimaryKey (f st))
  | none => (false, s)

/-- `update_ue_location_info`. -/
def updateUeLocationInfo (key : UeKey) (info : UeLocationInfo) (now : ℤ) :
    UeStore → Bool × UeStore :=
  updateUe key (·.setLocationInfo now info)

/-- `update_ue_access_mobility_data`. -/
def updateUeAccessMobilityData (key : UeKey) (data : UeAccessMobilityData) (now : ℤ) :
    UeStore → Bool × UeStore :=
  updateUe key (·.setAccessMobilityData now data)

/-- `update_ue_policy_data_info`. -/
def updateUePolicyDataInfo (key : UeKey) (data : String) (now : ℤ) : UeStore → Bool × UeStore :=
  updateUe key (·.setUePolicyDataInfo now data)

/-- `update_prose_pduid_information`. -/
def updateProsePduidInformation (key : UeKey) (info : PduidInformation) (now : ℤ) :
    UeStore → Bool × UeStore :=
  updateUe key (·.setProsePduidInformation now info)

/-- `update_time_sync_service_availability`. -/
def updateTimeSyncServiceAvailability (key : UeKey) (available : Bool) (now : ℤ) :
    UeStore → Bool × UeStore :=
  updateUe key (·.setTimeSyncServiceAvailableAndCapable now available)

/-- `update_service_area_coverage_allowed`. -/
def updateServiceAreaCoverageAllowed (key : UeKey) (coverage : List ServiceAreaCoverageInfo)
    (now : ℤ) : UeStore → Bool × UeStore :=
  updateUe key (·.setServiceAreaCoverageAllowed now coverage)

/-- `update_high_throughput_desired`. -/
def updateHighThroughputDesired (key : UeKey) (desired : Bool) (now : ℤ) :
    UeStore → Bool × UeStore :=
  updateUe key (·.setHighThroughputDesiredForUeTraffic now desired)

/-- `add_or_update_pdu_session`. -/
def addOrUpdatePduSession (key : UeKey) (pdu : PduSessionData) (now : ℤ) (s : UeStore) :
    Bool × UeStore :=
  match s.states.lookup key.getPrimaryKey with
  | none => (false, s)
  | some st =>
    let st' := { st with
      pduSessions := AfUeSubscriptionState.putPduSession pdu st.pduSessions }.recordActivity now
    match st.pduSessions.find? (·.pduSessionId == pdu.pduSessionId) with
    | some old =>
      let s := s.removePduSessionIndices key.getPrimaryKey old
      (true, (s.put key.getPrimaryKey st').addPduSessionIndices key.getPrimaryKey pdu)
    | none => (true, (s.put key.getPrimaryKey st').addPduSessionIndices key.getPrimaryKey pdu)

/-- `remove_pdu_session`, with the event it publishes: that the PDU session of
    a UE with a SUPI is terminated. -/
def removePduSession (key : UeKey) (pduSessionId : String) (now : ℤ) (s : UeStore) :
    Bool × Option (Supi × String) × UeStore :=
  match s.states.lookup key.getPrimaryKey with
  | none => (false, none, s)
  | some st =>
    match st.pduSessions.find? (·.pduSessionId == pduSessionId) with
    | none => (false, none, s)
    | some old =>
      let st' := { st with
        pduSessions := st.pduSessions.eraseP (·.pduSessionId == pduSessionId) }.recordActivity now
      let s := s.removePduSessionIndices key.getPrimaryKey old
      (true, st.supi.map (·, pduSessionId), s.put key.getPrimaryKey st')

/-- `remove_non_primary_ue_identifier`. -/
def removeNonPrimaryUeIdentifier (key : UeKey) (type : AfUeSubscriptionState.KnownType)
    (value : String) (now : ℤ) (s : UeStore) : Bool × UeStore :=
  match s.states.lookup key.getPrimaryKey with
  | none => (false, s)
  | some st =>
    match st.removeKnownIdentifier now type value with
    | (true, st') => (true, ((s.put key.getPrimaryKey st').removeUeIndices st').addUeIndices st')
    | (false, _) => (false, s)

/-! ## QoD sessions -/

/-- The QoD sessions of the first PDU session with an id are changed. -/
def modifyQodSessions (key : UeKey) (pduSessionId : String) (f : List String → List String)
    (now : ℤ) (s : UeStore) : Bool × UeStore :=
  match s.states.lookup key.getPrimaryKey with
  | none => (false, s)
  | some st =>
    match List.replaceFirst? (·.pduSessionId == pduSessionId)
        (fun pdu => { pdu with activeQodSessionIds := f pdu.activeQodSessionIds })
        st.pduSessions with
    | some pdus =>
      (true, s.put key.getPrimaryKey ({ st with pduSessions := pdus }.recordActivity now))
    | none => (false, s)

/-- `add_qod_session_to_pdu_session`. -/
def addQodSessionToPduSession (key : UeKey) (pduSessionId qodSessionId : String) (now : ℤ) :
    UeStore → Bool × UeStore :=
  modifyQodSessions key pduSessionId (·.insert qodSessionId) now

/-- `remove_qod_session_from_pdu_session`. -/
def removeQodSessionFromPduSession (key : UeKey) (pduSessionId qodSessionId : String) (now : ℤ) :
    UeStore → Bool × UeStore :=
  modifyQodSessions key pduSessionId (·.erase qodSessionId) now

/-- `get_qod_sessions_for_pdu_session`. -/
def getQodSessionsForPduSession (key : UeKey) (pduSessionId : String) (s : UeStore) :
    Option (List String) :=
  (s.states.lookup key.getPrimaryKey).bind fun st =>
    (st.pduSessions.find? (·.pduSessionId == pduSessionId)).map (·.activeQodSessionIds)

/-- `get_pdu_sessions_for_qod_session`. -/
def getPduSessionsForQodSession (qodSessionId : String) (s : UeStore) : List String :=
  s.getAllUeStates.flatMap fun st =>
    (st.pduSessions.filter (qodSessionId ∈ ·.activeQodSessionIds)).map (·.pduSessionId)

/-- `find_ue_states`. -/
def findUeStates (resolutionState : Option ResolutionState) (hasActiveSessions : Option Bool)
    (s : UeStore) : List AfUeSubscriptionState :=
  s.getAllUeStates.filter fun st =>
    resolutionState.all (· == st.resolutionState) &&
      hasActiveSessions.all (· == st.pduSessions.any (!·.activeQodSessionIds.isEmpty))

/-- `add_qod_session_to_ue`: with a PDU session id, the operation above; without
    one, the UE and a first PDU session are made if they are missing. -/
def addQodSessionToUe (key : UeKey) (pduSessionId : Option String) (qodSessionId : String)
    (now : ℤ) (s : UeStore) : Bool × UeStore :=
  match pduSessionId with
  | some pduSessionId => s.addQodSessionToPduSession key pduSessionId qodSessionId now
  | none =>
    let s := if (s.states.lookup key.getPrimaryKey).isSome then s
      else (s.put key.getPrimaryKey (.ofKey key now)).addUeIndices (.ofKey key now)
    let st := (s.states.lookup key.getPrimaryKey).getD (.ofKey key now)
    let pdus := if st.pduSessions.isEmpty then
        [{ pduSessionId := "provisional-" ++ key.getPrimaryKey, status := "PROVISIONAL" }]
      else st.pduSessions
    let pdus := pdus.modifyHead fun pdu =>
      { pdu with activeQodSessionIds := pdu.activeQodSessionIds.insert qodSessionId }
    (true, s.put key.getPrimaryKey ({ st with pduSessions := pdus }.recordActivity now))

/-- `remove_qod_session_from_ue`. -/
def removeQodSessionFromUe (key : UeKey) (qodSessionId : String) (now : ℤ) (s : UeStore) :
    Bool × UeStore :=
  match s.states.lookup key.getPrimaryKey with
  | none => (false, s)
  | some st =>
    if st.pduSessions.any (qodSessionId ∈ ·.activeQodSessionIds) then
      let pdus := st.pduSessions.map fun pdu =>
        { pdu with activeQodSessionIds := pdu.activeQodSessionIds.erase qodSessionId }
      (true, s.put key.getPrimaryKey ({ st with pduSessions := pdus }.recordActivity now))
    else (false, s)

/-! ## Clean-up -/

/-- The state is provisional and older than `maxAge`. -/
def expired (maxAge now : ℤ) (st : AfUeSubscriptionState) : Bool :=
  st.resolutionState == .provisional && decide (maxAge < secondsOf (now - st.createdAt))

/-- The keys `cleanup_expired_provisional_states` removes. -/
def expiredKeys (maxAge now : ℤ) (s : UeStore) : List String :=
  s.states.keys.filter fun key => (s.states.lookup key).any (expired maxAge now)

/-- The state under a key is erased, with its indices. -/
def dropKey (s : UeStore) (key : String) : UeStore :=
  (s.states.lookup key).elim s fun st => (s.removeUeIndices st).drop key

/-- `cleanup_expired_provisional_states`. -/
def cleanupExpiredProvisionalStates (maxAge now : ℤ) (s : UeStore) : UeStore :=
  (s.expiredKeys maxAge now).foldl dropKey s

/-- The counts of `get_state_statistics`. -/
structure Statistics where
  totalStates : ℕ
  resolvedCount : ℕ
  provisionalCount : ℕ
  partialCount : ℕ
  activeQodSessions : ℕ
  deriving DecidableEq, Repr

/-- `get_state_statistics`. -/
def getStateStatistics (s : UeStore) : Statistics where
  totalStates := s.getAllUeStates.length
  resolvedCount := s.getAllUeStates.countP (·.resolutionState == .resolved)
  provisionalCount := s.getAllUeStates.countP (·.resolutionState == .provisional)
  partialCount := s.getAllUeStates.countP (·.resolutionState == .partiallyResolved)
  activeQodSessions := (s.getAllUeStates.flatMap (·.pduSessions)).map
    (·.activeQodSessionIds.length) |>.sum

end UeStore

/-! ## Runs -/

/-- A datum of a UE that an operation of its own updates. -/
inductive UeDatum
  | locationInfo (info : UeLocationInfo)
  | accessMobilityData (data : UeAccessMobilityData)
  | policyDataInfo (data : String)
  | prosePduidInformation (info : PduidInformation)
  | timeSyncServiceAvailability (available : Bool)
  | serviceAreaCoverageAllowed (coverage : List ServiceAreaCoverageInfo)
  | highThroughputDesired (desired : Bool)

/-- The public operations that only read the store. -/
inductive UeQuery
  | getAllUeStates
  | getUeStateByKey (key : UeKey)
  | getUeStateBySupi (supi : Supi)
  | getUeStateByGpsi (gpsi : Gpsi)
  | getUeStateByIpv4 (ipv4 : Ipv4Addr)
  | getUeStateByIpv6Addr (ipv6 : Ipv6Addr)
  | getUeStateByIpv6Prefix (ipv6Prefix : Ipv6Prefix)
  | getUeStateByMacAddr (mac : MacAddr48)
  | getUeStateByPduSessionId (pduSessionId : String)
  | getQodSessionsForPduSession (key : UeKey) (pduSessionId : String)
  | getPduSessionsForQodSession (qodSessionId : String)
  | findUeStates (resolutionState : Option ResolutionState) (hasActiveSessions : Option Bool)
  | getStateStatistics

/-- The public operations. The overloads taking a SUPI build its key first and
    then are the operation on the key. -/
inductive UeOp
  | query (q : UeQuery)
  | updateUeState (st : AfUeSubscriptionState)
  | createOrUpdateProvisionalUeState (key : UeKey) (initialData : Option AfUeSubscriptionState)
      (now : ℤ)
  | promoteUeStateToResolved (currentKey : UeKey) (supi : Supi) (now : ℤ)
  | mergeUeStates (primaryKey secondaryKey : UeKey) (now : ℤ)
  | removeUeState (key : UeKey)
  | updateUeGpsi (key : UeKey) (gpsi : Gpsi) (now : ℤ)
  | updateUe (key : UeKey) (datum : UeDatum) (now : ℤ)
  | addOrUpdatePduSession (key : UeKey) (pdu : PduSessionData) (now : ℤ)
  | removePduSession (key : UeKey) (pduSessionId : String) (now : ℤ)
  | removeNonPrimaryUeIdentifier (key : UeKey) (type : AfUeSubscriptionState.KnownType)
      (value : String) (now : ℤ)
  | addQodSessionToUe (key : UeKey) (pduSessionId : Option String) (qodSessionId : String) (now : ℤ)
  | removeQodSessionFromUe (key : UeKey) (qodSessionId : String) (now : ℤ)
  | addQodSessionToPduSession (key : UeKey) (pduSessionId qodSessionId : String) (now : ℤ)
  | removeQodSessionFromPduSession (key : UeKey) (pduSessionId qodSessionId : String) (now : ℤ)
  | cleanupExpiredProvisionalStates (maxAge now : ℤ)

namespace UeStore

/-- The update of a datum. -/
def updateDatum (key : UeKey) (now : ℤ) : UeDatum → UeStore → Bool × UeStore
  | .locationInfo info => updateUeLocationInfo key info now
  | .accessMobilityData data => updateUeAccessMobilityData key data now
  | .policyDataInfo data => updateUePolicyDataInfo key data now
  | .prosePduidInformation info => updateProsePduidInformation key info now
  | .timeSyncServiceAvailability available => updateTimeSyncServiceAvailability key available now
  | .serviceAreaCoverageAllowed coverage => updateServiceAreaCoverageAllowed key coverage now
  | .highThroughputDesired desired => updateHighThroughputDesired key desired now

/-- The store after an operation. -/
def perform : UeOp → UeStore → Except Exn UeStore
  | .query _, s => .ok s
  | .updateUeState st, s => .ok (s.updateUeState st)
  | .createOrUpdateProvisionalUeState key initialData now, s =>
    .ok (s.createOrUpdateProvisionalUeState key initialData now)
  | .promoteUeStateToResolved currentKey supi now, s =>
    (s.promoteUeStateToResolved currentKey supi now).map Prod.snd
  | .mergeUeStates primaryKey secondaryKey now, s =>
    (s.mergeUeStates primaryKey secondaryKey now).map Prod.snd
  | .removeUeState key, s => .ok (s.removeUeState key).2
  | .updateUeGpsi key gpsi now, s => .ok (s.updateUeGpsi key gpsi now).2
  | .updateUe key datum now, s => .ok (s.updateDatum key now datum).2
  | .addOrUpdatePduSession key pdu now, s => .ok (s.addOrUpdatePduSession key pdu now).2
  | .removePduSession key pduSessionId now, s => .ok (s.removePduSession key pduSessionId now).2.2
  | .removeNonPrimaryUeIdentifier key type value now, s =>
    .ok (s.removeNonPrimaryUeIdentifier key type value now).2
  | .addQodSessionToUe key pduSessionId qodSessionId now, s =>
    .ok (s.addQodSessionToUe key pduSessionId qodSessionId now).2
  | .removeQodSessionFromUe key qodSessionId now, s =>
    .ok (s.removeQodSessionFromUe key qodSessionId now).2
  | .addQodSessionToPduSession key pduSessionId qodSessionId now, s =>
    .ok (s.addQodSessionToPduSession key pduSessionId qodSessionId now).2
  | .removeQodSessionFromPduSession key pduSessionId qodSessionId now, s =>
    .ok (s.removeQodSessionFromPduSession key pduSessionId qodSessionId now).2
  | .cleanupExpiredProvisionalStates maxAge now, s =>
    .ok (s.cleanupExpiredProvisionalStates maxAge now)

/-- The next store: an operation that throws leaves the store as it is. -/
def next (s : UeStore) (op : UeOp) : Option UeStore :=
  match s.perform op with
  | .ok s' => some s'
  | .error e => if e.throws then some s else none

/-- The next store is the one the operation makes, or the operation throws. -/
theorem next_cases {s s' : UeStore} {op : UeOp} (h : s.next op = some s') :
    s.perform op = .ok s' ∨ s' = s := by
  rw [next] at h
  cases hp : s.perform op with
  | ok s₁ =>
    rw [hp] at h
    exact .inl (congrArg _ (Option.some.inj h))
  | error e =>
    simp only [hp, Option.ite_none_right_eq_some, Option.some.injEq] at h
    exact .inr h.2.symm

end UeStore

/-- The runs of the UE store, from the empty store. -/
def ueSystem : System UeStore UeOp := .ofStep .empty UeStore.next

end PhineAf

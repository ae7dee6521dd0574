import PhineAf.Lib.Table
import PhineAf.Qod.Session

/-!
# The QoD store

`QodStateManager` without its locks: the sessions by id, the index of their ids
by SUPI, the ids of the PCF application sessions, and the mappings of the QoS
profiles. A set of ids is a list without repetitions; the order in which an
unordered container is walked through is an argument where the result depends
on it.
-/

namespace PhineAf

structure QodStore where
  sessionsById : Table String QodSession
  sessionsBySupi : Table String (List String)
  pcfSessionMapping : Table String String
  qosProfileMappings : Table String QosProfileMapping

/-- A GBR profile of `initialize_default_mappings`. -/
def gbrMapping (fiveqi priorityLevel packetDelayBudget : ℤ) (packetErrorRate : ℚ)
    (guaranteedUplinkRate guaranteedDownlinkRate maxUplinkRate maxDownlinkRate : String) :
    QosProfileMapping where
  fiveqi := fiveqi
  priorityLevel := some priorityLevel
  packetDelayBudget := packetDelayBudget
  packetErrorRate := packetErrorRate
  maxDataBurst := none
  isGbr := true
  guaranteedUplinkRate := some guaranteedUplinkRate
  guaranteedDownlinkRate := some guaranteedDownlinkRate
  maxUplinkRate := some maxUplinkRate
  maxDownlinkRate := some maxDownlinkRate

/-- `initialize_default_mappings`. -/
def defaultMappings : List (String × QosProfileMapping) :=
  [("QOS_E", gbrMapping 1 2 100 (1 / 1000) "64 Kbps" "64 Kbps" "128 Kbps" "128 Kbps"),
    ("QOS_S", gbrMapping 2 4 150 (1 / 1000) "384 Kbps" "384 Kbps" "512 Kbps" "512 Kbps"),
    ("QOS_M", gbrMapping 3 3 50 (1 / 1000) "512 Kbps" "512 Kbps" "1024 Kbps" "1024 Kbps"),
    ("QOS_L", gbrMapping 4 5 300 (1 / 1000000) "256 Kbps" "256 Kbps" "512 Kbps" "512 Kbps"),
    ("voice", gbrMapping 1 2 100 (1 / 1000) "64 Kbps" "64 Kbps" "128 Kbps" "128 Kbps"),
    ("video", gbrMapping 2 4 150 (1 / 1000) "1024 Kbps" "2048 Kbps" "2048 Kbps" "4096 Kbps"),
    ("game", gbrMapping 3 3 50 (1 / 1000) "512 Kbps" "512 Kbps" "1024 Kbps" "1024 Kbps"),
    ("data", ⟨9, some 9, 300, 1 / 1000000, none, false, none, none, none, none⟩),
    ("premium", gbrMapping 7 6 100 (1 / 1000) "5 Mbps" "5 Mbps" "10 Mbps" "10 Mbps"),
    ("enterprise", gbrMapping 8 7 300 (1 / 1000000) "1 Gbps" "1 Gbps" "10 Gbps" "10 Gbps")]

namespace QodStore

/-- The constructor: no sessions, and the default mappings. -/
def empty : QodStore where
  sessionsById := ∅
  sessionsBySupi := ∅
  pcfSessionMapping := ∅
  qosProfileMappings := defaultMappings.foldl (fun t m => t.insert m.1 m.2) ∅

variable (s : QodStore)

/-! ## Sessions -/

/-- `add_session`. -/
def addSession (session : QodSession) : QodStore :=
  { s with
    sessionsById := s.sessionsById.insert session.sessionId session
    sessionsBySupi := session.ueSupi.elim s.sessionsBySupi fun supi =>
      s.sessionsBySupi.insert supi.value
        (((s.sessionsBySupi.lookup supi.value).getD []).insert session.sessionId) }

/-- `get_session_by_id`. -/
def getSessionById (sessionId : String) : Option QodSession := s.sessionsById.lookup sessionId

/-- An id is taken out of the set of a SUPI; an empty set goes. -/
def unindexSupi (supi : Supi) (sessionId : String) : Table String (List String) :=
  match s.sessionsBySupi.lookup supi.value with
  | some ids =>
    if (ids.erase sessionId).isEmpty then s.sessionsBySupi.erase supi.value
    else s.sessionsBySupi.insert supi.value (ids.erase sessionId)
  | none => s.sessionsBySupi

/-- `remove_session`. The mapping of PCF ids stays. -/
def removeSession (sessionId : String) : Bool × QodStore :=
  match s.getSessionById sessionId with
  | some session =>
    (true, { s with
      sessionsById := s.sessionsById.erase sessionId
      sessionsBySupi := session.ueSupi.elim s.sessionsBySupi fun supi =>
        s.unindexSupi supi sessionId })
  | none => (false, s)

/-- `update_session`: a stored session is overwritten as a whole. -/
def updateSession (session : QodSession) : Bool × QodStore :=
  if (s.getSessionById session.sessionId).isSome then
    (true, { s with sessionsById := s.sessionsById.insert session.sessionId session })
  else (false, s)

/-- The session `update_session_status` leaves. -/
def withStatus (session : QodSession) (status : QosStatus) (info : Option StatusInfo) :
    QodSession :=
  { session with qosStatus := status, statusInfo := info.or session.statusInfo }

/-- `update_session_status`. -/
def updateSessionStatus (sessionId : String) (status : QosStatus) (info : Option StatusInfo) :
    Bool × QodStore :=
  match s.getSessionById sessionId with
  | some session =>
    (true, { s with sessionsById :=
        s.sessionsById.insert sessionId (withStatus session status info) })
  | none => (false, s)

/-- `get_all_sessions`. -/
def getAllSessions : List QodSession := s.sessionsById.values

/-- `get_sessions_by_supi`. -/
def getSessionsBySupi (supi : String) : List String := (s.sessionsBySupi.lookup supi).getD []

/-- `get_sessions_by_status`. -/
def getSessionsByStatus (status : QosStatus) : List QodSession :=
  s.getAllSessions.filter (·.qosStatus == status)

/-- `clear_all_sessions`. -/
def clearAllSessions : QodStore := { s with sessionsById := ∅, sessionsBySupi := ∅ }

/-- A set in some order: first the ids of `order` it has, then the others. Every
    order of the set is one of these. -/
def arrange (order ids : List String) : List String :=
  (order.dedup.filter (· ∈ ids)) ++ ids.filter (· ∉ order)

/-- `get_session_by_pdu_session`: the first match, in the order of the set. -/
def getSessionByPduSession (supi : Supi) (pduSessionId : String) (order : List String) :
    Option QodSession :=
  ((arrange order (s.getSessionsBySupi supi.value)).filterMap s.getSessionById).find?
    (·.pduSessionId == some pduSessionId)

/-- The session has expired, and the grace period after it too. -/
def expired (currentTime gracePeriod : ℤ) (session : QodSession) : Bool :=
  session.expiresAt.any fun t => decide (after t gracePeriod ≤ currentTime)

/-- `get_expired_sessions`. -/
def getExpiredSessions (currentTime gracePeriod : ℤ) : List QodSession :=
  s.getAllSessions.filter (expired currentTime gracePeriod)

/-! ## PCF application sessions -/

/-- `update_pcf_session_map`. -/
def updatePcfSessionMap (pcfSessionId qodSessionId : String) : QodStore :=
  { s with pcfSessionMapping := s.pcfSessionMapping.insert pcfSessionId qodSessionId }

/-- `get_session_by_pcf_session_id`. -/
def getSessionByPcfSessionId (pcfSessionId : String) : Option QodSession :=
  (s.pcfSessionMapping.lookup pcfSessionId).bind s.getSessionById

/-- `remove_pcf_to_qod_session_mapping`. -/
def removePcfToQodSessionMapping (pcfSessionId : String) : Bool × QodStore :=
  if (s.pcfSessionMapping.lookup pcfSessionId).isSome then
    (true, { s with pcfSessionMapping := s.pcfSessionMapping.erase pcfSessionId })
  else (false, s)

/-! ## QoS profiles -/

/-- `get_qos_profile_mapping`. -/
def getQosProfileMapping (qosProfile : String) : Option QosProfileMapping :=
  s.qosProfileMappings.lookup qosProfile

/-- `register_qos_profile`. -/
def registerQosProfile (name : String) (mapping : QosProfileMapping) : QodStore :=
  { s with qosProfileMappings := s.qosProfileMappings.insert name mapping }

/-! ## What a lookup finds afterwards -/

theorem getSessionById_addSession (session : QodSession) (id : String) :
    (s.addSession session).getSessionById id =
      if id = session.sessionId then some session else s.getSessionById id :=
  Table.lookup_insert_eq ..

theorem getSessionById_removeSession (sessionId id : String) :
    (s.removeSession sessionId).2.getSessionById id =
      if id = sessionId then none else s.getSessionById id := by
  rw [removeSession]
  split
  next => exact Table.lookup_erase_eq ..
  next hnone =>
    split_ifs with h
    · rw [h]
      exact hnone
    · rfl

theorem getSessionById_updateSession (session : QodSession) (id : String) :
    (s.updateSession session).2.getSessionById id =
      if id = session.sessionId ∧ (s.getSessionById id).isSome then some session
      else s.getSessionById id := by
  rw [updateSession]
  by_cases hstored : (s.getSessionById session.sessionId).isSome
  · rw [if_pos hstored]
    refine (Table.lookup_insert_eq ..).trans ?_
    by_cases hid : id = session.sessionId
    · subst hid
      rw [if_pos rfl, if_pos ⟨rfl, hstored⟩]
    · rw [if_neg hid, if_neg fun h => hid h.1]
      rfl
  · rw [if_neg hstored, if_neg]
    rintro ⟨rfl, h⟩
    exact hstored h

/-- A session that is stored is overwritten. -/
theorem getSessionById_updateSession_of_stored {session stored : QodSession}
    (hs : s.getSessionById session.sessionId = some stored) (id : String) :
    (s.updateSession session).2.getSessionById id =
      if id = session.sessionId then some session else s.getSessionById id := by
  rw [getSessionById_updateSession]
  by_cases hid : id = session.sessionId
  · rw [if_pos hid, if_pos ⟨hid, by rw [hid, hs]; rfl⟩]
  · rw [if_neg hid, if_neg fun h => hid h.1]

theorem getSessionById_updateSessionStatus (sessionId : String) (status : QosStatus)
    (info : Option StatusInfo) (id : String) :
    (s.updateSessionStatus sessionId status info).2.getSessionById id =
      if id = sessionId then (s.getSessionById id).map (withStatus · status info)
      else s.getSessionById id := by
  rw [updateSessionStatus]
  split
  next session hs =>
    refine (Table.lookup_insert_eq ..).trans ?_
    split_ifs with h
    · rw [h, hs]
      rfl
    · rfl
  next hnone =>
    split_ifs with h
    · rw [h, hnone]
      rfl
    · rfl

@[simp]
theorem getSessionById_removePcfToQodSessionMapping (pcfSessionId id : String) :
    (s.removePcfToQodSessionMapping pcfSessionId).2.getSessionById id = s.getSessionById id := by
  rw [removePcfToQodSessionMapping]
  split_ifs <;> rfl

theorem getSessionById_clearAllSessions (id : String) :
    s.clearAllSessions.getSessionById id = none := rfl

/-- Sessions removed one after the other. -/
theorem getSessionById_foldl_removeSession (l : List QodSession) (id : String) :
    (l.foldl (fun s session => (s.removeSession session.sessionId).2) s).getSessionById id =
      if id ∈ l.map (·.sessionId) then none else s.getSessionById id := by
  induction l generalizing s with
  | nil => simp
  | cons session l ih =>
    rw [List.foldl_cons, ih, getSessionById_removeSession]
    by_cases h : id ∈ l.map (·.sessionId) <;> by_cases h' : id = session.sessionId <;> simp [h, h']

/-- The sessions are what the ids look up to. -/
theorem mem_getAllSessions {session : QodSession} :
    session ∈ s.getAllSessions ↔ ∃ id, s.getSessionById id = some session :=
  Table.mem_values

end QodStore

end PhineAf

import PhineAf.Lib.MultiIndex
import PhineAf.Qod.Lifecycle

/-!
# The index of sessions by SUPI

The updates of the QoD store as one type, and the index `sessions_by_supi_` over
their runs. `update_session` overwrites a session without looking at the index: it
assumes that the SUPI of a session does not change. Under this assumption, and with
new ids for new sessions (`QodStore.Admissible`), the index holds exactly the stored
sessions with a SUPI (`QodStore.SupiIndexed`), and the search by PDU session finds
one whenever there is one.

`QodSessionManager.storeOps` lists the updates an operation of the session manager
makes, in the order of the source; they are admissible in every run
(`QodRun.admissibly_of_next`).
-/

namespace PhineAf

/-- The updates of a QoD store. -/
inductive QodStoreOp
  | addSession (session : QodSession)
  | updateSession (session : QodSession)
  | updateSessionStatus (sessionId : String) (status : QosStatus) (info : Option StatusInfo)
  | removeSession (sessionId : String)
  | clearAllSessions
  | updatePcfSessionMap (pcfSessionId qodSessionId : String)
  | removePcfToQodSessionMapping (pcfSessionId : String)

namespace QodStore

variable {s : QodStore}

/-- The store after an update. -/
def perform (s : QodStore) : QodStoreOp → QodStore
  | .addSession session => s.addSession session
  | .updateSession session => (s.updateSession session).2
  | .updateSessionStatus sessionId status info => (s.updateSessionStatus sessionId status info).2
  | .removeSession sessionId => (s.removeSession sessionId).2
  | .clearAllSessions => s.clearAllSessions
  | .updatePcfSessionMap pcfSessionId qodSessionId => s.updatePcfSessionMap pcfSessionId qodSessionId
  | .removePcfToQodSessionMapping pcfSessionId => (s.removePcfToQodSessionMapping pcfSessionId).2

/-- A session is added under a new id, and keeps its SUPI. -/
def Admissible (s : QodStore) : QodStoreOp → Prop
  | .addSession session => s.getSessionById session.sessionId = none
  | .updateSession session => ∀ stored, s.getSessionById session.sessionId = some stored →
    session.ueSupi = stored.ueSupi
  | _ => True

/-- The updates are admissible, one after the other. -/
def Admissibly (s : QodStore) : List QodStoreOp → Prop
  | [] => True
  | op :: ops => s.Admissible op ∧ (s.perform op).Admissibly ops

end QodStore

/-- The runs of a QoD store, from the empty one, by admissible updates. -/
def qodStoreSystem : System QodStore QodStoreOp where
  init s := s = .empty
  step s op s' := s.Admissible op ∧ s' = s.perform op

namespace QodStore

variable {s : QodStore}

/-! ## The index -/

/-- The session is stored with the SUPI. -/
def HasSupi (s : QodStore) (supi id : String) : Prop :=
  ∃ session, s.getSessionById id = some session ∧ session.ueSupi = some ⟨supi⟩

/-- The index leads from a SUPI to the stored sessions that have it, and has no empty
    set. -/
structure SupiIndexed (s : QodStore) : Prop where
  tidy : MultiIndex.Tidy s.sessionsBySupi
  holds_iff : ∀ supi id, MultiIndex.Holds s.sessionsBySupi supi id ↔ s.HasSupi supi id

theorem hasSupi_iff_of_lookup {s' : QodStore} {id : String}
    (h : s'.getSessionById id = s.getSessionById id) (supi : String) :
    s'.HasSupi supi id ↔ s.HasSupi supi id := by
  rw [HasSupi, HasSupi, h]

theorem not_hasSupi {supi id : String} (h : s.getSessionById id = none) : ¬s.HasSupi supi id := by
  rintro ⟨session, hs, -⟩
  rw [h] at hs
  cases hs

/-- An update that leaves the index and the SUPIs of the stored sessions alone. -/
theorem SupiIndexed.congr (h : s.SupiIndexed) {s' : QodStore}
    (hindex : s'.sessionsBySupi = s.sessionsBySupi)
    (hsupi : ∀ supi id, s'.HasSupi supi id ↔ s.HasSupi supi id) : s'.SupiIndexed where
  tidy := hindex ▸ h.tidy
  holds_iff supi id := by
    rw [hindex, hsupi]
    exact h.holds_iff supi id

theorem supiIndexed_empty : QodStore.empty.SupiIndexed where
  tidy := MultiIndex.tidy_empty
  holds_iff _ _ := iff_of_false MultiIndex.not_holds_empty (not_hasSupi rfl)

theorem SupiIndexed.addSession (h : s.SupiIndexed) {session : QodSession}
    (hfresh : s.getSessionById session.sessionId = none) : (s.addSession session).SupiIndexed := by
  have hget := s.getSessionById_addSession session
  have hother : ∀ supi id, id ≠ session.sessionId →
      ((s.addSession session).HasSupi supi id ↔ s.HasSupi supi id) :=
    fun supi id hid => hasSupi_iff_of_lookup ((hget id).trans (if_neg hid)) supi
  have hnew : ∀ supi, (s.addSession session).HasSupi supi session.sessionId ↔
      session.ueSupi = some ⟨supi⟩ := by
    intro supi
    rw [HasSupi, hget, if_pos rfl]
    simp
  cases hsupi : session.ueSupi with
  | none =>
    refine h.congr (by simp [QodStore.addSession, hsupi]) fun supi id => ?_
    by_cases hid : id = session.sessionId
    · subst hid
      rw [hnew, hsupi]
      exact iff_of_false (fun h => by cases h) (not_hasSupi hfresh)
    · exact hother supi id hid
  | some supi₀ =>
    have hindex : (s.addSession session).sessionsBySupi =
        MultiIndex.file s.sessionsBySupi supi₀.value session.sessionId := by
      simp [QodStore.addSession, hsupi, MultiIndex.file]
    refine ⟨hindex ▸ h.tidy.file .., fun supi id => ?_⟩
    rw [hindex, MultiIndex.holds_file, h.holds_iff]
    by_cases hid : id = session.sessionId
    · subst hid
      rw [hnew, hsupi, or_iff_left (not_hasSupi hfresh), Option.some.injEq]
      refine ⟨fun h => ?_, fun h => ⟨?_, rfl⟩⟩
      · rw [h.1]
      · rw [h]
    · rw [hother supi id hid, or_iff_right fun h => hid h.2]

theorem unindexSupi_eq (supi : Supi) (sessionId : String) :
    s.unindexSupi supi sessionId = MultiIndex.unfile s.sessionsBySupi supi.value sessionId := by
  rw [unindexSupi, MultiIndex.unfile]
  cases s.sessionsBySupi.lookup supi.value <;> rfl

theorem SupiIndexed.removeSession (h : s.SupiIndexed) (sessionId : String) :
    (s.removeSession sessionId).2.SupiIndexed := by
  have hget := s.getSessionById_removeSession sessionId
  have hother : ∀ supi id, id ≠ sessionId →
      ((s.removeSession sessionId).2.HasSupi supi id ↔ s.HasSupi supi id) :=
    fun supi id hid => hasSupi_iff_of_lookup ((hget id).trans (if_neg hid)) supi
  have hgone : ∀ supi, ¬(s.removeSession sessionId).2.HasSupi supi sessionId :=
    fun supi => not_hasSupi ((hget sessionId).trans (if_pos rfl))
  cases hs : s.getSessionById sessionId with
  | none =>
    rw [QodStore.removeSession, hs]
    exact h
  | some session =>
    have hhas : ∀ supi, s.HasSupi supi sessionId ↔ session.ueSupi = some ⟨supi⟩ := by
      intro supi
      rw [HasSupi, hs]
      simp
    cases hsupi : session.ueSupi with
    | none =>
      refine h.congr (by simp [QodStore.removeSession, hs, hsupi]) fun supi id => ?_
      by_cases hid : id = sessionId
      · subst hid
        rw [hhas, hsupi]
        exact iff_of_false (hgone supi) fun h => by cases h
      · exact hother supi id hid
    | some supi₀ =>
      have hindex : (s.removeSession sessionId).2.sessionsBySupi =
          MultiIndex.unfile s.sessionsBySupi supi₀.value sessionId := by
        simp only [QodStore.removeSession, hs, hsupi, Option.elim_some, unindexSupi_eq]
      refine ⟨hindex ▸ h.tidy.unfile .., fun supi id => ?_⟩
      rw [hindex, MultiIndex.holds_unfile h.tidy, h.holds_iff]
      by_cases hid : id = sessionId
      · subst hid
        refine iff_of_false ?_ (hgone supi)
        rw [hhas, hsupi]
        rintro ⟨heq, hne⟩
        exact hne ⟨by rw [Option.some.inj heq], rfl⟩
      · rw [hother supi id hid]
        exact and_iff_left fun h => hid h.2

/-- A session is overwritten by one with the same SUPI. -/
theorem SupiIndexed.overwrite (h : s.SupiIndexed) {s' : QodStore}
    (hindex : s'.sessionsBySupi = s.sessionsBySupi)
    (hget : ∀ id, (s'.getSessionById id).map (·.ueSupi) = (s.getSessionById id).map (·.ueSupi)) :
    s'.SupiIndexed := by
  have hhas : ∀ (t : QodStore) supi id, t.HasSupi supi id ↔
      (t.getSessionById id).map (·.ueSupi) = some (some ⟨supi⟩) := by
    intro t supi id
    rw [HasSupi, Option.map_eq_some_iff]
  refine h.congr hindex fun supi id => ?_
  rw [hhas, hhas, hget]

theorem SupiIndexed.updateSession (h : s.SupiIndexed) {session : QodSession}
    (hsupi : ∀ stored, s.getSessionById session.sessionId = some stored →
      session.ueSupi = stored.ueSupi) : (s.updateSession session).2.SupiIndexed := by
  refine h.overwrite ?_ fun id => ?_
  · rw [QodStore.updateSession]
    split_ifs <;> rfl
  · rw [getSessionById_updateSession]
    split_ifs with hid
    · obtain ⟨rfl, hsome⟩ := hid
      obtain ⟨stored, hs⟩ := Option.isSome_iff_exists.1 hsome
      rw [hs, Option.map_some, Option.map_some, hsupi stored hs]
    · rfl

theorem SupiIndexed.updateSessionStatus (h : s.SupiIndexed) (sessionId : String)
    (status : QosStatus) (info : Option StatusInfo) :
    (s.updateSessionStatus sessionId status info).2.SupiIndexed := by
  refine h.overwrite ?_ fun id => ?_
  · rw [QodStore.updateSessionStatus]
    split <;> rfl
  · rw [getSessionById_updateSessionStatus]
    split_ifs
    · cases s.getSessionById id <;> rfl
    · rfl

theorem SupiIndexed.removePcfToQodSessionMapping (h : s.SupiIndexed) (pcfSessionId : String) :
    (s.removePcfToQodSessionMapping pcfSessionId).2.SupiIndexed := by
  refine h.overwrite ?_ fun id => ?_
  · rw [QodStore.removePcfToQodSessionMapping]
    split_ifs <;> rfl
  · rw [getSessionById_removePcfToQodSessionMapping]

theorem SupiIndexed.perform (h : s.SupiIndexed) {op : QodStoreOp} (hop : s.Admissible op) :
    (s.perform op).SupiIndexed := by
  cases op with
  | addSession session => exact h.addSession hop
  | updateSession session => exact h.updateSession hop
  | updateSessionStatus sessionId status info => exact h.updateSessionStatus sessionId status info
  | removeSession sessionId => exact h.removeSession sessionId
  | clearAllSessions =>
    exact ⟨MultiIndex.tidy_empty, fun supi id => iff_of_false MultiIndex.not_holds_empty
      (not_hasSupi (getSessionById_clearAllSessions ..))⟩
  | updatePcfSessionMap p q => exact h.overwrite rfl fun _ => rfl
  | removePcfToQodSessionMapping p => exact h.removePcfToQodSessionMapping p

theorem supiIndexed_of_reachable (hs : qodStoreSystem.Reachable s) : s.SupiIndexed := by
  refine System.Reachable.invariant (P := SupiIndexed) ?_ ?_ hs
  · rintro s rfl
    exact supiIndexed_empty
  · rintro s op s' - h ⟨hop, rfl⟩
    exact h.perform hop

/-! ## The search by PDU session -/

theorem mem_arrange {order ids : List String} {id : String} : id ∈ arrange order ids ↔ id ∈ ids := by
  by_cases h : id ∈ order <;> simp [arrange, h]

/-- Whatever the order of the set, the search finds a session of the PDU session if
    there is one. -/
theorem SupiIndexed.getSessionByPduSession_eq_none_iff (h : s.SupiIndexed) (supi : Supi)
    (pduSessionId : String) (order : List String) :
    s.getSessionByPduSession supi pduSessionId order = none ↔
      ∀ id session, s.getSessionById id = some session → session.ueSupi = some supi →
        session.pduSessionId ≠ some pduSessionId := by
  rw [getSessionByPduSession, List.find?_eq_none]
  constructor
  · intro hnone id session hs hsupi hpdu
    have hmem : id ∈ s.getSessionsBySupi supi.value :=
      MultiIndex.mem_getD_lookup.2 ((h.holds_iff _ _).2 ⟨session, hs, hsupi⟩)
    refine hnone session (List.mem_filterMap.2 ⟨id, mem_arrange.2 hmem, hs⟩) ?_
    rw [hpdu, beq_iff_eq]
  · intro hnone session hmem hpdu
    obtain ⟨id, hid, hs⟩ := List.mem_filterMap.1 hmem
    obtain ⟨stored, hs', hsupi⟩ := (h.holds_iff _ _).1 (MultiIndex.mem_getD_lookup.1 (mem_arrange.1 hid))
    rw [hs, Option.some.injEq] at hs'
    exact hnone id session hs (hs' ▸ hsupi) (beq_iff_eq.1 hpdu)

end QodStore

/-! ## The updates of an operation -/

namespace QodSessionManager

variable (m : QodSessionManager)

/-- The updates of `handle_pcf_session_response`. -/
def responseOps (qodSessionId pcfSessionId : String) (success : Bool) (errorMessage : String)
    (now : ℤ) : List QodStoreOp :=
  match m.qod.getSessionById qodSessionId with
  | none => []
  | some session =>
    if success then
      [.updatePcfSessionMap pcfSessionId qodSessionId,
        .updateSession (activated session pcfSessionId now)]
    else [.updateSession (failed session errorMessage)]

/-- The updates of `handle_pcf_session_terminated`. -/
def terminatedOps (pcfSessionId : String) (now : ℤ) : List QodStoreOp :=
  match m.qod.getSessionByPcfSessionId pcfSessionId with
  | none => []
  | some session =>
    if session.qosStatus = .available then
      let session := { session with
        qosStatus := .unavailable
        statusInfo := some .networkTerminated
        expiresAt := some now }
      match releaseUe session now m.ue with
      | .ok (some _) => [.removeSession session.sessionId, .removePcfToQodSessionMapping pcfSessionId]
      | _ => []
    else [.removeSession session.sessionId, .removePcfToQodSessionMapping pcfSessionId]

/-- The updates of `apply_session_to_pcf` on a reply. -/
def replyOps (sessionId : String) (reply : Option PcfReply) (now : ℤ) : List QodStoreOp :=
  match PcfAnswer.of reply with
  | .created pcfSessionId => m.responseOps sessionId pcfSessionId true "" now
  | .ended pcfSessionId => m.terminatedOps pcfSessionId now
  | .refused message => m.responseOps sessionId "" false message now
  | .unreadable => []

/-- The updates of `create_session`. -/
def createOps (request : CreateSessionRequest) (sessionId : String) (now : ℤ)
    (reply : Option PcfReply) (later : ℤ) : List QodStoreOp :=
  match m.prepareSession request sessionId now with
  | .ok (some session) =>
    let m := m.storeSession session now
    .addSession session ::
      ((if m.pcfReady then
          (m.send (.createQodSession session)).replyOps session.sessionId reply later
        else []) ++
        if (m.applySessionToPcf session reply later).1 then []
        else [.updateSessionStatus session.sessionId .unavailable (some .networkTerminated)])
  | _ => []

/-- The updates of `delete_session` once the session is gone from the PCF. -/
def finishOps (session : QodSession) (now : ℤ) : List QodStoreOp :=
  match session.pduSessionId with
  | none => [.updateSession (deleted session now)]
  | some _ =>
    match createOrGetUeKey (deleted session now) with
    | .ok (some _) => [.updateSession (deleted session now)]
    | _ => []

/-- The updates of `delete_session`. -/
def deleteOps (sessionId apiConsumerId : String) (reply : Option PcfReply) (now : ℤ) :
    List QodStoreOp :=
  match m.deleteRequest sessionId apiConsumerId with
  | none => []
  | some session =>
    match pcfSessionOf session with
    | none => finishOps session now
    | some _ =>
      if m.pcfReady then
        match PcfAnswer.of reply with
        | .ended pcfSessionId => .removePcfToQodSessionMapping pcfSessionId :: finishOps session now
        | _ => []
      else []

/-- The updates of `extend_session_duration`. -/
def extendOps (sessionId : String) (additional : ℤ) (apiConsumerId : String) : List QodStoreOp :=
  match m.qod.getSessionById sessionId with
  | none => []
  | some session =>
    if session.apiConsumerId ≠ apiConsumerId then []
    else if session.qosStatus = .unavailable then []
    else match session.startedAt with
      | none => []
      | some startedAt => [.updateSession (m.extended session additional startedAt)]

/-- The updates of the QoD store an operation makes, in order. -/
def storeOps : QodOp → List QodStoreOp
  | .createSession request sessionId now reply later =>
    m.createOps request sessionId now reply later
  | .extendSessionDuration sessionId additional apiConsumerId =>
    m.extendOps sessionId additional apiConsumerId
  | .deleteSession sessionId apiConsumerId reply now => m.deleteOps sessionId apiConsumerId reply now
  | .handlePcfSessionResponse qodSessionId pcfSessionId success errorMessage now =>
    m.responseOps qodSessionId pcfSessionId success errorMessage now
  | .handlePcfSessionTerminated pcfSessionId now => m.terminatedOps pcfSessionId now
  | .handlePduSessionTerminatedEvent supi pduSessionId order =>
    match m.qod.getSessionByPduSession supi pduSessionId order with
    | none => []
    | some session => [.removeSession session.sessionId]
  | .cleanupExpiredSessions now =>
    (m.qod.getExpiredSessions now m.config.unavailableSessionTtl).map (.removeSession ·.sessionId)
  | .stop => [.clearAllSessions]
  | .ueOperation _ => []

variable {m}

/-! ### They lead to the store after the operation -/

theorem qod_responseOps (q p : String) (success : Bool) (e : String) (now : ℤ) :
    (m.handlePcfSessionResponse q p success e now).qod =
      (m.responseOps q p success e now).foldl QodStore.perform m.qod := by
  cases hs : m.qod.getSessionById q with
  | none => rw [handlePcfSessionResponse, responseOps, hs, List.foldl_nil]
  | some session =>
    rw [qod_handlePcfSessionResponse hs, responseOps, hs]
    cases success <;> rfl

theorem qod_terminatedOps (p : String) (now : ℤ) :
    (m.handlePcfSessionTerminated p now).2.qod =
      (m.terminatedOps p now).foldl QodStore.perform m.qod := by
  rw [handlePcfSessionTerminated, terminatedOps]
  cases m.qod.getSessionByPcfSessionId p with
  | none => rfl
  | some session =>
    dsimp only
    split_ifs
    · cases releaseUe { session with
          qosStatus := .unavailable
          statusInfo := some .networkTerminated
          expiresAt := some now } now m.ue with
      | error e => rfl
      | ok result =>
        cases result with
        | none => rfl
        | some ue =>
          simp only [dropTerminated, qod_notifyIf]
          rfl
    · rfl

theorem qod_replyOps (sessionId : String) (reply : Option PcfReply) (now : ℤ) :
    (m.applyReply sessionId reply now).2.qod =
      (m.replyOps sessionId reply now).foldl QodStore.perform m.qod := by
  rw [applyReply_eq, replyOps]
  cases PcfAnswer.of reply with
  | created p => exact qod_responseOps ..
  | ended p => exact qod_terminatedOps ..
  | refused e => exact qod_responseOps ..
  | unreadable => rfl

theorem qod_createOps (request : CreateSessionRequest) (sessionId : String) (now : ℤ)
    (reply : Option PcfReply) (later : ℤ) :
    (m.createSession request sessionId now reply later).2.qod =
      (m.createOps request sessionId now reply later).foldl QodStore.perform m.qod := by
  rw [createOps]
  split
  next session hprepared =>
    rw [createSession_of_prepared hprepared, List.foldl_cons, List.foldl_append]
    -- The store after the reply, whether or not there is one.
    have hreply : ((m.storeSession session now).applySessionToPcf session reply later).2.qod =
        (if (m.storeSession session now).pcfReady then
          ((m.storeSession session now).send (.createQodSession session)).replyOps
            session.sessionId reply later else []).foldl QodStore.perform
          (m.qod.perform (.addSession session)) := by
      rw [applySessionToPcf]
      split_ifs
      · exact qod_replyOps ..
      · rfl
    rw [← hreply, concludeSession]
    split_ifs
    · rfl
    · exact qod_abandonSession ..
  next hnone =>
    rw [createSession]
    split
    next => rfl
    next => rfl
    next session hprepared => exact absurd hprepared (hnone session)

theorem qod_finishOps (session : QodSession) (now : ℤ) :
    (m.finishDelete session now).2.qod =
      (finishOps session now).foldl QodStore.perform m.qod := by
  rw [finishDelete, finishOps]
  cases session.pduSessionId with
  | none =>
    dsimp only
    rw [qod_notifyIf]
    rfl
  | some pduSessionId =>
    dsimp only
    cases createOrGetUeKey (deleted session now) with
    | error e => rfl
    | ok key =>
      cases key with
      | none => rfl
      | some key =>
        dsimp only
        rw [qod_notifyIf]
        rfl

theorem qod_deleteOps (sessionId consumer : String) (reply : Option PcfReply) (now : ℤ) :
    (m.deleteSession sessionId consumer reply now).2.qod =
      (m.deleteOps sessionId consumer reply now).foldl QodStore.perform m.qod := by
  rw [deleteSession, deleteOps]
  cases m.deleteRequest sessionId consumer with
  | none => rfl
  | some session =>
    dsimp only
    cases pcfSessionOf session with
    | none => exact qod_finishOps ..
    | some p =>
      dsimp only
      rw [removeReply_eq]
      split_ifs
      · cases PcfAnswer.of reply with
        | ended p' => exact qod_finishOps ..
        | created p' => rfl
        | refused e => rfl
        | unreadable => rfl
      · rfl

theorem qod_extendOps {sessionId consumer : String} {additional : ℤ} {m' : QodSessionManager}
    (h : m.next (.extendSessionDuration sessionId additional consumer) = some m') :
    m'.qod = (m.extendOps sessionId additional consumer).foldl QodStore.perform m.qod := by
  rw [next, extendSessionDuration] at h
  rw [extendOps]
  cases hs : m.qod.getSessionById sessionId with
  | none =>
    rw [hs] at h
    cases h
    rfl
  | some session =>
    simp only [hs] at h
    dsimp only
    split_ifs at h ⊢
    · cases h
      rfl
    · cases h
      rfl
    · cases ht : session.startedAt with
      | none =>
        rw [ht] at h
        cases h
      | some t =>
        rw [ht] at h
        cases h
        rfl

/-- The updates of an operation lead to the store it leaves. -/
theorem qod_next {op : QodOp} {m' : QodSessionManager} (h : m.next op = some m') :
    m'.qod = (m.storeOps op).foldl QodStore.perform m.qod := by
  cases op with
  | createSession request sessionId now reply later =>
    cases h
    exact qod_createOps ..
  | extendSessionDuration sessionId additional consumer =>
    exact qod_extendOps h
  | deleteSession sessionId consumer reply now =>
    cases h
    exact qod_deleteOps ..
  | handlePcfSessionResponse q p success e now =>
    cases h
    exact qod_responseOps ..
  | handlePcfSessionTerminated p now =>
    cases h
    exact qod_terminatedOps ..
  | handlePduSessionTerminatedEvent supi pduSessionId order =>
    cases h
    rw [handlePduSessionTerminatedEvent, storeOps]
    cases m.qod.getSessionByPduSession supi pduSessionId order with
    | none => rfl
    | some session =>
      dsimp only
      rw [qod_notifyIf]
      rfl
  | cleanupExpiredSessions now =>
    cases h
    rw [storeOps, List.foldl_map]
    rfl
  | stop =>
    cases h
    rfl
  | ueOperation op =>
    obtain ⟨ue, -, rfl⟩ := Option.map_eq_some_iff.1 h
    rfl

/-! ### They are admissible -/

end QodSessionManager

namespace QodStore

variable {s : QodStore}

theorem admissibly_append {ops ops' : List QodStoreOp} :
    s.Admissibly (ops ++ ops') ↔ s.Admissibly ops ∧ (ops.foldl perform s).Admissibly ops' := by
  induction ops generalizing s with
  | nil => simp [Admissibly]
  | cons op ops ih => simp [Admissibly, ih, and_assoc]

/-- Updates that neither add nor overwrite a session are admissible. -/
theorem admissibly_of_forall {ops : List QodStoreOp} (h : ∀ op ∈ ops, ∀ s, Admissible s op) :
    s.Admissibly ops := by
  induction ops generalizing s with
  | nil => trivial
  | cons op ops ih =>
    exact ⟨h op List.mem_cons_self s, ih fun op' hop' => h op' (List.mem_cons_of_mem _ hop')⟩

/-- A stored session is written back. -/
theorem admissibly_updateSession (session : QodSession) {stored : QodSession}
    (hs : s.getSessionById session.sessionId = some stored)
    (hsupi : session.ueSupi = stored.ueSupi) : s.Admissibly [.updateSession session] := by
  refine ⟨fun stored' hs' => ?_, trivial⟩
  rw [hs, Option.some.injEq] at hs'
  exact hs' ▸ hsupi

end QodStore

namespace QodSessionManager

variable {m : QodSessionManager}

theorem admissibly_responseOps (hm : m.Filed) (q p : String) (success : Bool) (e : String)
    (now : ℤ) : m.qod.Admissibly (m.responseOps q p success e now) := by
  rw [responseOps]
  split
  next => trivial
  next session hs =>
    have hid : m.qod.getSessionById session.sessionId = some session := by rwa [hm q session hs]
    split_ifs
    · refine ⟨trivial, ?_⟩
      have hmap : (m.qod.updatePcfSessionMap p q).getSessionById session.sessionId =
        some session := hid
      exact QodStore.admissibly_updateSession (activated session p now) hmap rfl
    · exact QodStore.admissibly_updateSession (failed session e) hid rfl

theorem admissibly_terminatedOps (p : String) (now : ℤ) :
    m.qod.Admissibly (m.terminatedOps p now) := by
  rw [terminatedOps]
  split
  · trivial
  · split_ifs
    · dsimp only
      split
      · exact ⟨trivial, trivial, trivial⟩
      · trivial
    · exact ⟨trivial, trivial, trivial⟩

theorem admissibly_createOps (hm : m.Filed) (request : CreateSessionRequest) {sessionId : String}
    (hfresh : m.qod.getSessionById sessionId = none) (now : ℤ) (reply : Option PcfReply)
    (later : ℤ) : m.qod.Admissibly (m.createOps request sessionId now reply later) := by
  rw [createOps]
  split
  next session hprepared =>
    obtain ⟨rfl, -⟩ := prepared hprepared
    refine ⟨hfresh, QodStore.admissibly_append.2 ⟨?_, ?_⟩⟩
    · have hm₁ : ((m.storeSession session now).send (.createQodSession session)).Filed :=
        hm.of_addSession rfl
      split_ifs
      · rw [replyOps]
        cases PcfAnswer.of reply with
        | created p => exact admissibly_responseOps hm₁ _ _ _ _ _
        | ended p =>
          exact admissibly_terminatedOps
            (m := (m.storeSession session now).send (.createQodSession session)) p later
        | refused e => exact admissibly_responseOps hm₁ _ _ _ _ _
        | unreadable => trivial
      · trivial
    · by_cases happlied : ((m.storeSession session now).applySessionToPcf session reply later).1 = true
      · rw [if_pos happlied]
        trivial
      · rw [if_neg happlied]
        exact ⟨trivial, trivial⟩
  next => trivial

theorem admissibly_finishOps {s : QodStore} {session : QodSession}
    (hs : s.getSessionById session.sessionId = some session) (now : ℤ) :
    s.Admissibly (finishOps session now) := by
  have hupdate := QodStore.admissibly_updateSession (deleted session now) hs rfl
  rw [finishOps]
  split
  · exact hupdate
  · split
    · exact hupdate
    · trivial

theorem admissibly_deleteOps (hm : m.Filed) (sessionId consumer : String)
    (reply : Option PcfReply) (now : ℤ) :
    m.qod.Admissibly (m.deleteOps sessionId consumer reply now) := by
  rw [deleteOps, deleteRequest]
  split
  next => trivial
  next session hs =>
    obtain ⟨hs, -⟩ := Option.filter_eq_some_iff.1 hs
    obtain rfl := hm sessionId session hs
    split
    next => exact admissibly_finishOps hs now
    next =>
      split_ifs
      · split
        next p _ =>
          refine ⟨trivial, admissibly_finishOps ?_ now⟩
          exact (QodStore.getSessionById_removePcfToQodSessionMapping ..).trans hs
        next => trivial
      · trivial

theorem admissibly_extendOps (hm : m.Filed) (sessionId : String) (additional : ℤ)
    (consumer : String) : m.qod.Admissibly (m.extendOps sessionId additional consumer) := by
  rw [extendOps]
  split
  next => trivial
  next session hs =>
    obtain rfl := hm sessionId session hs
    split_ifs
    · trivial
    · trivial
    · split
      next => trivial
      next t _ =>
        exact QodStore.admissibly_updateSession (m.extended session additional t) hs rfl

end QodSessionManager

namespace QodRun

open QodSessionManager

variable {r r' : QodRun} {op : QodOp}

/-- The operations of the session manager add sessions under new ids and keep their
    SUPIs. -/
theorem admissibly_of_next (hr : qodSystem.Reachable r) (hnext : r.next op = some r') :
    r.manager.qod.Admissibly (r.manager.storeOps op) := by
  have hfiled := (filed_of_reachable hr).1
  cases op with
  | createSession request sessionId now reply later =>
    exact admissibly_createOps hfiled request (getSessionById_of_next hr hnext rfl) now reply later
  | extendSessionDuration sessionId additional consumer =>
    exact admissibly_extendOps hfiled sessionId additional consumer
  | deleteSession sessionId consumer reply now =>
    exact admissibly_deleteOps hfiled sessionId consumer reply now
  | handlePcfSessionResponse q p success e now =>
    exact admissibly_responseOps hfiled q p success e now
  | handlePcfSessionTerminated p now => exact admissibly_terminatedOps p now
  | handlePduSessionTerminatedEvent supi pduSessionId order =>
    rw [storeOps]
    split
    · trivial
    · exact ⟨trivial, trivial⟩
  | cleanupExpiredSessions now =>
    refine QodStore.admissibly_of_forall fun op hop s => ?_
    obtain ⟨session, -, rfl⟩ := List.mem_map.1 hop
    trivial
  | stop => exact ⟨trivial, trivial⟩
  | ueOperation op => trivial

/-- In every store reached by admissible updates the index by SUPI holds exactly the
    stored sessions and has no empty set, and the search by PDU session finds nothing
    exactly if there is nothing; and the session manager makes admissible updates
    only. -/
theorem supiIndexed_and_admissible :
    (∀ s : QodStore, qodStoreSystem.Reachable s →
      (∀ supi id, (∃ ids, s.sessionsBySupi.lookup supi = some ids ∧ id ∈ ids) ↔
        ∃ session, s.getSessionById id = some session ∧ session.ueSupi = some ⟨supi⟩) ∧
      (∀ supi ids, s.sessionsBySupi.lookup supi = some ids → ids ≠ []) ∧
      ∀ supi pduSessionId order, s.getSessionByPduSession supi pduSessionId order = none ↔
        ∀ id session, s.getSessionById id = some session → session.ueSupi = some supi →
          session.pduSessionId ≠ some pduSessionId) ∧
    ∀ (r : QodRun) (op : QodOp) (r' : QodRun), qodSystem.Reachable r → r.next op = some r' →
      r'.manager.qod = (r.manager.storeOps op).foldl QodStore.perform r.manager.qod ∧
        r.manager.qod.Admissibly (r.manager.storeOps op) := by
  refine ⟨fun s hs => ?_, fun r op r' hr hnext => ?_⟩
  · have h := QodStore.supiIndexed_of_reachable hs
    exact ⟨h.holds_iff, h.tidy.ne_nil, h.getSessionByPduSession_eq_none_iff⟩
  · exact ⟨qod_next (manager_of_next hnext), admissibly_of_next hr hnext⟩

/-- A session of a UE with a PDU session. -/
def pduSession : QodSession where
  sessionId := "session-1"
  apiConsumerId := "consumer"
  device := none
  applicationServer := { ipv4Address := some "203.0.113.5" }
  devicePorts := none
  applicationServerPorts := none
  qosProfile := "QOS_E"
  qosProfileMapping := none
  duration := 600
  sink := none
  sinkCredential := none
  createdAt := 0
  qosStatus := .requested
  ueSupi := some ⟨"imsi-001010000000001"⟩
  pduSessionId := some "5"

/-- It is found by its PDU session; and a request is stored under a new id. -/
theorem supiIndexed_pduSession :
    (∀ order, (QodStore.empty.addSession pduSession).getSessionByPduSession
      ⟨"imsi-001010000000001"⟩ "5" order ≠ none) ∧
      initial.manager.storeOps unanswered ≠ [] ∧
      initial.manager.qod.Admissibly (initial.manager.storeOps unanswered) := by
  refine ⟨fun order h => ?_, ?_, ?_⟩
  · have hs : qodStoreSystem.Reachable (QodStore.empty.addSession pduSession) :=
      .step (.init rfl) (a := .addSession pduSession) ⟨rfl, rfl⟩
    have hnone := ((supiIndexed_and_admissible.1 _ hs).2.2 _ _ order).1 h
    exact hnone "session-1" pduSession rfl rfl rfl
  · exact List.cons_ne_nil _ _
  · exact (supiIndexed_and_admissible.2 initial unanswered unansweredRun
      (.init ⟨_, _, _, _, rfl⟩) rfl).2

end QodRun

end PhineAf

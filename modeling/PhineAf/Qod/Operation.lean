import PhineAf.Qod.Manager

/-!
# What an operation does to a session

The operations of the session manager as one type, and what each of them does to
the stored sessions. It is said once, as an inversion: under every id the session
is kept, it is gone, or it is written as one of the cases of `Writes`
(`lookup_next`). Invariants of the stored sessions follow by `stored_next`, from
the sessions an operation writes.
-/

namespace PhineAf

/-- The operations of a session manager, with the readings of the clock and the
    replies of the PCF handler they see. -/
inductive QodOp
  | createSession (request : CreateSessionRequest) (sessionId : String) (now : ℤ)
      (reply : Option PcfReply) (later : ℤ)
  | extendSessionDuration (sessionId : String) (additional : ℤ) (apiConsumerId : String)
  | deleteSession (sessionId apiConsumerId : String) (reply : Option PcfReply) (now : ℤ)
  | handlePcfSessionResponse (qodSessionId pcfSessionId : String) (success : Bool)
      (errorMessage : String) (now : ℤ)
  | handlePcfSessionTerminated (pcfSessionId : String) (now : ℤ)
  | handlePduSessionTerminatedEvent (supi : Supi) (pduSessionId : String) (order : List String)
  | cleanupExpiredSessions (now : ℤ)
  | stop
  /-- Another component works on the UE store. -/
  | ueOperation (op : UeOp)

namespace QodSessionManager

/-- The manager after an operation, also when it throws. An `extend` of a session
    without `started_at` does not complete. -/
def next (m : QodSessionManager) : QodOp → Option QodSessionManager
  | .createSession request sessionId now reply later =>
    some (m.createSession request sessionId now reply later).2
  | .extendSessionDuration sessionId additional apiConsumerId =>
    match m.extendSessionDuration sessionId additional apiConsumerId with
    | (.ok _, m) => some m
    | (.error _, _) => none
  | .deleteSession sessionId apiConsumerId reply now =>
    some (m.deleteSession sessionId apiConsumerId reply now).2
  | .handlePcfSessionResponse qodSessionId pcfSessionId success errorMessage now =>
    some (m.handlePcfSessionResponse qodSessionId pcfSessionId success errorMessage now)
  | .handlePcfSessionTerminated pcfSessionId now =>
    some (m.handlePcfSessionTerminated pcfSessionId now).2
  | .handlePduSessionTerminatedEvent supi pduSessionId order =>
    some (m.handlePduSessionTerminatedEvent supi pduSessionId order)
  | .cleanupExpiredSessions now => some (m.cleanupExpiredSessions now)
  | .stop => some m.stop
  | .ueOperation op => (m.ue.next op).map fun ue => { m with ue }

/-! ## What the parts of an operation leave alone -/

variable {m : QodSessionManager}

/-- What is set up before the operations: the configuration, the PCF handler and the
    notification handler. -/
structure Setup where
  config : QodSessionConfig
  pcfService : Bool
  pcfDestination : String
  notificationHandler : Bool

def setup (m : QodSessionManager) : Setup :=
  ⟨m.config, m.pcfService, m.pcfDestination, m.notificationHandler⟩

/-- A notification changes what has been delivered only. -/
theorem notifyIf_eq (c : Bool) (session : QodSession) (info : Option StatusInfo) :
    ∃ delivered, m.notifyIf c session info = { m with delivered } := by
  rw [notifyIf, sendStatusChangeNotification]
  split
  · split
    · split
      · exact ⟨_, rfl⟩
      · exact ⟨_, rfl⟩
    · exact ⟨_, rfl⟩
  · exact ⟨_, rfl⟩

@[simp]
theorem qod_notifyIf (c : Bool) (session : QodSession) (info : Option StatusInfo) :
    (m.notifyIf c session info).qod = m.qod := by
  obtain ⟨delivered, h⟩ := notifyIf_eq (m := m) c session info
  rw [h]

@[simp]
theorem setup_notifyIf (c : Bool) (session : QodSession) (info : Option StatusInfo) :
    (m.notifyIf c session info).setup = m.setup := by
  obtain ⟨delivered, h⟩ := notifyIf_eq (m := m) c session info
  rw [h]
  rfl

/-- Every session is stored under its own id. -/
def Filed (m : QodSessionManager) : Prop :=
  ∀ id session, m.qod.getSessionById id = some session → session.sessionId = id

/-! ## PCF events -/

/-- What `handle_pcf_session_response` makes of the session. -/
def responded (session : QodSession) (pcfSessionId : String) (success : Bool)
    (errorMessage : String) (now : ℤ) : QodSession :=
  if success then activated session pcfSessionId now else failed session errorMessage

@[simp]
theorem sessionId_responded (session : QodSession) (p : String) (success : Bool) (e : String)
    (now : ℤ) : (responded session p success e now).sessionId = session.sessionId := by
  unfold responded
  split <;> rfl

/-- What `handle_pcf_session_response` does to the store. -/
theorem qod_handlePcfSessionResponse {q : String} {session : QodSession}
    (hs : m.qod.getSessionById q = some session) (p : String) (success : Bool) (e : String)
    (now : ℤ) :
    (m.handlePcfSessionResponse q p success e now).qod =
      if success then ((m.qod.updatePcfSessionMap p q).updateSession (activated session p now)).2
      else (m.qod.updateSession (failed session e)).2 := by
  rw [handlePcfSessionResponse, hs]
  cases success <;> simp

theorem getSessionById_handlePcfSessionResponse (hm : m.Filed) (q p : String) (success : Bool)
    (e : String) (now : ℤ) (id : String) :
    (m.handlePcfSessionResponse q p success e now).qod.getSessionById id =
      if id = q then (m.qod.getSessionById id).map (responded · p success e now)
      else m.qod.getSessionById id := by
  rw [handlePcfSessionResponse]
  split
  next hnone =>
    split_ifs with hid
    · rw [hid, hnone]
      rfl
    · rfl
  next session hs =>
    have hid : session.sessionId = q := hm q session hs
    -- Either way the session read is written back, changed, under its own id.
    have key : ∀ qod : QodStore, (∀ x, qod.getSessionById x = m.qod.getSessionById x) →
        (qod.updateSession (responded session p success e now)).2.getSessionById id =
          if id = q then (m.qod.getSessionById id).map (responded · p success e now)
          else m.qod.getSessionById id := by
      intro qod hqod
      have hstored : qod.getSessionById (responded session p success e now).sessionId =
          some session := by
        rw [sessionId_responded, hid, hqod, hs]
      rw [QodStore.getSessionById_updateSession_of_stored _ hstored, sessionId_responded, hid, hqod]
      split_ifs with h
      · rw [h, hs]
        rfl
      · rfl
    cases success with
    | true =>
      simp only [if_true, qod_notifyIf]
      exact key _ fun _ => rfl
    | false =>
      simp only [Bool.false_eq_true, if_false, qod_notifyIf]
      exact key _ fun _ => rfl

theorem setup_handlePcfSessionResponse (q p : String) (success : Bool) (e : String) (now : ℤ) :
    (m.handlePcfSessionResponse q p success e now).setup = m.setup := by
  rw [handlePcfSessionResponse]
  split
  · rfl
  · split <;> exact setup_notifyIf ..

/-- What `handle_pcf_session_terminated` does: nothing, or it drops the session the
    PCF id is mapped to. -/
theorem handlePcfSessionTerminated_cases (p : String) (now : ℤ) :
    (m.handlePcfSessionTerminated p now).2 = m ∨
      (m.handlePcfSessionTerminated p now).1 = .ok () ∧
        ∃ (session : QodSession) (m₁ : QodSessionManager),
          m.qod.getSessionByPcfSessionId p = some session ∧ m₁.setup = m.setup ∧
          m₁.qod = m.qod ∧
          (m.handlePcfSessionTerminated p now).2 = m₁.dropTerminated session.sessionId p := by
  rw [handlePcfSessionTerminated]
  split
  · exact .inl rfl
  next session hs =>
    split
    · dsimp only
      split
      · exact .inl rfl
      · exact .inl rfl
      · refine .inr ⟨rfl, session, _, hs, ?_, ?_, rfl⟩
        · exact setup_notifyIf ..
        · exact qod_notifyIf ..
    · exact .inr ⟨rfl, session, m, hs, rfl, rfl, rfl⟩

theorem getSessionById_dropTerminated (sessionId p id : String) :
    (m.dropTerminated sessionId p).qod.getSessionById id =
      if id = sessionId then none else m.qod.getSessionById id := by
  rw [dropTerminated, QodStore.getSessionById_removePcfToQodSessionMapping,
    QodStore.getSessionById_removeSession]

theorem getSessionById_handlePcfSessionTerminated (p : String) (now : ℤ) (id : String) :
    (m.handlePcfSessionTerminated p now).2.qod.getSessionById id = m.qod.getSessionById id ∨
      (m.handlePcfSessionTerminated p now).2.qod.getSessionById id = none ∧
        ∃ session, m.qod.getSessionByPcfSessionId p = some session ∧ session.sessionId = id := by
  rcases handlePcfSessionTerminated_cases (m := m) p now with h | ⟨-, session, m₁, hp, -, hqod, h⟩
  · exact .inl (by rw [h])
  · rw [h, getSessionById_dropTerminated, hqod]
    by_cases hid : id = session.sessionId
    · exact .inr ⟨if_pos hid, session, hp, hid.symm⟩
    · exact .inl (if_neg hid)

theorem setup_handlePcfSessionTerminated (p : String) (now : ℤ) :
    (m.handlePcfSessionTerminated p now).2.setup = m.setup := by
  rcases handlePcfSessionTerminated_cases (m := m) p now with h | ⟨-, session, m₁, -, hsetup, -, h⟩
  · rw [h]
  · rw [h]
    exact hsetup

theorem getSessionById_handlePduSessionTerminatedEvent (supi : Supi) (pduSessionId : String)
    (order : List String) (id : String) :
    (m.handlePduSessionTerminatedEvent supi pduSessionId order).qod.getSessionById id =
        m.qod.getSessionById id ∨
      (m.handlePduSessionTerminatedEvent supi pduSessionId order).qod.getSessionById id = none ∧
        ∃ session, m.qod.getSessionByPduSession supi pduSessionId order = some session ∧
          session.sessionId = id := by
  rw [handlePduSessionTerminatedEvent]
  cases hs : m.qod.getSessionByPduSession supi pduSessionId order with
  | none => exact .inl rfl
  | some session =>
    simp only [qod_notifyIf, QodStore.getSessionById_removeSession]
    by_cases h : id = session.sessionId
    · exact .inr ⟨if_pos h, session, rfl, h.symm⟩
    · exact .inl (if_neg h)

theorem setup_handlePduSessionTerminatedEvent (supi : Supi) (pduSessionId : String)
    (order : List String) :
    (m.handlePduSessionTerminatedEvent supi pduSessionId order).setup = m.setup := by
  rw [handlePduSessionTerminatedEvent]
  split
  · rfl
  · exact setup_notifyIf ..

/-! ## Creation -/

/-- What is checked of a session before it is stored. -/
theorem prepared {request : CreateSessionRequest} {sessionId : String} {now : ℤ}
    {session : QodSession} (h : m.prepareSession request sessionId now = .ok (some session)) :
    session.sessionId = sessionId ∧ session.apiConsumerId = request.apiConsumerId ∧
      session.device = request.device ∧
      session.applicationServer = request.applicationServer ∧
      session.qosStatus = .requested ∧
      m.config.minSessionDuration ≤ session.duration ∧
      session.duration ≤ m.getMaxDurationForProfile session.qosProfile ∧
      ∀ d, request.device = some d → m.checkSessionConflict d request.applicationServer = none := by
  rw [prepareSession] at h
  -- The profile, the duration, the device and the conflicts are checked in turn; a failed
  -- check gives no session.
  split at h
  · cases h
  · split at h
    · cases h
    · next hduration =>
      push Not at hduration
      split at h
      · cases h
      · simp only [bind, Except.bind] at h
        split at h
        · cases h
        · split at h
          · cases h
          · next hconflict =>
            cases h
            refine ⟨rfl, rfl, rfl, rfl, rfl, hduration.2, hduration.1, ?_⟩
            intro d hd
            simpa [hd] using hconflict

/-- A session is stored without the fields the PCF gives it. -/
theorem prepared_unset {request : CreateSessionRequest} {sessionId : String} {now : ℤ}
    {session : QodSession} (h : m.prepareSession request sessionId now = .ok (some session)) :
    session.sink = request.sink ∧ session.pcfSessionId = none ∧ session.startedAt = none ∧
      session.expiresAt = none := by
  rw [prepareSession] at h
  split at h
  · cases h
  · split at h
    · cases h
    · split at h
      · cases h
      · simp only [bind, Except.bind] at h
        split at h
        · cases h
        · split at h
          · cases h
          · cases h
            exact ⟨rfl, rfl, rfl, rfl⟩

theorem getSessionById_storeSession (session : QodSession) (now : ℤ) (id : String) :
    (m.storeSession session now).qod.getSessionById id =
      if id = session.sessionId then some session else m.qod.getSessionById id :=
  QodStore.getSessionById_addSession ..

/-- A new session is stored under its own id as well. -/
theorem Filed.of_addSession (hm : m.Filed) {m₁ : QodSessionManager} {session : QodSession}
    (hqod : m₁.qod = m.qod.addSession session) : m₁.Filed := by
  intro id s hs
  rw [hqod, QodStore.getSessionById_addSession] at hs
  split_ifs at hs with hid
  · rw [← Option.some.inj hs, hid]
  · exact hm id s hs

theorem qod_abandonSession (sessionId : String) (sink : Option String) :
    (m.abandonSession sessionId sink).2.qod =
      (m.qod.updateSessionStatus sessionId .unavailable (some .networkTerminated)).2 := by
  rw [abandonSession]
  dsimp only
  split
  · rfl
  · rw [qod_notifyIf]

theorem getSessionById_abandonSession (sessionId : String) (sink : Option String) (id : String) :
    (m.abandonSession sessionId sink).2.qod.getSessionById id =
      if id = sessionId then (m.qod.getSessionById id).map
        (QodStore.withStatus · .unavailable (some .networkTerminated))
      else m.qod.getSessionById id := by
  rw [qod_abandonSession]
  exact QodStore.getSessionById_updateSessionStatus ..

theorem setup_abandonSession (sessionId : String) (sink : Option String) :
    (m.abandonSession sessionId sink).2.setup = m.setup := by
  rw [abandonSession]
  dsimp only
  split
  · rfl
  · exact setup_notifyIf ..

/-- What a reply of the PCF handler says, as far as it can be read. -/
inductive PcfAnswer
  /-- An application session has been created. -/
  | created (pcfSessionId : String)
  /-- An application session has been removed. -/
  | ended (pcfSessionId : String)
  /-- The request has failed. -/
  | refused (message : String)
  /-- There is no reply, it is of another type, or its payload cannot be read. -/
  | unreadable
  deriving DecidableEq, Repr

/-- A reply is read, as in `apply_session_to_pcf` and `remove_session_from_pcf`. -/
def PcfAnswer.of (reply : Option PcfReply) : PcfAnswer :=
  match reply with
  | some ⟨.qodSessionCreated, payload⟩ =>
    match textOf payload "pcf_session_id" "" with
    | .ok pcfSessionId => .created pcfSessionId
    | .error _ => .unreadable
  | some ⟨.deleteAppSession, payload⟩ =>
    match textOf payload "pcf_session_id" "", textOf payload "reason" "Requested by user" with
    | .ok pcfSessionId, .ok _ => .ended pcfSessionId
    | _, _ => .unreadable
  | some ⟨.error, payload⟩ =>
    match textOf payload "message" "Unknown error",
        payload.elim (.error .typeError) fun j => j.value "status" (.int 500) >>= Json.getInt32 with
    | .ok message, .ok _ => .refused message
    | _, _ => .unreadable
  | _ => .unreadable

/-- `apply_session_to_pcf` depends on what the reply says only. -/
theorem applyReply_eq (sessionId : String) (reply : Option PcfReply) (now : ℤ) :
    m.applyReply sessionId reply now =
      match PcfAnswer.of reply with
      | .created p => (true, m.handlePcfSessionResponse sessionId p true "" now)
      | .ended p => ((m.handlePcfSessionTerminated p now).1.isOk, (m.handlePcfSessionTerminated p now).2)
      | .refused e => (false, m.handlePcfSessionResponse sessionId "" false e now)
      | .unreadable => (false, m) := by
  rcases reply with _ | ⟨_ | _ | _ | _, payload⟩
  · rfl
  · cases hp : textOf payload "pcf_session_id" "" <;> simp only [applyReply, PcfAnswer.of, hp]
  · cases hp : textOf payload "pcf_session_id" "" <;>
      cases hreason : textOf payload "reason" "Requested by user" <;>
      simp only [applyReply, PcfAnswer.of, hp, hreason]
  · cases he : textOf payload "message" "Unknown error" <;>
      cases hstatus : (payload.elim (.error .typeError) fun j =>
        j.value "status" (.int 500) >>= Json.getInt32 : Except Json.Error ℤ) <;>
      simp only [applyReply, PcfAnswer.of, he, hstatus]
  · rfl

/-- `remove_session_from_pcf` depends on what the reply says only. -/
theorem removeReply_eq (reply : Option PcfReply) :
    m.removeReply reply =
      match PcfAnswer.of reply with
      | .ended p => (true, { m with qod := (m.qod.removePcfToQodSessionMapping p).2 })
      | _ => (false, m) := by
  rcases reply with _ | ⟨_ | _ | _ | _, payload⟩
  · rfl
  · cases hp : textOf payload "pcf_session_id" "" <;> simp only [removeReply, PcfAnswer.of, hp]
  · cases hp : textOf payload "pcf_session_id" "" <;>
      cases hreason : textOf payload "reason" "Requested by user" <;>
      simp only [removeReply, PcfAnswer.of, hp, hreason]
  · cases he : textOf payload "message" "Unknown error" <;>
      cases hstatus : (payload.elim (.error .typeError) fun j =>
        j.value "status" (.int 500) >>= Json.getInt32 : Except Json.Error ℤ) <;>
      simp only [removeReply, PcfAnswer.of, he, hstatus]
  · rfl

/-- What `apply_session_to_pcf` makes of a reply. -/
theorem applyReply_cases (sessionId : String) (reply : Option PcfReply) (now : ℤ) :
    m.applyReply sessionId reply now = (false, m) ∨
      (∃ p, m.applyReply sessionId reply now =
        (true, m.handlePcfSessionResponse sessionId p true "" now)) ∨
      (∃ e, m.applyReply sessionId reply now =
        (false, m.handlePcfSessionResponse sessionId "" false e now)) ∨
      ∃ p, PcfAnswer.of reply = .ended p ∧
        m.applyReply sessionId reply now = (true, (m.handlePcfSessionTerminated p now).2) := by
  rw [applyReply_eq]
  cases PcfAnswer.of reply with
  | created p => exact .inr (.inl ⟨p, rfl⟩)
  | ended p =>
    -- A handler that throws has changed nothing, and the reply counts as a failure.
    rcases handlePcfSessionTerminated_cases (m := m) p now with h | ⟨hok, -⟩
    · cases hresult : (m.handlePcfSessionTerminated p now).1.isOk with
      | true => exact .inr (.inr (.inr ⟨p, rfl, by simp only [hresult]⟩))
      | false => exact .inl (by simp only [hresult, h])
    · exact .inr (.inr (.inr ⟨p, rfl, by simp only [hok, Except.isOk, Except.toBool]⟩))
  | refused e => exact .inr (.inr (.inl ⟨e, rfl⟩))
  | unreadable => exact .inl rfl

/-- What `create_session` does: nothing, or it stores the session, and abandons
    it, activates it, has it rejected, or is told of the end of a PCF session. -/
theorem createSession_cases (request : CreateSessionRequest) (sessionId : String) (now : ℤ)
    (reply : Option PcfReply) (later : ℤ) :
    let m' := (m.createSession request sessionId now reply later).2
    m' = m ∨ ∃ (session : QodSession) (m₁ : QodSessionManager),
      m.prepareSession request sessionId now = .ok (some session) ∧
      m₁.setup = m.setup ∧ m₁.qod = m.qod.addSession session ∧
      (m' = (m₁.abandonSession sessionId session.sink).2 ∨
        (∃ p, m' = m₁.handlePcfSessionResponse sessionId p true "" later) ∨
        (∃ e, m' = ((m₁.handlePcfSessionResponse sessionId "" false e later).abandonSession
          sessionId session.sink).2) ∨
        ∃ p, PcfAnswer.of reply = .ended p ∧
          m' = (m₁.handlePcfSessionTerminated p later).2) := by
  rw [createSession]
  split
  next => exact .inl rfl
  next => exact .inl rfl
  next session hprepared =>
    obtain ⟨hid, -⟩ := prepared hprepared
    right
    dsimp only
    rw [hid]
    split
    next =>
      -- The session is stored before the PCF is asked.
      refine ⟨session, (m.storeSession session now).send (.createQodSession session), hprepared,
        rfl, rfl, ?_⟩
      rcases applyReply_cases (m := (m.storeSession session now).send (.createQodSession session))
        sessionId reply later with h | ⟨p, h⟩ | ⟨e, h⟩ | ⟨p, hended, h⟩ <;> rw [h]
      · exact .inl (by rw [← hid]; rfl)
      · exact .inr (.inl ⟨p, rfl⟩)
      · exact .inr (.inr (.inl ⟨e, by rw [← hid]; rfl⟩))
      · exact .inr (.inr (.inr ⟨p, hended, rfl⟩))
    next =>
      exact ⟨session, m.storeSession session now, hprepared, rfl, rfl,
        .inl (by rw [← hid]; rfl)⟩

/-- `apply_session_to_pcf`. -/
def applySessionToPcf (m : QodSessionManager) (session : QodSession) (reply : Option PcfReply)
    (later : ℤ) : Bool × QodSessionManager :=
  if m.pcfReady then
    (m.send (.createQodSession session)).applyReply session.sessionId reply later
  else (false, m)

theorem createSession_of_prepared {request : CreateSessionRequest} {sessionId : String} {now : ℤ}
    {session : QodSession} (h : m.prepareSession request sessionId now = .ok (some session))
    (reply : Option PcfReply) (later : ℤ) :
    m.createSession request sessionId now reply later =
      concludeSession session
        ((m.storeSession session now).applySessionToPcf session reply later) := by
  rw [createSession, h, applySessionToPcf]
  dsimp only
  split <;> rfl

/-- `apply_session_to_pcf` succeeds: the PCF handler is set up, and says that it has
    created the application session, or ended one whose end can be handled. -/
def Applied (m : QodSessionManager) (reply : Option PcfReply) : Prop :=
  m.pcfReady ∧ match PcfAnswer.of reply with
    | .created _ => True
    | .ended p => ∀ session, m.qod.getSessionByPcfSessionId p = some session →
      session.qosStatus = .available → ∃ key, createOrGetUeKey session = .ok key
    | .refused _ => False
    | .unreadable => False

/-- The end of an application session is handled unless the key of the UE throws. -/
theorem isOk_handlePcfSessionTerminated_iff (p : String) (now : ℤ) :
    (m.handlePcfSessionTerminated p now).1.isOk = true ↔
      ∀ session, m.qod.getSessionByPcfSessionId p = some session →
        session.qosStatus = .available → ∃ key, createOrGetUeKey session = .ok key := by
  rw [handlePcfSessionTerminated]
  cases hs : m.qod.getSessionByPcfSessionId p with
  | none => simp [Except.isOk, Except.toBool]
  | some session =>
    simp only [Option.some.injEq, forall_eq']
    by_cases hstatus : session.qosStatus = .available
    · simp only [hstatus, if_true, true_implies]
      have hkey : createOrGetUeKey { session with
          qosStatus := .unavailable
          statusInfo := some .networkTerminated
          expiresAt := some now } = createOrGetUeKey session := rfl
      rw [releaseUe, hkey]
      cases hpdu : session.pduSessionId <;> cases hdevice : session.device
      · simp [createOrGetUeKey, hdevice, Except.isOk, Except.toBool, pure, Except.pure]
      · cases createOrGetUeKey session <;>
          simp [Except.isOk, Except.toBool, pure, Except.pure, bind, Except.bind]
      · simp [createOrGetUeKey, hdevice, Except.isOk, Except.toBool, pure, Except.pure]
      · cases createOrGetUeKey session with
        | error e => simp [Except.isOk, Except.toBool, bind, Except.bind]
        | ok key => cases key <;>
            simp [Except.isOk, Except.toBool, pure, Except.pure, bind, Except.bind]
    · simp [hstatus, Except.isOk, Except.toBool]

/-- A new session, which has no application session yet, does not matter to the end of
    one. -/
theorem fst_applySessionToPcf_iff {session : QodSession} (now : ℤ)
    (hfresh : m.qod.getSessionById session.sessionId = none)
    (hstatus : session.qosStatus = .requested) (reply : Option PcfReply) (later : ℤ) :
    ((m.storeSession session now).applySessionToPcf session reply later).1 = true ↔
      m.Applied reply := by
  have hready : (m.storeSession session now).pcfReady = m.pcfReady := rfl
  rw [applySessionToPcf, Applied, hready]
  cases m.pcfReady with
  | false => simp
  | true =>
    simp only [if_true, true_and, applyReply_eq]
    cases PcfAnswer.of reply with
    | created p => simp
    | refused e => simp
    | unreadable => simp
    | ended p =>
      simp only [isOk_handlePcfSessionTerminated_iff]
      -- The session found is the new one, which is not available, or was found before.
      have hfind : ∀ s : QodSession, s.qosStatus = .available →
          (((m.storeSession session now).send
            (.createQodSession session)).qod.getSessionByPcfSessionId p = some s ↔
            m.qod.getSessionByPcfSessionId p = some s) := by
        intro s hs
        have hmap : ((m.storeSession session now).send
            (.createQodSession session)).qod.getSessionByPcfSessionId p =
          (m.qod.pcfSessionMapping.lookup p).bind
            (m.storeSession session now).qod.getSessionById := rfl
        rw [hmap, QodStore.getSessionByPcfSessionId, Option.bind_eq_some_iff,
          Option.bind_eq_some_iff]
        refine exists_congr fun id => and_congr_right fun _ => ?_
        rw [getSessionById_storeSession]
        split_ifs with hid
        · subst hid
          rw [hfresh]
          refine ⟨fun h => ?_, fun h => by cases h⟩
          rw [← Option.some.inj h, hstatus] at hs
          cases hs
        · rfl
      exact forall_congr' fun s => ⟨fun h hs hav => h ((hfind s hav).2 hs) hav,
        fun h hs hav => h ((hfind s hav).1 hs) hav⟩

/-- A session that could not be applied is stored as before, or as failed. -/
theorem getSessionById_applySessionToPcf_of_not (hm : m.Filed) {session : QodSession}
    {reply : Option PcfReply} {later : ℤ}
    (h : (m.applySessionToPcf session reply later).1 = false) :
    (∀ id, (m.applySessionToPcf session reply later).2.qod.getSessionById id =
        m.qod.getSessionById id) ∨
      ∃ e, ∀ id, (m.applySessionToPcf session reply later).2.qod.getSessionById id =
        if id = session.sessionId then (m.qod.getSessionById id).map (failed · e)
        else m.qod.getSessionById id := by
  rw [applySessionToPcf] at h ⊢
  split
  next hready =>
    rw [if_pos hready] at h
    rcases applyReply_cases (m := m.send (.createQodSession session)) session.sessionId reply later
      with heq | ⟨p, heq⟩ | ⟨e, heq⟩ | ⟨p, -, heq⟩ <;> rw [heq] at h ⊢
    · exact .inl fun _ => rfl
    · cases h
    · exact .inr ⟨e, fun id => getSessionById_handlePcfSessionResponse
        (m := m.send (.createQodSession session)) hm ..⟩
    · cases h
  next => exact .inl fun _ => rfl

/-- A request has its session prepared, or is refused and changes nothing. -/
theorem createSession_prepared_or_refused (request : CreateSessionRequest) (sessionId : String)
    (now : ℤ) (reply : Option PcfReply) (later : ℤ) :
    (∃ session, m.prepareSession request sessionId now = .ok (some session)) ∨
      (∀ session, m.prepareSession request sessionId now ≠ .ok (some session)) ∧
        (m.createSession request sessionId now reply later).2 = m := by
  rw [createSession]
  rcases m.prepareSession request sessionId now with e | _ | session
  · exact .inr ⟨fun _ h => (by cases h), rfl⟩
  · exact .inr ⟨fun _ h => (by cases h), rfl⟩
  · exact .inl ⟨session, rfl⟩

theorem setup_createSession (request : CreateSessionRequest) (sessionId : String) (now : ℤ)
    (reply : Option PcfReply) (later : ℤ) :
    (m.createSession request sessionId now reply later).2.setup = m.setup := by
  rcases createSession_cases (m := m) request sessionId now reply later with
    h | ⟨session, m₁, -, hsetup, -, h | ⟨p, h⟩ | ⟨e, h⟩ | ⟨p, -, h⟩⟩ <;> rw [h]
  · rw [setup_abandonSession, hsetup]
  · rw [setup_handlePcfSessionResponse, hsetup]
  · rw [setup_abandonSession, setup_handlePcfSessionResponse, hsetup]
  · rw [setup_handlePcfSessionTerminated, hsetup]

/-! ## Deletion and extension -/

/-- What `delete_session` does: it leaves the sessions alone, or writes the one
    read back as deleted. -/
theorem qod_finishDelete (session : QodSession) (now : ℤ) :
    (m.finishDelete session now).2.qod = m.qod ∨
      (m.finishDelete session now).2.qod = (m.qod.updateSession (deleted session now)).2 := by
  rw [finishDelete]
  dsimp only
  split
  · exact .inr (by simp)
  · split
    · exact .inl rfl
    · exact .inl rfl
    · exact .inr (by simp)

theorem setup_finishDelete (session : QodSession) (now : ℤ) :
    (m.finishDelete session now).2.setup = m.setup := by
  rw [finishDelete]
  dsimp only
  split
  · exact setup_notifyIf ..
  · split
    · rfl
    · rfl
    · exact setup_notifyIf ..

/-- What `remove_session_from_pcf` makes of a reply: the removal is confirmed, and
    the mapping of a PCF id goes, or nothing happens. -/
theorem removeReply_cases (reply : Option PcfReply) :
    (∃ p, ∀ m : QodSessionManager, m.removeReply reply =
      (true, { m with qod := (m.qod.removePcfToQodSessionMapping p).2 })) ∨
      ∀ m : QodSessionManager, m.removeReply reply = (false, m) := by
  cases h : PcfAnswer.of reply with
  | ended p => exact .inl ⟨p, fun _ => by rw [removeReply_eq, h]⟩
  | created p => exact .inr fun _ => by rw [removeReply_eq, h]
  | refused e => exact .inr fun _ => by rw [removeReply_eq, h]
  | unreadable => exact .inr fun _ => by rw [removeReply_eq, h]

theorem getSessionById_removeReply (reply : Option PcfReply) (id : String) :
    (m.removeReply reply).2.qod.getSessionById id = m.qod.getSessionById id := by
  rcases removeReply_cases reply with ⟨p, h⟩ | h
  · rw [h]
    exact QodStore.getSessionById_removePcfToQodSessionMapping ..
  · rw [h]

theorem setup_removeReply (reply : Option PcfReply) :
    (m.removeReply reply).2.setup = m.setup := by
  rcases removeReply_cases reply with ⟨p, h⟩ | h <;> rw [h]
  rfl

theorem getSessionById_finishDelete {sessionId : String} {session : QodSession}
    (hid : session.sessionId = sessionId) (now : ℤ) (id : String) :
    (m.finishDelete session now).2.qod.getSessionById id = m.qod.getSessionById id ∨
      id = sessionId ∧
        (m.finishDelete session now).2.qod.getSessionById id = some (deleted session now) := by
  rcases qod_finishDelete (m := m) session now with h | h
  · exact .inl (by rw [h])
  · rw [h, QodStore.getSessionById_updateSession]
    have hid' : (deleted session now).sessionId = sessionId := hid
    split_ifs with hc
    · exact .inr ⟨hc.1.trans hid', rfl⟩
    · exact .inl rfl

theorem getSessionById_deleteSession (hm : m.Filed) (sessionId consumer : String)
    (reply : Option PcfReply) (now : ℤ) (id : String) :
    (m.deleteSession sessionId consumer reply now).2.qod.getSessionById id =
        m.qod.getSessionById id ∨
      id = sessionId ∧ ∃ session, m.qod.getSessionById id = some session ∧
        (m.deleteSession sessionId consumer reply now).2.qod.getSessionById id =
          some (deleted session now) := by
  rw [deleteSession, deleteRequest]
  split
  next => exact .inl rfl
  next session hs =>
    obtain ⟨hs, -⟩ := Option.filter_eq_some_iff.1 hs
    -- The end is the same whatever was said to the PCF, which touches no session.
    have finish : ∀ m' : QodSessionManager,
        (∀ x, m'.qod.getSessionById x = m.qod.getSessionById x) →
        (m'.finishDelete session now).2.qod.getSessionById id = m.qod.getSessionById id ∨
          id = sessionId ∧ ∃ s, m.qod.getSessionById id = some s ∧
            (m'.finishDelete session now).2.qod.getSessionById id = some (deleted s now) := by
      intro m' hm'
      rcases getSessionById_finishDelete (m := m') (hm _ _ hs) now id with h | ⟨rfl, h⟩
      · exact .inl (h.trans (hm' id))
      · exact .inr ⟨rfl, session, hs, h⟩
    split
    next => exact finish m fun _ => rfl
    next p _ =>
      split
      next =>
        have hreply (x : String) := getSessionById_removeReply
          (m := m.send (.deleteQodSession p session.sessionId)) reply x
        split
        next m' hm' =>
          rw [hm'] at hreply
          exact finish m' hreply
        next m' hm' =>
          rw [hm'] at hreply
          exact .inl (hreply id)
      next => exact .inl rfl

theorem setup_deleteSession (sessionId consumer : String) (reply : Option PcfReply) (now : ℤ) :
    (m.deleteSession sessionId consumer reply now).2.setup = m.setup := by
  rw [deleteSession]
  split
  next => rfl
  next session _ =>
    split
    next => exact setup_finishDelete ..
    next p _ =>
      split
      next =>
        have hreply := setup_removeReply (m := m.send (.deleteQodSession p session.sessionId)) reply
        split
        next m' hm' =>
          rw [hm'] at hreply
          exact (setup_finishDelete ..).trans hreply
        next m' hm' =>
          rw [hm'] at hreply
          exact hreply
      next => rfl

/-- What `extend_session_duration` does when it completes: nothing, or it writes
    the extended session. -/
theorem extendSessionDuration_cases {sessionId consumer : String} {additional : ℤ}
    {result : Option QodSession} {m' : QodSessionManager}
    (h : m.extendSessionDuration sessionId additional consumer = (.ok result, m')) :
    (result = none ∧ m' = m) ∨ ∃ session t, m.qod.getSessionById sessionId = some session ∧
      session.apiConsumerId = consumer ∧ session.qosStatus ≠ .unavailable ∧
      session.startedAt = some t ∧ result = some (m.extended session additional t) ∧
      m' = { m with qod := (m.qod.updateSession (m.extended session additional t)).2 } := by
  rw [extendSessionDuration] at h
  split at h
  next =>
    cases h
    exact .inl ⟨rfl, rfl⟩
  next session hs =>
    split at h
    next =>
      cases h
      exact .inl ⟨rfl, rfl⟩
    next hconsumer =>
      split at h
      next =>
        cases h
        exact .inl ⟨rfl, rfl⟩
      next hstatus =>
        split at h
        next => cases h
        next t ht =>
          cases h
          exact .inr ⟨session, t, hs, not_not.1 hconsumer, hstatus, ht, rfl, rfl⟩

theorem getSessionById_extended (hm : m.Filed) {sessionId : String} {session : QodSession}
    (hs : m.qod.getSessionById sessionId = some session) (additional t : ℤ) (id : String) :
    (m.qod.updateSession (m.extended session additional t)).2.getSessionById id =
      if id = sessionId then some (m.extended session additional t)
      else m.qod.getSessionById id := by
  have hid : (m.extended session additional t).sessionId = sessionId := hm _ session hs
  rw [← hid] at hs
  rw [QodStore.getSessionById_updateSession_of_stored _ hs, hid]

/-! ## One operation -/

/-- An extension that completes changes nothing, or it writes the extended session. -/
theorem next_extendSessionDuration_cases {sessionId consumer : String} {additional : ℤ}
    {m' : QodSessionManager}
    (h : m.next (.extendSessionDuration sessionId additional consumer) = some m') :
    m' = m ∨ ∃ session t, m.qod.getSessionById sessionId = some session ∧
      session.apiConsumerId = consumer ∧ session.qosStatus ≠ .unavailable ∧
      session.startedAt = some t ∧
      m' = { m with qod := (m.qod.updateSession (m.extended session additional t)).2 } := by
  simp only [next] at h
  split at h
  next hextend =>
    cases h
    obtain ⟨-, heq⟩ | ⟨session, t, hs, hconsumer, hstatus, ht, -, heq⟩ :=
      extendSessionDuration_cases hextend
    · exact .inl heq
    · exact .inr ⟨session, t, hs, hconsumer, hstatus, ht, heq⟩
  next => cases h

/-- What is set up never changes. -/
theorem setup_next {op : QodOp} {m' : QodSessionManager} (h : m.next op = some m') :
    m'.setup = m.setup := by
  cases op with
  | createSession request sessionId now reply later =>
    cases h
    exact setup_createSession ..
  | extendSessionDuration sessionId additional consumer =>
    obtain rfl | ⟨session, t, -, -, -, -, rfl⟩ := next_extendSessionDuration_cases h <;> rfl
  | deleteSession sessionId consumer reply now =>
    cases h
    exact setup_deleteSession ..
  | handlePcfSessionResponse q p success e now =>
    cases h
    exact setup_handlePcfSessionResponse ..
  | handlePcfSessionTerminated p now =>
    cases h
    exact setup_handlePcfSessionTerminated ..
  | handlePduSessionTerminatedEvent supi pduSessionId order =>
    cases h
    exact setup_handlePduSessionTerminatedEvent ..
  | cleanupExpiredSessions now =>
    cases h
    rfl
  | stop =>
    cases h
    rfl
  | ueOperation op =>
    obtain ⟨ue, -, rfl⟩ := Option.map_eq_some_iff.1 h
    rfl

theorem config_next {op : QodOp} {m' : QodSessionManager} (h : m.next op = some m') :
    m'.config = m.config :=
  congrArg Setup.config (setup_next h)

/-- The sessions an operation can write, by the id they are stored under. -/
inductive Writes (m : QodSessionManager) : QodOp → String → QodSession → Prop
  | requested {request id now reply later session} :
      m.prepareSession request id now = .ok (some session) →
      Writes m (.createSession request id now reply later) id session
  | started {request id now reply later session} (p : String) :
      m.prepareSession request id now = .ok (some session) →
      Writes m (.createSession request id now reply later) id (activated session p later)
  | abandoned {request id now reply later session} :
      m.prepareSession request id now = .ok (some session) →
      Writes m (.createSession request id now reply later) id
        (QodStore.withStatus session .unavailable (some .networkTerminated))
  | rejected {request id now reply later session} (e : String) :
      m.prepareSession request id now = .ok (some session) →
      Writes m (.createSession request id now reply later) id
        (QodStore.withStatus (failed session e) .unavailable (some .networkTerminated))
  | extended {id additional session t} :
      m.qod.getSessionById id = some session → session.qosStatus ≠ .unavailable →
      session.startedAt = some t →
      Writes m (.extendSessionDuration id additional session.apiConsumerId) id
        (m.extended session additional t)
  | deleted {id consumer reply now session} : m.qod.getSessionById id = some session →
      Writes m (.deleteSession id consumer reply now) id (deleted session now)
  | activated {id p e now session} : m.qod.getSessionById id = some session →
      Writes m (.handlePcfSessionResponse id p true e now) id (activated session p now)
  | failed {id p e now session} : m.qod.getSessionById id = some session →
      Writes m (.handlePcfSessionResponse id p false e now) id (failed session e)

/-- The sessions an operation can take away. -/
inductive Removes (m : QodSessionManager) : QodOp → String → Prop
  /-- The PCF answers a request with the end of another session. -/
  | told {request sessionId now reply later id} :
      Removes m (.createSession request sessionId now reply later) id
  | terminated {p now session} : m.qod.getSessionByPcfSessionId p = some session →
      Removes m (.handlePcfSessionTerminated p now) session.sessionId
  | pduTerminated {supi pduSessionId order session} :
      m.qod.getSessionByPduSession supi pduSessionId order = some session →
      Removes m (.handlePduSessionTerminatedEvent supi pduSessionId order) session.sessionId
  | expired {now session} :
      session ∈ m.qod.getExpiredSessions now m.config.unavailableSessionTtl →
      Removes m (.cleanupExpiredSessions now) session.sessionId
  | stopped {id} : Removes m .stop id

/-- What `create_session` does to the session stored under an id. -/
theorem lookup_createSession (hm : m.Filed) (request : CreateSessionRequest) (sessionId : String)
    (now : ℤ) (reply : Option PcfReply) (later : ℤ) (id : String) :
    let m' := (m.createSession request sessionId now reply later).2
    m'.qod.getSessionById id = m.qod.getSessionById id ∨
      (m'.qod.getSessionById id = none ∧
        m.Removes (.createSession request sessionId now reply later) id) ∨
      ∃ session, m'.qod.getSessionById id = some session ∧
        m.Writes (.createSession request sessionId now reply later) id session := by
  dsimp only
  rcases createSession_cases (m := m) request sessionId now reply later with
    h | ⟨session, m₁, hprepared, -, hqod, h⟩
  · exact .inl (by rw [h])
  · have hsession := (prepared hprepared).1
    have hadd : ∀ x, m₁.qod.getSessionById x =
        if x = sessionId then some session else m.qod.getSessionById x := by
      intro x
      rw [hqod, QodStore.getSessionById_addSession, hsession]
    -- The reply is handled in a store where the new session is filed as well.
    have hm₁ : m₁.Filed := hm.of_addSession hqod
    by_cases hid : id = sessionId
    · -- The new session, as the reply leaves it.
      subst hid
      have hnew : m₁.qod.getSessionById id = some session := (hadd id).trans (if_pos rfl)
      rcases h with h | ⟨p, h⟩ | ⟨e, h⟩ | ⟨p, -, h⟩ <;> rw [h]
      · rw [getSessionById_abandonSession, if_pos rfl, hnew]
        exact .inr (.inr ⟨_, rfl, .abandoned hprepared⟩)
      · rw [getSessionById_handlePcfSessionResponse hm₁, if_pos rfl, hnew]
        exact .inr (.inr ⟨_, rfl, .started p hprepared⟩)
      · rw [getSessionById_abandonSession, if_pos rfl,
          getSessionById_handlePcfSessionResponse hm₁, if_pos rfl, hnew]
        exact .inr (.inr ⟨_, rfl, .rejected e hprepared⟩)
      · rcases getSessionById_handlePcfSessionTerminated (m := m₁) p later id with h | ⟨h, -⟩
        · exact .inr (.inr ⟨session, h.trans hnew, .requested hprepared⟩)
        · exact .inr (.inl ⟨h, .told⟩)
    · -- Another session, which only the end of its PCF session takes away.
      have hother : m₁.qod.getSessionById id = m.qod.getSessionById id :=
        (hadd id).trans (if_neg hid)
      rcases h with h | ⟨p, h⟩ | ⟨e, h⟩ | ⟨p, -, h⟩ <;> rw [h]
      · rw [getSessionById_abandonSession, if_neg hid]
        exact .inl hother
      · rw [getSessionById_handlePcfSessionResponse hm₁, if_neg hid]
        exact .inl hother
      · rw [getSessionById_abandonSession, if_neg hid,
          getSessionById_handlePcfSessionResponse hm₁, if_neg hid]
        exact .inl hother
      · rcases getSessionById_handlePcfSessionTerminated (m := m₁) p later id with h | ⟨h, -⟩
        · exact .inl (h.trans hother)
        · exact .inr (.inl ⟨h, .told⟩)

/-- What an operation does to the session stored under an id. -/
theorem lookup_next (hm : m.Filed) {op : QodOp} {m' : QodSessionManager} (h : m.next op = some m')
    (id : String) :
    m'.qod.getSessionById id = m.qod.getSessionById id ∨
      (m'.qod.getSessionById id = none ∧ m.Removes op id) ∨
      ∃ session, m'.qod.getSessionById id = some session ∧ m.Writes op id session := by
  cases op with
  | createSession request sessionId now reply later =>
    cases h
    exact lookup_createSession hm request sessionId now reply later id
  | extendSessionDuration sessionId additional consumer =>
    obtain rfl | ⟨session, t, hs, rfl, hstatus, ht, rfl⟩ := next_extendSessionDuration_cases h
    · exact .inl rfl
    · have hwrite := getSessionById_extended hm hs additional t id
      by_cases hid : id = sessionId
      · subst hid
        rw [if_pos rfl] at hwrite
        exact .inr (.inr ⟨_, hwrite, .extended hs hstatus ht⟩)
      · rw [if_neg hid] at hwrite
        exact .inl hwrite
  | deleteSession sessionId consumer reply now =>
    cases h
    rcases getSessionById_deleteSession hm sessionId consumer reply now id with
      h | ⟨rfl, session, hs, h⟩
    · exact .inl h
    · exact .inr (.inr ⟨_, h, .deleted hs⟩)
  | handlePcfSessionResponse q p success e now =>
    cases h
    have hwrite := getSessionById_handlePcfSessionResponse hm q p success e now id
    by_cases hid : id = q
    · subst hid
      rw [if_pos rfl] at hwrite
      cases hs : m.qod.getSessionById id with
      | none =>
        rw [hs] at hwrite
        exact .inl hwrite
      | some session =>
        rw [hs] at hwrite
        refine .inr (.inr ⟨_, hwrite, ?_⟩)
        cases success with
        | true => exact .activated hs
        | false => exact .failed hs
    · rw [if_neg hid] at hwrite
      exact .inl hwrite
  | handlePcfSessionTerminated p now =>
    cases h
    rcases getSessionById_handlePcfSessionTerminated (m := m) p now id with
      h | ⟨h, session, hs, rfl⟩
    · exact .inl h
    · exact .inr (.inl ⟨h, .terminated hs⟩)
  | handlePduSessionTerminatedEvent supi pduSessionId order =>
    cases h
    rcases getSessionById_handlePduSessionTerminatedEvent (m := m) supi pduSessionId order id with
      h | ⟨h, session, hs, rfl⟩
    · exact .inl h
    · exact .inr (.inl ⟨h, .pduTerminated hs⟩)
  | cleanupExpiredSessions now =>
    cases h
    have hfold := QodStore.getSessionById_foldl_removeSession m.qod
      (m.qod.getExpiredSessions now m.config.unavailableSessionTtl) id
    split_ifs at hfold with hexpired
    · obtain ⟨session, hsession, rfl⟩ := List.mem_map.1 hexpired
      exact .inr (.inl ⟨hfold, .expired hsession⟩)
    · exact .inl hfold
  | stop =>
    cases h
    exact .inr (.inl ⟨QodStore.getSessionById_clearAllSessions .., .stopped⟩)
  | ueOperation op =>
    obtain ⟨ue, -, rfl⟩ := Option.map_eq_some_iff.1 h
    exact .inl rfl

/-- A session is written under its own id. -/
theorem Writes.sessionId_eq (hm : m.Filed) {op : QodOp} {id : String} {session : QodSession}
    (h : m.Writes op id session) : session.sessionId = id := by
  cases h with
  | requested h => exact (prepared h).1
  | started p h => exact (prepared h).1
  | abandoned h => exact (prepared h).1
  | rejected e h => exact (prepared h).1
  | extended hs => exact (hm _ _ hs :)
  | deleted hs => exact (hm _ _ hs :)
  | activated hs => exact (hm _ _ hs :)
  | failed hs => exact (hm _ _ hs :)

/-- A property of sessions that the operation gives to those it writes holds of
    all that are stored after it. -/
theorem stored_next (hm : m.Filed) {P : String → QodSession → Prop} {op : QodOp}
    {m' : QodSessionManager} (h : m.next op = some m')
    (hP : ∀ id session, m.qod.getSessionById id = some session → P id session)
    (hwrites : ∀ id session, m.Writes op id session → P id session) :
    ∀ id session, m'.qod.getSessionById id = some session → P id session := by
  intro id session hs
  rcases lookup_next hm h id with h | ⟨h, -⟩ | ⟨s, h, hwrite⟩
  · exact hP id session (h.symm.trans hs)
  · rw [h] at hs
    cases hs
  · rw [h, Option.some.injEq] at hs
    exact hs ▸ hwrites id s hwrite

theorem Filed.next (hm : m.Filed) {op : QodOp} {m' : QodSessionManager} (h : m.next op = some m') :
    m'.Filed :=
  stored_next hm h hm fun _ _ => Writes.sessionId_eq hm

end QodSessionManager

end PhineAf

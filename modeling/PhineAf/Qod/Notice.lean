import PhineAf.Qod.PcfMapping
import PhineAf.Qod.SupiIndex

/-!
# Notifications of status changes

The consumer of a session with a sink is to be told of every change of its status
that the PCF or the network causes, and of its deletion while it is available: once,
and with the status after the change. What counts as a change is read off the states
before and after an operation (`QodSessionManager.statusChange`), not off the
notifications.

Some operations miss this: a creation that the PCF refuses is told twice, a repeated
response again, and the end of a PDU session with the status before it, or not at all.
`QodRun.TellsOnce` says that an operation does none of these. In runs of such
operations (`noticeSystem`) the notifications of a session are its changes, in order
(`NoticeRun.noted_of_reachable`).
-/

namespace PhineAf

namespace QodSessionManager

variable {m m₁ m' : QodSessionManager} {op : QodOp} {id : String}

/-! ## Changes -/

/-- A change of a session's status is to be told: it comes from the PCF or the network, or
    from the deletion of an available session. -/
def counts (op : QodOp) (session : QodSession) : Bool :=
  match op with
  | .createSession .. => true
  | .handlePcfSessionResponse .. => true
  | .handlePcfSessionTerminated .. => true
  | .handlePduSessionTerminatedEvent .. => true
  | .deleteSession .. => session.qosStatus == .available
  | _ => false

/-- The change of a session with a sink to a status, if it is to be told. -/
def changeOf (op : QodOp) (before : Option QodSession) (after : QosStatus) : Option QosStatus :=
  (before.filter fun session =>
    session.sink.isSome && counts op session && session.qosStatus != after).map fun _ => after

/-- The session an operation starts from: the one stored, or the one it stores itself. -/
def found (m : QodSessionManager) (op : QodOp) (id : String) : Option QodSession :=
  match op with
  | .createSession request sessionId now _ _ =>
    if id = sessionId then (m.prepareSession request sessionId now).toOption.join
    else m.qod.getSessionById id
  | _ => m.qod.getSessionById id

/-- The change of a session's status in an operation. -/
def statusChange (m : QodSessionManager) (op : QodOp) (m' : QodSessionManager) (id : String) :
    Option QosStatus :=
  changeOf op (m.found op id) (m'.statusOf id)

/-- The statuses a session has been notified of, latest first. -/
def noted (m : QodSessionManager) (id : String) : List QosStatus :=
  (m.delivered.filter (·.sessionId == id)).map (·.qosStatus)

/-- From the state `m₁` on, an operation notifies of the changes, and of nothing else. -/
def Reports (op : QodOp) (m₁ m' : QodSessionManager) : Prop :=
  ∀ id, m'.noted id =
    (changeOf op (m₁.qod.getSessionById id) (m'.statusOf id)).toList ++ m₁.noted id

/-- Notifications are enabled, and a handler delivers them. -/
def Notifies (m : QodSessionManager) : Prop :=
  m.config.enableNotifications = true ∧ m.notificationHandler = true

theorem Notifies.congr (h : m.Notifies) (hsetup : m'.setup = m.setup) : m'.Notifies := by
  have hconfig : m'.config = m.config := congrArg Setup.config hsetup
  have hhandler : m'.notificationHandler = m.notificationHandler :=
    congrArg Setup.notificationHandler hsetup
  rwa [Notifies, hconfig, hhandler]

theorem changeOf_kept (before : Option QodSession) :
    changeOf op before (before.elim .unavailable (·.qosStatus)) = none := by
  rcases before with _ | session
  · rfl
  · simp [changeOf]

theorem changeOf_some (session : QodSession) (after : QosStatus) :
    changeOf op (some session) after =
      if session.sink.isSome ∧ counts op session = true ∧ session.qosStatus ≠ after then some after
      else none := by
  rw [changeOf, Option.filter_some]
  split_ifs with h h' h' <;> simp_all

/-- A session that is kept has not changed. -/
theorem changeOf_of_eq (h : m'.qod.getSessionById id = m₁.qod.getSessionById id) :
    changeOf op (m₁.qod.getSessionById id) (m'.statusOf id) = none := by
  rw [statusOf, h]
  exact changeOf_kept _

/-! ## What is sent -/

/-- The notifications sent are for the session `q`, with the statuses `notes`. -/
def Sends (q : String) (notes : List QosStatus) (m m' : QodSessionManager) : Prop :=
  ∀ id, m'.noted id = (if id = q then notes else []) ++ m.noted id

theorem sends_nil {q : String} (h : m'.delivered = m.delivered) : Sends q [] m m' := by
  intro id
  rw [noted, h, ite_self]
  rfl

theorem Sends.trans {m₂ : QodSessionManager} {q : String} {notes notes' : List QosStatus}
    (h : Sends q notes m m₁) (h' : Sends q notes' m₁ m₂) : Sends q (notes' ++ notes) m m₂ := by
  intro id
  rw [h' id, h id]
  split_ifs
  · rw [List.append_assoc]
  · rfl

/-- An operation that changes one session reports as it should exactly if the
    notifications of that session do. -/
theorem reports_iff {q : String} {session : QodSession}
    (hs : m₁.qod.getSessionById q = some session)
    (hkept : ∀ x, x ≠ q → m'.qod.getSessionById x = m₁.qod.getSessionById x)
    {notes : List QosStatus} (hnotes : Sends q notes m₁ m') :
    Reports op m₁ m' ↔ notes = (changeOf op (some session) (m'.statusOf q)).toList := by
  constructor
  · intro h
    have hq := h q
    rwa [hnotes q, if_pos rfl, hs, List.append_left_inj] at hq
  · intro h id
    rw [hnotes id]
    split_ifs with hid
    · rw [hid, hs, h]
    · rw [changeOf_of_eq (hkept id hid)]
      rfl

/-- An operation that changes no session and sends nothing. -/
theorem reports_of_unchanged
    (hkept : ∀ x, m'.qod.getSessionById x = m₁.qod.getSessionById x)
    (hnotes : m'.delivered = m₁.delivered) : Reports op m₁ m' := by
  intro id
  rw [changeOf_of_eq (hkept id), noted, hnotes]
  rfl

theorem sends_notifyIf (hm : m.Notifies) (c : Bool) (session : QodSession)
    (info : Option StatusInfo) :
    Sends session.sessionId (if c = true ∧ session.sink.isSome then [session.qosStatus] else []) m
      (m.notifyIf c session info) := by
  intro id
  rw [notifyIf, hm.1, Bool.and_true]
  cases c with
  | false => simp
  | true =>
    rw [if_pos rfl, sendStatusChangeNotification]
    rcases session.sink with _ | sink
    · simp
    · simp only [hm.2, if_true, Option.isSome_some, true_and, noted, List.filter_cons]
      by_cases hid : session.sessionId = id
      · simp [hid]
      · simp [hid, Ne.symm hid]

theorem sends_notifyIf_sink (hm : m.Notifies) (session : QodSession) (info : Option StatusInfo) :
    Sends session.sessionId (if session.sink.isSome then [session.qosStatus] else []) m
      (m.notifyIf session.sink.isSome session info) := by
  have h := sends_notifyIf hm session.sink.isSome session info
  simp only [and_self] at h
  exact h

/-- A response is told to the consumer of the session. -/
theorem sends_handlePcfSessionResponse (hm : m.Notifies) {session : QodSession}
    (hs : m.qod.getSessionById session.sessionId = some session) (p : String) (success : Bool)
    (e : String) (now : ℤ) :
    Sends session.sessionId
      (if session.sink.isSome then [if success then .available else .unavailable] else []) m
      (m.handlePcfSessionResponse session.sessionId p success e now) := by
  rw [handlePcfSessionResponse, hs]
  cases success with
  | true =>
    exact sends_notifyIf_sink (m := { m with
        ue := updateUeStateFromPcfResponse (activated session p now) now m.ue
        qod := m.qod.updatePcfSessionMap p session.sessionId }) hm (activated session p now) none
  | false =>
    exact sends_notifyIf_sink hm (failed session e) (some .networkTerminated)

/-- A session that could not be applied is told to its consumer. -/
theorem sends_abandonSession (hm : m.Notifies) (session : QodSession)
    (hs : m.qod.getSessionById session.sessionId = some session) :
    Sends session.sessionId (if session.sink.isSome then [.unavailable] else []) m
      (m.abandonSession session.sessionId session.sink).2 := by
  have hstored : (m.qod.updateSessionStatus session.sessionId .unavailable
      (some .networkTerminated)).2.getSessionById session.sessionId =
        some (QodStore.withStatus session .unavailable (some .networkTerminated)) := by
    rw [QodStore.getSessionById_updateSessionStatus, if_pos rfl, hs]
    rfl
  rw [abandonSession]
  dsimp only
  rw [hstored]
  exact sends_notifyIf_sink (m := { m with qod := (m.qod.updateSessionStatus session.sessionId
      .unavailable (some .networkTerminated)).2 }) hm
    (QodStore.withStatus session .unavailable (some .networkTerminated)) (some .networkTerminated)

/-- The end of a PCF session does nothing, or removes the session it serves and tells its
    consumer if it was available. -/
theorem sends_handlePcfSessionTerminated (hm : m.Notifies) (p : String) (now : ℤ) :
    (m.handlePcfSessionTerminated p now).2 = m ∨
      ∃ session, m.qod.getSessionByPcfSessionId p = some session ∧
        (∀ x, (m.handlePcfSessionTerminated p now).2.qod.getSessionById x =
          if x = session.sessionId then none else m.qod.getSessionById x) ∧
        Sends session.sessionId
          (if session.qosStatus = .available ∧ session.sink.isSome then [.unavailable] else []) m
          (m.handlePcfSessionTerminated p now).2 := by
  rw [handlePcfSessionTerminated]
  rcases hs : m.qod.getSessionByPcfSessionId p with _ | session
  · exact .inl rfl
  · dsimp only
    by_cases hstatus : session.qosStatus = .available
    · rw [if_pos hstatus]
      rcases releaseUe { session with
          qosStatus := .unavailable
          statusInfo := some .networkTerminated
          expiresAt := some now } now m.ue with e | _ | ue
      · exact .inl rfl
      · exact .inl rfl
      · refine .inr ⟨session, rfl, fun x => ?_, ?_⟩
        · refine (getSessionById_dropTerminated ..).trans ?_
          rw [qod_notifyIf]
        · simp only [hstatus, true_and]
          exact sends_notifyIf_sink (m := { m with ue }) hm { session with
            qosStatus := .unavailable
            statusInfo := some .networkTerminated
            expiresAt := some now } (some .networkTerminated)
    · rw [if_neg hstatus]
      refine .inr ⟨session, rfl, fun x => getSessionById_dropTerminated .., ?_⟩
      rw [if_neg fun h => hstatus h.1]
      exact sends_nil rfl

/-- A deletion leaves everything as it is, or writes the session as deleted and tells its
    consumer if it was available. -/
theorem sends_finishDelete (hm : m.Notifies) (session : QodSession) (now : ℤ) :
    ((m.finishDelete session now).2.qod = m.qod ∧
        (m.finishDelete session now).2.delivered = m.delivered) ∨
      (m.finishDelete session now).2.qod = (m.qod.updateSession (deleted session now)).2 ∧
        Sends session.sessionId
          (if session.qosStatus = .available ∧ session.sink.isSome then [.unavailable] else []) m
          (m.finishDelete session now).2 := by
  have key : ∀ m₁ : QodSessionManager, m₁.Notifies → Sends session.sessionId
      (if session.qosStatus = .available ∧ session.sink.isSome then [.unavailable] else []) m₁
      (m₁.notifyIf (session.sink.isSome && session.qosStatus == .available) (deleted session now)
        (some .deleteRequested)) := by
    intro m₁ hm₁
    have h := sends_notifyIf hm₁ (session.sink.isSome && session.qosStatus == .available)
      (deleted session now) (some .deleteRequested)
    have hc : ((session.sink.isSome && session.qosStatus == .available) = true ∧
        (deleted session now).sink.isSome = true) ↔
        (session.qosStatus = .available ∧ session.sink.isSome = true) := by
      rw [Bool.and_eq_true, beq_iff_eq]
      exact ⟨fun h => ⟨h.1.2, h.1.1⟩, fun h => ⟨⟨h.2, h.1⟩, h.2⟩⟩
    simp only [hc] at h
    exact h
  rw [finishDelete]
  rcases session.pduSessionId with _ | pduSessionId
  · exact .inr ⟨by simp, key m hm⟩
  · dsimp only
    rcases createOrGetUeKey (deleted session now) with e | _ | ueKey
    · exact .inl ⟨rfl, rfl⟩
    · exact .inl ⟨rfl, rfl⟩
    · exact .inr ⟨by simp, key { m with ue := (m.ue.removeQodSessionFromPduSession ueKey
        pduSessionId session.sessionId now).2 } hm⟩

/-! ## What is reported -/

theorem Reports.congr (h : Reports op m₁ m')
    (hget : ∀ x, m₁.qod.getSessionById x = m.qod.getSessionById x)
    (hdelivered : m₁.delivered = m.delivered) : Reports op m m' := by
  intro id
  rw [h id, hget, noted, noted, hdelivered]

theorem changeOf_of_not_counts {before : Option QodSession} {after : QosStatus}
    (h : ∀ session, counts op session = false) : changeOf op before after = none := by
  rcases before with _ | session
  · rfl
  · simp [changeOf, h]

/-- A response is reported once if it changes the status. -/
theorem reports_handlePcfSessionResponse_iff (hfiled : m.Filed) (hm : m.Notifies)
    (hop : ∀ session, counts op session = true) (q p : String) (success : Bool) (e : String)
    (now : ℤ) :
    Reports op m (m.handlePcfSessionResponse q p success e now) ↔
      ∀ session, m.qod.getSessionById q = some session → session.sink.isSome →
        session.qosStatus ≠ if success then .available else .unavailable := by
  rcases hs : m.qod.getSessionById q with _ | session
  · rw [handlePcfSessionResponse, hs]
    exact iff_of_true (reports_of_unchanged (fun _ => rfl) rfl) fun _ h => by cases h
  · obtain rfl := hfiled q session hs
    have hget := getSessionById_handlePcfSessionResponse hfiled session.sessionId p success e now
    have hstatus : (m.handlePcfSessionResponse session.sessionId p success e now).statusOf
        session.sessionId = if success then .available else .unavailable := by
      rw [statusOf, hget, if_pos rfl, hs]
      cases success <;> rfl
    rw [reports_iff hs (fun x hx => (hget x).trans (if_neg hx))
      (sends_handlePcfSessionResponse hm hs p success e now), hstatus, changeOf_some]
    by_cases hsink : session.sink.isSome
    · by_cases hchange : session.qosStatus = if success then QosStatus.available else .unavailable
      · simp [hsink, hop, hchange]
      · simp [hsink, hop, hchange]
    · simp [hsink]

/-- The end of a PCF session is reported once, as its session is not only requested. -/
theorem reports_handlePcfSessionTerminated (hfiled : m.Filed) (hm : m.Notifies)
    (hop : ∀ session, counts op session = true) {p : String}
    (hrequested : ∀ session, m.qod.getSessionByPcfSessionId p = some session →
      session.qosStatus ≠ .requested) (now : ℤ) :
    Reports op m (m.handlePcfSessionTerminated p now).2 := by
  rcases sends_handlePcfSessionTerminated hm p now with heq | ⟨session, hs, hget, hsends⟩
  · rw [heq]
    exact reports_of_unchanged (fun _ => rfl) rfl
  · obtain ⟨id, -, hid⟩ := Option.bind_eq_some_iff.1 hs
    obtain rfl := hfiled id session hid
    have hstatus : (m.handlePcfSessionTerminated p now).2.statusOf session.sessionId =
        .unavailable := by
      rw [statusOf, hget, if_pos rfl]
      rfl
    refine (reports_iff hid (fun x hx => (hget x).trans (if_neg hx)) hsends).2 ?_
    rw [hstatus, changeOf_some]
    have hnot := hrequested session hs
    rcases hsession : session.qosStatus
    · exact absurd hsession hnot
    · by_cases hsink : session.sink.isSome <;> simp [hsink, hop]
    · simp

/-- A session that could not be applied is reported once. -/
theorem reports_abandonSession (hm : m.Notifies) (hop : ∀ session, counts op session = true)
    {session : QodSession} (hs : m.qod.getSessionById session.sessionId = some session)
    (hrequested : session.qosStatus = .requested) :
    Reports op m (m.abandonSession session.sessionId session.sink).2 := by
  have hget := getSessionById_abandonSession (m := m) session.sessionId session.sink
  have hstatus : (m.abandonSession session.sessionId session.sink).2.statusOf session.sessionId =
      .unavailable := by
    rw [statusOf, hget, if_pos rfl, hs]
    rfl
  refine (reports_iff hs (fun x hx => (hget x).trans (if_neg hx)) (sends_abandonSession hm session hs)).2 ?_
  rw [hstatus, changeOf_some]
  by_cases hsink : session.sink.isSome <;> simp [hsink, hop, hrequested]

/-- A session that the PCF has refused is reported twice. -/
theorem reports_refused_iff (hfiled : m.Filed) (hm : m.Notifies) {session : QodSession}
    (hs : m.qod.getSessionById session.sessionId = some session) (e : String) (now : ℤ) :
    Reports op m ((m.handlePcfSessionResponse session.sessionId "" false e now).abandonSession
      session.sessionId session.sink).2 ↔ ¬session.sink.isSome := by
  have hget := getSessionById_handlePcfSessionResponse hfiled session.sessionId "" false e now
  have hfailed : (m.handlePcfSessionResponse session.sessionId "" false e
      now).qod.getSessionById session.sessionId = some (failed session e) := by
    rw [hget, if_pos rfl, hs]
    rfl
  have hm₁ : (m.handlePcfSessionResponse session.sessionId "" false e now).Notifies :=
    hm.congr (setup_handlePcfSessionResponse ..)
  have hget' := getSessionById_abandonSession
    (m := m.handlePcfSessionResponse session.sessionId "" false e now) session.sessionId session.sink
  have hkept : ∀ x, x ≠ session.sessionId →
      ((m.handlePcfSessionResponse session.sessionId "" false e now).abandonSession
        session.sessionId session.sink).2.qod.getSessionById x = m.qod.getSessionById x := by
    intro x hx
    rw [hget', if_neg hx, hget, if_neg hx]
  have hsends := (sends_handlePcfSessionResponse hm hs "" false e now).trans
    (sends_abandonSession hm₁ (failed session e) hfailed)
  rw [reports_iff hs hkept hsends, changeOf_some]
  have hsink' : (failed session e).sink = session.sink := rfl
  rw [hsink']
  by_cases hsink : session.sink.isSome
  · simp only [hsink, if_true, not_true_eq_false, iff_false]
    intro h
    have hlength := congrArg List.length h
    split_ifs at hlength <;> simp at hlength
  · simp [hsink]

/-- A creation that is accepted is reported once unless the PCF refuses it. -/
theorem reports_createSession_iff (hfiled : m.Filed) (hm : m.Notifies)
    (hop : ∀ session, counts op session = true) {request : CreateSessionRequest}
    {sessionId : String} {now : ℤ} {session : QodSession}
    (hprepared : m.prepareSession request sessionId now = .ok (some session))
    (hrequested : ∀ p s, (m.storeSession session now).qod.getSessionByPcfSessionId p = some s →
      s.qosStatus ≠ .requested) (reply : Option PcfReply) (later : ℤ) :
    Reports op (m.storeSession session now)
        (m.createSession request sessionId now reply later).2 ↔
      (session.sink.isSome → m.pcfReady = true → ∀ e, PcfAnswer.of reply ≠ .refused e) := by
  obtain ⟨rfl, -, -, -, hstatus, -⟩ := prepared hprepared
  have hfiled₁ : ((m.storeSession session now).send (.createQodSession session)).Filed :=
    hfiled.of_addSession rfl
  have hs : (m.storeSession session now).qod.getSessionById session.sessionId = some session :=
    (getSessionById_storeSession ..).trans (if_pos rfl)
  have habandon : ∀ m₁ : QodSessionManager, m₁.setup = m.setup →
      m₁.qod = (m.storeSession session now).qod → m₁.delivered = m.delivered →
      Reports op (m.storeSession session now)
        (m₁.abandonSession session.sessionId session.sink).2 := by
    intro m₁ hsetup hqod hdelivered
    refine (reports_abandonSession (hm.congr hsetup) hop (hqod ▸ hs) hstatus).congr ?_ hdelivered
    exact fun x => by rw [hqod]
  rw [createSession_of_prepared hprepared, concludeSession, applySessionToPcf]
  have hready : (m.storeSession session now).pcfReady = m.pcfReady := rfl
  rw [hready]
  cases m.pcfReady with
  | false => exact iff_of_true (habandon _ rfl rfl rfl) fun _ h => by cases h
  | true =>
    rw [if_pos rfl, applyReply_eq]
    rcases PcfAnswer.of reply with p | p | e | _
    · refine iff_of_true ?_ fun _ _ _ h => by cases h
      refine (reports_handlePcfSessionResponse_iff hfiled₁ hm hop _ p true "" later).2 ?_
      intro s hs' _
      obtain rfl := Option.some.inj (hs.symm.trans hs')
      rw [hstatus]
      exact fun h => by cases h
    · refine iff_of_true ?_ fun _ _ _ h => by cases h
      dsimp only
      by_cases hok : (((m.storeSession session now).send
        (.createQodSession session)).handlePcfSessionTerminated p later).1.isOk = true
      · rw [if_pos hok]
        exact reports_handlePcfSessionTerminated hfiled₁ hm hop (hrequested p) later
      · -- A handler that throws has changed nothing.
        rcases handlePcfSessionTerminated_cases (m := (m.storeSession session now).send
          (.createQodSession session)) p later with heq | ⟨hok', -⟩
        · rw [if_neg hok, heq]
          exact habandon _ rfl rfl rfl
        · exact absurd (by rw [hok']; rfl) hok
    · refine (reports_refused_iff hfiled₁ hm hs e later).trans
        ⟨fun hsink h => absurd h hsink, fun h hsink => ?_⟩
      exact h hsink rfl e rfl
    · exact iff_of_true (habandon _ rfl rfl rfl) fun _ _ _ h => by cases h

/-- The deletion of an available session is reported once. -/
theorem reports_deleteSession (hfiled : m.Filed) (hm : m.Notifies) (sessionId consumer : String)
    (reply : Option PcfReply) (now : ℤ) :
    Reports (.deleteSession sessionId consumer reply now) m
      (m.deleteSession sessionId consumer reply now).2 := by
  rw [deleteSession]
  rcases hs : m.deleteRequest sessionId consumer with _ | session
  · exact reports_of_unchanged (fun _ => rfl) rfl
  · rw [deleteRequest, Option.filter_eq_some_iff] at hs
    obtain ⟨hs, -⟩ := hs
    obtain rfl := hfiled sessionId session hs
    -- Whatever was said to the PCF touches no session and sends no notification.
    have hfinish : ∀ m₁ : QodSessionManager, m₁.setup = m.setup →
        (∀ x, m₁.qod.getSessionById x = m.qod.getSessionById x) → m₁.delivered = m.delivered →
        Reports (.deleteSession session.sessionId consumer reply now) m
          (m₁.finishDelete session now).2 := by
      intro m₁ hsetup hget hdelivered
      refine Reports.congr ?_ hget hdelivered
      rcases sends_finishDelete (hm.congr hsetup) session now with
        ⟨hqod, hsent⟩ | ⟨hqod, hsends⟩
      · exact reports_of_unchanged (fun _ => by rw [hqod]) hsent
      · have hs₁ : m₁.qod.getSessionById session.sessionId = some session := (hget _).trans hs
        have hdeleted : m₁.qod.getSessionById (deleted session now).sessionId = some session := hs₁
        have hupdate (x : String) : (m₁.qod.updateSession (deleted session now)).2.getSessionById x =
            if x = session.sessionId then some (deleted session now)
            else m₁.qod.getSessionById x :=
          m₁.qod.getSessionById_updateSession_of_stored hdeleted x
        have hstatus : (m₁.finishDelete session now).2.statusOf session.sessionId =
            .unavailable := by
          rw [statusOf, hqod, hupdate, if_pos rfl]
          rfl
        refine (reports_iff hs₁ (fun x hx => ?_) hsends).2 ?_
        · rw [hqod, hupdate, if_neg hx]
        · rw [hstatus, changeOf_some]
          rcases hsession : session.qosStatus <;> by_cases hsink : session.sink.isSome <;>
            simp [hsink, counts, hsession]
    dsimp only
    rcases pcfSessionOf session with _ | p
    · exact hfinish m rfl (fun _ => rfl) rfl
    · dsimp only
      rw [removeReply_eq]
      split_ifs
      · rcases PcfAnswer.of reply with p' | p' | e | _
        · exact reports_of_unchanged (fun _ => rfl) rfl
        · exact hfinish _ rfl
            (fun _ => QodStore.getSessionById_removePcfToQodSessionMapping ..) rfl
        · exact reports_of_unchanged (fun _ => rfl) rfl
        · exact reports_of_unchanged (fun _ => rfl) rfl
      · exact reports_of_unchanged (fun _ => rfl) rfl

/-- The search by PDU session finds a stored session. -/
theorem getSessionById_of_getSessionByPduSession (hfiled : m.Filed) {supi : Supi}
    {pduSessionId : String} {order : List String} {session : QodSession}
    (h : m.qod.getSessionByPduSession supi pduSessionId order = some session) :
    m.qod.getSessionById session.sessionId = some session := by
  obtain ⟨id, -, hs⟩ := List.mem_filterMap.1 (List.mem_of_find?_eq_some h)
  rwa [hfiled id session hs]

/-- The end of a PDU session is reported wrongly unless the session had ended before. -/
theorem reports_handlePduSessionTerminatedEvent_iff (hfiled : m.Filed) (hm : m.Notifies)
    (hop : ∀ session, counts op session = true) (supi : Supi) (pduSessionId : String)
    (order : List String) :
    Reports op m (m.handlePduSessionTerminatedEvent supi pduSessionId order) ↔
      ∀ session, m.qod.getSessionByPduSession supi pduSessionId order = some session →
        session.sink.isSome → session.qosStatus = .unavailable := by
  rw [handlePduSessionTerminatedEvent]
  rcases hfound : m.qod.getSessionByPduSession supi pduSessionId order with _ | session
  · exact iff_of_true (reports_of_unchanged (fun _ => rfl) rfl) fun _ h => by cases h
  · have hs := getSessionById_of_getSessionByPduSession hfiled hfound
    dsimp only
    have hget : ∀ x, ((QodSessionManager.notifyIf
        { m with qod := (m.qod.removeSession session.sessionId).2 }
        (session.sink.isSome && session.qosStatus == .available) session
        (some .networkTerminated)).qod.getSessionById x =
          if x = session.sessionId then none else m.qod.getSessionById x) := by
      intro x
      rw [qod_notifyIf]
      exact QodStore.getSessionById_removeSession ..
    have hsends := sends_notifyIf
      (m := { m with qod := (m.qod.removeSession session.sessionId).2 }) hm
      (session.sink.isSome && session.qosStatus == .available) session (some .networkTerminated)
    have hstatus : (QodSessionManager.notifyIf
        { m with qod := (m.qod.removeSession session.sessionId).2 }
        (session.sink.isSome && session.qosStatus == .available) session
        (some .networkTerminated)).statusOf session.sessionId = .unavailable := by
      rw [statusOf, hget, if_pos rfl]
      rfl
    rw [reports_iff hs (fun x hx => (hget x).trans (if_neg hx)) hsends, hstatus, changeOf_some]
    simp only [Option.some.injEq, forall_eq']
    rcases hsession : session.qosStatus <;> by_cases hsink : session.sink.isSome <;>
      simp [hsink, hop]

end QodSessionManager

namespace QodRun

open QodSessionManager

variable {r r' : QodRun} {op : QodOp}

/-! ## Runs -/

/-- An operation tells of a change once, with the status after it, for a session with a
    sink: the PCF does not refuse a creation, a response does not repeat the status, and
    a PDU session that ends serves none but an unavailable session. -/
def TellsOnce (r : QodRun) : QodOp → Prop
  | .createSession request sessionId now reply _ =>
    ∀ session, r.manager.prepareSession request sessionId now = .ok (some session) →
      session.sink.isSome → r.manager.pcfReady = true → ∀ e, PcfAnswer.of reply ≠ .refused e
  | .handlePcfSessionResponse q _ success _ _ =>
    ∀ session, r.manager.qod.getSessionById q = some session → session.sink.isSome →
      session.qosStatus ≠ if success then .available else .unavailable
  | .handlePduSessionTerminatedEvent supi pduSessionId order =>
    ∀ session, r.manager.qod.getSessionByPduSession supi pduSessionId order = some session →
      session.sink.isSome → session.qosStatus = .unavailable
  | _ => True

/-- A creation notifies of the changes it makes exactly if it tells of them once. -/
theorem reported_createSession_iff (hr : qodSystem.Reachable r) (hm : r.manager.Notifies)
    {request : CreateSessionRequest} {sessionId : String} {now later : ℤ}
    {reply : Option PcfReply}
    (hnext : r.next (.createSession request sessionId now reply later) = some r') :
    (∀ id, (r.manager.createSession request sessionId now reply later).2.noted id =
      (r.manager.statusChange (.createSession request sessionId now reply later)
        (r.manager.createSession request sessionId now reply later).2 id).toList ++
          r.manager.noted id) ↔ r.TellsOnce (.createSession request sessionId now reply later) := by
  have hfiled := (filed_of_reachable hr).1
  rw [TellsOnce]
  have hrefused : ∀ result, r.manager.prepareSession request sessionId now = result →
      result.toOption.join = none → (r.manager.createSession request sessionId now reply later).2 =
        r.manager → ∀ id, (r.manager.createSession request sessionId now reply later).2.noted id =
          (r.manager.statusChange (.createSession request sessionId now reply later)
            (r.manager.createSession request sessionId now reply later).2 id).toList ++
              r.manager.noted id := by
    intro result hprepared hnone heq id
    rw [heq, statusChange, found, hprepared, hnone]
    split_ifs with hid
    · rfl
    · have hkept : r.manager.qod.getSessionById id = r.manager.qod.getSessionById id := rfl
      rw [changeOf_of_eq hkept]
      rfl
  rcases hprepared : r.manager.prepareSession request sessionId now with e | _ | session
  · refine iff_of_true (hrefused _ hprepared rfl ?_) fun _ h => by cases h
    rw [createSession, hprepared]
  · refine iff_of_true (hrefused _ hprepared rfl ?_) fun _ h => by cases h
    rw [createSession, hprepared]
  · obtain ⟨hid, -⟩ := prepared hprepared
    have hdrawn : (QodOp.createSession request sessionId now reply later).drawnId =
        some session.sessionId := congrArg some hid.symm
    have hrequested : ∀ p s, (r.manager.storeSession session now).qod.getSessionByPcfSessionId p =
        some s → s.qosStatus ≠ .requested :=
      fun p s hs => (found_of_next hr hnext hdrawn now p s hs).2
    have hreports : Reports (.createSession request sessionId now reply later) _ _ ↔ _ :=
      reports_createSession_iff hfiled hm (fun _ => rfl) hprepared hrequested reply later
    simp only [Except.ok.injEq, Option.some.injEq, forall_eq']
    rw [← hreports]
    refine forall_congr' fun id => ?_
    have hfound : r.manager.found (.createSession request sessionId now reply later) id =
        (r.manager.storeSession session now).qod.getSessionById id := by
      rw [found, getSessionById_storeSession, hid, hprepared]
      rfl
    rw [statusChange, hfound]
    rfl

/-- An operation notifies of the changes it makes exactly if it tells of them once. -/
theorem reported_next_iff (hr : qodSystem.Reachable r) (hm : r.manager.Notifies)
    (hnext : r.next op = some r') :
    (∀ id, r'.manager.noted id =
      (r.manager.statusChange op r'.manager id).toList ++ r.manager.noted id) ↔ r.TellsOnce op := by
  have hfiled := (filed_of_reachable hr).1
  have hmanager := manager_of_next hnext
  -- An operation that is not to be reported, and sends nothing.
  have hsilent : (∀ session, counts op session = false) →
      r'.manager.delivered = r.manager.delivered → ∀ id, r'.manager.noted id =
        (r.manager.statusChange op r'.manager id).toList ++ r.manager.noted id := by
    intro hop hdelivered id
    rw [statusChange, changeOf_of_not_counts hop, noted, hdelivered]
    rfl
  cases op with
  | createSession request sessionId now reply later =>
    rw [QodSessionManager.next, Option.some.injEq] at hmanager
    rw [← hmanager]
    exact reported_createSession_iff hr hm hnext
  | handlePcfSessionResponse q p success e now =>
    rw [QodSessionManager.next, Option.some.injEq] at hmanager
    rw [← hmanager]
    exact reports_handlePcfSessionResponse_iff hfiled hm (fun _ => rfl) q p success e now
  | handlePcfSessionTerminated p now =>
    rw [QodSessionManager.next, Option.some.injEq] at hmanager
    rw [← hmanager]
    exact iff_of_true (reports_handlePcfSessionTerminated hfiled hm (fun _ => rfl)
      (fun _ => not_requested_of_reachable hr) now) trivial
  | handlePduSessionTerminatedEvent supi pduSessionId order =>
    rw [QodSessionManager.next, Option.some.injEq] at hmanager
    rw [← hmanager]
    exact reports_handlePduSessionTerminatedEvent_iff hfiled hm (fun _ => rfl) supi pduSessionId
      order
  | deleteSession sessionId consumer reply now =>
    rw [QodSessionManager.next, Option.some.injEq] at hmanager
    rw [← hmanager]
    exact iff_of_true (reports_deleteSession hfiled hm sessionId consumer reply now) trivial
  | extendSessionDuration sessionId additional consumer =>
    refine iff_of_true (hsilent (fun _ => rfl) ?_) trivial
    obtain heq | ⟨session, t, -, -, -, -, heq⟩ := next_extendSessionDuration_cases hmanager <;>
      rw [heq]
  | cleanupExpiredSessions now =>
    rw [QodSessionManager.next, Option.some.injEq] at hmanager
    refine iff_of_true (hsilent (fun _ => rfl) ?_) trivial
    rw [← hmanager]
    rfl
  | stop =>
    rw [QodSessionManager.next, Option.some.injEq] at hmanager
    refine iff_of_true (hsilent (fun _ => rfl) ?_) trivial
    rw [← hmanager]
    rfl
  | ueOperation op =>
    obtain ⟨ue, -, hmanager⟩ := Option.map_eq_some_iff.1 hmanager
    exact iff_of_true (hsilent (fun _ => rfl) (by rw [← hmanager])) trivial

end QodRun

/-- A run of the session manager, and the changes of status so far, latest first. -/
structure NoticeRun where
  run : QodRun
  changes : String → List QosStatus

/-- The run goes on, with the changes of the operation. -/
def NoticeRun.next (s : NoticeRun) (op : QodOp) : Option NoticeRun :=
  (s.run.next op).map fun run =>
    ⟨run, fun id => (s.run.manager.statusChange op run.manager id).toList ++ s.changes id⟩

/-- The runs of a session manager that notifies, with their changes of status. -/
def noticeSystem : System NoticeRun QodOp where
  init s := qodSystem.init s.run ∧ s.run.manager.Notifies ∧ s.changes = fun _ => []
  step s op s' := s.next op = some s'

namespace NoticeRun

variable {s : NoticeRun}

theorem notifies_of_reachable (hs : noticeSystem.Reachable s) :
    qodSystem.Reachable s.run ∧ s.run.manager.Notifies := by
  refine System.Reachable.invariant (P := fun s : NoticeRun =>
    qodSystem.Reachable s.run ∧ s.run.manager.Notifies) ?_ ?_ hs
  · rintro s ⟨hinit, hm, -⟩
    exact ⟨.init hinit, hm⟩
  · rintro s op s' - ⟨hr, hm⟩ hstep
    obtain ⟨run, hnext, rfl⟩ := Option.map_eq_some_iff.1 hstep
    exact ⟨hr.step hnext, hm.congr (QodSessionManager.setup_next (QodRun.manager_of_next hnext))⟩

/-- In every run whose operations tell of a change once, a session with a sink has been
    notified of its changes of status that count, once each and in order, and of nothing
    else; and the first operation that does not tell of a change once breaks this. -/
theorem noted_of_reachable
    (hs : (noticeSystem.restrict fun s op => s.run.TellsOnce op).Reachable s) :
    (∀ id, s.run.manager.noted id = s.changes id) ∧
      ∀ op s', noticeSystem.step s op s' →
        ((∀ id, s'.run.manager.noted id = s'.changes id) ↔ s.run.TellsOnce op) := by
  have hstep : ∀ s op s', noticeSystem.Reachable s →
      (∀ id, s.run.manager.noted id = s.changes id) → noticeSystem.step s op s' →
      ((∀ id, s'.run.manager.noted id = s'.changes id) ↔ s.run.TellsOnce op) := by
    intro s op s' hs h hstep
    obtain ⟨run, hnext, rfl⟩ := Option.map_eq_some_iff.1 hstep
    obtain ⟨hr, hm⟩ := notifies_of_reachable hs
    rw [← QodRun.reported_next_iff hr hm hnext]
    refine forall_congr' fun id => ?_
    dsimp only
    rw [h id]
  have h : ∀ id, s.run.manager.noted id = s.changes id := by
    refine System.Reachable.invariant (P := fun s : NoticeRun =>
      ∀ id, s.run.manager.noted id = s.changes id) ?_ ?_ hs
    · rintro s ⟨⟨config, pcfService, pcfDestination, notificationHandler, hrun⟩, -, hchanges⟩ id
      rw [hrun, hchanges]
      rfl
    · rintro s op s' hs h ⟨hop, hnext⟩
      exact (hstep s op s' hs.of_restrict h hnext).2 hop
  exact ⟨h, fun op s' => hstep s op s' hs.of_restrict h⟩

/-- The run before any operation. -/
def initial : NoticeRun := ⟨QodRun.initial, fun _ => []⟩

/-- A request with a sink. -/
def sinkSession : CreateSessionRequest :=
  { QodRun.phoneSession "consumer" with sink := some "https://consumer.example.com/sink" }

/-- A session is started and ended by the PCF: its consumer is told of both. -/
theorem noted_after_termination : ∃ s : NoticeRun,
    (noticeSystem.restrict fun s op => s.run.TellsOnce op).Reachable s ∧
      s.changes "session-1" = [.unavailable, .available] ∧
      s.run.manager.noted "session-1" = [.unavailable, .available] := by
  have h₀ : (noticeSystem.restrict fun s op => s.run.TellsOnce op).Reachable initial :=
    .init ⟨⟨_, _, _, _, rfl⟩, ⟨rfl, rfl⟩, rfl⟩
  have h₁ := h₀.step (a := QodOp.createSession sinkSession "session-1" 0
    (some (.created "pcf-1")) 1) ⟨fun _ _ _ _ _ h => (by cases h), rfl⟩
  have h₂ := h₁.step (a := QodOp.handlePcfSessionTerminated "pcf-1" 2) ⟨trivial, rfl⟩
  exact ⟨_, h₂, rfl, (noted_of_reachable h₂).1 "session-1"⟩

/-- The PCF refuses the request. -/
def refusedRun : QodOp :=
  .createSession sinkSession "session-1" 0
    (some ⟨.error, some (.obj [("message", .str "rejected")])⟩) 1

/-- The session changes once, to unavailable, and its consumer is told twice. -/
theorem noted_twice_after_refusal : ∃ s : NoticeRun, noticeSystem.Reachable s ∧
    s.changes "session-1" = [.unavailable] ∧
    s.run.manager.noted "session-1" = [.unavailable, .unavailable] := by
  have h₀ : noticeSystem.Reachable initial := .init ⟨⟨_, _, _, _, rfl⟩, ⟨rfl, rfl⟩, rfl⟩
  have h₁ := h₀.step (a := refusedRun) rfl
  exact ⟨_, h₁, rfl, rfl⟩

end NoticeRun

end PhineAf

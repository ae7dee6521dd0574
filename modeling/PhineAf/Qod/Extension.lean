import PhineAf.Qod.Exchange

/-!
# The start time of a session that is extended

`extend_session_duration` checks the status of a session, and then reads its start time.
It accepts requested sessions too, which have none: a session gets its start time with the
success of the PCF, which makes it available (`Clocked`). So the read is defined exactly
if the session is not requested any more (`readsStart_iff_of_reached`), whether the
operations run one after the other or while calls wait for the PCF. In runs of whole
operations whose creations are answered as creations, no session stays requested
(`QodRun.not_requested_of_answered`).
-/

namespace PhineAf

namespace QodSessionManager

variable {m m' : QodSessionManager} {id : String} {session : QodSession}

/-! ## The invariant -/

/-- An available session has a start time, and a requested one has none. -/
structure Clocked (session : QodSession) : Prop where
  available : session.qosStatus = .available → session.startedAt.isSome
  requested : session.qosStatus = .requested → session.startedAt = none

theorem Clocked.of_unavailable (h : session.qosStatus = .unavailable) : Clocked session where
  available h' := by
    rw [h] at h'
    cases h'
  requested h' := by
    rw [h] at h'
    cases h'

theorem clocked_activated (session : QodSession) (p : String) (now : ℤ) :
    Clocked (activated session p now) where
  available _ := rfl
  requested h := by cases h

/-- A session with a start time is not requested, and stays so when it is extended. -/
theorem Clocked.extended (h : Clocked session) {additional t : ℤ}
    (ht : session.startedAt = some t) : Clocked (m.extended session additional t) where
  available _ := by
    rw [QodSessionManager.extended, ht]
    rfl
  requested hstatus := h.requested hstatus

theorem clocked_of_prepared {request : CreateSessionRequest} {now : ℤ}
    (h : m.prepareSession request id now = .ok (some session)) : Clocked session where
  available hstatus := by
    obtain ⟨-, -, -, -, hrequested, -⟩ := prepared h
    rw [hrequested] at hstatus
    cases hstatus
  requested _ := (prepared_unset h).2.2.1

/-- The sessions an operation writes are clocked if those stored are. -/
theorem Clocked.of_writes
    (hm : ∀ id session, m.qod.getSessionById id = some session → Clocked session) {op : QodOp}
    (h : m.Writes op id session) : Clocked session := by
  cases h with
  | requested h => exact clocked_of_prepared h
  | started p h => exact clocked_activated ..
  | abandoned h => exact .of_unavailable rfl
  | rejected e h => exact .of_unavailable rfl
  | extended hs _ ht => exact (hm _ _ hs).extended ht
  | deleted hs => exact .of_unavailable rfl
  | activated hs => exact clocked_activated ..
  | failed hs => exact .of_unavailable rfl

/-! ## The read -/

/-- A consumer may extend a session: it is stored, it is the consumer's, and it is
    available or requested. -/
def Extensible (m : QodSessionManager) (id consumer : String) (session : QodSession) : Prop :=
  m.qod.getSessionById id = some session ∧ session.apiConsumerId = consumer ∧
    (session.qosStatus = .available ∨ session.qosStatus = .requested)

/-- A session that may be extended has a start time, so that the extension does not read a
    missing one. -/
structure ReadsStart (m : QodSessionManager) (id : String) (additional : ℤ)
    (consumer : String) : Prop where
  started : ∀ session, m.Extensible id consumer session → session.startedAt.isSome
  defined : (m.extendSessionDuration id additional consumer).1 ≠ .error .emptyDereference

/-- The second is so if the first is. -/
theorem extendSessionDuration_defined {additional : ℤ} {consumer : String}
    (h : ∀ session, m.Extensible id consumer session → session.startedAt.isSome) :
    (m.extendSessionDuration id additional consumer).1 ≠ .error .emptyDereference := by
  rw [extendSessionDuration]
  split
  · exact fun h => by cases h
  next session hs =>
    split_ifs with hconsumer hstatus
    · exact fun h => by cases h
    · exact fun h => by cases h
    · have hext : session.qosStatus = .available ∨ session.qosStatus = .requested := by
        cases hq : session.qosStatus
        · exact .inr rfl
        · exact .inl rfl
        · exact absurd hq hstatus
      obtain ⟨t, ht⟩ := Option.isSome_iff_exists.1 (h session ⟨hs, not_not.1 hconsumer, hext⟩)
      rw [ht]
      exact fun h => by cases h

/-- Of clocked sessions, the start time is read exactly if the session is not requested. -/
theorem readsStart_iff
    (hm : ∀ id session, m.qod.getSessionById id = some session → Clocked session)
    (id : String) (additional : ℤ) (consumer : String) :
    m.ReadsStart id additional consumer ↔
      ∀ session, m.qod.getSessionById id = some session → session.apiConsumerId = consumer →
        session.qosStatus ≠ .requested := by
  constructor
  · intro h session hs hconsumer hrequested
    have hstarted := h.started session ⟨hs, hconsumer, .inr hrequested⟩
    rw [(hm id session hs).requested hrequested] at hstarted
    cases hstarted
  · intro h
    have hstarted : ∀ session, m.Extensible id consumer session → session.startedAt.isSome := by
      rintro session ⟨hs, hconsumer, havailable | hrequested⟩
      · exact (hm id session hs).available havailable
      · exact absurd hrequested (h session hs hconsumer)
    exact ⟨hstarted, extendSessionDuration_defined hstarted⟩

end QodSessionManager

open QodSessionManager

/-! ## Runs of operations -/

namespace QodRun

variable {r : QodRun}

theorem clocked_of_reachable (hr : qodSystem.Reachable r) :
    ∀ id session, r.manager.qod.getSessionById id = some session → Clocked session := by
  refine System.Reachable.invariant (P := fun r : QodRun => ∀ id session,
    r.manager.qod.getSessionById id = some session → Clocked session) ?_ ?_ hr
  · intro r h id session hs
    rw [getSessionById_init h] at hs
    cases hs
  · intro r op r' hr h hnext
    exact stored_next (filed_of_reachable hr).1 (manager_of_next hnext)
      (P := fun _ session => Clocked session) h fun _ _ => Clocked.of_writes h

/-- A creation is not answered with the end of a session. -/
def Answered (_ : QodRun) : QodOp → Prop
  | .createSession _ _ _ reply _ => ∀ p, PcfAnswer.of reply ≠ .ended p
  | _ => True

theorem not_requested_abandonSession {m : QodSessionManager} {y : String} {sink : Option String}
    {session : QodSession} (hs : (m.abandonSession y sink).2.qod.getSessionById y = some session) :
    session.qosStatus ≠ .requested := by
  rw [getSessionById_abandonSession, if_pos rfl] at hs
  obtain ⟨old, -, rfl⟩ := Option.map_eq_some_iff.1 hs
  exact fun h => by cases h

theorem not_requested_handlePcfSessionResponse {m : QodSessionManager} (hm : m.Filed)
    {y p e : String} {success : Bool} {now : ℤ} {session : QodSession}
    (hs : (m.handlePcfSessionResponse y p success e now).qod.getSessionById y = some session) :
    session.qosStatus ≠ .requested := by
  rw [getSessionById_handlePcfSessionResponse hm, if_pos rfl] at hs
  obtain ⟨old, -, rfl⟩ := Option.map_eq_some_iff.1 hs
  cases success <;> exact fun h => by cases h

/-- What a creation stores is not requested any more. -/
theorem not_requested_createSession {m : QodSessionManager} (hm : m.Filed)
    {request : CreateSessionRequest} {sessionId : String} {now later : ℤ} {reply : Option PcfReply}
    (hreply : ∀ p, PcfAnswer.of reply ≠ .ended p)
    (h : ∀ id session, m.qod.getSessionById id = some session → session.qosStatus ≠ .requested) :
    ∀ id session, (m.createSession request sessionId now reply later).2.qod.getSessionById id =
      some session → session.qosStatus ≠ .requested := by
  rcases createSession_cases (m := m) request sessionId now reply later with
    heq | ⟨session, m₁, hprepared, -, hqod, hcases⟩
  · rw [heq]
    exact h
  have hsession := (prepared hprepared).1
  have hm₁ : m₁.Filed := hm.of_addSession hqod
  -- Only the new session is stored and changed; it is not requested at the end.
  have hnew : ∀ {m'}, Only sessionId m₁ m' →
      (∀ s, m'.qod.getSessionById sessionId = some s → s.qosStatus ≠ .requested) →
      ∀ id s, m'.qod.getSessionById id = some s → s.qosStatus ≠ .requested := by
    intro m' ho hlast id s hs
    by_cases hid : id = sessionId
    · subst hid
      exact hlast s hs
    · rw [ho.other id hid, hqod, QodStore.getSessionById_addSession, hsession, if_neg hid] at hs
      exact h id s hs
  rcases hcases with heq | ⟨p, heq⟩ | ⟨e, heq⟩ | ⟨p, hended, -⟩
  · rw [heq]
    exact hnew (only_abandonSession hm₁ sessionId session.sink) fun _ =>
      not_requested_abandonSession
  · rw [heq]
    exact hnew (only_handlePcfSessionResponse hm₁ sessionId p true "" later) fun _ =>
      not_requested_handlePcfSessionResponse hm₁
  · have ho := only_handlePcfSessionResponse hm₁ sessionId "" false e later
    rw [heq]
    exact hnew (ho.trans (only_abandonSession ho.filed sessionId session.sink)) fun _ =>
      not_requested_abandonSession
  · exact absurd hended (hreply p)

/-- Only a creation writes a requested session. -/
theorem not_requested_of_writes {m : QodSessionManager} {op : QodOp} {id : String}
    {session : QodSession} (h : m.Writes op id session)
    (hop : ∀ request id now reply later, op ≠ .createSession request id now reply later)
    (hm : ∀ id session, m.qod.getSessionById id = some session → session.qosStatus ≠ .requested) :
    session.qosStatus ≠ .requested := by
  cases h with
  | requested | started | abandoned | rejected => exact absurd rfl (hop _ _ _ _ _)
  | extended hs => exact (hm _ _ hs :)
  | deleted | activated | failed => exact fun h => by cases h

/-- In runs of whole operations, whose creations are not answered with the end of a
    session, no session stays requested. -/
theorem not_requested_of_answered (hr : (qodSystem.restrict Answered).Reachable r) :
    ∀ id session, r.manager.qod.getSessionById id = some session →
      session.qosStatus ≠ .requested := by
  refine System.Reachable.invariant (P := fun r : QodRun => ∀ id session,
    r.manager.qod.getSessionById id = some session → session.qosStatus ≠ .requested) ?_ ?_ hr
  · intro r h id session hs
    rw [getSessionById_init h] at hs
    cases hs
  · rintro r op r' hr h ⟨hop, hnext⟩
    have hfiled := (filed_of_reachable hr.of_restrict).1
    have hm := manager_of_next hnext
    by_cases hop' : ∀ request id now reply later, op ≠ .createSession request id now reply later
    · exact stored_next hfiled hm (P := fun _ session => session.qosStatus ≠ .requested) h
        fun _ _ hwrite => not_requested_of_writes hwrite hop' h
    · push Not at hop'
      obtain ⟨request, sessionId, now, reply, later, rfl⟩ := hop'
      rw [← Option.some.inj hm]
      exact not_requested_createSession hfiled hop h

end QodRun

/-! ## Runs with calls that wait for the PCF -/

namespace Exchange

/-- The sessions a step can store, by their id. -/
inductive Made (m : QodSessionManager) : String → QodSession → Prop
  | requested {request id now session} : m.prepareSession request id now = .ok (some session) →
      Made m id session
  | unavailable {id session} : session.sessionId = id → session.qosStatus = .unavailable →
      Made m id session
  | activated {id session} (p : String) (now : ℤ) : session.sessionId = id →
      Made m id (activated session p now)
  | extended {id session additional t} : m.qod.getSessionById id = some session →
      session.startedAt = some t → Made m id (m.extended session additional t)

variable {x x' : Exchange} {m : QodSessionManager} {y : String}

/-- A session stored after a step was stored before, or is made by it. -/
def Makes (m m' : QodSessionManager) : Prop :=
  ∀ id session, m'.qod.getSessionById id = some session →
    m.qod.getSessionById id = some session ∨ Made m id session

theorem Makes.of_qod_eq {m' : QodSessionManager}
    (h : ∀ id, m'.qod.getSessionById id = m.qod.getSessionById id) : Makes m m' :=
  fun id _ hs => .inl ((h id).symm.trans hs)

/-- A step that changes one session at most. -/
theorem Makes.of_only {m' : QodSessionManager} (ho : Only y m m')
    (h : ∀ session, m'.qod.getSessionById y = some session → Made m y session) : Makes m m' := by
  intro id session hs
  by_cases hid : id = y
  · subst hid
    exact .inr (h session hs)
  · exact .inl ((ho.other id hid).symm.trans hs)

theorem makes_response (hm : m.Filed) (q p e : String) (success : Bool) (now : ℤ) :
    Makes m (m.handlePcfSessionResponse q p success e now) := by
  have ho := only_handlePcfSessionResponse hm q p success e now
  refine .of_only ho fun session hs => ?_
  have hid := ho.filed q session hs
  rw [getSessionById_handlePcfSessionResponse hm, if_pos rfl] at hs
  obtain ⟨old, hold, rfl⟩ := Option.map_eq_some_iff.1 hs
  cases success with
  | true => exact .activated p now (hm q old hold)
  | false => exact .unavailable hid rfl

theorem made_abandonSession {m' : QodSessionManager} (hm' : m'.Filed) {sink : Option String}
    {session : QodSession}
    (hs : (m'.abandonSession y sink).2.qod.getSessionById y = some session) : Made m y session := by
  have hid := (only_abandonSession hm' y sink).filed y session hs
  rw [getSessionById_abandonSession, if_pos rfl] at hs
  obtain ⟨old, -, rfl⟩ := Option.map_eq_some_iff.1 hs
  exact .unavailable hid rfl

theorem finishDelete_stores (session : QodSession) (now : ℤ) {id : String} {s : QodSession}
    (hs : (m.finishDelete session now).2.qod.getSessionById id = some s) :
    m.qod.getSessionById id = some s ∨ s.sessionId = id ∧ s.qosStatus = .unavailable := by
  rcases qod_finishDelete (m := m) session now with h | h <;> rw [h] at hs
  · exact .inl hs
  · rw [QodStore.getSessionById_updateSession] at hs
    split_ifs at hs with hid
    · exact .inr (Option.some.inj hs ▸ ⟨hid.1.symm, rfl⟩)
    · exact .inl hs

theorem makes_deleteReply (session : QodSession) (reply : Option PcfReply) (now : ℤ) :
    Makes m ((m.removeReply reply).2.finishDelete session now).2 := by
  intro id s hs
  rcases finishDelete_stores session now hs with hkept | ⟨hid, hstatus⟩
  · rw [getSessionById_removeReply] at hkept
    exact .inl hkept
  · exact .inr (.unavailable hid hstatus)

theorem makes_createSession (hm : x.manager.Filed) {request : CreateSessionRequest}
    {sessionId : String} {now : ℤ}
    (hnext : x.next (.createSession request sessionId now) = some x') :
    Makes x.manager x'.manager := by
  simp only [next] at hnext
  split_ifs at hnext
  split at hnext
  next new hprepared =>
    obtain rfl := (prepared hprepared).1
    have hstore := getSessionById_storeSession (m := x.manager) new now
    split_ifs at hnext
    · cases hnext
      intro id s hs
      replace hs := (hstore id).symm.trans hs
      split_ifs at hs with hid
      · subst hid
        exact .inr (Option.some.inj hs ▸ .requested hprepared)
      · exact .inl hs
    · cases hnext
      have hfiled := filed_storeSession hm new now
      intro id s hs
      by_cases hid : id = new.sessionId
      · subst hid
        exact .inr (made_abandonSession hfiled hs)
      · have hother := (only_abandonSession hfiled new.sessionId new.sink).other id hid
        rw [hstore, if_neg hid] at hother
        exact .inl (hother.symm.trans hs)
  next =>
    cases hnext
    exact .of_qod_eq fun _ => rfl

theorem makes_createFails (hm : m.Filed) (session : QodSession) {reply : Option PcfReply}
    (hreply : isNegative reply) (now : ℤ) :
    Makes m (concludeSession session (m.applyReply session.sessionId reply now)).2 := by
  refine .of_only (only_createFails hm session hreply now) fun s hs => ?_
  rcases applyReply_of_isNegative (m := m) hreply session.sessionId now with h | ⟨e, h⟩ <;>
    rw [h] at hs
  · exact made_abandonSession hm hs
  · exact made_abandonSession (only_handlePcfSessionResponse hm ..).filed hs

/-- What any step stores. -/
theorem makes_of_next (hm : x.manager.Filed) {op : ExchangeOp} (hnext : x.next op = some x') :
    Makes x.manager x'.manager := by
  have hsame : x'.manager.qod = x.manager.qod → Makes x.manager x'.manager :=
    fun h => .of_qod_eq fun _ => by rw [h]
  cases op with
  | createSession request sessionId now => exact makes_createSession hm hnext
  | createReply call p now =>
    obtain ⟨session, hcall, hnext⟩ := Option.bind_eq_some_iff.1 hnext
    split_ifs at hnext
    cases hnext
    exact makes_response hm session.sessionId p "" true now
  | createFails call reply now =>
    obtain ⟨session, hcall, hnext⟩ := Option.bind_eq_some_iff.1 hnext
    split_ifs at hnext with hreply
    cases hnext
    exact makes_createFails hm session hreply now
  | deleteSession sessionId consumer now =>
    simp only [next] at hnext
    split at hnext
    next =>
      cases hnext
      exact hsame rfl
    next session hrequest =>
      split at hnext
      next =>
        cases hnext
        exact makes_deleteReply session none now
      next => split_ifs at hnext <;> cases hnext <;> exact hsame rfl
  | deleteReply call p now =>
    obtain ⟨session, hcall, hnext⟩ := Option.bind_eq_some_iff.1 hnext
    split_ifs at hnext
    cases hnext
    exact makes_deleteReply session (some (.removed p)) now
  | lateReply id p now =>
    simp only [next] at hnext
    split_ifs at hnext
    cases hnext
    exact makes_response hm id p "" true now
  | other op =>
    simp only [next] at hnext
    split_ifs at hnext with hlocal
    obtain ⟨m, hm', rfl⟩ := Option.map_eq_some_iff.1 hnext
    refine stored_next hm hm' (P := fun id session => x.manager.qod.getSessionById id =
      some session ∨ Made x.manager id session) (fun _ _ => .inl) fun id session hwrite => .inr ?_
    have hid := hwrite.sessionId_eq hm
    cases hwrite with
    | requested | started | abandoned | rejected | deleted => cases hlocal
    | extended hs _ ht => exact .extended hs ht
    | activated hs => exact .activated _ _ hid
    | failed hs => exact .unavailable hid rfl
  | deleteFails | pcfEnds =>
    cases hnext
    exact hsame rfl
  | lateRemoval | pcfCreates | pcfRefuses | pcfRemoves =>
    simp only [next] at hnext
    split_ifs at hnext
    cases hnext
    exact hsame rfl

theorem Made.filed {id : String} {session : QodSession} (hm : m.Filed) (h : Made m id session) :
    session.sessionId = id := by
  cases h with
  | requested h => exact (prepared h).1
  | unavailable hid => exact hid
  | activated p now hid => exact hid
  | extended hs => exact (hm _ _ hs :)

theorem Made.clocked {id : String} {session : QodSession}
    (hm : ∀ id session, m.qod.getSessionById id = some session → Clocked session)
    (h : Made m id session) : Clocked session := by
  cases h with
  | requested h => exact clocked_of_prepared h
  | unavailable _ hstatus => exact .of_unavailable hstatus
  | activated => exact clocked_activated ..
  | extended hs ht => exact (hm _ _ hs).extended ht

theorem clocked_of_reachable (hx : exchangeSystem.Reachable x) :
    x.manager.Filed ∧
      ∀ id session, x.manager.qod.getSessionById id = some session → Clocked session := by
  refine System.Reachable.invariant (P := fun x : Exchange => x.manager.Filed ∧
    ∀ id session, x.manager.qod.getSessionById id = some session → Clocked session) ?_ ?_ hx
  · rintro x ⟨config, pcfService, pcfDestination, notificationHandler, rfl⟩
    exact ⟨fun _ _ hs => (by cases hs), fun _ _ hs => (by cases hs)⟩
  · rintro x op x' - ⟨hfiled, hclocked⟩ hnext
    have hmakes := makes_of_next hfiled hnext
    refine ⟨fun id session hs => ?_, fun id session hs => ?_⟩
    · rcases hmakes id session hs with hs' | hmade
      · exact hfiled id session hs'
      · exact hmade.filed hfiled
    · rcases hmakes id session hs with hs' | hmade
      · exact hclocked id session hs'
      · exact hmade.clocked hclocked

end Exchange

/-! ## Extensions in reachable states -/

namespace QodSessionManager

/-- The manager is reached by operations, one after the other or with calls that wait for
    the PCF. -/
def Reached (m : QodSessionManager) : Prop :=
  (∃ r, qodSystem.Reachable r ∧ r.manager = m) ∨ ∃ x, exchangeSystem.Reachable x ∧ x.manager = m

variable {m : QodSessionManager}

theorem Reached.clocked (hm : m.Reached) :
    ∀ id session, m.qod.getSessionById id = some session → Clocked session := by
  rcases hm with ⟨r, hr, rfl⟩ | ⟨x, hx, rfl⟩
  · exact QodRun.clocked_of_reachable hr
  · exact (Exchange.clocked_of_reachable hx).2

/-- An extension reads a start time exactly if the session is not requested any more. And
    no session is, in runs of whole operations whose creations are answered as such. -/
theorem readsStart_iff_of_reached (id : String) (additional : ℤ) (consumer : String) :
    (∀ m : QodSessionManager, m.Reached →
      (m.ReadsStart id additional consumer ↔
        ∀ session, m.qod.getSessionById id = some session → session.apiConsumerId = consumer →
          session.qosStatus ≠ .requested)) ∧
    ∀ r : QodRun, (qodSystem.restrict QodRun.Answered).Reachable r →
      r.manager.ReadsStart id additional consumer := by
  refine ⟨fun m hm => readsStart_iff hm.clocked id additional consumer, fun r hr => ?_⟩
  have hclocked := QodRun.clocked_of_reachable hr.of_restrict
  exact (readsStart_iff hclocked id additional consumer).2 fun session hs _ =>
    QodRun.not_requested_of_answered hr id session hs

/-- A session that has been answered is extended. -/
theorem readsStart_after_startRun : ∃ x : Exchange, exchangeSystem.Reachable x ∧
    (∃ session, x.manager.Extensible "session-1" "consumer" session) ∧
    x.manager.ReadsStart "session-1" 60 "consumer" ∧
    ∃ r : QodRun, (qodSystem.restrict QodRun.Answered).Reachable r ∧
      (∃ session, r.manager.Extensible "session-1" "consumer" session) ∧
      r.manager.ReadsStart "session-1" 60 "consumer" := by
  have h₀ : exchangeSystem.Reachable Exchange.initial := .init ⟨_, _, _, _, rfl⟩
  have h₁ := h₀.step (a := Exchange.startRun[0]) rfl
  have h₂ := h₁.step (a := Exchange.startRun[1]) rfl
  have h₃ := h₂.step (a := Exchange.startRun[2]) rfl
  have hr : (qodSystem.restrict QodRun.Answered).Reachable QodRun.initial := .init ⟨_, _, _, _, rfl⟩
  let create : QodOp := .createSession (QodRun.phoneSession "consumer") "session-1" 0
    (some (.created "pcf-1")) 1
  have hanswered : QodRun.initial.Answered create := fun p h => by cases h
  have hr' := hr.step (a := create) ⟨hanswered, rfl⟩
  refine ⟨_, h₃, ⟨_, rfl, rfl, .inl rfl⟩, ?_, _, hr', ⟨_, rfl, rfl, .inl rfl⟩, ?_⟩
  · refine ((readsStart_iff_of_reached _ _ _).1 _ (.inr ⟨_, h₃, rfl⟩)).2 fun session hs _ => ?_
    obtain rfl := Option.some.inj hs
    exact fun h => by cases h
  · exact (readsStart_iff_of_reached "session-1" 60 "consumer").2 _ hr'

/-- One that waits for the PCF is not: its start time is read, and it has none. -/
theorem not_readsStart_of_reached : ¬∀ m : QodSessionManager, m.Reached →
    ∀ id additional consumer, m.ReadsStart id additional consumer := by
  intro h
  have h₀ : exchangeSystem.Reachable Exchange.initial := .init ⟨_, _, _, _, rfl⟩
  have h₁ := h₀.step (a := Exchange.startRun[0]) rfl
  have hreads := h _ (.inr ⟨_, h₁, rfl⟩) "session-1" 60 "consumer"
  exact hreads.defined rfl

end QodSessionManager

end PhineAf

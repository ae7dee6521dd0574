import PhineAf.Qod.Lifecycle

/-!
# Isolation of the API consumers

The requests a consumer makes, as one type, and what each of them does to the
sessions of the others. Every entry point compares the consumer of a session with
the one of the request; the conflict check of a creation and the handling of the PCF
reply run across the consumers.

`QodRun.isolated_of_later`: a request returns sessions of its own consumer only and
leaves the sessions of the others as they are; and its result depends on the sessions
of its own consumer only.
-/

namespace PhineAf

/-- A request made on behalf of an API consumer, with the readings of the clock and the
    reply of the PCF handler it sees. -/
inductive ClientRequest
  | createSession (request : CreateSessionRequest) (sessionId : String) (now : ℤ)
      (reply : Option PcfReply) (later : ℤ)
  | getSession (sessionId : String)
  | deleteSession (sessionId : String) (reply : Option PcfReply) (now : ℤ)
  | extendSessionDuration (sessionId : String) (additional : ℤ)
  | retrieveSessionsByDevice (device : Option QodDevice)

/-- What a request returns. -/
inductive ClientResult
  | created (result : Except Exn (Option QodSession))
  | found (result : Option QodSession)
  | deleted (result : Except Exn Bool)
  | extended (result : Except Exn (Option QodSession))
  | retrieved (sessions : List QodSession)

namespace ClientResult

/-- The sessions a request returns. -/
def sessions : ClientResult → List QodSession
  | .created result => (result.toOption.bind id).toList
  | .found result => result.toList
  | .deleted _ => []
  | .extended result => (result.toOption.bind id).toList
  | .retrieved sessions => sessions

/-- The results are the same, up to the order of the sessions retrieved. -/
def Same : ClientResult → ClientResult → Prop
  | .retrieved sessions, .retrieved sessions' => sessions.Perm sessions'
  | result, result' => result = result'

end ClientResult

namespace ClientRequest

/-- The session id a request draws. -/
def drawnId : ClientRequest → Option String
  | .createSession _ sessionId _ _ _ => some sessionId
  | _ => none

/-- The PCF handler answers a creation with a success, an error, another type or not at
    all, and not with the end of an application session. -/
def Usual : ClientRequest → Prop
  | .createSession _ _ _ reply _ => ∀ payload, reply ≠ some ⟨.deleteAppSession, payload⟩
  | _ => True

end ClientRequest

namespace QodSessionManager

variable {m : QodSessionManager} {consumer : String}

/-- A request is served on behalf of a consumer. -/
def serve (m : QodSessionManager) (consumer : String) :
    ClientRequest → ClientResult × QodSessionManager
  | .createSession request sessionId now reply later =>
    let (result, m) := m.createSession { request with apiConsumerId := consumer } sessionId now
      reply later
    (.created result, m)
  | .getSession sessionId => (.found (m.getSession sessionId consumer), m)
  | .deleteSession sessionId reply now =>
    let (result, m) := m.deleteSession sessionId consumer reply now
    (.deleted result, m)
  | .extendSessionDuration sessionId additional =>
    let (result, m) := m.extendSessionDuration sessionId additional consumer
    (.extended result, m)
  | .retrieveSessionsByDevice device => (.retrieved (m.retrieveSessionsByDevice device consumer), m)

/-! ## Creation -/

theorem ne_ended_of_usual {reply : Option PcfReply}
    (h : ∀ payload, reply ≠ some ⟨.deleteAppSession, payload⟩) (p : String) :
    PcfAnswer.of reply ≠ .ended p := by
  intro h'
  rcases reply with _ | ⟨_ | _ | _ | _, payload⟩
  · cases h'
  · simp only [PcfAnswer.of] at h'
    split at h' <;> cases h'
  · exact h payload rfl
  · simp only [PcfAnswer.of] at h'
    split at h' <;> cases h'
  · cases h'

/-- A creation that is not answered with the end of another session leaves the other
    sessions alone. -/
theorem getSessionById_createSession_of_ne (hm : m.Filed) (request : CreateSessionRequest)
    {sessionId : String} (now : ℤ) {reply : Option PcfReply}
    (hreply : ∀ p, PcfAnswer.of reply ≠ .ended p) (later : ℤ) {id : String} (hid : id ≠ sessionId) :
    (m.createSession request sessionId now reply later).2.qod.getSessionById id =
      m.qod.getSessionById id := by
  rcases hprepared : m.prepareSession request sessionId now with e | _ | session
  · rw [createSession, hprepared]
  · rw [createSession, hprepared]
  · obtain ⟨rfl, -⟩ := prepared hprepared
    have hm₁ : ((m.storeSession session now).send (.createQodSession session)).Filed :=
      hm.of_addSession rfl
    have hstore : (m.storeSession session now).qod.getSessionById id = m.qod.getSessionById id :=
      (getSessionById_storeSession ..).trans (if_neg hid)
    have happly : ((m.storeSession session now).applySessionToPcf session reply
        later).2.qod.getSessionById id = m.qod.getSessionById id := by
      rw [applySessionToPcf]
      split_ifs
      · rw [applyReply_eq]
        rcases hanswer : PcfAnswer.of reply with p | p | e | _
        · refine (getSessionById_handlePcfSessionResponse hm₁ ..).trans ?_
          rw [if_neg hid]
          exact hstore
        · exact absurd hanswer (hreply p)
        · refine (getSessionById_handlePcfSessionResponse hm₁ ..).trans ?_
          rw [if_neg hid]
          exact hstore
        · exact hstore
      · exact hstore
    rw [createSession_of_prepared hprepared, concludeSession]
    split_ifs
    · exact happly
    · exact (getSessionById_abandonSession ..).trans ((if_neg hid).trans happly)

/-- A new session is stored for the consumer of the request. -/
theorem Writes.apiConsumerId_createSession {request : CreateSessionRequest} {sessionId : String}
    {now later : ℤ} {reply : Option PcfReply} {id : String} {session : QodSession}
    (h : m.Writes (.createSession request sessionId now reply later) id session) :
    session.apiConsumerId = request.apiConsumerId := by
  cases h with
  | requested h => exact (prepared h).2.1
  | started p h => exact (prepared h).2.1
  | abandoned h => exact (prepared h).2.1
  | rejected e h => exact (prepared h).2.1

/-- A creation returns a session of the consumer of the request. -/
theorem apiConsumerId_of_createSession (hm : m.Filed) {request : CreateSessionRequest}
    {sessionId : String} (hfresh : m.qod.getSessionById sessionId = none) {now later : ℤ}
    {reply : Option PcfReply} {session : QodSession}
    (h : (m.createSession request sessionId now reply later).1 = .ok (some session)) :
    session.apiConsumerId = request.apiConsumerId := by
  rcases hprepared : m.prepareSession request sessionId now with e | _ | new
  · rw [createSession, hprepared] at h
    cases h
  · rw [createSession, hprepared] at h
    cases h
  · rw [createSession_of_prepared hprepared, concludeSession] at h
    split_ifs at h with happlied
    · cases h
      exact (prepared hprepared).2.1
    · -- The session returned is the one stored now.
      have hstored : (m.createSession request sessionId now reply later).2.qod.getSessionById
          sessionId = some session := by
        rw [createSession_of_prepared hprepared, concludeSession, if_neg happlied]
        rw [← (prepared hprepared).1]
        simp only [abandonSession] at h ⊢
        split at h
        next => cases h
        next s hs =>
          cases h
          simp only [hs, qod_notifyIf]
      rcases lookup_createSession hm request sessionId now reply later sessionId with
        hkept | ⟨hgone, -⟩ | ⟨s, hs, hwrite⟩
      · rw [hstored, hfresh] at hkept
        cases hkept
      · rw [hstored] at hgone
        cases hgone
      · rw [hstored, Option.some.injEq] at hs
        exact hs ▸ hwrite.apiConsumerId_createSession

/-! ## Extension, deletion and queries -/

theorem getSession_eq_some_iff {id : String} {session : QodSession} :
    m.getSession id consumer = some session ↔
      m.qod.getSessionById id = some session ∧ session.apiConsumerId = consumer := by
  rw [getSession, Option.filter_eq_some_iff, beq_iff_eq]

/-- An extension depends on the session the consumer may read. -/
theorem extendSessionDuration_eq (sessionId : String) (additional : ℤ) (consumer : String) :
    m.extendSessionDuration sessionId additional consumer =
      match m.getSession sessionId consumer with
      | none => (.ok none, m)
      | some session =>
        if session.qosStatus = .unavailable then (.ok none, m)
        else match session.startedAt with
          | none => (.error .emptyDereference, m)
          | some t => (.ok (some (m.extended session additional t)),
            { m with qod := (m.qod.updateSession (m.extended session additional t)).2 }) := by
  rw [extendSessionDuration, getSession]
  rcases m.qod.getSessionById sessionId with _ | session
  · rfl
  · by_cases h : session.apiConsumerId = consumer
    · have hread : (some session).filter (·.apiConsumerId == consumer) = some session := by simp [h]
      rw [hread]
      exact if_neg (not_not.2 h)
    · have hread : (some session).filter (·.apiConsumerId == consumer) = none := by simp [h]
      rw [hread]
      exact if_pos h

theorem mem_retrieveSessionsByDevice {device : Option QodDevice} {session : QodSession}
    (h : session ∈ m.retrieveSessionsByDevice device consumer) :
    session.apiConsumerId = consumer := by
  obtain ⟨-, h⟩ := List.mem_filter.1 h
  simp only [Bool.and_eq_true, beq_iff_eq] at h
  exact h.1.1

/-- A request returns sessions of its consumer only. -/
theorem apiConsumerId_of_serve (hm : m.Filed) {request : ClientRequest}
    (hfresh : ∀ id, request.drawnId = some id → m.qod.getSessionById id = none) {session : QodSession}
    (h : session ∈ (m.serve consumer request).1.sessions) : session.apiConsumerId = consumer := by
  cases request with
  | createSession request sessionId now reply later =>
    simp only [serve, ClientResult.sessions, Option.mem_toList, Option.bind_eq_some_iff,
      id_eq] at h
    obtain ⟨result, hresult, rfl⟩ := h
    cases hcreate : (m.createSession { request with apiConsumerId := consumer } sessionId now reply
      later).1 with
    | error e =>
      rw [hcreate] at hresult
      cases hresult
    | ok result' =>
      rw [hcreate] at hresult
      cases hresult
      exact apiConsumerId_of_createSession hm (hfresh sessionId rfl) hcreate
  | getSession sessionId =>
    simp only [serve, ClientResult.sessions, Option.mem_toList] at h
    exact (getSession_eq_some_iff.1 h).2
  | deleteSession sessionId reply now => cases h
  | extendSessionDuration sessionId additional =>
    simp only [serve, ClientResult.sessions, extendSessionDuration_eq] at h
    split at h
    next => cases h
    next stored hs =>
      split_ifs at h
      · cases h
      · split at h
        next => cases h
        next t _ =>
          obtain rfl := List.mem_singleton.1 h
          exact (getSession_eq_some_iff.1 hs).2
  | retrieveSessionsByDevice device => exact mem_retrieveSessionsByDevice h

/-- A request leaves the sessions of the other consumers as they are. -/
theorem getSessionById_serve_iff (hm : m.Filed) {request : ClientRequest}
    (hfresh : ∀ id, request.drawnId = some id → m.qod.getSessionById id = none)
    (husual : request.Usual) (id : String) {session : QodSession}
    (hother : session.apiConsumerId ≠ consumer) :
    (m.serve consumer request).2.qod.getSessionById id = some session ↔
      m.qod.getSessionById id = some session := by
  -- The session written belongs to the consumer, before and after.
  have hwritten : ∀ {a b : QodSession} {x : Option QodSession}, a.apiConsumerId = consumer →
      b.apiConsumerId = consumer → x = some a → (some b = some session ↔ x = some session) := by
    rintro a b x ha hb rfl
    rw [Option.some.injEq, Option.some.injEq]
    exact iff_of_false (fun h => hother (h ▸ hb)) fun h => hother (h ▸ ha)
  cases request with
  | createSession request sessionId now reply later =>
    by_cases hid : id = sessionId
    · subst hid
      rw [hfresh id rfl]
      refine iff_of_false (fun h => ?_) fun h => by cases h
      rcases lookup_createSession hm { request with apiConsumerId := consumer } id now reply later
        id with hkept | ⟨hgone, -⟩ | ⟨s, hs, hwrite⟩
      · rw [hfresh id rfl] at hkept
        cases hkept.symm.trans h
      · cases hgone.symm.trans h
      · obtain rfl := Option.some.inj (hs.symm.trans h)
        exact hother hwrite.apiConsumerId_createSession
    · exact Eq.congr_left (getSessionById_createSession_of_ne hm _ now (ne_ended_of_usual husual)
        later hid)
  | getSession sessionId => exact Iff.rfl
  | deleteSession sessionId reply now =>
    simp only [serve]
    rcases hs : m.deleteRequest sessionId consumer with _ | stored
    · rw [deleteSession, hs]
    · obtain ⟨hs, hconsumer⟩ := getSession_eq_some_iff.1 hs
      rcases getSessionById_deleteSession hm sessionId consumer reply now id with
        h | ⟨rfl, s, hs', h⟩
      · rw [h]
      · obtain rfl := Option.some.inj (hs.symm.trans hs')
        rw [h]
        exact hwritten hconsumer hconsumer hs
  | extendSessionDuration sessionId additional =>
    simp only [serve, extendSessionDuration_eq]
    split
    next => exact Iff.rfl
    next stored hs =>
      obtain ⟨hs, hconsumer⟩ := getSession_eq_some_iff.1 hs
      split_ifs
      · exact Iff.rfl
      · split
        next => exact Iff.rfl
        next t _ =>
          dsimp only
          rw [getSessionById_extended hm hs]
          split_ifs with hid
          · subst hid
            exact hwritten hconsumer hconsumer hs
          · exact Iff.rfl
  | retrieveSessionsByDevice device => exact Iff.rfl

/-! ## Two states -/

/-- The states have the same sessions of the consumer. -/
def AgreeOn (consumer : String) (m m' : QodSessionManager) : Prop :=
  ∀ id session, session.apiConsumerId = consumer →
    (m.qod.getSessionById id = some session ↔ m'.qod.getSessionById id = some session)

variable {m' : QodSessionManager}

theorem AgreeOn.getSession (h : AgreeOn consumer m m') (id : String) :
    m.getSession id consumer = m'.getSession id consumer := by
  ext session
  rw [getSession_eq_some_iff, getSession_eq_some_iff]
  exact and_congr_left fun hconsumer => h id session hconsumer

theorem AgreeOn.retrieve (h : AgreeOn consumer m m') (device : Option QodDevice) :
    (m.retrieveSessionsByDevice device consumer).Perm
      (m'.retrieveSessionsByDevice device consumer) := by
  refine Table.filter_values_perm fun id session hs => ?_
  simp only [Bool.and_eq_true, beq_iff_eq] at hs
  exact h id session hs.1.1

/-- The result of the end of a deletion depends on the session only. -/
theorem fst_finishDelete (session : QodSession) (now : ℤ) :
    (m.finishDelete session now).1 = (m'.finishDelete session now).1 := by
  rw [finishDelete, finishDelete]
  rcases session.pduSessionId with _ | pduSessionId
  · rfl
  · rcases createOrGetUeKey (deleted session now) with e | _ | key <;> rfl

theorem AgreeOn.deleteSession (h : AgreeOn consumer m m') (hsetup : m.setup = m'.setup)
    (sessionId : String) (reply : Option PcfReply) (now : ℤ) :
    (m.deleteSession sessionId consumer reply now).1 =
      (m'.deleteSession sessionId consumer reply now).1 := by
  have hrequest : m.deleteRequest sessionId consumer = m'.deleteRequest sessionId consumer :=
    h.getSession sessionId
  have hready : m.pcfReady = m'.pcfReady := by
    rw [pcfReady, pcfReady]
    rw [show m.pcfService = m'.pcfService from congrArg Setup.pcfService hsetup,
      show m.pcfDestination = m'.pcfDestination from congrArg Setup.pcfDestination hsetup]
  rw [QodSessionManager.deleteSession, QodSessionManager.deleteSession, hrequest, hready]
  rcases m'.deleteRequest sessionId consumer with _ | session
  · rfl
  · dsimp only
    rcases pcfSessionOf session with _ | p
    · exact fst_finishDelete ..
    · dsimp only
      rw [removeReply_eq, removeReply_eq]
      split_ifs
      · rcases PcfAnswer.of reply with p' | p' | e | _
        · rfl
        · exact fst_finishDelete ..
        · rfl
        · rfl
      · rfl

theorem AgreeOn.extendSessionDuration (h : AgreeOn consumer m m') (hsetup : m.setup = m'.setup)
    (sessionId : String) (additional : ℤ) :
    (m.extendSessionDuration sessionId additional consumer).1 =
      (m'.extendSessionDuration sessionId additional consumer).1 := by
  have hextended : ∀ session t, m.extended session additional t =
      m'.extended session additional t := by
    intro session t
    rw [extended, extended, extendedDuration, extendedDuration, getMaxDurationForProfile,
      getMaxDurationForProfile, show m.config = m'.config from congrArg Setup.config hsetup]
  rw [extendSessionDuration_eq, extendSessionDuration_eq, h.getSession]
  rcases m'.getSession sessionId consumer with _ | session
  · rfl
  · dsimp only
    split_ifs
    · rfl
    · rcases session.startedAt with _ | t
      · rfl
      · dsimp only
        rw [hextended]

/-- The result of a request that creates nothing depends on the sessions of its consumer
    only. -/
theorem AgreeOn.serve (h : AgreeOn consumer m m') (hsetup : m.setup = m'.setup)
    {request : ClientRequest} (hcreate : request.drawnId = none) :
    ClientResult.Same (m.serve consumer request).1 (m'.serve consumer request).1 := by
  cases request with
  | createSession request sessionId now reply later => cases hcreate
  | getSession sessionId => exact congrArg ClientResult.found (h.getSession sessionId)
  | deleteSession sessionId reply now =>
    exact congrArg ClientResult.deleted (h.deleteSession hsetup sessionId reply now)
  | extendSessionDuration sessionId additional =>
    exact congrArg ClientResult.extended (h.extendSessionDuration hsetup sessionId additional)
  | retrieveSessionsByDevice device => exact h.retrieve device

end QodSessionManager

namespace QodRun

open QodSessionManager

variable {r₀ r r' : QodRun}

theorem setup_of_later (h₀ : qodSystem.Reachable r₀) (h : qodSystem.Later r₀ r) :
    qodSystem.Reachable r ∧ r.manager.setup = r₀.manager.setup :=
  h.stable (P := fun r : QodRun => r.manager.setup = r₀.manager.setup)
    (fun _ _ _ _ hsetup hnext => (setup_next (manager_of_next hnext)).trans hsetup) h₀ rfl

/-- A request with a new session id returns sessions of its consumer only, and no session
    of another consumer is changed, added or removed; and requests that create nothing
    have the same result in any two states of a manager with the same sessions of the
    consumer. -/
theorem isolated_of_later (h₀ : qodSystem.init r₀) (h : qodSystem.Later r₀ r) (consumer : String)
    (request : ClientRequest) (hfresh : ∀ id, request.drawnId = some id → id ∉ r.drawn)
    (husual : request.Usual) :
    (∀ session ∈ (r.manager.serve consumer request).1.sessions,
      session.apiConsumerId = consumer) ∧
      (∀ id session, session.apiConsumerId ≠ consumer →
        ((r.manager.serve consumer request).2.qod.getSessionById id = some session ↔
          r.manager.qod.getSessionById id = some session)) ∧
      ∀ r', qodSystem.Later r₀ r' → AgreeOn consumer r.manager r'.manager →
        request.drawnId = none →
        ClientResult.Same (r.manager.serve consumer request).1
          (r'.manager.serve consumer request).1 := by
  obtain ⟨hr, hsetup⟩ := setup_of_later (.init h₀) h
  obtain ⟨hfiled, hdrawn⟩ := filed_of_reachable hr
  have hnone : ∀ id, request.drawnId = some id → r.manager.qod.getSessionById id = none := by
    intro id hid
    rw [Option.eq_none_iff_forall_ne_some]
    exact fun session hs => hfresh id hid (hdrawn id session hs)
  refine ⟨?_, ?_, ?_⟩
  · exact fun session hs => apiConsumerId_of_serve hfiled hnone hs
  · exact fun id session hother => getSessionById_serve_iff hfiled hnone husual id hother
  · intro r' h' hagree hcreate
    obtain ⟨-, hsetup'⟩ := setup_of_later (.init h₀) h'
    exact hagree.serve (hsetup.trans hsetup'.symm) hcreate

/-- A session of one consumer stays when another one asks for its deletion, and the
    answer is the one given where it does not exist. -/
theorem isolated_deletion : ∃ (r : QodRun) (session : QodSession),
    qodSystem.Later initial r ∧ r.manager.qod.getSessionById "session-1" = some session ∧
      session.apiConsumerId = "consumer-a" ∧
      (r.manager.serve "consumer-b" (.deleteSession "session-1" none 2)).2.qod.getSessionById
        "session-1" = some session ∧
      ClientResult.Same (r.manager.serve "consumer-b" (.deleteSession "session-1" none 2)).1
        (initial.manager.serve "consumer-b" (.deleteSession "session-1" none 2)).1 := by
  have h₁ := (System.Later.refl (T := qodSystem) initial).step (a := QodOp.createSession
    (phoneSession "consumer-a") "session-1" 0 (some (.created "pcf-1")) 1) rfl
  obtain ⟨-, hothers, hsame⟩ := isolated_of_later ⟨_, _, _, _, rfl⟩ h₁ "consumer-b"
    (.deleteSession "session-1" none 2) (fun _ h => by cases h) trivial
  refine ⟨_, _, h₁, rfl, rfl, (hothers "session-1" _ (by decide)).2 rfl, ?_⟩
  refine hsame initial (.refl _) (fun id session hsession => ?_) rfl
  -- The creation has not touched the sessions of the other consumer either.
  obtain ⟨-, hothers', -⟩ := isolated_of_later ⟨_, _, _, _, rfl⟩ (.refl initial) "consumer-a"
    (.createSession (phoneSession "consumer-a") "session-1" 0 (some (.created "pcf-1")) 1)
    (fun _ _ => List.not_mem_nil) (fun _ h => by cases h)
  exact hothers' id session (by rw [hsession]; decide)

end QodRun

end PhineAf

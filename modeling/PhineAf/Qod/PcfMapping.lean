import PhineAf.Qod.Lifecycle

/-!
# The mapping of PCF ids

`pcf_session_mapping_` leads from the id of a PCF application session to the QoD
session it serves. It is coherent when each of its entries leads to a stored
session that has the PCF id.

The end of a PCF session and a deletion take the entry away with the session;
the clean-up, the end of a PDU session and `stop` do not, and a second success of
the PCF leaves the entry of the first id behind. `QodRun.Unmaps` says that an
operation leaves no entry behind in one of these ways:
`QodRun.pcfCoherent_of_reachable` shows that the mapping is coherent in the runs
of such operations, and that every other operation breaks it.

In every run, coherent or not, the mapping leads to ids that have been drawn, and to no
session that is merely requested (`QodRun.mapped_of_reachable`).
-/

namespace PhineAf

namespace QodStore

variable {s s' : QodStore} {p id : String}

/-- The PCF id is mapped to the session. -/
def Mapped (s : QodStore) (p id : String) : Prop := s.pcfSessionMapping.lookup p = some id

/-- Every PCF id is mapped to a stored session that has it. -/
def PcfCoherent (s : QodStore) : Prop :=
  ∀ p id, s.Mapped p id →
    ∃ session, s.getSessionById id = some session ∧ session.pcfSessionId = some p

/-! ## What an update does to the mapping -/

theorem mapped_updatePcfSessionMap {q r : String} :
    (s.updatePcfSessionMap p id).Mapped q r ↔ if q = p then r = id else s.Mapped q r := by
  rw [Mapped, updatePcfSessionMap, Table.lookup_insert_eq]
  split_ifs
  · rw [Option.some.injEq, eq_comm]
  · rfl

theorem mapped_removePcfToQodSessionMapping {q r : String} :
    (s.removePcfToQodSessionMapping p).2.Mapped q r ↔ q ≠ p ∧ s.Mapped q r := by
  rw [Mapped, removePcfToQodSessionMapping]
  split_ifs with h
  · rw [Table.lookup_erase_eq]
    split_ifs with hq <;> simp [hq, Mapped]
  · refine ⟨fun hr => ⟨?_, hr⟩, And.right⟩
    rintro rfl
    exact h (by rw [hr]; rfl)

@[simp]
theorem mapped_updateSession {session : QodSession} :
    (s.updateSession session).2.Mapped p id ↔ s.Mapped p id := by
  rw [updateSession]
  split_ifs <;> exact Iff.rfl

@[simp]
theorem mapped_updateSessionStatus {sessionId : String} {status : QosStatus}
    {info : Option StatusInfo} :
    (s.updateSessionStatus sessionId status info).2.Mapped p id ↔ s.Mapped p id := by
  rw [updateSessionStatus]
  split <;> exact Iff.rfl

@[simp]
theorem mapped_removeSession {sessionId : String} :
    (s.removeSession sessionId).2.Mapped p id ↔ s.Mapped p id := by
  rw [removeSession]
  split <;> exact Iff.rfl

@[simp]
theorem mapped_clearAllSessions : s.clearAllSessions.Mapped p id ↔ s.Mapped p id := Iff.rfl

theorem mapped_foldl_removeSession (l : List QodSession) :
    (l.foldl (fun s session => (s.removeSession session.sessionId).2) s).Mapped p id ↔
      s.Mapped p id := by
  induction l generalizing s with
  | nil => exact Iff.rfl
  | cons session l ih => rw [List.foldl_cons, ih, mapped_removeSession]

/-! ## Coherence of an update -/

/-- An update that adds no entry, and keeps the PCF ids of the sessions that still
    have one, keeps the mapping coherent. -/
theorem PcfCoherent.mono (h : s.PcfCoherent) (hmap : ∀ p id, s'.Mapped p id → s.Mapped p id)
    (hkeep : ∀ p id session, s'.Mapped p id → s.getSessionById id = some session →
      ∃ session', s'.getSessionById id = some session' ∧
        session'.pcfSessionId = session.pcfSessionId) : s'.PcfCoherent := by
  intro p id hp
  obtain ⟨session, hs, hpcf⟩ := h p id (hmap p id hp)
  obtain ⟨session', hs', hpcf'⟩ := hkeep p id session hp hs
  exact ⟨session', hs', hpcf'.trans hpcf⟩

/-- A session that is not stored has no entry. -/
theorem PcfCoherent.not_mapped (h : s.PcfCoherent) (hnone : s.getSessionById id = none) :
    ¬s.Mapped p id := by
  intro hp
  obtain ⟨session, hs, -⟩ := h p id hp
  rw [hnone] at hs
  cases hs

theorem PcfCoherent.addSession (h : s.PcfCoherent) {session : QodSession}
    (hfresh : s.getSessionById session.sessionId = none) : (s.addSession session).PcfCoherent := by
  refine h.mono (fun _ _ hp => hp) ?_
  intro p id stored hp hs
  rw [getSessionById_addSession, if_neg]
  · exact ⟨stored, hs, rfl⟩
  · rintro rfl
    exact h.not_mapped hfresh hp

/-- A session is written back with its PCF id. -/
theorem PcfCoherent.updateSession (h : s.PcfCoherent) (session : QodSession) {stored : QodSession}
    (hs : s.getSessionById session.sessionId = some stored)
    (hpcf : session.pcfSessionId = stored.pcfSessionId) : (s.updateSession session).2.PcfCoherent := by
  refine h.mono (fun _ _ hp => mapped_updateSession.1 hp) ?_
  intro p id session' _ hs'
  rw [getSessionById_updateSession]
  split_ifs with hid
  · obtain ⟨rfl, -⟩ := hid
    rw [hs, Option.some.injEq] at hs'
    exact ⟨session, rfl, hs' ▸ hpcf⟩
  · exact ⟨session', hs', rfl⟩

theorem PcfCoherent.updateSessionStatus (h : s.PcfCoherent) (sessionId : String)
    (status : QosStatus) (info : Option StatusInfo) :
    (s.updateSessionStatus sessionId status info).2.PcfCoherent := by
  refine h.mono (fun _ _ hp => mapped_updateSessionStatus.1 hp) ?_
  intro p id session _ hs
  rw [getSessionById_updateSessionStatus, hs]
  split_ifs
  · exact ⟨_, rfl, rfl⟩
  · exact ⟨session, rfl, rfl⟩

theorem PcfCoherent.removePcfToQodSessionMapping (h : s.PcfCoherent) (p : String) :
    (s.removePcfToQodSessionMapping p).2.PcfCoherent := by
  refine h.mono (fun _ _ hp => (mapped_removePcfToQodSessionMapping.1 hp).2) ?_
  intro q id session _ hs
  exact ⟨session, (getSessionById_removePcfToQodSessionMapping ..).trans hs, rfl⟩

/-- Sessions are removed and the mapping stays: none of them may have an entry. -/
theorem PcfCoherent.remove_iff (h : s.PcfCoherent) (hmap : ∀ p id, s'.Mapped p id ↔ s.Mapped p id)
    (gone : String → Prop) (hgone : ∀ id, gone id → s'.getSessionById id = none)
    (hkept : ∀ id, ¬gone id → s'.getSessionById id = s.getSessionById id) :
    s'.PcfCoherent ↔ ∀ p id, gone id → ¬s.Mapped p id := by
  constructor
  · intro h' p id hid hp
    exact h'.not_mapped (hgone id hid) ((hmap p id).2 hp)
  · intro hnone
    refine h.mono (fun p id => (hmap p id).1) ?_
    intro p id session hp hs
    refine ⟨session, (hkept id ?_).trans hs, rfl⟩
    exact fun hid => hnone p id hid ((hmap p id).1 hp)

/-- A session is removed with the entry that led to it. -/
theorem PcfCoherent.drop (h : s.PcfCoherent) {session : QodSession}
    (hs : s.getSessionByPcfSessionId p = some session)
    (hfiled : ∀ id stored, s.getSessionById id = some stored → stored.sessionId = id) :
    ((s.removeSession session.sessionId).2.removePcfToQodSessionMapping p).2.PcfCoherent := by
  obtain ⟨id, hp, hs⟩ := Option.bind_eq_some_iff.1 hs
  obtain rfl := hfiled id session hs
  refine h.mono (fun _ _ hq => mapped_removeSession.1 (mapped_removePcfToQodSessionMapping.1 hq).2) ?_
  intro q id' stored hq hs'
  rw [mapped_removePcfToQodSessionMapping, mapped_removeSession] at hq
  obtain ⟨hne, hq⟩ := hq
  rw [getSessionById_removePcfToQodSessionMapping, getSessionById_removeSession, if_neg]
  · exact ⟨stored, hs', rfl⟩
  · -- The session has one PCF id only.
    rintro rfl
    obtain ⟨a, ha, hpa⟩ := h p _ hp
    obtain ⟨b, hb, hqb⟩ := h q _ hq
    rw [ha, Option.some.injEq] at hb
    rw [hb, hqb, Option.some.injEq] at hpa
    exact hne hpa

/-- A session gets a PCF id: an entry of another one may not lead to it. -/
theorem PcfCoherent.activate_iff (h : s.PcfCoherent) (session : QodSession) {stored : QodSession}
    (hs : s.getSessionById session.sessionId = some stored)
    (hpcf : session.pcfSessionId = some p) :
    ((s.updatePcfSessionMap p session.sessionId).updateSession session).2.PcfCoherent ↔
      ∀ q, s.Mapped q session.sessionId → q = p := by
  have hget : ∀ x, ((s.updatePcfSessionMap p session.sessionId).updateSession
      session).2.getSessionById x =
        if x = session.sessionId then some session else s.getSessionById x := by
    have hs' : (s.updatePcfSessionMap p session.sessionId).getSessionById session.sessionId =
      some stored := hs
    exact getSessionById_updateSession_of_stored _ hs'
  constructor
  · intro h' q hq
    by_contra hne
    obtain ⟨a, ha, hqa⟩ := h' q session.sessionId
      (mapped_updateSession.2 (mapped_updatePcfSessionMap.2 (by rwa [if_neg hne])))
    rw [hget, if_pos rfl, Option.some.injEq] at ha
    rw [← ha, hpcf, Option.some.injEq] at hqa
    exact hne hqa.symm
  · intro honly q id hq
    rw [mapped_updateSession, mapped_updatePcfSessionMap] at hq
    rw [hget]
    split_ifs at hq with hqp
    · subst hq hqp
      rw [if_pos rfl]
      exact ⟨session, rfl, hpcf⟩
    · rw [if_neg]
      · exact h q id hq
      · rintro rfl
        exact hqp (honly q hq)

end QodStore

namespace QodSessionManager

variable {m m' : QodSessionManager} {op : QodOp}

/-! ## Coherence of an operation -/

theorem pcfCoherent_handlePcfSessionTerminated (hm : m.Filed) (h : m.qod.PcfCoherent) (p : String)
    (now : ℤ) : (m.handlePcfSessionTerminated p now).2.qod.PcfCoherent := by
  rcases handlePcfSessionTerminated_cases (m := m) p now with heq | ⟨-, session, m₁, hs, -, hqod, heq⟩
  · rw [heq]
    exact h
  · rw [heq, dropTerminated, hqod]
    exact h.drop hs hm

theorem pcfCoherent_handlePduSessionTerminatedEvent_iff (h : m.qod.PcfCoherent) (supi : Supi)
    (pduSessionId : String) (order : List String) :
    (m.handlePduSessionTerminatedEvent supi pduSessionId order).qod.PcfCoherent ↔
      ∀ session, m.qod.getSessionByPduSession supi pduSessionId order = some session →
        ∀ p, ¬m.qod.Mapped p session.sessionId := by
  rw [handlePduSessionTerminatedEvent]
  cases hs : m.qod.getSessionByPduSession supi pduSessionId order with
  | none => simpa using h
  | some session =>
    simp only [qod_notifyIf, Option.some.injEq, forall_eq']
    rw [h.remove_iff (fun _ _ => QodStore.mapped_removeSession) (· = session.sessionId)]
    · exact ⟨fun hnone p => hnone p _ rfl, fun hnone p id hid => hid ▸ hnone p⟩
    · intro id hid
      rw [QodStore.getSessionById_removeSession, if_pos hid]
    · intro id hid
      rw [QodStore.getSessionById_removeSession, if_neg hid]

theorem pcfCoherent_cleanupExpiredSessions_iff (h : m.qod.PcfCoherent) (now : ℤ) :
    (m.cleanupExpiredSessions now).qod.PcfCoherent ↔
      ∀ session ∈ m.qod.getExpiredSessions now m.config.unavailableSessionTtl,
        ∀ p, ¬m.qod.Mapped p session.sessionId := by
  have hlookup := QodStore.getSessionById_foldl_removeSession m.qod
    (m.qod.getExpiredSessions now m.config.unavailableSessionTtl)
  refine (h.remove_iff (fun _ _ => QodStore.mapped_foldl_removeSession _)
    (· ∈ (m.qod.getExpiredSessions now
      m.config.unavailableSessionTtl).map (·.sessionId)) ?_ ?_).trans ?_
  · exact fun id hid => (hlookup id).trans (if_pos hid)
  · exact fun id hid => (hlookup id).trans (if_neg hid)
  · constructor
    · exact fun hnone session hs p => hnone p _ (List.mem_map_of_mem hs)
    · intro hnone p id hid
      obtain ⟨session, hs, rfl⟩ := List.mem_map.1 hid
      exact hnone session hs p

theorem pcfCoherent_handlePcfSessionResponse_iff (hm : m.Filed) (h : m.qod.PcfCoherent)
    (q p : String) (success : Bool) (e : String) (now : ℤ) :
    (m.handlePcfSessionResponse q p success e now).qod.PcfCoherent ↔
      (success = true → ∀ p', m.qod.Mapped p' q → p' = p) := by
  cases hs : m.qod.getSessionById q with
  | none =>
    rw [handlePcfSessionResponse, hs]
    exact ⟨fun _ _ p' hp' => absurd hp' (h.not_mapped hs), fun _ => h⟩
  | some session =>
    obtain rfl := hm q session hs
    rw [qod_handlePcfSessionResponse hs]
    cases success with
    | true =>
      simp only [if_true, true_implies]
      exact h.activate_iff (activated session p now) hs rfl
    | false =>
      simp only [Bool.false_eq_true, if_false, false_implies, iff_true]
      exact h.updateSession (failed session e) hs rfl

theorem pcfCoherent_abandonSession (h : m.qod.PcfCoherent) (sessionId : String)
    (sink : Option String) : (m.abandonSession sessionId sink).2.qod.PcfCoherent := by
  rw [qod_abandonSession]
  exact h.updateSessionStatus _ _ _

/-- A new session has no entry yet, so that the reply can give it one. -/
theorem pcfCoherent_createSession (hm : m.Filed) (h : m.qod.PcfCoherent)
    (request : CreateSessionRequest) {sessionId : String}
    (hfresh : m.qod.getSessionById sessionId = none) (now : ℤ) (reply : Option PcfReply)
    (later : ℤ) : (m.createSession request sessionId now reply later).2.qod.PcfCoherent := by
  rcases createSession_cases (m := m) request sessionId now reply later with
    heq | ⟨session, m₁, hprepared, -, hqod, hcases⟩
  · rw [heq]
    exact h
  · obtain ⟨rfl, -⟩ := prepared hprepared
    have h₁ : m₁.qod.PcfCoherent := by
      rw [hqod]
      exact h.addSession hfresh
    have hm₁ : m₁.Filed := hm.of_addSession hqod
    have hnone : ∀ p, ¬m₁.qod.Mapped p session.sessionId := by
      intro p hp
      rw [hqod] at hp
      exact h.not_mapped hfresh hp
    have hresponse : ∀ p success e, (m₁.handlePcfSessionResponse session.sessionId p success e
        later).qod.PcfCoherent := by
      intro p success e
      refine (pcfCoherent_handlePcfSessionResponse_iff hm₁ h₁ _ p success e later).2 ?_
      exact fun _ p' hp' => absurd hp' (hnone p')
    rcases hcases with heq | ⟨p, heq⟩ | ⟨e, heq⟩ | ⟨p, -, heq⟩ <;> rw [heq]
    · exact pcfCoherent_abandonSession h₁ _ _
    · exact hresponse p true ""
    · exact pcfCoherent_abandonSession (hresponse "" false e) _ _
    · exact pcfCoherent_handlePcfSessionTerminated hm₁ h₁ p later

theorem pcfCoherent_finishDelete (h : m.qod.PcfCoherent) {session : QodSession}
    (hs : m.qod.getSessionById session.sessionId = some session) (now : ℤ) :
    (m.finishDelete session now).2.qod.PcfCoherent := by
  rcases qod_finishDelete (m := m) session now with heq | heq <;> rw [heq]
  · exact h
  · exact h.updateSession (deleted session now) hs rfl

theorem pcfCoherent_deleteSession (hm : m.Filed) (h : m.qod.PcfCoherent)
    (sessionId consumer : String) (reply : Option PcfReply) (now : ℤ) :
    (m.deleteSession sessionId consumer reply now).2.qod.PcfCoherent := by
  rw [deleteSession, deleteRequest]
  split
  next => exact h
  next session hs =>
    obtain ⟨hs, -⟩ := Option.filter_eq_some_iff.1 hs
    obtain rfl := hm sessionId session hs
    split
    next => exact pcfCoherent_finishDelete h hs now
    next p _ =>
      split
      next =>
        rcases removeReply_cases reply with ⟨p', hreply⟩ | hreply <;> rw [hreply]
        · refine pcfCoherent_finishDelete (h.removePcfToQodSessionMapping p') ?_ now
          exact (QodStore.getSessionById_removePcfToQodSessionMapping ..).trans hs
        · exact h
      next => exact h

/-! ## The sessions with a PCF id -/

variable {id : String}

/-- The status of a session, which is unavailable once it is removed. -/
def statusOf (m : QodSessionManager) (id : String) : QosStatus :=
  (m.qod.getSessionById id).elim .unavailable (·.qosStatus)

theorem mapped_handlePcfSessionResponse (hfiled : m.Filed) {q p x : String} {success : Bool}
    {e : String} {now : ℤ} (h : (m.handlePcfSessionResponse q p success e now).qod.Mapped x id) :
    m.qod.Mapped x id ∨ id = q ∧ (m.qod.getSessionById q).isSome ∧
      (m.handlePcfSessionResponse q p success e now).statusOf q = .available := by
  rcases hs : m.qod.getSessionById q with _ | session
  · rw [handlePcfSessionResponse, hs] at h
    exact .inl h
  · have hget := getSessionById_handlePcfSessionResponse hfiled q p success e now q
    rw [if_pos rfl, hs] at hget
    rw [qod_handlePcfSessionResponse hs] at h
    cases success with
    | false => exact .inl (QodStore.mapped_updateSession.1 h)
    | true =>
      rw [if_pos rfl, QodStore.mapped_updateSession, QodStore.mapped_updatePcfSessionMap] at h
      split_ifs at h
      · refine .inr ⟨h, rfl, ?_⟩
        rw [statusOf, hget]
        rfl
      · exact .inl h

theorem mapped_handlePcfSessionTerminated {p x : String} {now : ℤ}
    (h : (m.handlePcfSessionTerminated p now).2.qod.Mapped x id) : m.qod.Mapped x id := by
  rcases handlePcfSessionTerminated_cases (m := m) p now with heq | ⟨-, session, m₁, -, -, hqod, heq⟩
  · rwa [heq] at h
  · rw [heq, dropTerminated, hqod] at h
    exact QodStore.mapped_removeSession.1 (QodStore.mapped_removePcfToQodSessionMapping.1 h).2

theorem mapped_abandonSession {sessionId x : String} {sink : Option String}
    (h : (m.abandonSession sessionId sink).2.qod.Mapped x id) : m.qod.Mapped x id := by
  rw [qod_abandonSession] at h
  exact QodStore.mapped_updateSessionStatus.1 h

/-- A creation maps its session, if that is available, and no other. -/
theorem mapped_createSession (hfiled : m.Filed) {request : CreateSessionRequest}
    {sessionId x : String} {now later : ℤ} {reply : Option PcfReply}
    (h : (m.createSession request sessionId now reply later).2.qod.Mapped x id) :
    m.qod.Mapped x id ∨ sessionId = id ∧
      (m.createSession request sessionId now reply later).2.statusOf id = .available := by
  rcases createSession_cases (m := m) request sessionId now reply later with
    heq | ⟨session, m₁, hprepared, -, hqod, hcases⟩
  · rw [heq] at h
    exact .inl h
  · have hfiled₁ : m₁.Filed := hfiled.of_addSession hqod
    have hmap : m₁.qod.Mapped x id → m.qod.Mapped x id := by
      intro h
      rwa [hqod] at h
    rcases hcases with heq | ⟨p, heq⟩ | ⟨e, heq⟩ | ⟨p, -, heq⟩ <;> rw [heq] at h ⊢
    · exact .inl (hmap (mapped_abandonSession h))
    · rcases mapped_handlePcfSessionResponse hfiled₁ h with h | ⟨rfl, -, hstatus⟩
      · exact .inl (hmap h)
      · exact .inr ⟨rfl, hstatus⟩
    · -- A refusal maps nothing.
      have h := mapped_abandonSession h
      rcases hs : m₁.qod.getSessionById sessionId with _ | s
      · rw [handlePcfSessionResponse, hs] at h
        exact .inl (hmap h)
      · rw [qod_handlePcfSessionResponse hs] at h
        exact .inl (hmap (QodStore.mapped_updateSession.1 h))
    · exact .inl (hmap (mapped_handlePcfSessionTerminated h))

/-- A deletion only takes entries away. -/
theorem mapped_deleteSession {sessionId consumer x : String} {reply : Option PcfReply} {now : ℤ}
    (h : (m.deleteSession sessionId consumer reply now).2.qod.Mapped x id) :
    m.qod.Mapped x id := by
  have hfinish : ∀ m₁ : QodSessionManager, ∀ session,
      (m₁.finishDelete session now).2.qod.Mapped x id → m₁.qod.Mapped x id := by
    intro m₁ session h
    rcases qod_finishDelete (m := m₁) session now with heq | heq <;> rw [heq] at h
    · exact h
    · exact QodStore.mapped_updateSession.1 h
  rw [deleteSession] at h
  split at h
  next => exact h
  next session _ =>
    split at h
    next => exact hfinish m session h
    next =>
      split_ifs at h
      · rcases removeReply_cases reply with ⟨p', heq⟩ | heq <;> rw [heq] at h
        · exact (QodStore.mapped_removePcfToQodSessionMapping.1 (hfinish _ session h)).2
        · exact h
      · exact h

/-- An entry of the mapping was there before, or leads to a session that is available
    now: the new one, or one that was stored. -/
theorem mapped_next (hfiled : m.Filed) (hnext : m.next op = some m') {x : String}
    (h : m'.qod.Mapped x id) :
    m.qod.Mapped x id ∨ (op.drawnId = some id ∨ (m.qod.getSessionById id).isSome) ∧
      m'.statusOf id = .available := by
  cases op with
  | createSession request sessionId now reply later =>
    rw [next, Option.some.injEq] at hnext
    subst hnext
    rcases mapped_createSession hfiled h with h | ⟨rfl, hstatus⟩
    · exact .inl h
    · exact .inr ⟨.inl rfl, hstatus⟩
  | extendSessionDuration sessionId additional consumer =>
    obtain rfl | ⟨session, t, -, -, -, -, rfl⟩ := next_extendSessionDuration_cases hnext
    · exact .inl h
    · exact .inl (QodStore.mapped_updateSession.1 h)
  | deleteSession sessionId consumer reply now =>
    cases hnext
    exact .inl (mapped_deleteSession h)
  | handlePcfSessionResponse q p success e now =>
    rw [next, Option.some.injEq] at hnext
    subst hnext
    rcases mapped_handlePcfSessionResponse hfiled h with h | ⟨rfl, hsome, hstatus⟩
    · exact .inl h
    · exact .inr ⟨.inr hsome, hstatus⟩
  | handlePcfSessionTerminated p now =>
    cases hnext
    exact .inl (mapped_handlePcfSessionTerminated h)
  | handlePduSessionTerminatedEvent supi pduSessionId order =>
    cases hnext
    rw [handlePduSessionTerminatedEvent] at h
    split at h
    next => exact .inl h
    next =>
      rw [qod_notifyIf] at h
      exact .inl (QodStore.mapped_removeSession.1 h)
  | cleanupExpiredSessions now =>
    cases hnext
    exact .inl ((QodStore.mapped_foldl_removeSession _).1 h)
  | stop =>
    cases hnext
    exact .inl h
  | ueOperation op =>
    obtain ⟨ue, -, rfl⟩ := Option.map_eq_some_iff.1 hnext
    exact .inl h

end QodSessionManager

namespace QodRun

open QodSessionManager

variable {r r' : QodRun} {op : QodOp}

/-- A PCF id is mapped to an id that has been drawn, whose session is not merely
    requested. -/
theorem mapped_of_reachable (hr : qodSystem.Reachable r) :
    ∀ p id, r.manager.qod.Mapped p id → id ∈ r.drawn ∧
      ∀ session, r.manager.qod.getSessionById id = some session →
        session.qosStatus ≠ .requested := by
  refine System.Reachable.invariant (P := fun r : QodRun => ∀ p id, r.manager.qod.Mapped p id →
    id ∈ r.drawn ∧ ∀ session, r.manager.qod.getSessionById id = some session →
      session.qosStatus ≠ .requested) ?_ ?_ hr
  · rintro r ⟨config, pcfService, pcfDestination, notificationHandler, rfl⟩ p id hp
    cases hp
  · intro r op r' hr h hnext p id hp
    obtain ⟨hfiled, hdrawn⟩ := filed_of_reachable hr
    have hm := manager_of_next hnext
    rw [drawn_of_next hnext]
    rcases mapped_next hfiled hm hp with hold | ⟨hid, hstatus⟩
    · obtain ⟨hmem, hrequested⟩ := h p id hold
      refine ⟨List.mem_append_right _ hmem, fun session hs => ?_⟩
      rcases lookup_next hfiled hm id with hkept | ⟨hgone, -⟩ | ⟨s, hs', hwrite⟩
      · exact hrequested session (hkept.symm.trans hs)
      · rw [hgone] at hs
        cases hs
      · rw [hs', Option.some.injEq] at hs
        subst hs
        -- A requested session is written under a new id only.
        cases hwrite with
        | requested => exact absurd hmem (fresh_of_next hnext rfl)
        | extended hs => exact (hrequested _ hs :)
        | started => exact fun h => by cases h
        | abandoned => exact fun h => by cases h
        | rejected => exact fun h => by cases h
        | deleted => exact fun h => by cases h
        | activated => exact fun h => by cases h
        | failed => exact fun h => by cases h
    · constructor
      · rcases hid with hid | hid
        · rw [hid]
          exact List.mem_append_left _ (by simp)
        · obtain ⟨session, hs⟩ := Option.isSome_iff_exists.1 hid
          exact List.mem_append_right _ (hdrawn id session hs)
      · intro session hs
        rw [statusOf, hs] at hstatus
        exact fun h => by cases h.symm.trans hstatus

theorem not_requested_of_reachable (hr : qodSystem.Reachable r) {p : String} {session : QodSession}
    (h : r.manager.qod.getSessionByPcfSessionId p = some session) :
    session.qosStatus ≠ .requested := by
  obtain ⟨id, hp, hs⟩ := Option.bind_eq_some_iff.1 h
  exact (mapped_of_reachable hr p id hp).2 session hs

/-- The session found by a PCF id, also after a new one is stored, is stored under its own
    id and not merely requested. -/
theorem found_of_next (hr : qodSystem.Reachable r) (hnext : r.next op = some r')
    {session : QodSession} (hid : op.drawnId = some session.sessionId) (now : ℤ) (p : String)
    (s : QodSession)
    (hs : (r.manager.storeSession session now).qod.getSessionByPcfSessionId p = some s) :
    (r.manager.storeSession session now).qod.getSessionById s.sessionId = some s ∧
      s.qosStatus ≠ .requested := by
  obtain ⟨id, hp, hget⟩ := Option.bind_eq_some_iff.1 hs
  obtain ⟨hdrawn, hrequested⟩ := mapped_of_reachable hr p id hp
  have hne : id ≠ session.sessionId := by
    rintro rfl
    exact fresh_of_next hnext hid hdrawn
  have hold : r.manager.qod.getSessionById id = some s := by
    have hstore := getSessionById_storeSession (m := r.manager) session now id
    rw [if_neg hne] at hstore
    exact hstore.symm.trans hget
  have hsession : s.sessionId = id := (filed_of_reachable hr).1 id s hold
  exact ⟨hsession ▸ hget, hrequested s hold⟩

/-- An operation leaves no entry of the mapping behind: the sessions that a clean-up,
    the end of a PDU session or `stop` removes have none, and a success of the PCF
    comes to a session without an entry of another PCF id. -/
def Unmaps (r : QodRun) : QodOp → Prop
  | .handlePcfSessionResponse q p success _ _ =>
    success = true → ∀ p', r.manager.qod.Mapped p' q → p' = p
  | .handlePduSessionTerminatedEvent supi pduSessionId order =>
    ∀ session, r.manager.qod.getSessionByPduSession supi pduSessionId order = some session →
      ∀ p, ¬r.manager.qod.Mapped p session.sessionId
  | .cleanupExpiredSessions now =>
    ∀ session ∈ r.manager.qod.getExpiredSessions now r.manager.config.unavailableSessionTtl,
      ∀ p, ¬r.manager.qod.Mapped p session.sessionId
  | .stop => ∀ p id, ¬r.manager.qod.Mapped p id
  | _ => True

/-- From a coherent mapping, an operation leads to a coherent one exactly if it leaves
    no entry behind. -/
theorem pcfCoherent_next_iff (hr : qodSystem.Reachable r) (h : r.manager.qod.PcfCoherent)
    (hnext : r.next op = some r') : r'.manager.qod.PcfCoherent ↔ r.Unmaps op := by
  have hfiled := (filed_of_reachable hr).1
  have hm := manager_of_next hnext
  cases op with
  | createSession request sessionId now reply later =>
    have hfresh := getSessionById_of_next hr hnext rfl
    rw [QodSessionManager.next, Option.some.injEq] at hm
    rw [← hm]
    exact iff_of_true (pcfCoherent_createSession hfiled h request hfresh now reply later) trivial
  | extendSessionDuration sessionId additional consumer =>
    refine iff_of_true ?_ trivial
    obtain heq | ⟨session, t, hs, -, -, -, heq⟩ := next_extendSessionDuration_cases hm <;> rw [heq]
    · exact h
    · obtain rfl := hfiled sessionId session hs
      exact h.updateSession (r.manager.extended session additional t) hs rfl
  | deleteSession sessionId consumer reply now =>
    rw [QodSessionManager.next, Option.some.injEq] at hm
    rw [← hm]
    exact iff_of_true (pcfCoherent_deleteSession hfiled h sessionId consumer reply now) trivial
  | handlePcfSessionResponse q p success e now =>
    rw [QodSessionManager.next, Option.some.injEq] at hm
    rw [← hm]
    exact pcfCoherent_handlePcfSessionResponse_iff hfiled h q p success e now
  | handlePcfSessionTerminated p now =>
    rw [QodSessionManager.next, Option.some.injEq] at hm
    rw [← hm]
    exact iff_of_true (pcfCoherent_handlePcfSessionTerminated hfiled h p now) trivial
  | handlePduSessionTerminatedEvent supi pduSessionId order =>
    rw [QodSessionManager.next, Option.some.injEq] at hm
    rw [← hm]
    exact pcfCoherent_handlePduSessionTerminatedEvent_iff h supi pduSessionId order
  | cleanupExpiredSessions now =>
    rw [QodSessionManager.next, Option.some.injEq] at hm
    rw [← hm]
    exact pcfCoherent_cleanupExpiredSessions_iff h now
  | stop =>
    rw [QodSessionManager.next, Option.some.injEq] at hm
    rw [← hm, Unmaps]
    have hiff := h.remove_iff (fun _ _ => QodStore.mapped_clearAllSessions) (fun _ => True)
      (fun id _ => QodStore.getSessionById_clearAllSessions ..) fun _ hid => absurd trivial hid
    exact hiff.trans ⟨fun hnone p id => hnone p id trivial, fun hnone p id _ => hnone p id⟩
  | ueOperation op =>
    obtain ⟨ue, -, hm⟩ := Option.map_eq_some_iff.1 hm
    rw [← hm]
    exact iff_of_true h trivial

/-- In every run whose operations leave no entry behind, every entry of the mapping
    leads to a stored session that has the PCF id; and the first operation that
    leaves one behind breaks this. -/
theorem pcfCoherent_of_reachable (hr : (qodSystem.restrict Unmaps).Reachable r) :
    r.manager.qod.PcfCoherent ∧ ∀ op r', r.next op = some r' →
      (r'.manager.qod.PcfCoherent ↔ r.Unmaps op) := by
  have h : r.manager.qod.PcfCoherent := by
    refine System.Reachable.invariant (P := fun r : QodRun => r.manager.qod.PcfCoherent) ?_ ?_ hr
    · rintro r ⟨config, pcfService, pcfDestination, notificationHandler, rfl⟩ p id hp
      cases hp
    · rintro r op r' hr h ⟨hop, hnext⟩
      exact (pcfCoherent_next_iff hr.of_restrict h hnext).2 hop
  exact ⟨h, fun op r' hnext => pcfCoherent_next_iff hr.of_restrict h hnext⟩

/-- A session is created and ended by the PCF, and another one created. -/
theorem pcfCoherent_after_termination : ∃ r : QodRun, (qodSystem.restrict Unmaps).Reachable r ∧
    (r.manager.qod.getSessionById "session-2").isSome ∧ r.manager.qod.Mapped "pcf-2" "session-2" ∧
    r.manager.qod.PcfCoherent := by
  have h₀ : (qodSystem.restrict Unmaps).Reachable initial := .init ⟨_, _, _, _, rfl⟩
  have h₁ := h₀.step (a := QodOp.createSession (phoneSession "consumer") "session-1" 0
    (some (.created "pcf-1")) 1) ⟨trivial, rfl⟩
  have h₂ := h₁.step (a := QodOp.handlePcfSessionTerminated "pcf-1" 2) ⟨trivial, rfl⟩
  have h₃ := h₂.step (a := QodOp.createSession (phoneSession "consumer") "session-2" 3
    (some (.created "pcf-2")) 4) ⟨trivial, rfl⟩
  exact ⟨_, h₃, rfl, rfl, (pcfCoherent_of_reachable h₃).1⟩

/-- A session is created, and cleaned up once it has expired. -/
def expiredRun : List QodOp :=
  [.createSession (phoneSession "consumer") "session-1" 0 (some (.created "pcf-1")) 1,
    .cleanupExpiredSessions (after 1 960)]

/-- Its PCF id is still mapped to it. -/
theorem not_pcfCoherent_after_expiredRun : ∃ r, expiredRun.foldlM next initial = some r ∧
    qodSystem.Reachable r ∧ ¬r.manager.qod.PcfCoherent := by
  have h₀ : qodSystem.Reachable initial := .init ⟨_, _, _, _, rfl⟩
  have h₁ := h₀.step (a := expiredRun[0]) rfl
  have h₂ := h₁.step (a := expiredRun[1]) rfl
  refine ⟨_, rfl, h₂, fun h => ?_⟩
  obtain ⟨session, hs, -⟩ := h "pcf-1" "session-1" rfl
  cases hs

end QodRun

end PhineAf

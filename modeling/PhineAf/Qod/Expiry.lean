import PhineAf.Qod.Lifecycle

/-!
# The end of a session's time

`cleanup_expired_sessions` removes a session some time after it has expired
(`getSessionById_cleanupExpiredSessions_iff`). It finds the session by `expires_at`, so
that a session that has become unavailable without it is never removed: one whose
creation fails, or whose creation the PCF refuses later. `QodRun.Dates` says that an
operation does not leave a session in this way.

Until the clean-up removes it, an expired session is served like any other: the
grace period of `get_expired_sessions` is the time for which it still counts. Once it
is removed, no later operation brings it back (`QodRun.unserved_of_later`).
-/

namespace PhineAf

/-- The readings of the clock in an operation of the session manager, in order. -/
def QodOp.readings : QodOp → List ℤ
  | .createSession _ _ now _ later => [now, later]
  | .deleteSession _ _ _ now => [now]
  | .handlePcfSessionResponse _ _ _ _ now => [now]
  | .handlePcfSessionTerminated _ now => [now]
  | .cleanupExpiredSessions now => [now]
  | _ => []

namespace QodSessionManager

variable {m : QodSessionManager}

/-- A clean-up removes the sessions that have expired for the grace period, and no
    others. -/
theorem getSessionById_cleanupExpiredSessions_iff (hm : m.Filed) (now : ℤ) (id : String)
    (session : QodSession) :
    (m.cleanupExpiredSessions now).qod.getSessionById id = some session ↔
      m.qod.getSessionById id = some session ∧
        ∀ e ∈ session.expiresAt, now < after e m.config.unavailableSessionTtl := by
  have hlookup := QodStore.getSessionById_foldl_removeSession m.qod
    (m.qod.getExpiredSessions now m.config.unavailableSessionTtl) id
  have hexpired : ∀ s : QodSession, QodStore.expired now m.config.unavailableSessionTtl s = true ↔
      ¬∀ e ∈ s.expiresAt, now < after e m.config.unavailableSessionTtl := by
    intro s
    rw [QodStore.expired]
    cases s.expiresAt <;> simp
  -- The ids of the expired sessions are the ids under which an expired session is stored.
  have hmem : ∀ s, m.qod.getSessionById id = some s →
      (id ∈ (m.qod.getExpiredSessions now m.config.unavailableSessionTtl).map (·.sessionId) ↔
        QodStore.expired now m.config.unavailableSessionTtl s = true) := by
    intro s hs
    rw [List.mem_map]
    constructor
    · rintro ⟨s', hs', rfl⟩
      obtain ⟨hstored, hs'⟩ := List.mem_filter.1 hs'
      obtain ⟨id', hid'⟩ := (QodStore.mem_getAllSessions _).1 hstored
      rw [hm _ _ hid', hid', Option.some.injEq] at hs
      exact hs ▸ hs'
    · intro hs'
      exact ⟨s, List.mem_filter.2 ⟨(QodStore.mem_getAllSessions _).2 ⟨id, hs⟩, hs'⟩, hm _ _ hs⟩
  refine (Eq.congr_left hlookup).trans ?_
  cases hs : m.qod.getSessionById id with
  | none => simp
  | some s =>
    rw [Option.some.injEq]
    by_cases hs' : QodStore.expired now m.config.unavailableSessionTtl s = true
    · rw [if_pos ((hmem s hs).2 hs')]
      refine ⟨fun h => (by cases h), ?_⟩
      rintro ⟨rfl, h⟩
      exact absurd h ((hexpired s).1 hs')
    · rw [if_neg fun h => hs' ((hmem s hs).1 h), Option.some.injEq]
      refine ⟨?_, And.left⟩
      rintro rfl
      exact ⟨rfl, not_not.1 fun h => hs' ((hexpired s).2 h)⟩

/-! ## Ended sessions are collected -/

/-- A session that is unavailable has an end, by which the clean-up finds it. -/
def Dated (session : QodSession) : Prop :=
  session.qosStatus = .unavailable → session.expiresAt.isSome

/-- Every stored session that is unavailable has an end. -/
def Collectable (m : QodSessionManager) : Prop :=
  ∀ id session, m.qod.getSessionById id = some session → Dated session

/-- A new session is applied: it is available, or requested as before. -/
theorem dated_of_applied (hm : m.Filed) (h : m.Collectable) {request : CreateSessionRequest}
    {sessionId : String} {now : ℤ} {session : QodSession}
    (hprepared : m.prepareSession request sessionId now = .ok (some session))
    (hfresh : m.qod.getSessionById sessionId = none) {reply : Option PcfReply}
    (happlied : m.Applied reply) (later : ℤ) :
    (m.createSession request sessionId now reply later).2.Collectable := by
  obtain ⟨rfl, -, -, -, hstatus, -⟩ := prepared hprepared
  have hok := (fst_applySessionToPcf_iff now hfresh hstatus reply later).2 happlied
  rw [createSession_of_prepared hprepared, concludeSession, if_pos hok]
  have hnew : Dated session := fun h' => by
    rw [hstatus] at h'
    cases h'
  have hm₁ : ((m.storeSession session now).send (.createQodSession session)).Filed :=
    hm.of_addSession rfl
  have hstore : ∀ id s, (m.storeSession session now).qod.getSessionById id = some s → Dated s := by
    intro id s hs
    rw [getSessionById_storeSession] at hs
    split_ifs at hs
    · exact Option.some.inj hs ▸ hnew
    · exact h id s hs
  have hready : (m.storeSession session now).pcfReady = true := happlied.1
  rw [applySessionToPcf, if_pos hready] at hok ⊢
  rcases applyReply_cases (m := (m.storeSession session now).send (.createQodSession session))
    session.sessionId reply later with
    heq | ⟨p, heq⟩ | ⟨e, heq⟩ | ⟨p, -, heq⟩ <;> rw [heq] at hok ⊢
  · cases hok
  · intro id s hs
    rw [getSessionById_handlePcfSessionResponse hm₁] at hs
    split_ifs at hs with hid
    · obtain ⟨s', -, rfl⟩ := Option.map_eq_some_iff.1 hs
      exact fun _ => rfl
    · exact hstore id s hs
  · cases hok
  · intro id s hs
    rcases getSessionById_handlePcfSessionTerminated
      (m := (m.storeSession session now).send (.createQodSession session)) p later id with
      hkept | ⟨hgone, -⟩
    · exact hstore id s (hkept.symm.trans hs)
    · rw [hgone] at hs
      cases hs

/-- A new session is not applied: it is unavailable, without an end. -/
theorem not_dated_of_not_applied (hm : m.Filed) {request : CreateSessionRequest}
    {sessionId : String} {now : ℤ} {session : QodSession}
    (hprepared : m.prepareSession request sessionId now = .ok (some session))
    (hfresh : m.qod.getSessionById sessionId = none) {reply : Option PcfReply}
    (happlied : ¬m.Applied reply) (later : ℤ) :
    ¬(m.createSession request sessionId now reply later).2.Collectable := by
  obtain ⟨rfl, -, -, -, hstatus, -⟩ := prepared hprepared
  obtain ⟨-, -, -, hexpires⟩ := prepared_unset hprepared
  have hnot := mt (fst_applySessionToPcf_iff now hfresh hstatus reply later).1 happlied
  rw [createSession_of_prepared hprepared, concludeSession, if_neg hnot]
  have hm₁ : (m.storeSession session now).Filed := hm.of_addSession rfl
  have hnew : (m.storeSession session now).qod.getSessionById session.sessionId = some session := by
    rw [getSessionById_storeSession, if_pos rfl]
  -- However the reply has failed, the session is still stored without an end.
  have hstored : ∃ s, ((m.storeSession session now).applySessionToPcf session reply
      later).2.qod.getSessionById session.sessionId = some s ∧ s.expiresAt = none := by
    rcases getSessionById_applySessionToPcf_of_not hm₁ (Bool.eq_false_iff.2 hnot) with h | ⟨e, h⟩
    · exact ⟨session, (h _).trans hnew, hexpires⟩
    · refine ⟨failed session e, ?_, hexpires⟩
      rw [h, if_pos rfl, hnew]
      rfl
  obtain ⟨s, hs, hnone⟩ := hstored
  intro h
  have hdated := h session.sessionId (QodStore.withStatus s .unavailable (some .networkTerminated))
    (by dsimp only; rw [getSessionById_abandonSession, if_pos rfl, hs]; rfl) rfl
  rw [QodStore.withStatus] at hdated
  rw [hnone] at hdated
  cases hdated

end QodSessionManager

namespace QodRun

open QodSessionManager

variable {r r' : QodRun} {op : QodOp} {id : String}

/-- An operation leaves no session unavailable without an end: a request that is
    accepted is applied, and a failure of the PCF comes to a session with an end. -/
def Dates (r : QodRun) : QodOp → Prop
  | .createSession request sessionId now reply _ => ∀ session,
    r.manager.prepareSession request sessionId now = .ok (some session) → r.manager.Applied reply
  | .handlePcfSessionResponse q _ success _ _ => success = false → ∀ session,
    r.manager.qod.getSessionById q = some session → session.expiresAt.isSome
  | _ => True

/-- Where the ended sessions have an end, an operation keeps it so exactly if it leaves
    no session without one. -/
theorem collectable_next_iff (hr : qodSystem.Reachable r) (h : r.manager.Collectable)
    (hnext : r.next op = some r') : r'.manager.Collectable ↔ r.Dates op := by
  have hfiled := (filed_of_reachable hr).1
  have hm := manager_of_next hnext
  have hwrites : (∀ x session, r.manager.Writes op x session → Dated session) →
      r'.manager.Collectable := stored_next hfiled hm h
  cases op with
  | createSession request sessionId now reply later =>
    have hfresh := getSessionById_of_next hr hnext rfl
    rw [QodSessionManager.next, Option.some.injEq] at hm
    rw [← hm, Dates]
    rcases createSession_prepared_or_refused (m := r.manager) request sessionId now reply later with
      ⟨session, hprepared⟩ | ⟨hrefused, heq⟩
    · simp only [hprepared, Except.ok.injEq, Option.some.injEq, forall_eq']
      by_cases happlied : r.manager.Applied reply
      · exact iff_of_true (dated_of_applied hfiled h hprepared hfresh happlied later) happlied
      · exact iff_of_false (not_dated_of_not_applied hfiled hprepared hfresh happlied later)
          happlied
    · rw [heq]
      exact iff_of_true h fun session hprepared => absurd hprepared (hrefused session)
  | handlePcfSessionResponse q p success e now =>
    rw [QodSessionManager.next, Option.some.injEq] at hm
    have hlookup := getSessionById_handlePcfSessionResponse hfiled q p success e now
    rw [hm] at hlookup
    rw [Dates]
    constructor
    · rintro h' rfl session hs
      have hfailed := h' q (failed session e) (by rw [hlookup, if_pos rfl, hs]; rfl)
      exact hfailed rfl
    · intro hdated
      refine hwrites fun x session hwrite => ?_
      cases hwrite with
      | activated => exact fun _ => rfl
      | failed hs => exact fun _ => (hdated rfl _ hs :)
  | extendSessionDuration sessionId additional consumer =>
    refine iff_of_true (hwrites fun x session hwrite => ?_) trivial
    cases hwrite with
    | extended => exact fun _ => rfl
  | deleteSession sessionId consumer reply now =>
    refine iff_of_true (hwrites fun x session hwrite => ?_) trivial
    cases hwrite with
    | deleted => exact fun _ => rfl
  | handlePcfSessionTerminated p now =>
    exact iff_of_true (hwrites fun x session hwrite => by cases hwrite) trivial
  | handlePduSessionTerminatedEvent supi pduSessionId order =>
    exact iff_of_true (hwrites fun x session hwrite => by cases hwrite) trivial
  | cleanupExpiredSessions now =>
    exact iff_of_true (hwrites fun x session hwrite => by cases hwrite) trivial
  | stop => exact iff_of_true (hwrites fun x session hwrite => by cases hwrite) trivial
  | ueOperation op => exact iff_of_true (hwrites fun x session hwrite => by cases hwrite) trivial

/-- In every run whose operations leave no session without an end, every unavailable
    session has one, and every clean-up from the grace period after it on removes the
    session; a clean-up removes no others; and the first operation that leaves a session
    without an end breaks this. -/
theorem collectable_of_reachable (hr : (qodSystem.restrict Dates).Reachable r) :
    (∀ id session, r.manager.qod.getSessionById id = some session →
      session.qosStatus = .unavailable → ∃ e, session.expiresAt = some e ∧
        ∀ t, after e r.manager.config.unavailableSessionTtl ≤ t →
          (r.manager.cleanupExpiredSessions t).qod.getSessionById id = none) ∧
      (∀ t id session, (r.manager.cleanupExpiredSessions t).qod.getSessionById id = some session ↔
        r.manager.qod.getSessionById id = some session ∧
          ∀ e ∈ session.expiresAt, t < after e r.manager.config.unavailableSessionTtl) ∧
      ∀ op r', r.next op = some r' → (r'.manager.Collectable ↔ r.Dates op) := by
  have hcleanup := getSessionById_cleanupExpiredSessions_iff (filed_of_reachable hr.of_restrict).1
  have h : r.manager.Collectable := by
    refine System.Reachable.invariant (P := fun r : QodRun => r.manager.Collectable) ?_ ?_ hr
    · intro r h id session hs
      rw [getSessionById_init h] at hs
      cases hs
    · rintro r op r' hr h ⟨hop, hnext⟩
      exact (collectable_next_iff hr.of_restrict h hnext).2 hop
  refine ⟨?_, hcleanup, fun op r' hnext => collectable_next_iff hr.of_restrict h hnext⟩
  intro id session hs hstatus
  obtain ⟨e, he⟩ := Option.isSome_iff_exists.1 (h id session hs hstatus)
  refine ⟨e, he, fun t ht => ?_⟩
  rw [Option.eq_none_iff_forall_ne_some]
  intro session' hs'
  obtain ⟨hs', hlt⟩ := (hcleanup t id session').1 hs'
  rw [hs, Option.some.injEq] at hs'
  exact absurd ht (not_le.2 (hlt e (hs' ▸ he)))

/-- A session is started, and deleted by its consumer. -/
theorem collectable_after_delete : ∃ (r : QodRun) (session : QodSession),
    (qodSystem.restrict Dates).Reachable r ∧
      r.manager.qod.getSessionById "session-1" = some session ∧
      session.qosStatus = .unavailable ∧ session.expiresAt = some 2 ∧
      (r.manager.cleanupExpiredSessions (after 2 360)).qod.getSessionById "session-1" = none := by
  have h₀ : (qodSystem.restrict Dates).Reachable initial := .init ⟨_, _, _, _, rfl⟩
  have h₁ := h₀.step (a := QodOp.createSession (phoneSession "consumer") "session-1" 0
    (some (.created "pcf-1")) 1) ⟨fun _ _ => ⟨rfl, trivial⟩, rfl⟩
  have h₂ := h₁.step (a := QodOp.deleteSession "session-1" "consumer" (some (.removed "pcf-1")) 2)
    ⟨trivial, rfl⟩
  refine ⟨_, _, h₂, rfl, rfl, rfl, ?_⟩
  obtain ⟨e, he, h⟩ := (collectable_of_reachable h₂).1 "session-1" _ rfl rfl
  cases he
  exact h _ le_rfl

/-- The session the PCF does not answer for is unavailable without an end, and no
    clean-up removes it. -/
theorem not_collectable_unanswered : ∃ session : QodSession,
    qodSystem.Reachable unansweredRun ∧
      unansweredRun.manager.qod.getSessionById "session-1" = some session ∧
      session.qosStatus = .unavailable ∧ session.expiresAt = none ∧
      ∀ t, (unansweredRun.manager.cleanupExpiredSessions t).qod.getSessionById "session-1" =
        some session := by
  have h₁ : qodSystem.Reachable unansweredRun :=
    .step (.init ⟨_, _, _, _, rfl⟩) (a := unanswered) rfl
  refine ⟨_, h₁, rfl, rfl, rfl, fun t => ?_⟩
  rw [getSessionById_cleanupExpiredSessions_iff (filed_of_reachable h₁).1]
  exact ⟨rfl, fun e he => by cases he⟩

/-! ## Expired sessions -/


/-- The id has been drawn, and nothing is stored under it. -/
def Gone (id : String) (r : QodRun) : Prop :=
  id ∈ r.drawn ∧ r.manager.qod.getSessionById id = none

theorem Gone.next (h : r.Gone id) (hr : qodSystem.Reachable r) (hnext : r.next op = some r') :
    r'.Gone id := by
  have hfiled := (filed_of_reachable hr).1
  refine ⟨?_, ?_⟩
  · rw [drawn_of_next hnext]
    exact List.mem_append_right _ h.1
  · rcases lookup_next hfiled (manager_of_next hnext) id with hkept | ⟨hgone, -⟩ | ⟨s, -, hwrite⟩
    · exact hkept.trans h.2
    · exact hgone
    · -- A session is written under an id that is new, or stored already.
      have hfresh : ∀ x, op.drawnId = some x → x ≠ id := by
        rintro x hx rfl
        exact fresh_of_next hnext hx h.1
      have hstored : ∀ s, r.manager.qod.getSessionById id ≠ some s := by
        intro s hs
        rw [h.2] at hs
        cases hs
      cases hwrite with
      | requested => exact absurd rfl (hfresh _ rfl)
      | started => exact absurd rfl (hfresh _ rfl)
      | abandoned => exact absurd rfl (hfresh _ rfl)
      | rejected => exact absurd rfl (hfresh _ rfl)
      | extended hs => exact absurd hs (hstored _)
      | deleted hs => exact absurd hs (hstored _)
      | activated hs => exact absurd hs (hstored _)
      | failed hs => exact absurd hs (hstored _)

/-- The session is not reported as available, and not extended. -/
structure Unserved (m : QodSessionManager) (id : String) : Prop where
  getSession : ∀ consumer session, m.getSession id consumer = some session →
    session.qosStatus ≠ .available
  retrieve : ∀ device consumer, ∀ session ∈ m.retrieveSessionsByDevice device consumer,
    session.sessionId = id → session.qosStatus ≠ .available
  extend : ∀ additional consumer session,
    (m.extendSessionDuration id additional consumer).1 ≠ .ok (some session)

/-- A session is started. -/
def startedRun : List QodOp :=
  [.createSession (phoneSession "consumer") "session-1" 0 (some (.created "pcf-1")) 1]

/-- Ten minutes later it has expired, and is still served. -/
theorem served_after_startedRun : ∃ (r : QodRun) (session : QodSession),
    startedRun.foldlM next initial = some r ∧ qodSystem.Reachable r ∧
      (startedRun.flatMap QodOp.readings ++ [after 1 600]).Pairwise (· ≤ ·) ∧
      r.manager.qod.getSessionById "session-1" = some session ∧
      session.expiresAt = some (after 1 600) ∧ ¬Unserved r.manager "session-1" := by
  have h₁ := System.Reachable.step (T := qodSystem) (s := initial) (a := startedRun[0])
    (.init ⟨_, _, _, _, rfl⟩) rfl
  refine ⟨_, _, rfl, h₁, by decide, rfl, rfl, fun h => ?_⟩
  exact h.getSession "consumer" _ rfl rfl

/-- Once a clean-up has run at the end of a session's grace period or after it, the
    session is at no later point of the run reported or extended, whatever the clock
    shows. -/
theorem unserved_of_later (id : String) {r₁ : QodRun} {session : QodSession} {e t : ℤ}
    (hr : qodSystem.Reachable r) (hs : r.manager.qod.getSessionById id = some session)
    (he : session.expiresAt = some e) (ht : after e r.manager.config.unavailableSessionTtl ≤ t)
    (hclean : r.next (.cleanupExpiredSessions t) = some r₁) (hl : qodSystem.Later r₁ r') :
    (∀ consumer, r'.manager.getSession id consumer = none) ∧
      (∀ device consumer, ∀ s ∈ r'.manager.retrieveSessionsByDevice device consumer,
        s.sessionId ≠ id) ∧
      ∀ additional consumer,
        r'.manager.extendSessionDuration id additional consumer = (.ok none, r'.manager) := by
  obtain ⟨hfiled, hdrawn⟩ := filed_of_reachable hr
  have hgone : r₁.Gone id := by
    refine ⟨?_, ?_⟩
    · rw [drawn_of_next hclean]
      exact List.mem_append_right _ (hdrawn id session hs)
    · have hm := manager_of_next hclean
      rw [QodSessionManager.next, Option.some.injEq] at hm
      rw [← hm, Option.eq_none_iff_forall_ne_some]
      intro s h
      obtain ⟨hs', hlt⟩ := (getSessionById_cleanupExpiredSessions_iff hfiled t id s).1 h
      rw [hs, Option.some.injEq] at hs'
      exact absurd ht (not_le.2 (hlt e (hs' ▸ he)))
  obtain ⟨hr', -, hnone⟩ := hl.stable (P := Gone id)
    (fun _ _ _ hr hgone hnext => hgone.next hr hnext) (hr.step hclean) hgone
  refine ⟨fun consumer => ?_, fun device consumer s hmem hid => ?_, fun additional consumer => ?_⟩
  · rw [QodSessionManager.getSession, hnone]
    rfl
  · obtain ⟨id', hid'⟩ := (QodStore.mem_getAllSessions _).1 (List.mem_filter.1 hmem).1
    rw [← (filed_of_reachable hr').1 id' s hid', hid, hnone] at hid'
    cases hid'
  · rw [extendSessionDuration, hnone]

/-- The session of `startedRun`, cleaned up six minutes after its end. -/
theorem unserved_after_cleanup : ∃ r' : QodRun, qodSystem.Reachable r' ∧
    "session-1" ∈ r'.drawn ∧ ∀ consumer, r'.manager.getSession "session-1" consumer = none := by
  have h₁ := System.Reachable.step (T := qodSystem) (s := initial) (a := startedRun[0])
    (.init ⟨_, _, _, _, rfl⟩) rfl
  have h₂ := h₁.step (a := QodOp.cleanupExpiredSessions (after 1 960)) rfl
  exact ⟨_, h₂, by decide, (unserved_of_later "session-1" (e := after 1 600) h₁ rfl rfl
    (le_of_eq rfl : _ ≤ after 1 960) rfl (.refl _)).1⟩

end QodRun

end PhineAf

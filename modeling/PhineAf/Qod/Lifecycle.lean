import PhineAf.Lib.System
import PhineAf.Qod.Operation

/-!
# The life of a QoD session

The runs of the session manager: client requests, PCF events, clean-ups and
operations of others on the UE store, in any order (`qodSystem`).

* `QodRun.timed_of_reachable`: an available session has its times and its PCF id,
  and its duration stays within the bounds of its profile;
* `QodRun.unavailable_of_later`: a session that has become unavailable stays so, in
  runs without a late success of the PCF.
-/

namespace PhineAf

/-! ## Runs -/

/-- A session manager, and the ids `generate_session_id` has drawn so far. -/
structure QodRun where
  manager : QodSessionManager
  drawn : List String

/-- The session id an operation draws. -/
def QodOp.drawnId : QodOp → Option String
  | .createSession _ sessionId _ _ _ => some sessionId
  | _ => none

namespace QodRun

/-- The run goes on; an id is never drawn twice. -/
def next (r : QodRun) (op : QodOp) : Option QodRun :=
  if op.drawnId.any (· ∈ r.drawn) then none
  else (r.manager.next op).map fun m => ⟨m, op.drawnId.toList ++ r.drawn⟩

variable {r r' : QodRun} {op : QodOp}

theorem manager_of_next (h : r.next op = some r') : r.manager.next op = some r'.manager := by
  rw [next] at h
  split_ifs at h
  obtain ⟨m, hm, rfl⟩ := Option.map_eq_some_iff.1 h
  exact hm

theorem drawn_of_next (h : r.next op = some r') : r'.drawn = op.drawnId.toList ++ r.drawn := by
  rw [next] at h
  split_ifs at h
  obtain ⟨m, -, rfl⟩ := Option.map_eq_some_iff.1 h
  rfl

/-- The id of a new session has not been drawn before. -/
theorem fresh_of_next (h : r.next op = some r') {id : String} (hid : op.drawnId = some id) :
    id ∉ r.drawn := by
  intro hmem
  rw [next] at h
  rw [if_pos (by simpa [hid] using hmem)] at h
  cases h

end QodRun

/-- The runs of a session manager, from any configuration. -/
def qodSystem : System QodRun QodOp where
  init r := ∃ config pcfService pcfDestination notificationHandler,
    r = ⟨.create config pcfService pcfDestination notificationHandler, []⟩
  step r op r' := r.next op = some r'

namespace QodRun

variable {r : QodRun}

/-- Nothing is stored at the start of a run. -/
theorem getSessionById_init (h : qodSystem.init r) (id : String) :
    r.manager.qod.getSessionById id = none := by
  obtain ⟨config, pcfService, pcfDestination, notificationHandler, rfl⟩ := h
  rfl

/-- Every session is stored under its id, which has been drawn. -/
theorem filed_of_reachable (hr : qodSystem.Reachable r) :
    r.manager.Filed ∧
      ∀ id session, r.manager.qod.getSessionById id = some session → id ∈ r.drawn := by
  refine System.Reachable.invariant (P := fun r : QodRun => r.manager.Filed ∧
    ∀ id session, r.manager.qod.getSessionById id = some session → id ∈ r.drawn) ?_ ?_ hr
  · intro r h
    refine ⟨fun id session hs => ?_, fun id session hs => ?_⟩ <;>
    · rw [getSessionById_init h] at hs
      cases hs
  · rintro r op r' - ⟨hfiled, hdrawn⟩ h
    have hm := manager_of_next h
    refine ⟨hfiled.next hm, ?_⟩
    rw [drawn_of_next h]
    refine QodSessionManager.stored_next hfiled hm
      (fun id session hs => List.mem_append_right _ (hdrawn id session hs)) ?_
    intro id session hwrite
    cases hwrite with
    | requested h => exact List.mem_append_left _ (by simp [QodOp.drawnId])
    | started p h => exact List.mem_append_left _ (by simp [QodOp.drawnId])
    | abandoned h => exact List.mem_append_left _ (by simp [QodOp.drawnId])
    | rejected e h => exact List.mem_append_left _ (by simp [QodOp.drawnId])
    | extended hs => exact List.mem_append_right _ (hdrawn _ _ hs)
    | deleted hs => exact List.mem_append_right _ (hdrawn _ _ hs)
    | activated hs => exact List.mem_append_right _ (hdrawn _ _ hs)
    | failed hs => exact List.mem_append_right _ (hdrawn _ _ hs)

/-- A new id has not been stored. -/
theorem getSessionById_of_next {r' : QodRun} {op : QodOp} {id : String}
    (hr : qodSystem.Reachable r) (hnext : r.next op = some r') (hid : op.drawnId = some id) :
    r.manager.qod.getSessionById id = none := by
  rw [Option.eq_none_iff_forall_ne_some]
  intro session hs
  exact fresh_of_next hnext hid ((filed_of_reachable hr).2 _ _ hs)

end QodRun

/-! ## Times and durations -/

/-- Clients extend a session by one second at least, as `handle_extend_session`
    checks. -/
def QodRun.ExtendsForward (_ : QodRun) : QodOp → Prop
  | .extendSessionDuration _ additional _ => 1 ≤ additional
  | _ => True

namespace QodSessionManager

variable {m : QodSessionManager}

/-- The times and the duration of a session: it runs from its start for its
    duration, while it is available, and the duration is within the bounds. -/
structure Timed (m : QodSessionManager) (session : QodSession) : Prop where
  available : session.qosStatus = .available → session.pcfSessionId.isSome ∧
    ∃ t, session.startedAt = some t ∧ session.expiresAt = some (after t session.duration)
  min_le : m.config.minSessionDuration ≤ session.duration
  le_max : session.duration ≤ m.getMaxDurationForProfile session.qosProfile

/-- A capped extension does not shorten a session. -/
theorem duration_le_extendedDuration {session : QodSession} {additional : ℤ}
    (ha : 1 ≤ additional)
    (hmax : session.duration ≤ m.getMaxDurationForProfile session.qosProfile) :
    session.duration ≤ m.extendedDuration session additional :=
  le_min (by omega) hmax

theorem Timed.of_unavailable {session session' : QodSession} (h : m.Timed session)
    (hstatus : session'.qosStatus = .unavailable) (hduration : session'.duration = session.duration)
    (hprofile : session'.qosProfile = session.qosProfile) : m.Timed session' where
  available h' := by
    rw [hstatus] at h'
    cases h'
  min_le := hduration ▸ h.min_le
  le_max := hduration ▸ hprofile ▸ h.le_max

theorem Timed.activated {session : QodSession} (h : m.Timed session) (p : String) (now : ℤ) :
    m.Timed (activated session p now) where
  available _ := ⟨rfl, now, rfl, rfl⟩
  min_le := h.min_le
  le_max := h.le_max

theorem Timed.extended {session : QodSession} (h : m.Timed session) {additional t : ℤ}
    (ha : 1 ≤ additional) (ht : session.startedAt = some t) :
    m.Timed (m.extended session additional t) where
  available hstatus := ⟨(h.available hstatus).1, t, ht, rfl⟩
  min_le := h.min_le.trans (duration_le_extendedDuration ha h.le_max)
  le_max := min_le_right _ _

/-- A session is stored with a duration within the bounds. -/
theorem Timed.of_prepared {request : CreateSessionRequest} {sessionId : String} {now : ℤ}
    {session : QodSession} (h : m.prepareSession request sessionId now = .ok (some session)) :
    m.Timed session := by
  obtain ⟨-, -, -, -, hstatus, hmin, hmax, -⟩ := prepared h
  refine ⟨fun h' => ?_, hmin, hmax⟩
  rw [hstatus] at h'
  cases h'

/-- The sessions an operation writes are timed if those stored are. -/
theorem Timed.of_writes (hm : ∀ id session, m.qod.getSessionById id = some session → m.Timed session)
    {r : QodRun} {op : QodOp} (hop : r.ExtendsForward op) {id : String} {session : QodSession}
    (h : m.Writes op id session) : m.Timed session := by
  cases h with
  | requested h => exact .of_prepared h
  | started p h => exact (Timed.of_prepared h).activated ..
  | abandoned h => exact (Timed.of_prepared h).of_unavailable rfl rfl rfl
  | rejected e h => exact (Timed.of_prepared h).of_unavailable rfl rfl rfl
  | extended hs _ ht => exact (hm _ _ hs).extended hop ht
  | deleted hs => exact (hm _ _ hs).of_unavailable rfl rfl rfl
  | activated hs => exact (hm _ _ hs).activated ..
  | failed hs => exact (hm _ _ hs).of_unavailable rfl rfl rfl

/-- The bounds are those of the configuration. -/
theorem Timed.congr {m' : QodSessionManager} (hconfig : m'.config = m.config)
    {session : QodSession} (h : m.Timed session) : m'.Timed session where
  available := h.available
  min_le := hconfig ▸ h.min_le
  le_max := by
    rw [getMaxDurationForProfile]
    rw [hconfig]
    exact h.le_max

end QodSessionManager

namespace QodRun

open QodSessionManager

variable {r : QodRun}

theorem stored_timed_of_reachable (hr : (qodSystem.restrict ExtendsForward).Reachable r) :
    ∀ id session, r.manager.qod.getSessionById id = some session → r.manager.Timed session := by
  refine System.Reachable.invariant (P := fun r : QodRun => ∀ id session,
    r.manager.qod.getSessionById id = some session → r.manager.Timed session) ?_ ?_ hr
  · intro r h id session hs
    rw [getSessionById_init h] at hs
    cases hs
  · rintro r op r' hr htimed ⟨hop, h⟩
    have hm := manager_of_next h
    have hfiled := (filed_of_reachable hr.of_restrict).1
    intro id session hs
    refine Timed.congr (config_next hm) ?_
    exact stored_next hfiled hm (P := fun _ session => r.manager.Timed session) htimed
      (fun _ _ => Timed.of_writes htimed hop) id session hs

/-- In every run whose extensions are by one second at least, an available session
    has its times and its PCF id and expires its duration after its start; a
    duration is within the bounds of its profile; and an extension that succeeds
    shortens neither the duration nor the life of an available session. -/
theorem timed_of_reachable (hr : (qodSystem.restrict ExtendsForward).Reachable r) :
    (∀ id session, r.manager.qod.getSessionById id = some session → r.manager.Timed session) ∧
      ∀ id additional consumer session' m', 1 ≤ additional →
        r.manager.extendSessionDuration id additional consumer = (.ok (some session'), m') →
        m'.qod.getSessionById id = some session' ∧
          ∃ session, r.manager.qod.getSessionById id = some session ∧
            session.duration ≤ session'.duration ∧
            (session.qosStatus = .available → ∃ t ∈ session.expiresAt, ∃ t' ∈ session'.expiresAt,
              t ≤ t') := by
  have htimed := stored_timed_of_reachable hr
  refine ⟨htimed, ?_⟩
  intro id additional consumer session' m' ha h
  obtain ⟨hnone, -⟩ | ⟨session, t, hs, -, -, ht, hsession', rfl⟩ := extendSessionDuration_cases h
  · cases hnone
  · cases hsession'
    have hfiled := (filed_of_reachable hr.of_restrict).1
    have hle := duration_le_extendedDuration ha (htimed id session hs).le_max
    refine ⟨(getSessionById_extended hfiled hs ..).trans (if_pos rfl), session, hs, hle, ?_⟩
    intro hstatus
    -- Both ends are counted from the start, which the extension keeps.
    obtain ⟨-, t₀, ht₀, hexpires⟩ := (htimed id session hs).available hstatus
    obtain rfl : t₀ = t := Option.some.inj (ht₀.symm.trans ht)
    exact ⟨_, hexpires, _, rfl, after_le_after hle⟩

/-- A manager with the default configuration and a PCF handler. -/
def initial : QodRun := ⟨create {} true "pcf" true, []⟩

/-- A request for ten minutes. -/
def phoneSession (apiConsumerId : String) : CreateSessionRequest where
  apiConsumerId := apiConsumerId
  device := some { phoneNumber := some "+49170123456" }
  applicationServer := { ipv4Address := some "203.0.113.5" }
  qosProfile := "QOS_E"
  duration := 600

/-- A session of ten minutes is started and extended by one. -/
theorem timed_after_extension : ∃ (r : QodRun) (session : QodSession),
    (qodSystem.restrict ExtendsForward).Reachable r ∧
      r.manager.qod.getSessionById "session-1" = some session ∧ session.qosStatus = .available ∧
      session.duration = 660 ∧ r.manager.Timed session := by
  have h₀ : (qodSystem.restrict ExtendsForward).Reachable initial :=
    .init ⟨_, _, _, _, rfl⟩
  have h₁ := h₀.step (a := QodOp.createSession (phoneSession "consumer") "session-1" 0
    (some (.created "pcf-1")) 1) ⟨trivial, rfl⟩
  have h₂ := h₁.step (a := QodOp.extendSessionDuration "session-1" 60 "consumer")
    ⟨(by decide : (1 : ℤ) ≤ 60), rfl⟩
  exact ⟨_, _, h₂, rfl, rfl, rfl, (timed_of_reachable h₂).1 "session-1" _ rfl⟩

/-! ## Unavailable sessions -/

variable {r' : QodRun} {op : QodOp} {id : String}

/-- The id has been drawn, and what is stored under it is unavailable. -/
def Ended (id : String) (r : QodRun) : Prop :=
  id ∈ r.drawn ∧
    ∀ session, r.manager.qod.getSessionById id = some session → session.qosStatus = .unavailable

/-- A success of the PCF does not come for a session that is unavailable. -/
def Timely (r : QodRun) : QodOp → Prop
  | .handlePcfSessionResponse id _ true _ _ => ∀ session,
    r.manager.qod.getSessionById id = some session → session.qosStatus ≠ .unavailable
  | _ => True

/-- A session that has ended is written as unavailable only. -/
theorem Ended.of_writes (h : r.Ended id) (hop : r.Timely op)
    (hfresh : ∀ x, op.drawnId = some x → x ∉ r.drawn) {session : QodSession}
    (hwrite : r.manager.Writes op id session) : session.qosStatus = .unavailable := by
  cases hwrite with
  | requested => exact absurd h.1 (hfresh _ rfl)
  | started => exact absurd h.1 (hfresh _ rfl)
  | abandoned => rfl
  | rejected => rfl
  | extended hs hstatus => exact absurd (h.2 _ hs) hstatus
  | deleted => rfl
  | activated hs => exact absurd (h.2 _ hs) (hop _ hs)
  | failed => rfl

theorem Ended.next (h : r.Ended id) (hr : qodSystem.Reachable r) (hop : r.Timely op)
    (hnext : r.next op = some r') : r'.Ended id := by
  have hfiled := (filed_of_reachable hr).1
  refine ⟨?_, fun session hs => ?_⟩
  · rw [drawn_of_next hnext]
    exact List.mem_append_right _ h.1
  · rcases QodSessionManager.lookup_next hfiled (manager_of_next hnext) id with
      hkept | ⟨hgone, -⟩ | ⟨s, hs', hwrite⟩
    · exact h.2 session (hkept.symm.trans hs)
    · rw [hgone] at hs
      cases hs
    · rw [hs', Option.some.injEq] at hs
      exact hs ▸ h.of_writes hop (fun _ => fresh_of_next hnext) hwrite

/-- In every run without a late success of the PCF, a session that is stored as
    unavailable is never stored otherwise again. -/
theorem unavailable_of_later (hr : (qodSystem.restrict Timely).Reachable r)
    (hl : (qodSystem.restrict Timely).Later r r') {session : QodSession}
    (hs : r.manager.qod.getSessionById id = some session)
    (hstatus : session.qosStatus = .unavailable) :
    ∀ session', r'.manager.qod.getSessionById id = some session' →
      session'.qosStatus = .unavailable := by
  -- The id is drawn, so that no later request can take it over.
  have hended : r.Ended id := by
    refine ⟨(filed_of_reachable hr.of_restrict).2 id session hs, fun s hs' => ?_⟩
    rw [hs, Option.some.injEq] at hs'
    exact hs' ▸ hstatus
  obtain ⟨-, hended'⟩ := hl.stable (P := Ended id)
    (fun r op r' hr hended hstep => hended.next hr.of_restrict hstep.1 hstep.2) hr hended
  exact hended'.2

/-- The request for a session the PCF does not answer in time. -/
def unanswered : QodOp :=
  .createSession (phoneSession "consumer") "session-1" 0 none 1

/-- The run after it. -/
def unansweredRun : QodRun where
  manager := (initial.manager.createSession
    (phoneSession "consumer") "session-1" 0 none 1).2
  drawn := ["session-1"]

/-- The session is unavailable, and still so once it is deleted. -/
theorem unavailable_after_delete : ∃ r' : QodRun,
    (qodSystem.restrict Timely).Reachable unansweredRun ∧
      (qodSystem.restrict Timely).Later unansweredRun r' ∧
      (r'.manager.qod.getSessionById "session-1").isSome ∧
      ∀ session, r'.manager.qod.getSessionById "session-1" = some session →
        session.qosStatus = .unavailable := by
  have h₁ : (qodSystem.restrict Timely).Reachable unansweredRun :=
    .step (.init ⟨_, _, _, _, rfl⟩) (a := unanswered) ⟨trivial, rfl⟩
  have hl := (System.Later.refl (T := qodSystem.restrict Timely) unansweredRun).step
    (a := QodOp.deleteSession "session-1" "consumer" none 2) ⟨trivial, rfl⟩
  exact ⟨_, h₁, hl, rfl, unavailable_of_later h₁ hl rfl rfl⟩

/-- A late success makes it available again. -/
theorem available_after_late_success : ∃ (r' : QodRun) (session session' : QodSession),
    qodSystem.Reachable unansweredRun ∧ qodSystem.Later unansweredRun r' ∧
      unansweredRun.manager.qod.getSessionById "session-1" = some session ∧
      session.qosStatus = .unavailable ∧
      r'.manager.qod.getSessionById "session-1" = some session' ∧
      session'.qosStatus = .available := by
  have h₁ : qodSystem.Reachable unansweredRun :=
    .step (.init ⟨_, _, _, _, rfl⟩) (a := unanswered) rfl
  have hl := (System.Later.refl (T := qodSystem) unansweredRun).step
    (a := QodOp.handlePcfSessionResponse "session-1" "pcf-1" true "" 2) rfl
  exact ⟨_, _, _, h₁, hl, rfl, rfl, rfl, rfl⟩

end QodRun

end PhineAf

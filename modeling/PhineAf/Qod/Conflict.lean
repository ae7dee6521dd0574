import PhineAf.Qod.Lifecycle

/-!
# Conflicting sessions

Two live sessions of one consumer, for matching devices and the same application
server, conflict. `check_session_conflict` is to refuse the second of them, but it
looks among the sessions of the consumer `""` only, and cannot compare servers
without an address; and a late success of the PCF makes a session live without
any check. `QodRun.Vetted` says that an operation does not get past the check in
one of these ways, and `QodRun.noConflict_of_reachable` that runs of such
operations store no conflicting sessions.
-/

namespace PhineAf

/-- The session an operation is about. -/
def QodOp.subject : QodOp → Option String
  | .createSession _ id _ _ _ => some id
  | .extendSessionDuration id _ _ => some id
  | .deleteSession id _ _ _ => some id
  | .handlePcfSessionResponse id _ _ _ _ => some id
  | _ => none

namespace QodSessionManager

/-- The servers are the same, as records or in `check_session_conflict`. -/
def SameServer (a b : ApplicationServer) : Prop := a = b ∨ sameServer a b

/-- Both devices are known and match in `retrieve_sessions_by_device`. -/
def DevicesMatch : Option QodDevice → Option QodDevice → Prop
  | some d, some d' => deviceMatches d d'
  | _, _ => False

/-- A session is for the same consumer, device and server. -/
structure Rivals (apiConsumerId : String) (device : Option QodDevice) (server : ApplicationServer)
    (session : QodSession) : Prop where
  consumer : session.apiConsumerId = apiConsumerId
  device : DevicesMatch device session.device
  server : SameServer server session.applicationServer

/-- A session that is requested or available. -/
def Live (session : QodSession) : Prop := session.qosStatus ≠ .unavailable

/-- Two live sessions for the same consumer, device and server. -/
def Conflicting (a b : QodSession) : Prop :=
  Live a ∧ Live b ∧ Rivals a.apiConsumerId a.device a.applicationServer b

/-- No two stored sessions conflict. -/
def NoConflict (m : QodSessionManager) : Prop :=
  ∀ id id' a b, id ≠ id' → m.qod.getSessionById id = some a → m.qod.getSessionById id' = some b →
    ¬Conflicting a b

/-! ## Both orders -/

theorem agree_comm {α β : Type} [BEq β] [LawfulBEq β] (f : α → β) (a b : Option α) :
    agree f a b = agree f b a := by
  cases a with
  | none => cases b <;> rfl
  | some a =>
    cases b with
    | none => rfl
    | some b => exact BEq.comm

theorem deviceMatches_comm (d d' : QodDevice) : deviceMatches d d' = deviceMatches d' d := by
  unfold deviceMatches
  rw [agree_comm _ d.phoneNumber, agree_comm _ d.ipv4Address d'.ipv4Address,
    agree_comm Ipv4Addr.value, agree_comm _ d.ipv6Address]

theorem sameServer_comm (a b : ApplicationServer) : sameServer a b = sameServer b a := by
  unfold sameServer
  rw [agree_comm id a.ipv6Address]
  cases a.ipv4Address with
  | none => cases b.ipv4Address <;> rfl
  | some x =>
    cases b.ipv4Address with
    | none => rfl
    | some y => exact BEq.comm

theorem DevicesMatch.symm {d d' : Option QodDevice} (h : DevicesMatch d d') :
    DevicesMatch d' d := by
  cases d with
  | none => exact h.elim
  | some d =>
    cases d' with
    | none => exact h.elim
    | some d' => exact (deviceMatches_comm d' d).trans h

theorem SameServer.symm {a b : ApplicationServer} (h : SameServer a b) : SameServer b a :=
  h.imp Eq.symm (sameServer_comm b a).trans

theorem Conflicting.symm {a b : QodSession} (h : Conflicting a b) : Conflicting b a :=
  ⟨h.2.1, h.1, h.2.2.consumer.symm, h.2.2.device.symm, h.2.2.server.symm⟩

/-! ## The check -/

variable {m : QodSessionManager}

theorem SameServer.sameServer {a b : ApplicationServer} (h : SameServer a b) (ha : a.HasAddress) :
    sameServer a b := by
  rcases h with rfl | h
  · rw [QodSessionManager.sameServer]
    rcases ha with ha | ha
    · obtain ⟨x, hx⟩ := Option.isSome_iff_exists.1 ha
      simp [hx]
    · obtain ⟨x, hx⟩ := Option.isSome_iff_exists.1 ha
      cases a.ipv4Address <;> simp [agree, hx]
  · exact h

/-- `check_session_conflict` finds the live sessions of the consumer `""`. -/
theorem not_rivals_of_checkSessionConflict {d : QodDevice} {server : ApplicationServer}
    (h : m.checkSessionConflict d server = none) (haddress : server.HasAddress) {id : String}
    {session : QodSession} (hs : m.qod.getSessionById id = some session) (hlive : Live session) :
    ¬Rivals "" (some d) server session := by
  rintro ⟨hconsumer, hdevice, hserver⟩
  rw [checkSessionConflict] at h
  rw [Option.map_eq_none_iff, List.find?_eq_none] at h
  refine h session ?_ ?_
  · -- The session is among those found for the device.
    refine List.mem_filter.2 ⟨(QodStore.mem_getAllSessions _).2 ⟨id, hs⟩, ?_⟩
    cases hd : session.device with
    | none =>
      rw [hd] at hdevice
      exact hdevice.elim
    | some d' =>
      rw [hd] at hdevice
      simpa [hconsumer, Live] using ⟨hlive, hdevice⟩
  · simpa [Live] using ⟨hlive, hserver.sameServer haddress⟩

/-- The session under an id is new, or stood for the same consumer, device and
    server and was live, or comes with a late success of the PCF. -/
theorem Writes.live_cases {op : QodOp} {id : String} {a : QodSession} (h : m.Writes op id a)
    (hlive : Live a) :
    (∃ request now reply later session, op = .createSession request id now reply later ∧
      m.prepareSession request id now = .ok (some session) ∧
      a.apiConsumerId = session.apiConsumerId ∧ a.device = session.device ∧
      a.applicationServer = session.applicationServer) ∨
    ∃ session, m.qod.getSessionById id = some session ∧
      a.apiConsumerId = session.apiConsumerId ∧ a.device = session.device ∧
      a.applicationServer = session.applicationServer ∧
      (Live session ∨ ∃ p e now, op = .handlePcfSessionResponse id p true e now) := by
  cases h with
  | requested h => exact .inl ⟨_, _, _, _, _, rfl, h, rfl, rfl, rfl⟩
  | started p h => exact .inl ⟨_, _, _, _, _, rfl, h, rfl, rfl, rfl⟩
  | abandoned => exact absurd rfl hlive
  | rejected => exact absurd rfl hlive
  | extended hs hstatus => exact .inr ⟨_, hs, rfl, rfl, rfl, .inl hstatus⟩
  | deleted => exact absurd rfl hlive
  | activated hs => exact .inr ⟨_, hs, rfl, rfl, rfl, .inr ⟨_, _, _, rfl⟩⟩
  | failed => exact absurd rfl hlive

/-- An operation writes the session it is about. -/
theorem Writes.subject_eq {op : QodOp} {id : String} {a : QodSession} (h : m.Writes op id a) :
    op.subject = some id := by
  cases h <;> rfl

end QodSessionManager

namespace QodRun

open QodSessionManager

variable {r r' : QodRun} {op : QodOp}

/-- An operation does not get past the check: a new session of another consumer than
    `""`, or for a server without an address, finds no live session that it conflicts
    with, and neither does a session that a late success of the PCF makes live. -/
def Vetted (r : QodRun) : QodOp → Prop
  | .createSession request _ _ _ _ =>
    (request.apiConsumerId = "" ∧ request.applicationServer.HasAddress) ∨
      ∀ id session, r.manager.qod.getSessionById id = some session → Live session →
        ¬Rivals request.apiConsumerId request.device request.applicationServer session
  | .handlePcfSessionResponse id _ true _ _ =>
    ∀ a, r.manager.qod.getSessionById id = some a → ¬Live a → ∀ id' b, id ≠ id' →
      r.manager.qod.getSessionById id' = some b → Live b →
      ¬Rivals a.apiConsumerId a.device a.applicationServer b
  | _ => True

/-- A vetted request that is accepted conflicts with no stored session. -/
theorem Vetted.not_rivals {request : CreateSessionRequest} {sessionId : String} {now : ℤ}
    {reply : Option PcfReply} {later : ℤ}
    (h : r.Vetted (.createSession request sessionId now reply later)) {a : QodSession}
    (ha : r.manager.prepareSession request sessionId now = .ok (some a)) {id : String}
    {b : QodSession} (hb : r.manager.qod.getSessionById id = some b) (hlive : Live b) :
    ¬Rivals request.apiConsumerId request.device request.applicationServer b := by
  obtain ⟨-, -, -, -, -, -, -, hcheck⟩ := prepared ha
  rcases h with ⟨hconsumer, haddress⟩ | h
  · rw [hconsumer]
    intro hrivals
    cases hd : request.device with
    | none =>
      rw [hd] at hrivals
      exact hrivals.device
    | some d =>
      rw [hd] at hrivals
      exact not_rivals_of_checkSessionConflict (hcheck d hd) haddress hb hlive hrivals
  · exact h id b hb hlive

/-- A session that a vetted operation writes does not conflict with those kept. -/
theorem Vetted.not_conflicting (hop : r.Vetted op) (h : r.manager.NoConflict) {id id' : String}
    {a b : QodSession} (hid : id ≠ id') (hwrite : r.manager.Writes op id a)
    (hb : r.manager.qod.getSessionById id' = some b) : ¬Conflicting a b := by
  rintro ⟨hlive, hlive', hrivals⟩
  rcases hwrite.live_cases hlive with
    ⟨request, now, reply, later, session, rfl, hprepared, hconsumer, hdevice, hserver⟩ |
    ⟨session, hs, hconsumer, hdevice, hserver, hold⟩
  · obtain ⟨-, hconsumer', hdevice', hserver', -⟩ := prepared hprepared
    rw [hconsumer, hdevice, hserver, hconsumer', hdevice', hserver'] at hrivals
    exact hop.not_rivals hprepared hb hlive' hrivals
  · rw [hconsumer, hdevice, hserver] at hrivals
    -- The session written is the one read: live before, or made live by a late success.
    by_cases hsession : Live session
    · exact h id id' session b hid hs hb ⟨hsession, hlive', hrivals⟩
    · obtain ⟨p, e, now, rfl⟩ := hold.resolve_left hsession
      exact hop session hs hsession id' b hid hb hlive' hrivals

theorem noConflict_next (hfiled : r.manager.Filed) (h : r.manager.NoConflict) (hop : r.Vetted op)
    (hnext : r.next op = some r') : r'.manager.NoConflict := by
  have hm := manager_of_next hnext
  -- What is stored afterwards was stored before, or is written.
  have hstored : ∀ id a, r'.manager.qod.getSessionById id = some a →
      r.manager.qod.getSessionById id = some a ∨ r.manager.Writes op id a := by
    intro id a ha
    rcases lookup_next hfiled hm id with hkept | ⟨hgone, -⟩ | ⟨s, hs, hwrite⟩
    · exact .inl (hkept.symm.trans ha)
    · rw [hgone] at ha
      cases ha
    · rw [hs, Option.some.injEq] at ha
      exact .inr (ha ▸ hwrite)
  intro id id' a b hid ha hb
  rcases hstored id a ha with ha | ha <;> rcases hstored id' b hb with hb | hb
  · exact h id id' a b hid ha hb
  · exact fun hc => hop.not_conflicting h hid.symm hb ha hc.symm
  · exact hop.not_conflicting h hid ha hb
  · -- An operation writes one session only.
    exact absurd (Option.some.inj (ha.subject_eq.symm.trans hb.subject_eq)) hid

/-- A vetted request that would conflict with a stored session is refused. -/
theorem Vetted.refused {request : CreateSessionRequest} {sessionId : String} {now : ℤ}
    {reply : Option PcfReply} {later : ℤ}
    (h : r.Vetted (.createSession request sessionId now reply later)) {id : String}
    {b : QodSession} (hb : r.manager.qod.getSessionById id = some b) (hlive : Live b)
    (hrivals : Rivals request.apiConsumerId request.device request.applicationServer b) :
    (r.manager.createSession request sessionId now reply later).2 = r.manager ∧
      ∀ a, (r.manager.createSession request sessionId now reply later).1 ≠ .ok (some a) := by
  cases hprepare : r.manager.prepareSession request sessionId now with
  | error e =>
    have hresult : r.manager.createSession request sessionId now reply later =
        (.error e, r.manager) := by
      rw [createSession, hprepare]
    rw [hresult]
    refine ⟨rfl, ?_⟩
    intro a h
    cases h
  | ok result =>
    cases result with
    | none =>
      have hresult : r.manager.createSession request sessionId now reply later =
          (.ok none, r.manager) := by
        rw [createSession, hprepare]
      rw [hresult]
      refine ⟨rfl, ?_⟩
      intro a h
      cases h
    | some a => exact absurd hrivals (h.not_rivals hprepare hb hlive)

/-- In every run of vetted operations, no two stored sessions conflict, and a vetted
    request that would conflict with a stored session is refused. -/
theorem noConflict_of_reachable (hr : (qodSystem.restrict Vetted).Reachable r) :
    r.manager.NoConflict ∧
      ∀ request sessionId now reply later id b,
        r.Vetted (.createSession request sessionId now reply later) →
        r.manager.qod.getSessionById id = some b → Live b →
        Rivals request.apiConsumerId request.device request.applicationServer b →
        (r.manager.createSession request sessionId now reply later).2 = r.manager ∧
          ∀ a, (r.manager.createSession request sessionId now reply later).1 ≠ .ok (some a) := by
  refine ⟨?_, fun _ _ _ _ _ _ _ hop hb hlive hrivals => hop.refused hb hlive hrivals⟩
  refine System.Reachable.invariant (P := fun r : QodRun => r.manager.NoConflict) ?_ ?_ hr
  · intro r h id id' a b _ ha
    rw [getSessionById_init h] at ha
    cases ha
  · rintro r op r' hr h ⟨hop, hnext⟩
    exact noConflict_next (filed_of_reachable hr.of_restrict).1 h hop hnext

/-- A second request of the consumer `""` for a device and a server is refused. -/
theorem refused_after_first : ∃ r : QodRun, (qodSystem.restrict Vetted).Reachable r ∧
    (r.manager.qod.getSessionById "session-1").isSome ∧ r.manager.NoConflict ∧
    (r.manager.createSession (phoneSession "") "session-2" 2 none 3).2 = r.manager := by
  have h₀ : (qodSystem.restrict Vetted).Reachable initial := .init ⟨_, _, _, _, rfl⟩
  have h₁ := h₀.step (a := QodOp.createSession (phoneSession "") "session-1" 0
    (some (.created "pcf-1")) 1) ⟨.inl ⟨rfl, .inl rfl⟩, rfl⟩
  refine ⟨_, h₁, rfl, (noConflict_of_reachable h₁).1, ?_⟩
  exact ((noConflict_of_reachable h₁).2 (phoneSession "") "session-2" 2 none 3 "session-1" _
    (.inl ⟨rfl, .inl rfl⟩) rfl nofun ⟨rfl, rfl, .inl rfl⟩).1

/-- Two requests of another consumer for one device and one server. -/
def doubleRun : List QodOp :=
  [.createSession (phoneSession "consumer") "session-1" 0 (some (.created "pcf-1")) 1,
    .createSession (phoneSession "consumer") "session-2" 2 (some (.created "pcf-2")) 3]

/-- Both are accepted, and the sessions conflict. -/
theorem conflict_after_doubleRun : ∃ r, doubleRun.foldlM next initial = some r ∧
    qodSystem.Reachable r ∧ ¬r.manager.NoConflict := by
  have h₀ : qodSystem.Reachable initial := .init ⟨_, _, _, _, rfl⟩
  have h₁ := h₀.step (a := doubleRun[0]) rfl
  have h₂ := h₁.step (a := doubleRun[1]) rfl
  refine ⟨_, rfl, h₂, fun h => ?_⟩
  exact h "session-1" "session-2" _ _ (by decide) rfl rfl ⟨nofun, nofun, rfl, rfl, .inl rfl⟩

end QodRun

end PhineAf

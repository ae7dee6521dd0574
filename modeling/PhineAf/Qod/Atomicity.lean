import PhineAf.Qod.Association

/-!
# All or nothing

What `create_session` and `delete_session` leave in the stores, whatever the PCF answers.

* `QodRun.createSession_all_or_nothing`: a creation is refused and changes nothing, or
  one new session is stored, available exactly if the PCF has created its application
  session;
* `QodRun.deleteSession_all_or_nothing`: a deletion that fails changes none of the stores,
  and one that succeeds leaves nothing of the session but its unavailable record.
-/

namespace PhineAf

/-- The identifiers of a device have the formats the keys of UEs ask for. -/
structure QodDevice.WellFormed (device : QodDevice) : Prop where
  phoneNumber : ∀ p, device.phoneNumber = some p → validateGpsiFormat p = .ok ()
  publicAddress : ∀ a, device.ipv4Address = some a →
    validateIpv4Format a.publicAddress.value = .ok ()
  privateAddress : ∀ a p, device.ipv4Address = some a → a.privateAddress = some p →
    validateIpv4Format p.value = .ok ()
  ipv6Address : ∀ a, device.ipv6Address = some a → validateIpv6Format a.value = .ok ()

/-- A session serves a request: it has its consumer, device, server, ports, profile,
    duration and sink. -/
structure QodSession.Serves (session : QodSession) (request : CreateSessionRequest) : Prop where
  apiConsumerId : session.apiConsumerId = request.apiConsumerId
  device : session.device = request.device
  applicationServer : session.applicationServer = request.applicationServer
  devicePorts : session.devicePorts = request.devicePorts
  applicationServerPorts : session.applicationServerPorts = request.applicationServerPorts
  qosProfile : session.qosProfile = request.qosProfile
  duration : session.duration = request.duration
  sink : session.sink = request.sink

namespace QodSessionManager

variable {m : QodSessionManager}

/-! ## Lookups that do not throw -/

/-- A UE is looked up without an exception if the key of the identifier can be made. -/
theorem exists_getUeStateBy {x : Identifier} {key : Except Exn UeKey} (s : UeStore)
    (hkey : ∃ k, key = .ok k) : ∃ st, s.getUeStateBy x key = .ok st := by
  obtain ⟨k, rfl⟩ := hkey
  rw [UeStore.getUeStateBy]
  split
  · exact ⟨_, rfl⟩
  · exact ⟨_, rfl⟩

/-- A check that passes lets the key be made. -/
theorem exists_key {check : Except Exn Unit} {k : UeKey} (h : check = .ok ()) :
    ∃ k', (check >>= fun _ => pure k) = .ok k' := by
  rw [h]
  exact ⟨k, rfl⟩

theorem exists_orTry {α : Type} (r : Option α) {next : Except Exn (Option α)}
    (h : ∃ r', next = .ok r') : ∃ r', orTry r next = .ok r' := by
  rw [orTry]
  split
  · exact ⟨_, rfl⟩
  · exact h

/-- What is looked up for an identifier that may be absent. -/
theorem exists_elim {α β : Type} {o : Option α} {f : α → Except Exn (Option β)}
    (h : ∀ a, o = some a → ∃ r, f a = .ok r) : ∃ r, o.elim (.ok none) f = .ok r := by
  cases o with
  | none => exact ⟨_, rfl⟩
  | some a => exact h a rfl

theorem exists_bind {α β : Type} {x : Except Exn α} {f : α → Except Exn β}
    (hx : ∃ a, x = .ok a) (hf : ∀ a, ∃ b, f a = .ok b) : ∃ b, (x >>= f) = .ok b := by
  obtain ⟨a, rfl⟩ := hx
  exact hf a

/-- The UE of a well-formed device is looked up without an exception. -/
theorem exists_findUeState {device : QodDevice} (h : device.WellFormed) :
    ∃ st, m.findUeState device = .ok st := by
  rw [findUeState]
  refine exists_bind ?_ fun byPhone => exists_bind (exists_orTry _ ?_) fun byIpv4 =>
    exists_orTry _ ?_
  · exact exists_elim fun p hp => exists_getUeStateBy _ (exists_key (h.phoneNumber p hp))
  · -- The public address is looked up if it is not empty, and the private one after it.
    refine exists_elim fun a ha => ?_
    have hprivate : ∃ r, a.privateAddress.elim (.ok none) m.ue.getUeStateByIpv4 = .ok r :=
      exists_elim fun p hp => exists_getUeStateBy _ (exists_key (h.privateAddress a p ha hp))
    dsimp only
    split
    · exact exists_orTry none hprivate
    · exact exists_bind (exists_getUeStateBy _ (exists_key (h.publicAddress a ha)))
        fun byPublic => exists_orTry byPublic hprivate
  · exact exists_elim fun a ha => exists_getUeStateBy _ (exists_key (h.ipv6Address a ha))

/-- A well-formed device is resolved without an exception. -/
theorem exists_resolveDevice {device : QodDevice} (h : device.WellFormed) :
    ∃ r, m.resolveDevice device = .ok r := by
  refine exists_bind (exists_findUeState h) fun st => ?_
  cases st with
  | none => exact ⟨_, rfl⟩
  | some st => exact ⟨_, rfl⟩

/-- A well-formed request is refused, or its session prepared, without an exception. -/
theorem exists_prepareSession {request : CreateSessionRequest}
    (h : ∀ d, request.device = some d → d.WellFormed) (sessionId : String) (now : ℤ) :
    ∃ r, m.prepareSession request sessionId now = .ok r := by
  have hresolve : ∃ r, request.device.elim (.ok (none, none)) m.resolveDevice = .ok r := by
    cases hd : request.device with
    | none => exact ⟨_, rfl⟩
    | some d => exact exists_resolveDevice (h d hd)
  obtain ⟨r, hr⟩ := hresolve
  rw [prepareSession]
  split
  · exact ⟨_, rfl⟩
  · split
    · exact ⟨_, rfl⟩
    · split
      · exact ⟨_, rfl⟩
      · rw [hr]
        simp only [bind, Except.bind]
        split
        · exact ⟨_, rfl⟩
        · exact ⟨_, rfl⟩

/-! ## Creation -/

/-- A prepared session serves the request. -/
theorem serves_of_prepared {request : CreateSessionRequest} {sessionId : String} {now : ℤ}
    {session : QodSession} (h : m.prepareSession request sessionId now = .ok (some session)) :
    session.Serves request := by
  rw [prepareSession] at h
  split at h
  · cases h
  · split at h
    · cases h
    · split at h
      · cases h
      · simp only [bind, Except.bind] at h
        split at h
        · cases h
        · split at h
          · cases h
          · cases h
            exact ⟨rfl, rfl, rfl, rfl, rfl, rfl, rfl, rfl⟩

/-- The reply says that an application session has been created: its payload is an
    object, whose PCF session id is a text if it is there. -/
def ReportsCreated (reply : Option PcfReply) : Prop :=
  ∃ fields, reply = some ⟨.qodSessionCreated, some (.obj fields)⟩ ∧
    ∀ j, fields.lookup "pcf_session_id" = some j → ∃ p, j = .str p

/-- A text is read from an object whose member is a text if it is there. -/
theorem exists_textOf_iff (payload : Option Json) (key default : String) :
    (∃ s, textOf payload key default = .ok s) ↔ ∃ fields, payload = some (.obj fields) ∧
      ∀ j, fields.lookup key = some j → ∃ s, j = .str s := by
  rcases payload with _ | payload
  · simp [textOf, bind, Except.bind]
  cases payload with
  | obj fields =>
    cases hj : fields.lookup key with
    | none => simp [textOf, bind, Except.bind, Json.value, Json.find?, hj, Json.getStr]
    | some j => cases j <;>
        simp [textOf, bind, Except.bind, Json.value, Json.find?, hj, Json.getStr]
  | _ => simp [textOf, bind, Except.bind, Json.value]

theorem reportsCreated_iff (reply : Option PcfReply) :
    ReportsCreated reply ↔ ∃ p, PcfAnswer.of reply = .created p := by
  rcases reply with _ | ⟨type, payload⟩
  · simp [ReportsCreated, PcfAnswer.of]
  have hcreated : ReportsCreated (some ⟨.qodSessionCreated, payload⟩) ↔
      ∃ p, textOf payload "pcf_session_id" "" = .ok p := by
    rw [exists_textOf_iff]
    simp [ReportsCreated]
  cases type with
  | qodSessionCreated =>
    rw [hcreated]
    cases h : textOf payload "pcf_session_id" "" <;> simp [PcfAnswer.of, h]
  | deleteAppSession =>
    cases h : textOf payload "pcf_session_id" "" <;>
      cases h' : textOf payload "reason" "Requested by user" <;>
      simp [ReportsCreated, PcfAnswer.of, h, h']
  | error =>
    simp only [ReportsCreated, PcfAnswer.of]
    split <;> simp
  | other => simp [ReportsCreated, PcfAnswer.of]

/-- Only the end of an application session is read as one. -/
theorem type_of_ended {reply : Option PcfReply} {p : String} (h : PcfAnswer.of reply = .ended p) :
    ∃ payload, reply = some ⟨.deleteAppSession, payload⟩ := by
  rcases reply with _ | ⟨type, payload⟩
  · cases h
  cases type with
  | qodSessionCreated =>
    dsimp only [PcfAnswer.of] at h
    split at h <;> cases h
  | deleteAppSession => exact ⟨payload, rfl⟩
  | error =>
    dsimp only [PcfAnswer.of] at h
    split at h <;> cases h
  | other => cases h

/-- A session whose application session has been created is started. -/
theorem applySessionToPcf_of_created {session : QodSession} {reply : Option PcfReply}
    {p : String} (hready : m.pcfReady) (h : PcfAnswer.of reply = .created p) (later : ℤ) :
    m.applySessionToPcf session reply later = (true,
      (m.send (.createQodSession session)).handlePcfSessionResponse session.sessionId p true ""
        later) := by
  rw [applySessionToPcf, if_pos hready, applyReply_eq, h]

/-- Any other reply, but the end of an application session, is a failure. -/
theorem fst_applySessionToPcf_of_not {session : QodSession} {reply : Option PcfReply}
    (h : ¬(m.pcfReady ∧ ReportsCreated reply))
    (hreply : ∀ payload, reply ≠ some ⟨.deleteAppSession, payload⟩) (later : ℤ) :
    (m.applySessionToPcf session reply later).1 = false := by
  rw [applySessionToPcf]
  split
  next hready =>
    rw [applyReply_eq]
    cases hanswer : PcfAnswer.of reply with
    | created p => exact absurd ⟨hready, (reportsCreated_iff reply).2 ⟨p, hanswer⟩⟩ h
    | ended p =>
      obtain ⟨payload, hpayload⟩ := type_of_ended hanswer
      exact absurd hpayload (hreply payload)
    | refused e => rfl
    | unreadable => rfl
  next => rfl

/-- After a failure, the session that is stored is abandoned and returned. -/
theorem concludeSession_of_not {session stored : QodSession} {c : Bool × QodSessionManager}
    (h : c.1 = false) (hs : c.2.qod.getSessionById session.sessionId = some stored) :
    (concludeSession session c).1 =
        .ok (some (QodStore.withStatus stored .unavailable (some .networkTerminated))) ∧
      ∀ id, (concludeSession session c).2.qod.getSessionById id =
        if id = session.sessionId then
          some (QodStore.withStatus stored .unavailable (some .networkTerminated))
        else c.2.qod.getSessionById id := by
  have hlookup := getSessionById_abandonSession (m := c.2) session.sessionId session.sink
  have hstored : (c.2.abandonSession session.sessionId session.sink).2.qod.getSessionById
      session.sessionId = some (QodStore.withStatus stored .unavailable (some .networkTerminated)) := by
    rw [hlookup, if_pos rfl, hs]
    rfl
  rw [concludeSession, h]
  refine ⟨?_, fun id => ?_⟩
  · rw [qod_abandonSession] at hstored
    simp only [Bool.false_eq_true, if_false, abandonSession, hstored]
    rfl
  · by_cases hid : id = session.sessionId
    · rw [if_pos hid, hid]
      exact hstored
    · rw [if_neg hid]
      exact (hlookup id).trans (if_neg hid)

/-- What comes of a new session: it is started if the PCF has created its application
    session, and unavailable otherwise. -/
theorem createSession_of_fresh (hm : m.Filed) {request : CreateSessionRequest}
    {sessionId : String} {now : ℤ} {session : QodSession}
    (hprepared : m.prepareSession request sessionId now = .ok (some session))
    {reply : Option PcfReply} (hreply : ∀ payload, reply ≠ some ⟨.deleteAppSession, payload⟩)
    (later : ℤ) :
    ∃ s stored, (m.createSession request sessionId now reply later).1 = .ok (some s) ∧
      s.sessionId = sessionId ∧ stored.sessionId = sessionId ∧ stored.Serves request ∧
      (m.pcfReady ∧ ReportsCreated reply → stored.qosStatus = .available) ∧
      (¬(m.pcfReady ∧ ReportsCreated reply) → stored.qosStatus = .unavailable) ∧
      ∀ id, (m.createSession request sessionId now reply later).2.qod.getSessionById id =
        if id = sessionId then some stored else m.qod.getSessionById id := by
  obtain ⟨hid, -⟩ := prepared hprepared
  have hserves := serves_of_prepared hprepared
  have hfiled : (m.storeSession session now).Filed := hm.of_addSession rfl
  have hstore := getSessionById_storeSession (m := m) session now
  have hnew : (m.storeSession session now).qod.getSessionById session.sessionId = some session :=
    (hstore _).trans (if_pos rfl)
  have hready : (m.storeSession session now).pcfReady = m.pcfReady := rfl
  rw [createSession_of_prepared hprepared]
  subst hid
  by_cases hcreated : m.pcfReady ∧ ReportsCreated reply
  · obtain ⟨p, hp⟩ := (reportsCreated_iff reply).1 hcreated.2
    rw [applySessionToPcf_of_created (hready ▸ hcreated.1) hp]
    refine ⟨{ session with pcfTransactionId := some session.sessionId },
      activated session p later, rfl, rfl, rfl, ?_, fun _ => rfl, fun h => absurd hcreated h,
      fun id => ?_⟩
    · exact { hserves with }
    · refine (getSessionById_handlePcfSessionResponse
        (m := (m.storeSession session now).send (.createQodSession session)) hfiled ..).trans ?_
      by_cases hid : id = session.sessionId
      · rw [if_pos hid, if_pos hid, hid]
        exact congrArg (Option.map _) hnew
      · rw [if_neg hid, if_neg hid]
        exact (hstore id).trans (if_neg hid)
  · have hfst : ((m.storeSession session now).applySessionToPcf session reply later).1 = false :=
      fst_applySessionToPcf_of_not (hready ▸ hcreated) hreply later
    -- The session is stored as it was, or as failed; either way it is abandoned.
    obtain ⟨stored, hsid, hs, hlookup⟩ : ∃ stored : QodSession,
        stored.sessionId = session.sessionId ∧ stored.Serves request ∧
        ∀ id, ((m.storeSession session now).applySessionToPcf session reply
          later).2.qod.getSessionById id =
            if id = session.sessionId then some stored else m.qod.getSessionById id := by
      rcases getSessionById_applySessionToPcf_of_not hfiled hfst with hkept | ⟨e, hfailed⟩
      · exact ⟨session, rfl, hserves, fun id => (hkept id).trans (hstore id)⟩
      · refine ⟨failed session e, rfl, { hserves with }, fun id => ?_⟩
        rw [hfailed, hstore]
        by_cases hid : id = session.sessionId
        · rw [if_pos hid, if_pos hid, if_pos hid]
          rfl
        · rw [if_neg hid, if_neg hid, if_neg hid]
    obtain ⟨hresult, hall⟩ := concludeSession_of_not hfst ((hlookup _).trans (if_pos rfl))
    refine ⟨_, QodStore.withStatus stored .unavailable (some .networkTerminated), hresult, hsid,
      hsid, { hs with }, fun h => absurd h hcreated, fun _ => rfl, fun id => ?_⟩
    rw [hall]
    by_cases hid : id = session.sessionId
    · rw [if_pos hid, if_pos hid]
    · rw [if_neg hid, if_neg hid, hlookup, if_neg hid]

/-! ## Keys of sessions on PDU sessions -/

/-- A session on a PDU session has an identifier a key can be made of. -/
def Keyed (session : QodSession) : Prop :=
  session.pduSessionId.isSome → ∃ device, session.device = some device ∧
    (device.phoneNumber.isSome ∨ device.ipv4Address.isSome ∨ device.ipv6Address.isSome)

/-- A UE is found by an identifier of the device only. -/
theorem identified_of_findUeState {device : QodDevice} {st : AfUeSubscriptionState}
    (h : m.findUeState device = .ok (some st)) :
    device.phoneNumber.isSome ∨ device.ipv4Address.isSome ∨ device.ipv6Address.isSome := by
  rw [findUeState] at h
  cases hphone : device.phoneNumber with
  | some p => exact .inl rfl
  | none =>
    cases hipv4 : device.ipv4Address with
    | some a => exact .inr (.inl rfl)
    | none =>
      cases hipv6 : device.ipv6Address with
      | some a => exact .inr (.inr rfl)
      | none =>
        rw [hphone, hipv4, hipv6] at h
        cases h

/-- A new session is on a PDU session only if its device has been resolved. -/
theorem keyed_of_prepared {request : CreateSessionRequest} {sessionId : String} {now : ℤ}
    {session : QodSession} (h : m.prepareSession request sessionId now = .ok (some session)) :
    Keyed session := by
  rw [prepareSession] at h
  split at h
  · cases h
  · split at h
    · cases h
    · split at h
      · cases h
      · simp only [bind, Except.bind] at h
        split at h
        · cases h
        next resolved hresolved =>
          split at h
          · cases h
          · cases h
            intro hpdu
            cases hdevice : request.device with
            | none =>
              rw [hdevice] at hresolved
              cases hresolved
              cases hpdu
            | some device =>
              rw [hdevice, Option.elim_some, resolveDevice] at hresolved
              simp only [bind, Except.bind] at hresolved
              split at hresolved
              · cases hresolved
              next found hfound =>
                cases found with
                | none =>
                  cases hresolved
                  cases hpdu
                | some st => exact ⟨device, rfl, identified_of_findUeState hfound⟩

/-- The sessions an operation writes are keyed if those stored are. -/
theorem keyed_of_writes (hm : ∀ id session, m.qod.getSessionById id = some session → Keyed session)
    {op : QodOp} {id : String} {session : QodSession} (h : m.Writes op id session) :
    Keyed session := by
  cases h with
  | requested h => exact keyed_of_prepared h
  | started p h => exact (keyed_of_prepared h :)
  | abandoned h => exact (keyed_of_prepared h :)
  | rejected e h => exact (keyed_of_prepared h :)
  | extended hs => exact (hm _ _ hs :)
  | deleted hs => exact (hm _ _ hs :)
  | activated hs => exact (hm _ _ hs :)
  | failed hs => exact (hm _ _ hs :)

/-- A keyed session on a PDU session has a key, unless its identifier throws. -/
theorem Keyed.ne_none {session : QodSession} (h : Keyed session)
    (hpdu : session.pduSessionId.isSome) : createOrGetUeKey session ≠ .ok none := by
  obtain ⟨device, hdevice, hidentified⟩ := h hpdu
  have hmap : ∀ key : Except Exn UeKey, key.map some ≠ .ok none := by
    intro key hkey
    cases key <;> cases hkey
  rw [createOrGetUeKey, hdevice]
  cases session.ueSupi with
  | some supi => exact hmap _
  | none =>
    dsimp only
    rw [deviceKey]
    cases hphone : device.phoneNumber with
    | some p => exact hmap _
    | none =>
      cases hipv4 : device.ipv4Address with
      | some a => exact hmap _
      | none =>
        cases hipv6 : device.ipv6Address with
        | some a => exact hmap _
        | none => simp [hphone, hipv4, hipv6] at hidentified

/-! ## The sets of QoD sessions -/

/-- The QoD sessions of each PDU session are a set: no id is repeated. -/
abbrev Sets (ue : UeStore) : Prop := ue.Every List.Nodup

theorem Sets.storeSession (h : Sets m.ue) (session : QodSession) (now : ℤ) :
    Sets (m.storeSession session now).ue :=
  every_createOrUpdateUeState session now h fun _ => List.nodup_singleton _

theorem Sets.handlePcfSessionResponse (h : Sets m.ue) (q p : String) (success : Bool) (e : String)
    (now : ℤ) : Sets (m.handlePcfSessionResponse q p success e now).ue := by
  rw [QodSessionManager.handlePcfSessionResponse]
  split
  · exact h
  next session _ =>
    cases success with
    | true =>
      simp only [if_true, ue_notifyIf]
      exact every_updateUeStateFromPcfResponse _ now h fun _ => List.Nodup.insert
    | false =>
      simp only [Bool.false_eq_true, if_false, ue_notifyIf]
      exact h

theorem Sets.removeQodSession {ue : UeStore} (h : Sets ue) (key : UeKey)
    (pduSessionId qodSessionId : String) (now : ℤ) :
    Sets (ue.removeQodSessionFromPduSession key pduSessionId qodSessionId now).2 :=
  h.modifyQodSessions fun _ hids => hids.erase _

theorem Sets.removeDeviceAddresses {ue : UeStore} (h : Sets ue) (key : UeKey) (device : QodDevice)
    (now : ℤ) : Sets (removeDeviceAddresses key device now ue) := by
  rw [QodSessionManager.removeDeviceAddresses]
  cases device.ipv4Address with
  | none =>
    cases device.ipv6Address with
    | none => exact h
    | some b => exact h.removeNonPrimary _ _ _ _
  | some a =>
    cases device.ipv6Address with
    | none => exact h.removeNonPrimary _ _ _ _
    | some b => exact UeStore.Every.removeNonPrimary (h.removeNonPrimary _ _ _ _) _ _ _ _

theorem Sets.releaseUe {ue ue' : UeStore} (h : Sets ue) {session : QodSession} {now : ℤ}
    (hrelease : releaseUe session now ue = .ok (some ue')) : Sets ue' := by
  rw [QodSessionManager.releaseUe] at hrelease
  split at hrelease
  · cases hrelease
    exact h
  next device _ _ =>
    simp only [bind, Except.bind] at hrelease
    split at hrelease
    · cases hrelease
    next key _ =>
      cases hrelease
      cases key with
      | none => exact h
      | some key => exact Sets.removeDeviceAddresses h key device now
  · cases hrelease
  next pduSessionId device _ _ =>
    simp only [bind, Except.bind] at hrelease
    split at hrelease
    · cases hrelease
    next key _ =>
      cases key with
      | none => cases hrelease
      | some key =>
        cases hrelease
        exact Sets.removeDeviceAddresses (Sets.removeQodSession h _ _ _ _) key device now

theorem Sets.handlePcfSessionTerminated (h : Sets m.ue) (p : String) (now : ℤ) :
    Sets (m.handlePcfSessionTerminated p now).2.ue := by
  rw [QodSessionManager.handlePcfSessionTerminated]
  split
  · exact h
  next session _ =>
    split
    · dsimp only
      split
      · exact h
      · exact h
      next ue hue =>
        rw [dropTerminated, ue_notifyIf]
        exact Sets.releaseUe h hue
    · exact h

theorem Sets.createSession (h : Sets m.ue) (request : CreateSessionRequest) (sessionId : String)
    (now : ℤ) (reply : Option PcfReply) (later : ℤ) :
    Sets (m.createSession request sessionId now reply later).2.ue := by
  rcases createSession_prepared_or_refused (m := m) request sessionId now reply later with
    ⟨session, hprepared⟩ | ⟨-, hsame⟩
  · have hstored : Sets ((m.storeSession session now).send (.createQodSession session)).ue :=
      Sets.storeSession h session now
    have happlied : Sets ((m.storeSession session now).applySessionToPcf session reply later).2.ue := by
      rw [applySessionToPcf]
      split
      · rw [applyReply_eq]
        cases PcfAnswer.of reply with
        | created p => exact Sets.handlePcfSessionResponse hstored _ _ _ _ _
        | ended p => exact Sets.handlePcfSessionTerminated hstored _ _
        | refused e => exact Sets.handlePcfSessionResponse hstored _ _ _ _ _
        | unreadable => exact hstored
      · exact hstored
    rw [createSession_of_prepared hprepared, concludeSession]
    split
    · exact happlied
    · dsimp only
      rw [ue_abandonSession]
      exact happlied
  · rw [hsame]
    exact h

theorem Sets.finishDelete (h : Sets m.ue) (session : QodSession) (now : ℤ) :
    Sets (m.finishDelete session now).2.ue := by
  rw [QodSessionManager.finishDelete]
  dsimp only
  split
  · rw [ue_notifyIf]
    exact h
  · split
    · exact h
    · exact h
    · rw [ue_notifyIf]
      exact Sets.removeQodSession h _ _ _ _

/-- What `remove_session_from_pcf` sends and is answered does not touch the UEs. -/
theorem ue_removeReply (reply : Option PcfReply) : (m.removeReply reply).2.ue = m.ue := by
  rcases removeReply_cases reply with ⟨p, h⟩ | h <;> rw [h]

theorem Sets.deleteSession (h : Sets m.ue) (sessionId consumer : String)
    (reply : Option PcfReply) (now : ℤ) :
    Sets (m.deleteSession sessionId consumer reply now).2.ue := by
  rw [QodSessionManager.deleteSession]
  split
  · exact h
  next session _ =>
    split
    · exact Sets.finishDelete h session now
    next p _ =>
      split
      next =>
        have hreply := ue_removeReply (m := m.send (.deleteQodSession p session.sessionId)) reply
        split
        next m' hm' =>
          rw [hm'] at hreply
          have hsets : Sets m'.ue := hreply ▸ h
          exact Sets.finishDelete hsets session now
        next m' hm' =>
          rw [hm'] at hreply
          exact hreply ▸ h
      next => exact h

/-- What another component puts on PDU sessions are sets as well. -/
theorem Sets.next (h : Sets m.ue) {op : QodOp} {m' : QodSessionManager}
    (hop : ∀ ueOp, op = .ueOperation ueOp → ueOp.Keeps List.Nodup) (hnext : m.next op = some m') :
    Sets m'.ue := by
  cases op with
  | createSession request sessionId now reply later =>
    cases hnext
    exact Sets.createSession h _ _ _ _ _
  | extendSessionDuration sessionId additional consumer =>
    obtain rfl | ⟨session, t, -, -, -, -, rfl⟩ := next_extendSessionDuration_cases hnext <;>
      exact h
  | deleteSession sessionId consumer reply now =>
    cases hnext
    exact Sets.deleteSession h _ _ _ _
  | handlePcfSessionResponse q p success e now =>
    cases hnext
    exact Sets.handlePcfSessionResponse h _ _ _ _ _
  | handlePcfSessionTerminated p now =>
    cases hnext
    exact Sets.handlePcfSessionTerminated h _ _
  | handlePduSessionTerminatedEvent supi pduSessionId order =>
    cases hnext
    rw [handlePduSessionTerminatedEvent]
    split
    · exact h
    · rw [ue_notifyIf]
      exact h
  | cleanupExpiredSessions now =>
    cases hnext
    exact h
  | stop =>
    cases hnext
    exact h
  | ueOperation op =>
    obtain ⟨ue, hue, rfl⟩ := Option.map_eq_some_iff.1 hnext
    exact UeStore.Every.next h List.nodup_nil (fun _ _ hids => hids.erase _) (hop op rfl) hue

/-! ## Deletion -/

/-- The end of a deletion: for a keyed session it throws, or the session is written back
    and taken off its PDU session. -/
theorem finishDelete_cases {session : QodSession} (hkeyed : Keyed session) (now : ℤ) :
    (∃ e, (m.finishDelete session now).1 = .error e) ∨
      (m.finishDelete session now).1 = .ok true ∧
        (m.finishDelete session now).2.qod = (m.qod.updateSession (deleted session now)).2 ∧
        ∀ pduSessionId key, session.pduSessionId = some pduSessionId →
          createOrGetUeKey session = .ok (some key) → (m.finishDelete session now).2.ue =
            (m.ue.removeQodSessionFromPduSession key pduSessionId session.sessionId now).2 := by
  have hkey : createOrGetUeKey (deleted session now) = createOrGetUeKey session := rfl
  rw [finishDelete]
  dsimp only
  cases hpdu : session.pduSessionId with
  | none =>
    refine .inr ⟨rfl, by rw [qod_notifyIf], fun pduSessionId key h => ?_⟩
    cases h
  | some pduSessionId =>
    rw [hkey]
    cases hk : createOrGetUeKey session with
    | error e => exact .inl ⟨e, rfl⟩
    | ok key =>
      cases key with
      | none =>
        -- The session was given a PDU session when its device was resolved.
        exact absurd hk (hkeyed.ne_none (by rw [hpdu]; rfl))
      | some key =>
        refine .inr ⟨rfl, by simp only [qod_notifyIf], fun pduSessionId' key' h h' => ?_⟩
        cases h
        cases h'
        simp only [ue_notifyIf]

/-- A deletion fails and changes none of the stores, or ends the session once the PCF has
    answered. -/
theorem deleteSession_cases (sessionId consumer : String) (reply : Option PcfReply) (now : ℤ) :
    (m.deleteSession sessionId consumer reply now).1 = .ok false ∧
        (m.deleteSession sessionId consumer reply now).2.qod = m.qod ∧
        (m.deleteSession sessionId consumer reply now).2.ue = m.ue ∨
      ∃ (session : QodSession) (m₁ : QodSessionManager),
        m.qod.getSessionById sessionId = some session ∧ m₁.ue = m.ue ∧
        (m₁.qod = m.qod ∧ pcfSessionOf session = none ∨
          ∃ q p, pcfSessionOf session = some q ∧ PcfAnswer.of reply = .ended p ∧
            m₁.qod = (m.qod.removePcfToQodSessionMapping p).2) ∧
        m.deleteSession sessionId consumer reply now = m₁.finishDelete session now := by
  rw [deleteSession, deleteRequest]
  split
  next => exact .inl ⟨rfl, rfl, rfl⟩
  next session hs =>
    obtain ⟨hs, -⟩ := Option.filter_eq_some_iff.1 hs
    split
    next hpcf => exact .inr ⟨session, m, hs, rfl, .inl ⟨rfl, hpcf⟩, rfl⟩
    next q hpcf =>
      split
      next =>
        rw [removeReply_eq]
        cases hanswer : PcfAnswer.of reply with
        | ended p =>
          refine .inr ⟨session, { m.send (.deleteQodSession q session.sessionId) with
            qod := (m.qod.removePcfToQodSessionMapping p).2 }, hs, rfl, ?_, rfl⟩
          exact .inr ⟨q, p, hpcf, rfl, rfl⟩
        | created p => exact .inl ⟨rfl, rfl, rfl⟩
        | refused e => exact .inl ⟨rfl, rfl, rfl⟩
        | unreadable => exact .inl ⟨rfl, rfl, rfl⟩
      next => exact .inl ⟨rfl, rfl, rfl⟩

/-- The mapping of a PCF id is gone after it is removed. -/
theorem lookup_removePcfToQodSessionMapping (s : QodStore) (p : String) :
    (s.removePcfToQodSessionMapping p).2.pcfSessionMapping.lookup p = none := by
  rw [QodStore.removePcfToQodSessionMapping]
  split
  · exact AList.lookup_erase ..
  next h => simpa using h

theorem pcfSessionMapping_updateSession (s : QodStore) (session : QodSession) :
    (s.updateSession session).2.pcfSessionMapping = s.pcfSessionMapping := by
  rw [QodStore.updateSession]
  split <;> rfl

/-- The sessions after a deletion that the PCF has agreed to: what was said to it touches
    none of them. -/
theorem getSessionById_of_deleted {m₁ : QodSessionManager} {session : QodSession}
    {reply : Option PcfReply} {q' : QodStore} {now : ℤ}
    (hs : m.qod.getSessionById session.sessionId = some session)
    (hpcf : m₁.qod = m.qod ∧ pcfSessionOf session = none ∨
      ∃ q p, pcfSessionOf session = some q ∧ PcfAnswer.of reply = .ended p ∧
        m₁.qod = (m.qod.removePcfToQodSessionMapping p).2)
    (hqod : q' = (m₁.qod.updateSession (deleted session now)).2) (id : String) :
    q'.getSessionById id =
      if id = session.sessionId then some (deleted session now) else m.qod.getSessionById id := by
  have hkept : ∀ id, m₁.qod.getSessionById id = m.qod.getSessionById id := by
    intro id
    rcases hpcf with ⟨h, -⟩ | ⟨q, p, -, -, h⟩
    · rw [h]
    · rw [h]
      exact QodStore.getSessionById_removePcfToQodSessionMapping ..
  have hold : m₁.qod.getSessionById (deleted session now).sessionId = some session :=
    (hkept _).trans hs
  rw [hqod, QodStore.getSessionById_updateSession_of_stored _ hold, hkept]
  rfl

/-- The PCF id of an available session is unmapped if the PCF has answered with it. -/
theorem lookup_of_deleted {m₁ : QodSessionManager} {session : QodSession}
    {reply : Option PcfReply} {p : String} (hp : pcfSessionOf session = some p)
    (hecho : ∀ q p, pcfSessionOf session = some q → PcfAnswer.of reply = .ended p → p = q)
    (hpcf : m₁.qod = m.qod ∧ pcfSessionOf session = none ∨
      ∃ q p, pcfSessionOf session = some q ∧ PcfAnswer.of reply = .ended p ∧
        m₁.qod = (m.qod.removePcfToQodSessionMapping p).2) :
    m₁.qod.pcfSessionMapping.lookup p = none := by
  rcases hpcf with ⟨-, hnone⟩ | ⟨q, ended, hq, hanswer, h⟩
  · cases hnone.symm.trans hp
  · obtain rfl : ended = p := (hecho q ended hq hanswer).trans (Option.some.inj (hq.symm.trans hp))
    rw [h]
    exact lookup_removePcfToQodSessionMapping ..

/-- Only sessions that are not unavailable are retrieved. -/
theorem ne_of_mem_retrieveSessionsByDevice {sessionId : String}
    (h : ∀ id s, m.qod.getSessionById id = some s → s.sessionId = sessionId →
      s.qosStatus = .unavailable)
    {device : Option QodDevice} {consumer : String} {s : QodSession}
    (hs : s ∈ m.retrieveSessionsByDevice device consumer) : s.sessionId ≠ sessionId := by
  intro hid
  obtain ⟨hall, hretrieved⟩ := List.mem_filter.1 hs
  obtain ⟨id, hstored⟩ := (QodStore.mem_getAllSessions _).1 hall
  simp [h id s hstored hid] at hretrieved

end QodSessionManager

namespace QodRun

open QodSessionManager

variable {r : QodRun}

/-- In every reachable state, a well-formed request with a fresh id either is refused,
    with no message sent and nothing changed, or has one new session stored under the id
    returned, which serves the request and is available exactly if the PCF has created
    its application session; the other sessions are as before. -/
theorem createSession_all_or_nothing (hr : qodSystem.Reachable r)
    {request : CreateSessionRequest} (hrequest : ∀ d, request.device = some d → d.WellFormed)
    {sessionId : String} (hfresh : r.manager.qod.getSessionById sessionId = none)
    {reply : Option PcfReply} (hreply : ∀ payload, reply ≠ some ⟨.deleteAppSession, payload⟩)
    (now later : ℤ) :
    let created := r.manager.createSession request sessionId now reply later
    created = (.ok none, r.manager) ∨
      ∃ s stored, created.1 = .ok (some s) ∧
        r.manager.qod.getSessionById s.sessionId = none ∧
        created.2.qod.getSessionById s.sessionId = some stored ∧
        stored.sessionId = s.sessionId ∧ stored.Serves request ∧
        (r.manager.pcfReady ∧ ReportsCreated reply → stored.qosStatus = .available) ∧
        (¬(r.manager.pcfReady ∧ ReportsCreated reply) → stored.qosStatus = .unavailable) ∧
        ∀ id, id ≠ s.sessionId →
          created.2.qod.getSessionById id = r.manager.qod.getSessionById id := by
  intro created
  obtain ⟨prepared, hprepared⟩ := exists_prepareSession (m := r.manager) hrequest sessionId now
  cases prepared with
  | none =>
    left
    change r.manager.createSession request sessionId now reply later = _
    rw [createSession, hprepared]
  | some session =>
    right
    obtain ⟨s, stored, hs, hid, hstored, hserves, havailable, hunavailable, hall⟩ :=
      createSession_of_fresh (filed_of_reachable hr).1 hprepared hreply later
    subst hid
    exact ⟨s, stored, hs, hfresh, (hall _).trans (if_pos rfl), hstored, hserves, havailable,
      hunavailable, fun id hne => (hall id).trans (if_neg hne)⟩

/-- What other components put on PDU sessions are sets: no id is repeated. -/
def BringsSets (_ : QodRun) : QodOp → Prop
  | .ueOperation op => op.Keeps List.Nodup
  | _ => True

/-- The sessions stored in a run are keyed, and the QoD sessions of its PDU sessions are
    sets. -/
theorem keyed_of_reachable (hr : (qodSystem.restrict BringsSets).Reachable r) :
    (∀ id session, r.manager.qod.getSessionById id = some session → Keyed session) ∧
      Sets r.manager.ue := by
  refine System.Reachable.invariant (P := fun r : QodRun =>
    (∀ id session, r.manager.qod.getSessionById id = some session → Keyed session) ∧
      Sets r.manager.ue) ?_ ?_ hr
  · intro r h
    refine ⟨fun id session hs => ?_, ?_⟩
    · rw [getSessionById_init h] at hs
      cases hs
    · obtain ⟨config, pcfService, pcfDestination, notificationHandler, rfl⟩ := h
      intro k st hst
      cases hst
  · rintro r op r' hr ⟨hkeyed, hsets⟩ ⟨hop, h⟩
    have hm := manager_of_next h
    have hfiled := (filed_of_reachable hr.of_restrict).1
    refine ⟨?_, Sets.next hsets (fun ueOp heq => ?_) hm⟩
    · exact stored_next hfiled hm (P := fun _ session => Keyed session) hkeyed
        fun _ _ => keyed_of_writes hkeyed
    · subst heq
      exact hop

/-- In every run in which the PCF answers a deletion with the id it was asked to delete, or
    not with an end at all: a deletion that fails leaves the stores as they were; one that
    succeeds leaves the session unavailable, its PCF id unmapped if it was available, the
    session off its PDU session and out of the sessions of any device, and the other
    sessions as they were. -/
theorem deleteSession_all_or_nothing (hr : (qodSystem.restrict BringsSets).Reachable r)
    {sessionId : String} {reply : Option PcfReply}
    (hecho : ∀ session q p, r.manager.qod.getSessionById sessionId = some session →
      pcfSessionOf session = some q → PcfAnswer.of reply = .ended p → p = q)
    (consumer : String) (now : ℤ) :
    let deletion := r.manager.deleteSession sessionId consumer reply now
    (deletion.1 = .ok false →
        deletion.2.qod = r.manager.qod ∧ deletion.2.ue = r.manager.ue) ∧
      (deletion.1 = .ok true → ∃ session,
        r.manager.qod.getSessionById sessionId = some session ∧
        deletion.2.qod.getSessionById sessionId = some { session with
          qosStatus := .unavailable
          statusInfo := some .deleteRequested
          expiresAt := some now } ∧
        (∀ id, id ≠ sessionId →
          deletion.2.qod.getSessionById id = r.manager.qod.getSessionById id) ∧
        (∀ p, session.qosStatus = .available → session.pcfSessionId = some p →
          deletion.2.qod.pcfSessionMapping.lookup p = none) ∧
        (∀ pduSessionId key ids, session.pduSessionId = some pduSessionId →
          createOrGetUeKey session = .ok (some key) →
          deletion.2.ue.getQodSessionsForPduSession key pduSessionId = some ids →
          sessionId ∉ ids) ∧
        ∀ device consumer, ∀ s ∈ deletion.2.retrieveSessionsByDevice device consumer,
          s.sessionId ≠ sessionId) := by
  intro deletion
  obtain ⟨hkeyed, hsets⟩ := keyed_of_reachable hr
  have hfiled := (filed_of_reachable hr.of_restrict).1
  rcases deleteSession_cases (m := r.manager) sessionId consumer reply now with
    ⟨hresult, hqod, hue⟩ | ⟨session, m₁, hs, hue, hpcf, hfinish⟩
  · refine ⟨fun _ => ⟨hqod, hue⟩, fun h => ?_⟩
    cases hresult.symm.trans h
  · rcases finishDelete_cases (m := m₁) (hkeyed _ _ hs) now with
      ⟨e, herror⟩ | ⟨hresult, hqod, hrelease⟩
    · rw [← hfinish] at herror
      refine ⟨fun h => ?_, fun h => ?_⟩ <;> cases herror.symm.trans h
    rw [← hfinish] at hresult hqod
    refine ⟨fun h => (by cases hresult.symm.trans h), fun _ => ⟨session, hs, ?_⟩⟩
    obtain rfl : session.sessionId = sessionId := hfiled _ _ hs
    have hlookup : ∀ id, deletion.2.qod.getSessionById id =
        if id = session.sessionId then some (deleted session now)
        else r.manager.qod.getSessionById id := getSessionById_of_deleted hs hpcf hqod
    refine ⟨(hlookup _).trans (if_pos rfl), fun id hne => (hlookup id).trans (if_neg hne),
      fun p hstatus hp => ?_, fun pduSessionId key ids hpdu hkey hids => ?_,
      fun device c s hmem => ne_of_mem_retrieveSessionsByDevice (fun id stored hstored hid => ?_)
        hmem⟩
    · change (r.manager.deleteSession _ consumer reply now).2.qod.pcfSessionMapping.lookup p = none
      have hpcfSession : pcfSessionOf session = some p := by rw [pcfSessionOf, if_pos hstatus, hp]
      rw [hqod, pcfSessionMapping_updateSession]
      exact lookup_of_deleted hpcfSession (fun q ended => hecho session q ended hs) hpcf
    · have hreleased := hrelease pduSessionId key hpdu hkey
      rw [← hfinish, hue] at hreleased
      change (r.manager.deleteSession _ consumer reply now).2.ue.getQodSessionsForPduSession key
        pduSessionId = some ids at hids
      rw [hreleased] at hids
      exact UeStore.not_mem_removeQodSession hsets hids
    · rw [hlookup] at hstored
      by_cases hsame : id = session.sessionId
      · rw [if_pos hsame] at hstored
        cases hstored
        rfl
      · rw [if_neg hsame] at hstored
        exact absurd ((hfiled _ _ hstored).symm.trans hid) hsame

/-- An available session is deleted, with its PCF id and its place on a PDU session. -/
theorem deleteSession_addressSession : ∃ (r : QodRun) (m : QodSessionManager),
    (qodSystem.restrict BringsSets).Reachable r ∧
      r.manager.qod.pcfSessionMapping.lookup "pcf-1" = some "session-1" ∧
      r.manager.ue.getQodSessionsForPduSession phoneKey "5" = some ["session-1"] ∧
      r.manager.deleteSession "session-1" "consumer" (some (.removed "pcf-1")) 3 =
        (.ok true, m) ∧
      m.qod.pcfSessionMapping.lookup "pcf-1" = none ∧
      ∀ ids, m.ue.getQodSessionsForPduSession phoneKey "5" = some ids → "session-1" ∉ ids := by
  have h₀ : (qodSystem.restrict BringsSets).Reachable initial := .init ⟨_, _, _, _, rfl⟩
  have h₁ := h₀.step (a := attachUe)
    ⟨fun pdu hpdu => List.mem_singleton.1 hpdu ▸ List.nodup_nil, rfl⟩
  have h₂ := h₁.step (a := QodOp.createSession addressSession "session-1" 1
    (some (.created "pcf-1")) 2) ⟨trivial, rfl⟩
  obtain ⟨-, hdeleted⟩ := @deleteSession_all_or_nothing _ h₂ "session-1"
    (some (.removed "pcf-1")) (fun session q p hs hq hp => by
      cases hs
      cases hq
      cases hp
      rfl) "consumer" 3
  obtain ⟨session, hs, -, -, hmapping, hids, -⟩ := hdeleted rfl
  cases hs
  exact ⟨_, _, h₂, rfl, rfl, rfl, hmapping _ rfl rfl, fun ids => hids _ _ ids rfl rfl⟩

/-- The phone of the request is well formed. -/
theorem wellFormed_phoneSession (consumer : String) :
    ∀ d, (phoneSession consumer).device = some d → d.WellFormed := by
  intro d hd
  cases hd
  exact ⟨fun p hp => Option.some.inj hp ▸ rfl, nofun, nofun, nofun⟩

/-- The first session of a run is started, and stored as available. -/
theorem createSession_phoneSession : ∃ s stored,
    (initial.manager.createSession (phoneSession "consumer") "session-1" 0
        (some (.created "pcf-1")) 1).1 = .ok (some s) ∧
      (initial.manager.createSession (phoneSession "consumer") "session-1" 0
        (some (.created "pcf-1")) 1).2.qod.getSessionById s.sessionId = some stored ∧
      stored.Serves (phoneSession "consumer") ∧ stored.qosStatus = .available := by
  have hfresh : initial.manager.qod.getSessionById "session-1" = none := rfl
  have hreply : ∀ payload, some (PcfReply.created "pcf-1") ≠ some ⟨.deleteAppSession, payload⟩ :=
    fun payload h => by cases h
  rcases createSession_all_or_nothing (.init ⟨_, _, _, _, rfl⟩)
    (wellFormed_phoneSession "consumer") hfresh hreply 0 1 with
      hnone | ⟨s, stored, hs, -, hstored, -, hserves, havailable, -⟩
  · cases congrArg Prod.fst hnone
  · refine ⟨s, stored, hs, hstored, hserves, havailable ⟨rfl, _, rfl, fun j hj => ?_⟩⟩
    cases hj
    exact ⟨_, rfl⟩

end QodRun

end PhineAf

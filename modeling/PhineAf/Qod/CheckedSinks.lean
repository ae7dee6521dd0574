import PhineAf.Qod.Handler
import PhineAf.Qod.Lifecycle
import PhineAf.Qod.Notice

/-!
# Checked sinks

`handle_create_session` checks the sink of a session and the credential for it, and a session
keeps both. So whatever operation the session manager notifies a consumer in, the notification
goes to an HTTPS address, with an access token or without any credential
(`QodSessionManager.tells_next`).
-/

namespace PhineAf

/-- The sink of a session and what is sent along. -/
abbrev Receiver := Option String × Option SinkCredential

/-- The receiver is none, or has an HTTPS address and no credential but an access token. -/
def Receiver.Checked (receiver : Receiver) : Prop :=
  ∀ sink, receiver.1 = some sink → QodHandler.isHttpsUrl sink = true ∧
    ∀ credential, receiver.2 = some credential → credential.credentialType = .accessToken

def QodSession.receiver (session : QodSession) : Receiver := (session.sink, session.sinkCredential)

def CreateSessionRequest.receiver (request : CreateSessionRequest) : Receiver :=
  (request.sink, request.sinkCredential)

def Notification.receiver (note : Notification) : Receiver := (some note.sink, note.sinkCredential)

/-! ## Requests -/

namespace QodHandler

variable {lib : Json.Library} {reader : CredentialReader} {context : QodRequestContext}
  {payload : String} {json : Json} {now : ℤ}

theorem checked_of_validateSink {sink : String} {credential : Option SinkCredential} (now : ℤ)
    (h : validateSink (some sink) credential now = none) :
    Receiver.Checked (some sink, credential) := by
  rintro _ ⟨rfl⟩
  rw [validateSink, Option.bind_some] at h
  split at h
  next => cases h
  next hsink =>
    refine ⟨by simpa using hsink, ?_⟩
    rintro credential rfl
    rw [Option.bind_some, validateCredential, firstError, Option.map_eq_none_iff,
      List.find?_eq_none] at h
    simpa using h _ List.mem_cons_self

theorem checked_of_createSink {receiver : Receiver}
    (h : createSink reader json now = .ok receiver) : receiver.Checked := by
  simp only [createSink, Json.bind_eq_ok] at h
  obtain ⟨sink, -, h⟩ := h
  rcases sink with _ | sink
  · cases h
    rintro sink ⟨⟩
  · simp only [Json.bind_eq_ok] at h
    obtain ⟨credential, -, _, hcheck, h⟩ := h
    cases h
    refine checked_of_validateSink now ?_
    rcases hvalid : validateSink (some sink) credential now with _ | message
    · rfl
    · rw [hvalid] at hcheck
      cases hcheck

/-- The sink of a request has been checked. -/
theorem checked_of_readCreateRequest {request : CreateSessionRequest}
    (h : readCreateRequest lib reader context payload now = .ok request) :
    request.receiver.Checked := by
  rw [readCreateRequest] at h
  split at h
  · simp only [parseCreateRequest, Json.bind_eq_ok] at h
    obtain ⟨device, -, server, -, _, -, ports, -, serverPorts, -, profile, -, duration, -, _, -,
      receiver, hreceiver, hrequest⟩ := h
    cases hrequest
    exact checked_of_createSink hreceiver
  · cases h

end QodHandler

/-! ## Notifications -/

namespace QodSessionManager

variable {m m' m₁ : QodSessionManager}

/-- A new session has the receiver of its request. -/
theorem receiver_of_prepared {request : CreateSessionRequest} {sessionId : String} {now : ℤ}
    {session : QodSession} (h : m.prepareSession request sessionId now = .ok (some session)) :
    session.receiver = request.receiver := by
  rw [prepareSession] at h
  split at h
  · cases h
  · split at h
    · cases h
    · split at h
      · cases h
      · simp only [bind, Except.bind] at h
        split at h
        · cases h
        · split at h
          · cases h
          · cases h
            rfl

/-- The receivers of the stored sessions have been checked. -/
def AllChecked (m : QodSessionManager) : Prop :=
  ∀ id session, m.qod.getSessionById id = some session → session.receiver.Checked

/-- All that is delivered in between has a receiver that has been checked. -/
def Tells (m m' : QodSessionManager) : Prop :=
  ∃ notes, m'.delivered = notes ++ m.delivered ∧ ∀ note ∈ notes, note.receiver.Checked

theorem Tells.of_eq (h : m'.delivered = m.delivered) : m.Tells m' := ⟨[], h, fun _ h => nomatch h⟩

theorem Tells.trans (h : m.Tells m₁) (h' : m₁.Tells m') : m.Tells m' := by
  obtain ⟨notes, hnotes, hchecked⟩ := h
  obtain ⟨notes', hnotes', hchecked'⟩ := h'
  refine ⟨notes' ++ notes, by rw [hnotes', hnotes, List.append_assoc], fun note hnote => ?_⟩
  rcases List.mem_append.1 hnote with hnote | hnote
  · exact hchecked' note hnote
  · exact hchecked note hnote

theorem tells_notifyIf (session : QodSession) (h : session.receiver.Checked) (c : Bool)
    (info : Option StatusInfo) : m.Tells (m.notifyIf c session info) := by
  rw [notifyIf, sendStatusChangeNotification]
  split
  · split
    next sink hsink =>
      split
      · refine ⟨[_], rfl, fun note hnote => ?_⟩
        rw [List.mem_singleton.1 hnote]
        rwa [QodSession.receiver, hsink] at h
      · exact .of_eq rfl
    next => exact .of_eq rfl
  · exact .of_eq rfl

theorem tells_handlePcfSessionResponse (hm : m.AllChecked) (q p : String) (success : Bool)
    (e : String) (now : ℤ) : m.Tells (m.handlePcfSessionResponse q p success e now) := by
  rw [handlePcfSessionResponse]
  split
  next => exact .of_eq rfl
  next session hs =>
    have hchecked := hm q session hs
    cases success with
    | true =>
      exact tells_notifyIf (m := { m with
          ue := updateUeStateFromPcfResponse (activated session p now) now m.ue
          qod := m.qod.updatePcfSessionMap p q }) (activated session p now) hchecked
        session.sink.isSome none
    | false =>
      exact tells_notifyIf (failed session e) hchecked session.sink.isSome
        (some .networkTerminated)

theorem tells_handlePcfSessionTerminated (hm : m.AllChecked) (p : String) (now : ℤ) :
    m.Tells (m.handlePcfSessionTerminated p now).2 := by
  rw [handlePcfSessionTerminated]
  split
  next => exact .of_eq rfl
  next session hs =>
    obtain ⟨id, -, hid⟩ := Option.bind_eq_some_iff.1 hs
    split
    next =>
      dsimp only
      split
      next => exact .of_eq rfl
      next => exact .of_eq rfl
      next ue _ =>
        exact tells_notifyIf (m := { m with ue }) { session with
          qosStatus := .unavailable
          statusInfo := some .networkTerminated
          expiresAt := some now } (hm id session hid) session.sink.isSome (some .networkTerminated)
    next => exact .of_eq rfl

theorem tells_handlePduSessionTerminatedEvent (hm : m.AllChecked) (hfiled : m.Filed) (supi : Supi)
    (pduSessionId : String) (order : List String) :
    m.Tells (m.handlePduSessionTerminatedEvent supi pduSessionId order) := by
  rw [handlePduSessionTerminatedEvent]
  split
  next => exact .of_eq rfl
  next session hs =>
    exact tells_notifyIf (m := { m with qod := (m.qod.removeSession session.sessionId).2 }) session
      (hm _ session (getSessionById_of_getSessionByPduSession hfiled hs)) _ _

theorem tells_abandonSession (hm : m.AllChecked) (sessionId : String) (sink : Option String) :
    m.Tells (m.abandonSession sessionId sink).2 := by
  rw [abandonSession]
  dsimp only
  split
  next => exact .of_eq rfl
  next session hs =>
    rw [QodStore.getSessionById_updateSessionStatus, if_pos rfl] at hs
    obtain ⟨stored, hstored, rfl⟩ := Option.map_eq_some_iff.1 hs
    exact tells_notifyIf (m := { m with qod := (m.qod.updateSessionStatus sessionId .unavailable
      (some .networkTerminated)).2 })
      (QodStore.withStatus stored .unavailable (some .networkTerminated))
      (hm sessionId stored hstored) sink.isSome (some .networkTerminated)

theorem tells_finishDelete {session : QodSession} (h : session.receiver.Checked) (now : ℤ) :
    m.Tells (m.finishDelete session now).2 := by
  have key : ∀ m₁ : QodSessionManager, m₁.Tells
      (m₁.notifyIf (session.sink.isSome && session.qosStatus == .available) (deleted session now)
        (some .deleteRequested)) :=
    fun _ => tells_notifyIf (deleted session now) h _ _
  rw [finishDelete]
  rcases session.pduSessionId with _ | pduSessionId
  · exact key m
  · dsimp only
    rcases createOrGetUeKey (deleted session now) with e | _ | ueKey
    · exact .of_eq rfl
    · exact .of_eq rfl
    · exact key { m with ue := (m.ue.removeQodSessionFromPduSession ueKey pduSessionId
        session.sessionId now).2 }

theorem delivered_removeReply (reply : Option PcfReply) :
    (m.removeReply reply).2.delivered = m.delivered := by
  rcases removeReply_cases reply with ⟨p, h⟩ | h <;> rw [h]

theorem tells_deleteSession (hm : m.AllChecked) (sessionId consumer : String)
    (reply : Option PcfReply) (now : ℤ) :
    m.Tells (m.deleteSession sessionId consumer reply now).2 := by
  rw [deleteSession, deleteRequest]
  split
  next => exact .of_eq rfl
  next session hs =>
    have hchecked := hm _ _ (Option.filter_eq_some_iff.1 hs).1
    split
    next => exact tells_finishDelete hchecked now
    next p _ =>
      split
      next =>
        have hreply := delivered_removeReply
          (m := m.send (.deleteQodSession p session.sessionId)) reply
        split
        next m' hm' =>
          rw [hm'] at hreply
          exact (Tells.of_eq hreply).trans (tells_finishDelete hchecked now)
        next m' hm' =>
          rw [hm'] at hreply
          exact .of_eq hreply
      next => exact .of_eq rfl

theorem AllChecked.handlePcfSessionResponse (hm : m.AllChecked) (hfiled : m.Filed) (q p : String)
    (success : Bool) (e : String) (now : ℤ) :
    (m.handlePcfSessionResponse q p success e now).AllChecked := by
  intro id session hs
  rw [getSessionById_handlePcfSessionResponse hfiled] at hs
  split_ifs at hs
  · obtain ⟨stored, hstored, rfl⟩ := Option.map_eq_some_iff.1 hs
    cases success with
    | true => exact hm id stored hstored
    | false => exact hm id stored hstored
  · exact hm id session hs

theorem tells_createSession (hm : m.AllChecked) (hfiled : m.Filed)
    {request : CreateSessionRequest} (hrequest : request.receiver.Checked) (sessionId : String)
    (now : ℤ) (reply : Option PcfReply) (later : ℤ) :
    m.Tells (m.createSession request sessionId now reply later).2 := by
  rcases createSession_prepared_or_refused (m := m) request sessionId now reply later with
    ⟨session, hprepared⟩ | ⟨-, h⟩
  · -- The new session is stored before the PCF is asked.
    have hstored : ∀ m₂ : QodSessionManager, m₂.qod = m.qod.addSession session →
        m₂.AllChecked ∧ m₂.Filed := by
      refine fun m₂ hqod => ⟨fun id s hs => ?_, hfiled.of_addSession hqod⟩
      rw [hqod, QodStore.getSessionById_addSession] at hs
      split_ifs at hs
      · rw [← Option.some.inj hs, receiver_of_prepared hprepared]
        exact hrequest
      · exact hm id s hs
    have habandon : ∀ m₂ : QodSessionManager, m₂.AllChecked → m.Tells m₂ →
        m.Tells (concludeSession session (false, m₂)).2 :=
      fun m₂ hchecked h => h.trans (tells_abandonSession hchecked session.sessionId session.sink)
    rw [createSession_of_prepared hprepared, applySessionToPcf]
    split
    next =>
      obtain ⟨hchecked, hfiled'⟩ := hstored
        ((m.storeSession session now).send (.createQodSession session)) rfl
      rcases applyReply_cases (m := (m.storeSession session now).send (.createQodSession session))
        session.sessionId reply later with h | ⟨p, h⟩ | ⟨e, h⟩ | ⟨p, -, h⟩ <;> rw [h]
      · exact habandon _ hchecked (.of_eq rfl)
      · exact (Tells.of_eq rfl).trans (tells_handlePcfSessionResponse hchecked _ p true "" later)
      · exact habandon _ (hchecked.handlePcfSessionResponse hfiled' _ "" false e later)
          ((Tells.of_eq rfl).trans (tells_handlePcfSessionResponse hchecked _ "" false e later))
      · exact (Tells.of_eq rfl).trans (tells_handlePcfSessionTerminated hchecked p later)
    next =>
      exact habandon _ (hstored (m.storeSession session now) rfl).1 (.of_eq rfl)
  · exact .of_eq (by rw [h])

/-- A request of a new session has been checked. -/
def ChecksSink : QodOp → Prop
  | .createSession request _ _ _ _ => request.receiver.Checked
  | _ => True

variable {op : QodOp}

theorem tells_next (hm : m.AllChecked) (hfiled : m.Filed) (hop : ChecksSink op)
    (h : m.next op = some m') : m.Tells m' := by
  cases op with
  | createSession request sessionId now reply later =>
    cases h
    exact tells_createSession hm hfiled hop sessionId now reply later
  | extendSessionDuration sessionId additional consumer =>
    obtain rfl | ⟨session, t, -, -, -, -, rfl⟩ := next_extendSessionDuration_cases h <;>
      exact .of_eq rfl
  | deleteSession sessionId consumer reply now =>
    cases h
    exact tells_deleteSession hm sessionId consumer reply now
  | handlePcfSessionResponse q p success e now =>
    cases h
    exact tells_handlePcfSessionResponse hm q p success e now
  | handlePcfSessionTerminated p now =>
    cases h
    exact tells_handlePcfSessionTerminated hm p now
  | handlePduSessionTerminatedEvent supi pduSessionId order =>
    cases h
    exact tells_handlePduSessionTerminatedEvent hm hfiled supi pduSessionId order
  | cleanupExpiredSessions now =>
    cases h
    exact .of_eq rfl
  | stop =>
    cases h
    exact .of_eq rfl
  | ueOperation op =>
    obtain ⟨ue, -, rfl⟩ := Option.map_eq_some_iff.1 h
    exact .of_eq rfl

theorem AllChecked.next (hm : m.AllChecked) (hfiled : m.Filed) (hop : ChecksSink op)
    (h : m.next op = some m') : m'.AllChecked := by
  refine stored_next hfiled (P := fun _ session => session.receiver.Checked) h hm ?_
  intro id session hwrite
  cases hwrite with
  | requested hprepared | started _ hprepared | abandoned hprepared | rejected _ hprepared =>
    exact (congrArg Receiver.Checked (receiver_of_prepared hprepared)).mpr hop
  | extended hs | deleted hs | activated hs | failed hs => exact (hm _ _ hs :)

end QodSessionManager

end PhineAf

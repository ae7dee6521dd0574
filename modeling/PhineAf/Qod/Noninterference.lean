import PhineAf.Lib.Service
import PhineAf.Qod.Requests

/-!
# Noninterference of the API consumers

The requests that `QodHandler` serves, as messages (`QodMessage`). What a consumer is
answered does not depend on the requests of the others: if all of these are left out, the
replies to its own are the same (`QodRun.noninterference`). Its own creations are not among them,
since these may conflict with the sessions of other consumers.
-/

namespace PhineAf

open QodHandler

/-- A message to the handler, with the readings of the clock, the session id that is drawn and
    the reply of the PCF handler. -/
inductive QodMessage
  | createSession (context : QodRequestContext) (payload : String) (checked : ℤ)
      (sessionId : String) (now : ℤ) (reply : Option PcfReply) (later : ℤ)
  | getSession (context : QodRequestContext) (sessionId : String)
  | deleteSession (context : QodRequestContext) (sessionId : String) (reply : Option PcfReply)
      (now : ℤ)
  | extendSession (context : QodRequestContext) (sessionId payload : String)
  | retrieveSessions (context : QodRequestContext) (payload : String)

/-- The reply to a message. -/
inductive QodAnswer
  | created (reply : QodReply)
  | about (reply : Option SessionReply)
  | retrieved (reply : QodReply)

namespace QodMessage

/-- The consumer that sends a message. -/
def consumer : QodMessage → String
  | createSession context .. | getSession context _ | deleteSession context .. |
    extendSession context .. | retrieveSessions context _ => context.apiConsumerId

/-- The session id that is drawn for a message. -/
def drawnId : QodMessage → Option String
  | createSession _ _ _ sessionId .. => some sessionId
  | _ => none

/-- The PCF handler answers a creation as one, or not at all. -/
def Usual : QodMessage → Prop
  | createSession _ _ _ _ _ reply _ => ∀ payload, reply ≠ some ⟨.deleteAppSession, payload⟩
  | _ => True

end QodMessage

namespace QodAnswer

/-- The replies are the same, up to the order of the sessions that are retrieved. -/
def Same : QodAnswer → QodAnswer → Prop
  | retrieved (.success (.arr l) status correlationId),
    retrieved (.success (.arr l') status' correlationId') =>
    l.Perm l' ∧ status = status' ∧ correlationId = correlationId'
  | answer, answer' => answer = answer'

end QodAnswer

namespace QodHandler

variable (lib : Json.Library) (reader : CredentialReader) (format : ℤ → String)

/-- A message is handled. -/
def handle (m : QodSessionManager) : QodMessage → QodSessionManager × QodAnswer
  | .createSession context payload checked sessionId now reply later =>
    let (answer, m) :=
      handleCreateSession lib reader format m context payload checked sessionId now reply later
    (m, .created answer)
  | .getSession context sessionId =>
    (m, .about (some (handleGetSession format m context sessionId)))
  | .deleteSession context sessionId reply now =>
    let (answer, m) := handleDeleteSession m context sessionId reply now
    (m, .about (some answer))
  | .extendSession context sessionId payload =>
    let (answer, m) := handleExtendSession lib format m context sessionId payload
    (m, .about answer)
  | .retrieveSessions context payload =>
    (m, .retrieved (handleRetrieveSessions lib format m context payload))

/-- The request that is made for a message. -/
theorem apiConsumerId_of_readCreateRequest {lib : Json.Library} {reader : CredentialReader}
    {context : QodRequestContext} {payload : String} {now : ℤ} {request : CreateSessionRequest}
    (h : readCreateRequest lib reader context payload now = .ok request) :
    request.apiConsumerId = context.apiConsumerId := by
  rw [readCreateRequest] at h
  split at h
  · simp only [parseCreateRequest, Json.bind_eq_ok] at h
    obtain ⟨device, -, server, -, _, -, ports, -, serverPorts, -, profile, -, duration, -, _, -,
      sink, -, hrequest⟩ := h
    cases hrequest
    rfl
  · cases h

/-- A message leaves the manager as it is, or makes a request of its consumer. -/
theorem handle_cases (a : QodMessage) :
    (∀ m, (handle lib reader format m a).1 = m) ∨ ∃ request : ClientRequest,
      request.drawnId = a.drawnId ∧ (a.Usual → request.Usual) ∧
        ∀ m, (handle lib reader format m a).1 = (m.serve a.consumer request).2 := by
  cases a with
  | createSession context payload checked sessionId now reply later =>
    rcases hread : readCreateRequest lib reader context payload checked with e | request
    · refine .inl fun m => ?_
      simp only [handle, handleCreateSession, hread]
    · refine .inr ⟨.createSession request sessionId now reply later, rfl, id, fun m => ?_⟩
      have hconsumer := apiConsumerId_of_readCreateRequest hread
      simp only [handle, handleCreateSession, hread, QodSessionManager.serve,
        QodMessage.consumer, ← hconsumer]
  | getSession context sessionId => exact .inl fun _ => rfl
  | deleteSession context sessionId reply now =>
    by_cases hid : sessionId.isEmpty
    · refine .inl fun m => ?_
      simp only [handle, handleDeleteSession, hid, if_true]
    · refine .inr ⟨.deleteSession sessionId reply now, rfl, id, fun m => ?_⟩
      simp only [handle, handleDeleteSession, hid]
      rfl
  | extendSession context sessionId payload =>
    by_cases hid : sessionId = ""
    · refine .inl fun m => ?_
      rw [handle, handleExtendSession, hid]
      rfl
    · rcases hread : readExtendRequest lib payload with e | additional
      · refine .inl fun m => ?_
        rw [handle, handleExtendSession, if_neg (by simpa using hid), hread]
      · refine .inr ⟨.extendSessionDuration sessionId additional, rfl, id, fun m => ?_⟩
        rw [handle, handleExtendSession_of_read format m context hid hread]
        rfl
  | retrieveSessions context payload => exact .inl fun _ => rfl

end QodHandler

namespace QodSessionManager

variable {m m' : QodSessionManager} {consumer : String}

/-! ## The sessions of a consumer after a request -/

/-- The end of a deletion writes the session, if it succeeds. -/
theorem finishDelete_writes {sessionId : String} {session : QodSession}
    (hs : m.qod.getSessionById sessionId = some session) (hid : session.sessionId = sessionId)
    (now : ℤ) :
    ((m.finishDelete session now).1 = .ok true ∧ ∀ id,
        (m.finishDelete session now).2.qod.getSessionById id =
          if id = sessionId then some (deleted session now) else m.qod.getSessionById id) ∨
      (m.finishDelete session now).1 ≠ .ok true ∧ ∀ id,
        (m.finishDelete session now).2.qod.getSessionById id = m.qod.getSessionById id := by
  have hupdate : ∀ id, (m.qod.updateSession (deleted session now)).2.getSessionById id =
      if id = sessionId then some (deleted session now) else m.qod.getSessionById id := by
    intro id
    have hid' : (deleted session now).sessionId = sessionId := hid
    rw [← hid'] at hs
    rw [QodStore.getSessionById_updateSession_of_stored _ hs, hid']
  rw [finishDelete]
  rcases session.pduSessionId with _ | pduSessionId
  · exact .inl ⟨rfl, by simpa using hupdate⟩
  · rcases createOrGetUeKey (deleted session now) with e | _ | key
    · exact .inr ⟨by simp, fun _ => rfl⟩
    · exact .inr ⟨by simp, fun _ => rfl⟩
    · exact .inl ⟨rfl, by simpa using hupdate⟩

/-- A deletion writes the session of the consumer, if it succeeds. -/
theorem deleteSession_writes (hm : m.Filed) (sessionId consumer : String)
    (reply : Option PcfReply) (now : ℤ) :
    ((m.deleteSession sessionId consumer reply now).1 = .ok true ∧ ∃ session,
        m.getSession sessionId consumer = some session ∧ ∀ id,
          (m.deleteSession sessionId consumer reply now).2.qod.getSessionById id =
            if id = sessionId then some (deleted session now) else m.qod.getSessionById id) ∨
      (m.deleteSession sessionId consumer reply now).1 ≠ .ok true ∧ ∀ id,
        (m.deleteSession sessionId consumer reply now).2.qod.getSessionById id =
          m.qod.getSessionById id := by
  rw [deleteSession,
    show m.getSession sessionId consumer = m.deleteRequest sessionId consumer from rfl]
  rcases hrequest : m.deleteRequest sessionId consumer with _ | session
  · exact .inr ⟨by simp, fun _ => rfl⟩
  obtain ⟨hs, -⟩ := getSession_eq_some_iff.1 hrequest
  -- The end is the same whatever was said to the PCF, which touches no session.
  have hfinish : ∀ m' : QodSessionManager,
      (∀ id, m'.qod.getSessionById id = m.qod.getSessionById id) →
      ((m'.finishDelete session now).1 = .ok true ∧ ∃ s, some session = some s ∧ ∀ id,
        (m'.finishDelete session now).2.qod.getSessionById id =
          if id = sessionId then some (deleted s now) else m.qod.getSessionById id) ∨
      (m'.finishDelete session now).1 ≠ .ok true ∧ ∀ id,
        (m'.finishDelete session now).2.qod.getSessionById id = m.qod.getSessionById id := by
    intro m' hm'
    obtain ⟨htrue, hwrites⟩ | ⟨hfalse, hkeeps⟩ :=
      finishDelete_writes ((hm' sessionId).trans hs) (hm _ _ hs) now
    · exact .inl ⟨htrue, session, rfl, fun id => by rw [hwrites, hm']⟩
    · exact .inr ⟨hfalse, fun id => (hkeeps id).trans (hm' id)⟩
  dsimp only
  rcases pcfSessionOf session with _ | p
  · exact hfinish m fun _ => rfl
  · dsimp only
    rw [removeReply_eq]
    split_ifs
    · rcases PcfAnswer.of reply with p' | p' | e | _
      · exact .inr ⟨by simp, fun _ => rfl⟩
      · exact hfinish _ fun id => QodStore.getSessionById_removePcfToQodSessionMapping ..
      · exact .inr ⟨by simp, fun _ => rfl⟩
      · exact .inr ⟨by simp, fun _ => rfl⟩
    · exact .inr ⟨by simp, fun _ => rfl⟩

/-- What is written under the id of a session of the consumer, in both states. -/
theorem AgreeOn.write (h : AgreeOn consumer m m') {m₁ m₁' : QodSessionManager} {sessionId : String}
    {session : QodSession} (hm₁ : ∀ id, m₁.qod.getSessionById id =
      if id = sessionId then some session else m.qod.getSessionById id)
    (hm₁' : ∀ id, m₁'.qod.getSessionById id =
      if id = sessionId then some session else m'.qod.getSessionById id) :
    AgreeOn consumer m₁ m₁' := by
  intro id s hs
  rw [hm₁, hm₁']
  split_ifs
  · exact Iff.rfl
  · exact h id s hs

theorem AgreeOn.congr (h : AgreeOn consumer m m') {m₁ m₁' : QodSessionManager}
    (hm₁ : ∀ id, m₁.qod.getSessionById id = m.qod.getSessionById id)
    (hm₁' : ∀ id, m₁'.qod.getSessionById id = m'.qod.getSessionById id) :
    AgreeOn consumer m₁ m₁' := by
  intro id s hs
  rw [hm₁, hm₁']
  exact h id s hs

/-- A request of the consumer that creates nothing does the same to its sessions. -/
theorem AgreeOn.serve_after (h : AgreeOn consumer m m') (hsetup : m.setup = m'.setup)
    (hm : m.Filed) (hm' : m'.Filed) {request : ClientRequest} (hcreate : request.drawnId = none) :
    AgreeOn consumer (m.serve consumer request).2 (m'.serve consumer request).2 := by
  cases request with
  | createSession request sessionId now reply later => cases hcreate
  | getSession sessionId => exact h
  | retrieveSessionsByDevice device => exact h
  | deleteSession sessionId reply now =>
    have hresult := h.deleteSession hsetup sessionId reply now
    obtain ⟨htrue, session, hs, hwrites⟩ | ⟨hfalse, hkeeps⟩ :=
      deleteSession_writes hm sessionId consumer reply now <;>
    obtain ⟨htrue', session', hs', hwrites'⟩ | ⟨hfalse', hkeeps'⟩ :=
      deleteSession_writes hm' sessionId consumer reply now
    · rw [h.getSession] at hs
      obtain rfl := Option.some.inj (hs.symm.trans hs')
      exact h.write hwrites hwrites'
    · exact absurd (hresult.symm.trans htrue) hfalse'
    · exact absurd (hresult.trans htrue') hfalse
    · exact h.congr hkeeps hkeeps'
  | extendSessionDuration sessionId additional =>
    simp only [QodSessionManager.serve, extendSessionDuration_eq]
    rcases hs : m.getSession sessionId consumer with _ | session
    · rw [← h.getSession, hs]
      exact h
    · have hs' : m'.getSession sessionId consumer = some session := by rw [← h.getSession, hs]
      rw [hs']
      dsimp only
      split_ifs
      · exact h
      · rcases session.startedAt with _ | t
        · exact h
        · have hextended : m'.extended session additional t = m.extended session additional t := by
            rw [extended, extended, extendedDuration, extendedDuration, getMaxDurationForProfile,
              getMaxDurationForProfile,
              show m.config = m'.config from congrArg Setup.config hsetup]
          refine AgreeOn.write h (fun id => getSessionById_extended hm
            (getSession_eq_some_iff.1 hs).1 additional t id) fun id => ?_
          dsimp only
          rw [getSessionById_extended hm' (getSession_eq_some_iff.1 hs').1, hextended]

/-- What a request leaves is what an operation leaves, which draws the same id. -/
theorem serve_next (m : QodSessionManager) (consumer : String) (request : ClientRequest) :
    (m.serve consumer request).2 = m ∨ ∃ op : QodOp, op.drawnId = request.drawnId ∧
      m.next op = some (m.serve consumer request).2 := by
  cases request with
  | createSession request sessionId now reply later =>
    exact .inr ⟨.createSession { request with apiConsumerId := consumer } sessionId now reply later,
      rfl, rfl⟩
  | getSession sessionId => exact .inl rfl
  | deleteSession sessionId reply now =>
    exact .inr ⟨.deleteSession sessionId consumer reply now, rfl, rfl⟩
  | extendSessionDuration sessionId additional =>
    rcases hextend : m.extendSessionDuration sessionId additional consumer with ⟨e | result, m'⟩
    · refine .inl ?_
      simp only [serve, extendSessionDuration_eq] at hextend ⊢
      rcases hs : m.getSession sessionId consumer with _ | session
      · rfl
      · rw [hs] at hextend
        dsimp only at hextend ⊢
        split_ifs at hextend ⊢
        · rfl
        · rcases hstart : session.startedAt with _ | t
          · rfl
          · rw [hstart] at hextend
            cases hextend
    · refine .inr ⟨.extendSessionDuration sessionId additional consumer, rfl, ?_⟩
      simp only [next, serve, hextend]
  | retrieveSessionsByDevice device => exact .inl rfl

end QodSessionManager

/-! ## Leaving out the others -/

namespace QodRun

open QodSessionManager

variable {lib : Json.Library} {reader : CredentialReader} {format : ℤ → String}

/-- The ids that are drawn for messages. -/
def drawnIds (messages : List QodMessage) : List String := messages.filterMap (·.drawnId)

/-- A reachable state in which the ids that are drawn for messages are new. -/
def ReadyFor (messages : List QodMessage) (m : QodSessionManager) : Prop :=
  ∃ r, qodSystem.Reachable r ∧ r.manager = m ∧ ∀ id ∈ drawnIds messages, id ∉ r.drawn

variable {a : QodMessage} {messages : List QodMessage} {m m' : QodSessionManager}

theorem ReadyFor.filed (h : ReadyFor messages m) : m.Filed := by
  obtain ⟨r, hr, rfl, -⟩ := h
  exact (filed_of_reachable hr).1

theorem ReadyFor.fresh (h : ReadyFor (a :: messages) m) {id : String} (hid : a.drawnId = some id) :
    m.qod.getSessionById id = none := by
  obtain ⟨r, hr, rfl, hnew⟩ := h
  rw [Option.eq_none_iff_forall_ne_some]
  intro session hs
  refine hnew id ?_ ((filed_of_reachable hr).2 id session hs)
  rw [drawnIds, List.filterMap_cons_some hid]
  exact List.mem_cons_self

theorem nodup_of_cons (h : (drawnIds (a :: messages)).Nodup) : (drawnIds messages).Nodup := by
  rw [drawnIds, List.filterMap_cons] at h
  split at h
  · exact h
  · exact (List.nodup_cons.1 h).2

/-- A message that is not handled draws no id. -/
theorem ReadyFor.skip (h : ReadyFor (a :: messages) m) : ReadyFor messages m := by
  obtain ⟨r, hr, rfl, hnew⟩ := h
  refine ⟨r, hr, rfl, fun id hid => hnew id ?_⟩
  rw [drawnIds, List.filterMap_cons]
  split
  · exact hid
  · exact List.mem_cons_of_mem _ hid

variable (lib reader format) in
theorem ReadyFor.handle (h : ReadyFor (a :: messages) m)
    (hnodup : (drawnIds (a :: messages)).Nodup) :
    ReadyFor messages (QodHandler.handle lib reader format m a).1 ∧
      (QodHandler.handle lib reader format m a).1.setup = m.setup := by
  rcases QodHandler.handle_cases lib reader format a with hsame | ⟨request, hdrawn, -, hserve⟩
  · rw [hsame]
    exact ⟨h.skip, rfl⟩
  rw [hserve]
  rcases serve_next m a.consumer request with hsame | ⟨op, hop, hnext⟩
  · rw [hsame]
    exact ⟨h.skip, rfl⟩
  refine ⟨?_, setup_next hnext⟩
  obtain ⟨r, hr, rfl, hnew⟩ := h
  have hids : drawnIds (a :: messages) = op.drawnId.toList ++ drawnIds messages := by
    rw [hop, hdrawn, drawnIds, drawnIds, List.filterMap_cons]
    cases a.drawnId <;> rfl
  rw [hids] at hnew hnodup
  have hrun : r.next op = some ⟨(r.manager.serve a.consumer request).2,
      op.drawnId.toList ++ r.drawn⟩ := by
    rw [next, if_neg, hnext]
    · rfl
    · rw [Option.any_eq_true]
      rintro ⟨id, hid, hmem⟩
      exact hnew id (List.mem_append_left _ (by simp [hid])) (by simpa using hmem)
  refine ⟨_, hr.step hrun, rfl, fun id hid hmem => ?_⟩
  rcases List.mem_append.1 hmem with hmem | hmem
  · exact (List.nodup_append.1 hnodup).2.2 id hmem id hid rfl
  · exact hnew id (List.mem_append_right _ hid) hmem

/-- Messages of a consumer that create nothing are answered in the same way in two states with
    the same sessions of the consumer. -/
theorem handle_same {consumer : String} (h : AgreeOn consumer m m') (hsetup : m.setup = m'.setup)
    (hm : m.Filed) (hm' : m'.Filed) (ha : a.consumer = consumer) (hcreate : a.drawnId = none) :
    QodAnswer.Same (QodHandler.handle lib reader format m a).2
      (QodHandler.handle lib reader format m' a).2 := by
  subst ha
  cases a with
  | createSession context payload checked sessionId now reply later => cases hcreate
  | getSession context sessionId =>
    have hget := h.getSession sessionId
    simp only [QodMessage.consumer] at hget
    simp only [handle, handleGetSession, hget, QodAnswer.Same]
  | deleteSession context sessionId reply now =>
    have hdelete := h.deleteSession hsetup sessionId reply now
    simp only [QodMessage.consumer] at hdelete
    simp only [handle, handleDeleteSession, QodAnswer.Same]
    split_ifs
    · rfl
    · simp only [hdelete]
  | extendSession context sessionId payload =>
    by_cases hid : sessionId = ""
    · rw [handle, handle, handleExtendSession, handleExtendSession, hid]
      rfl
    rcases hread : readExtendRequest lib payload with e | additional
    · simp only [handle, handleExtendSession, hread, QodAnswer.Same]
      split_ifs <;> rfl
    · have hextend := h.extendSessionDuration hsetup sessionId additional
      have hafter := h.serve_after hsetup hm hm'
        (rfl : (ClientRequest.extendSessionDuration sessionId additional).drawnId = none)
      have hget := hafter.getSession sessionId
      simp only [QodMessage.consumer, serve] at hextend hget
      simp only [handle, handleExtendSession_of_read format _ context hid hread, QodAnswer.Same,
        hextend, extendReply, hget]
  | retrieveSessions context payload =>
    simp only [handle, handleRetrieveSessions]
    rcases readRetrieveRequest lib context payload with e | device
    · rfl
    · exact ⟨(h.retrieve device).map _, rfl, rfl⟩

variable (lib reader format) in
/-- The replies to a consumer. -/
def repliesTo (consumer : String) (m : QodSessionManager) (messages : List QodMessage) :
    List QodAnswer :=
  (Service.answers (fun m a =>
    ((handle lib reader format m a).1, (a.consumer, (handle lib reader format m a).2)))
      m messages).filterMap fun answer => if answer.1 = consumer then some answer.2 else none

variable (lib reader format) in
/-- The replies to a consumer that creates no session are the same without the messages of all
    other consumers. -/
theorem noninterference {r : QodRun} (hr : qodSystem.Reachable r) (consumer : String)
    (messages : List QodMessage) (hnodup : (drawnIds messages).Nodup)
    (hfresh : ∀ id ∈ drawnIds messages, id ∉ r.drawn) (husual : ∀ a ∈ messages, a.Usual)
    (hcreate : ∀ a ∈ messages, a.consumer = consumer → a.drawnId = none) :
    List.Forall₂ QodAnswer.Same (repliesTo lib reader format consumer r.manager messages)
      (repliesTo lib reader format consumer r.manager
        (messages.filter fun a => a.consumer = consumer)) := by
  refine Service.observed_forall₂ (R := fun messages m m' =>
    AgreeOn consumer m m' ∧ m.setup = m'.setup ∧ ReadyFor messages m ∧ ReadyFor messages m' ∧
      (drawnIds messages).Nodup ∧ (∀ a ∈ messages, a.Usual) ∧
      ∀ a ∈ messages, a.consumer = consumer → a.drawnId = none) ?_ ?_ ?_
  · rintro a messages m m' ⟨hagree, hsetup, hm, hm', hnodup, husual, hcreate⟩ hkeep
    have ha : a.consumer = consumer := of_decide_eq_true hkeep
    have hnone := hcreate a List.mem_cons_self ha
    obtain ⟨hready, hsetup₁⟩ := hm.handle lib reader format hnodup
    obtain ⟨hready', hsetup₁'⟩ :=
      hm'.handle lib reader format hnodup
    rw [if_pos ha, if_pos ha]
    refine ⟨⟨?_, ?_, hready, hready', nodup_of_cons hnodup, fun b hb => husual b (.tail _ hb),
      fun b hb => hcreate b (.tail _ hb)⟩, .some ?_⟩
    · rcases handle_cases lib reader format a with hsame | ⟨request, hdrawn, -, hserve⟩
      · rw [hsame, hsame]
        exact hagree
      · rw [hserve, hserve, ha]
        exact hagree.serve_after hsetup hm.filed hm'.filed (hdrawn.trans hnone)
    · exact hsetup₁.trans (hsetup.trans hsetup₁'.symm)
    · exact handle_same hagree hsetup hm.filed hm'.filed ha hnone
  · rintro a messages m m' ⟨hagree, hsetup, hm, hm', hnodup, husual, hcreate⟩ hdrop
    have ha : a.consumer ≠ consumer := of_decide_eq_false hdrop
    obtain ⟨hready, hsetup₁⟩ := hm.handle lib reader format hnodup
    refine ⟨⟨?_, hsetup₁.trans hsetup, hready, hm'.skip, nodup_of_cons hnodup,
      fun b hb => husual b (.tail _ hb), fun b hb => hcreate b (.tail _ hb)⟩, if_neg ha⟩
    -- The message of another consumer leaves the sessions of this one as they are.
    rcases handle_cases lib reader format a with hsame | ⟨request, hdrawn, hrequest, hserve⟩
    · rw [hsame]
      exact hagree
    · rw [hserve]
      intro id session hsession
      rw [getSessionById_serve_iff hm.filed (fun id hid => hm.fresh (hdrawn ▸ hid))
        (hrequest (husual a List.mem_cons_self)) id (by rw [hsession]; exact Ne.symm ha)]
      exact hagree id session hsession
  · exact ⟨fun _ _ _ => Iff.rfl, rfl, ⟨r, hr, rfl, hfresh⟩, ⟨r, hr, rfl, hfresh⟩, hnodup, husual,
      hcreate⟩

/-- One consumer extends its session and asks for all it has, while another one tries to delete
    it and creates a session of its own. -/
def twoConsumers : List QodMessage :=
  let consumer : QodRequestContext := ⟨"consumer-a", "correlation-a", true⟩
  let other : QodRequestContext := ⟨"consumer-b", "correlation-b", true⟩
  [.deleteSession other "session-1" (some (.removed "pcf-1")) 2,
    .extendSession consumer "session-1" minuteText,
    .createSession other minuteText 3 "session-2" 3 (some (.created "pcf-2")) 4,
    .getSession other "session-1", .retrieveSessions consumer ""]

theorem noninterference_twoConsumers : ∃ r, qodSystem.Reachable r ∧
    (∃ session, r.manager.getSession "session-1" "consumer-a" = some session) ∧
    List.Forall₂ QodAnswer.Same
      (repliesTo minuteLibrary ⟨⟨.plain, none, none, none, none, none, none, none⟩, fun _ => 0⟩
        toString "consumer-a" r.manager twoConsumers)
      (repliesTo minuteLibrary ⟨⟨.plain, none, none, none, none, none, none, none⟩, fun _ => 0⟩
        toString "consumer-a" r.manager
        (twoConsumers.filter fun a => a.consumer = "consumer-a")) := by
  have h₀ : qodSystem.Reachable initial := .init ⟨_, _, _, _, rfl⟩
  have h₁ := h₀.step (a := QodOp.createSession (phoneSession "consumer-a") "session-1" 0
    (some (.created "pcf-1")) 1) rfl
  refine ⟨_, h₁, ⟨_, rfl⟩, noninterference minuteLibrary _ toString h₁ "consumer-a" twoConsumers
    (by decide) (by decide) (fun a ha => ?_) fun a ha hconsumer => ?_⟩
  · simp only [twoConsumers, List.mem_cons, List.not_mem_nil, or_false] at ha
    rcases ha with rfl | rfl | rfl | rfl | rfl
    · trivial
    · trivial
    · exact fun payload h => by cases h
    · trivial
    · trivial
  · simp only [twoConsumers, List.mem_cons, List.not_mem_nil, or_false] at ha
    rcases ha with rfl | rfl | rfl | rfl | rfl
    · rfl
    · rfl
    · exact absurd hconsumer (by decide)
    · rfl
    · rfl

end QodRun

end PhineAf

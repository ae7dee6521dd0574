import PhineAf.Qod.Extension
import PhineAf.Qod.Handler
import PhineAf.Qod.Isolation

/-!
# Requests about one session

`QodHandler::handle_get_session`, `handle_delete_session` and `handle_extend_session`, for
the session id that `extract_session_id` has read off a message.

An extension that is too long is capped, and one that is refused is that of a session that
is not there, or not available any more: the reply that it would exceed the maximum is
never given (`QodSessionManager.extended_of_reached`).
-/

namespace PhineAf

/-- The error codes of the requests about one session. -/
inductive SessionErrorCode
  | invalidArgument
  | outOfRange
  | notFound
  | durationOutOfRange
  | sessionExtensionNotAllowed
  | internalError
  deriving DecidableEq, Repr

/-- The arguments of `create_error_response`. -/
structure SessionErrorReply where
  status : ℤ
  code : SessionErrorCode
  message : String
  deriving DecidableEq, Repr

/-- A reply to a request about one session, with the correlation id. -/
inductive SessionReply
  | error (e : SessionErrorReply) (correlationId : String)
  /-- The session, with the status 200. -/
  | session (data : Json) (correlationId : String)
  /-- No content, with the status 204. -/
  | deleted (correlationId : String)

namespace QodHandler

/-- The reply to a request without a session id. -/
def sessionIdRequired : SessionErrorReply := ⟨400, .invalidArgument, "Session ID is required"⟩

/-- The reply to a request about a session that the consumer does not have. -/
def sessionNotFound : SessionErrorReply := ⟨404, .notFound, "Session not found"⟩

/-- The reply with a session: its device is included if the consumer may see one. -/
def sessionReply (format : ℤ → String) (context : QodRequestContext) (session : QodSession) :
    SessionReply :=
  .session
    (sessionToJson format session (session.device.isSome && session.deviceResponse.isSome))
    context.correlationId

/-- `handle_get_session`. -/
def handleGetSession (format : ℤ → String) (m : QodSessionManager) (context : QodRequestContext)
    (sessionId : String) : SessionReply :=
  if sessionId.isEmpty then .error sessionIdRequired context.correlationId
  else match m.getSession sessionId context.apiConsumerId with
    | none => .error sessionNotFound context.correlationId
    | some session => sessionReply format context session

/-- The reply of `handle_delete_session` to the result of `delete_session`. -/
def deleteReply (context : QodRequestContext) : Except Exn Bool → SessionReply
  | .ok true => .deleted context.correlationId
  | .ok false => .error ⟨400, .notFound, "Session deletion failed"⟩ context.correlationId
  | .error _ => .error ⟨500, .internalError, "Internal server error"⟩ context.correlationId

/-- `handle_delete_session`. -/
def handleDeleteSession (m : QodSessionManager) (context : QodRequestContext) (sessionId : String)
    (reply : Option PcfReply) (now : ℤ) : SessionReply × QodSessionManager :=
  if sessionId.isEmpty then (.error sessionIdRequired context.correlationId, m)
  else
    let (result, m) := m.deleteSession sessionId context.apiConsumerId reply now
    (deleteReply context result, m)

/-- The seconds that the body of `handle_extend_session` asks for. -/
def readExtendRequest (lib : Json.Library) (payload : String) : Except SessionErrorReply ℤ :=
  match lib.parse payload with
  | .error _ => .error ⟨400, .invalidArgument, "Invalid JSON in request body"⟩
  | .ok json =>
    match json.find? "requestedAdditionalDuration" with
    | none => .error ⟨400, .invalidArgument, "requestedAdditionalDuration is required"⟩
    | some v =>
      match v.getInt32 with
      | .error _ => .error ⟨500, .internalError, "Internal server error"⟩
      | .ok additional =>
        if additional < 1 then .error
          ⟨400, .outOfRange, "requestedAdditionalDuration must be at least 1 second"⟩
        else .ok additional

/-- Why `extend_session_duration` has refused to extend a session. -/
def refusedExtension : Option QodSession → SessionErrorReply
  | none => sessionNotFound
  | some existing =>
    if existing.qosStatus ≠ .available then
      ⟨409, .sessionExtensionNotAllowed,
        "Extending the session duration is not allowed in the current state (" ++
          qosStatusToString existing.qosStatus ++
          "). The session must be in the AVAILABLE state."⟩
    else ⟨400, .durationOutOfRange, "Extension would exceed maximum duration for QoS profile"⟩

/-- The reply of `handle_extend_session` to the result of `extend_session_duration`. There is
    none after the start time of a requested session has been read, which is undefined. -/
def extendReply (format : ℤ → String) (m : QodSessionManager) (context : QodRequestContext)
    (sessionId : String) : Except Exn (Option QodSession) → Option SessionReply
  | .ok (some session) => some (sessionReply format context session)
  | .ok none => some (.error (refusedExtension (m.getSession sessionId context.apiConsumerId))
      context.correlationId)
  | .error _ => none

/-- `handle_extend_session`. -/
def handleExtendSession (lib : Json.Library) (format : ℤ → String) (m : QodSessionManager)
    (context : QodRequestContext) (sessionId payload : String) :
    Option SessionReply × QodSessionManager :=
  if sessionId.isEmpty then (some (.error sessionIdRequired context.correlationId), m)
  else match readExtendRequest lib payload with
    | .error e => (some (.error e context.correlationId), m)
    | .ok additional =>
      let (result, m) := m.extendSessionDuration sessionId additional context.apiConsumerId
      (extendReply format m context sessionId result, m)

/-- A request for an extension that can be read is served. -/
theorem handleExtendSession_of_read {lib : Json.Library} (format : ℤ → String)
    (m : QodSessionManager) (context : QodRequestContext) {sessionId payload : String}
    {additional : ℤ} (hid : sessionId ≠ "")
    (hread : readExtendRequest lib payload = .ok additional) :
    handleExtendSession lib format m context sessionId payload =
      (extendReply format (m.extendSessionDuration sessionId additional context.apiConsumerId).2
        context sessionId (m.extendSessionDuration sessionId additional context.apiConsumerId).1,
      (m.extendSessionDuration sessionId additional context.apiConsumerId).2) := by
  rw [handleExtendSession, if_neg (by simpa using hid), hread]

end QodHandler

namespace QodSessionManager

open QodHandler

variable {m : QodSessionManager}

theorem Reached.filed (hm : m.Reached) : m.Filed := by
  rcases hm with ⟨r, hr, rfl⟩ | ⟨x, hx, rfl⟩
  · exact (QodRun.filed_of_reachable hr).1
  · exact (Exchange.clocked_of_reachable hx).1

/-- The reply to an extension that can be read, in every reachable state. An available session
    of the consumer is extended, and stored so, by what is asked for, but not beyond the
    maximum of its profile, from the start that it had. If the consumer has no such session,
    the reply is 404, and if the session is unavailable, 409; nothing is changed then. There
    is no other reply: for a requested session, the extension is undefined. -/
theorem extended_of_reached (hm : m.Reached) (lib : Json.Library) (format : ℤ → String)
    (context : QodRequestContext) {sessionId payload : String} {additional : ℤ}
    (hid : sessionId ≠ "") (hread : readExtendRequest lib payload = .ok additional) :
    (∃ session t, m.getSession sessionId context.apiConsumerId = some session ∧
        session.qosStatus = .available ∧ session.startedAt = some t ∧
        (handleExtendSession lib format m context sessionId payload).1 =
          some (sessionReply format context (m.extended session additional t)) ∧
        ∀ id, (handleExtendSession lib format m context sessionId payload).2.qod.getSessionById id =
          if id = sessionId then some (m.extended session additional t)
          else m.qod.getSessionById id) ∨
      (m.getSession sessionId context.apiConsumerId = none ∧
        handleExtendSession lib format m context sessionId payload =
          (some (.error ⟨404, .notFound, "Session not found"⟩ context.correlationId), m)) ∨
      (∃ session message, m.getSession sessionId context.apiConsumerId = some session ∧
        session.qosStatus = .unavailable ∧
        handleExtendSession lib format m context sessionId payload =
          (some (.error ⟨409, .sessionExtensionNotAllowed, message⟩ context.correlationId), m)) ∨
      ∃ session, m.getSession sessionId context.apiConsumerId = some session ∧
        session.qosStatus = .requested ∧
        handleExtendSession lib format m context sessionId payload = (none, m) := by
  rw [handleExtendSession_of_read format _ context hid hread, extendSessionDuration_eq]
  rcases hget : m.getSession sessionId context.apiConsumerId with _ | session
  · refine .inr (.inl ⟨rfl, ?_⟩)
    dsimp only
    rw [extendReply, hget]
    rfl
  obtain ⟨hs, -⟩ := getSession_eq_some_iff.1 hget
  have hclocked := hm.clocked sessionId session hs
  dsimp only
  cases hstatus : session.qosStatus with
  | requested =>
    refine .inr (.inr (.inr ⟨session, rfl, hstatus, ?_⟩))
    rw [if_neg (by simp), hclocked.requested hstatus]
    rfl
  | available =>
    obtain ⟨t, ht⟩ := Option.isSome_iff_exists.1 (hclocked.available hstatus)
    refine .inl ⟨session, t, rfl, hstatus, ht, ?_, fun id => ?_⟩
    · rw [if_neg (by simp), ht]
      rfl
    · rw [if_neg (by simp), ht]
      exact getSessionById_extended hm.filed hs additional t id
  | unavailable =>
    refine .inr (.inr (.inl ⟨session, (refusedExtension (some session)).message, rfl, hstatus, ?_⟩))
    rw [if_pos rfl]
    dsimp only
    rw [extendReply, hget]
    simp only [refusedExtension, hstatus]
    rfl

/-- The body of a request for one more minute. -/
def minuteText : String := "\x7b\"requestedAdditionalDuration\":60\x7d"

/-- A library that knows this text. -/
def minuteLibrary : Json.Library where
  dump _ := minuteText
  parse s :=
    if s = minuteText then .ok (.obj [("requestedAdditionalDuration", .int 60)])
    else .error "parse error"
  what _ := ""

/-- A session of ten minutes is extended by one. -/
theorem extended_minute : ∃ (m : QodSessionManager) (session : QodSession), m.Reached ∧
    session.duration = 660 ∧
    (handleExtendSession minuteLibrary toString m ⟨"consumer", "correlation-1", false⟩ "session-1"
        minuteText).1 =
      some (sessionReply toString ⟨"consumer", "correlation-1", false⟩ session) := by
  have h₀ : qodSystem.Reachable QodRun.initial := .init ⟨_, _, _, _, rfl⟩
  have h₁ := h₀.step (a := QodOp.createSession (QodRun.phoneSession "consumer") "session-1" 0
    (some (.created "pcf-1")) 1) rfl
  obtain ⟨session, t, hget, -, -, hreply, -⟩ | ⟨hnone, -⟩ | ⟨session, -, hget, hstatus, -⟩ |
      ⟨session, hget, hstatus, -⟩ :=
    extended_of_reached (.inl ⟨_, h₁, rfl⟩) minuteLibrary toString
      ⟨"consumer", "correlation-1", false⟩ (by decide : "session-1" ≠ "")
      (by decide : readExtendRequest minuteLibrary minuteText = .ok 60)
  · obtain rfl := Option.some.inj hget
    exact ⟨_, _, .inl ⟨_, h₁, rfl⟩, rfl, hreply⟩
  · cases hnone
  · obtain rfl := Option.some.inj hget
    cases hstatus
  · obtain rfl := Option.some.inj hget
    cases hstatus

end QodSessionManager

end PhineAf

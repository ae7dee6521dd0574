import PhineAf.Core.Router
import PhineAf.Qod.Noninterference

/-!
# The replies of the QoD handler as messages

The replies are made of the arguments of `create_error_response` and
`create_success_response`, which are left open (`ServiceHandlerHelpers`): an error is written
as an object with its status, its code and its message, and data as themselves, and the status
is in the metadata (`QodAnswer.Documented`). The reply to a deletion is made by the handler
itself.

Whatever is asked for, the answer is of one of a few forms (`written_handle`).
-/

namespace PhineAf

/-- The replies the common library makes, and the texts of the error codes. -/
structure ServiceHandlerHelpers where
  createErrorResponse (status : ℤ) (code message correlationId : String) : Reply
  createSuccessResponse (data : Json) (status : ℤ) (correlationId : String) : Reply
  errorText : ErrorCode → String
  sessionErrorText : SessionErrorCode → String

namespace ServiceHandlerHelpers

/-- An error is an object with its status, its code and its message; its status is in the
    metadata. -/
structure WritesError (helpers : ServiceHandlerHelpers) (lib : Json.Library) (status : ℤ)
    (code message correlationId : String) : Prop where
  payload_ne : (helpers.createErrorResponse status code message correlationId).payload ≠ ""
  parse : lib.parse (helpers.createErrorResponse status code message correlationId).payload =
    .ok (.obj [("status", .int status), ("code", .str code), ("message", .str message)])
  status : (helpers.createErrorResponse status code message correlationId).metadata.lookup
    "status" = some (toString status)

/-- Data are written as themselves, and can be read; their status is in the metadata. -/
structure WritesData (helpers : ServiceHandlerHelpers) (lib : Json.Library) (data : Json)
    (status : ℤ) (correlationId : String) : Prop where
  payload : (helpers.createSuccessResponse data status correlationId).payload = lib.dump data
  lossless : lib.Lossless data
  status : (helpers.createSuccessResponse data status correlationId).metadata.lookup "status" =
    some (toString status)

end ServiceHandlerHelpers

variable (helpers : ServiceHandlerHelpers)

/-- The message of a reply. -/
def QodReply.toReply : QodReply → Reply
  | error e correlationId =>
    helpers.createErrorResponse e.status (helpers.errorText e.code) e.message correlationId
  | success data status correlationId => helpers.createSuccessResponse data status correlationId

/-- The message of a reply about a session. -/
def SessionReply.toReply : SessionReply → Reply
  | error e correlationId =>
    helpers.createErrorResponse e.status (helpers.sessionErrorText e.code) e.message correlationId
  | session data correlationId => helpers.createSuccessResponse data 200 correlationId
  | deleted correlationId =>
    { messageType := "qod_delete_session_response", correlationId, payload := ""
      metadata := (∅ : Table String String).insertAll
        [("http_status", "204"), ("x-correlator", correlationId)] }

/-- The message of an answer, if there is one. -/
def QodAnswer.toReply : QodAnswer → Option Reply
  | created reply | retrieved reply => some (reply.toReply helpers)
  | about reply => reply.map (·.toReply helpers)

/-- The message of an answer is what the common library promises. -/
def QodAnswer.Documented (lib : Json.Library) : QodAnswer → Prop
  | created (.error e correlationId) | retrieved (.error e correlationId) =>
    helpers.WritesError lib e.status (helpers.errorText e.code) e.message correlationId
  | about (some (.error e correlationId)) =>
    helpers.WritesError lib e.status (helpers.sessionErrorText e.code) e.message correlationId
  | created (.success data status correlationId) | retrieved (.success data status correlationId) =>
    helpers.WritesData lib data status correlationId
  | about (some (.session data correlationId)) => helpers.WritesData lib data 200 correlationId
  | about (some (.deleted _)) | about none => True

namespace QodHandler

variable {lib : Json.Library} {reader : CredentialReader} {format : ℤ → String}

/-! ## The statuses -/

/-- The statuses of errors. -/
def errorStatuses : List ℕ := [400, 404, 409, 422, 500]

/-- What ends in an error ends in one with such a status. -/
def Sound {α : Type} (r : Except ErrorReply α) : Prop :=
  ∀ e, r = .error e → ∃ status ∈ errorStatuses, e.status = status

theorem Sound.ok {α : Type} (a : α) : Sound (.ok a : Except ErrorReply α) := nofun

theorem Sound.error {α : Type} (status : ℕ) (h : status ∈ errorStatuses) (code : ErrorCode)
    (message : String) : Sound (.error ⟨status, code, message⟩ : Except ErrorReply α) := by
  intro e he
  cases he
  exact ⟨status, h, rfl⟩

theorem Sound.bind {α β : Type} {r : Except ErrorReply α} {f : α → Except ErrorReply β}
    (hr : Sound r) (hf : ∀ a, Sound (f a)) : Sound (r >>= f) := by
  rcases r with e | a
  · intro e' he
    cases he
    exact hr e rfl
  · exact hf a

theorem sound_read {α : Type} (r : Except Json.Error α) : Sound (read r) := by
  rcases r with e | a
  · exact .error 500 (by decide) _ _
  · exact .ok a

theorem sound_check (status : ℕ) (h : status ∈ errorStatuses) (error : Option String)
    (code : ErrorCode) : Sound (check error status code) := by
  rcases error with _ | message
  · exact .ok ()
  · exact .error status h _ _

theorem sound_required {α : Type} (r : Except Json.Error (Option α)) (message : String) :
    Sound (required r message) := by
  refine (sound_read r).bind fun o => ?_
  rcases o with _ | a
  · exact .error 400 (by decide) _ _
  · exact .ok a

theorem sound_readCreateRequest (lib : Json.Library) (reader : CredentialReader)
    (context : QodRequestContext) (payload : String) (now : ℤ) :
    Sound (readCreateRequest lib reader context payload now) := by
  have hports : ∀ json key, Sound (createPorts json key) := fun json key =>
    (sound_read _).bind fun ports => (sound_check 400 (by decide) _ _).bind fun _ => .ok _
  rw [readCreateRequest]
  split
  next json _ =>
    refine Sound.bind ?_ fun device => (sound_required _ _).bind fun server =>
      (sound_check 400 (by decide) _ _).bind fun _ => (hports _ _).bind fun _ =>
      (hports _ _).bind fun _ => (sound_required _ _).bind fun _ =>
      (sound_required _ _).bind fun _ =>
      (sound_check 400 (by decide) _ _).bind fun _ => Sound.bind ?_ fun _ => .ok _
    · rw [createDevice]
      split
      · exact (sound_read _).bind fun device =>
          (sound_check 422 (by decide) _ _).bind fun _ => .ok _
      · split
        · exact .ok _
        · exact .error 422 (by decide) _ _
    · refine (sound_read _).bind fun sink => ?_
      rcases sink with _ | sink
      · exact .ok _
      · exact (sound_read _).bind fun _ =>
          (sound_check 400 (by decide) _ _).bind fun _ => .ok _
  next => exact .error 400 (by decide) _ _

theorem sound_readRetrieveRequest (lib : Json.Library) (context : QodRequestContext)
    (payload : String) : Sound (readRetrieveRequest lib context payload) := by
  rw [readRetrieveRequest]
  split
  · split
    · exact .ok _
    · exact .error 422 (by decide) _ _
  · split
    · exact .error 400 (by decide) _ _
    · split
      · exact (sound_read _).bind fun device =>
          (sound_check 422 (by decide) _ _).bind fun _ => .ok _
      · exact .ok _

/-- The body of a request for an extension is refused with such a status. -/
theorem sound_readExtendRequest {payload : String} {e : SessionErrorReply}
    (h : readExtendRequest lib payload = .error e) :
    ∃ status ∈ errorStatuses, e.status = status := by
  rw [readExtendRequest] at h
  split at h
  · cases h
    exact ⟨400, by decide, rfl⟩
  · split at h
    · cases h
      exact ⟨400, by decide, rfl⟩
    · split at h
      · cases h
        exact ⟨500, by decide, rfl⟩
      · split_ifs at h
        cases h
        exact ⟨400, by decide, rfl⟩

theorem sound_refusedExtension (session : Option QodSession) :
    ∃ status ∈ errorStatuses, (refusedExtension session).status = status := by
  rcases session with _ | session
  · exact ⟨404, by decide, rfl⟩
  · rw [refusedExtension]
    split_ifs
    · exact ⟨409, by decide, rfl⟩
    · exact ⟨400, by decide, rfl⟩

/-! ## The messages -/

/-- A session, or a list of sessions. -/
def IsSessions (format : ℤ → String) (data : Json) : Prop :=
  (∃ session includeDevice, data = sessionToJson format session includeDevice) ∨ ∃ l, data = .arr l

/-- What the messages of the replies are: an error with one of the statuses, sessions with a
    status of success, the end of a session, or nothing that is defined. -/
inductive Written (helpers : ServiceHandlerHelpers) (lib : Json.Library) (format : ℤ → String) :
    Option Reply → Prop
  | error (status : ℕ) (h : status ∈ errorStatuses) {code message correlationId : String}
      (hwrites : helpers.WritesError lib status code message correlationId) :
      Written helpers lib format
        (some (helpers.createErrorResponse status code message correlationId))
  | data (status : ℕ) (h : status ∈ [200, 201]) {data : Json} (hdata : IsSessions format data)
      {correlationId : String} (hwrites : helpers.WritesData lib data status correlationId) :
      Written helpers lib format (some (helpers.createSuccessResponse data status correlationId))
  | deleted (correlationId : String) :
      Written helpers lib format (some ((SessionReply.deleted correlationId).toReply helpers))
  | undefined : Written helpers lib format none

variable {helpers}

theorem Written.of_status {status : ℤ} (h : ∃ n ∈ errorStatuses, status = n)
    {code message correlationId : String}
    (hwrites : helpers.WritesError lib status code message correlationId) :
    Written helpers lib format
      (some (helpers.createErrorResponse status code message correlationId)) := by
  obtain ⟨n, hmem, rfl⟩ := h
  exact .error n hmem hwrites

/-- Every message is answered in one of these ways. -/
theorem written_handle (m : QodSessionManager) (a : QodMessage)
    (hdocumented : (handle lib reader format m a).2.Documented helpers lib) :
    Written helpers lib format ((handle lib reader format m a).2.toReply helpers) := by
  cases a with
  | createSession context payload checked sessionId now reply later =>
    have hsound := sound_readCreateRequest lib reader context payload checked
    simp only [handle, handleCreateSession] at hdocumented ⊢
    rcases hread : readCreateRequest lib reader context payload checked with e | request <;>
      rw [hread] at hdocumented
    · exact .of_status (hsound e hread) hdocumented
    · dsimp only at hdocumented ⊢
      rcases hcreate : (m.createSession request sessionId now reply later).1 with
        e | _ | session <;> rw [hcreate] at hdocumented
      · exact .error 500 (by decide) hdocumented
      · exact .error 400 (by decide) hdocumented
      · exact .data 201 (by decide) (.inl ⟨_, _, rfl⟩) hdocumented
  | getSession context sessionId =>
    simp only [handle, handleGetSession] at hdocumented ⊢
    by_cases hid : sessionId.isEmpty
    · rw [if_pos hid] at hdocumented ⊢
      exact .error 400 (by decide) hdocumented
    · rw [if_neg hid] at hdocumented ⊢
      rcases hget : m.getSession sessionId context.apiConsumerId with _ | session <;>
        rw [hget] at hdocumented
      · exact .error 404 (by decide) hdocumented
      · exact .data 200 (by decide) (.inl ⟨_, _, rfl⟩) hdocumented
  | deleteSession context sessionId reply now =>
    simp only [handle, handleDeleteSession] at hdocumented ⊢
    by_cases hid : sessionId.isEmpty
    · rw [if_pos hid] at hdocumented ⊢
      exact .error 400 (by decide) hdocumented
    · rw [if_neg hid] at hdocumented ⊢
      dsimp only at hdocumented ⊢
      rcases hdelete : (m.deleteSession sessionId context.apiConsumerId reply now).1 with
        e | _ | _ <;> rw [hdelete] at hdocumented
      · exact .error 500 (by decide) hdocumented
      · exact .error 400 (by decide) hdocumented
      · exact .deleted _
  | extendSession context sessionId payload =>
    by_cases hid : sessionId = ""
    · rw [handle, handleExtendSession, hid] at hdocumented ⊢
      exact .error 400 (by decide) hdocumented
    rcases hread : readExtendRequest lib payload with e | additional
    · rw [handle, handleExtendSession, if_neg (by simpa using hid), hread] at hdocumented ⊢
      exact .of_status (sound_readExtendRequest hread) hdocumented
    · rw [handle, handleExtendSession_of_read format m context hid hread] at hdocumented ⊢
      dsimp only at hdocumented ⊢
      rcases hextend : (m.extendSessionDuration sessionId additional context.apiConsumerId).1 with
        e | _ | session <;> rw [hextend] at hdocumented
      · exact .undefined
      · exact .of_status (sound_refusedExtension _) hdocumented
      · exact .data 200 (by decide) (.inl ⟨_, _, rfl⟩) hdocumented
  | retrieveSessions context payload =>
    have hsound := sound_readRetrieveRequest lib context payload
    simp only [handle, handleRetrieveSessions] at hdocumented ⊢
    rcases hread : readRetrieveRequest lib context payload with e | device <;>
      rw [hread] at hdocumented
    · exact .of_status (hsound e hread) hdocumented
    · exact .data 200 (by decide) (.inr ⟨_, rfl⟩) hdocumented

end QodHandler

end PhineAf

import PhineAf.Adapter.RoundTrip
import PhineAf.Qod.Requests

/-!
# Sessions as the adapter sees them

The sessions that AF core writes in its replies (`QodHandler::session_to_json`), read by the
clients of the demo adapter (`parse_session_info`, `parse_session_list`). The two are written
independently, and agree (`parseSessionInfo_sessionToJson`): what is read is the session, as
far as the adapter knows of it (`seen`).
-/

namespace PhineAf.Adapter

open QodHandler

/-! ## What is seen of a session -/

/-- A status, as the adapter names it. -/
def statusOf : PhineAf.QosStatus → QosStatus
  | .requested => .requested
  | .available => .available
  | .unavailable => .unavailable

/-- The reason of a status, as the adapter names it. -/
def reasonOf : PhineAf.StatusInfo → StatusInfo
  | .durationExpired => .durationExpired
  | .networkTerminated => .networkTerminated
  | .deleteRequested => .deleteRequested

/-- A session as the adapter sees it: with its times unless it is requested, with a reason if
    it is unavailable, and with a duration of 32 bits. -/
def seen (format : ℤ → String) (session : QodSession) : SessionInfo where
  sessionId := session.sessionId
  qosStatus := statusOf session.qosStatus
  statusInfo := if session.qosStatus = .unavailable then session.statusInfo.map reasonOf else none
  duration := session.duration.bmod (2 ^ 32)
  qosProfile := session.qosProfile
  startedAt := if session.qosStatus = .requested then none else session.startedAt.map format
  expiresAt := if session.qosStatus = .requested then none else session.expiresAt.map format

theorem qosStatusFromString_qosStatusToString (status : PhineAf.QosStatus) :
    qosStatusFromString (qosStatusToString status) = statusOf status := by
  cases status <;> decide

theorem statusInfoFromString_statusInfoToString (reason : PhineAf.StatusInfo) :
    statusInfoFromString (statusInfoToString reason) = reasonOf reason := by
  cases reason <;> decide

theorem readMember_of_ok {α : Type} {json : Json} {key : String}
    {read : Json → Except Json.Error α} {v : Option α} (h : json.optional key read = .ok v)
    (set : SessionInfo → α → SessionInfo) (info : SessionInfo) :
    readMember json key read set info = .ok (v.elim info (set info)) := by
  rw [readMember, h]

theorem elim_statusInfo {info : SessionInfo} (h : info.statusInfo = none) (v : Option String) :
    (v.elim info fun v => { info with statusInfo := some (statusInfoFromString v) }) =
      { info with statusInfo := v.map statusInfoFromString } := by
  cases v
  · rw [Option.elim_none, Option.map_none, ← h]
  · rfl

theorem elim_startedAt {info : SessionInfo} (h : info.startedAt = none) (v : Option String) :
    (v.elim info fun v => { info with startedAt := some v }) = { info with startedAt := v } := by
  cases v
  · rw [Option.elim_none, ← h]
  · rfl

theorem elim_expiresAt {info : SessionInfo} (h : info.expiresAt = none) (v : Option String) :
    (v.elim info fun v => { info with expiresAt := some v }) = { info with expiresAt := v } := by
  cases v
  · rw [Option.elim_none, ← h]
  · rfl

/-- What AF core writes of a session is read by the adapter. -/
theorem parseSessionInfo_sessionToJson {lib : Json.Library} (format : ℤ → String)
    (session : QodSession) (includeDevice : Bool)
    (hlossless : lib.Lossless (sessionToJson format session includeDevice))
    (hnonempty : lib.dump (sessionToJson format session includeDevice) ≠ "") :
    parseSessionInfo lib (lib.dump (sessionToJson format session includeDevice)) =
      seen format session := by
  have hkeys : ((sessionFields format session includeDevice).map Prod.fst).Nodup := by
    simp [sessionFields]
  set json := sessionToJson format session includeDevice with hjson
  have hfind : ∀ key, json.find? key =
      ((sessionFields format session includeDevice).lookup key).join := fun key =>
    Json.find?_ofFields key hkeys
  have hid : json.optional "sessionId" Json.getStr = .ok (some session.sessionId) :=
    Json.optional_str (hfind _)
  have hstatus : json.optional "qosStatus" Json.getStr =
      .ok (some (qosStatusToString session.qosStatus)) := Json.optional_str (hfind _)
  have hreason : json.optional "statusInfo" Json.getStr =
      .ok (if session.qosStatus = .unavailable then session.statusInfo.map statusInfoToString
        else none) := by
    refine Json.optional_str ?_
    rw [hfind]
    change (if session.qosStatus == .unavailable then
      session.statusInfo.map (Json.str <| statusInfoToString ·) else none) = _
    cases session.qosStatus <;> simp [Function.comp_def]
  have hduration : json.optional "duration" Json.getInt32 =
      .ok (some (session.duration.bmod (2 ^ 32))) := by
    rw [Json.optional, hfind]
    rfl
  have hprofile : json.optional "qosProfile" Json.getStr = .ok (some session.qosProfile) :=
    Json.optional_str (hfind _)
  have hstarted : json.optional "startedAt" Json.getStr =
      .ok (if session.qosStatus = .requested then none else session.startedAt.map format) := by
    refine Json.optional_str ?_
    rw [hfind]
    change (if session.qosStatus != .requested then
      session.startedAt.map (Json.str <| format ·) else none) = _
    cases session.qosStatus <;> simp [Function.comp_def]
  have hexpires : json.optional "expiresAt" Json.getStr =
      .ok (if session.qosStatus = .requested then none else session.expiresAt.map format) := by
    refine Json.optional_str ?_
    rw [hfind]
    change (if session.qosStatus != .requested then
      session.expiresAt.map (Json.str <| format ·) else none) = _
    cases session.qosStatus <;> simp [Function.comp_def]
  have hempty : (lib.dump json).isEmpty = false := by simpa using hnonempty
  rw [parseSessionInfo, hempty, if_neg Bool.false_ne_true, hlossless]
  simp only [bind, Except.bind, readMember_of_ok hid, readMember_of_ok hstatus,
    readMember_of_ok hreason, readMember_of_ok hduration, readMember_of_ok hprofile,
    readMember_of_ok hstarted, readMember_of_ok hexpires, Option.elim_some, elim_statusInfo,
    elim_startedAt, elim_expiresAt, qosStatusFromString_qosStatusToString]
  rw [seen, SessionInfo.mk.injEq]
  refine ⟨rfl, rfl, ?_, rfl, rfl, rfl, rfl⟩
  split_ifs
  · simp [Function.comp_def, statusInfoFromString_statusInfoToString]
  · rfl

end PhineAf.Adapter

import PhineAf.Adapter.Retrieval
import PhineAf.Lib.System

/-!
# Extension through the adapter

One call of `QodClient::extend_session`, the transport, and AF core. As with a creation, the
client sends the request once more whenever a call fails in a way that may pass, and AF core
does not know it again: every request that comes to it extends the session, at any time.

So a session may be extended more than once, by a multiple of what was asked for, up to the
maximum of its profile; if the call succeeds, it has been extended at least once, and what the
client has been told was true when AF core replied (`extensions_of_reachable`). Other requests
to AF core are left out.
-/

namespace PhineAf.Adapter

open QodHandler QodSessionManager

/-! ## Calls -/

/-- `serialise_extend_request`. -/
def serialiseExtendRequest (lib : Json.Library) (requestedAdditionalDuration : Int32) : String :=
  lib.dump (.obj [("requestedAdditionalDuration", .int requestedAdditionalDuration.toInt)])

/-- What a call depends on. -/
structure ExtendSetting where
  lib : Json.Library
  helpers : ServiceHandlerHelpers
  reader : CredentialReader
  /-- How AF core writes a time point. -/
  format : ℤ → String
  /-- The context of the message with a correlation id. -/
  contextOf : String → QodRequestContext
  config : QodClientConfig
  sessionId : String
  additional : Int32

/-- Where the request of an attempt is. -/
inductive ExtendAttempt
  /-- On its way to AF core, or lost. -/
  | sent (correlationId : String)
  /-- AF core has replied. -/
  | handled (payload : String)

/-- A call of `extend_session`, with its attempts, in their order, and AF core. -/
structure ExtendCall where
  manager : QodSessionManager
  client : Client
  attempts : List ExtendAttempt

inductive ExtendCallOp
  /-- The client comes to the head of its loop. -/
  | send (correlationId : String)
  /-- The request of an attempt comes to AF core. -/
  | deliver (attempt : ℕ)
  /-- The reply to the last attempt comes to the client. -/
  | receive
  /-- The last attempt fails. -/
  | fail (code : StatusCode) (message : String)

/-- The message of an attempt, as AF core reads it. -/
def ExtendSetting.message (c : ExtendSetting) (correlationId : String) : QodMessage :=
  .extendSession (c.contextOf correlationId) c.sessionId
    (serialiseExtendRequest c.lib c.additional)

namespace ExtendCall

/-- The call after a step. -/
def next (c : ExtendSetting) (r : ExtendCall) : ExtendCallOp → Option ExtendCall
  | .send correlationId =>
    match r.client with
    | .ready attempt => some { r with
        client := r.client.send c.config
        attempts :=
          if attempt ≤ c.config.maxRetries then r.attempts ++ [.sent correlationId]
          else r.attempts }
    | _ => none
  | .deliver i =>
    match r.attempts[i]? with
    | some (.sent correlationId) =>
      let (manager, answer) := handle c.lib c.reader c.format r.manager (c.message correlationId)
      (answer.toReply c.helpers).map fun reply =>
        { r with manager, attempts := r.attempts.set i (.handled reply.payload) }
    | _ => none
  | .receive =>
    match r.client, r.attempts.getLast? with
    | .waiting _, some (.handled payload) =>
      some { r with client := r.client.receive c.lib (.reply payload) }
    | _, _ => none
  | .fail code message =>
    match r.client with
    | .waiting _ => some { r with client := r.client.receive c.lib (.failed code message) }
    | _ => none

/-- AF core has replied to an attempt. -/
def isHandled : ExtendAttempt → Bool
  | .handled _ => true
  | .sent _ => false

/-- The number of requests that have come to AF core. -/
def handledCount (r : ExtendCall) : ℕ := r.attempts.countP isHandled

end ExtendCall

/-- A call of `extend_session`, with AF core in a state. -/
def extensionSystem (c : ExtendSetting) (m : QodSessionManager) :
    System ExtendCall ExtendCallOp where
  init r := r = ⟨m, .ready 1, []⟩
  step r op r' := r.next c op = some r'

/-! ## Sessions that are extended -/

variable {m m' : QodSessionManager} {session : QodSession} {t : ℤ}

theorem extended_congr (hconfig : m'.config = m.config) (session : QodSession) (additional t : ℤ) :
    m'.extended session additional t = m.extended session additional t := by
  rw [extended, extended, extendedDuration, extendedDuration, getMaxDurationForProfile,
    getMaxDurationForProfile, hconfig]

/-- Two extensions are one, by what both ask for. -/
theorem extended_extended {a b : ℤ} (hb : 0 ≤ b) :
    m.extended (m.extended session a t) b t = m.extended session (a + b) t := by
  have hduration : m.extendedDuration (m.extended session a t) b =
      m.extendedDuration session (a + b) := by
    simp only [extendedDuration, extended]
    omega
  rw [extended, hduration]
  rfl

/-- The session after some extensions. -/
def sessionAfter (m : QodSessionManager) (session : QodSession) (t additional : ℤ) (k : ℕ) :
    QodSession :=
  if k = 0 then session else m.extended session (k * additional) t

theorem extended_sessionAfter {additional : ℤ} (h : 0 ≤ additional) (k : ℕ) :
    m.extended (sessionAfter m session t additional k) additional t =
      sessionAfter m session t additional (k + 1) := by
  rw [sessionAfter, sessionAfter, if_neg (Nat.succ_ne_zero k)]
  split_ifs with hk
  · rw [hk, Nat.zero_add, Nat.cast_one, one_mul]
  · rw [extended_extended h, Nat.cast_succ, add_mul, one_mul]

/-- What AF core writes of the session after some extensions. -/
abbrev ExtendSetting.sessionJson (c : ExtendSetting) (m : QodSessionManager) (session : QodSession)
    (t : ℤ) (k : ℕ) : Json :=
  wholeSession c.format (sessionAfter m session t c.additional.toInt k)

/-- AF core has an available session of the consumer, which it can tell of as often as the call
    may extend it. -/
structure ExtendSetting.Serves (c : ExtendSetting) (m : QodSessionManager) (session : QodSession)
    (t : ℤ) : Prop where
  filed : m.Filed
  nonempty : c.sessionId ≠ ""
  stored : m.qod.getSessionById c.sessionId = some session
  available : session.qosStatus = .available
  started : session.startedAt = some t
  consumer : ∀ correlationId, (c.contextOf correlationId).apiConsumerId = session.apiConsumerId
  positive : 1 ≤ c.additional.toInt
  lossless : c.lib.Lossless (.obj [("requestedAdditionalDuration", .int c.additional.toInt)])
  written : ∀ k : ℕ, 1 ≤ k → k ≤ c.config.maxRetries → ∀ correlationId,
    c.helpers.WritesData c.lib (c.sessionJson m session t k) 200 correlationId ∧
      c.lib.dump (c.sessionJson m session t k) ≠ ""

namespace ExtendCall

variable {c : ExtendSetting} {r r' : ExtendCall} {op : ExtendCallOp}

/-- The request of the client is read as what it asks for. -/
theorem readExtendRequest_serialise (h : c.Serves m session t) :
    readExtendRequest c.lib (serialiseExtendRequest c.lib c.additional) =
      .ok c.additional.toInt := by
  have hparse : c.lib.parse (serialiseExtendRequest c.lib c.additional) =
      .ok (.obj [("requestedAdditionalDuration", .int c.additional.toInt)]) := h.lossless
  have hint : (Json.int c.additional.toInt).getInt32 = .ok c.additional.toInt := by
    have hlt := c.additional.toInt_lt
    have hle := c.additional.le_toInt
    have hmod : c.additional.toInt.bmod (2 ^ 32) = c.additional.toInt := by
      rw [Int.bmod_eq_of_le] <;> omega
    exact congrArg Except.ok hmod
  rw [readExtendRequest, hparse]
  simp only [Json.find?, List.lookup_cons_self, hint]
  rw [if_neg (by have := h.positive; omega)]

/-- AF core extends the session once more. -/
theorem handle_message (h : c.Serves m session t) (hfiled : m'.Filed)
    (hconfig : m'.config = m.config) {k : ℕ} (hstored : m'.qod.getSessionById c.sessionId =
      some (sessionAfter m session t c.additional.toInt k)) (correlationId : String) :
    ∃ m₁, handle c.lib c.reader c.format m' (c.message correlationId) =
        (m₁, .about (some (sessionReply c.format (c.contextOf correlationId)
          (sessionAfter m session t c.additional.toInt (k + 1))))) ∧
      m₁.Filed ∧ m₁.config = m.config ∧ m₁.qod.getSessionById c.sessionId =
        some (sessionAfter m session t c.additional.toInt (k + 1)) := by
  have hget : m'.getSession c.sessionId (c.contextOf correlationId).apiConsumerId =
      some (sessionAfter m session t c.additional.toInt k) := by
    refine getSession_eq_some_iff.2 ⟨hstored, ?_⟩
    rw [h.consumer, sessionAfter]
    split_ifs <;> rfl
  have hstatus : (sessionAfter m session t c.additional.toInt k).qosStatus = .available := by
    rw [sessionAfter]
    split_ifs
    · exact h.available
    · exact h.available
  have hstarted : (sessionAfter m session t c.additional.toInt k).startedAt = some t := by
    rw [sessionAfter]
    split_ifs
    · exact h.started
    · exact h.started
  have hextended :
      m'.extended (sessionAfter m session t c.additional.toInt k) c.additional.toInt t =
        sessionAfter m session t c.additional.toInt (k + 1) := by
    rw [extended_congr hconfig, extended_sessionAfter (by have := h.positive; omega)]
  have hwritten := getSessionById_extended hfiled hstored c.additional.toInt t
  rw [ExtendSetting.message, handle, handleExtendSession_of_read c.format m' _ h.nonempty
    (readExtendRequest_serialise h), extendSessionDuration_eq, hget]
  simp only [hstatus, hstarted, hextended, reduceCtorEq, if_false]
  rw [hextended] at hwritten
  refine ⟨_, rfl, fun id s hs => ?_, hconfig, ?_⟩
  · dsimp only at hs
    rw [hwritten] at hs
    split_ifs at hs with hid
    · cases hs
      rw [hid, ← hextended]
      exact (hfiled _ _ hstored :)
    · exact hfiled id s hs
  · exact (hwritten _).trans (if_pos rfl)

/-! ## All steps -/

/-- What the payload of a reply tells: the session after some of the extensions. -/
def Tells (c : ExtendSetting) (m : QodSessionManager) (session : QodSession) (t : ℤ) (count : ℕ)
    (payload : String) : Prop :=
  ∃ k : ℕ, 1 ≤ k ∧ k ≤ count ∧ (k : ℤ) ≤ c.config.maxRetries ∧
    payload = c.lib.dump (c.sessionJson m session t k)

theorem Tells.mono {count count' : ℕ} {payload : String} (h : Tells c m session t count payload)
    (hle : count ≤ count') : Tells c m session t count' payload := by
  obtain ⟨k, hpos, hk, hmax, hpayload⟩ := h
  exact ⟨k, hpos, hk.trans hle, hmax, hpayload⟩

/-- A payload that tells of a session is no error, and is read as the session. -/
theorem Tells.read (h : c.Serves m session t) {count : ℕ} {payload : String}
    (htells : Tells c m session t count payload) :
    errorOf c.lib payload = none ∧ ∃ k : ℕ, 1 ≤ k ∧ k ≤ count ∧ parseSessionInfo c.lib payload =
      seen c.format (m.extended session (k * c.additional.toInt) t) := by
  obtain ⟨k, hpos, hk, hmax, rfl⟩ := htells
  obtain ⟨hwrites, hnonempty⟩ := h.written k hpos hmax ""
  refine ⟨errorOf_of_isSessions _ (.inl ⟨_, _, rfl⟩) hwrites.lossless, k, hpos, hk, ?_⟩
  refine (parseSessionInfo_sessionToJson c.format _ _ hwrites.lossless hnonempty).trans ?_
  rw [sessionAfter, if_neg (by omega)]

/-- An error of the transport. -/
def IsTransportError (code : String) : Prop :=
  code = "GRPC_RETRIES_EXHAUSTED" ∨ ∃ status : StatusCode, code = "GRPC_" ++ toString status.toNat

/-- AF core has extended the session once for each request that has come to it, and the
    replies tell so. -/
structure Accounted (c : ExtendSetting) (m : QodSessionManager) (session : QodSession) (t : ℤ)
    (r : ExtendCall) : Prop where
  filed : r.manager.Filed
  config : r.manager.config = m.config
  stored : r.manager.qod.getSessionById c.sessionId =
    some (sessionAfter m session t c.additional.toInt r.handledCount)
  told : ∀ payload, .handled payload ∈ r.attempts → Tells c m session t r.handledCount payload
  attempts_le : (r.attempts.length : ℤ) ≤ max c.config.maxRetries 0
  ready : ∀ attempt, r.client = .ready attempt → (r.attempts.length : ℤ) + 1 = attempt
  waiting : ∀ attempt, r.client = .waiting attempt → (r.attempts.length : ℤ) = attempt
  ok : ∀ payload, r.client = .returned (.ok payload) → Tells c m session t r.handledCount payload
  error : ∀ code message, r.client = .returned (.error code message) → IsTransportError code

theorem accounted_init (h : c.Serves m session t) :
    Accounted c m session t ⟨m, .ready 1, []⟩ where
  filed := h.filed
  config := rfl
  stored := h.stored
  told := nofun
  attempts_le := le_max_right ..
  ready attempt hready := by
    cases hready
    rfl
  waiting := nofun
  ok := nofun
  error := nofun

theorem Accounted.send (hr : Accounted c m session t r) {attempt : ℤ}
    (hclient : r.client = .ready attempt) (correlationId : String) :
    Accounted c m session t { r with
      client := (Client.ready attempt).send c.config
      attempts := if attempt ≤ c.config.maxRetries then r.attempts ++ [.sent correlationId]
        else r.attempts } := by
  have hlength := hr.ready attempt hclient
  rw [Client.send]
  split_ifs with hle
  · have hcount : (r.attempts ++ [ExtendAttempt.sent correlationId]).countP isHandled =
        r.handledCount := by
      rw [List.countP_append]
      rfl
    refine ⟨hr.filed, hr.config, ?_, ?_, ?_, by simp, ?_, by simp, by simp⟩
    · rw [handledCount, hcount]
      exact hr.stored
    · intro payload hmem
      rw [handledCount, hcount]
      exact hr.told payload (by simpa using hmem)
    · rw [List.length_append, List.length_singleton]
      push_cast
      omega
    · intro attempt' hwaiting
      cases hwaiting
      rw [List.length_append, List.length_singleton]
      push_cast
      omega
  · refine ⟨hr.filed, hr.config, hr.stored, hr.told, hr.attempts_le, by simp, by simp, by simp, ?_⟩
    intro code message herror
    cases herror
    exact .inl rfl

theorem Accounted.deliver (h : c.Serves m session t) (hr : Accounted c m session t r) {i : ℕ}
    {correlationId : String} (hi : r.attempts[i]? = some (.sent correlationId))
    (hnext : r.next c (.deliver i) = some r') : Accounted c m session t r' := by
  obtain ⟨hlt, hget⟩ := List.getElem?_eq_some_iff.1 hi
  obtain ⟨m₁, hhandle, hfiled, hconfig, hstored⟩ :=
    handle_message h hr.filed hr.config hr.stored correlationId
  simp only [ExtendCall.next, hi, hhandle, QodAnswer.toReply, Option.map_some,
    Option.some.injEq] at hnext
  subst hnext
  have hmax : ((r.handledCount + 1 : ℕ) : ℤ) ≤ c.config.maxRetries := by
    have hlength : r.handledCount < r.attempts.length :=
      List.countP_lt_length_iff.2 ⟨_, List.mem_of_getElem? hi, rfl⟩
    have hle := hr.attempts_le
    omega
  have htells : Tells c m session t (r.handledCount + 1) ((sessionReply c.format
      (c.contextOf correlationId) (sessionAfter m session t c.additional.toInt
        (r.handledCount + 1))).toReply c.helpers).payload := by
    refine ⟨r.handledCount + 1, by omega, le_rfl, hmax, ?_⟩
    exact (h.written _ (by omega) hmax _).1.payload
  generalize ((sessionReply c.format (c.contextOf correlationId) (sessionAfter m session t
    c.additional.toInt (r.handledCount + 1))).toReply c.helpers).payload = told at htells
  -- One more request has come to AF core.
  have hcount : (r.attempts.set i (.handled told)).countP isHandled = r.handledCount + 1 := by
    rw [List.countP_set hlt, hget]
    rfl
  refine ⟨hfiled, hconfig, ?_, ?_, ?_, ?_, ?_, ?_, hr.error⟩
  · rw [handledCount, hcount]
    exact hstored
  · intro payload hmem
    rw [handledCount, hcount]
    rcases List.mem_or_eq_of_mem_set hmem with hmem | heq
    · exact (hr.told payload hmem).mono (by omega)
    · cases heq
      exact htells
  · rw [List.length_set]
    exact hr.attempts_le
  · rw [List.length_set]
    exact hr.ready
  · rw [List.length_set]
    exact hr.waiting
  · intro payload hpayload
    rw [handledCount, hcount]
    exact (hr.ok payload hpayload).mono (by omega)

/-- The reply comes, and ends the call. -/
theorem Accounted.receive (h : c.Serves m session t) (hr : Accounted c m session t r)
    {attempt : ℤ} {payload : String} (hmem : .handled payload ∈ r.attempts) :
    Accounted c m session t
      { r with client := (Client.waiting attempt).receive c.lib (.reply payload) } := by
  have htells := hr.told payload hmem
  rw [Client.receive, (htells.read h).1]
  refine ⟨hr.filed, hr.config, hr.stored, hr.told, hr.attempts_le, by simp, by simp, ?_, by simp⟩
  intro payload' hok
  cases hok
  exact htells

/-- The attempt fails: there is another one, or the call ends with an error. -/
theorem Accounted.fail (hr : Accounted c m session t r) {attempt : ℤ}
    (hclient : r.client = .waiting attempt) (code : StatusCode) (message : String) :
    Accounted c m session t
      { r with client := (Client.waiting attempt).receive c.lib (.failed code message) } := by
  rw [Client.receive]
  split_ifs
  · refine ⟨hr.filed, hr.config, hr.stored, hr.told, hr.attempts_le, ?_, by simp, by simp, by simp⟩
    intro attempt' hready
    cases hready
    rw [hr.waiting attempt hclient]
  · refine ⟨hr.filed, hr.config, hr.stored, hr.told, hr.attempts_le, by simp, by simp, by simp, ?_⟩
    intro code' message' herror
    cases herror
    exact .inr ⟨code, rfl⟩

theorem Accounted.next (h : c.Serves m session t) (hr : Accounted c m session t r)
    (hnext : r.next c op = some r') : Accounted c m session t r' := by
  cases op with
  | send correlationId =>
    rw [ExtendCall.next] at hnext
    split at hnext
    next attempt hclient =>
      rw [hclient] at hnext
      cases hnext
      exact hr.send hclient correlationId
    next => cases hnext
  | deliver i =>
    rcases hi : r.attempts[i]? with _ | correlationId | payload
    · simp only [ExtendCall.next, hi] at hnext
      cases hnext
    · exact hr.deliver h hi hnext
    · simp only [ExtendCall.next, hi] at hnext
      cases hnext
  | receive =>
    rw [ExtendCall.next] at hnext
    split at hnext
    next attempt payload hclient hlast =>
      rw [hclient] at hnext
      cases hnext
      exact hr.receive h (List.mem_of_getLast? hlast)
    next => cases hnext
  | fail code message =>
    rw [ExtendCall.next] at hnext
    split at hnext
    next attempt hclient =>
      rw [hclient] at hnext
      cases hnext
      exact hr.fail hclient code message
    next => cases hnext

/-- At every point of a call, AF core has extended the session once for each request that has
    come to it, and that is as many as there are attempts at most; if the call has succeeded,
    there was one, and what the client has been told is the session after one of them; and if
    it has failed, then because of the transport. -/
theorem extensions_of_reachable (h : c.Serves m session t)
    (hr : (extensionSystem c m).Reachable r) :
    (r.handledCount : ℤ) ≤ max c.config.maxRetries 0 ∧
      r.manager.getSession c.sessionId session.apiConsumerId = some
        (if r.handledCount = 0 then session
          else m.extended session (r.handledCount * c.additional.toInt) t) ∧
      (∀ info, (Client.result? r.client).map (createSessionResult c.lib) = some (.ok info) →
        ∃ k : ℕ, 1 ≤ k ∧ k ≤ r.handledCount ∧
          info = seen c.format (m.extended session (k * c.additional.toInt) t)) ∧
      ∀ code message, r.client = .returned (.error code message) → IsTransportError code := by
  have haccounted : Accounted c m session t r := by
    refine System.Reachable.invariant (fun r hinit => ?_) (fun r op r' _ hr hnext => ?_) hr
    · rw [hinit]
      exact accounted_init h
    · exact hr.next h hnext
  refine ⟨?_, ?_, fun info hinfo => ?_, haccounted.error⟩
  · have hle : r.handledCount ≤ r.attempts.length := List.countP_le_length
    have hattempts := haccounted.attempts_le
    omega
  · refine getSession_eq_some_iff.2 ⟨haccounted.stored, ?_⟩
    split_ifs <;> rfl
  · rcases hclient : r.client with attempt | attempt | payload | ⟨code, message⟩ <;>
      rw [hclient] at hinfo <;> try cases hinfo
    obtain ⟨-, k, hpos, hk, hread⟩ := (haccounted.ok payload hclient).read h
    exact ⟨k, hpos, hk, hread⟩

/-- What AF core writes of the session, with another duration. -/
def minutesJson (duration : ℤ) : Json :=
  match tenMinutes.qod.getSessionById "session-1" with
  | some session => wholeSession toString (tenMinutes.extended session (duration - 600) 1)
  | none => .null

/-- A library that knows the request for one more minute, and two sessions. -/
def minutesLibrary : Json.Library where
  dump j := match j.find? "duration" with
    | some (.int 660) => sessionText "660"
    | some (.int 720) => sessionText "720"
    | _ => "\x7b\"requestedAdditionalDuration\":60\x7d"
  parse s :=
    if s = "\x7b\"requestedAdditionalDuration\":60\x7d" then
      .ok (.obj [("requestedAdditionalDuration", .int 60)])
    else if s = sessionText "660" then .ok (minutesJson 660)
    else if s = sessionText "720" then .ok (minutesJson 720)
    else .error "parse error"
  what _ := ""

theorem parse_oneMore : minutesLibrary.parse (sessionText "660") = .ok (minutesJson 660) := by
  have hrequest : sessionText "660" ≠ "\x7b\"requestedAdditionalDuration\":60\x7d" := by decide
  simp only [minutesLibrary, if_neg hrequest, if_true]

theorem parse_twoMore : minutesLibrary.parse (sessionText "720") = .ok (minutesJson 720) := by
  have hrequest : sessionText "720" ≠ "\x7b\"requestedAdditionalDuration\":60\x7d" := by decide
  have hone : sessionText "720" ≠ sessionText "660" := by decide
  simp only [minutesLibrary, if_neg hrequest, if_neg hone, if_true]

/-- One more minute is asked for, twice at most. -/
def minutesSetting : ExtendSetting where
  lib := minutesLibrary
  helpers := textHelpers minutesLibrary
  reader := ⟨⟨.plain, none, none, none, none, none, none, none⟩, fun _ => 0⟩
  format := toString
  contextOf correlationId := ⟨"consumer", correlationId, false⟩
  config := { maxRetries := 2 }
  sessionId := "session-1"
  additional := 60

/-- The first reply is lost: the session is extended by two minutes. -/
theorem extensions_after_loss : ∃ (r : ExtendCall) (session : QodSession),
    (extensionSystem minutesSetting tenMinutes).Reachable r ∧ r.handledCount = 2 ∧
      r.manager.getSession "session-1" "consumer" = some session ∧ session.duration = 720 := by
  have h₀ : qodSystem.Reachable QodRun.initial := .init ⟨_, _, _, _, rfl⟩
  have h₁ := h₀.step (a := QodOp.createSession (QodRun.phoneSession "consumer") "session-1" 0
    (some (.created "pcf-1")) 1) rfl
  have hserves : minutesSetting.Serves tenMinutes
      ((tenMinutes.qod.getSessionById "session-1").get rfl) 1 :=
    { filed := Reached.filed (.inl ⟨_, h₁, rfl⟩)
      nonempty := by decide
      stored := rfl
      available := rfl
      started := rfl
      consumer := fun _ => rfl
      positive := by decide
      lossless := rfl
      written := fun k hpos hmax correlationId => by
        obtain rfl | rfl : k = 1 ∨ k = 2 := by
          have hmax' : (k : ℤ) ≤ 2 := hmax
          omega
        · exact ⟨⟨rfl, parse_oneMore, rfl⟩, by decide⟩
        · exact ⟨⟨rfl, parse_twoMore, rfl⟩, by decide⟩ }
  have hinit : (extensionSystem minutesSetting tenMinutes).Reachable ⟨tenMinutes, .ready 1, []⟩ :=
    .init rfl
  have hsent := (hinit.step (a := ExtendCallOp.send "correlation-1") rfl).step
    (a := ExtendCallOp.deliver 0) rfl
  have hlost := (hsent.step (a := ExtendCallOp.fail .unavailable "") rfl).step
    (a := ExtendCallOp.send "correlation-2") rfl
  have hreachable := (hlost.step (a := ExtendCallOp.deliver 1) rfl).step
    (a := ExtendCallOp.receive) rfl
  obtain ⟨-, hget, -, -⟩ := extensions_of_reachable hserves hreachable
  exact ⟨_, _, hreachable, rfl, hget, rfl⟩

end ExtendCall

end PhineAf.Adapter

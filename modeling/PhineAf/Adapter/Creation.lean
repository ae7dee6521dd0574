import PhineAf.Adapter.RoundTrip
import PhineAf.Lib.Bag
import PhineAf.Qod.Atomicity

/-!
# Creation through the adapter

One call of `QodClient::create_session`, the transport, and AF core. The client sends the
request once more whenever a call fails in a way that may pass; the request of an attempt
gets to AF core, at any time, or does not; `handle_create_session` refuses it, or stores a
session, asks the PCF, and replies; and the reply gets to the client, or the call fails
with a status.

AF core does not know a request again. `CreateCall.atMostOnce_of_reachable` says when a
call nevertheless leaves one session at most, and none that is alive after an error: when
AF core accepts one request of it at most, and the client does not give up on it.

`handle_create_session` is split where it waits for the PCF (`handle_of_run` puts the
parts together). Other requests to AF core are left out.
-/

namespace PhineAf.Adapter

open QodHandler QodSessionManager

/-! ## Calls -/

/-- What a call depends on. -/
structure Setting where
  lib : Json.Library
  reader : CredentialReader
  /-- How AF core writes a time point. -/
  format : ℤ → String
  /-- The context of the message with a correlation id. -/
  contextOf : String → QodRequestContext
  /-- The payload of a reply. -/
  payloadOf : QodReply → String
  config : QodClientConfig
  request : CreateSessionRequest

/-- Where the request of an attempt is. -/
inductive Attempt
  /-- On its way to AF core, or lost. -/
  | sent (correlationId : String)
  /-- Its session is stored, and AF core asks the PCF. -/
  | applying (correlationId : String) (request : PhineAf.CreateSessionRequest)
      (session : QodSession)
  /-- Its session has been applied to the PCF or not, and AF core has replied. -/
  | created (session : QodSession) (applied : Bool) (reply : QodReply)
  | refused (reply : QodReply)

namespace Attempt

/-- The session stored for an attempt. -/
def sessionIds : Attempt → List String
  | .applying _ _ session | .created session _ _ => [session.sessionId]
  | .sent _ | .refused _ => []

/-- The reply of AF core, if there is one. -/
def reply? : Attempt → Option QodReply
  | .created _ _ reply | .refused reply => some reply
  | .sent _ | .applying .. => none

/-- A session is stored, and has not failed at the PCF. -/
def Holds : Attempt → Prop
  | .applying .. => True
  | .created _ applied _ => applied = true
  | .sent _ | .refused _ => False

end Attempt

/-- A call of `create_session`, with its attempts, in their order, and AF core with the
    session ids drawn so far. -/
structure CreateCall where
  manager : QodSessionManager
  drawn : List String
  client : Client
  attempts : List Attempt

inductive CreateCallOp
  /-- The client comes to the head of its loop. -/
  | send (correlationId : String)
  /-- The request of an attempt comes to AF core. -/
  | deliver (attempt : ℕ) (checked : ℤ) (sessionId : String) (now : ℤ)
  /-- AF core has the answer of the PCF for an attempt. -/
  | conclude (attempt : ℕ) (reply : Option PcfReply) (later : ℤ)
  /-- The reply to the last attempt comes to the client. -/
  | receive
  /-- The last attempt fails. -/
  | fail (code : StatusCode) (message : String)

/-- `handle_create_session` on the request of an attempt, until the session is stored. -/
def Setting.accept (c : Setting) (m : QodSessionManager) (correlationId : String) (checked : ℤ)
    (sessionId : String) (now : ℤ) : Attempt :=
  let context := c.contextOf correlationId
  let payload := serialiseCreateRequest c.lib c.request
  match readCreateRequest c.lib c.reader context payload checked with
  | .error e => .refused (.error e context.correlationId)
  | .ok request =>
    match m.prepareSession request sessionId now with
    | .ok (some session) => .applying correlationId request session
    | .ok none => .refused (createReply c.format context request (.ok none))
    | .error e => .refused (createReply c.format context request (.error e))

/-- What is stored of an accepted attempt. -/
def Attempt.store (m : QodSessionManager) (now : ℤ) : Attempt → QodSessionManager
  | .applying _ _ session => m.storeSession session now
  | _ => m

namespace CreateCall

/-- The call after a step. -/
def next (c : Setting) (r : CreateCall) : CreateCallOp → Option CreateCall
  | .send correlationId =>
    match r.client with
    | .ready attempt => some { r with
        client := r.client.send c.config
        attempts :=
          if attempt ≤ c.config.maxRetries then r.attempts ++ [.sent correlationId]
          else r.attempts }
    | _ => none
  | .deliver i checked sessionId now =>
    match r.attempts[i]? with
    | some (.sent correlationId) =>
      if sessionId ∈ r.drawn then none
      else
        let attempt := c.accept r.manager correlationId checked sessionId now
        some { r with
          manager := attempt.store r.manager now
          drawn := sessionId :: r.drawn
          attempts := r.attempts.set i attempt }
    | _ => none
  | .conclude i reply later =>
    match r.attempts[i]? with
    | some (.applying correlationId request session) =>
      let applied := r.manager.applySessionToPcf session reply later
      let (result, manager) := concludeSession session applied
      some { r with
        manager
        attempts := r.attempts.set i (.created session applied.1
          (createReply c.format (c.contextOf correlationId) request result)) }
    | _ => none
  | .receive =>
    match r.client, r.attempts.getLast? with
    | .waiting _, some attempt => attempt.reply?.map fun reply =>
      { r with client := r.client.receive c.lib (.reply (c.payloadOf reply)) }
    | _, _ => none
  | .fail code message =>
    match r.client with
    | .waiting _ => some { r with client := r.client.receive c.lib (.failed code message) }
    | _ => none

end CreateCall

/-- A call of `create_session`, with AF core in any state it can be in. -/
def creationSystem (c : Setting) : System CreateCall CreateCallOp where
  init r := ∃ core, qodSystem.Reachable core ∧ r = ⟨core.manager, core.drawn, .ready 1, []⟩
  step r op r' := r.next c op = some r'

namespace CreateCall

variable {c : Setting} {r r' : CreateCall} {op : CreateCallOp}

/-- A request that is delivered and, if it is accepted, concluded, is handled as
    `handle_create_session` does. -/
theorem handle_of_run {i : ℕ} {correlationId sessionId : String}
    (hi : r.attempts[i]? = some (.sent correlationId)) (hdrawn : sessionId ∉ r.drawn)
    (checked now : ℤ) (reply : Option PcfReply) (later : ℤ) :
    ∃ r₁ answer, handleCreateSession c.lib c.reader c.format r.manager
        (c.contextOf correlationId) (serialiseCreateRequest c.lib c.request) checked sessionId now
        reply later = answer ∧ r.next c (.deliver i checked sessionId now) = some r₁ ∧
      (r₁.attempts[i]? = some (.refused answer.1) ∧ r₁.manager = answer.2 ∨
        ∃ r₂ session applied, r₁.next c (.conclude i reply later) = some r₂ ∧
          r₂.attempts[i]? = some (.created session applied answer.1) ∧ r₂.manager = answer.2) := by
  obtain ⟨hlt, -⟩ := List.getElem?_eq_some_iff.1 hi
  have hset : ∀ attempt, (r.attempts.set i attempt)[i]? = some attempt := fun attempt =>
    List.getElem?_set_self hlt
  obtain ⟨attempt, haccept⟩ : ∃ attempt,
    c.accept r.manager correlationId checked sessionId now = attempt := ⟨_, rfl⟩
  have hdeliver : r.next c (.deliver i checked sessionId now) = some { r with
      manager := attempt.store r.manager now
      drawn := sessionId :: r.drawn
      attempts := r.attempts.set i attempt } := by
    rw [next, hi, ← haccept]
    exact if_neg hdrawn
  refine ⟨_, _, rfl, hdeliver, ?_⟩
  rw [Setting.accept] at haccept
  rw [handleCreateSession]
  rcases hread : readCreateRequest c.lib c.reader (c.contextOf correlationId)
    (serialiseCreateRequest c.lib c.request) checked with e | request
  · simp only [hread] at haccept
    subst haccept
    exact .inl ⟨hset _, rfl⟩
  · rcases hprepared : r.manager.prepareSession request sessionId now with e | _ | session <;>
      simp only [hread, hprepared] at haccept <;> subst haccept
    · simp only [createSession, hprepared]
      exact .inl ⟨hset _, rfl⟩
    · simp only [createSession, hprepared]
      exact .inl ⟨hset _, rfl⟩
    · simp only [createSession_of_prepared hprepared]
      refine .inr ⟨_, session,
        ((r.manager.storeSession session now).applySessionToPcf session reply later).1,
        by rw [next, hset], ?_, rfl⟩
      exact List.getElem?_set_self (by rwa [List.length_set])

/-! ## The property -/

/-- The sessions stored for a call. -/
def created (r : CreateCall) : List String := r.attempts.flatMap Attempt.sessionIds

/-- The call has returned an error. -/
def Failed (r : CreateCall) : Prop := ∃ code message, r.client = .returned (.error code message)

/-- A session is stored as requested or available. -/
def Live (m : QodSessionManager) (id : String) : Prop :=
  ∃ session, m.qod.getSessionById id = some session ∧ session.qosStatus ≠ .unavailable

/-- One session is stored at most, and none is alive after an error. -/
structure AtMostOnce (r : CreateCall) : Prop where
  length_le : r.created.length ≤ 1
  not_live : r.Failed → ∀ id ∈ r.created, ¬Live r.manager id

/-- The client gives up: there are no attempts left, the reply tells of an error, or the
    call fails in a way that will not pass. -/
def GivesUp (c : Setting) (r : CreateCall) : CreateCallOp → Prop
  | .send _ => ∃ attempt, r.client = .ready attempt ∧ c.config.maxRetries < attempt
  | .receive => ∃ attempt ∈ r.attempts.getLast?, ∃ reply ∈ attempt.reply?,
      (errorOf c.lib (c.payloadOf reply)).isSome
  | .fail code _ => isRetryable code = false
  | .deliver .. | .conclude .. => False

/-- AF core accepts a request only as the first of the call, which has not failed, and
    the client gives up only if no session has been accepted that holds. -/
def Careful (c : Setting) (r : CreateCall) : CreateCallOp → Prop
  | .deliver i checked sessionId now => ∀ correlationId request session,
      r.attempts[i]? = some (.sent correlationId) →
      c.accept r.manager correlationId checked sessionId now =
        .applying correlationId request session → r.created = [] ∧ ¬r.Failed
  | op => r.GivesUp c op → ∀ attempt ∈ r.attempts, ¬attempt.Holds

/-! ## Sessions of attempts -/

/-- The session of an attempt, as it is stored. -/
def Matches (m : QodSessionManager) : Attempt → Prop
  | .applying _ _ session => m.Filed ∧ m.qod.getSessionById session.sessionId = some session ∧
      session.qosStatus = .requested ∧ ∀ p, ¬m.qod.Mapped p session.sessionId
  | .created session applied _ => Live m session.sessionId ↔ applied = true
  | .sent _ | .refused _ => True

/-- The attempts and AF core fit. -/
structure Sound (r : CreateCall) : Prop where
  fresh : r.created = [] →
    r.manager.Filed ∧ ∀ p id, r.manager.qod.Mapped p id → id ∈ r.drawn
  fits : ∀ attempt ∈ r.attempts, Matches r.manager attempt

variable {m : QodSessionManager}

theorem live_iff {attempt : Attempt} (h : Matches m attempt) {id : String}
    (hid : id ∈ attempt.sessionIds) : Live m id ↔ attempt.Holds := by
  rcases attempt with _ | ⟨_, _, session⟩ | ⟨session, applied, _⟩ | _
  · cases hid
  · obtain rfl := List.mem_singleton.1 hid
    obtain ⟨-, hs, hstatus, -⟩ := h
    refine iff_of_true ⟨session, hs, ?_⟩ trivial
    rw [hstatus]
    decide
  · obtain rfl := List.mem_singleton.1 hid
    exact h
  · cases hid

/-- An attempt that holds has a session. -/
theorem exists_id_of_holds {attempt : Attempt} (h : attempt.Holds) :
    ∃ id, id ∈ attempt.sessionIds := by
  rcases attempt with _ | ⟨_, _, session⟩ | ⟨session, _, _⟩ | _
  · cases h
  · exact ⟨_, List.mem_singleton_self _⟩
  · exact ⟨_, List.mem_singleton_self _⟩
  · cases h

/-- No session of the call is alive if no attempt holds. -/
theorem Sound.not_live_iff (h : r.Sound) :
    (∀ id ∈ r.created, ¬Live r.manager id) ↔ ∀ attempt ∈ r.attempts, ¬attempt.Holds := by
  constructor
  · intro hnone attempt hmem hholds
    obtain ⟨id, hid⟩ := exists_id_of_holds hholds
    exact hnone id (List.mem_flatMap.2 ⟨attempt, hmem, hid⟩)
      ((live_iff (h.fits attempt hmem) hid).2 hholds)
  · intro hnone id hid hlive
    obtain ⟨attempt, hmem, hid⟩ := List.mem_flatMap.1 hid
    exact hnone attempt hmem ((live_iff (h.fits attempt hmem) hid).1 hlive)

/-- A new session is alive after the answer of the PCF if that has applied it. -/
theorem live_concludeSession {session : QodSession} (hfiled : m.Filed)
    (hs : m.qod.getSessionById session.sessionId = some session)
    (hstatus : session.qosStatus = .requested)
    (hunmapped : ∀ p, ¬m.qod.Mapped p session.sessionId) (reply : Option PcfReply) (later : ℤ) :
    Live (concludeSession session (m.applySessionToPcf session reply later)).2
        session.sessionId ↔ (m.applySessionToPcf session reply later).1 = true := by
  rcases happlied : (m.applySessionToPcf session reply later).1 with _ | _
  · -- The session is abandoned, as it was or as failed.
    obtain ⟨stored, hstored⟩ : ∃ stored, (m.applySessionToPcf session reply
        later).2.qod.getSessionById session.sessionId = some stored := by
      rcases getSessionById_applySessionToPcf_of_not hfiled happlied with hkept | ⟨e, hfailed⟩
      · exact ⟨session, (hkept _).trans hs⟩
      · exact ⟨failed session e, by rw [hfailed, if_pos rfl, hs]; rfl⟩
    obtain ⟨-, hall⟩ := concludeSession_of_not happlied hstored
    refine iff_of_false ?_ Bool.false_ne_true
    rintro ⟨s, hlookup, hlive⟩
    rw [hall, if_pos rfl] at hlookup
    cases hlookup
    exact hlive rfl
  · refine iff_of_true ?_ rfl
    rw [concludeSession, happlied, if_pos rfl]
    rw [applySessionToPcf] at happlied ⊢
    split at happlied
    next hready =>
      rw [if_pos hready]
      rcases applyReply_cases (m := m.send (.createQodSession session)) session.sessionId reply
        later with heq | ⟨p, heq⟩ | ⟨e, heq⟩ | ⟨p, -, heq⟩ <;> rw [heq] at happlied ⊢
      · cases happlied
      · refine ⟨activated session p later, ?_, fun h => by cases h⟩
        refine (getSessionById_handlePcfSessionResponse
          (m := m.send (.createQodSession session)) hfiled ..).trans ?_
        rw [if_pos rfl]
        exact congrArg (Option.map _) hs
      · cases happlied
      · -- The application session that has ended belongs to another session.
        refine ⟨session, ?_, by rw [hstatus]; decide⟩
        rcases getSessionById_handlePcfSessionTerminated
            (m := m.send (.createQodSession session)) p later session.sessionId with
          hkept | ⟨-, s, hfound, hid⟩
        · exact hkept.trans hs
        · obtain ⟨id, hmapped, hstored⟩ := Option.bind_eq_some_iff.1 hfound
          rw [← hfiled id s hstored, hid] at hmapped
          exact absurd hmapped (hunmapped p)
    next => cases happlied

/-! ## Steps -/

/-- A step of the client leaves AF core as it is, and what is stored for the call. -/
theorem Sound.client_iff (h : r.Sound) (honce : r.AtMostOnce) (client : Client)
    {attempts : List Attempt} (hcreated : attempts.flatMap Attempt.sessionIds = r.created)
    {gives : Prop}
    (hgives : (∃ code message, client = .returned (.error code message)) ↔ gives) :
    AtMostOnce ⟨r.manager, r.drawn, client, attempts⟩ ↔
      (gives → ∀ attempt ∈ r.attempts, ¬attempt.Holds) := by
  have hsame : created ⟨r.manager, r.drawn, client, attempts⟩ = r.created := hcreated
  constructor
  · intro honce' hgive
    refine h.not_live_iff.1 ?_
    rw [← hsame]
    exact honce'.not_live (hgives.2 hgive)
  · intro hnone
    refine ⟨hsame ▸ honce.length_le, fun hfailed => ?_⟩
    rw [hsame]
    exact h.not_live_iff.2 (hnone (hgives.1 hfailed))

/-- The head of the loop. -/
theorem Sound.send (h : r.Sound) (honce : r.AtMostOnce) {correlationId : String}
    (hnext : r.next c (.send correlationId) = some r') :
    (r'.AtMostOnce ↔ r.Careful c (.send correlationId)) ∧ r'.Sound := by
  rw [next] at hnext
  split at hnext
  next attempt hclient =>
    cases hnext
    have hgives : (∃ code message, r.client.send c.config = .returned (.error code message)) ↔
        r.GivesUp c (.send correlationId) := by
      rw [GivesUp, hclient, Client.send]
      constructor
      · rintro ⟨code, message, heq⟩
        split at heq
        · cases heq
        · next hnot => exact ⟨attempt, rfl, not_le.1 hnot⟩
      · rintro ⟨_, heq, hlt⟩
        cases heq
        exact ⟨_, _, if_neg (not_le.2 hlt)⟩
    have hcreated : (if attempt ≤ c.config.maxRetries then r.attempts ++ [.sent correlationId]
        else r.attempts).flatMap Attempt.sessionIds = r.created := by
      split
      · rw [List.flatMap_append]
        exact List.append_nil _
      · rfl
    refine ⟨h.client_iff honce _ hcreated hgives, fun hnone => ?_, fun attempt' hmem => ?_⟩
    · exact h.fresh (hcreated.symm.trans hnone)
    · dsimp only at hmem
      split at hmem
      · rcases List.mem_append.1 hmem with hmem | hmem
        · exact h.fits attempt' hmem
        · obtain rfl := List.mem_singleton.1 hmem
          exact trivial
      · exact h.fits attempt' hmem
  next => cases hnext

/-- The reply to the last attempt comes to the client. -/
theorem Sound.receive (h : r.Sound) (honce : r.AtMostOnce)
    (hnext : r.next c .receive = some r') :
    (r'.AtMostOnce ↔ r.Careful c .receive) ∧ r'.Sound := by
  rw [next] at hnext
  split at hnext
  next n attempt hclient hlast =>
    obtain ⟨reply, hreply, rfl⟩ := Option.map_eq_some_iff.1 hnext
    refine ⟨h.client_iff honce _ rfl ?_, h.fresh, h.fits⟩
    have hgives : r.GivesUp c .receive ↔ (errorOf c.lib (c.payloadOf reply)).isSome := by
      rw [GivesUp, hlast]
      constructor
      · rintro ⟨_, hattempt, _, hreply', herror⟩
        cases hattempt
        cases hreply.symm.trans hreply'
        exact herror
      · exact fun herror => ⟨attempt, rfl, reply, hreply, herror⟩
    rw [hgives, hclient, Client.receive]
    rcases errorOf c.lib (c.payloadOf reply) with _ | ⟨code, message⟩
    · exact iff_of_false (fun ⟨_, _, heq⟩ => nomatch heq) Bool.false_ne_true
    · exact iff_of_true ⟨code, message, rfl⟩ rfl
  next => cases hnext

/-- The last attempt fails. -/
theorem Sound.fail (h : r.Sound) (honce : r.AtMostOnce) {code : StatusCode} {message : String}
    (hnext : r.next c (.fail code message) = some r') :
    (r'.AtMostOnce ↔ r.Careful c (.fail code message)) ∧ r'.Sound := by
  rw [next] at hnext
  split at hnext
  next n hclient =>
    cases hnext
    refine ⟨h.client_iff honce _ rfl ?_, h.fresh, h.fits⟩
    rw [GivesUp, hclient, Client.receive]
    rcases isRetryable code with _ | _
    · exact iff_of_true ⟨_, _, rfl⟩ rfl
    · exact iff_of_false (fun ⟨_, _, heq⟩ => nomatch heq) (Ne.symm Bool.false_ne_true)
  next => cases hnext

/-- A request is refused, or a session is prepared for it. -/
theorem accept_cases (c : Setting) (m : QodSessionManager) (correlationId : String) (checked : ℤ)
    (sessionId : String) (now : ℤ) :
    (∃ reply, c.accept m correlationId checked sessionId now = .refused reply) ∨
      ∃ request session, readCreateRequest c.lib c.reader (c.contextOf correlationId)
          (serialiseCreateRequest c.lib c.request) checked = .ok request ∧
        m.prepareSession request sessionId now = .ok (some session) ∧
        c.accept m correlationId checked sessionId now =
          .applying correlationId request session := by
  rw [Setting.accept]
  split
  · exact .inl ⟨_, rfl⟩
  next request hrequest =>
    split
    next session hprepared => exact .inr ⟨request, session, hrequest, hprepared, rfl⟩
    · exact .inl ⟨_, rfl⟩
    · exact .inl ⟨_, rfl⟩

theorem matches_of_nil {attempt : Attempt} (h : attempt.sessionIds = []) :
    Matches m attempt := by
  rcases attempt with _ | _ | _ | _
  · trivial
  · cases h
  · cases h
  · trivial

/-- What is stored for a call, when one of its attempts goes on. -/
theorem exists_created_set {i : ℕ} {attempt : Attempt} (hi : r.attempts[i]? = some attempt) :
    ∃ others : List Attempt, (∀ a ∈ others, a ∈ r.attempts) ∧
      r.created.Perm (attempt.sessionIds ++ others.flatMap Attempt.sessionIds) ∧
      ∀ attempt' : Attempt, ((r.attempts.set i attempt').flatMap Attempt.sessionIds).Perm
          (attempt'.sessionIds ++ others.flatMap Attempt.sessionIds) ∧
        ∀ a ∈ r.attempts.set i attempt', a = attempt' ∨ a ∈ others := by
  obtain ⟨others, hperm, hset⟩ := exists_perm_set hi
  refine ⟨others, fun a ha => hperm.mem_iff.2 (List.mem_cons_of_mem _ ha),
    hperm.flatMap_right _, fun attempt' => ⟨(hset attempt').flatMap_right _, fun a ha => ?_⟩⟩
  exact List.mem_cons.1 ((hset attempt').mem_iff.1 ha)

/-- Nothing is stored for a request that is refused. -/
theorem Sound.refused (h : r.Sound) (honce : r.AtMostOnce) {i : ℕ} {correlationId : String}
    (hi : r.attempts[i]? = some (.sent correlationId)) (sessionId : String) (reply : QodReply)
    (hr' : r' = ⟨r.manager, sessionId :: r.drawn, r.client, r.attempts.set i (.refused reply)⟩) :
    r'.AtMostOnce ∧ r'.Sound := by
  subst hr'
  obtain ⟨others, hothers, hperm, hset⟩ := exists_created_set hi
  obtain ⟨hperm', hmem⟩ := hset (.refused reply)
  have hsame := hperm'.trans hperm.symm
  refine ⟨⟨?_, fun hfailed id hid => ?_⟩, fun hnone => ?_, fun a ha => ?_⟩
  · exact hsame.length_eq.trans_le honce.length_le
  · exact honce.not_live hfailed id (hsame.mem_iff.1 hid)
  · obtain ⟨hfiled, hmapped⟩ := h.fresh (List.perm_nil.1 (hnone ▸ hsame.symm))
    exact ⟨hfiled, fun p id hp => List.mem_cons_of_mem _ (hmapped p id hp)⟩
  · rcases hmem a ha with rfl | ha
    · trivial
    · exact h.fits a (hothers a ha)

/-- The session of a request that is accepted is alive, and is one more. -/
theorem Sound.accepted (h : r.Sound) {i : ℕ} {correlationId sessionId : String}
    (hi : r.attempts[i]? = some (.sent correlationId)) (hdrawn : sessionId ∉ r.drawn)
    {request : PhineAf.CreateSessionRequest} {now : ℤ} {session : QodSession}
    (hprepared : r.manager.prepareSession request sessionId now = .ok (some session))
    (hr' : r' = ⟨r.manager.storeSession session now, sessionId :: r.drawn, r.client,
      r.attempts.set i (.applying correlationId request session)⟩) :
    (r'.AtMostOnce ↔ r.created = [] ∧ ¬r.Failed) ∧ (r.created = [] → r'.Sound) := by
  subst hr'
  obtain ⟨others, hothers, hperm, hset⟩ := exists_created_set hi
  obtain ⟨hperm', hmem⟩ := hset (.applying correlationId request session)
  have hcons := hperm'.trans (hperm.symm.cons session.sessionId)
  obtain ⟨hid, -, -, -, hstatus, -⟩ := prepared hprepared
  have hstored : (r.manager.storeSession session now).qod.getSessionById session.sessionId =
      some session := by
    rw [getSessionById_storeSession, if_pos rfl]
  refine ⟨⟨fun honce' => ⟨?_, fun hfailed => ?_⟩, fun ⟨hnone, hnot⟩ => ⟨?_, ?_⟩⟩,
    fun hnone => ⟨fun hnil => ?_, fun a ha => ?_⟩⟩
  · have hle : (session.sessionId :: r.created).length ≤ 1 :=
      hcons.length_eq.symm.trans_le honce'.length_le
    exact List.eq_nil_of_length_eq_zero (Nat.le_zero.1 (Nat.le_of_succ_le_succ hle))
  · refine honce'.not_live hfailed session.sessionId
      (hcons.mem_iff.2 List.mem_cons_self) ⟨session, hstored, ?_⟩
    rw [hstatus]
    decide
  · refine hcons.length_eq.trans_le ?_
    rw [hnone]
    exact le_refl 1
  · exact fun hfailed => absurd hfailed hnot
  · exact absurd ((List.Perm.of_eq hnil).symm.trans hcons) (List.not_perm_nil_cons _ _)
  · rcases hmem a ha with rfl | ha
    · obtain ⟨hfiled, hmapped⟩ := h.fresh hnone
      refine ⟨hfiled.of_addSession rfl, hstored, hstatus, fun p hp => hdrawn ?_⟩
      rw [← hid]
      exact hmapped p _ hp
    · refine matches_of_nil (List.eq_nil_iff_forall_not_mem.2 fun id hmem' => ?_)
      have hcreated : id ∈ r.created := List.mem_flatMap.2 ⟨a, hothers a ha, hmem'⟩
      rw [hnone] at hcreated
      cases hcreated

/-- A request comes to AF core. -/
theorem Sound.deliver (h : r.Sound) (honce : r.AtMostOnce) {i : ℕ} {checked : ℤ}
    {sessionId : String} {now : ℤ} (hnext : r.next c (.deliver i checked sessionId now) = some r') :
    (r'.AtMostOnce ↔ r.Careful c (.deliver i checked sessionId now)) ∧
      (r.Careful c (.deliver i checked sessionId now) → r'.Sound) := by
  rw [next] at hnext
  split at hnext
  next correlationId hi =>
    split_ifs at hnext with hdrawn
    cases hnext
    rcases accept_cases c r.manager correlationId checked sessionId now with
      ⟨reply, haccept⟩ | ⟨request, session, -, hprepared, haccept⟩
    · have hcareful : r.Careful c (.deliver i checked sessionId now) := by
        intro correlationId' request session hi' haccept'
        cases hi.symm.trans hi'
        rw [haccept] at haccept'
        cases haccept'
      simp only [haccept]
      obtain ⟨honce', hsound⟩ := h.refused honce hi sessionId reply rfl
      exact ⟨iff_of_true honce' hcareful, fun _ => hsound⟩
    · have hcareful : r.Careful c (.deliver i checked sessionId now) ↔
          r.created = [] ∧ ¬r.Failed :=
        ⟨fun hcareful => hcareful _ _ _ hi haccept, fun hfirst _ _ _ _ _ => hfirst⟩
      simp only [haccept]
      obtain ⟨hiff, hsound⟩ := h.accepted hi hdrawn hprepared rfl
      exact ⟨hiff.trans hcareful.symm, fun hfirst => hsound (hcareful.1 hfirst).1⟩
  next => cases hnext

/-- AF core has the answer of the PCF. -/
theorem Sound.conclude (h : r.Sound) (honce : r.AtMostOnce) {i : ℕ} {reply : Option PcfReply}
    {later : ℤ} (hnext : r.next c (.conclude i reply later) = some r') :
    r'.AtMostOnce ∧ r'.Sound := by
  rw [next] at hnext
  split at hnext
  next correlationId request session hi =>
    cases hnext
    obtain ⟨others, hothers, hperm, hset⟩ := exists_created_set hi
    obtain ⟨hfiled, hs, hstatus, hunmapped⟩ := h.fits _ (List.mem_of_getElem? hi)
    obtain ⟨hperm', hmem⟩ := hset (.created session
      (r.manager.applySessionToPcf session reply later).1 (createReply c.format
        (c.contextOf correlationId) request (concludeSession session
          (r.manager.applySessionToPcf session reply later)).1))
    have hsame := hperm'.trans hperm.symm
    -- The session is the only one of the call, and alive so far.
    have hnone : others.flatMap Attempt.sessionIds = [] := by
      have hle := hperm.length_eq.symm.trans_le honce.length_le
      rw [List.length_append] at hle
      exact List.eq_nil_of_length_eq_zero (Nat.le_zero.1 (Nat.le_of_succ_le_succ
        ((Nat.add_comm _ _).trans_le hle)))
    have hnot : ¬r.Failed := by
      intro hfailed
      refine honce.not_live hfailed session.sessionId
        (hperm.mem_iff.2 List.mem_cons_self) ⟨session, hs, ?_⟩
      rw [hstatus]
      decide
    refine ⟨⟨?_, fun hfailed => absurd hfailed hnot⟩, fun hnil => ?_, fun a ha => ?_⟩
    · exact hsame.length_eq.trans_le honce.length_le
    · exact absurd ((List.Perm.of_eq hnil).symm.trans hperm') (List.not_perm_nil_cons _ _)
    · rcases hmem a ha with rfl | ha
      · exact live_concludeSession hfiled hs hstatus hunmapped reply later
      · exact matches_of_nil (List.flatMap_eq_nil_iff.1 hnone a ha)
  next => cases hnext

/-- A step keeps the property exactly if it is careful. -/
theorem atMostOnce_iff_of_next (h : r.Sound) (honce : r.AtMostOnce)
    (hnext : r.next c op = some r') :
    (r'.AtMostOnce ↔ r.Careful c op) ∧ (r.Careful c op → r'.Sound) := by
  cases op with
  | send correlationId =>
    obtain ⟨hiff, hsound⟩ := h.send honce hnext
    exact ⟨hiff, fun _ => hsound⟩
  | deliver i checked sessionId now => exact h.deliver honce hnext
  | conclude i reply later =>
    obtain ⟨honce', hsound⟩ := h.conclude honce hnext
    exact ⟨iff_of_true honce' nofun, fun _ => hsound⟩
  | receive =>
    obtain ⟨hiff, hsound⟩ := h.receive honce hnext
    exact ⟨hiff, fun _ => hsound⟩
  | fail code message =>
    obtain ⟨hiff, hsound⟩ := h.fail honce hnext
    exact ⟨hiff, fun _ => hsound⟩

/-- A call stores one session at most, and leaves none alive when it returns an error, as
    long as its steps are careful; and the first that is not breaks this. -/
theorem atMostOnce_of_reachable (hr : ((creationSystem c).restrict (Careful c)).Reachable r) :
    r.AtMostOnce ∧ ∀ op r', r.next c op = some r' → (r'.AtMostOnce ↔ r.Careful c op) := by
  have hboth : r.Sound ∧ r.AtMostOnce := by
    refine hr.invariant (P := fun r => r.Sound ∧ r.AtMostOnce) ?_ ?_
    · rintro r ⟨core, hcore, rfl⟩
      refine ⟨⟨fun _ => ?_, fun a ha => (by cases ha)⟩, Nat.zero_le 1, fun _ id hid => ?_⟩
      · exact ⟨(QodRun.filed_of_reachable hcore).1,
          fun p id hp => (QodRun.mapped_of_reachable hcore p id hp).1⟩
      · cases hid
    · rintro r op r' - ⟨hsound, honce⟩ ⟨hcareful, hnext⟩
      obtain ⟨hiff, hsound'⟩ := atMostOnce_iff_of_next hsound honce hnext
      exact ⟨hsound' hcareful, hiff.2 hcareful⟩
  exact ⟨hboth.2, fun op r' hnext => (atMostOnce_iff_of_next hboth.1 hboth.2 hnext).1⟩

/-- A two-legged consumer, with the phone of `phoneRequest`. -/
def phoneSetting : Setting where
  lib := phoneLibrary
  reader := ⟨{ credentialType := .accessToken }, fun _ => 0⟩
  format _ := "1970-01-01T00:00:00Z"
  contextOf correlationId := ⟨"consumer", correlationId, false⟩
  payloadOf
    | .error e _ => e.message
    | .success .. => "session"
  config := {}
  request := phoneRequest

/-- AF core at its start. -/
def phoneCall : CreateCall := ⟨QodRun.initial.manager, [], .ready 1, []⟩

set_option maxRecDepth 20000 in
/-- The first request is accepted and concluded, and its reply comes to the client. -/
theorem atMostOnce_first : ∃ r : CreateCall, r.client = .returned (.ok "session") ∧
    r.created = ["session-1"] ∧ r.AtMostOnce := by
  have hsent : ((creationSystem phoneSetting).restrict (Careful phoneSetting)).Reachable _ :=
    .step (a := CreateCallOp.send "call-1") (s := phoneCall)
      (.init ⟨QodRun.initial, .init ⟨_, _, _, _, rfl⟩, rfl⟩)
      ⟨fun ⟨_, h, hlt⟩ => (by cases h; cases hlt), rfl⟩
  have hdelivered : ((creationSystem phoneSetting).restrict (Careful phoneSetting)).Reachable _ :=
    .step (a := CreateCallOp.deliver 0 0 "session-1" 0) hsent
      ⟨fun _ _ _ _ _ => ⟨rfl, fun ⟨_, _, h⟩ => nomatch h⟩, rfl⟩
  have hconcluded : ((creationSystem phoneSetting).restrict (Careful phoneSetting)).Reachable _ :=
    .step (a := CreateCallOp.conclude 0 (some (.created "pcf-1")) 1) hdelivered
      ⟨fun h => (nomatch h), rfl⟩
  have hreceived : ((creationSystem phoneSetting).restrict (Careful phoneSetting)).Reachable _ :=
    .step (a := CreateCallOp.receive) hconcluded ⟨fun ⟨attempt, hattempt, reply, hreply, herror⟩ =>
      (by cases hattempt; cases hreply; cases herror), rfl⟩
  exact ⟨_, rfl, rfl, (atMostOnce_of_reachable hreceived).1⟩

/-- The reply to the first attempt is lost. -/
def secondAttempt : List CreateCallOp :=
  [.send "call-1", .deliver 0 0 "session-1" 0, .conclude 0 (some (.created "pcf-1")) 1,
    .fail .deadlineExceeded "Deadline Exceeded", .send "call-2", .deliver 1 2 "session-2" 2,
    .conclude 1 (some (.created "pcf-2")) 3]

set_option maxRecDepth 20000 in
/-- The request is accepted once more. -/
theorem not_atMostOnce_second : ∃ r : CreateCall,
    (creationSystem phoneSetting).Reachable r ∧ r.created = ["session-1", "session-2"] ∧
      ¬r.AtMostOnce := by
  have hrun : (secondAttempt.foldlM (next phoneSetting) phoneCall).map created =
      some ["session-1", "session-2"] := rfl
  obtain ⟨r, hr, hcreated⟩ := Option.map_eq_some_iff.1 hrun
  refine ⟨r, .foldlM (fun _ _ _ _ h => h) (.init ⟨QodRun.initial, ?_, rfl⟩) hr,
    hcreated, fun honce => ?_⟩
  · exact .init ⟨_, _, _, _, rfl⟩
  · have hle := honce.length_le
    rw [hcreated] at hle
    exact absurd hle (by decide)

end CreateCall

end PhineAf.Adapter

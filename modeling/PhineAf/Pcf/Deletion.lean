import PhineAf.Pcf.SessionMap

/-!
# Deletions at the PCF

A QoD session whose deletion the PCF handler has answered is to be forgotten by both
maps, and no application session is to be deleted at the PCF twice.

The handler only marks the session as being deleted. It would be forgotten when the
response of the PCF is handled, but the deletion is synchronous, and no response comes:
every deletion that succeeds leaves the session in the maps, and can be repeated, with
another call of the gateway for the same application session.
-/

namespace PhineAf

namespace QodPcfHandler

variable {h h' : QodPcfHandler} {c : HandlerSetup} {op : HandlerOp} {q p : String}

/-- The application session that a call of the gateway has deleted. -/
def deletedBy : GatewayCall → Option String
  | .deleteAppSession appSessionId _ true => some appSessionId
  | _ => none

/-- The application sessions that the gateway has deleted so far, latest first. -/
def deletedSoFar (h : QodPcfHandler) : List String := h.calls.filterMap deletedBy

/-- A QoD session occurs in one of the maps. -/
def Mentions (h : QodPcfHandler) (q : String) : Prop := h.pcfOf q ≠ none ∨ ∃ p, h.qodOf p = some q

/-- The answer is a deletion. -/
def IsDeletion : HandlerReply → Prop
  | .success .deleteAppSession _ _ => True
  | _ => False

/-- A session whose deletion is answered is not mentioned any more. -/
def Forgets (c : HandlerSetup) (h : QodPcfHandler) (op : HandlerOp) (h' : QodPcfHandler) : Prop :=
  match op with
  | .deletePcfSession body correlationId success =>
    ∀ q, body.bind (parseDeleteRequest c.lib) = .ok q →
      IsDeletion (h.handleQodDeletePcfSession c.lib body correlationId success).1 → ¬h'.Mentions q
  | _ => True

/-- No session that has a PCF session is deleted at the gateway. -/
def Spares (c : HandlerSetup) (h : QodPcfHandler) : HandlerOp → Prop
  | .deletePcfSession body _ success =>
    ∀ q, body.bind (parseDeleteRequest c.lib) = .ok q → h.pcfOf q ≠ none → success = false
  | _ => True

/-! ## One message -/

/-- A deletion: there is nothing to delete, or the gateway fails, or it deletes the PCF
    session of the QoD session, which keeps it. -/
theorem deletePcfSession_cases (q : String) (success : Bool) :
    (h.pcfOf q = none ∧ h.deletePcfSession q success = (none, h)) ∨
      ∃ p, h.pcfOf q = some p ∧
        (success = false ∧
            (∃ message, (h.deletePcfSession q success).1 = some (.error 502 "pcf_request_failed" message q)) ∧
            (h.deletePcfSession q success).2.deletedSoFar = h.deletedSoFar ∨
          success = true ∧
            (h.deletePcfSession q success).1 = some (.success .deleteAppSession p q) ∧
            (h.deletePcfSession q success).2.deletedSoFar = p :: h.deletedSoFar ∧
            (h.deletePcfSession q success).2.pcfOf q = some p) := by
  rw [deletePcfSession]
  rcases hinfo : h.getPcfSessionInfo q with _ | info
  · refine .inl ⟨?_, rfl⟩
    rw [pcfOf, ← getPcfSessionInfo, hinfo]
    rfl
  · have hp : h.pcfOf q = some info.pcfSessionId := by
      rw [pcfOf, ← getPcfSessionInfo, hinfo]
      rfl
    refine .inr ⟨info.pcfSessionId, hp, ?_⟩
    rcases success with _ | _
    · exact .inl ⟨rfl, ⟨_, rfl⟩, rfl⟩
    · refine .inr ⟨rfl, rfl, ?_, ?_⟩
      · exact congrArg (List.filterMap deletedBy) (calls_updateSessionState (h := h.call
          (.deleteAppSession info.pcfSessionId (deleteRequest q) true)) info.pcfSessionId .deleting)
      · exact ((kept_updateSessionState _ _).1 q).trans hp

/-- A creation deletes nothing at the gateway. -/
theorem deletedSoFar_createPcfSession (rules : RequestRules) (session : ReceivedSession)
    (success : Bool) (response : Json) (now : ℤ) :
    (h.createPcfSession rules session success response now).2.deletedSoFar = h.deletedSoFar := by
  rcases createPcfSession_cases (h := h) rules session success response now rfl with
    ⟨-, -, -, -, hcalls⟩ | ⟨-, -, hcalls | ⟨hcalls, -⟩⟩ <;> rw [deletedSoFar, hcalls] <;> rfl

/-- An update deletes nothing at the gateway. -/
theorem deletedSoFar_updatePcfSession (rules : RequestRules) (session : ReceivedSession)
    (success : Bool) : (h.updatePcfSession rules session success).2.deletedSoFar = h.deletedSoFar := by
  rw [updatePcfSession]
  split
  · rfl
  · dsimp only
    split_ifs
    · rfl
    · rw [deletedSoFar, calls_modifyInfo, calls_updateSessionState]
      rfl

/-- Responses make no call. -/
theorem calls_handlePcfCreateResponse (lib : Json.Library) (type : PcfResponseType)
    (correlationId : String) (payload : Except String Json) :
    (h.handlePcfCreateResponse lib type correlationId payload).2.calls = h.calls := by
  rw [handlePcfCreateResponse.eq_def]
  split
  · rfl
  · split
    · split
      · rfl
      · dsimp only
        split_ifs
        · rfl
        · rw [calls_modifyInfo, calls_updateSessionState]
    · split
      · exact calls_removeSessionMapping _
      · rfl
      · rfl
    · rfl

theorem calls_handlePcfUpdateResponse (type : PcfResponseType) (correlationId : String)
    (payload : Except String Json) :
    (h.handlePcfUpdateResponse type correlationId payload).2.calls = h.calls := by
  rw [handlePcfUpdateResponse.eq_def]
  split
  · split
    · rfl
    · rw [calls_modifyInfo, calls_updateSessionState]
  · rfl

theorem calls_handlePcfDeleteResponse (type : PcfResponseType) (correlationId : String) :
    (h.handlePcfDeleteResponse type correlationId).2.calls = h.calls := by
  rw [handlePcfDeleteResponse.eq_def]
  split
  · exact calls_removeSessionMapping _
  · rfl

/-- A message that spares the sessions deletes nothing at the gateway. -/
theorem deletedSoFar_next_of_spares (hspares : h.Spares c op) :
    (h.next c op).deletedSoFar = h.deletedSoFar := by
  rcases op with ⟨body, correlationId, success, response, now⟩ | ⟨body, correlationId, success⟩ |
    ⟨body, correlationId, success⟩ | ⟨type, correlationId, payload⟩ |
    ⟨type, correlationId, payload⟩ | ⟨type, correlationId⟩
  · rw [next, handleQodCreatePcfSession]
    rcases serveRequest_cases (h := h) c.lib (parseCreateRequest c.mapper)
        "Failed to create PCF session request"
        (fun session => h.createPcfSession c.rules session success response now) body
        correlationId with ⟨-, heq⟩ | ⟨session, -, heq⟩ <;> rw [heq]
    exact deletedSoFar_createPcfSession ..
  · rw [next, handleQodUpdatePcfSession]
    rcases serveRequest_cases (h := h) c.lib (parseUpdateRequest c.mapper)
        "Failed to create PCF session update request"
        (fun session => h.updatePcfSession c.rules session success) body correlationId with
      ⟨-, heq⟩ | ⟨session, -, heq⟩ <;> rw [heq]
    exact deletedSoFar_updatePcfSession ..
  · rw [next, handleQodDeletePcfSession]
    rcases hq : body.bind (parseDeleteRequest c.lib) with what | q
    · rfl
    · dsimp only
      rcases deletePcfSession_cases (h := h) q success with
        ⟨-, heq⟩ | ⟨p, hp, ⟨-, -, hdeleted⟩ | ⟨htrue, -⟩⟩
      · rw [heq]
      · exact hdeleted
      · have hfalse : success = false := hspares q hq fun hnone => by cases hp.symm.trans hnone
        cases hfalse.symm.trans htrue
  · rw [next, deletedSoFar, calls_handlePcfCreateResponse]
    rfl
  · rw [next, deletedSoFar, calls_handlePcfUpdateResponse]
    rfl
  · rw [next, deletedSoFar, calls_handlePcfDeleteResponse]
    rfl

/-- A session is forgotten exactly if it is spared: every deletion that is answered
    leaves it in the maps. -/
theorem forgets_next_iff : Forgets c h op (h.next c op) ↔ h.Spares c op := by
  rcases op with _ | _ | ⟨body, correlationId, success⟩ | _ | _ | _
  case deletePcfSession =>
    rw [Forgets, Spares]
    refine forall_congr' fun q => forall_congr' fun hq => ?_
    rw [next, handleQodDeletePcfSession, hq]
    dsimp only
    rcases deletePcfSession_cases (h := h) q success with
      ⟨hnone, heq⟩ | ⟨p, hp, ⟨hfalse, ⟨message, hreply⟩, -⟩ | ⟨htrue, hreply, -, hkept⟩⟩
    · rw [heq]
      exact iff_of_true (fun h => h.elim) fun hp => absurd hnone hp
    · rw [hreply]
      exact iff_of_true (fun h => h.elim) fun _ => hfalse
    · rw [hreply]
      refine iff_of_false (fun hforgets => ?_) fun hspares => ?_
      · refine hforgets trivial (.inl ?_)
        rw [hkept]
        exact fun h => by cases h
      · have hne : h.pcfOf q ≠ none := fun hnone => by cases hp.symm.trans hnone
        cases htrue.symm.trans (hspares hne)
  all_goals exact Iff.rfl

/-! ## Runs -/

/-- In every run without a deletion that succeeds at the gateway for a session that has a
    PCF session, no application session is deleted twice, and deleted sessions are
    forgotten; and the first such deletion breaks this. -/
theorem forgets_of_reachable (hr : ((handlerSystem c).restrict (Spares c)).Reachable h) :
    h.deletedSoFar.Nodup ∧ ∀ op h', (handlerSystem c).step h op h' →
      (Forgets c h op h' ∧ h'.deletedSoFar.Nodup ↔ h.Spares c op) := by
  have hnodup : h.deletedSoFar.Nodup := by
    refine System.Reachable.invariant (P := fun h => h.deletedSoFar.Nodup) ?_ ?_ hr
    · intro h hinit
      rw [show h = empty from hinit]
      exact List.nodup_nil
    · rintro h op h' - hnodup ⟨hspares, hstep⟩
      rw [show h' = h.next c op from hstep, deletedSoFar_next_of_spares hspares]
      exact hnodup
  refine ⟨hnodup, fun op h' hstep => ?_⟩
  rw [show h' = h.next c op from hstep]
  constructor
  · rintro ⟨hforgets, -⟩
    exact forgets_next_iff.1 hforgets
  · intro hspares
    refine ⟨forgets_next_iff.2 hspares, ?_⟩
    rw [deletedSoFar_next_of_spares hspares]
    exact hnodup

/-- A request to delete a session. -/
def deletion (sessionId : String) (success : Bool) : HandlerOp :=
  .deletePcfSession (.ok (.obj [("session_id", .str sessionId)])) "2" success

/-- A deletion that the gateway refuses. -/
theorem forgets_after_refusal : ∃ h : QodPcfHandler,
    ((handlerSystem plainSetup).restrict (Spares plainSetup)).Reachable h ∧
      h.pcfOf "session-1" = some "app-1" ∧ h.deletedSoFar.Nodup := by
  have h₀ : ((handlerSystem plainSetup).restrict (Spares plainSetup)).Reachable empty := .init rfl
  have h₁ := h₀.step (a := voiceSession "session-1" "app-1") ⟨trivial, rfl⟩
  have h₂ := h₁.step (a := deletion "session-1" false) ⟨fun _ _ _ => rfl, rfl⟩
  exact ⟨_, h₂, rfl, (forgets_of_reachable h₂).1⟩

/-- A session is deleted, and its deletion repeated: the gateway deletes its application
    session twice, and the session is still in both maps. -/
theorem not_forgets_repeated : ∃ h h' : QodPcfHandler, (handlerSystem plainSetup).Reachable h ∧
    (handlerSystem plainSetup).step h (deletion "session-1" true) h' ∧
    ¬Forgets plainSetup h (deletion "session-1" true) h' ∧
    h'.pcfOf "session-1" = some "app-1" ∧ h'.qodOf "app-1" = some "session-1" ∧
    h'.deletedSoFar = ["app-1", "app-1"] := by
  have h₀ : (handlerSystem plainSetup).Reachable empty := .init rfl
  have h₁ := h₀.step (a := voiceSession "session-1" "app-1") rfl
  have h₂ := h₁.step (a := deletion "session-1" true) rfl
  refine ⟨_, _, h₂, rfl, fun h => h "session-1" rfl trivial (.inl ?_), rfl, rfl, rfl⟩
  exact fun h => by cases h

end QodPcfHandler

end PhineAf

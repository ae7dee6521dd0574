import PhineAf.Lib.Inverse
import PhineAf.Lib.System
import PhineAf.Pcf.Handler

/-!
# The two maps of the PCF handler

The handler finds the PCF session of a QoD session in one map, and the QoD session of a
PCF session in another. The two are to be inverse to each other, in every state that
requests and responses lead to, while the PCF issues new ids only.

Two operations break this: a second creation for a QoD session, which leaves the entry
of its first PCF session behind, and a response with another id than the one mapped,
which is written into one map only. Without these (`QodPcfHandler.Pairs`) the maps are
inverse to each other (`QodPcfHandler.inverse_of_reachable`).
-/

namespace PhineAf

/-! ## Runs -/

/-- What the handler relies on. -/
structure HandlerSetup where
  lib : Json.Library
  mapper : QosProfileMapper
  rules : RequestRules

/-- A message to the handler, with the result of the gateway. -/
inductive HandlerOp
  | createPcfSession (body : Except String Json) (correlationId : String) (success : Bool)
      (response : Json) (now : ℤ)
  | updatePcfSession (body : Except String Json) (correlationId : String) (success : Bool)
  | deletePcfSession (body : Except String Json) (correlationId : String) (success : Bool)
  | pcfCreateResponse (type : PcfResponseType) (correlationId : String)
      (payload : Except String Json)
  | pcfUpdateResponse (type : PcfResponseType) (correlationId : String)
      (payload : Except String Json)
  | pcfDeleteResponse (type : PcfResponseType) (correlationId : String)

namespace QodPcfHandler

/-- The handler after a message. -/
def next (c : HandlerSetup) (h : QodPcfHandler) : HandlerOp → QodPcfHandler
  | .createPcfSession body correlationId success response now =>
    (h.handleQodCreatePcfSession c.lib c.mapper c.rules body correlationId success response now).2
  | .updatePcfSession body correlationId success =>
    (h.handleQodUpdatePcfSession c.lib c.mapper c.rules body correlationId success).2
  | .deletePcfSession body correlationId success =>
    (h.handleQodDeletePcfSession c.lib body correlationId success).2
  | .pcfCreateResponse type correlationId payload =>
    (h.handlePcfCreateResponse c.lib type correlationId payload).2
  | .pcfUpdateResponse type correlationId payload =>
    (h.handlePcfUpdateResponse type correlationId payload).2
  | .pcfDeleteResponse type correlationId => (h.handlePcfDeleteResponse type correlationId).2

end QodPcfHandler

/-- The runs of a handler. -/
def handlerSystem (c : HandlerSetup) : System QodPcfHandler HandlerOp where
  init h := h = .empty
  step h op h' := h' = h.next c op

namespace QodPcfHandler

variable {h h' : QodPcfHandler} {c : HandlerSetup} {op : HandlerOp} {q p : String}

/-! ## What is mapped -/

/-- The PCF session of a QoD session. -/
def pcfOf (h : QodPcfHandler) (qodSessionId : String) : Option String :=
  (h.qodToPcfSessions.lookup qodSessionId).map (·.pcfSessionId)

/-- The QoD session of a PCF session. -/
def qodOf (h : QodPcfHandler) (pcfSessionId : String) : Option String :=
  h.pcfToQodSessions.lookup pcfSessionId

/-- The maps are the same. -/
def Kept (h h' : QodPcfHandler) : Prop :=
  (∀ q, h'.pcfOf q = h.pcfOf q) ∧ ∀ p, h'.qodOf p = h.qodOf p

theorem Kept.refl (h : QodPcfHandler) : Kept h h := ⟨fun _ => rfl, fun _ => rfl⟩

theorem Kept.trans {h₁ : QodPcfHandler} (hk : Kept h h₁) (hk' : Kept h₁ h') : Kept h h' :=
  ⟨fun q => (hk'.1 q).trans (hk.1 q), fun p => (hk'.2 p).trans (hk.2 p)⟩

theorem kept_call (c : GatewayCall) : Kept h (h.call c) := ⟨fun _ => rfl, fun _ => rfl⟩

theorem qodOf_modifyInfo (f : PcfSessionInfo → PcfSessionInfo) (p : String) :
    (h.modifyInfo q f).qodOf p = h.qodOf p := by
  rw [modifyInfo]
  split <;> rfl

/-- The PCF session a change of the information leads to. -/
theorem pcfOf_modifyInfo (f : PcfSessionInfo → PcfSessionInfo) (x : String) :
    (h.modifyInfo q f).pcfOf x =
      if x = q then (h.getPcfSessionInfo q).map fun info => (f info).pcfSessionId else h.pcfOf x := by
  rw [modifyInfo, getPcfSessionInfo]
  rcases hq : h.qodToPcfSessions.lookup q with _ | info
  · split_ifs with hx
    · rw [hx, pcfOf, hq]
      rfl
    · rfl
  · rw [pcfOf, Table.lookup_insert_eq]
    split_ifs <;> rfl

/-- A change of the information that keeps the PCF session keeps the maps. -/
theorem kept_modifyInfo {f : PcfSessionInfo → PcfSessionInfo}
    (hf : ∀ info, (f info).pcfSessionId = info.pcfSessionId) : Kept h (h.modifyInfo q f) := by
  refine ⟨fun x => ?_, qodOf_modifyInfo f⟩
  rw [pcfOf_modifyInfo]
  split_ifs with hx
  · rw [hx, pcfOf, getPcfSessionInfo]
    exact congrArg (fun g => (h.qodToPcfSessions.lookup q).map g) (funext hf)
  · rfl

theorem kept_updateSessionState (p : String) (state : PcfSessionState) :
    Kept h (h.updateSessionState p state) := by
  rw [updateSessionState]
  split
  · exact .refl h
  · exact kept_modifyInfo fun _ => rfl

@[simp]
theorem calls_modifyInfo (f : PcfSessionInfo → PcfSessionInfo) :
    (h.modifyInfo q f).calls = h.calls := by
  rw [modifyInfo]
  split <;> rfl

@[simp]
theorem calls_updateSessionState (p : String) (state : PcfSessionState) :
    (h.updateSessionState p state).calls = h.calls := by
  rw [updateSessionState]
  split
  · rfl
  · exact calls_modifyInfo _

@[simp]
theorem calls_removeSessionMapping (q : String) : (h.removeSessionMapping q).calls = h.calls := by
  rw [removeSessionMapping]
  split <;> rfl

/-- The pair of a QoD session is taken away, if it has one. -/
theorem removeSessionMapping_cases (q : String) :
    Kept h (h.removeSessionMapping q) ∨
      ∃ p, h.pcfOf q = some p ∧
        (∀ x, (h.removeSessionMapping q).pcfOf x = if x = q then none else h.pcfOf x) ∧
        ∀ y, (h.removeSessionMapping q).qodOf y = if y = p then none else h.qodOf y := by
  rw [removeSessionMapping]
  rcases hq : h.qodToPcfSessions.lookup q with _ | info
  · exact .inl (.refl h)
  · refine .inr ⟨info.pcfSessionId, by rw [pcfOf, hq]; rfl, fun x => ?_, fun y => ?_⟩
    · rw [pcfOf, Table.lookup_erase_eq]
      split_ifs <;> rfl
    · rw [qodOf, Table.lookup_erase_eq]
      rfl

/-- The pair of a QoD session and a PCF session is stored. -/
def Paired (q p : String) (h h' : QodPcfHandler) : Prop :=
  (∀ x, h'.pcfOf x = if x = q then some p else h.pcfOf x) ∧
    ∀ y, h'.qodOf y = if y = p then some q else h.qodOf y

theorem paired_storeSessionMapping (q p : String) (state : PcfSessionState) (now : ℤ) :
    Paired q p h (h.storeSessionMapping q p state now) := by
  refine ⟨fun x => ?_, fun y => ?_⟩
  · rw [pcfOf, storeSessionMapping, Table.lookup_insert_eq]
    split_ifs <;> rfl
  · rw [qodOf, storeSessionMapping, Table.lookup_insert_eq]
    rfl

theorem Paired.trans_kept {h₁ : QodPcfHandler} (hp : Paired q p h h₁) (hk : Kept h₁ h') :
    Paired q p h h' :=
  ⟨fun x => (hk.1 x).trans (hp.1 x), fun y => (hk.2 y).trans (hp.2 y)⟩

/-- What a creation stores after its call. -/
theorem paired_creation (c : GatewayCall) (q p : String) (state : PcfSessionState) (now : ℤ)
    (request : Json) :
    Paired q p h (((h.call c).storeSessionMapping q p state now).modifyInfo q fun info =>
      { info with lastRequest := request }) :=
  (paired_storeSessionMapping (h := h.call c) q p state now).trans_kept
    (kept_modifyInfo fun _ => rfl)

/-! ## What the PCF issues -/

/-- The application session that a call of the gateway has created. -/
def issued : GatewayCall → Option String
  | .createAppSession _ true response =>
    ((locationOf response).toOption.join.bind appSessionIdOf).filter fun p => !p.isEmpty
  | _ => none

/-- The application sessions the PCF has created so far. -/
def issuedSoFar (h : QodPcfHandler) : List String := h.calls.filterMap issued

/-- The call a creation makes of the gateway. -/
def creation (rules : RequestRules) (session : ReceivedSession) (success : Bool) (response : Json) :
    GatewayCall :=
  .createAppSession (rules.buildPcfCreateRequest session) success response

/-- A creation that is valid and gets an id stores the pair; any other stores nothing. -/
theorem createPcfSession_cases (rules : RequestRules) (session : ReceivedSession) (success : Bool)
    (response : Json) (now : ℤ)
    (hh' : (h.createPcfSession rules session success response now).2 = h') :
    (rules.validateAppSessionContext (rules.buildPcfCreateRequest session) = true ∧
      ∃ p, issued (creation rules session success response) = some p ∧
        Paired session.sessionId p h h' ∧
        h'.calls = creation rules session success response :: h.calls) ∨
      ¬(rules.validateAppSessionContext (rules.buildPcfCreateRequest session) = true ∧
          ∃ p, issued (creation rules session success response) = some p) ∧ Kept h h' ∧
        (h'.calls = h.calls ∨ h'.calls = creation rules session success response :: h.calls ∧
          issued (creation rules session success response) = none) := by
  rw [createPcfSession, ← creation] at hh'
  dsimp only at hh'
  split_ifs at hh' with hvalid hsuccess
  · rw [← hh']
    exact .inr ⟨fun h => by simp [h.1] at hvalid, .refl h, .inl rfl⟩
  all_goals
    have hvalid : rules.validateAppSessionContext (rules.buildPcfCreateRequest session) = true := by
      simpa using hvalid
    -- The call is logged, and no id is found in the response.
    have hnone : issued (creation rules session success response) = none →
        h.call (creation rules session success response) = h' →
        ¬(rules.validateAppSessionContext (rules.buildPcfCreateRequest session) = true ∧
            ∃ p, issued (creation rules session success response) = some p) ∧ Kept h h' ∧
          (h'.calls = h.calls ∨ h'.calls = creation rules session success response :: h.calls ∧
            issued (creation rules session success response) = none) := by
      intro hissued hcall
      rw [hissued, ← hcall]
      refine ⟨?_, kept_call _, .inr ⟨rfl, rfl⟩⟩
      rintro ⟨-, p, hp⟩
      cases hp
  · refine .inr (hnone ?_ hh')
    have hfalse : success = false := by simpa using hsuccess
    rw [creation, hfalse]
    rfl
  · have htrue : success = true := by simpa using hsuccess
    have hissued : issued (creation rules session success response) =
        ((locationOf response).toOption.join.bind appSessionIdOf).filter fun p => !p.isEmpty := by
      rw [creation, htrue]
      rfl
    rcases hlocation : locationOf response with e | _ | location <;> rw [hlocation] at hh' hissued
    · exact .inr (hnone hissued hh')
    · exact .inr (hnone hissued hh')
    · rcases hid : appSessionIdOf location with _ | p
      · refine .inr (hnone ?_ ?_)
        · rw [hissued]
          simp [Except.toOption, hid]
        · rw [← hh']
          dsimp only
          rw [hid]
      · have hissued' : issued (creation rules session success response) =
            if p.isEmpty then none else some p := by
          rw [hissued]
          simp only [Except.toOption, Option.join_some, Option.bind_some, hid, Option.filter_some]
          cases p.isEmpty <;> rfl
        dsimp only at hh'
        rw [hid] at hh'
        dsimp only at hh'
        split_ifs at hh' hissued' with hempty
        · exact .inr (hnone hissued' hh')
        · rw [← hh']
          exact .inl ⟨hvalid, p, hissued', paired_creation .., calls_modifyInfo _⟩

theorem updatePcfSession_kept (rules : RequestRules) (session : ReceivedSession) (success : Bool) :
    Kept h (h.updatePcfSession rules session success).2 ∧
      (h.updatePcfSession rules session success).2.issuedSoFar = h.issuedSoFar := by
  rw [updatePcfSession]
  split
  · exact ⟨.refl h, rfl⟩
  · dsimp only
    split_ifs
    · exact ⟨kept_call _, rfl⟩
    · refine ⟨((kept_call _).trans (kept_updateSessionState _ _)).trans (kept_modifyInfo fun _ => rfl),
        ?_⟩
      rw [issuedSoFar, calls_modifyInfo, calls_updateSessionState]
      rfl

theorem deletePcfSession_kept (sessionId : String) (success : Bool) :
    Kept h (h.deletePcfSession sessionId success).2 ∧
      (h.deletePcfSession sessionId success).2.issuedSoFar = h.issuedSoFar := by
  rw [deletePcfSession]
  split
  · exact ⟨.refl h, rfl⟩
  · dsimp only
    split_ifs
    · exact ⟨kept_call _, rfl⟩
    · refine ⟨(kept_call _).trans (kept_updateSessionState _ _), ?_⟩
      rw [issuedSoFar, calls_updateSessionState]
      rfl

/-! ## What a message does to the maps -/

/-- The session that a creation reads from its body. -/
def received (c : HandlerSetup) (body : Except String Json) : Option ReceivedSession :=
  body.toOption.bind fun json => (parseCreateRequest c.mapper json).toOption

/-- The pair that a creation stores. -/
def pairOf (c : HandlerSetup) : HandlerOp → Option (String × String)
  | .createPcfSession body _ success response _ => (received c body).bind fun session =>
    if c.rules.validateAppSessionContext (c.rules.buildPcfCreateRequest session) then
      (issued (creation c.rules session success response)).map (session.sessionId, ·)
    else none
  | _ => none

/-- The pair that a response speaks of. -/
def answerOf : HandlerOp → Option (String × String)
  | .pcfCreateResponse .created correlationId payload =>
    ((payload.toOption.bind fun json => (textIn json "appSessionId" "").toOption).filter
      fun p => !p.isEmpty).map (correlationId, ·)
  | _ => none

/-- The PCF session of one QoD session is written, without the way back. -/
def Redirected (q p : String) (h h' : QodPcfHandler) : Prop :=
  (∀ x, h'.pcfOf x = if x = q then some p else h.pcfOf x) ∧ ∀ y, h'.qodOf y = h.qodOf y

/-- The pair of a QoD session and a PCF session is taken away. -/
def Parted (q p : String) (h h' : QodPcfHandler) : Prop :=
  (∀ x, h'.pcfOf x = if x = q then none else h.pcfOf x) ∧
    ∀ y, h'.qodOf y = if y = p then none else h.qodOf y

/-- A PCF session is written to the information of a QoD session: where there is one before. -/
theorem pcfOf_modifyInfo_of_kept {h₁ : QodPcfHandler} (hk : Kept h h₁) {p : String}
    {f : PcfSessionInfo → PcfSessionInfo} (hf : ∀ info, (f info).pcfSessionId = p) (x : String) :
    (h₁.modifyInfo q f).pcfOf x = if x = q then (h.pcfOf q).map fun _ => p else h.pcfOf x := by
  rw [pcfOf_modifyInfo, funext hf, hk.1 x]
  split_ifs
  · rw [← hk.1 q, pcfOf, Option.map_map]
    rfl
  · rfl

theorem kept_modifyInfo_of_kept {h₁ : QodPcfHandler} (hk : Kept h h₁) {p : String}
    {f : PcfSessionInfo → PcfSessionInfo} (hf : ∀ info, (f info).pcfSessionId = p)
    (hnone : h.pcfOf q = none) : Kept h (h₁.modifyInfo q f) := by
  refine ⟨fun x => ?_, fun y => (qodOf_modifyInfo f y).trans (hk.2 y)⟩
  rw [pcfOf_modifyInfo_of_kept hk hf, hnone]
  split_ifs with hx
  · rw [hx, hnone]
    rfl
  · rfl

theorem redirected_modifyInfo_of_kept {h₁ : QodPcfHandler} (hk : Kept h h₁) {p : String}
    {f : PcfSessionInfo → PcfSessionInfo} (hf : ∀ info, (f info).pcfSessionId = p)
    (hsome : h.pcfOf q ≠ none) : Redirected q p h (h₁.modifyInfo q f) := by
  obtain ⟨p₀, hp₀⟩ := Option.ne_none_iff_exists'.1 hsome
  refine ⟨fun x => ?_, fun y => (qodOf_modifyInfo f y).trans (hk.2 y)⟩
  rw [pcfOf_modifyInfo_of_kept hk hf, hp₀]
  rfl

/-- What a message can do to the maps. -/
inductive Change (c : HandlerSetup) (h : QodPcfHandler) (op : HandlerOp) (h' : QodPcfHandler) : Prop
  | paired (q p : String) : pairOf c op = some (q, p) → answerOf op = none → Paired q p h h' →
      h'.issuedSoFar = p :: h.issuedSoFar → Change c h op h'
  | redirected (q p : String) : pairOf c op = none → answerOf op = some (q, p) → h.pcfOf q ≠ none →
      Redirected q p h h' → h'.issuedSoFar = h.issuedSoFar → Change c h op h'
  | parted (q p : String) : pairOf c op = none → answerOf op = none → h.pcfOf q = some p →
      Parted q p h h' → h'.issuedSoFar = h.issuedSoFar → Change c h op h'
  | kept : pairOf c op = none → (∀ q p, answerOf op = some (q, p) → h.pcfOf q = none) →
      Kept h h' → h'.issuedSoFar = h.issuedSoFar → Change c h op h'

/-- A request that is not read leaves the handler as it is. -/
theorem serveRequest_cases {α : Type} (lib : Json.Library) (parse : Json → Except RequestError α)
    (failure : String) (serve : α → Option HandlerReply × QodPcfHandler)
    (body : Except String Json) (correlationId : String) :
    ((body.toOption.bind fun json => (parse json).toOption) = none ∧
        (h.serveRequest lib parse failure serve body correlationId).2 = h) ∨
      ∃ request, (body.toOption.bind fun json => (parse json).toOption) = some request ∧
        (h.serveRequest lib parse failure serve body correlationId).2 = (serve request).2 := by
  rcases body with what | json
  · exact .inl ⟨rfl, rfl⟩
  · dsimp only [serveRequest]
    rcases hparse : parse json with e | request
    · exact .inl ⟨by simp [Except.toOption, hparse], rfl⟩
    · exact .inr ⟨request, by simp [Except.toOption, hparse], rfl⟩

/-- A message that is no creation and no response to one keeps the maps. -/
theorem Change.of_kept (hpair : pairOf c op = none) (hanswer : answerOf op = none)
    (h₁ : Kept h h' ∧ h'.issuedSoFar = h.issuedSoFar) : Change c h op h' :=
  .kept hpair (fun q p h => by cases hanswer.symm.trans h) h₁.1 h₁.2

theorem change_remove (hpair : pairOf c op = none) (hanswer : answerOf op = none) (q : String) :
    Change c h op (h.removeSessionMapping q) := by
  have hissued : (h.removeSessionMapping q).issuedSoFar = h.issuedSoFar := by
    rw [issuedSoFar, calls_removeSessionMapping]
    rfl
  rcases removeSessionMapping_cases (h := h) q with hkept | ⟨p, hp, hparted⟩
  · exact .of_kept hpair hanswer ⟨hkept, hissued⟩
  · exact .parted q p hpair hanswer hp hparted hissued

/-- A response writes its id where the QoD session has a PCF session. -/
theorem change_handlePcfCreateResponse (type : PcfResponseType) (correlationId : String)
    (payload : Except String Json) :
    Change c h (.pcfCreateResponse type correlationId payload)
      (h.handlePcfCreateResponse c.lib type correlationId payload).2 := by
  have hkept : Kept h h ∧ h.issuedSoFar = h.issuedSoFar := ⟨.refl h, rfl⟩
  rcases payload with what | json
  · exact .of_kept rfl (by cases type <;> rfl) hkept
  · dsimp only [handlePcfCreateResponse]
    rcases type with _ | _ | _ | _ | _
    · dsimp only
      rcases htext : textIn json "appSessionId" "" with e | p
      · refine .of_kept rfl ?_ hkept
        simp [answerOf, Except.toOption, htext]
      · dsimp only
        split_ifs with hempty
        · refine .of_kept rfl ?_ hkept
          simp [answerOf, Except.toOption, htext, hempty, Option.filter_some]
        · have hanswer : answerOf (.pcfCreateResponse .created correlationId (.ok json)) =
              some (correlationId, p) := by
            simp [answerOf, Except.toOption, htext, hempty, Option.filter_some]
          have hstate := kept_updateSessionState (h := h) p .active
          have hissued : issuedSoFar ((h.updateSessionState p .active).modifyInfo correlationId
              fun info => { info with lastResponse := json, pcfSessionId := p }) =
                h.issuedSoFar := by
            rw [issuedSoFar, calls_modifyInfo, calls_updateSessionState]
            rfl
          by_cases hnone : h.pcfOf correlationId = none
          · -- There is nothing to write to.
            refine .kept rfl (fun q p' hq => ?_) (kept_modifyInfo_of_kept hstate (p := p)
              (fun _ => rfl) hnone) hissued
            rw [hanswer, Option.some.injEq, Prod.mk.injEq] at hq
            rw [← hq.1, hnone]
          · exact .redirected correlationId p rfl hanswer hnone
              (redirected_modifyInfo_of_kept hstate (fun _ => rfl) hnone) hissued
    · exact .of_kept rfl rfl hkept
    · exact .of_kept rfl rfl hkept
    · dsimp only
      split
      · exact change_remove rfl rfl correlationId
      · exact .of_kept rfl rfl hkept
      · exact .of_kept rfl rfl hkept
    · exact .of_kept rfl rfl hkept

/-- Every message changes the maps in one of these ways. -/
theorem change_next (c : HandlerSetup) (h : QodPcfHandler) (op : HandlerOp) :
    Change c h op (h.next c op) := by
  rcases op with ⟨body, correlationId, success, response, now⟩ | ⟨body, correlationId, success⟩ |
    ⟨body, correlationId, success⟩ | ⟨type, correlationId, payload⟩ |
    ⟨type, correlationId, payload⟩ | ⟨type, correlationId⟩
  · rw [next, handleQodCreatePcfSession]
    rcases serveRequest_cases (h := h) c.lib (parseCreateRequest c.mapper)
        "Failed to create PCF session request"
        (fun session => h.createPcfSession c.rules session success response now) body
        correlationId with ⟨hnone, heq⟩ | ⟨session, hsession, heq⟩ <;> rw [heq]
    · refine .of_kept ?_ rfl ⟨.refl h, rfl⟩
      rw [pairOf, received, hnone]
      rfl
    · have hpair : pairOf c (.createPcfSession body correlationId success response now) =
          if c.rules.validateAppSessionContext (c.rules.buildPcfCreateRequest session) then
            (issued (creation c.rules session success response)).map (session.sessionId, ·)
          else none := by
        rw [pairOf, received, hsession]
        rfl
      rcases createPcfSession_cases (h := h) c.rules session success response now rfl with
        ⟨hvalid, p, hissued, hpaired, hcalls⟩ | ⟨hnot, hkept, hcalls⟩
      · rw [if_pos hvalid, hissued] at hpair
        refine .paired session.sessionId p hpair rfl hpaired ?_
        rw [issuedSoFar, hcalls, List.filterMap_cons_some hissued]
        rfl
      · refine .of_kept ?_ rfl ⟨hkept, ?_⟩
        · rw [hpair]
          split_ifs with hvalid
          · rw [Option.map_eq_none_iff, Option.eq_none_iff_forall_ne_some]
            exact fun p hp => hnot ⟨hvalid, p, hp⟩
          · rfl
        · rcases hcalls with hcalls | ⟨hcalls, hissued⟩
          · rw [issuedSoFar, hcalls]
            rfl
          · rw [issuedSoFar, hcalls, List.filterMap_cons_none hissued]
            rfl
  · rw [next, handleQodUpdatePcfSession]
    rcases serveRequest_cases (h := h) c.lib (parseUpdateRequest c.mapper)
        "Failed to create PCF session update request"
        (fun session => h.updatePcfSession c.rules session success) body correlationId with
      ⟨-, heq⟩ | ⟨session, -, heq⟩ <;> rw [heq]
    · exact .of_kept rfl rfl ⟨.refl h, rfl⟩
    · exact .of_kept rfl rfl (updatePcfSession_kept ..)
  · rw [next, handleQodDeletePcfSession]
    split
    · exact .of_kept rfl rfl ⟨.refl h, rfl⟩
    · exact .of_kept rfl rfl (deletePcfSession_kept ..)
  · exact change_handlePcfCreateResponse type correlationId payload
  · rw [next, handlePcfUpdateResponse.eq_def]
    split
    · split
      · exact .of_kept rfl rfl ⟨.refl h, rfl⟩
      · refine .of_kept rfl rfl ⟨(kept_updateSessionState _ _).trans (kept_modifyInfo fun _ => rfl), ?_⟩
        rw [issuedSoFar, calls_modifyInfo, calls_updateSessionState]
        rfl
    · exact .of_kept rfl rfl ⟨.refl h, rfl⟩
  · rw [next, handlePcfDeleteResponse.eq_def]
    split
    · exact change_remove rfl rfl correlationId
    · exact .of_kept rfl rfl ⟨.refl h, rfl⟩

/-! ## The maps in a run -/

/-- The PCF issues a new id. -/
def Fresh (c : HandlerSetup) (h : QodPcfHandler) (op : HandlerOp) : Prop :=
  ∀ q p, pairOf c op = some (q, p) → p ∉ h.issuedSoFar

/-- A PCF session is created for a QoD session that has none, and a response has the id
    that is mapped, if any is. -/
def Pairs (c : HandlerSetup) (h : QodPcfHandler) (op : HandlerOp) : Prop :=
  (∀ q p, pairOf c op = some (q, p) → h.pcfOf q = none) ∧
    ∀ q p, answerOf op = some (q, p) → h.pcfOf q = none ∨ h.pcfOf q = some p

/-- The maps are inverse to each other, and know the ids that the PCF has issued. -/
structure Sound (h : QodPcfHandler) : Prop where
  inverse : Inverse h.pcfOf h.qodOf
  issued : ∀ q p, h.pcfOf q = some p → p ∈ h.issuedSoFar

theorem Sound.inverse_next_iff (hs : h.Sound) (hfresh : h.Fresh c op) (hh' : h' = h.next c op) :
    Inverse h'.pcfOf h'.qodOf ↔ h.Pairs c op := by
  subst hh'
  rcases change_next c h op with ⟨q, p, hpair, hanswer, hpaired, -⟩ |
    ⟨q, p, hpair, hanswer, hsome, hredirected, -⟩ | ⟨q, p, hpair, hanswer, hp, hparted, -⟩ |
    ⟨hpair, hanswer, hkept, -⟩
  · have hnew : h.qodOf p = none := by
      rw [Option.eq_none_iff_forall_ne_some]
      intro x hx
      exact hfresh q p hpair (hs.issued x p ((hs.inverse x p).2 hx))
    rw [Inverse.insert_iff hs.inverse hnew hpaired.1 hpaired.2, Pairs]
    simp [hpair, hanswer]
  · have hinverse : Inverse (h.next c op).pcfOf (h.next c op).qodOf ↔
        Inverse (h.next c op).pcfOf h.qodOf := by
      rw [(funext hredirected.2 : (h.next c op).qodOf = h.qodOf)]
    rw [hinverse, Inverse.redirect_iff hs.inverse hsome hredirected.1, Pairs]
    simp [hpair, hanswer, hsome]
  · refine iff_of_true (Inverse.erase hs.inverse hp hparted.1 hparted.2) ?_
    rw [Pairs]
    simp [hpair, hanswer]
  · refine iff_of_true (hs.inverse.congr hkept.1 hkept.2) ⟨?_, fun q p h => .inl (hanswer q p h)⟩
    rw [hpair]
    intro q p h
    cases h

theorem Sound.next (hs : h.Sound) (hfresh : h.Fresh c op) (hpairs : h.Pairs c op) :
    (h.next c op).Sound := by
  refine ⟨(hs.inverse_next_iff hfresh rfl).2 hpairs, ?_⟩
  intro x y hxy
  rcases change_next c h op with ⟨q, p, hpair, -, hpaired, hissued⟩ |
    ⟨q, p, -, hanswer, hsome, hredirected, hissued⟩ | ⟨q, p, -, -, -, hparted, hissued⟩ |
    ⟨-, -, hkept, hissued⟩ <;> rw [hissued]
  · rw [hpaired.1] at hxy
    split_ifs at hxy
    · cases hxy
      exact List.mem_cons_self
    · exact List.mem_cons_of_mem _ (hs.issued x y hxy)
  · rw [hredirected.1] at hxy
    split_ifs at hxy with hx
    · -- The id of the response is the one that is mapped.
      cases hxy
      rcases hpairs.2 q y hanswer with hnone | hsome'
      · exact absurd hnone hsome
      · exact hs.issued q y hsome'
    · exact hs.issued x y hxy
  · rw [hparted.1] at hxy
    split_ifs at hxy
    exact hs.issued x y hxy
  · rw [hkept.1] at hxy
    exact hs.issued x y hxy

theorem sound_empty : Sound empty where
  inverse _ _ := iff_of_false (fun h => by cases h) fun h => by cases h
  issued _ _ h := by cases h

/-- In every run in which the PCF issues new ids, a PCF session is created only for a QoD
    session without one, and responses have the ids that are mapped, the two maps are
    inverse to each other; and the first message that is otherwise breaks this. -/
theorem inverse_of_reachable
    (hr : ((handlerSystem c).restrict fun h op => h.Fresh c op ∧ h.Pairs c op).Reachable h) :
    Inverse h.pcfOf h.qodOf ∧ ∀ op h', h.Fresh c op → (handlerSystem c).step h op h' →
      (Inverse h'.pcfOf h'.qodOf ↔ h.Pairs c op) := by
  have hs : h.Sound := by
    refine System.Reachable.invariant (P := Sound) ?_ ?_ hr
    · intro h hinit
      rw [show h = empty from hinit]
      exact sound_empty
    · rintro h op h' - hs ⟨⟨hfresh, hpairs⟩, hstep⟩
      rw [show h' = h.next c op from hstep]
      exact hs.next hfresh hpairs
  exact ⟨hs.inverse, fun op h' hfresh hstep => hs.inverse_next_iff hfresh hstep⟩

/-- While the maps are inverse to each other, a notification of the PCF goes to the session
    that has its PCF session. -/
theorem pcfOf_of_handlePcfNotification (hinverse : Inverse h.pcfOf h.qodOf) {json : Json}
    {reason : String} (hn : h.handlePcfNotification (.ok json) = some (q, reason)) :
    ∃ p, textIn json "appSessionId" "" = .ok p ∧ h.pcfOf q = some p := by
  simp only [handlePcfNotification, Except.toOption, Option.bind_eq_bind, Option.bind_some] at hn
  rcases htext : textIn json "appSessionId" "" with e | p <;> rw [htext] at hn
  · cases hn
  · refine ⟨p, rfl, ?_⟩
    simp only [Option.bind_some] at hn
    split_ifs at hn with hempty hunknown
    obtain ⟨event, -, hn⟩ := Option.bind_eq_some_iff.1 hn
    split_ifs at hn
    obtain ⟨rfl, -⟩ := Prod.mk.inj (Option.some.inj hn)
    rw [hinverse, qodOf]
    -- The empty text would stand for no session.
    rw [getQodSessionId] at hunknown ⊢
    rcases hlookup : h.pcfToQodSessions.lookup p with _ | x
    · rw [hlookup] at hunknown
      simp at hunknown
    · rfl

/-! ## Two creations -/

/-- A flow of all ports from an address to another. -/
def plainFlow (flow : ℕ) (source target : String) : String × Json :=
  (toString flow, .obj [("fNum", .int flow),
    ("fDescs", .arr [.str ("permit out ip from " ++ source ++ " to " ++ target)]),
    ("fStatus", .str "ENABLED"), ("flowUsage", .str "NO_INFO")])

/-- The media component of a voice session without ports and without a mapping. -/
def plainComponents (session : ReceivedSession) : Json :=
  let device := (session.device.bind (·.ipv4Address)).elim "any" (·.publicAddress.value)
  let server := session.applicationServer.ipv4Address.getD "any"
  .obj [("1", .obj [("medCompN", .int 1), ("fStatus", .str "ENABLED"), ("medType", .str "AUDIO"),
    ("medSubComps", .obj [plainFlow 1 device server, plainFlow 2 server device])])]

/-- The requests for a voice session of an IPv4 device, without ports and without a
    mapping. -/
def plainRules : RequestRules where
  buildPcfCreateRequest session := .obj [("ascReqData", .obj
    [("medComponents", plainComponents session),
      ("evSubsc", .obj [("events", .arr [.obj [("event", .str "QOS_NOTIF")]]),
        ("notifUri", .str (afNotificationUri ++ "/" ++ session.sessionId)),
        ("notifCorreId", .str session.sessionId)]),
      ("afAppId", .str "af_qod_service"),
      ("servUrn", .str ("urn:x-3gpp-qod:" ++ session.qosProfile)),
      ("notifUri", .str (afNotificationUri ++ "/" ++ session.sessionId)),
      ("suppFeat", .str "1"),
      ("ueIpv4", .str ((session.device.bind (·.ipv4Address)).elim "" (·.publicAddress.value))),
      ("servInfStatus", .str "PRELIMINARY")])]
  buildMediaComponents := plainComponents
  validateAppSessionContext _ := true

/-- A set-up for requests without a mapping, about which it is not asked. -/
def plainSetup : HandlerSetup where
  lib := ⟨fun _ => "null", fun _ => .error "parse error", fun _ => "type error"⟩
  mapper := ⟨fun _ => .null, fun _ => none, fun _ => false⟩
  rules := plainRules

/-- The request for a voice session. -/
def voiceRequest (sessionId : String) : Except String Json :=
  .ok (.obj [("session_id", .str sessionId),
    ("device", .obj [("ipv4Address", .obj [("publicAddress", .str "203.0.113.7")])]),
    ("application_server", .obj [("ipv4Address", .str "198.51.100.5")]),
    ("qos_profile", .str "voice"), ("duration", .int 600)])

/-- The PCF creates an application session for a voice session. -/
def voiceSession (sessionId appSessionId : String) : HandlerOp :=
  .createPcfSession (voiceRequest sessionId) "1" true
    (.obj [("headers", .obj [("location",
      .str ("http://pcf/npcf-policyauthorization/v1/app-sessions/" ++ appSessionId))])]) 0

/-- A session is created, confirmed with its id, and marked for deletion. -/
theorem inverse_after_response : ∃ h : QodPcfHandler,
    ((handlerSystem plainSetup).restrict fun h op =>
      h.Fresh plainSetup op ∧ h.Pairs plainSetup op).Reachable h ∧
      h.pcfOf "session-1" = some "app-1" ∧ h.qodOf "app-1" = some "session-1" ∧
      Inverse h.pcfOf h.qodOf := by
  have h₀ : ((handlerSystem plainSetup).restrict fun h op =>
      h.Fresh plainSetup op ∧ h.Pairs plainSetup op).Reachable empty := .init rfl
  have h₁ := h₀.step (a := voiceSession "session-1" "app-1")
    ⟨⟨fun _ _ _ h => (by cases h), fun _ _ _ => rfl, fun _ _ h => (by cases h)⟩, rfl⟩
  have h₂ := h₁.step (a := HandlerOp.pcfCreateResponse .created "session-1"
      (.ok (.obj [("appSessionId", .str "app-1")])))
    ⟨⟨fun _ _ h => (by cases h), fun _ _ h => (by cases h), fun q p h => by
      have hanswer : some ("session-1", "app-1") = some (q, p) := h
      cases hanswer
      exact .inr rfl⟩, rfl⟩
  exact ⟨_, h₂, rfl, rfl, (inverse_of_reachable h₂).1⟩

/-- A second application session is created for the same session: the entry of the first
    one stays, and leads to a session that has another. -/
theorem not_inverse_after_repeat : ∃ h : QodPcfHandler,
    ((handlerSystem plainSetup).restrict fun h op => h.Fresh plainSetup op).Reachable h ∧
      h.pcfOf "session-1" = some "app-2" ∧ h.qodOf "app-1" = some "session-1" ∧
      ¬Inverse h.pcfOf h.qodOf := by
  have h₀ : ((handlerSystem plainSetup).restrict fun h op =>
      h.Fresh plainSetup op).Reachable empty := .init rfl
  have h₁ := h₀.step (a := voiceSession "session-1" "app-1") ⟨fun _ _ _ h => (by cases h), rfl⟩
  have h₂ := h₁.step (a := voiceSession "session-1" "app-2") ⟨fun q p h => by
    have hpair : some ("session-1", "app-2") = some (q, p) := h
    cases hpair
    decide, rfl⟩
  refine ⟨_, h₂, rfl, rfl, fun hinverse => ?_⟩
  have hp := (hinverse "session-1" "app-1").2 rfl
  exact absurd (Option.some.inj hp) (by decide)

end QodPcfHandler

end PhineAf

import PhineAf.Core.Orchestrator
import PhineAf.Lib.Service

/-!
# Application sessions of the PCF handler

`PcfHandler` can create, update, delete and show application sessions itself, apart from
those that `QodPcfHandler` makes for the QoD sessions. Its member functions for this take a
message each; its router has no handler for such messages, so what is modelled are direct calls
of the members (`serve`). What the PCF gateway returns is an argument, and so is what the OpenAPI
types make of a request to create (`contextOf`).

A session that has been created is not stored under the identifier the PCF has given it,
but without one. So a request for a session is passed on to the PCF only if it names the
empty identifier, and only between a creation and the next deletion (`asked_iff`).

Notifications of the PCF are forwarded to AF core, which does not serve them
(`processMessage_forwardNotification`).
-/

namespace PhineAf

namespace Json

/-- `is_array`. -/
def isArray : Json → Bool
  | arr _ => true
  | _ => false

/-- `operator[]`, assigned to: null becomes an object. -/
def setMember (j : Json) (key : String) (v : Json) : Except Error Json :=
  match j with
  | null => .ok (.obj [(key, v)])
  | obj fields => .ok (.obj (assign fields key v))
  | _ => .error .typeError

end Json

/-- What is kept of an application session. -/
structure AppSessionInfo where
  appSessionId : String := ""
  appSessionContext : String := ""
  supi : String := ""
  dnn : String := ""
  ipv4Address : String := ""
  ipv6Prefix : String := ""
  mediaComponents : List String := []
  active : Bool

/-- The application sessions that `PcfHandler` tracks. -/
structure PcfHandler where
  appSessions : Table String AppSessionInfo

namespace PcfHandler

/-- A request to the PCF. -/
inductive GatewayRequest
  | create (appSessionContext : Json)
  | update (appSessionId : String) (updateData : Json)
  | delete (appSessionId : String)
  | get (appSessionId : String)

/-- What the PCF gateway returns, or what its exception says. -/
abbrev GatewayAnswer := Except String (Bool × Json)

/-- What a message comes to: what the PCF is asked, if anything, and the reply. -/
structure Outcome where
  asked : Option GatewayRequest
  messageType : String
  payload : Json

namespace Outcome

/-- A reply of type `pcf_error`. -/
def refused (asked : Option GatewayRequest) (error message : String) : Outcome where
  asked
  messageType := "pcf_error"
  payload := .obj [("error", .str error), ("message", .str message)]

/-- The reply to a message. -/
def toReply (lib : Json.Library) (m : Message) (outcome : Outcome) : Reply where
  messageType := outcome.messageType
  correlationId := m.correlationId
  payload := lib.dump outcome.payload

end Outcome

variable (lib : Json.Library) (contextOf : Json → Except String Json)

/-! ## Creation -/

/-- The rules in an answer of the PCF. -/
def pccRules (value : Json) : Option Json := (value.find? "pccRules").filter Json.isObject

/-- What is told of a session that is active. -/
def activeSession (appSessionId : String) (value : Json) : Json :=
  .obj ([("app_session_id", .str appSessionId), ("status", .str "active")] ++
    ((pccRules value).map ("pcc_rules", ·)).toList)

/-- `create_app_session`. -/
def createAppSession (m : Message) (answer : GatewayAnswer) (h : PcfHandler) :
    PcfHandler × Outcome :=
  match lib.parse m.payload >>= contextOf with
  | .error what => (h, .refused none "bad_request" what)
  | .ok context =>
    let asked := some (.create context)
    match answer with
    | .error what => (h, .refused asked "bad_request" what)
    | .ok (false, value) => (h, .refused asked "app_session_creation_failed" (lib.dump value))
    | .ok (true, value) =>
      -- The identifier in the answer is not read.
      let info : AppSessionInfo := { active := true }
      (⟨h.appSessions.insert info.appSessionId info⟩,
        ⟨asked, "pcf_app_session_created", activeSession info.appSessionId value⟩)

/-! ## Requests for a session -/

/-- The identifier of the session that a request names. -/
def readSessionId (data : Json) : Except String String := do
  let some v := data.find? "app_session_id"
    | throw "Missing required field: app_session_id"
  v.getStr.mapError lib.what

/-- The request, the session it names, and what is kept of it. -/
def findSession (payload : String) (h : PcfHandler) :
    Except String (Json × String × AppSessionInfo) := do
  let data ← lib.parse payload
  let appSessionId ← readSessionId lib data
  (h.appSessions.lookup appSessionId).elim
    (.error ("App session not found: " ++ appSessionId)) fun info => .ok (data, appSessionId, info)

def flowInfo (flow : Json) : Json :=
  .ofFields [("flowId", flow.find? "flow_id"),
    ("flowDescriptions", (flow.find? "flow_descriptions").filter Json.isArray)]

def qosInfo (info : Json) : Json :=
  .ofFields [("maxbrUl", info.find? "max_bw_ul"), ("maxbrDl", info.find? "max_bw_dl"),
    ("minbrUl", info.find? "min_bw_ul"), ("minbrDl", info.find? "min_bw_dl")]

def mediaComponent (component : Json) : Json :=
  .ofFields [("medType", component.find? "media_type"),
    ("fDescs", ((component.find? "flows").filter Json.isArray).map
      fun flows => .arr (flows.elements.map flowInfo)),
    ("medQoS", (component.find? "qos_info").map qosInfo)]

/-- The media components of a request, by their identifiers. -/
def mediaComponents (components : List Json) : Except Json.Error Json := do
  let fields ← components.foldlM (fun fields component => do
    let id ← (← component.field "media_component_id").getStr
    return Json.assign fields id (mediaComponent component)) []
  return if fields.isEmpty then .null else .obj fields

/-- What a session is updated with. -/
def updateContext (data : Json) : Except String Json :=
  match (data.find? "media_components").filter Json.isArray with
  | none => .ok .null
  | some components => do
    let components ← (mediaComponents components.elements).mapError lib.what
    return .obj [("medComponents", components)]

/-- The session and what it is updated with. -/
def readUpdate (payload : String) (h : PcfHandler) : Except String (String × Json) := do
  let (data, appSessionId, _) ← findSession lib payload h
  return (appSessionId, ← updateContext lib data)

/-- `update_app_session`: what it writes, it writes to a copy of what is kept. -/
def updateAppSession (m : Message) (answer : GatewayAnswer) (h : PcfHandler) :
    PcfHandler × Outcome :=
  match readUpdate lib m.payload h with
  | .error what => (h, .refused none "bad_request" what)
  | .ok (appSessionId, updateData) =>
    let asked := some (.update appSessionId updateData)
    match answer with
    | .error what => (h, .refused asked "bad_request" what)
    | .ok (false, value) => (h, .refused asked "app_session_update_failed" (lib.dump value))
    | .ok (true, value) =>
      (h, ⟨asked, "pcf_app_session_updated", activeSession appSessionId value⟩)

/-- `delete_app_session`. -/
def deleteAppSession (m : Message) (answer : Except String Bool) (h : PcfHandler) :
    PcfHandler × Outcome :=
  match findSession lib m.payload h with
  | .error what => (h, .refused none "bad_request" what)
  | .ok (_, appSessionId, _) =>
    let asked := some (.delete appSessionId)
    match answer with
    | .error what => (h, .refused asked "bad_request" what)
    | .ok false =>
      (h, .refused asked "app_session_deletion_failed" "Failed to delete app session")
    | .ok true =>
      (⟨h.appSessions.erase appSessionId⟩, ⟨asked, "pcf_app_session_deleted",
        .obj [("app_session_id", .str appSessionId), ("status", .str "deleted")]⟩)

/-- The answer of the PCF, with what is kept of the session added to it. -/
def describe (appSessionId : String) (info : AppSessionInfo) (value : Json) :
    Except Json.Error Json := do
  let add (value : Json) (key s : String) : Except Json.Error Json :=
    if s = "" then .ok value else value.setMember key (.str s)
  let value ← value.setMember "app_session_id" (.str appSessionId)
  let value ← add value "ue_ipv4" info.ipv4Address
  add value "ue_ipv6" info.ipv6Prefix

/-- `get_app_session`. -/
def getAppSession (m : Message) (answer : GatewayAnswer) (h : PcfHandler) : Outcome :=
  match findSession lib m.payload h with
  | .error what => .refused none "bad_request" what
  | .ok (_, appSessionId, info) =>
    let asked := some (.get appSessionId)
    match answer with
    | .error what => .refused asked "bad_request" what
    | .ok (false, value) => .refused asked "app_session_retrieval_failed" (lib.dump value)
    | .ok (true, value) =>
      match describe appSessionId info value with
      | .error e => .refused asked "bad_request" (lib.what e)
      | .ok result => ⟨asked, "pcf_app_session_info", result⟩

/-! ## Notifications -/

/-- `forward_notification`: the message that is sent to AF core. -/
def forwardNotification (notificationType : String) (data : Json) : Request where
  messageType := "network_event"
  message :=
    { correlationId := ""
      payload := lib.dump (.obj [("event_type", .str notificationType), ("source", .str "pcf"),
        ("data", data)])
      metadata := ((∅ : Table String String).insert "event_type" notificationType).insert
        "source" "pcf" }

/-- The notification in a message, and its type. -/
def readNotification (payload : String) : Except String (Json × String) := do
  let notification ← lib.parse payload
  let notificationType ← (notification.optional "event_type" Json.getStr).mapError lib.what
  return (notification, notificationType.getD "unknown")

/-- `handle_notification`: the message to AF core, if there is one, and the reply. -/
def handleNotification (m : Message) : Option Request × Outcome :=
  match readNotification lib m.payload with
  | .error what => (none, .refused none "notification_handling_failed" what)
  | .ok (notification, notificationType) =>
    (some (forwardNotification lib notificationType notification),
      ⟨none, "pcf_notification_ack", .obj [("status", .str "acknowledged")]⟩)

/-- AF core has no handler for the message. -/
theorem processMessage_forwardNotification {Q : Type} (format : ℤ → String)
    (qod : AfOrchestrator.QodHandlers Q) (d : Draws) (notificationType : String) (data : Json)
    (core : AfCore Q) :
    AfOrchestrator.processMessage lib format qod d (forwardNotification lib notificationType data)
        core = (core, RequestRouter.defaultReply (forwardNotification lib notificationType data)) :=
  RequestRouter.routeMessage_of_notMem (by simp [forwardNotification,
    AfOrchestrator.componentHandlers, AfOrchestrator.qodHandlers]) core

/-! ## Calls of the member functions -/

/-- A member function called with a message, and what the PCF gateway returns if it is asked. -/
inductive SessionCall
  | create (m : Message) (answer : GatewayAnswer)
  | update (m : Message) (answer : GatewayAnswer)
  | delete (m : Message) (answer : Except String Bool)
  | get (m : Message) (answer : GatewayAnswer)

/-- The member function is called; `process_message` never does it. -/
def serve (h : PcfHandler) : SessionCall → PcfHandler × Outcome
  | .create m answer => createAppSession lib contextOf m answer h
  | .update m answer => updateAppSession lib m answer h
  | .delete m answer => deleteAppSession lib m answer h
  | .get m answer => (h, getAppSession lib m answer h)

/-- A handler without sessions. -/
def empty : PcfHandler := ⟨∅⟩

namespace SessionCall

/-- The session that a message names. -/
def sessionId (m : Message) : Except String String := lib.parse m.payload >>= readSessionId lib

/-- The PCF creates a session. -/
def Creates (c : SessionCall) : Prop :=
  ∃ m value context, c = create m (.ok (true, value)) ∧
    lib.parse m.payload >>= contextOf = .ok context

/-- The PCF deletes the session without an identifier. -/
def Deletes (c : SessionCall) : Prop := ∃ m, c = delete m (.ok true) ∧ sessionId lib m = .ok ""

/-- What the PCF is asked for a session, if it is asked. -/
def Asks (appSessionId : String) (request : GatewayRequest) : SessionCall → Prop
  | create .. => False
  | update m _ => ∃ data updateData, lib.parse m.payload = .ok data ∧
      readSessionId lib data = .ok appSessionId ∧ updateContext lib data = .ok updateData ∧
      request = .update appSessionId updateData
  | delete m _ => sessionId lib m = .ok appSessionId ∧ request = .delete appSessionId
  | get m _ => sessionId lib m = .ok appSessionId ∧ request = .get appSessionId

end SessionCall

variable {lib contextOf} {h : PcfHandler} {c : SessionCall} {appSessionId : String}
  {request : GatewayRequest}

/-! ## What is stored -/

/-- Only a session without an identifier is stored. -/
def Unnamed (h : PcfHandler) : Prop := ∀ id, id ≠ "" → h.appSessions.lookup id = none

/-- A request that names a session finds what is kept of it. -/
theorem findSession_of_read {payload : String} {data : Json} (hparse : lib.parse payload = .ok data)
    (hread : readSessionId lib data = .ok appSessionId) :
    findSession lib payload h = (h.appSessions.lookup appSessionId).elim
      (.error ("App session not found: " ++ appSessionId))
      fun info => .ok (data, appSessionId, info) := by
  simp only [findSession, hparse, hread, bind, Except.bind]

theorem findSession_eq_ok {payload : String} {data : Json} {info : AppSessionInfo}
    (hfind : findSession lib payload h = .ok (data, appSessionId, info)) :
    lib.parse payload >>= readSessionId lib = .ok appSessionId ∧
      h.appSessions.lookup appSessionId = some info := by
  rw [findSession] at hfind
  obtain ⟨data', hparse, hfind⟩ := Json.bind_eq_ok.1 hfind
  obtain ⟨id, hread, hfind⟩ := Json.bind_eq_ok.1 hfind
  rcases hlookup : h.appSessions.lookup id with _ | info' <;> rw [hlookup] at hfind <;> cases hfind
  exact ⟨Json.bind_eq_ok.2 ⟨data, hparse, hread⟩, hlookup⟩

variable (lib contextOf h) in
/-- A creation stores a session without an identifier, if the PCF has created one. -/
theorem createAppSession_cases (m : Message) (answer : GatewayAnswer) :
    ((SessionCall.create m answer).Creates lib contextOf ∧
      (createAppSession lib contextOf m answer h).1 =
        ⟨h.appSessions.insert "" { active := true }⟩) ∨
    (¬(SessionCall.create m answer).Creates lib contextOf ∧
      (createAppSession lib contextOf m answer h).1 = h) := by
  rw [createAppSession]
  rcases hread : lib.parse m.payload >>= contextOf with what | context
  · refine .inr ⟨?_, rfl⟩
    rintro ⟨m', value, context, hm', hread'⟩
    cases hm'
    rw [hread] at hread'
    cases hread'
  rcases answer with what | ⟨_ | _, value⟩
  · exact .inr ⟨fun ⟨_, _, _, hm', _⟩ => (by cases hm'), rfl⟩
  · exact .inr ⟨fun ⟨_, _, _, hm', _⟩ => (by cases hm'), rfl⟩
  · exact .inl ⟨⟨m, value, context, rfl, hread⟩, rfl⟩

variable (lib h) in
/-- An update changes nothing that is stored. -/
theorem updateAppSession_fst (m : Message) (answer : GatewayAnswer) :
    (updateAppSession lib m answer h).1 = h := by
  rw [updateAppSession]
  rcases readUpdate lib m.payload h with what | ⟨id, updateData⟩
  · rfl
  · rcases answer with what | ⟨_ | _, value⟩ <;> rfl

variable (lib h) in
/-- A deletion deletes what the request names, if the PCF has deleted it. -/
theorem deleteAppSession_lookup (m : Message) (answer : Except String Bool) (id : String) :
    ((deleteAppSession lib m answer h).1.appSessions.lookup id).isSome ↔
      (h.appSessions.lookup id).isSome ∧
        ¬(answer = .ok true ∧ SessionCall.sessionId lib m = .ok id) := by
  rw [deleteAppSession]
  rcases hfind : findSession lib m.payload h with what | ⟨data, id', info⟩
  · refine (and_iff_left_of_imp fun hstored => ?_).symm
    rintro ⟨-, hid⟩
    obtain ⟨data, hparse, hread⟩ := Json.bind_eq_ok.1 hid
    obtain ⟨info, hinfo⟩ := Option.isSome_iff_exists.1 hstored
    rw [findSession_of_read hparse hread, hinfo] at hfind
    cases hfind
  obtain ⟨hid', hinfo⟩ := findSession_eq_ok hfind
  rcases answer with what | _ | _
  · simp
  · simp
  · change ((h.appSessions.erase id').lookup id).isSome ↔ _
    rw [Table.lookup_erase_eq, SessionCall.sessionId, hid']
    split_ifs with hid
    · simp [hid]
    · simp [Ne.symm hid]

variable (lib contextOf h) in
/-- A session is stored after a message if the message creates it, or it was stored before
    and the message does not delete it. -/
theorem stored_serve (c : SessionCall) :
    ((serve lib contextOf h c).1.appSessions.lookup "").isSome ↔
      c.Creates lib contextOf ∨ (h.appSessions.lookup "").isSome ∧ ¬c.Deletes lib := by
  -- Where nothing is stored or deleted.
  have hkeep (hcreates : ¬c.Creates lib contextOf) (hdeletes : ¬c.Deletes lib)
      (hsame : (serve lib contextOf h c).1 = h) :
      ((serve lib contextOf h c).1.appSessions.lookup "").isSome ↔
        c.Creates lib contextOf ∨ (h.appSessions.lookup "").isSome ∧ ¬c.Deletes lib := by
    rw [hsame]
    simp [hcreates, hdeletes]
  cases c with
  | create m answer =>
    obtain ⟨hcreates, hinsert⟩ | ⟨hcreates, hsame⟩ :=
      createAppSession_cases lib contextOf h m answer
    · rw [serve, hinsert, Table.lookup_insert_eq]
      simp [hcreates]
    · exact hkeep hcreates (fun ⟨_, hm, _⟩ => by cases hm) hsame
  | update m answer =>
    exact hkeep (fun ⟨_, _, _, hm, _⟩ => by cases hm) (fun ⟨_, hm, _⟩ => by cases hm)
      (updateAppSession_fst lib h m answer)
  | delete m answer =>
    have hcreates : ¬(SessionCall.delete m answer).Creates lib contextOf :=
      fun ⟨_, _, _, hm, _⟩ => by cases hm
    have hdeletes : (SessionCall.delete m answer).Deletes lib ↔
        answer = .ok true ∧ SessionCall.sessionId lib m = .ok "" := by
      refine ⟨?_, fun ⟨hok, hid⟩ => ⟨m, by rw [hok], hid⟩⟩
      rintro ⟨m', hm', hid⟩
      cases hm'
      exact ⟨rfl, hid⟩
    rw [serve, deleteAppSession_lookup, hdeletes]
    simp [hcreates]
  | get m answer =>
    exact hkeep (fun ⟨_, _, _, hm, _⟩ => by cases hm) (fun ⟨_, hm, _⟩ => by cases hm) rfl

theorem unnamed_serve (hunnamed : h.Unnamed) (c : SessionCall) :
    (serve lib contextOf h c).1.Unnamed := by
  cases c with
  | create m answer =>
    obtain ⟨-, hinsert⟩ | ⟨-, hsame⟩ := createAppSession_cases lib contextOf h m answer
    · intro id hid
      rw [serve, hinsert, Table.lookup_insert_eq, if_neg hid]
      exact hunnamed id hid
    · rwa [serve, hsame]
  | update m answer => rwa [serve, updateAppSession_fst]
  | delete m answer =>
    intro id hid
    rw [← Option.not_isSome_iff_eq_none, serve, deleteAppSession_lookup, hunnamed id hid]
    simp
  | get m answer => exact hunnamed

/-! ## What the PCF is asked -/

/-- The state after some messages. -/
abbrev after (lib : Json.Library) (contextOf : Json → Except String Json)
    (calls : List SessionCall) : PcfHandler := Service.after (serve lib contextOf) empty calls

/-- A session is stored if one has been created, and not been deleted since. -/
theorem stored_iff (calls : List SessionCall) :
    ((after lib contextOf calls).appSessions.lookup "").isSome ↔
      ∃ before c later, calls = before ++ c :: later ∧ c.Creates lib contextOf ∧
        ∀ d ∈ later, ¬d.Deletes lib :=
  Service.after_iff (P := fun h : PcfHandler => (h.appSessions.lookup "").isSome)
    (fun h c => stored_serve lib contextOf h c) (by simp [empty])

variable (contextOf h) in
/-- A request for a session is passed on if the session is stored, and refused otherwise. -/
theorem serve_of_asks (hasks : c.Asks lib appSessionId request) :
    ((h.appSessions.lookup appSessionId).isSome →
        (serve lib contextOf h c).2.asked = some request) ∧
      (h.appSessions.lookup appSessionId = none → serve lib contextOf h c =
        (h, .refused none "bad_request" ("App session not found: " ++ appSessionId))) := by
  cases c with
  | create m answer => cases hasks
  | update m answer =>
    obtain ⟨data, updateData, hparse, hread, hupdate, rfl⟩ := hasks
    have hfind := findSession_of_read (h := h) hparse hread
    constructor
    · intro hstored
      obtain ⟨info, hinfo⟩ := Option.isSome_iff_exists.1 hstored
      rw [hinfo] at hfind
      have hreadUpdate : readUpdate lib m.payload h = .ok (appSessionId, updateData) := by
        simp only [readUpdate, hfind, Option.elim_some, bind, Except.bind, hupdate, pure,
          Except.pure]
      rw [serve, updateAppSession, hreadUpdate]
      rcases answer with what | ⟨_ | _, value⟩ <;> rfl
    · intro hnone
      rw [hnone] at hfind
      have hreadUpdate : readUpdate lib m.payload h =
          .error ("App session not found: " ++ appSessionId) := by
        simp only [readUpdate, hfind, Option.elim_none, bind, Except.bind]
      rw [serve, updateAppSession, hreadUpdate]
  | delete m answer =>
    obtain ⟨hid, rfl⟩ := hasks
    obtain ⟨data, hparse, hread⟩ := Json.bind_eq_ok.1 hid
    have hfind := findSession_of_read (h := h) hparse hread
    constructor
    · intro hstored
      obtain ⟨info, hinfo⟩ := Option.isSome_iff_exists.1 hstored
      rw [serve, deleteAppSession, hfind, hinfo]
      rcases answer with what | _ | _ <;> rfl
    · intro hnone
      rw [serve, deleteAppSession, hfind, hnone]
      rfl
  | get m answer =>
    obtain ⟨hid, rfl⟩ := hasks
    obtain ⟨data, hparse, hread⟩ := Json.bind_eq_ok.1 hid
    have hfind := findSession_of_read (h := h) hparse hread
    constructor
    · intro hstored
      obtain ⟨info, hinfo⟩ := Option.isSome_iff_exists.1 hstored
      rw [serve, getAppSession, hfind, hinfo]
      rcases answer with what | ⟨_ | _, value⟩
      · rfl
      · rfl
      · dsimp only [Option.elim_some]
        split <;> rfl
    · intro hnone
      rw [serve, getAppSession, hfind, hnone]
      rfl

variable (contextOf) in
/-- A request for a session is passed on to the PCF if it names the empty identifier, and a
    session has been created, and not been deleted since. If not, it is refused. -/
theorem asked_iff (calls : List SessionCall) (hasks : c.Asks lib appSessionId request) :
    ((serve lib contextOf (after lib contextOf calls) c).2.asked = some request ↔
        appSessionId = "" ∧ ∃ before d later, calls = before ++ d :: later ∧
          d.Creates lib contextOf ∧ ∀ e ∈ later, ¬e.Deletes lib) ∧
      ((serve lib contextOf (after lib contextOf calls) c).2.asked ≠ some request →
        serve lib contextOf (after lib contextOf calls) c = (after lib contextOf calls,
          .refused none "bad_request" ("App session not found: " ++ appSessionId))) := by
  have hunnamed : (after lib contextOf calls).Unnamed :=
    Service.after_of_invariant (fun h c hunnamed => unnamed_serve hunnamed c) fun id _ => rfl
  obtain ⟨hstored, hmissing⟩ := serve_of_asks contextOf (after lib contextOf calls) hasks
  have hlookup : ((after lib contextOf calls).appSessions.lookup appSessionId).isSome ↔
      appSessionId = "" ∧ ((after lib contextOf calls).appSessions.lookup "").isSome := by
    by_cases hid : appSessionId = ""
    · subst hid
      simp
    · simp [hid, hunnamed appSessionId hid]
  rw [← stored_iff, ← hlookup]
  rcases hinfo : (after lib contextOf calls).appSessions.lookup appSessionId with _ | info
  · have hrefused := hmissing hinfo
    rw [hrefused]
    simp [Outcome.refused]
  · have hasked := hstored (by rw [hinfo]; rfl)
    simp [hasked]

/-- The text of a request to create a session. -/
def creationText : String := "\x7b\"af_app_id\":\"game\"\x7d"

/-- The text of a request to delete one. -/
def deletionText : String := "\x7b\"app_session_id\":\"app-7\"\x7d"

/-- A library that knows both requests. -/
def sessionLibrary : Json.Library where
  dump j := if j.contains "af_app_id" then creationText else deletionText
  parse s :=
    if s = creationText then .ok (.obj [("af_app_id", .str "game")])
    else if s = deletionText then .ok (.obj [("app_session_id", .str "app-7")])
    else .error "parse error"
  what _ := ""

/-- The PCF creates a session, and gives it an identifier. -/
def sessionCalls : List SessionCall :=
  [.create ⟨"corr-1", creationText, ∅⟩ (.ok (true, .obj [("app_session_id", .str "app-7")]))]

/-- The session cannot be deleted by this identifier. -/
theorem asked_after_sessionCalls :
    ((serve sessionLibrary .ok (after sessionLibrary .ok sessionCalls)
        (.delete ⟨"corr-2", deletionText, ∅⟩ (.ok true))).2.asked = some (.delete "app-7") ↔
      "app-7" = "" ∧ ∃ before d later, sessionCalls = before ++ d :: later ∧
        d.Creates sessionLibrary .ok ∧ ∀ e ∈ later, ¬e.Deletes sessionLibrary) ∧
      ((serve sessionLibrary .ok (after sessionLibrary .ok sessionCalls)
          (.delete ⟨"corr-2", deletionText, ∅⟩ (.ok true))).2.asked ≠ some (.delete "app-7") →
        serve sessionLibrary .ok (after sessionLibrary .ok sessionCalls)
            (.delete ⟨"corr-2", deletionText, ∅⟩ (.ok true)) =
          (after sessionLibrary .ok sessionCalls,
            .refused none "bad_request" "App session not found: app-7")) :=
  asked_iff .ok sessionCalls ⟨rfl, rfl⟩

end PcfHandler

end PhineAf

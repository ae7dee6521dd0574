import PhineAf.Qod.Handler
import PhineAf.Qod.Isolation

/-!
# Requests that have to name a device

A request whose context is not three-legged has to name a device.
`handle_create_session` asks for it whenever the body has no member for the device.
`handle_retrieve_sessions` asks for it only if there is no body: one without that member
retrieves all sessions of the consumer (`readRetrieveRequest_eq`).
-/

namespace PhineAf

namespace QodHandler

variable {lib : Json.Library} {reader : CredentialReader} {format : ℤ → String}
  {context : QodRequestContext} {payload : String} {json : Json}

/-- There is no body, or one from which no device is read. -/
def Deviceless (lib : Json.Library) (payload : String) : Prop :=
  payload = "" ∨ ∃ json, lib.parse payload = .ok json ∧ deviceMember json = .ok none

/-- The body is an object. -/
def ObjectBody (lib : Json.Library) (payload : String) : Prop :=
  ∃ json, lib.parse payload = .ok json ∧ json.isObject = true

/-- The reply says that the device is missing. -/
def MissingIdentifier (e : ErrorReply) : Prop := e.status = 422 ∧ e.code = .missingIdentifier

/-- `handle_create_session` replies with an error, and does not call `create_session`. -/
def CreateRefused (lib : Json.Library) (reader : CredentialReader) (format : ℤ → String)
    (context : QodRequestContext) (payload : String) : Prop :=
  ∀ checked, ∃ e, readCreateRequest lib reader context payload checked = .error e ∧
    (ObjectBody lib payload → MissingIdentifier e) ∧
    ∀ m sessionId now reply later,
      handleCreateSession lib reader format m context payload checked sessionId now reply later =
        (.error e context.correlationId, m)

/-- `handle_retrieve_sessions` replies with an error, and does not call
    `retrieve_sessions_by_device`. -/
def RetrieveRefused (lib : Json.Library) (format : ℤ → String) (context : QodRequestContext)
    (payload : String) : Prop :=
  ∃ e, readRetrieveRequest lib context payload = .error e ∧
    (payload = "" ∨ ObjectBody lib payload → MissingIdentifier e) ∧
    ∀ m, handleRetrieveSessions lib format m context payload = .error e context.correlationId

/-! ## What is read -/

/-- Without a device, a request that has to name one is refused. -/
theorem createDevice_eq (hlegged : context.isThreeLegged = false)
    (hdevice : deviceMember json = .ok none) :
    ∃ message, createDevice context json = .error ⟨422, .missingIdentifier, message⟩ := by
  rw [createDevice, hlegged]
  split
  · rw [hdevice]
    refine ⟨"Device is required for 2-legged authentication", ?_⟩
    dsimp only [read, Except.mapError, bind, Except.bind]
    rw [validateDevice, hlegged]
    rfl
  · exact ⟨_, rfl⟩

/-- A body for a retrieval is read as one for a creation, if it has a member for the device,
    and otherwise asks for all sessions. -/
theorem readRetrieveRequest_eq (context : QodRequestContext) (hpayload : payload ≠ "")
    (hparse : lib.parse payload = .ok json) :
    readRetrieveRequest lib context payload =
      if json.contains "device" then createDevice context json else .ok none := by
  have hpayload : ¬payload.isEmpty = true := fun h => hpayload (String.isEmpty_iff.1 h)
  rw [readRetrieveRequest, if_neg hpayload, hparse]
  dsimp only
  by_cases hcontains : json.contains "device" = true
  · rw [if_pos hcontains, if_pos hcontains, createDevice, if_pos hcontains]
  · rw [if_neg hcontains, if_neg hcontains]

/-- A creation without a device is refused. -/
theorem createRefused (hempty : ∃ what, lib.parse "" = .error what)
    (hlegged : context.isThreeLegged = false) (h : Deviceless lib payload) :
    CreateRefused lib reader format context payload := by
  intro checked
  have hread : ∃ e, readCreateRequest lib reader context payload checked = .error e ∧
      (ObjectBody lib payload → MissingIdentifier e) := by
    rcases h with rfl | ⟨json, hparse, hdevice⟩
    · obtain ⟨what, hwhat⟩ := hempty
      rw [readCreateRequest, hwhat]
      refine ⟨_, rfl, ?_⟩
      rintro ⟨json, hparse, -⟩
      cases hwhat.symm.trans hparse
    · obtain ⟨message, hmessage⟩ := createDevice_eq hlegged hdevice
      rw [readCreateRequest, hparse]
      dsimp only
      rw [parseCreateRequest, hmessage]
      exact ⟨_, rfl, fun _ => ⟨rfl, rfl⟩⟩
  obtain ⟨e, he, hmissing⟩ := hread
  refine ⟨e, he, hmissing, fun m sessionId now reply later => ?_⟩
  rw [handleCreateSession, he]

/-- A retrieval without a device is refused exactly if there is no body, or one with a
    member for the device. -/
theorem retrieveRefused_iff (hlegged : context.isThreeLegged = false)
    (h : Deviceless lib payload) :
    RetrieveRefused lib format context payload ↔
      payload = "" ∨ ∃ json, lib.parse payload = .ok json ∧ json.contains "device" = true := by
  have hrefused : ∀ message,
      readRetrieveRequest lib context payload = .error ⟨422, .missingIdentifier, message⟩ →
      RetrieveRefused lib format context payload := by
    intro message hread
    refine ⟨_, hread, fun _ => ⟨rfl, rfl⟩, fun m => ?_⟩
    rw [handleRetrieveSessions, hread]
  by_cases hpayload : payload = ""
  · refine iff_of_true
      (hrefused "Device identifier is required for 2-legged authentication" ?_) (.inl hpayload)
    rw [readRetrieveRequest, if_pos (String.isEmpty_iff.2 hpayload), hlegged]
    rfl
  · obtain ⟨json, hparse, hdevice⟩ := h.resolve_left hpayload
    have hread := readRetrieveRequest_eq context hpayload hparse
    by_cases hcontains : json.contains "device" = true
    · obtain ⟨message, hmessage⟩ := createDevice_eq hlegged hdevice
      rw [if_pos hcontains, hmessage] at hread
      exact iff_of_true (hrefused message hread) (.inr ⟨json, hparse, hcontains⟩)
    · rw [if_neg hcontains] at hread
      refine iff_of_false ?_ ?_
      · rintro ⟨e, he, -⟩
        cases hread.symm.trans he
      · rintro (h | ⟨json', hparse', hcontains'⟩)
        · exact hpayload h
        · cases hparse.symm.trans hparse'
          exact hcontains hcontains'

/-- A request that has to name a device, and does not, is refused by both handlers exactly if
    it has no body or one with a member for the device. -/
theorem refused_iff (hempty : ∃ what, lib.parse "" = .error what)
    (hlegged : context.isThreeLegged = false) (h : Deviceless lib payload) :
    CreateRefused lib reader format context payload ∧
        RetrieveRefused lib format context payload ↔
      payload = "" ∨ ∃ json, lib.parse payload = .ok json ∧ json.contains "device" = true := by
  exact (and_iff_right (createRefused hempty hlegged h)).trans (retrieveRefused_iff hlegged h)

/-! ## Bodies -/

/-- A library that knows the empty object, and the one with a device that is null. -/
def bodyLibrary : Json.Library where
  dump _ := "null"
  parse s :=
    if s = "\x7b\x7d" then .ok (.obj [])
    else if s = "\x7b\"device\":null\x7d" then .ok (.obj [("device", .null)])
    else .error "[json.exception.parse_error.101] parse error"
  what _ := "[json.exception.type_error.302] type must be string"

/-- The context of a request that has to name a device. -/
def twoLegged : QodRequestContext := ⟨"consumer", "correlation", false⟩

/-- A reader of credentials, which the body has none of. -/
def plainReader : CredentialReader := ⟨{ credentialType := .plain }, fun _ => 0⟩

/-- A device that is null is missed by both handlers. -/
theorem refused_null_device :
    CreateRefused bodyLibrary plainReader (fun _ => "") twoLegged "\x7b\"device\":null\x7d" ∧
      RetrieveRefused bodyLibrary (fun _ => "") twoLegged "\x7b\"device\":null\x7d" :=
  (refused_iff ⟨_, rfl⟩ rfl (.inr ⟨.obj [("device", .null)], rfl, rfl⟩)).2
    (.inr ⟨.obj [("device", .null)], rfl, rfl⟩)

/-- The body is an empty object: the session that the consumer has for some device is
    returned. -/
theorem retrieved_without_device : Deviceless bodyLibrary "\x7b\x7d" ∧
    ¬RetrieveRefused bodyLibrary (fun _ => "") twoLegged "\x7b\x7d" ∧
    ∃ (r : QodRun) (session : Json), qodSystem.Reachable r ∧
      handleRetrieveSessions bodyLibrary (fun _ => "") r.manager twoLegged "\x7b\x7d" =
        .success (.arr [session]) 200 "correlation" := by
  have h₀ : qodSystem.Reachable QodRun.initial := .init ⟨_, _, _, _, rfl⟩
  have h₁ := h₀.step (a := QodOp.createSession (QodRun.phoneSession "consumer") "session-1" 0
    (some (.created "pcf-1")) 1) rfl
  refine ⟨.inr ⟨.obj [], rfl, rfl⟩, ?_, _, _, h₁, rfl⟩
  rintro ⟨e, he, -⟩
  cases he

end QodHandler

end PhineAf

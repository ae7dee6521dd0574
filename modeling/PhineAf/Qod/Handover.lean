import PhineAf.Qod.CheckedSinks
import PhineAf.Qod.Undelivered

/-!
# Notifications from the session manager to the notification manager

The session manager hands the notifications of its sessions to
`QodNotificationManager::deliver`, which checks the sink and the credential again and queues
them for the workers. In the runs of both together, with the requests that
`handle_create_session` reads (`NoticeService.system`), `NoticeService.handed_over` says:

* each notification of the session manager is there once and as it was made: with a call of
  `deliver` yet to be made, refused, or as a task in one of its stages;
* a task is sent to the sink of its notification, with the credential of it;
* `deliver` refuses a notification just if its token has expired in the meantime or there is
  no room for it, and never for its sink.

The data of an event is made outside of this repository: what `deliver` reads there for the
id of the session is a parameter.
-/


namespace PhineAf

open QodSessionManager

/-! ## The call -/

namespace QodNotificationManager

variable {E : Type} {m m' : QodNotificationManager E}

/-- `validate_sink`. -/
def validateSink (sink : String) : Bool := QodHandler.isHttpsUrl sink

/-- `validate_credential`. -/
def validateCredential (credential : Option SinkCredential) (now : ℤ) : Bool :=
  credential.all fun credential => credential.credentialType == .accessToken &&
    !credential.accessTokenExpiresUtc.any (· < now)

/-- A result that is not a success. -/
def refusal (httpStatusCode : ℤ) (errorMessage : String) (timestamp : ℤ) :
    NotificationDeliveryResult :=
  { success := false, httpStatusCode, errorMessage, timestamp }

/-- `deliver`, with its readings of the clock. What the data of the event has for the id of
    the session may not be a text, which makes it throw. -/
def deliver (m : QodNotificationManager E) (enableAsyncDelivery : Bool)
    (sessionIdOf : E → Except String (Option String)) (event : E) (sink : String)
    (credential : Option SinkCredential) (timestamp checked queued : ℤ) :
    NotificationDeliveryResult × Option (NotificationTask E) × QodNotificationManager E :=
  if !validateSink sink then (refusal 0 "Invalid sink URL" timestamp, none, m)
  else if !validateCredential credential checked then
    (refusal 0 "Expired or invalid credential" timestamp, none, m)
  else if !enableAsyncDelivery then
    let (httpCode, response) := HttpNotificationClient.sendNotification sink event credential
    ({ success := isSuccess httpCode
       httpStatusCode := httpCode
       errorMessage :=
         if isSuccess httpCode then "" else "HTTP " ++ toString httpCode ++ ": " ++ response
       timestamp }, none, m)
  else match sessionIdOf event with
    | .error what => (refusal 0 ("Exception: " ++ what) timestamp, none, m)
    | .ok sessionId =>
      match m.queueNotification event sink credential (sessionId.getD "") false queued with
      | (some task, m) =>
        ({ success := true, httpStatusCode := 202, errorMessage := "", timestamp }, some task, m)
      | (none, m) => (refusal 503 "Queue full" timestamp, none, m)

/-- An event is accepted for a receiver if its token has not expired, the id of the session
    can be read and the queue has room. -/
structure Accepts (m : QodNotificationManager E) (enableAsyncDelivery : Bool)
    (sessionIdOf : E → Except String (Option String)) (event : E) (sink : String)
    (credential : Option SinkCredential) (checked : ℤ) : Prop where
  sink : validateSink sink = true
  credential : validateCredential credential checked = true
  async : enableAsyncDelivery = true
  readable : ∃ sessionId, sessionIdOf event = .ok sessionId
  room : m.taskQueue.length < m.config.maxQueueSize

variable {enableAsyncDelivery : Bool} {sessionIdOf : E → Except String (Option String)}
  {event : E} {sink : String} {credential : Option SinkCredential} {timestamp checked queued : ℤ}
  {result : NotificationDeliveryResult} {found : Option (NotificationTask E)}

theorem queueNotification_of_room (hroom : m.taskQueue.length < m.config.maxQueueSize)
    (event : E) (sink : String) (credential : Option SinkCredential) (sessionId : String)
    (callback : Bool) (now : ℤ) :
    ∃ task m', m.queueNotification event sink credential sessionId callback now = (some task, m') ∧
      task.event = event ∧ task.sink = sink ∧ task.credential = credential := by
  rw [queueNotification, if_neg (not_le.2 hroom)]
  exact ⟨_, _, rfl, rfl, rfl, rfl⟩

/-- The event is refused, which changes nothing, or queued for its receiver. -/
theorem deliver_cases
    (h : m.deliver enableAsyncDelivery sessionIdOf event sink credential timestamp checked queued =
      (result, found, m')) :
    (¬m.Accepts enableAsyncDelivery sessionIdOf event sink credential checked ∧
        result.success = false ∧ found = none ∧ m' = m) ∨
      m.Accepts enableAsyncDelivery sessionIdOf event sink credential checked ∧
        result.success = true ∧ ∃ task sessionId, found = some task ∧
          m.queueNotification event sink credential sessionId false queued = (some task, m') ∧
          task.event = event ∧ task.sink = sink ∧ task.credential = credential := by
  rw [deliver] at h
  split at h
  next hsink =>
    cases h
    exact .inl ⟨fun h => by simp [h.sink] at hsink, rfl, rfl, rfl⟩
  next hsink =>
    split at h
    next hcredential =>
      cases h
      exact .inl ⟨fun h => by simp [h.credential] at hcredential, rfl, rfl, rfl⟩
    next hcredential =>
      split at h
      next hasync =>
        cases h
        exact .inl ⟨fun h => by simp [h.async] at hasync, rfl, rfl, rfl⟩
      next hasync =>
        split at h
        next what hwhat =>
          cases h
          refine .inl ⟨fun h => ?_, rfl, rfl, rfl⟩
          obtain ⟨sessionId, hid⟩ := h.readable
          cases hwhat.symm.trans hid
        next sessionId hid =>
          by_cases hroom : m.taskQueue.length < m.config.maxQueueSize
          · obtain ⟨task, m₁, hqueued, htask⟩ := queueNotification_of_room hroom event sink
              credential (sessionId.getD "") false queued
            rw [hqueued] at h
            cases h
            exact .inr ⟨⟨by simpa using hsink, by simpa using hcredential, by simpa using hasync,
              ⟨sessionId, hid⟩, hroom⟩, rfl, task, sessionId.getD "", rfl, hqueued, htask⟩
          · rw [queueNotification, if_pos (not_lt.1 hroom)] at h
            cases h
            exact .inl ⟨fun h => hroom h.room, rfl, rfl, rfl⟩

end QodNotificationManager

/-! ## Tasks keep their events -/

namespace DeliveryRun

variable {E : Type} {r r' : DeliveryRun E} {op : DeliveryOp E}

/-- What is sent for a task: its event, where to and with which credential. -/
def parcel (task : Task E) : E × String × Option SinkCredential :=
  (task.event.event, task.sink, task.credential)

theorem parcel_advance {maxRetryAttempts : ℤ} {e e' : Entry E} {events : List DeliveryEvent}
    (h : Advance maxRetryAttempts e events e') : parcel e'.2 = parcel e.2 := by
  cases h <;> rfl

/-- The tasks in their stages are sent as they have been accepted. -/
theorem parcels_of_reachable (hr : deliverySystem.Reachable r) :
    r.entries.map (fun e => parcel e.2) =
      (r.accepted.map parcel : List (E × String × Option SinkCredential)) := by
  refine System.Reachable.invariant (P := fun r : DeliveryRun E =>
    r.entries.map (fun e => parcel e.2) =
      (r.accepted.map parcel : List (E × String × Option SinkCredential))) ?_ ?_ hr
  · rintro r ⟨config, rfl⟩
    rw [entries_start]
    rfl
  · rintro r op r' - h hnext
    cases moves_of_next hnext with
    | still hentries haccepted _ _ => rw [hentries, haccepted, h]
    | accept task now _ _ hentries haccepted _ _ =>
      rw [hentries, haccepted, Multiset.map_cons, h, Multiset.cons_coe, Multiset.coe_eq_coe,
        List.map_append]
      exact (List.perm_append_singleton _ _).symm
    | advance e e' events rest hadvance _ hentries hentries' haccepted _ _ =>
      rw [hentries, Multiset.map_cons] at h
      rw [hentries', haccepted, Multiset.map_cons, parcel_advance hadvance, h]
    | finish w task success now rest _ hentries hentries' haccepted _ _ =>
      rw [hentries, Multiset.map_cons] at h
      rw [hentries', haccepted, Multiset.map_cons, ← h]

/-- A step of a worker takes on no task. -/
def Internal : DeliveryOp E → Prop
  | .queueNotification .. => False
  | _ => True

theorem accepted_of_internal (hop : Internal op) (h : r.next op = some r') :
    r'.accepted = r.accepted := by
  cases op with
  | queueNotification => cases hop
  | cancelSessionNotifications | cleanupOldStats =>
    cases h
    rfl
  | take | answer | requeue | report | count =>
    obtain ⟨_, -, rfl⟩ := Option.map_eq_some_iff.1 h
    rfl

end DeliveryRun

/-! ## Both managers -/

/-- A session manager and a notification manager. The notifications for which `deliver` is
    yet to be called are in hand; those that it has refused are kept with the results. -/
structure NoticeService where
  sessions : QodRun
  inHand : List Notification
  refused : List (Notification × NotificationDeliveryResult)
  delivery : DeliveryRun Notification

inductive NoticeOp
  /-- A step of the session manager. -/
  | sessions (op : QodOp)
  /-- `deliver` is called for a notification in hand. -/
  | deliver (i : ℕ) (timestamp checked queued : ℤ)
  /-- A step of a worker, or a call of another method. -/
  | delivery (op : DeliveryOp Notification)

namespace NoticeService

/-- The notifications of a step, the earliest first. -/
def notes (m m' : QodSessionManager) : List Notification :=
  (m'.delivered.take (m'.delivered.length - m.delivered.length)).reverse

variable (enableAsyncDelivery : Bool) (sessionIdOf : Notification → Except String (Option String))

/-- `deliver` is called as in `send_status_change_notification`. -/
def deliver (s : NoticeService) (note : Notification) (timestamp checked queued : ℤ) :
    NotificationDeliveryResult × Option (Task Notification) ×
      QodNotificationManager (Numbered Notification) :=
  s.delivery.manager.deliver enableAsyncDelivery (fun event => sessionIdOf event.event)
    ⟨s.delivery.accepted.length, note⟩ note.sink note.sinkCredential timestamp checked queued

/-- A step of one of the two. -/
def next (s : NoticeService) : NoticeOp → Option NoticeService
  | .sessions op => (s.sessions.next op).map fun sessions =>
    { s with sessions, inHand := s.inHand ++ notes s.sessions.manager sessions.manager }
  | .deliver i timestamp checked queued => s.inHand[i]?.map fun note =>
    let (result, task, manager) :=
      s.deliver enableAsyncDelivery sessionIdOf note timestamp checked queued
    { s with
      inHand := s.inHand.eraseIdx i
      refused := if result.success then s.refused else (note, result) :: s.refused
      delivery := { s.delivery with manager, accepted := s.delivery.accepted ++ task.toList } }
  | .delivery op => (s.delivery.next op).map fun delivery => { s with delivery }

/-- Sessions are created as `handle_create_session` reads the requests, and notifications
    queued by `deliver`. -/
def Serves (_ : NoticeService) : NoticeOp → Prop
  | .sessions (.createSession request _ _ _ _) => ∃ lib reader context payload now,
      QodHandler.readCreateRequest lib reader context payload now = .ok request
  | .sessions _ | .deliver .. => True
  | .delivery op => DeliveryRun.Internal op

/-- The runs of both managers, from any configurations. -/
def system : System NoticeService NoticeOp where
  init s := qodSystem.init s.sessions ∧ s.inHand = [] ∧ s.refused = [] ∧
    deliverySystem.init s.delivery
  step s op s' := s.Serves op ∧ s.next enableAsyncDelivery sessionIdOf op = some s'

/-- What holds of both managers in a run. -/
structure Sound (s : NoticeService) : Prop where
  sessions : qodSystem.Reachable s.sessions
  delivery : deliverySystem.Reachable s.delivery
  stored : s.sessions.manager.AllChecked
  checked : ∀ note ∈ s.inHand, note.receiver.Checked
  conserved : (s.sessions.manager.delivered : Multiset Notification) =
    s.inHand + (s.refused.map Prod.fst : List Notification) +
      (s.delivery.accepted.map (·.event.event) : List Notification)
  addressed : ∀ task ∈ s.delivery.accepted,
    DeliveryRun.parcel task = (task.event.event, task.event.event.sink,
      task.event.event.sinkCredential)

variable {enableAsyncDelivery sessionIdOf} {s s' : NoticeService}

theorem notes_eq {m m' : QodSessionManager} {new : List Notification}
    (h : m'.delivered = new ++ m.delivered) : notes m m' = new.reverse := by
  rw [notes, h, List.length_append, Nat.add_sub_cancel, List.take_left']
  rfl

/-- The session manager goes on. -/
theorem Sound.step_sessions (h : s.Sound) {op : QodOp} {sessions : QodRun}
    (hop : s.Serves (.sessions op)) (hnext : s.sessions.next op = some sessions) :
    Sound { s with
      sessions
      inHand := s.inHand ++ notes s.sessions.manager sessions.manager } := by
  have hmanager := QodRun.manager_of_next hnext
  have hfiled := (QodRun.filed_of_reachable h.sessions).1
  have hchecks : ChecksSink op := by
    cases op with
    | createSession request =>
      obtain ⟨lib, reader, context, payload, now, hread⟩ := hop
      exact QodHandler.checked_of_readCreateRequest hread
    | _ => trivial
  obtain ⟨new, hnew, hchecked⟩ := tells_next h.stored hfiled hchecks hmanager
  refine ⟨h.sessions.step hnext, h.delivery, h.stored.next hfiled hchecks hmanager, ?_, ?_,
    h.addressed⟩
  · intro note hnote
    rw [notes_eq hnew, List.mem_append, List.mem_reverse] at hnote
    rcases hnote with hnote | hnote
    · exact h.checked note hnote
    · exact hchecked note hnote
  · dsimp only
    rw [hnew, notes_eq hnew, ← Multiset.coe_add, ← Multiset.coe_add, h.conserved,
      Multiset.coe_reverse]
    ac_rfl

/-- `deliver` is called. -/
theorem Sound.step_deliver (h : s.Sound) {i : ℕ} {timestamp checked queued : ℤ}
    (hnext : s.next enableAsyncDelivery sessionIdOf (.deliver i timestamp checked queued) =
      some s') : s'.Sound := by
  obtain ⟨note, hi, rfl⟩ := Option.map_eq_some_iff.1 hnext
  obtain ⟨hlt, rfl⟩ := List.getElem?_eq_some_iff.1 hi
  have hperm : (s.inHand : Multiset Notification) =
      s.inHand[i] ::ₘ (s.inHand.eraseIdx i : List Notification) := by
    rw [Multiset.cons_coe, Multiset.coe_eq_coe]
    exact (List.getElem_cons_eraseIdx_perm hlt).symm
  have hchecked : ∀ note ∈ s.inHand.eraseIdx i, note.receiver.Checked :=
    fun note hnote => h.checked note (List.mem_of_mem_eraseIdx hnote)
  have hconserved := h.conserved
  rw [hperm] at hconserved
  obtain ⟨⟨result, found, manager⟩, hdeliver⟩ : ∃ r, s.deliver enableAsyncDelivery sessionIdOf
    s.inHand[i] timestamp checked queued = r := ⟨_, rfl⟩
  rw [hdeliver]
  rcases QodNotificationManager.deliver_cases hdeliver with ⟨-, hfailed, rfl, rfl⟩ |
    ⟨-, hsuccess, task, sessionId, rfl, hqueued, hevent, hsink, hcredential⟩
  · -- The notification goes from the hand to those refused.
    dsimp only
    rw [hfailed, if_neg Bool.false_ne_true, Option.toList_none, List.append_nil]
    refine ⟨h.sessions, h.delivery, h.stored, hchecked, ?_, h.addressed⟩
    dsimp only
    rw [hconserved, List.map_cons, ← Multiset.cons_coe, Multiset.cons_add, Multiset.add_cons]
  · -- It becomes a task, as by a call of `queue_notification`.
    dsimp only
    rw [hsuccess, if_pos rfl]
    have hqueue : s.delivery.next (.queueNotification s.inHand[i] s.inHand[i].sink
        s.inHand[i].sinkCredential sessionId false queued) = some { s.delivery with
          manager, accepted := s.delivery.accepted ++ [task] } := by
      rw [DeliveryRun.next, hqueued]
      rfl
    refine ⟨h.sessions, h.delivery.step hqueue, h.stored, hchecked, ?_, fun task' htask' => ?_⟩
    · dsimp only [Option.toList_some]
      rw [hconserved, List.map_append, List.map_singleton, hevent, ← Multiset.coe_add,
        Multiset.coe_singleton, Multiset.cons_add, Multiset.cons_add, ← Multiset.singleton_add]
      ac_rfl
    · rcases List.mem_append.1 htask' with htask' | htask'
      · exact h.addressed task' htask'
      · obtain rfl := List.mem_singleton.1 htask'
        rw [DeliveryRun.parcel, hevent, hsink, hcredential]

theorem sound_of_reachable (hs : (system enableAsyncDelivery sessionIdOf).Reachable s) :
    s.Sound := by
  refine System.Reachable.invariant (P := Sound) ?_ ?_ hs
  · rintro s ⟨hsessions, hinHand, hrefused, hdelivery⟩
    have hstored := QodRun.getSessionById_init hsessions
    obtain ⟨config, pcfService, pcfDestination, notificationHandler, hrun⟩ := id hsessions
    obtain ⟨config', hconfig⟩ := id hdelivery
    refine ⟨.init hsessions, .init hdelivery, fun id session hs => ?_, ?_, ?_, ?_⟩
    · rw [hstored] at hs
      cases hs
    · rw [hinHand]
      exact fun _ h => nomatch h
    · rw [hrun, hinHand, hrefused, hconfig]
      rfl
    · rw [hconfig]
      exact fun _ h => nomatch h
  · rintro s op s' - h ⟨hop, hnext⟩
    cases op with
    | sessions op =>
      obtain ⟨sessions, hsessions, rfl⟩ := Option.map_eq_some_iff.1 hnext
      exact h.step_sessions hop hsessions
    | deliver i timestamp checked queued => exact h.step_deliver hnext
    | delivery op =>
      obtain ⟨delivery, hdelivery, rfl⟩ := Option.map_eq_some_iff.1 hnext
      have haccepted := DeliveryRun.accepted_of_internal hop hdelivery
      refine ⟨h.sessions, h.delivery.step hdelivery, h.stored, h.checked, ?_, ?_⟩
      · dsimp only
        rw [haccepted]
        exact h.conserved
      · dsimp only
        rw [haccepted]
        exact h.addressed

/-- The token of a notification has not expired. -/
def Fresh (note : Notification) (now : ℤ) : Prop :=
  ∀ credential, note.sinkCredential = some credential →
    ∀ e, credential.accessTokenExpiresUtc = some e → now ≤ e

theorem validateCredential_iff {note : Notification} (h : note.receiver.Checked) (now : ℤ) :
    QodNotificationManager.validateCredential note.sinkCredential now = true ↔ Fresh note now := by
  obtain ⟨-, htype⟩ := h note.sink rfl
  rw [QodNotificationManager.validateCredential, Fresh]
  rcases hcredential : note.sinkCredential with _ | credential
  · simp
  · rcases hexpires : credential.accessTokenExpiresUtc with _ | e
    · simp [htype credential hcredential, hexpires]
    · simp [htype credential hcredential, hexpires]

/-- The notifications of the session manager are there once and as they were made: in hand,
    refused, or as tasks in their stages, which are sent to their sinks. In any state a
    notification in hand is accepted just if its token has not expired and, with
    asynchronous delivery, the id of its session can be read and there is room for it. -/
theorem handed_over (hs : (system enableAsyncDelivery sessionIdOf).Reachable s) :
    (s.sessions.manager.delivered : Multiset Notification) =
      s.inHand + (s.refused.map Prod.fst : List Notification) +
        s.delivery.entries.map (fun e => e.2.event.event) ∧
    (∀ e ∈ s.delivery.entries, e.2.sink = e.2.event.event.sink ∧
      e.2.credential = e.2.event.event.sinkCredential) ∧
    ∀ note ∈ s.inHand, ∀ timestamp checked queued,
      (s.deliver enableAsyncDelivery sessionIdOf note timestamp checked queued).1.success = true ↔
        enableAsyncDelivery = true ∧ Fresh note checked ∧
          (∃ sessionId, sessionIdOf note = .ok sessionId) ∧
          s.delivery.manager.taskQueue.length < s.delivery.manager.config.maxQueueSize := by
  have h := sound_of_reachable hs
  have hparcels := DeliveryRun.parcels_of_reachable h.delivery
  refine ⟨?_, fun e he => ?_, fun note hnote timestamp checked queued => ?_⟩
  · have hevents := congrArg (Multiset.map Prod.fst) hparcels
    rw [Multiset.map_map, Multiset.map_coe, List.map_map] at hevents
    rw [h.conserved]
    exact congrArg _ hevents.symm
  · -- What is sent is that of an accepted task.
    have hmem : DeliveryRun.parcel e.2 ∈ s.delivery.entries.map fun e => DeliveryRun.parcel e.2 :=
      Multiset.mem_map_of_mem _ he
    rw [hparcels] at hmem
    obtain ⟨task, htask, heq⟩ := List.mem_map.1 hmem
    have haddressed := h.addressed task htask
    rw [heq] at haddressed
    obtain ⟨hevent, hreceiver⟩ := Prod.mk.inj haddressed
    rw [hevent]
    exact Prod.mk.inj hreceiver
  · have hchecked := h.checked note hnote
    obtain ⟨⟨result, found, manager⟩, hdeliver⟩ : ∃ r, s.deliver enableAsyncDelivery sessionIdOf
      note timestamp checked queued = r := ⟨_, rfl⟩
    rw [hdeliver, ← validateCredential_iff hchecked]
    rcases QodNotificationManager.deliver_cases hdeliver with ⟨hnot, hfailed, -⟩ |
      ⟨haccepts, hsuccess, -⟩
    · refine iff_of_false (by rw [hfailed]; exact Bool.false_ne_true) ?_
      rintro ⟨hasync, hfresh, hreadable, hroom⟩
      exact hnot ⟨(hchecked note.sink rfl).1, hfresh, hasync, hreadable, hroom⟩
    · exact iff_of_true hsuccess
        ⟨haccepts.async, haccepts.credential, haccepts.readable, haccepts.room⟩

/-! ## A token that expires -/

/-- A body with a sink, and a token for it. -/
def sinkBody : Json := .obj
  [("device", .obj [("phoneNumber", .str "+123456789")]),
    ("applicationServer", .obj [("ipv4Address", .str "10.0.0.1")]),
    ("qosProfile", .str "QOS_L"), ("duration", .int 3600),
    ("sink", .str "https://consumer.example.com/sink"),
    ("sinkCredential", .obj [("credentialType", .str "ACCESSTOKEN"), ("accessToken", .str "t"),
      ("accessTokenExpiresUtc", .str "2030-01-01T00:00:00Z"),
      ("accessTokenType", .str "bearer")])]

/-- Its text. -/
def sinkText : String :=
  "\x7b\"applicationServer\":\x7b\"ipv4Address\":\"10.0.0.1\"\x7d," ++
    "\"device\":\x7b\"phoneNumber\":\"+123456789\"\x7d,\"duration\":3600," ++
    "\"qosProfile\":\"QOS_L\",\"sink\":\"https://consumer.example.com/sink\"," ++
    "\"sinkCredential\":\x7b\"accessToken\":\"t\"," ++
    "\"accessTokenExpiresUtc\":\"2030-01-01T00:00:00Z\"," ++
    "\"accessTokenType\":\"bearer\",\"credentialType\":\"ACCESSTOKEN\"\x7d\x7d"

/-- A library that knows the body. -/
def sinkLibrary : Json.Library where
  dump _ := sinkText
  parse s := if s = sinkText then .ok sinkBody else .error "parse error"
  what _ := ""

/-- The time at which the token expires. -/
def tokenExpiry : ℤ := 1893456000 * nanos

/-- A reader in a time zone without an offset. -/
def sinkReader : CredentialReader := ⟨{ credentialType := .plain }, fun _ => tokenExpiry⟩

/-- The request that is read. -/
def sinkRequest : CreateSessionRequest :=
  match QodHandler.parseCreateRequest sinkReader ⟨"consumer", "correlation", false⟩ sinkBody 0 with
  | .ok request => request
  | .error _ => QodRun.phoneSession "consumer"

theorem readCreateRequest_sinkText : QodHandler.readCreateRequest sinkLibrary sinkReader
    ⟨"consumer", "correlation", false⟩ sinkText 0 = .ok sinkRequest := by
  simp only [QodHandler.readCreateRequest, sinkLibrary, if_true]
  rfl

/-- The session is started, and its notification in hand. -/
def started : NoticeOp :=
  .sessions (.createSession sinkRequest "session-1" 0 (some (.created "pcf-1")) 1)

/-- The notification is accepted as long as its token has not expired. -/
theorem handed_over_token : ∃ s note,
    (system true fun note => .ok (some note.sessionId)).Reachable s ∧ s.inHand = [note] ∧
      (s.deliver true (fun note => .ok (some note.sessionId)) note 1 tokenExpiry 1).1.success =
        true ∧
      ¬(s.deliver true (fun note => .ok (some note.sessionId)) note 1 (tokenExpiry + 1)
        1).1.success = true := by
  have h₀ : (system true fun note => .ok (some note.sessionId)).Reachable
      ⟨QodRun.initial, [], [], ⟨.start {}, [], [], []⟩⟩ :=
    .init ⟨⟨_, _, _, _, rfl⟩, rfl, rfl, _, rfl⟩
  have h₁ := h₀.step (a := started) ⟨⟨sinkLibrary, sinkReader,
    ⟨"consumer", "correlation", false⟩, sinkText, 0, readCreateRequest_sinkText⟩, rfl⟩
  obtain ⟨-, -, haccepted⟩ := handed_over h₁
  refine ⟨_, _, h₁, rfl, ?_, ?_⟩
  · exact (haccepted _ (List.mem_singleton_self _) 1 tokenExpiry 1).2
      ⟨rfl, fun credential hcredential e he => by cases hcredential; cases he; decide, ⟨_, rfl⟩,
        by decide⟩
  · intro h
    have hfresh := ((haccepted _ (List.mem_singleton_self _) 1 (tokenExpiry + 1) 1).1 h).2.1
    exact absurd (hfresh _ rfl tokenExpiry rfl) (by decide)

end NoticeService

end PhineAf

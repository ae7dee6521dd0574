import PhineAf.Qod.Delivery

/-!
# Cancellation of notifications

`cancel_session_notifications` is meant to take the tasks of a session out of the queues
(`CancelWorks`). It takes them out of `session_tasks_` only, where a task also stays after
it has been delivered. So it does what it is meant to do just when there is nothing to be
done: no task of the session waits, and none is listed for it
(`DeliveryRun.cancelWorks_iff`).
-/

namespace PhineAf.DeliveryRun

open QodNotificationManager

variable {E : Type} {r r' : DeliveryRun E}

/-- The run after a cancellation. -/
def cancelled (r : DeliveryRun E) (s : String) : DeliveryRun E :=
  { r with manager := (r.manager.cancelSessionNotifications s).2 }

/-- What the cancellation of the tasks of a session is meant to do. -/
structure CancelWorks (r : DeliveryRun E) (s : String) : Prop where
  /-- The waiting tasks of the session are counted. -/
  returned : (r.manager.cancelSessionNotifications s).1 =
    (r.manager.taskQueue ++ r.manager.retryQueue).countP (·.sessionId = s)
  /-- They are removed, and no others. -/
  taskQueue : (r.cancelled s).manager.taskQueue = r.manager.taskQueue.filter (·.sessionId ≠ s)
  retryQueue : (r.cancelled s).manager.retryQueue = r.manager.retryQueue.filter (·.sessionId ≠ s)
  pending : (r.cancelled s).manager.getPendingCount + (r.manager.cancelSessionNotifications s).1 =
    r.manager.getPendingCount
  /-- They are not sent from then on. -/
  unsent : ∀ r', deliverySystem.Later (r.cancelled s) r' →
    ∀ task ∈ r.manager.taskQueue ++ r.manager.retryQueue, task.sessionId = s →
      r'.log.count (.sent task.number) = r.log.count (.sent task.number)
  /-- The tasks that are being delivered, and those of other sessions, stay as they are. -/
  workers : (r.cancelled s).manager.workers = r.manager.workers
  others : ∀ s', s' ≠ s → (r.cancelled s).manager.sessionTasks.lookup s' =
      r.manager.sessionTasks.lookup s' ∧
    (r.cancelled s).manager.sessionStats.lookup s' = r.manager.sessionStats.lookup s'

/-! ## The tasks of a session -/

/-- A session with an entry in `session_tasks_` has a task there. -/
def TasksListed (r : DeliveryRun E) : Prop :=
  ∀ s tasks, r.manager.sessionTasks.lookup s = some tasks → tasks ≠ []

theorem TasksListed.congr (h : r.TasksListed)
    (heq : r'.manager.sessionTasks = r.manager.sessionTasks) : r'.TasksListed := by
  rw [TasksListed, heq]
  exact h

/-- The entry of a session after a task is queued. -/
theorem lookup_queueNotification {m m' : QodNotificationManager E} {event : E} {sink : String}
    {credential : Option SinkCredential} {sessionId : String} {callback : Bool} {now : ℤ}
    {found : Option (NotificationTask E)}
    (h : m.queueNotification event sink credential sessionId callback now = (found, m'))
    (s : String) : m'.sessionTasks.lookup s = m.sessionTasks.lookup s ∨
      ∃ tasks task, m'.sessionTasks.lookup s = some (tasks ++ [task]) := by
  rw [queueNotification] at h
  split at h
  next =>
    cases h
    exact .inl rfl
  next =>
    cases h
    rw [updateStats_eq]
    dsimp only
    split
    next => exact .inl rfl
    next =>
      rw [Table.lookup_insert_eq]
      split
      next => exact .inr ⟨_, _, rfl⟩
      next => exact .inl rfl

/-- An entry is made for a task, and only dropped as a whole. -/
theorem TasksListed.next {op : DeliveryOp E} (h : r.TasksListed) (hnext : r.next op = some r') :
    r'.TasksListed := by
  cases op with
  | queueNotification event sink credential sessionId callback now =>
    rw [DeliveryRun.next] at hnext
    obtain ⟨⟨found, m⟩, hqueued⟩ : ∃ c, r.manager.queueNotification ⟨r.accepted.length, event⟩ sink
      credential sessionId callback now = c := ⟨_, rfl⟩
    rw [hqueued] at hnext
    cases hnext
    intro s tasks hs
    rcases lookup_queueNotification hqueued s with hsame | ⟨tasks', task, hadded⟩
    · exact h s tasks (hsame ▸ hs)
    · change m.sessionTasks.lookup s = some tasks at hs
      rw [hadded, Option.some.injEq] at hs
      rw [← hs]
      exact List.append_ne_nil_of_right_ne_nil _ (List.cons_ne_nil _ _)
  | cancelSessionNotifications sessionId =>
    cases hnext
    intro s tasks hs
    rw [cancelSessionNotifications] at hs
    split at hs
    next =>
      rw [Table.lookup_erase_eq] at hs
      split at hs
      next => cases hs
      next => exact h s tasks hs
    next => exact h s tasks hs
  | cleanupOldStats now =>
    cases hnext
    exact h
  | take w now top =>
    obtain ⟨⟨found, m⟩, htake, rfl⟩ := Option.map_eq_some_iff.1 hnext
    obtain ⟨-, ⟨-, rfl⟩ | ⟨task, taskQueue, retryQueue, -, rfl, -⟩⟩ := take_cases htake
    · exact h.congr rfl
    · exact h.congr rfl
  | answer w httpCode response nextRetryTime =>
    obtain ⟨⟨task, m⟩, hanswer, rfl⟩ := Option.map_eq_some_iff.1 hnext
    obtain ⟨-, ⟨-, -, rfl⟩ | ⟨-, rfl⟩⟩ := answer_cases hanswer
    · exact h.congr rfl
    · exact h.congr rfl
  | requeue w =>
    obtain ⟨m, hrequeue, rfl⟩ := Option.map_eq_some_iff.1 hnext
    obtain ⟨task, -, rfl⟩ := requeue_cases hrequeue
    exact h.congr rfl
  | report w now =>
    obtain ⟨⟨task, result, m⟩, hreport, rfl⟩ := Option.map_eq_some_iff.1 hnext
    obtain ⟨httpCode, response, -, -, rfl⟩ := report_cases hreport
    exact h.congr rfl
  | count w now =>
    obtain ⟨⟨task, success, m⟩, hcount, rfl⟩ := Option.map_eq_some_iff.1 hnext
    obtain ⟨-, rfl⟩ := count_cases hcount
    exact h.congr rfl

theorem tasksListed_of_reachable (hr : deliverySystem.Reachable r) : r.TasksListed := by
  refine hr.invariant (P := TasksListed) ?_ fun r op r' _ h hnext => h.next hnext
  rintro r ⟨config, rfl⟩ s tasks hs
  cases hs

/-! ## Cancellation -/

/-- The count that is returned is zero only if nothing is listed for the session. -/
theorem TasksListed.returned_eq_zero_iff (h : r.TasksListed) (s : String) :
    (r.manager.cancelSessionNotifications s).1 = 0 ↔ r.manager.sessionTasks.lookup s = none := by
  rw [cancelSessionNotifications]
  rcases hs : r.manager.sessionTasks.lookup s with _ | tasks
  · exact ⟨fun _ => rfl, fun _ => rfl⟩
  · have hne := h s tasks hs
    simp [hne]

/-- The queues stay as they are. -/
theorem cancelled_queues (r : DeliveryRun E) (s : String) :
    (r.cancelled s).manager.taskQueue = r.manager.taskQueue ∧
      (r.cancelled s).manager.retryQueue = r.manager.retryQueue := by
  obtain ⟨sessionTasks, heq⟩ := cancelSessionNotifications_eq r.manager s
  rw [cancelled, heq]
  exact ⟨rfl, rfl⟩

/-- Cancellation does what it is meant to do just if no task of the session waits, and
    none has been accepted since the last cancellation. -/
theorem cancelWorks_iff (hr : deliverySystem.Reachable r) (s : String) :
    r.CancelWorks s ↔
      (∀ task ∈ r.manager.taskQueue ++ r.manager.retryQueue, task.sessionId ≠ s) ∧
        r.manager.sessionTasks.lookup s = none := by
  have hlisted := tasksListed_of_reachable hr
  obtain ⟨htask, hretry⟩ := cancelled_queues r s
  constructor
  · intro h
    -- The number of pending tasks has not changed, so the count that is returned is zero.
    have hzero : (r.manager.cancelSessionNotifications s).1 = 0 := by
      have hpending := h.pending
      rw [getPendingCount, getPendingCount, htask, hretry] at hpending
      omega
    refine ⟨fun task hmem heq => ?_, (hlisted.returned_eq_zero_iff s).1 hzero⟩
    have hcount := h.returned
    rw [hzero] at hcount
    exact List.countP_eq_zero.1 hcount.symm task hmem (decide_eq_true heq)
  · rintro ⟨hnone, hentry⟩
    have hzero := (hlisted.returned_eq_zero_iff s).2 hentry
    have hsame : r.cancelled s = r := by
      rw [cancelled, cancelSessionNotifications, hentry]
    have hkept : ∀ l ⊆ r.manager.taskQueue ++ r.manager.retryQueue,
        l.filter (·.sessionId ≠ s) = l := by
      intro l hl
      refine List.filter_eq_self.2 fun task hmem => ?_
      exact decide_eq_true (hnone task (hl hmem))
    refine ⟨?_, ?_, ?_, ?_, ?_, ?_, ?_⟩
    · rw [hzero]
      exact (List.countP_eq_zero.2 fun task hmem h =>
        hnone task hmem (of_decide_eq_true h)).symm
    · rw [hsame, hkept _ (List.subset_append_left _ _)]
    · rw [hsame, hkept _ (List.subset_append_right _ _)]
    · rw [hsame, hzero, Nat.add_zero]
    · exact fun r' _ task hmem heq => absurd heq (hnone task hmem)
    · rw [hsame]
    · rw [hsame]
      exact fun s' _ => ⟨rfl, rfl⟩

/-! ## A task that is cancelled and sent -/

/-- A notification is queued. -/
def queuedOnce : List (DeliveryOp Unit) :=
  [.queueNotification () "https://sink" none "session" true 0]

/-- The start, with one worker. -/
def oneWorker : DeliveryRun Unit := ⟨.start { workerThreadCount := 1 }, [], [], []⟩

/-- A waiting notification is cancelled, stays in the queue, and is sent. -/
theorem cancelled_sent : ∃ r r', queuedOnce.foldlM next oneWorker = some r ∧
    (r.manager.cancelSessionNotifications "session").1 = 1 ∧
    (r.cancelled "session").manager.getPendingCount = 1 ∧
    (r.cancelled "session").next (.take 0 0 0) = some r' ∧ r'.log = [.sent 0] ∧
    ¬r.CancelWorks "session" := by
  refine ⟨_, _, rfl, rfl, rfl, rfl, rfl, fun h => ?_⟩
  exact absurd h.pending (by decide)

/-- A notification of one session is delivered and cancelled after that; of two others, one
    waits for its retry and one to be sent. -/
def deliveredThenCancelled : List (DeliveryOp Unit) :=
  [.queueNotification () "https://sink" none "session" true 0, .take 0 0 0, .answer 0 204 "" 0,
    .report 0 1, .count 0 1, .cancelSessionNotifications "session",
    .queueNotification () "https://sink" none "other" true 2, .take 0 2 0, .answer 0 503 "" 9,
    .requeue 0, .queueNotification () "https://sink" none "other" true 3]

/-- Cancelling the first session again takes nothing from the other one. -/
theorem cancelWorks_after_delivery : ∃ r, deliveredThenCancelled.foldlM next oneWorker = some r ∧
    r.done = [0] ∧ r.retried = [1] ∧ r.queued = [2] ∧ r.CancelWorks "session" := by
  have hrun : (deliveredThenCancelled.foldlM next oneWorker).map (fun r =>
      ((r.done, r.retried, r.queued), r.manager.sessionTasks.lookup "session",
        (r.manager.taskQueue ++ r.manager.retryQueue).map (·.sessionId))) =
      some (([0], [1], [2]), none, ["other", "other"]) := rfl
  obtain ⟨r, hr, hend⟩ := Option.map_eq_some_iff.1 hrun
  obtain ⟨hnumbers, hend⟩ := Prod.mk.inj hend
  obtain ⟨hentry, hsessions⟩ := Prod.mk.inj hend
  obtain ⟨hdone, hnumbers⟩ := Prod.mk.inj hnumbers
  obtain ⟨hretried, hqueued⟩ := Prod.mk.inj hnumbers
  refine ⟨r, hr, hdone, hretried, hqueued,
    (cancelWorks_iff (reachable_of_run hr) "session").2 ⟨fun task hmem heq => ?_, hentry⟩⟩
  -- All waiting tasks are those of the other session.
  have hother := List.mem_map_of_mem (f := (·.sessionId)) hmem
  rw [hsessions, heq] at hother
  exact absurd hother (by decide)

end PhineAf.DeliveryRun

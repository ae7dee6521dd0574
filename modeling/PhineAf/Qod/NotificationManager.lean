import Mathlib.Data.List.Perm.Basic
import Mathlib.Data.Multiset.ZeroCons
import PhineAf.Qod.Session

/-!
# The notification manager

`QodNotificationManager`: the events to deliver wait in `task_queue_`, those to deliver
again in `retry_queue_`, and the worker threads take them from there, the retries first.

A worker goes through its loop in steps, each one critical section or one call made
outside of the locks: it takes a task, has it sent, and either schedules it again or
calls the callback and counts the outcome. `queue_notification` holds the lock of the
queues from its test to its end, and is one step. The events are of any type; the time of
a retry, a random one, is an argument.
-/

namespace PhineAf

/-! ## Tasks and workers -/

structure NotificationConfig where
  maxRetryAttempts : ℤ := 3
  maxQueueSize : ℕ := 10000
  workerThreadCount : ℤ := 4
  deriving DecidableEq, Repr

structure NotificationTask (E : Type) where
  event : E
  sink : String
  credential : Option SinkCredential
  retryCount : ℤ := 0
  nextRetryTime : ℤ
  sessionId : String
  /-- A callback is set. -/
  callback : Bool

structure NotificationDeliveryResult where
  success : Bool
  httpStatusCode : ℤ
  errorMessage : String
  timestamp : ℤ
  deriving DecidableEq, Repr

structure SessionStats where
  totalSent : ℤ := 0
  successful : ℤ := 0
  failed : ℤ := 0
  pending : ℤ := 0
  lastUpdate : ℤ := 0
  deriving DecidableEq, Repr

/-- Where a worker thread is in its loop. -/
inductive Worker (E : Type)
  /-- It looks for a task. -/
  | ready
  /-- It has taken a task and sends it. -/
  | sending (task : NotificationTask E)
  /-- It is to put the task into `retry_queue_`. -/
  | retrying (task : NotificationTask E)
  /-- It is to call the callback with the final result. -/
  | reporting (task : NotificationTask E) (httpCode : ℤ) (response : String)
  /-- It is to update the statistics. -/
  | counting (task : NotificationTask E) (success : Bool)

/-- The task a worker has. -/
def Worker.tasks {E : Type} : Worker E → List (NotificationTask E)
  | .ready => []
  | .sending task | .retrying task | .reporting task _ _ | .counting task _ => [task]

structure QodNotificationManager (E : Type) where
  config : NotificationConfig
  /-- The front first. -/
  taskQueue : List (NotificationTask E)
  /-- In no order. -/
  retryQueue : List (NotificationTask E)
  workers : List (Worker E)
  sessionTasks : Table String (List (NotificationTask E))
  sessionStats : Table String SessionStats

namespace QodNotificationManager

variable {E : Type}

/-- The constructor, and `start`. -/
def start (config : NotificationConfig) : QodNotificationManager E where
  config := config
  taskQueue := []
  retryQueue := []
  workers := List.replicate config.workerThreadCount.toNat .ready
  sessionTasks := ∅
  sessionStats := ∅

variable (m : QodNotificationManager E)

/-- The code of a delivery that has succeeded. -/
def isSuccess (httpCode : ℤ) : Bool := 200 ≤ httpCode && httpCode < 300

/-! ## Statistics -/

/-- The statistics of a session, zero at first. -/
def stats (sessionId : String) : SessionStats := (m.sessionStats.lookup sessionId).getD {}

/-- The statistics `update_stats` leaves. -/
def updated (stats : SessionStats) (success : Bool) (now : ℤ) : SessionStats :=
  let stats := { stats with lastUpdate := now }
  let stats :=
    if success then
      { stats with
        successful := stats.successful + 1
        pending := if 0 < stats.pending then stats.pending - 1 else stats.pending }
    else { stats with pending := stats.pending + 1 }
  { stats with totalSent := stats.successful + stats.failed }

/-- `update_stats`. -/
def updateStats (sessionId : String) (success : Bool) (now : ℤ) : QodNotificationManager E :=
  if sessionId.isEmpty then m
  else { m with
    sessionStats := m.sessionStats.insert sessionId (updated (m.stats sessionId) success now) }

/-- `get_session_stats`: `total_sent`, `successful`, `failed` and `pending`, if there are
    any. -/
def getSessionStats (sessionId : String) : Option (ℤ × ℤ × ℤ × ℤ) :=
  (m.sessionStats.lookup sessionId).map fun stats =>
    (stats.totalSent, stats.successful, stats.failed, stats.pending)

/-- `cleanup_old_stats`: statistics are kept for a day. -/
def cleanupOldStats (now : ℤ) : QodNotificationManager E :=
  let old := m.sessionStats.keys.filter fun sessionId =>
    (m.stats sessionId).lastUpdate < now - 24 * 3600 * nanos
  { m with sessionStats := old.foldl (fun t sessionId => t.erase sessionId) m.sessionStats }

/-! ## Queueing -/

/-- `queue_notification`: whether the task is accepted. -/
def queueNotification (event : E) (sink : String) (credential : Option SinkCredential)
    (sessionId : String) (callback : Bool) (now : ℤ) :
    Option (NotificationTask E) × QodNotificationManager E :=
  if m.config.maxQueueSize ≤ m.taskQueue.length then (none, m)
  else
    let task : NotificationTask E :=
      { event, sink, credential, nextRetryTime := now, sessionId, callback }
    let m := { m with
      taskQueue := m.taskQueue ++ [task]
      sessionTasks :=
        if sessionId.isEmpty then m.sessionTasks
        else m.sessionTasks.insert sessionId
          ((m.sessionTasks.lookup sessionId).getD [] ++ [task]) }
    (some task, m.updateStats sessionId false now)

/-- `cancel_session_notifications`: the tasks stay in the queues. -/
def cancelSessionNotifications (sessionId : String) : ℕ × QodNotificationManager E :=
  match m.sessionTasks.lookup sessionId with
  | some tasks => (tasks.length, { m with sessionTasks := m.sessionTasks.erase sessionId })
  | none => (0, m)

/-- `get_pending_count`. -/
def getPendingCount : ℕ := m.taskQueue.length + m.retryQueue.length

/-! ## Workers -/

/-- The `i`-th entry of `retry_queue_`, if it can be at its top: no other is earlier. -/
def retryTop (i : ℕ) : Option (NotificationTask E) :=
  m.retryQueue[i]?.filter fun task => m.retryQueue.all (task.nextRetryTime ≤ ·.nextRetryTime)

/-- The front of `task_queue_` is taken. -/
def takeFront : Option (NotificationTask E) × QodNotificationManager E :=
  match m.taskQueue with
  | [] => (none, m)
  | task :: rest => (some task, { m with taskQueue := rest })

/-- A task is taken: that at the top of `retry_queue_`, if it is due, or the front of
    `task_queue_`. The top is the entry `top`; nothing happens if that is not one. -/
def takeTask (now : ℤ) (top : ℕ) :
    Option (Option (NotificationTask E) × QodNotificationManager E) :=
  if m.retryQueue.isEmpty then some m.takeFront
  else (m.retryTop top).map fun task =>
    if task.nextRetryTime ≤ now then
      (some task, { m with retryQueue := m.retryQueue.eraseIdx top })
    else m.takeFront

/-- A worker goes on to another place. -/
def setWorker (w : ℕ) (worker : Worker E) : QodNotificationManager E :=
  { m with workers := m.workers.set w worker }

/-- A ready worker looks into the queues, and goes on to send the task it has taken. -/
def take (w : ℕ) (now : ℤ) (top : ℕ) :
    Option (Option (NotificationTask E) × QodNotificationManager E) :=
  match m.workers[w]? with
  | some .ready => (m.takeTask now top).map fun (task, m) =>
      (task, task.elim m fun task => m.setWorker w (.sending task))
  | _ => none

/-- The task, scheduled again. -/
def rescheduled (task : NotificationTask E) (nextRetryTime : ℤ) : NotificationTask E :=
  { task with retryCount := task.retryCount + 1, nextRetryTime }

/-- `send_notification` returns: the task is scheduled again after a failure, as long as
    there are retries left. -/
def answer (w : ℕ) (httpCode : ℤ) (response : String) (nextRetryTime : ℤ) :
    Option (NotificationTask E × QodNotificationManager E) :=
  match m.workers[w]? with
  | some (.sending task) =>
    if !isSuccess httpCode ∧ task.retryCount < m.config.maxRetryAttempts then
      some (task, m.setWorker w (.retrying (rescheduled task nextRetryTime)))
    else some (task, m.setWorker w (.reporting task httpCode response))
  | _ => none

/-- The task is put into `retry_queue_`. -/
def requeue (w : ℕ) : Option (QodNotificationManager E) :=
  match m.workers[w]? with
  | some (.retrying task) =>
    some ({ m with retryQueue := m.retryQueue ++ [task] }.setWorker w .ready)
  | _ => none

/-- The result the callback is called with. -/
def resultOf (httpCode : ℤ) (response : String) (now : ℤ) : NotificationDeliveryResult where
  success := isSuccess httpCode
  httpStatusCode := httpCode
  errorMessage := if isSuccess httpCode then "" else response
  timestamp := now

/-- The callback is called, if there is one. -/
def report (w : ℕ) (now : ℤ) :
    Option (NotificationTask E × Option NotificationDeliveryResult × QodNotificationManager E) :=
  match m.workers[w]? with
  | some (.reporting task httpCode response) =>
    some (task, if task.callback then some (resultOf httpCode response now) else none,
      m.setWorker w (.counting task (isSuccess httpCode)))
  | _ => none

/-- The outcome is counted, and the worker goes back to the queues. -/
def count (w : ℕ) (now : ℤ) : Option (NotificationTask E × Bool × QodNotificationManager E) :=
  match m.workers[w]? with
  | some (.counting task success) =>
    some (task, success, (m.updateStats task.sessionId success now).setWorker w .ready)
  | _ => none

/-! ## What the parts of a step leave alone -/

variable {m}

/-- The statistics are what `update_stats` changes. -/
theorem updateStats_eq (m : QodNotificationManager E) (sessionId : String) (success : Bool)
    (now : ℤ) : m.updateStats sessionId success now =
      { m with sessionStats := (m.updateStats sessionId success now).sessionStats } := by
  rw [updateStats]
  split <;> rfl

/-- The statistics of a session after an update. -/
theorem stats_updateStats {s : String} (hs : s ≠ "") (sessionId : String) (success : Bool)
    (now : ℤ) : (m.updateStats sessionId success now).stats s =
      if sessionId = s then updated (m.stats s) success now else m.stats s := by
  rw [updateStats]
  by_cases hempty : sessionId.isEmpty
  · have hne : sessionId ≠ s := by
      rintro rfl
      exact hs (String.isEmpty_iff.1 hempty)
    rw [if_pos hempty, if_neg hne]
  · rw [if_neg hempty, stats, Table.lookup_insert_eq]
    by_cases heq : sessionId = s
    · rw [if_pos heq.symm, if_pos heq, heq]
      rfl
    · rw [if_neg (Ne.symm heq), if_neg heq, stats]

/-- A task is refused, or goes to the end of the queue. -/
theorem queueNotification_cases {event : E} {sink : String} {credential : Option SinkCredential}
    {sessionId : String} {callback : Bool} {now : ℤ} {found : Option (NotificationTask E)}
    {m' : QodNotificationManager E}
    (h : m.queueNotification event sink credential sessionId callback now = (found, m')) :
    (found = none ∧ m' = m) ∨ ∃ task sessionTasks, found = some task ∧
      m.taskQueue.length < m.config.maxQueueSize ∧ task.event = event ∧ task.retryCount = 0 ∧
      task.sessionId = sessionId ∧ m' = { m with
        taskQueue := m.taskQueue ++ [task]
        sessionTasks := sessionTasks
        sessionStats := (m.updateStats sessionId false now).sessionStats } := by
  rw [queueNotification] at h
  split at h
  next =>
    cases h
    exact .inl ⟨rfl, rfl⟩
  next hroom =>
    cases h
    right
    by_cases hid : sessionId.isEmpty
    · simp only [updateStats, if_pos hid]
      exact ⟨_, _, rfl, not_le.1 hroom, rfl, rfl, rfl, rfl⟩
    · simp only [updateStats, if_neg hid]
      exact ⟨_, _, rfl, not_le.1 hroom, rfl, rfl, rfl, rfl⟩

/-- The tasks in the queues. -/
def waiting (m : QodNotificationManager E) : Multiset (NotificationTask E) :=
  (m.taskQueue ++ m.retryQueue : List (NotificationTask E))

theorem takeFront_cases {found : Option (NotificationTask E)} {m' : QodNotificationManager E}
    (h : m.takeFront = (found, m')) :
    (found = none ∧ m' = m) ∨ ∃ task taskQueue, found = some task ∧
      m.taskQueue = task :: taskQueue ∧ m' = { m with taskQueue } := by
  rw [takeFront] at h
  split at h
  next =>
    cases h
    exact .inl ⟨rfl, rfl⟩
  next task rest hqueue =>
    cases h
    exact .inr ⟨task, rest, rfl, hqueue, rfl⟩

/-- No task is found, or one that has waited is taken. -/
theorem takeTask_cases {now : ℤ} {top : ℕ} {found : Option (NotificationTask E)}
    {m' : QodNotificationManager E} (h : m.takeTask now top = some (found, m')) :
    (found = none ∧ m' = m) ∨ ∃ task taskQueue retryQueue, found = some task ∧
      m' = { m with taskQueue, retryQueue } ∧ m.waiting = task ::ₘ m'.waiting ∧
      taskQueue.length ≤ m.taskQueue.length := by
  have hfront : ∀ {found : Option (NotificationTask E)} {m' : QodNotificationManager E},
      m.takeFront = (found, m') → (found = none ∧ m' = m) ∨ ∃ task taskQueue retryQueue,
        found = some task ∧ m' = { m with taskQueue, retryQueue } ∧
        m.waiting = task ::ₘ m'.waiting ∧ taskQueue.length ≤ m.taskQueue.length := by
    intro found m' hm
    rcases takeFront_cases hm with hnone | ⟨task, rest, hfound, hqueue, hm'⟩
    · exact .inl hnone
    · refine .inr ⟨task, rest, m.retryQueue, hfound, hm', ?_, ?_⟩
      · rw [hm', waiting, waiting, hqueue]
        rfl
      · rw [hqueue]
        exact Nat.le_succ _
  rw [takeTask] at h
  split at h
  next => exact hfront (Option.some.inj h)
  next =>
    obtain ⟨task, htop, h⟩ := Option.map_eq_some_iff.1 h
    split at h
    next =>
      cases h
      obtain ⟨hi, rfl⟩ := List.getElem?_eq_some_iff.1 (Option.filter_eq_some_iff.1 htop).1
      refine .inr ⟨_, m.taskQueue, m.retryQueue.eraseIdx top, rfl, rfl, ?_, le_refl _⟩
      -- Up to order, the top of the retries comes first.
      rw [waiting, waiting, Multiset.cons_coe, Multiset.coe_eq_coe]
      exact (((List.getElem_cons_eraseIdx_perm hi).symm.append_left m.taskQueue).trans
        List.perm_middle)
    next => exact hfront h

/-- Tasks are only dropped from `session_tasks_`. -/
theorem cancelSessionNotifications_eq (m : QodNotificationManager E) (sessionId : String) :
    ∃ sessionTasks, (m.cancelSessionNotifications sessionId).2 = { m with sessionTasks } := by
  rw [cancelSessionNotifications]
  split <;> exact ⟨_, rfl⟩

section Workers

variable {m' : QodNotificationManager E} {w : ℕ} {now : ℤ} {task : NotificationTask E}

/-- A ready worker finds no task, or takes one that has waited. -/
theorem take_cases {top : ℕ} {found : Option (NotificationTask E)}
    (h : m.take w now top = some (found, m')) : m.workers[w]? = some .ready ∧
      ((found = none ∧ m' = m) ∨ ∃ task taskQueue retryQueue, found = some task ∧
        m' = ({ m with taskQueue, retryQueue }).setWorker w (.sending task) ∧
        m.waiting = task ::ₘ m'.waiting ∧ taskQueue.length ≤ m.taskQueue.length) := by
  rw [take] at h
  split at h
  next hw =>
    refine ⟨hw, ?_⟩
    obtain ⟨⟨found', taken⟩, htake, hm'⟩ := Option.map_eq_some_iff.1 h
    rcases takeTask_cases htake with ⟨rfl, rfl⟩ |
      ⟨task, taskQueue, retryQueue, rfl, rfl, hwaiting, hle⟩ <;> cases hm'
    · exact .inl ⟨rfl, rfl⟩
    · exact .inr ⟨task, taskQueue, retryQueue, rfl, rfl, hwaiting, hle⟩
  next => cases h

/-- A delivery that fails is tried again while there are retries left. -/
theorem answer_cases {httpCode nextRetryTime : ℤ} {response : String}
    (h : m.answer w httpCode response nextRetryTime = some (task, m')) :
    m.workers[w]? = some (.sending task) ∧
      ((isSuccess httpCode = false ∧ task.retryCount < m.config.maxRetryAttempts ∧
          m' = m.setWorker w (.retrying (rescheduled task nextRetryTime))) ∨
        ((isSuccess httpCode = true ∨ m.config.maxRetryAttempts ≤ task.retryCount) ∧
          m' = m.setWorker w (.reporting task httpCode response))) := by
  rw [answer] at h
  split at h
  next task' hw =>
    split at h
    next hretry =>
      cases h
      exact ⟨hw, .inl ⟨by simpa using hretry.1, hretry.2, rfl⟩⟩
    next hretry =>
      cases h
      refine ⟨hw, .inr ⟨?_, rfl⟩⟩
      by_cases hsuccess : isSuccess httpCode = true
      · exact .inl hsuccess
      · exact .inr (not_lt.1 fun hlt => hretry ⟨by simpa using hsuccess, hlt⟩)
  next => cases h

theorem requeue_cases (h : m.requeue w = some m') :
    ∃ task, m.workers[w]? = some (.retrying task) ∧
      m' = ({ m with retryQueue := m.retryQueue ++ [task] }).setWorker w .ready := by
  rw [requeue] at h
  split at h
  next task hw =>
    cases h
    exact ⟨task, hw, rfl⟩
  next => cases h

theorem report_cases {result : Option NotificationDeliveryResult}
    (h : m.report w now = some (task, result, m')) : ∃ httpCode response,
      m.workers[w]? = some (.reporting task httpCode response) ∧
      result = (if task.callback then some (resultOf httpCode response now) else none) ∧
      m' = m.setWorker w (.counting task (isSuccess httpCode)) := by
  rw [report] at h
  split at h
  next task' httpCode response hw =>
    cases h
    exact ⟨httpCode, response, hw, rfl, rfl⟩
  next => cases h

theorem count_cases {success : Bool} (h : m.count w now = some (task, success, m')) :
    m.workers[w]? = some (.counting task success) ∧
      m' = ({ m with
        sessionStats := (m.updateStats task.sessionId success now).sessionStats }).setWorker w
          .ready := by
  rw [count] at h
  split at h
  next task' success' hw =>
    cases h
    refine ⟨hw, ?_⟩
    rw [← updateStats_eq]
  next => cases h

end Workers

end QodNotificationManager

end PhineAf

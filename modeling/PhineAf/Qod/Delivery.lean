import PhineAf.Lib.Bag
import PhineAf.Lib.System
import PhineAf.Qod.NotificationManager

/-!
# Delivery of notifications

The runs of the notification manager: events are queued, and the workers go through
their loops, in any order and with any outcome of the deliveries (`deliverySystem`).

A task goes through stages, from a queue to a worker and back, until it is finished
(`Stage`). All the manager does to a task is to take it on, to let it go on by one stage
(`Advance`), and in the end to count it: `DeliveryRun.moves_of_next`. From this follow

* `DeliveryRun.tasks_of_reachable`: no task is lost or duplicated, each is sent a bounded
  number of times and not again after a success, and its callback is called once;
* `DeliveryRun.statsExact_of_reachable`: the statistics of a session are exact, as long as
  no task of it fails for good.
-/

namespace PhineAf

open QodNotificationManager

variable {E : Type}

/-! ## Runs -/

/-- An event, with its number among those accepted. -/
structure Numbered (E : Type) where
  number : ℕ
  event : E

/-- A task of a run. -/
abbrev Task (E : Type) := NotificationTask (Numbered E)

/-- The number of a task. -/
def NotificationTask.number (task : Task E) : ℕ := task.event.number

/-- What happens to a task outside of the manager. -/
inductive DeliveryEvent
  | sent (number : ℕ)
  | answered (number : ℕ) (httpCode : ℤ)
  | called (number : ℕ) (result : NotificationDeliveryResult)
  deriving DecidableEq

/-- The task an event is about. -/
def DeliveryEvent.number : DeliveryEvent → ℕ
  | .sent number => number
  | .answered number _ => number
  | .called number _ => number

/-- A manager, with the tasks it has accepted, those it has finished, with their success,
    and what has happened to them, latest first. -/
structure DeliveryRun (E : Type) where
  manager : QodNotificationManager (Numbered E)
  accepted : List (Task E)
  finished : List (Task E × Bool)
  log : List DeliveryEvent

/-- The steps: calls of others, and the steps of a worker. -/
inductive DeliveryOp (E : Type)
  | queueNotification (event : E) (sink : String) (credential : Option SinkCredential)
      (sessionId : String) (callback : Bool) (now : ℤ)
  | cancelSessionNotifications (sessionId : String)
  | cleanupOldStats (now : ℤ)
  | take (w : ℕ) (now : ℤ) (top : ℕ)
  | answer (w : ℕ) (httpCode : ℤ) (response : String) (nextRetryTime : ℤ)
  | requeue (w : ℕ)
  | report (w : ℕ) (now : ℤ)
  | count (w : ℕ) (now : ℤ)

namespace DeliveryRun

/-- The run after a step. -/
def next (r : DeliveryRun E) : DeliveryOp E → Option (DeliveryRun E)
  | .queueNotification event sink credential sessionId callback now =>
    let (task, manager) := r.manager.queueNotification ⟨r.accepted.length, event⟩ sink credential
      sessionId callback now
    some { r with manager, accepted := r.accepted ++ task.toList }
  | .cancelSessionNotifications sessionId =>
    some { r with manager := (r.manager.cancelSessionNotifications sessionId).2 }
  | .cleanupOldStats now => some { r with manager := r.manager.cleanupOldStats now }
  | .take w now top => (r.manager.take w now top).map fun (task, manager) =>
    { r with manager, log := task.toList.map (.sent ·.number) ++ r.log }
  | .answer w httpCode response nextRetryTime =>
    (r.manager.answer w httpCode response nextRetryTime).map fun (task, manager) =>
      { r with manager, log := .answered task.number httpCode :: r.log }
  | .requeue w => (r.manager.requeue w).map fun manager => { r with manager }
  | .report w now => (r.manager.report w now).map fun (task, result, manager) =>
    { r with manager, log := result.toList.map (.called task.number) ++ r.log }
  | .count w now => (r.manager.count w now).map fun (task, success, manager) =>
    { r with manager, finished := (task, success) :: r.finished }

end DeliveryRun

/-- The runs of a notification manager, from its start, with any configuration. -/
def deliverySystem : System (DeliveryRun E) (DeliveryOp E) where
  init r := ∃ config, r = ⟨.start config, [], [], []⟩
  step r op r' := r.next op = some r'

/-! ## Stages -/

/-- How far a task is. -/
inductive Stage
  | waiting
  | sending
  | retrying
  | reporting (httpCode : ℤ)
  | counting (success : Bool)
  | finished (success : Bool)
  deriving DecidableEq

/-- A task in a stage. -/
abbrev Entry (E : Type) := Stage × Task E

/-- The task of a worker, in its stage. -/
def Worker.entries : Worker (Numbered E) → List (Entry E)
  | .ready => []
  | .sending task => [(.sending, task)]
  | .retrying task => [(.retrying, task)]
  | .reporting task httpCode _ => [(.reporting httpCode, task)]
  | .counting task success => [(.counting success, task)]

/-- A task goes on to the next stage, and what is logged of it. -/
inductive Advance (maxRetryAttempts : ℤ) : Entry E → List DeliveryEvent → Entry E → Prop
  | take (task : Task E) :
      Advance _ (.waiting, task) [.sent task.number] (.sending, task)
  | retry (task : Task E) (httpCode nextRetryTime : ℤ) : isSuccess httpCode = false →
      task.retryCount < maxRetryAttempts → Advance _ (.sending, task)
        [.answered task.number httpCode] (.retrying, rescheduled task nextRetryTime)
  | settle (task : Task E) (httpCode : ℤ) :
      isSuccess httpCode ∨ maxRetryAttempts ≤ task.retryCount → Advance _ (.sending, task)
        [.answered task.number httpCode] (.reporting httpCode, task)
  | requeue (task : Task E) : Advance _ (.retrying, task) [] (.waiting, task)
  | report (task : Task E) (httpCode : ℤ) (result : Option NotificationDeliveryResult) :
      result.map (·.success) = (if task.callback then some (isSuccess httpCode) else none) →
      Advance _ (.reporting httpCode, task) (result.toList.map (.called task.number))
        (.counting (isSuccess httpCode), task)
  | finish (task : Task E) (success : Bool) :
      Advance _ (.counting success, task) [] (.finished success, task)

/-! ## The history of a task -/

namespace DeliveryEvent

/-- How often a task has been sent. -/
def sends (history : List DeliveryEvent) : ℕ :=
  history.countP fun event => match event with
    | .sent _ => true
    | _ => false

/-- The codes a task has been answered with, latest first. -/
def codes (history : List DeliveryEvent) : List ℤ :=
  history.filterMap fun event => match event with
    | .answered _ httpCode => some httpCode
    | _ => none

/-- The results a callback has been called with, latest first. -/
def calls (history : List DeliveryEvent) : List NotificationDeliveryResult :=
  history.filterMap fun event => match event with
    | .called _ result => some result
    | _ => none

/-- Nothing is sent after a success. -/
def NoResend (history : List DeliveryEvent) : Prop :=
  ∀ later earlier n httpCode, history = later ++ .answered n httpCode :: earlier →
    isSuccess httpCode = true → sends later = 0

variable {history : List DeliveryEvent}

/-- Without any success before, there is none to be followed. -/
theorem NoResend.of_failed (h : ∀ c ∈ codes history, isSuccess c = false) : NoResend history := by
  rintro later earlier n httpCode rfl hsuccess
  have hmem : httpCode ∈ codes (later ++ .answered n httpCode :: earlier) := by
    simp [codes]
  rw [h httpCode hmem] at hsuccess
  cases hsuccess

/-- Anything but a task that is sent may follow a success. -/
theorem NoResend.cons (h : NoResend history) {event : DeliveryEvent} (hevent : sends [event] = 0) :
    NoResend (event :: history) := by
  rintro (_ | ⟨first, later⟩) earlier n httpCode heq hsuccess
  · rfl
  · obtain ⟨hfirst, hrest⟩ := List.cons.inj heq
    rw [sends] at hevent
    rw [sends, ← List.singleton_append, List.countP_append, ← hfirst, hevent, Nat.zero_add]
    exact h later earlier n httpCode hrest hsuccess

end DeliveryEvent

open DeliveryEvent

/-- A task has failed as often as it has been scheduled again, and its callback has not
    been called. -/
structure Failing (maxRetryAttempts : ℤ) (history : List DeliveryEvent) (retryCount : ℤ) :
    Prop where
  length_codes : ((codes history).length : ℤ) = retryCount
  failed : ∀ c ∈ codes history, isSuccess c = false
  calls : calls history = []
  le : retryCount ≤ max 0 maxRetryAttempts

/-- A task will not be sent again, after a last answer. -/
structure Settled (maxRetryAttempts : ℤ) (history : List DeliveryEvent) (httpCode : ℤ) :
    Prop where
  head_codes : (codes history).head? = some httpCode
  sends_eq : sends history = (codes history).length
  sends_le : (sends history : ℤ) ≤ 1 + max 0 maxRetryAttempts
  noResend : NoResend history

/-- The history of a task in a stage. -/
def Fits (maxRetryAttempts : ℤ) (history : List DeliveryEvent) : Entry E → Prop
  | (.waiting, task) => Failing maxRetryAttempts history task.retryCount ∧
      sends history = (codes history).length
  | (.sending, task) => Failing maxRetryAttempts history task.retryCount ∧
      sends history = (codes history).length + 1
  | (.retrying, task) => Failing maxRetryAttempts history task.retryCount ∧
      sends history = (codes history).length
  | (.reporting httpCode, _) => Settled maxRetryAttempts history httpCode ∧ calls history = []
  | (.counting success, task) => ∃ httpCode, Settled maxRetryAttempts history httpCode ∧
      success = isSuccess httpCode ∧
      (calls history).map (·.success) = if task.callback then [success] else []
  | (.finished success, task) => ∃ httpCode, Settled maxRetryAttempts history httpCode ∧
      success = isSuccess httpCode ∧
      (calls history).map (·.success) = if task.callback then [success] else []

/-- A task that goes on has the history of its next stage. -/
theorem Fits.advance {maxRetryAttempts : ℤ} {history events : List DeliveryEvent} {e e' : Entry E}
    (h : Fits maxRetryAttempts history e) (hadvance : Advance maxRetryAttempts e events e') :
    Fits maxRetryAttempts (events ++ history) e' := by
  cases hadvance with
  | take task =>
    obtain ⟨hfailing, hsends⟩ := h
    refine ⟨⟨hfailing.length_codes, hfailing.failed, hfailing.calls, hfailing.le⟩, ?_⟩
    change sends (.sent task.number :: history) = (codes history).length + 1
    rw [← hsends]
    exact List.countP_cons_of_pos rfl
  | retry task httpCode nextRetryTime hfailed hlt =>
    obtain ⟨hfailing, hsends⟩ := h
    have hlength := hfailing.length_codes
    refine ⟨⟨?_, ?_, hfailing.calls, ?_⟩, ?_⟩
    · change ((httpCode :: codes history).length : ℤ) = task.retryCount + 1
      rw [← hlength, List.length_cons, Nat.cast_succ]
    · intro c hc
      rcases List.mem_cons.1 (hc : c ∈ httpCode :: codes history) with rfl | hc
      · exact hfailed
      · exact hfailing.failed c hc
    · exact le_max_of_le_right (Int.add_one_le_of_lt hlt)
    · exact hsends
  | settle task httpCode _ =>
    obtain ⟨hfailing, hsends⟩ := h
    refine ⟨⟨rfl, hsends, ?_, (NoResend.of_failed hfailing.failed).cons rfl⟩, hfailing.calls⟩
    change (sends history : ℤ) ≤ 1 + max 0 maxRetryAttempts
    have hlength := hfailing.length_codes
    have hle := hfailing.le
    omega
  | requeue task => exact h
  | report task httpCode result hresult =>
    obtain ⟨hsettled, hcalls⟩ := h
    cases result with
    | none =>
      refine ⟨httpCode, hsettled, rfl, ?_⟩
      change (calls history).map (·.success) = _
      rw [hcalls]
      split at hresult
      · cases hresult
      · rename_i hcallback
        rw [if_neg hcallback]
        rfl
    | some result =>
      refine ⟨httpCode, ⟨hsettled.head_codes, hsettled.sends_eq, hsettled.sends_le,
        hsettled.noResend.cons rfl⟩, rfl, ?_⟩
      change (result :: calls history).map (·.success) = _
      rw [hcalls]
      split at hresult
      · rename_i hcallback
        rw [if_pos hcallback]
        exact congrArg (fun success => [success]) (Option.some.inj hresult)
      · cases hresult
  | finish task success => exact h

/-- The history of a task, from its stage. -/
theorem Fits.sends_le {maxRetryAttempts : ℤ} {history : List DeliveryEvent} {e : Entry E}
    (h : Fits maxRetryAttempts history e) :
    (sends history : ℤ) ≤ 1 + max 0 maxRetryAttempts ∧ NoResend history := by
  have hfailing : ∀ {k : ℤ}, Failing maxRetryAttempts history k →
      sends history ≤ (codes history).length + 1 →
      (sends history : ℤ) ≤ 1 + max 0 maxRetryAttempts ∧ NoResend history := by
    intro k hk hsends
    have hlength := hk.length_codes
    have hle := hk.le
    exact ⟨by omega, .of_failed hk.failed⟩
  obtain ⟨stage, task⟩ := e
  cases stage with
  | waiting => exact hfailing h.1 (h.2.le.trans (Nat.le_succ _))
  | sending => exact hfailing h.1 h.2.le
  | retrying => exact hfailing h.1 (h.2.le.trans (Nat.le_succ _))
  | reporting httpCode => exact ⟨h.1.sends_le, h.1.noResend⟩
  | counting success =>
    obtain ⟨httpCode, hsettled, -⟩ := h
    exact ⟨hsettled.sends_le, hsettled.noResend⟩
  | finished success =>
    obtain ⟨httpCode, hsettled, -⟩ := h
    exact ⟨hsettled.sends_le, hsettled.noResend⟩

/-- The calls made for a task, from its stage. -/
theorem Fits.calls {maxRetryAttempts : ℤ} {history : List DeliveryEvent} {e : Entry E}
    (h : Fits maxRetryAttempts history e) :
    (∃ success, (e.1 = .counting success ∨ e.1 = .finished success) ∧
        ∃ httpCode, (codes history).head? = some httpCode ∧
          sends history = (codes history).length ∧
          (DeliveryEvent.calls history).map (·.success) =
            if e.2.callback then [isSuccess httpCode] else []) ∨
      (∀ success, e.1 ≠ .counting success ∧ e.1 ≠ .finished success) ∧
        DeliveryEvent.calls history = [] := by
  obtain ⟨stage, task⟩ := e
  cases stage with
  | waiting => exact .inr ⟨fun _ => ⟨nofun, nofun⟩, h.1.calls⟩
  | sending => exact .inr ⟨fun _ => ⟨nofun, nofun⟩, h.1.calls⟩
  | retrying => exact .inr ⟨fun _ => ⟨nofun, nofun⟩, h.1.calls⟩
  | reporting httpCode => exact .inr ⟨fun _ => ⟨nofun, nofun⟩, h.2⟩
  | counting success =>
    obtain ⟨httpCode, hsettled, rfl, hcalls⟩ := h
    exact .inl ⟨_, .inl rfl, httpCode, hsettled.head_codes, hsettled.sends_eq, hcalls⟩
  | finished success =>
    obtain ⟨httpCode, hsettled, rfl, hcalls⟩ := h
    exact .inl ⟨_, .inr rfl, httpCode, hsettled.head_codes, hsettled.sends_eq, hcalls⟩

namespace DeliveryRun

variable (r : DeliveryRun E)

/-- Tasks that wait, those of workers and those that are finished, in their stages. -/
def inStages (waiting : Multiset (Task E)) (workers : List (Worker (Numbered E)))
    (finished : List (Task E × Bool)) : Multiset (Entry E) :=
  waiting.map (Prod.mk Stage.waiting) + (workers.flatMap Worker.entries : List (Entry E)) +
    (finished.map fun f => (Stage.finished f.2, f.1) : List (Entry E))

/-- All tasks in their stages. -/
def entries : Multiset (Entry E) := inStages r.manager.waiting r.manager.workers r.finished

/-- What a step does to the tasks and the statistics. -/
inductive Moves (r : DeliveryRun E) : DeliveryOp E → DeliveryRun E → Prop
  | still {op : DeliveryOp E} {r' : DeliveryRun E} : r'.entries = r.entries →
      r'.accepted = r.accepted → r'.log = r.log →
      ((∀ now, op ≠ .cleanupOldStats now) → r'.manager.sessionStats = r.manager.sessionStats) →
      Moves r op r'
  | accept {op : DeliveryOp E} {r' : DeliveryRun E} (task : Task E) (now : ℤ) :
      task.number = r.accepted.length → task.retryCount = 0 →
      r'.entries = (.waiting, task) ::ₘ r.entries → r'.accepted = r.accepted ++ [task] →
      r'.log = r.log →
      r'.manager.sessionStats = (r.manager.updateStats task.sessionId false now).sessionStats →
      Moves r op r'
  | advance {op : DeliveryOp E} {r' : DeliveryRun E} (e e' : Entry E)
      (events : List DeliveryEvent) (rest : Multiset (Entry E)) :
      Advance r.manager.config.maxRetryAttempts e events e' →
      (∀ success, e'.1 ≠ .finished success) → r.entries = e ::ₘ rest →
      r'.entries = e' ::ₘ rest → r'.accepted = r.accepted → r'.log = events ++ r.log →
      r'.manager.sessionStats = r.manager.sessionStats → Moves r op r'
  | finish {r' : DeliveryRun E} (w : ℕ) (task : Task E) (success : Bool) (now : ℤ)
      (rest : Multiset (Entry E)) : r.manager.workers[w]? = some (.counting task success) →
      r.entries = (.counting success, task) ::ₘ rest →
      r'.entries = (.finished success, task) ::ₘ rest → r'.accepted = r.accepted →
      r'.log = r.log →
      r'.manager.sessionStats = (r.manager.updateStats task.sessionId success now).sessionStats →
      Moves r (.count w now) r'

/-! ## What a step does -/

variable {r r' : DeliveryRun E} {op : DeliveryOp E}

/-- A task that comes to wait. -/
theorem inStages_cons (task : Task E) (waiting : Multiset (Task E))
    (workers : List (Worker (Numbered E))) (finished : List (Task E × Bool)) :
    inStages (task ::ₘ waiting) workers finished =
      (.waiting, task) ::ₘ inStages waiting workers finished := by
  rw [inStages, Multiset.map_cons, Multiset.cons_add, Multiset.cons_add, inStages]

/-- A worker that changes: what it had makes room for what it has. -/
theorem inStages_set {workers : List (Worker (Numbered E))} {w : ℕ}
    {worker : Worker (Numbered E)} (hw : workers[w]? = some worker) :
    ∃ rest : Multiset (Task E) → List (Task E × Bool) → Multiset (Entry E),
      (∀ waiting finished, inStages waiting workers finished =
        (worker.entries : Multiset (Entry E)) + rest waiting finished) ∧
      (∀ worker' waiting finished, inStages waiting (workers.set w worker') finished =
        (worker'.entries : Multiset (Entry E)) + rest waiting finished) ∧
      (∀ task waiting finished,
        rest (task ::ₘ waiting) finished = (.waiting, task) ::ₘ rest waiting finished) ∧
      ∀ task success waiting finished, rest waiting ((task, success) :: finished) =
        (.finished success, task) ::ₘ rest waiting finished := by
  obtain ⟨others, hothers, hset⟩ := exists_flatMap_set Worker.entries hw
  refine ⟨fun waiting finished => waiting.map (Prod.mk Stage.waiting) + (others +
    (finished.map fun f => (Stage.finished f.2, f.1) : List (Entry E))), ?_, ?_, ?_, ?_⟩
  · intro waiting finished
    rw [inStages, hothers, Multiset.add_comm _ (_ + others), Multiset.add_assoc,
      Multiset.add_assoc, Multiset.add_comm others, Multiset.add_assoc,
      Multiset.add_comm _ others]
  · intro worker' waiting finished
    rw [inStages, hset, Multiset.add_comm _ (_ + others), Multiset.add_assoc,
      Multiset.add_assoc, Multiset.add_comm others, Multiset.add_assoc,
      Multiset.add_comm _ others]
  · intro task waiting finished
    dsimp only
    rw [Multiset.map_cons, Multiset.cons_add]
  · intro task success waiting finished
    dsimp only
    rw [List.map_cons, ← Multiset.cons_coe, Multiset.add_cons, Multiset.add_cons]

/-- What a step does to the tasks: nothing, or one is accepted, or goes on by a stage. -/
theorem moves_of_next (h : r.next op = some r') : r.Moves op r' := by
  cases op with
  | queueNotification event sink credential sessionId callback now =>
    rw [next] at h
    obtain ⟨⟨found, m⟩, hqueued⟩ : ∃ c, r.manager.queueNotification ⟨r.accepted.length, event⟩ sink
      credential sessionId callback now = c := ⟨_, rfl⟩
    rw [hqueued] at h
    cases h
    rcases queueNotification_cases hqueued with
      ⟨rfl, rfl⟩ | ⟨task, sessionTasks, rfl, -, hevent, hcount, rfl, rfl⟩
    · refine .still rfl ?_ rfl fun _ => rfl
      exact List.append_nil _
    · refine .accept task now ?_ hcount ?_ rfl rfl rfl
      · exact congrArg Numbered.number hevent
      · rw [entries, entries, ← inStages_cons]
        refine congrArg (inStages · _ _) ?_
        rw [waiting, waiting, Multiset.cons_coe, Multiset.coe_eq_coe, List.append_assoc]
        exact List.perm_middle
  | cancelSessionNotifications sessionId =>
    cases h
    obtain ⟨sessionTasks, hcancel⟩ := cancelSessionNotifications_eq r.manager sessionId
    rw [hcancel]
    exact .still rfl rfl rfl fun _ => rfl
  | cleanupOldStats now =>
    cases h
    exact .still rfl rfl rfl fun hne => absurd rfl (hne now)
  | take w now top =>
    obtain ⟨⟨found, m⟩, htake, rfl⟩ := Option.map_eq_some_iff.1 h
    obtain ⟨hw, ⟨rfl, rfl⟩ | ⟨task, taskQueue, retryQueue, rfl, rfl, hwaiting, -⟩⟩ :=
      take_cases htake
    · exact .still rfl rfl rfl fun _ => rfl
    · obtain ⟨rest, hrest, hset, hcons, -⟩ := inStages_set hw
      refine .advance _ _ _ _ (.take task) (fun _ h => by cases h) ?_ (hset _ _ _) rfl rfl rfl
      rw [entries, hrest, hwaiting, hcons]
      exact Multiset.zero_add _
  | answer w httpCode response nextRetryTime =>
    obtain ⟨⟨task, m⟩, hanswer, rfl⟩ := Option.map_eq_some_iff.1 h
    obtain ⟨hw, ⟨hfailed, hlt, rfl⟩ | ⟨hlast, rfl⟩⟩ := answer_cases hanswer
    · obtain ⟨rest, hrest, hset, -⟩ := inStages_set hw
      exact .advance _ _ [.answered _ httpCode] _ (.retry task httpCode nextRetryTime hfailed hlt)
        (fun _ h => by cases h) (hrest _ _) (hset _ _ _) rfl rfl rfl
    · obtain ⟨rest, hrest, hset, -⟩ := inStages_set hw
      exact .advance _ _ [.answered _ httpCode] _ (.settle task httpCode hlast)
        (fun _ h => by cases h) (hrest _ _) (hset _ _ _) rfl rfl rfl
  | requeue w =>
    obtain ⟨m, hrequeue, rfl⟩ := Option.map_eq_some_iff.1 h
    obtain ⟨task, hw, rfl⟩ := requeue_cases hrequeue
    obtain ⟨rest, hrest, hset, hcons, -⟩ := inStages_set hw
    refine .advance _ _ [] _ (.requeue task) (fun _ h => by cases h) (hrest _ _) ?_ rfl rfl rfl
    have hwaiting : (r.manager.taskQueue ++ (r.manager.retryQueue ++ [task]) :
        Multiset (Task E)) = task ::ₘ r.manager.waiting := by
      rw [waiting, Multiset.cons_coe, Multiset.coe_eq_coe, ← List.append_assoc]
      exact List.perm_append_singleton _ _
    exact (hset .ready _ _).trans ((Multiset.zero_add _).trans ((congrArg (rest · _)
      hwaiting).trans (hcons _ _ _)))
  | report w now =>
    obtain ⟨⟨task, result, m⟩, hreport, rfl⟩ := Option.map_eq_some_iff.1 h
    obtain ⟨httpCode, response, hw, rfl, rfl⟩ := report_cases hreport
    obtain ⟨rest, hrest, hset, -⟩ := inStages_set hw
    refine .advance _ _ _ _ (.report task httpCode _ ?_) (fun _ h => by cases h) (hrest _ _)
      (hset _ _ _) rfl rfl rfl
    split <;> rfl
  | count w now =>
    obtain ⟨⟨task, success, m⟩, hcount, rfl⟩ := Option.map_eq_some_iff.1 h
    obtain ⟨hw, rfl⟩ := count_cases hcount
    obtain ⟨rest, hrest, hset, -, hcons⟩ := inStages_set hw
    refine .finish w task success now _ hw (hrest _ _) ?_ rfl rfl rfl
    exact (hset .ready _ _).trans ((Multiset.zero_add _).trans (hcons _ _ _ _))

/-- The configuration stays, and the queue keeps its bound. -/
theorem queue_of_next (h : r.next op = some r') :
    r'.manager.config = r.manager.config ∧
      (r.manager.taskQueue.length ≤ r.manager.config.maxQueueSize →
        r'.manager.taskQueue.length ≤ r.manager.config.maxQueueSize) := by
  cases op with
  | queueNotification event sink credential sessionId callback now =>
    rw [next] at h
    obtain ⟨⟨found, m⟩, hqueued⟩ : ∃ c, r.manager.queueNotification ⟨r.accepted.length, event⟩ sink
      credential sessionId callback now = c := ⟨_, rfl⟩
    rw [hqueued] at h
    cases h
    rcases queueNotification_cases hqueued with
      ⟨rfl, rfl⟩ | ⟨task, sessionTasks, rfl, hroom, -, -, -, rfl⟩
    · exact ⟨rfl, id⟩
    · refine ⟨rfl, fun _ => ?_⟩
      dsimp only
      rw [List.length_append, List.length_singleton]
      exact hroom
  | cancelSessionNotifications sessionId =>
    cases h
    obtain ⟨sessionTasks, hcancel⟩ := cancelSessionNotifications_eq r.manager sessionId
    dsimp only
    rw [hcancel]
    exact ⟨rfl, id⟩
  | cleanupOldStats now =>
    cases h
    exact ⟨rfl, id⟩
  | take w now top =>
    obtain ⟨⟨found, m⟩, htake, rfl⟩ := Option.map_eq_some_iff.1 h
    obtain ⟨-, ⟨rfl, rfl⟩ | ⟨task, taskQueue, retryQueue, rfl, rfl, -, hle⟩⟩ := take_cases htake
    · exact ⟨rfl, id⟩
    · exact ⟨rfl, hle.trans⟩
  | answer w httpCode response nextRetryTime =>
    obtain ⟨⟨task, m⟩, hanswer, rfl⟩ := Option.map_eq_some_iff.1 h
    obtain ⟨-, ⟨-, -, rfl⟩ | ⟨-, rfl⟩⟩ := answer_cases hanswer
    · exact ⟨rfl, id⟩
    · exact ⟨rfl, id⟩
  | requeue w =>
    obtain ⟨m, hrequeue, rfl⟩ := Option.map_eq_some_iff.1 h
    obtain ⟨task, -, rfl⟩ := requeue_cases hrequeue
    exact ⟨rfl, id⟩
  | report w now =>
    obtain ⟨⟨task, result, m⟩, hreport, rfl⟩ := Option.map_eq_some_iff.1 h
    obtain ⟨httpCode, response, -, -, rfl⟩ := report_cases hreport
    exact ⟨rfl, id⟩
  | count w now =>
    obtain ⟨⟨task, success, m⟩, hcount, rfl⟩ := Option.map_eq_some_iff.1 h
    obtain ⟨-, rfl⟩ := count_cases hcount
    exact ⟨rfl, id⟩

/-! ## No task is lost or duplicated -/

/-- What stays of a task on its way. -/
def stamp (task : Task E) : ℕ × String × Bool := (task.number, task.sessionId, task.callback)

/-- The tasks accepted are those there are, in their stages, with their histories. -/
structure Sound (r : DeliveryRun E) : Prop where
  numbered : r.accepted.map (·.number) = List.range r.accepted.length
  conserved : r.entries.map (fun e => stamp e.2) = (r.accepted.map stamp : List (ℕ × String × Bool))
  tracked : Tracked (fun e : Entry E => e.2.number) DeliveryEvent.number
    (Fits r.manager.config.maxRetryAttempts) r.entries r.log
  logged : ∀ event ∈ r.log, event.number < r.accepted.length

/-- The numbers of the tasks in their stages. -/
theorem Sound.numbers (h : r.Sound) :
    r.entries.map (fun e => e.2.number) = (List.range r.accepted.length : Multiset ℕ) := by
  have hmap := congrArg (Multiset.map Prod.fst) h.conserved
  rw [Multiset.map_map, Multiset.map_coe, List.map_map] at hmap
  rw [← h.numbered]
  exact hmap

theorem Sound.number_lt (h : r.Sound) {e : Entry E} (he : e ∈ r.entries) :
    e.2.number < r.accepted.length := by
  have hmem : e.2.number ∈ r.entries.map (fun e => e.2.number) := Multiset.mem_map_of_mem _ he
  rw [h.numbers] at hmem
  exact List.mem_range.1 hmem

theorem stamp_advance {maxRetryAttempts : ℤ} {e e' : Entry E} {events : List DeliveryEvent}
    (h : Advance maxRetryAttempts e events e') : stamp e'.2 = stamp e.2 := by
  cases h <;> rfl

theorem number_advance {maxRetryAttempts : ℤ} {e e' : Entry E} {events : List DeliveryEvent}
    (h : Advance maxRetryAttempts e events e') : ∀ event ∈ events, event.number = e.2.number := by
  intro event hevent
  cases h with
  | take | retry | settle => exact List.mem_singleton.1 hevent ▸ rfl
  | requeue | finish => cases hevent
  | report task httpCode result =>
    obtain ⟨_, -, rfl⟩ := List.mem_map.1 hevent
    rfl

theorem entries_start (config : NotificationConfig) :
    (⟨.start config, [], [], []⟩ : DeliveryRun E).entries = 0 := by
  simp [entries, inStages, QodNotificationManager.start, waiting, Worker.entries]

theorem Sound.start (config : NotificationConfig) :
    Sound (⟨.start config, [], [], []⟩ : DeliveryRun E) := by
  refine ⟨rfl, ?_, ?_, fun event hevent => by cases hevent⟩
  · rw [entries_start]
    rfl
  · rw [entries_start]
    exact .empty

/-- A task that goes on, with what is logged of it. -/
theorem Sound.advance (h : r.Sound) {e e' : Entry E} {events : List DeliveryEvent}
    {rest : Multiset (Entry E)}
    (hadvance : Advance r.manager.config.maxRetryAttempts e events e')
    (hentries : r.entries = e ::ₘ rest) (hentries' : r'.entries = e' ::ₘ rest)
    (haccepted : r'.accepted = r.accepted) (hlog : r'.log = events ++ r.log)
    (hconfig : r'.manager.config = r.manager.config) : r'.Sound := by
  have hstamp := stamp_advance hadvance
  have hnumber : e'.2.number = e.2.number := congrArg Prod.fst hstamp
  have hevents := number_advance hadvance
  refine ⟨haccepted ▸ h.numbered, ?_, ?_, ?_⟩
  · have hconserved := h.conserved
    rw [hentries, Multiset.map_cons] at hconserved
    rw [hentries', haccepted, Multiset.map_cons, hstamp, hconserved]
  · have htracked := h.tracked
    rw [hentries] at htracked
    rw [hentries', hlog, hconfig]
    exact htracked.advance hnumber hevents fun hfits => hfits.advance hadvance
  · rw [hlog, haccepted]
    intro event hevent
    rcases List.mem_append.1 hevent with hevent | hevent
    · rw [hevents event hevent]
      exact h.number_lt (hentries ▸ Multiset.mem_cons_self e rest)
    · exact h.logged event hevent

theorem Sound.next (h : r.Sound) (hnext : r.next op = some r') : r'.Sound := by
  obtain ⟨hconfig, -⟩ := queue_of_next hnext
  cases moves_of_next hnext with
  | still hentries haccepted hlog _ =>
    refine ⟨haccepted ▸ h.numbered, ?_, ?_, ?_⟩
    · rw [hentries, haccepted]
      exact h.conserved
    · rw [hentries, hlog, hconfig]
      exact h.tracked
    · rw [hlog, haccepted]
      exact h.logged
  | accept task now hnumber hcount hentries haccepted hlog _ =>
    refine ⟨?_, ?_, ?_, ?_⟩
    · rw [haccepted, List.map_append, h.numbered, List.length_append, List.length_singleton,
        List.range_succ, List.map_singleton, hnumber]
    · rw [hentries, haccepted, Multiset.map_cons, h.conserved, Multiset.cons_coe,
        Multiset.coe_eq_coe, List.map_append]
      exact (List.perm_append_singleton _ _).symm
    · rw [hentries, hlog, hconfig]
      refine h.tracked.add ?_ (fun event hevent heq => ?_) ?_
      · -- The numbers in use are below the one the task gets.
        rw [h.numbers]
        intro hmem
        have hlt : task.number < r.accepted.length := List.mem_range.1 hmem
        omega
      · have hlt := h.logged event hevent
        dsimp only at heq
        omega
      · refine ⟨⟨hcount.symm, fun c hc => (by cases hc), rfl, ?_⟩, rfl⟩
        rw [hcount]
        exact le_max_left _ _
    · rw [hlog, haccepted, List.length_append, List.length_singleton]
      exact fun event hevent => Nat.lt_succ_of_lt (h.logged event hevent)
  | advance e e' events rest hadvance _ hentries hentries' haccepted hlog _ =>
    exact h.advance hadvance hentries hentries' haccepted hlog hconfig
  | finish w task success now rest _ hentries hentries' haccepted hlog _ =>
    exact h.advance (.finish task success) hentries hentries' haccepted hlog hconfig

theorem sound_of_reachable (hr : deliverySystem.Reachable r) :
    r.Sound ∧ r.manager.taskQueue.length ≤ r.manager.config.maxQueueSize := by
  refine System.Reachable.invariant (P := fun r : DeliveryRun E => r.Sound ∧
    r.manager.taskQueue.length ≤ r.manager.config.maxQueueSize) ?_ ?_ hr
  · rintro r ⟨config, rfl⟩
    exact ⟨.start config, Nat.zero_le _⟩
  · rintro r op r' - ⟨hsound, hqueue⟩ hnext
    obtain ⟨hconfig, hle⟩ := queue_of_next hnext
    exact ⟨hsound.next hnext, hconfig ▸ hle hqueue⟩

/-- The tasks in `task_queue_`. -/
def queued (r : DeliveryRun E) : List ℕ := r.manager.taskQueue.map (·.number)

/-- The tasks in `retry_queue_`. -/
def retried (r : DeliveryRun E) : List ℕ := r.manager.retryQueue.map (·.number)

/-- The tasks of the workers. -/
def inFlight (r : DeliveryRun E) : List ℕ :=
  (r.manager.workers.flatMap Worker.tasks).map (·.number)

/-- The tasks that are finished. -/
def done (r : DeliveryRun E) : List ℕ := r.finished.map (·.1.number)

/-- What has happened to a task, latest first. -/
def history (r : DeliveryRun E) (n : ℕ) : List DeliveryEvent :=
  trace DeliveryEvent.number r.log n

/-- A task has been reported: its worker is to count it, or it is finished. -/
def Reported (r : DeliveryRun E) (n : ℕ) : Prop :=
  (∃ task success, .counting task success ∈ r.manager.workers ∧ task.number = n) ∨ n ∈ r.done

theorem tasks_eq_entries (worker : Worker (Numbered E)) :
    worker.entries.map Prod.snd = worker.tasks := by
  cases worker <;> rfl

theorem numbers_entries (r : DeliveryRun E) :
    r.entries.map (fun e => e.2.number) =
      (r.queued ++ r.retried ++ r.inFlight ++ r.done : List ℕ) := by
  have hworkers : (r.manager.workers.flatMap Worker.entries).map (fun e => e.2.number) =
      r.inFlight := by
    rw [inFlight, List.map_flatMap, List.map_flatMap]
    refine congrArg (r.manager.workers.flatMap ·) (funext fun worker => ?_)
    rw [← tasks_eq_entries, List.map_map]
    rfl
  rw [entries, inStages, Multiset.map_add, Multiset.map_add, Multiset.map_map, waiting,
    Multiset.map_coe, Multiset.map_coe, Multiset.map_coe, hworkers, List.map_map, List.map_append,
    Multiset.coe_add, Multiset.coe_add]
  rfl

/-- An accepted task is in one stage, where it is the task of its number. -/
theorem Sound.exists_entry (h : r.Sound) {n : ℕ} {task : Task E}
    (htask : r.accepted[n]? = some task) : ∃ e ∈ r.entries, e.2.number = n ∧
      e.2.callback = task.callback ∧
      ∀ e' ∈ r.entries, e'.2.number = n → e' = e := by
  obtain ⟨hn, rfl⟩ := List.getElem?_eq_some_iff.1 htask
  have hmem : stamp r.accepted[n] ∈ r.entries.map fun e => stamp e.2 := by
    rw [h.conserved]
    exact List.mem_map_of_mem (List.getElem_mem hn)
  obtain ⟨e, he, hstamp⟩ := Multiset.mem_map.1 hmem
  have hnumber : r.accepted[n].number = n := by
    have hget := congrArg (·[n]?) h.numbered
    simpa [hn] using hget
  have hen : e.2.number = n := (congrArg Prod.fst hstamp).trans hnumber
  refine ⟨e, he, hen, congrArg (·.2.2) hstamp, fun e' he' hn' => ?_⟩
  exact Multiset.inj_on_of_nodup_map h.tracked.nodup e' he' e he (hn'.trans hen.symm)

theorem mem_entries {e : Entry E} : e ∈ r.entries ↔
    (∃ task ∈ r.manager.waiting, (Stage.waiting, task) = e) ∨
      (∃ worker ∈ r.manager.workers, e ∈ worker.entries) ∨
      ∃ f ∈ r.finished, (Stage.finished f.2, f.1) = e := by
  rw [entries, inStages, Multiset.mem_add, Multiset.mem_add, Multiset.mem_map, Multiset.mem_coe,
    Multiset.mem_coe, List.mem_flatMap, List.mem_map, or_assoc]

/-- The stage of a task that has been reported. -/
theorem reported_iff {n : ℕ} : r.Reported n ↔ ∃ e ∈ r.entries, e.2.number = n ∧
    ∃ success, e.1 = .counting success ∨ e.1 = .finished success := by
  constructor
  · rintro (⟨task, success, hworker, hn⟩ | hn)
    · refine ⟨(.counting success, task), ?_, hn, success, .inl rfl⟩
      exact mem_entries.2 (.inr (.inl ⟨_, hworker, List.mem_singleton_self _⟩))
    · obtain ⟨f, hf, hn⟩ := List.mem_map.1 hn
      exact ⟨_, mem_entries.2 (.inr (.inr ⟨f, hf, rfl⟩)), hn, f.2, .inr rfl⟩
  · rintro ⟨e, he, hn, success, hstage⟩
    rcases mem_entries.1 he with ⟨task, -, rfl⟩ | ⟨worker, hworker, hmem⟩ | ⟨f, hf, rfl⟩
    · rcases hstage with h | h <;> cases h
    · cases worker with
      | ready => cases hmem
      | counting task success' =>
        obtain rfl := List.mem_singleton.1 hmem
        exact .inl ⟨task, success', hworker, hn⟩
      | sending | retrying | reporting =>
        obtain rfl := List.mem_singleton.1 hmem
        rcases hstage with h | h <;> cases h
    · exact .inr (List.mem_map.2 ⟨f, hf, hn⟩)

/-- Every accepted task is in one place; it is sent once, and once for each retry at
    most, and not again after a success; its callback is called once it is reported, with
    the outcome of its last answer; and the queue keeps its bound. -/
theorem tasks_of_reachable (hr : deliverySystem.Reachable r) :
    (∀ n, r.queued.count n + r.retried.count n + r.inFlight.count n + r.done.count n =
        if n < r.accepted.length then 1 else 0) ∧
      (∀ n, (sends (r.history n) : ℤ) ≤ 1 + max 0 r.manager.config.maxRetryAttempts ∧
        NoResend (r.history n)) ∧
      (∀ n task, r.accepted[n]? = some task →
        (r.Reported n → ∃ httpCode, (codes (r.history n)).head? = some httpCode ∧
          sends (r.history n) = (codes (r.history n)).length ∧
          (calls (r.history n)).map (·.success) =
            if task.callback then [isSuccess httpCode] else []) ∧
        (¬r.Reported n → calls (r.history n) = [])) ∧
      r.manager.taskQueue.length ≤ r.manager.config.maxQueueSize := by
  obtain ⟨hsound, hqueue⟩ := sound_of_reachable hr
  refine ⟨fun n => ?_, fun n => ?_, fun n task htask => ?_, hqueue⟩
  · have hcount := congrArg (Multiset.count n) ((numbers_entries r).symm.trans hsound.numbers)
    rw [Multiset.coe_count, Multiset.coe_count, List.count_append, List.count_append,
      List.count_append, List.nodup_range.count] at hcount
    simpa using hcount
  · by_cases hn : n < r.accepted.length
    · obtain ⟨e, he, rfl, -⟩ := hsound.exists_entry (List.getElem?_eq_getElem hn)
      have hfits : Fits _ _ e := hsound.tracked.fits e he
      exact hfits.sends_le
    · -- Nothing is logged of a number that is not in use yet.
      have hempty : r.history n = [] := by
        refine List.filter_eq_nil_iff.2 fun event hevent => ?_
        have hlt := hsound.logged event hevent
        simp only [decide_eq_true_eq]
        omega
      rw [hempty]
      refine ⟨?_, .of_failed fun c hc => by cases hc⟩
      have hmax : 0 ≤ max 0 r.manager.config.maxRetryAttempts := le_max_left _ _
      change ((0 : ℕ) : ℤ) ≤ _
      omega
  · obtain ⟨e, he, rfl, hcallback, hunique⟩ := hsound.exists_entry htask
    rw [reported_iff, ← hcallback]
    have hfits : Fits _ _ e := hsound.tracked.fits e he
    rcases hfits.calls with ⟨success, hstage, hcalls⟩ | ⟨hstage, hcalls⟩
    · refine ⟨fun _ => hcalls, fun hnot => ?_⟩
      exact absurd ⟨e, he, rfl, success, hstage⟩ hnot
    · refine ⟨fun hreported => ?_, fun _ => hcalls⟩
      obtain ⟨e', he', hn, success, hstage'⟩ := hreported
      obtain rfl := hunique e' he' hn
      rcases hstage' with h | h
      · exact absurd h (hstage success).1
      · exact absurd h (hstage success).2

/-- The end of a run is reachable. -/
theorem reachable_of_run {config : NotificationConfig} {ops : List (DeliveryOp E)}
    (hrun : ops.foldlM next ⟨.start config, [], [], []⟩ = some r) : deliverySystem.Reachable r :=
  .foldlM (fun _ _ _ _ h => h) (.init ⟨config, rfl⟩) hrun

/-- A task that succeeds at its second attempt. -/
def retriedOnce : List (DeliveryOp Unit) :=
  [.queueNotification () "https://sink" none "session" true 0, .take 0 0 0, .answer 0 503 "" 1,
    .requeue 0, .take 0 1 0, .answer 0 204 "" 0, .report 0 2, .count 0 2]

theorem tasks_retriedOnce : ∃ r, retriedOnce.foldlM next
    ⟨.start { workerThreadCount := 1 }, [], [], []⟩ = some r ∧ r.done = [0] ∧
      NoResend (r.history 0) ∧ ∃ httpCode, (codes (r.history 0)).head? = some httpCode ∧
        (calls (r.history 0)).map (·.success) = [isSuccess httpCode] := by
  have hrun : (retriedOnce.foldlM next ⟨.start { workerThreadCount := 1 }, [], [], []⟩).map
      (fun r => (r.done, r.accepted.map (·.callback))) = some ([0], [true]) := rfl
  obtain ⟨r, hr, hdone⟩ := Option.map_eq_some_iff.1 hrun
  obtain ⟨hdone, haccepted⟩ := Prod.mk.inj hdone
  obtain ⟨task, htask, hcallback⟩ := List.map_eq_singleton_iff.1 haccepted
  have htask' : r.accepted[0]? = some task := by rw [htask]; rfl
  obtain ⟨-, hsends, hcalls, -⟩ := tasks_of_reachable (reachable_of_run hr)
  obtain ⟨httpCode, hcode, -, hresult⟩ :=
    (hcalls 0 task htask').1 (.inr (hdone ▸ List.mem_singleton_self 0))
  rw [hcallback] at hresult
  exact ⟨r, hr, hdone, (hsends 0).2, httpCode, hcode, hresult⟩

/-- With a negative `max_retry_attempts`, a task is still sent once. -/
theorem sends_negative_retries : ∃ r : DeliveryRun Unit, deliverySystem.Reachable r ∧
    ¬(sends (r.history 0) : ℤ) ≤ 1 + r.manager.config.maxRetryAttempts := by
  have hrun : ((retriedOnce.take 2).foldlM next
      ⟨.start { maxRetryAttempts := -1, workerThreadCount := 1 }, [], [], []⟩).map
      (fun r => (sends (r.history 0), r.manager.config.maxRetryAttempts)) = some (1, -1) := rfl
  obtain ⟨r, hr, hsends⟩ := Option.map_eq_some_iff.1 hrun
  obtain ⟨hsends, hretries⟩ := Prod.mk.inj hsends
  refine ⟨r, reachable_of_run hr, ?_⟩
  rw [hsends, hretries]
  decide

/-! ## Statistics -/

/-- The accepted tasks of a session that are not finished. -/
def unfinished (r : DeliveryRun E) (s : String) : ℕ :=
  r.accepted.countP fun task => task.sessionId = s ∧ task.number ∉ r.done

/-- The tasks of a session that have finished with or without success. -/
def finishedWith (r : DeliveryRun E) (s : String) (success : Bool) : ℕ :=
  r.finished.countP fun f => f.1.sessionId = s ∧ f.2 = success

/-- The statistics of a session say how its tasks are. -/
structure StatsExact (r : DeliveryRun E) (s : String) : Prop where
  pending : (r.manager.stats s).pending = r.unfinished s
  successful : (r.manager.stats s).successful = r.finishedWith s true
  failed : (r.manager.stats s).failed = r.finishedWith s false
  totalSent : (r.manager.stats s).totalSent =
    (r.manager.stats s).successful + (r.manager.stats s).failed

/-- The tasks of a session that are on their way. -/
def onTheWay (r : DeliveryRun E) (s : String) : ℕ :=
  r.entries.countP fun e => e.2.sessionId = s ∧ ∀ success, e.1 ≠ .finished success

/-- The finished tasks are those in the last stage. -/
theorem finishedWith_eq (r : DeliveryRun E) (s : String) (success : Bool) :
    r.finishedWith s success =
      r.entries.countP fun e => e.2.sessionId = s ∧ e.1 = .finished success := by
  have hwaiting : (r.manager.waiting.map (Prod.mk Stage.waiting)).countP
      (fun e : Entry E => e.2.sessionId = s ∧ e.1 = .finished success) = 0 := by
    rw [Multiset.countP_eq_zero]
    rintro e he ⟨-, hstage⟩
    obtain ⟨task, -, rfl⟩ := Multiset.mem_map.1 he
    cases hstage
  have hworkers : (r.manager.workers.flatMap Worker.entries : Multiset (Entry E)).countP
      (fun e => e.2.sessionId = s ∧ e.1 = .finished success) = 0 := by
    rw [Multiset.countP_eq_zero]
    rintro e he ⟨-, hstage⟩
    obtain ⟨worker, -, he⟩ := List.mem_flatMap.1 (Multiset.mem_coe.1 he)
    cases worker with
    | ready => cases he
    | sending | retrying | reporting | counting =>
      obtain rfl := List.mem_singleton.1 he
      cases hstage
  rw [entries, inStages, Multiset.countP_add, Multiset.countP_add, hwaiting, hworkers,
    Multiset.coe_countP, List.countP_map, finishedWith]
  simp [Function.comp_def]

/-- A task in a stage is finished if its number is that of one that is. -/
theorem Sound.mem_done_iff (h : r.Sound) {e : Entry E} (he : e ∈ r.entries) :
    e.2.number ∈ r.done ↔ ∃ success, e.1 = .finished success := by
  constructor
  · intro hdone
    obtain ⟨f, hf, hnumber⟩ := List.mem_map.1 hdone
    have hmem : (Stage.finished f.2, f.1) ∈ r.entries := mem_entries.2 (.inr (.inr ⟨f, hf, rfl⟩))
    obtain rfl := Multiset.inj_on_of_nodup_map h.tracked.nodup _ hmem e he hnumber
    exact ⟨f.2, rfl⟩
  · rintro ⟨success, hstage⟩
    rcases mem_entries.1 he with ⟨task, -, rfl⟩ | ⟨worker, -, hmem⟩ | ⟨f, hf, rfl⟩
    · cases hstage
    · cases worker with
      | ready => cases hmem
      | sending | retrying | reporting | counting =>
        obtain rfl := List.mem_singleton.1 hmem
        cases hstage
    · exact List.mem_map.2 ⟨f, hf, rfl⟩

/-- The tasks that are not finished are those on their way. -/
theorem Sound.unfinished_eq (h : r.Sound) (s : String) : r.unfinished s = r.onTheWay s := by
  have hcount := congrArg (Multiset.countP fun x : ℕ × String × Bool =>
    x.2.1 = s ∧ x.1 ∉ r.done) h.conserved
  rw [Multiset.countP_map, ← Multiset.countP_eq_card_filter, Multiset.coe_countP,
    List.countP_map] at hcount
  have hstages : r.onTheWay s = r.entries.countP fun e =>
      (stamp e.2).2.1 = s ∧ (stamp e.2).1 ∉ r.done := by
    refine Multiset.countP_congr rfl fun e he => ?_
    have hdone : (stamp e.2).1 ∈ r.done ↔ _ := h.mem_done_iff he
    rw [hdone, not_exists]
    rfl
  exact hcount.symm.trans hstages.symm

/-- What the statistics of a session are, in any run. -/
structure Counted (r : DeliveryRun E) (s : String) : Prop where
  pending : (r.manager.stats s).pending = r.onTheWay s + 2 * r.finishedWith s false
  successful : (r.manager.stats s).successful = r.finishedWith s true
  failed : (r.manager.stats s).failed = 0
  totalSent : (r.manager.stats s).totalSent = (r.manager.stats s).successful

/-- The statistics are exact if no task has failed. -/
theorem Counted.exact_iff {s : String} (h : r.Counted s) (hsound : r.Sound) :
    r.StatsExact s ↔ r.finishedWith s false = 0 := by
  have hpending := h.pending
  have hfailed := h.failed
  have htotal := h.totalSent
  constructor
  · intro hexact
    have hfailed' := hexact.failed
    omega
  · intro hnone
    refine ⟨?_, h.successful, ?_, ?_⟩
    · rw [hsound.unfinished_eq]
      omega
    · omega
    · omega

theorem stats_congr {m m' : QodNotificationManager (Numbered E)}
    (h : m'.sessionStats = m.sessionStats) (s : String) : m'.stats s = m.stats s := by
  rw [stats, h, stats]

/-- What is counted of a task that is on its way, and of one that is not any more. -/
theorem counts_of_cons {e : Entry E} {rest : Multiset (Entry E)} (s : String)
    (hentries : r.entries = e ::ₘ rest) :
    (r.onTheWay s = rest.countP (fun e => e.2.sessionId = s ∧ ∀ success, e.1 ≠ .finished success) +
      if e.2.sessionId = s ∧ ∀ success, e.1 ≠ .finished success then 1 else 0) ∧
    ∀ success, r.finishedWith s success =
      rest.countP (fun e => e.2.sessionId = s ∧ e.1 = .finished success) +
        if e.2.sessionId = s ∧ e.1 = .finished success then 1 else 0 := by
  refine ⟨?_, fun success => ?_⟩
  · rw [onTheWay, hentries, Multiset.countP_cons]
  · rw [finishedWith_eq, hentries, Multiset.countP_cons]

/-- A task that goes on stays on its way, until it is finished. -/
theorem unfinished_of_advance {maxRetryAttempts : ℤ} {e e' : Entry E}
    {events : List DeliveryEvent} (h : Advance maxRetryAttempts e events e') :
    ∀ success, e.1 ≠ .finished success := by
  rcases h <;> exact nofun

theorem Counted.congr {s : String} (h : r.Counted s)
    (hstats : r'.manager.stats s = r.manager.stats s) (hway : r'.onTheWay s = r.onTheWay s)
    (hfinished : ∀ success, r'.finishedWith s success = r.finishedWith s success) :
    r'.Counted s := by
  refine ⟨?_, ?_, ?_, ?_⟩
  · rw [hstats, hway, hfinished, h.pending]
  · rw [hstats, hfinished, h.successful]
  · rw [hstats, h.failed]
  · rw [hstats, h.totalSent]

/-- `update_stats`, after an event of the session: a task that comes or fails makes one
    more that is pending, a success one less. -/
theorem Counted.update {s : String} (h : r.Counted s) {success : Bool} {now : ℤ}
    (hstats : r'.manager.stats s = updated (r.manager.stats s) success now)
    (hway : (r'.onTheWay s : ℤ) + 2 * r'.finishedWith s false =
      r.onTheWay s + 2 * r.finishedWith s false + if success then -1 else 1)
    (hfinished : r'.finishedWith s true = r.finishedWith s true + if success then 1 else 0) :
    r'.Counted s := by
  obtain ⟨hpending, hsuccessful, hfailed, htotal⟩ := h
  rcases success with _ | _
  · refine ⟨?_, ?_, ?_, ?_⟩
    · rw [hstats, hway, ← hpending]
      rfl
    · rw [hstats, hfinished]
      exact hsuccessful
    · rw [hstats]
      exact hfailed
    · rw [hstats]
      change (r.manager.stats s).successful + (r.manager.stats s).failed = _
      rw [hfailed]
      exact Int.add_zero _
  · -- The task itself is pending before.
    have hpos : 0 < (r.manager.stats s).pending := by
      rw [if_pos rfl] at hway
      omega
    refine ⟨?_, ?_, ?_, ?_⟩
    · rw [hstats, hway, ← hpending]
      exact if_pos hpos
    · rw [hstats, hfinished, Nat.cast_add, ← hsuccessful]
      rfl
    · rw [hstats]
      exact hfailed
    · rw [hstats]
      change (r.manager.stats s).successful + 1 + (r.manager.stats s).failed = _
      rw [hfailed]
      exact Int.add_zero _

/-- Without a clean-up, the statistics go on as the tasks do. -/
theorem Counted.next {s : String} (hs : s ≠ "") (h : r.Counted s)
    (hop : ∀ now, op ≠ .cleanupOldStats now) (hnext : r.next op = some r') : r'.Counted s := by
  rcases moves_of_next hnext with ⟨hentries, -, -, hstats⟩ |
    ⟨task, now, -, -, hentries, -, -, hstats⟩ |
    ⟨e, e', events, rest, hadvance, hunfinished, hentries, hentries', -, -, hstats⟩ |
    ⟨w, task, success, now, rest, -, hentries, hentries', -, -, hstats⟩
  · refine h.congr (stats_congr (hstats hop) s) ?_ fun success => ?_
    · rw [onTheWay, hentries, onTheWay]
    · rw [finishedWith_eq, hentries, finishedWith_eq]
  · have hupdate := (stats_congr hstats s).trans (stats_updateStats hs task.sessionId false now)
    obtain ⟨hway, hcount⟩ := counts_of_cons s hentries
    have hfinished : ∀ success, r'.finishedWith s success = r.finishedWith s success := by
      intro success
      rw [hcount, finishedWith_eq, if_neg fun h => nomatch h.2]
      rfl
    rw [← onTheWay] at hway
    by_cases heq : task.sessionId = s
    · rw [if_pos heq] at hupdate
      rw [if_pos ⟨heq, nofun⟩] at hway
      refine h.update hupdate ?_ (hfinished true)
      rw [hway, hfinished, Nat.cast_add, Int.add_right_comm]
      rfl
    · rw [if_neg heq] at hupdate
      rw [if_neg fun h => heq h.1] at hway
      exact h.congr hupdate hway hfinished
  · -- The task has the same session before and after, and is not finished.
    have hsession : e'.2.sessionId = e.2.sessionId := congrArg (·.2.1) (stamp_advance hadvance)
    obtain ⟨hway, hcount⟩ := counts_of_cons s hentries
    obtain ⟨hway', hcount'⟩ := counts_of_cons s hentries'
    have hbefore := unfinished_of_advance hadvance
    refine h.congr (stats_congr hstats s) ?_ fun success => ?_
    · rw [hway, hway', hsession]
      simp only [hunfinished, hbefore, ne_eq, not_false_eq_true, implies_true, and_true]
    · rw [hcount, hcount', if_neg fun h => hunfinished _ h.2, if_neg fun h => hbefore _ h.2]
  · have hupdate := (stats_congr hstats s).trans (stats_updateStats hs task.sessionId success now)
    obtain ⟨hway, hcount⟩ := counts_of_cons s hentries
    obtain ⟨hway', hcount'⟩ := counts_of_cons s hentries'
    have hbefore : ∀ success', r.finishedWith s success' = rest.countP
        fun e => e.2.sessionId = s ∧ e.1 = .finished success' := by
      intro success'
      rw [hcount, if_neg (fun h => nomatch h.2), Nat.add_zero]
    rw [if_neg fun h => h.2 success rfl] at hway'
    by_cases heq : task.sessionId = s
    · rw [if_pos heq] at hupdate
      rw [if_pos ⟨heq, nofun⟩] at hway
      have hafter : ∀ success', r'.finishedWith s success' =
          r.finishedWith s success' + if success = success' then 1 else 0 := by
        intro success'
        rw [hcount', hbefore]
        simp only [heq, true_and, Stage.finished.injEq]
      have hfalse := hafter false
      refine h.update hupdate ?_ (hafter true)
      rcases success with _ | _ <;> simp only [reduceCtorEq, if_true, if_false] at * <;> omega
    · rw [if_neg heq] at hupdate
      rw [if_neg fun h => heq h.1] at hway
      refine h.congr hupdate (hway'.trans hway.symm) fun success' => ?_
      rw [hcount', hbefore, if_neg fun h => heq h.1, Nat.add_zero]

theorem Counted.start (config : NotificationConfig) (s : String) :
    Counted (⟨.start config, [], [], []⟩ : DeliveryRun E) s := by
  have hway : (⟨.start config, [], [], []⟩ : DeliveryRun E).onTheWay s = 0 := by
    rw [onTheWay, entries_start]
    rfl
  exact ⟨(congrArg Nat.cast hway).symm, rfl, rfl, rfl⟩

/-- A worker does not count a failure of the session, and no statistics are dropped. -/
def Succeeds (s : String) (r : DeliveryRun E) : DeliveryOp E → Prop
  | .count w _ => ∀ task, r.manager.workers[w]? = some (.counting task false) →
      task.sessionId ≠ s
  | .cleanupOldStats _ => False
  | _ => True

/-- A failure is there from the step that counts it. -/
theorem finishedWith_next {s : String} (hop : ∀ now, op ≠ .cleanupOldStats now)
    (hnext : r.next op = some r') :
    r'.finishedWith s false = 0 ↔ r.finishedWith s false = 0 ∧ Succeeds s r op := by
  have hsame : r'.finished = r.finished → Succeeds s r op →
      (r'.finishedWith s false = 0 ↔ r.finishedWith s false = 0 ∧ Succeeds s r op) := by
    intro heq hsucceeds
    rw [finishedWith, heq, ← finishedWith]
    exact (and_iff_left hsucceeds).symm
  cases op with
  | queueNotification | cancelSessionNotifications =>
    cases hnext
    exact hsame rfl trivial
  | cleanupOldStats now => exact absurd rfl (hop now)
  | take | answer | requeue | report =>
    obtain ⟨_, -, rfl⟩ := Option.map_eq_some_iff.1 hnext
    exact hsame rfl trivial
  | count w now =>
    obtain ⟨⟨task, success, m⟩, hcount, rfl⟩ := Option.map_eq_some_iff.1 hnext
    obtain ⟨hw, rfl⟩ := count_cases hcount
    have hcons := List.countP_cons (p := fun f : Task E × Bool =>
      decide (f.1.sessionId = s ∧ f.2 = false)) (a := (task, success)) (l := r.finished)
    have hsucceeds : Succeeds s r (.count w now) ↔ ¬(task.sessionId = s ∧ success = false) := by
      rw [Succeeds, hw]
      constructor
      · rintro h ⟨heq, rfl⟩
        exact h task rfl heq
      · rintro h task' hfailed heq
        cases hfailed
        exact h ⟨heq, rfl⟩
    rw [finishedWith, hcons, ← finishedWith, hsucceeds, Nat.add_eq_zero_iff]
    simp

/-- The statistics of a session are exact as long as none of its tasks fails for good:
    the first that does is counted as pending once more. -/
theorem statsExact_of_reachable {s : String} (hs : s ≠ "")
    (hr : (deliverySystem.restrict (Succeeds s)).Reachable r) :
    r.StatsExact s ∧ ∀ op r', (∀ now, op ≠ .cleanupOldStats now) → r.next op = some r' →
      (r'.StatsExact s ↔ Succeeds s r op) := by
  have hsound := (sound_of_reachable hr.of_restrict).1
  have hcounted : r.Counted s ∧ r.finishedWith s false = 0 := by
    refine hr.invariant (P := fun r => r.Counted s ∧ r.finishedWith s false = 0) ?_ ?_
    · rintro r ⟨config, rfl⟩
      exact ⟨.start config s, rfl⟩
    · rintro r op r' - ⟨hcounted, hnone⟩ ⟨hsucceeds, hnext⟩
      have hop : ∀ now, op ≠ .cleanupOldStats now := by
        rintro now rfl
        exact hsucceeds
      exact ⟨hcounted.next hs hop hnext, (finishedWith_next hop hnext).2 ⟨hnone, hsucceeds⟩⟩
  obtain ⟨hcounted, hnone⟩ := hcounted
  refine ⟨(hcounted.exact_iff hsound).2 hnone, fun op r' hop hnext => ?_⟩
  rw [(hcounted.next hs hop hnext).exact_iff (hsound.next hnext), finishedWith_next hop hnext]
  exact and_iff_right hnone

theorem statsExact_delivered : ∃ r : DeliveryRun Unit,
    r.finished.length = 1 ∧ r.StatsExact "session" := by
  have hqueued : (deliverySystem.restrict (Succeeds "session")).Reachable _ :=
    .step (a := DeliveryOp.queueNotification () "https://sink" none "session" true 0)
      (.init ⟨{ workerThreadCount := 1 }, rfl⟩) ⟨trivial, rfl⟩
  have hanswered : (deliverySystem.restrict (Succeeds "session")).Reachable _ :=
    .step (a := DeliveryOp.answer 0 204 "" 0)
      (.step (a := DeliveryOp.take 0 0 0) hqueued ⟨trivial, rfl⟩) ⟨trivial, rfl⟩
  have hcounted : (deliverySystem.restrict (Succeeds "session")).Reachable _ :=
    .step (a := DeliveryOp.count 0 2)
      (.step (a := DeliveryOp.report 0 2) hanswered ⟨trivial, rfl⟩) ⟨fun _ h => (by cases h), rfl⟩
  exact ⟨_, rfl, (statsExact_of_reachable (by decide) hcounted).1⟩

/-- A task that fails, without any retries left. -/
def failedOnce : List (DeliveryOp Unit) :=
  [.queueNotification () "https://sink" none "session" true 0, .take 0 0 0, .answer 0 503 "" 1,
    .report 0 2, .count 0 2]

/-- A failure that is counted as pending once more. -/
theorem not_statsExact_failed : ∃ r, failedOnce.foldlM next
    ⟨.start { maxRetryAttempts := 0, workerThreadCount := 1 }, [], [], []⟩ = some r ∧
      r.manager.getSessionStats "session" = some (0, 0, 0, 2) ∧ ¬r.StatsExact "session" := by
  have hrun : (failedOnce.foldlM next
      ⟨.start { maxRetryAttempts := 0, workerThreadCount := 1 }, [], [], []⟩).map
      (fun r => (r.manager.getSessionStats "session", (r.manager.stats "session").failed,
        r.finishedWith "session" false)) = some (some (0, 0, 0, 2), 0, 1) := rfl
  obtain ⟨r, hr, hstats⟩ := Option.map_eq_some_iff.1 hrun
  obtain ⟨hstats, hrest⟩ := Prod.mk.inj hstats
  obtain ⟨hfailed, hfinished⟩ := Prod.mk.inj hrest
  refine ⟨r, hr, hstats, fun hexact => ?_⟩
  have heq := hexact.failed
  rw [hfailed, hfinished] at heq
  cases heq

end DeliveryRun

end PhineAf

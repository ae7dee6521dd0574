import PhineAf.Qod.Delivery

/-!
# Notifications that are not sent

`HttpNotificationClient::send_notification` does not send anything yet: it returns the code 0
and a text. Nothing calls `cleanup_old_stats` either. In the runs of a notification manager
with this client (`unsentSystem`)

* a notification is given up after as many attempts as are allowed, and no earlier, and its
  callback is told of the failure;
* the statistics of a session count none that was sent or has failed, but as pending once each
  that was accepted, and once more each that was given up.

This is `DeliveryRun.undelivered`. That a task that fails has used up its attempts holds in any
run (`DeliveryRun.exhausted_of_reachable`).
-/

namespace PhineAf

open QodNotificationManager DeliveryEvent

variable {E : Type}

/-- What the client returns. -/
def unsent : ℤ × String := (0, "Not implemented in this build")

/-- `HttpNotificationClient::send_notification`. -/
def HttpNotificationClient.sendNotification (_url : String) (_event : E)
    (_credential : Option SinkCredential) : ℤ × String := unsent

/-! ## Attempts -/

/-- A task that has failed for good has been sent as often as is allowed. -/
def Exhausted (maxRetryAttempts : ℤ) (history : List DeliveryEvent) : Entry E → Prop
  | (.reporting httpCode, _) => isSuccess httpCode = false →
      (sends history : ℤ) = 1 + max 0 maxRetryAttempts
  | (.counting success, _) | (.finished success, _) => success = false →
      (sends history : ℤ) = 1 + max 0 maxRetryAttempts
  | _ => True

theorem Exhausted.advance {maxRetryAttempts : ℤ} {history events : List DeliveryEvent}
    {e e' : Entry E} (h : Exhausted maxRetryAttempts history e)
    (hfits : Fits maxRetryAttempts history e) (hadvance : Advance maxRetryAttempts e events e') :
    Exhausted maxRetryAttempts (events ++ history) e' := by
  cases hadvance with
  | take | retry | requeue => trivial
  | settle task httpCode hlast =>
    intro hfailed
    obtain ⟨hfailing, hsends⟩ := hfits
    have hlength := hfailing.length_codes
    have hle := hfailing.le
    have hmax : maxRetryAttempts ≤ task.retryCount :=
      hlast.resolve_left (by rw [hfailed]; exact Bool.false_ne_true)
    change (sends history : ℤ) = 1 + max 0 maxRetryAttempts
    omega
  | report task httpCode result hresult =>
    intro hfailed
    have hsends := h hfailed
    cases result with
    | none => exact hsends
    | some result => exact hsends
  | finish task success => exact h

namespace DeliveryRun

variable {r r' : DeliveryRun E} {op : DeliveryOp E}

/-- All tasks that have failed for good have been sent as often as is allowed. -/
def AllExhausted (r : DeliveryRun E) : Prop :=
  Tracked (fun e : Entry E => e.2.number) DeliveryEvent.number
    (Exhausted r.manager.config.maxRetryAttempts) r.entries r.log

/-- A task that goes on. -/
theorem AllExhausted.advance (h : r.AllExhausted) (hsound : r.Sound) {e e' : Entry E}
    {events : List DeliveryEvent} {rest : Multiset (Entry E)}
    (hadvance : Advance r.manager.config.maxRetryAttempts e events e')
    (hentries : r.entries = e ::ₘ rest) (hentries' : r'.entries = e' ::ₘ rest)
    (hlog : r'.log = events ++ r.log) (hconfig : r'.manager.config = r.manager.config) :
    r'.AllExhausted := by
  have hfits := hsound.tracked.fits e (hentries ▸ Multiset.mem_cons_self e rest)
  rw [AllExhausted, hentries] at h
  rw [AllExhausted, hentries', hlog, hconfig]
  exact h.advance (congrArg Prod.fst (stamp_advance hadvance)) (number_advance hadvance)
    fun hexhausted => hexhausted.advance hfits hadvance

theorem AllExhausted.next (h : r.AllExhausted) (hsound : r.Sound) (hnext : r.next op = some r') :
    r'.AllExhausted := by
  obtain ⟨hconfig, -⟩ := queue_of_next hnext
  cases moves_of_next hnext with
  | still hentries haccepted hlog _ => rwa [AllExhausted, hentries, hlog, hconfig]
  | accept task now hnumber hcount hentries haccepted hlog _ =>
    rw [AllExhausted, hentries, hlog, hconfig]
    refine Tracked.add h ?_ (fun event hevent heq => ?_) trivial
    · -- The numbers in use are below the one the task gets.
      rw [hsound.numbers]
      intro hmem
      have hlt : task.number < r.accepted.length := List.mem_range.1 hmem
      omega
    · have hlt := hsound.logged event hevent
      dsimp only at heq
      omega
  | advance e e' events rest hadvance _ hentries hentries' haccepted hlog _ =>
    exact h.advance hsound hadvance hentries hentries' hlog hconfig
  | finish w task success now rest _ hentries hentries' haccepted hlog _ =>
    exact h.advance hsound (.finish task success) hentries hentries' hlog hconfig

theorem exhausted_of_reachable (hr : deliverySystem.Reachable r) : r.AllExhausted := by
  refine System.Reachable.invariant (P := AllExhausted) ?_ ?_ hr
  · rintro r ⟨config, rfl⟩
    rw [AllExhausted, entries_start]
    exact .empty
  · exact fun r op r' hr h hnext => h.next (sound_of_reachable hr).1 hnext

/-! ## Answers of the client -/

/-- The answers are those of the client, and no statistics are dropped. -/
def Unsent (r : DeliveryRun E) : DeliveryOp E → Prop
  | .answer w httpCode response _ => ∀ task, r.manager.workers[w]? = some (.sending task) →
      (httpCode, response) =
        HttpNotificationClient.sendNotification task.sink task.event task.credential
  | .cleanupOldStats _ => False
  | _ => True

/-- The runs of a notification manager with this client. -/
def unsentSystem : System (DeliveryRun E) (DeliveryOp E) := deliverySystem.restrict Unsent

/-- A worker knows of no success. -/
def Unhelped : Worker (Numbered E) → Prop
  | .reporting _ httpCode response => (httpCode, response) = unsent
  | .counting _ success => success = false
  | _ => True

/-- An event tells of no success. -/
def Vain : DeliveryEvent → Prop
  | .sent _ => True
  | .answered _ httpCode => httpCode = unsent.1
  | .called _ result => result.success = false ∧ result.httpStatusCode = unsent.1 ∧
      result.errorMessage = unsent.2

/-- Nothing has succeeded. -/
structure Futile (r : DeliveryRun E) : Prop where
  workers : ∀ worker ∈ r.manager.workers, Unhelped worker
  log : ∀ event ∈ r.log, Vain event
  finished : ∀ f ∈ r.finished, f.2 = false

theorem Futile.setWorker {m : QodNotificationManager (Numbered E)}
    (h : ∀ worker ∈ m.workers, Unhelped worker) {w : ℕ} {worker : Worker (Numbered E)}
    (hworker : Unhelped worker) : ∀ x ∈ (m.setWorker w worker).workers, Unhelped x := by
  intro x hx
  rcases List.mem_or_eq_of_mem_set hx with hx | rfl
  · exact h x hx
  · exact hworker

theorem Futile.next (h : r.Futile) (hunsent : Unsent r op) (hnext : r.next op = some r') :
    r'.Futile := by
  cases op with
  | queueNotification event sink credential sessionId callback now =>
    rw [DeliveryRun.next] at hnext
    obtain ⟨⟨found, m⟩, hqueued⟩ : ∃ c, r.manager.queueNotification ⟨r.accepted.length, event⟩ sink
      credential sessionId callback now = c := ⟨_, rfl⟩
    rw [hqueued] at hnext
    cases hnext
    rcases queueNotification_cases hqueued with
      ⟨rfl, rfl⟩ | ⟨task, sessionTasks, rfl, -, -, -, -, rfl⟩ <;>
      exact ⟨h.workers, h.log, h.finished⟩
  | cancelSessionNotifications sessionId =>
    cases hnext
    obtain ⟨sessionTasks, hcancel⟩ := cancelSessionNotifications_eq r.manager sessionId
    rw [hcancel]
    exact ⟨h.workers, h.log, h.finished⟩
  | cleanupOldStats now => cases hunsent
  | take w now top =>
    obtain ⟨⟨found, m⟩, htake, rfl⟩ := Option.map_eq_some_iff.1 hnext
    obtain ⟨-, ⟨rfl, rfl⟩ | ⟨task, taskQueue, retryQueue, rfl, rfl, -⟩⟩ := take_cases htake
    · exact ⟨h.workers, h.log, h.finished⟩
    · exact ⟨Futile.setWorker h.workers trivial,
        List.forall_mem_cons.2 ⟨trivial, h.log⟩, h.finished⟩
  | answer w httpCode response nextRetryTime =>
    obtain ⟨⟨task, m⟩, hanswer, rfl⟩ := Option.map_eq_some_iff.1 hnext
    obtain ⟨hw, hworker⟩ := answer_cases hanswer
    have hcode : (httpCode, response) = unsent := hunsent task hw
    have hlog : Vain (.answered task.number httpCode) := congrArg Prod.fst hcode
    rcases hworker with ⟨-, -, rfl⟩ | ⟨-, rfl⟩
    · exact ⟨Futile.setWorker h.workers trivial, List.forall_mem_cons.2 ⟨hlog, h.log⟩, h.finished⟩
    · exact ⟨Futile.setWorker h.workers hcode, List.forall_mem_cons.2 ⟨hlog, h.log⟩, h.finished⟩
  | requeue w =>
    obtain ⟨m, hrequeue, rfl⟩ := Option.map_eq_some_iff.1 hnext
    obtain ⟨task, -, rfl⟩ := requeue_cases hrequeue
    exact ⟨Futile.setWorker h.workers trivial, h.log, h.finished⟩
  | report w now =>
    obtain ⟨⟨task, result, m⟩, hreport, rfl⟩ := Option.map_eq_some_iff.1 hnext
    obtain ⟨httpCode, response, hw, rfl, rfl⟩ := report_cases hreport
    obtain ⟨rfl, rfl⟩ := Prod.mk.inj
      (h.workers _ (List.mem_of_getElem? hw) : (httpCode, response) = unsent)
    refine ⟨Futile.setWorker h.workers rfl, fun event hevent => ?_, h.finished⟩
    rcases List.mem_append.1 hevent with hevent | hevent
    · obtain ⟨result, hresult, rfl⟩ := List.mem_map.1 hevent
      split at hresult
      · obtain rfl := List.mem_singleton.1 hresult
        exact ⟨rfl, rfl, rfl⟩
      · cases hresult
    · exact h.log event hevent
  | count w now =>
    obtain ⟨⟨task, success, m⟩, hcount, rfl⟩ := Option.map_eq_some_iff.1 hnext
    obtain ⟨hw, rfl⟩ := count_cases hcount
    -- A worker counts what it has reported, and that was no success.
    have hfailed : success = false := h.workers _ (List.mem_of_getElem? hw)
    exact ⟨Futile.setWorker h.workers trivial, h.log,
      List.forall_mem_cons.2 ⟨hfailed, h.finished⟩⟩

theorem futile_of_reachable (hr : unsentSystem.Reachable r) : r.Futile := by
  refine System.Reachable.invariant (P := Futile) ?_ ?_ hr
  · rintro r ⟨config, rfl⟩
    refine ⟨fun worker hworker => ?_, fun _ h => (by cases h), fun _ h => (by cases h)⟩
    obtain rfl := List.eq_of_mem_replicate hworker
    trivial
  · exact fun r op r' _ h hnext => h.next hnext.1 hnext.2

/-! ## Statistics -/

/-- The accepted tasks of a session. -/
def acceptedOf (r : DeliveryRun E) (s : String) : ℕ := r.accepted.countP (·.sessionId = s)

/-- The finished tasks of a session. -/
def finishedOf (r : DeliveryRun E) (s : String) : ℕ := r.finished.countP (·.1.sessionId = s)

/-- A task is on its way, or has finished with or without success. -/
theorem countP_stages (entries : Multiset (Entry E)) (s : String) :
    entries.countP (fun e => e.2.sessionId = s) =
      entries.countP (fun e => e.2.sessionId = s ∧ ∀ success, e.1 ≠ .finished success) +
        (entries.countP (fun e => e.2.sessionId = s ∧ e.1 = .finished true) +
          entries.countP fun e => e.2.sessionId = s ∧ e.1 = .finished false) := by
  induction entries using Multiset.induction with
  | empty => rfl
  | cons e entries ih =>
    obtain ⟨stage, task⟩ := e
    simp only [Multiset.countP_cons, ih]
    by_cases hs : task.sessionId = s
    · rcases stage with _ | _ | _ | _ | _ | (_ | _) <;> simp [hs] <;> omega
    · simp [hs]

theorem finishedOf_eq (r : DeliveryRun E) (s : String) :
    r.finishedOf s = r.finishedWith s true + r.finishedWith s false := by
  rw [finishedOf, finishedWith, finishedWith]
  induction r.finished with
  | nil => rfl
  | cons f finished ih =>
    obtain ⟨task, success⟩ := f
    simp only [List.countP_cons, ih]
    by_cases hs : task.sessionId = s
    · rcases success with _ | _ <;> simp [hs] <;> omega
    · simp [hs]

/-- Accepted tasks are on their way or finished. -/
theorem Sound.acceptedOf_eq (h : r.Sound) (s : String) :
    r.acceptedOf s = r.onTheWay s + r.finishedOf s := by
  have hcount := congrArg (Multiset.countP fun x : ℕ × String × Bool => x.2.1 = s) h.conserved
  rw [Multiset.countP_map, ← Multiset.countP_eq_card_filter, Multiset.coe_countP,
    List.countP_map] at hcount
  rw [finishedOf_eq, finishedWith_eq, finishedWith_eq, onTheWay, ← countP_stages]
  exact hcount.symm

theorem Futile.finishedWith_true (h : r.Futile) (s : String) : r.finishedWith s true = 0 := by
  rw [finishedWith, List.countP_eq_zero]
  intro f hf
  simp [h.finished f hf]

theorem counted_of_reachable (hr : unsentSystem.Reachable r) {s : String} (hs : s ≠ "") :
    r.Counted s := by
  refine System.Reachable.invariant (P := (Counted · s)) ?_ ?_ hr
  · rintro r ⟨config, rfl⟩
    exact .start config s
  · rintro r op r' - h ⟨hunsent, hnext⟩
    refine h.next hs ?_ hnext
    rintro now rfl
    exact hunsent

/-! ## All runs -/

/-- No notification is delivered. One that is given up has been sent as often as is allowed,
    always in vain, and the callbacks are told of failures only; and the statistics of a
    session count what has been accepted and, again, what has been given up as pending. -/
theorem undelivered (hr : unsentSystem.Reachable r) :
    (∀ task success, (task, success) ∈ r.finished → success = false ∧
      (sends (r.history task.number) : ℤ) = 1 + max 0 r.manager.config.maxRetryAttempts) ∧
    (∀ n, (∀ httpCode ∈ codes (r.history n), httpCode = 0) ∧
      ∀ result ∈ calls (r.history n), result.success = false ∧
        result.errorMessage = "Not implemented in this build") ∧
    ∀ s, s ≠ "" → (r.manager.stats s).totalSent = 0 ∧ (r.manager.stats s).successful = 0 ∧
      (r.manager.stats s).failed = 0 ∧
      (r.manager.stats s).pending = r.acceptedOf s + r.finishedOf s := by
  have hfutile := futile_of_reachable hr
  have hsound := (sound_of_reachable hr.of_restrict).1
  refine ⟨fun task success hfinished => ?_,
    fun n => ⟨fun httpCode hcode => ?_, fun result hresult => ?_⟩, fun s hs => ?_⟩
  · obtain rfl : success = false := hfutile.finished _ hfinished
    have hentry : (Stage.finished false, task) ∈ r.entries :=
      mem_entries.2 (.inr (.inr ⟨_, hfinished, rfl⟩))
    exact ⟨rfl, (exhausted_of_reachable hr.of_restrict).fits _ hentry rfl⟩
  · obtain ⟨event, hevent, heq⟩ := List.mem_filterMap.1 hcode
    have hvain := hfutile.log event (List.mem_of_mem_filter hevent)
    cases event <;> cases heq
    exact hvain
  · obtain ⟨event, hevent, heq⟩ := List.mem_filterMap.1 hresult
    have hvain := hfutile.log event (List.mem_of_mem_filter hevent)
    cases event <;> cases heq
    exact ⟨hvain.1, hvain.2.2⟩
  · obtain ⟨hpending, hsuccessful, hfailed, htotal⟩ := counted_of_reachable hr hs
    have haccepted := hsound.acceptedOf_eq s
    have hfinished := r.finishedOf_eq s
    rw [hfutile.finishedWith_true s] at hsuccessful hfinished
    refine ⟨?_, ?_, hfailed, ?_⟩ <;> omega

/-- A notification is sent in vain. -/
def attempt : List (DeliveryOp Unit) :=
  [.take 0 0 0, .answer 0 0 "Not implemented in this build" 0]

/-- A notification is given up after three retries. -/
def givenUp : List (DeliveryOp Unit) :=
  [.queueNotification () "https://sink" none "session" true 0] ++ attempt ++ [.requeue 0] ++
    attempt ++ [.requeue 0] ++ attempt ++ [.requeue 0] ++ attempt ++ [.report 0 0, .count 0 0]

theorem undelivered_givenUp : ∃ r, givenUp.foldlM next ⟨.start {}, [], [], []⟩ = some r ∧
    r.finished.length = 1 ∧
    (∀ task success, (task, success) ∈ r.finished → success = false ∧
      (sends (r.history task.number) : ℤ) = 1 + max 0 r.manager.config.maxRetryAttempts) ∧
    (r.manager.stats "session").pending = r.acceptedOf "session" + r.finishedOf "session" := by
  have hrun : (givenUp.foldlM next ⟨.start {}, [], [], []⟩).map (·.finished.length) = some 1 := rfl
  obtain ⟨r, hr, hfinished⟩ := Option.map_eq_some_iff.1 hrun
  have hstep : ∀ op ∈ givenUp, ∀ s s', next s op = some s' → unsentSystem.step s op s' := by
    intro op hop s s' hnext
    refine ⟨?_, hnext⟩
    have hattempt : op ∈ attempt → Unsent s op := by
      intro hop
      simp only [attempt, List.mem_cons, List.not_mem_nil, or_false] at hop
      rcases hop with rfl | rfl
      · trivial
      · exact fun _ _ => rfl
    simp only [givenUp, List.mem_append, List.mem_cons, List.not_mem_nil, or_false] at hop
    cases op with
    | answer | cleanupOldStats => exact hattempt (by simpa using hop)
    | _ => trivial
  obtain ⟨hsent, -, hstats⟩ := undelivered (.foldlM hstep (.init ⟨{}, rfl⟩) hr)
  exact ⟨r, hr, hfinished, hsent, (hstats "session" (by decide)).2.2.2⟩

end DeliveryRun

end PhineAf

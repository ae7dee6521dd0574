import PhineAf.Runtime.Shutdown

/-!
# Release

`finalizeShutdown` destroys AF core and the southbound handlers without a lock, and a call of
`requestShutdown` uses them without one. As long as `start` does not fail, AF core has stopped by
then, no call is about to stop it, and no thread of a southbound handler is left
(`BundledAfRuntime.released_safely`). A failure of `start` lets the main thread go on at once, and
a call of another thread may still be stopping the southbound handlers.
-/

namespace PhineAf.BundledAfRuntime

variable {r r' : BundledAfRuntime} {op : RuntimeOp}

/-- The number of calls of other threads that are about to stop AF core. The call of the main
    thread itself is not among them: it never gets that far (`Orderly.ending`). -/
def activeCount (r : BundledAfRuntime) : ℕ := weight (fun stop => stop.isActive.toNat) r.requests

theorem activeCount_eq_zero_iff :
    r.activeCount = 0 ↔ ∀ q ∈ r.requests, q.stop.isActive = false := by
  simp [activeCount, weight, List.sum_eq_zero_iff_forall_eq_nat]

/-- What holds in a run in which `start` does not fail. -/
structure Orderly (r : BundledAfRuntime) : Prop where
  /-- One call at most is about to stop AF core, and only after a shutdown has been requested. -/
  single : r.activeCount ≤ 1
  requested : r.activeCount ≠ 0 → r.state = .stopping
  starting : r.main.isStarting = true → r.running = false ∧ ∀ q ∈ r.requests, q.stop ≠ .stopping
  /-- AF core has stopped because of a call, which does not stop it again. -/
  serving : r.main.isServing = true → r.running = false → r.state = .stopping ∧ r.activeCount = 0
  /-- After `wait`. -/
  ending : r.main.isStarting = false → r.main.isServing = false →
    r.running = false ∧ r.activeCount = 0 ∧
      (r.state = .stopping ∨ r.main = .returned ∧ r.state = .stopped) ∧
      ∀ stop, r.main = .requesting stop → stop = .called
  joined : r.main = .released ∨ r.main = .returned →
    r.starts = 0 ∧ ∀ q ∈ r.requests, q.southbound = false

theorem orderly_initial (handlers : ℕ) : (initial handlers).Orderly where
  single := Nat.zero_le 1
  requested h := absurd rfl h
  starting _ := ⟨rfl, fun q hq => absurd hq List.not_mem_nil⟩
  serving h := absurd h Bool.false_ne_true
  ending h := absurd h.symm Bool.false_ne_true
  joined h := by simp [initial] at h

theorem Orderly.main (h : r.Orderly) (hnext : r.mainNext = some r') : r'.Orderly := by
  have hstarting := h.starting
  have hserving := h.serving
  have hending := h.ending
  rw [mainNext] at hnext
  rcases hthread : r.main with _ | (_ | left) | _ | _ | _ | _ | stop | _ | _ | _ <;>
    rw [hthread] at hnext hstarting hserving hending <;> dsimp only at hnext
  · -- `start` is called.
    split_ifs at hnext with hstopped
    obtain rfl := Option.some.inj hnext
    have hzero : r.activeCount = 0 := by
      by_contra hne
      have := h.requested hne
      simp [hstopped] at this
    exact ⟨h.single, fun hne => absurd hzero hne, fun _ => hstarting rfl,
      by simp [MainThread.isServing], by simp [MainThread.isStarting], by simp⟩
  · obtain rfl := Option.some.inj hnext
    obtain ⟨hrunning, hstops⟩ := hstarting rfl
    rw [hrunning, if_neg Bool.false_ne_true]
    exact ⟨h.single, h.requested, fun _ => ⟨rfl, hstops⟩, by simp [MainThread.isServing],
      by simp [MainThread.isStarting], by simp⟩
  · obtain rfl := Option.some.inj hnext
    exact ⟨h.single, h.requested, fun _ => hstarting rfl, by simp [MainThread.isServing],
      by simp [MainThread.isStarting], by simp⟩
  · -- AF core is running.
    obtain rfl := Option.some.inj hnext
    exact ⟨h.single, h.requested, by simp [MainThread.isStarting], by simp,
      by simp [MainThread.isServing], by simp⟩
  · obtain rfl := Option.some.inj hnext
    exact ⟨h.single, h.requested, by simp [MainThread.isStarting], fun _ => hserving rfl,
      by simp [MainThread.isServing], by simp⟩
  · obtain rfl := Option.some.inj hnext
    have hstate : r.state = .stopping →
        (if r.state = .starting then .running else r.state) = LifecycleState.stopping := by
      intro hstate
      rw [hstate, if_neg (by decide)]
    exact ⟨h.single, fun hne => hstate (h.requested hne), by simp [MainThread.isStarting],
      fun _ hrunning => (hserving rfl hrunning).imp_left hstate, by simp [MainThread.isServing],
      by simp⟩
  · -- `wait` has seen AF core stop.
    split_ifs at hnext with hrunning
    obtain rfl := Option.some.inj hnext
    have hrunning' := Bool.not_eq_true _ ▸ hrunning
    obtain ⟨hstate, hzero⟩ := hserving rfl hrunning'
    exact ⟨h.single, h.requested, by simp [MainThread.isStarting], by simp [MainThread.isServing],
      fun _ _ => ⟨hrunning', hzero, .inl hstate, by simp⟩, by simp⟩
  · -- The call of the main thread comes after another one.
    obtain ⟨hrunning, hzero, hstate | ⟨hreturned, -⟩, hcalled⟩ := hending rfl rfl
    · obtain rfl := hcalled stop rfl
      rw [stopNext, if_pos (.inl hstate)] at hnext
      obtain rfl := Option.some.inj hnext
      exact ⟨h.single, h.requested, by simp [MainThread.isStarting],
        by simp [MainThread.isServing], fun _ _ => ⟨hrunning, hzero, .inl hstate, by simp⟩, by simp⟩
    · cases hreturned
  · split_ifs at hnext with hjoin
    obtain rfl := Option.some.inj hnext
    obtain ⟨hrunning, hzero, hstate | ⟨hreturned, -⟩, -⟩ := hending rfl rfl
    · exact ⟨h.single, h.requested, by simp [MainThread.isStarting],
        by simp [MainThread.isServing], fun _ _ => ⟨hrunning, hzero, .inl hstate, by simp⟩,
        fun _ => ⟨hjoin.1, hjoin.2.1⟩⟩
    · cases hreturned
  · obtain rfl := Option.some.inj hnext
    obtain ⟨hrunning, hzero, -⟩ := hending rfl rfl
    exact ⟨h.single, fun hne => absurd hzero hne, by simp [MainThread.isStarting],
      by simp [MainThread.isServing], fun _ _ => ⟨hrunning, hzero, .inr ⟨rfl, rfl⟩, by simp⟩,
      fun _ => h.joined (.inl hthread)⟩
  · cases hnext

/-- A call that returns without having done anything is left out. -/
theorem Orderly.erase (h : r.Orderly) {i : ℕ} {q : ShutdownRequest} (hq : r.requests[i]? = some q)
    (hactive : q.stop.isActive = false) :
    Orderly { r with requests := advanceRequest r.requests i q none } := by
  have hcount : activeCount { r with requests := advanceRequest r.requests i q none } =
      r.activeCount := by
    have hweight := weight_advanceRequest (fun stop => stop.isActive.toNat) hq none
    rw [hactive] at hweight
    exact hweight
  have hsub : ∀ p ∈ advanceRequest r.requests i q none, p ∈ r.requests := fun p hp =>
    List.mem_of_mem_eraseIdx hp
  refine ⟨hcount ▸ h.single, hcount ▸ h.requested, fun hmain => ?_, hcount ▸ h.serving,
    hcount ▸ h.ending, fun hmain => ?_⟩
  · exact (h.starting hmain).imp_right fun hstops p hp => hstops p (hsub p hp)
  · exact (h.joined hmain).imp_right fun hsouthbound p hp => hsouthbound p (hsub p hp)

/-- A call that is about to stop AF core has been accepted. -/
theorem Orderly.of_isActive (h : r.Orderly) {q : ShutdownRequest} (hq : q ∈ r.requests)
    (hactive : q.stop.isActive = true) : r.state = .stopping ∧ r.activeCount ≠ 0 := by
  have hnonzero : r.activeCount ≠ 0 := by
    intro hzero
    have hinactive := activeCount_eq_zero_iff.1 hzero q hq
    rw [hactive] at hinactive
    cases hinactive
  exact ⟨h.requested hnonzero, hnonzero⟩

/-- A call goes on. -/
theorem Orderly.advance (h : r.Orderly) {i : ℕ} (hnext : r.next (.advance i) = some r') :
    r'.Orderly := by
  obtain ⟨q, hq, rfl⟩ := Option.map_eq_some_iff.1 hnext
  have hmem := List.mem_of_getElem? hq
  have hjoined : ∀ stop, r.main = .released ∨ r.main = .returned →
      r.starts = 0 ∧ ∀ p ∈ advanceRequest r.requests i q (some stop), p.southbound = false := by
    intro stop hmain
    obtain ⟨hstarts, hsouthbound⟩ := h.joined hmain
    refine ⟨hstarts, fun p hp => ?_⟩
    rcases List.mem_or_eq_of_mem_set hp with hp | rfl
    · exact hsouthbound p hp
    · exact hsouthbound q hmem
  have hcount : ∀ stop, weight (fun stop => stop.isActive.toNat)
      (advanceRequest r.requests i q (some stop)) + q.stop.isActive.toNat =
        r.activeCount + stop.isActive.toNat := fun stop =>
    weight_advanceRequest (fun stop => stop.isActive.toNat) hq (some stop)
  have hdone : q.stop.isActive = true → weight (fun stop => stop.isActive.toNat)
      (advanceRequest r.requests i q (some .handlers)) = 0 := by
    intro hactive
    have hsingle := h.single
    have hzero := hcount .handlers
    rw [hactive, Bool.toNat_true] at hzero
    exact Nat.le_zero.1 (Nat.le_of_succ_le_succ (Nat.le_trans (Nat.le_of_eq hzero) hsingle))
  cases hstop : q.stop with
  | called =>
    rw [stopNext]
    split_ifs with hstate
    · exact h.erase hq (by rw [hstop]; rfl)
    · -- A shutdown is requested.
      obtain ⟨hne, hne'⟩ := not_or.1 hstate
      have hzero : r.activeCount = 0 := by
        by_contra hactive
        exact hne (h.requested hactive)
      have hone := hcount .accepted
      rw [hstop, hzero] at hone
      refine ⟨Nat.le_of_eq hone, fun _ => rfl, fun hmain => ?_, fun hmain hrunning => ?_,
        fun hs hv => ?_, hjoined .accepted⟩
      · refine (h.starting hmain).imp_right fun hstops p hp => ?_
        rcases List.mem_or_eq_of_mem_set hp with hp | rfl
        · exact hstops p hp
        · simp
      · exact absurd (h.serving hmain hrunning).1 hne
      · obtain ⟨-, -, hstopping | ⟨-, hstopped⟩, -⟩ := h.ending hs hv
        · exact absurd hstopping hne
        · exact absurd hstopped hne'
  | accepted =>
    obtain ⟨hstate, hnonzero⟩ := h.of_isActive hmem (by rw [hstop]; rfl)
    rw [stopNext]
    cases hrunning : r.running with
    | true =>
      -- AF core is running, and is to be stopped.
      have hsame := hcount .stopping
      rw [hstop] at hsame
      refine ⟨Nat.le_trans (Nat.le_of_eq (Nat.add_right_cancel hsame)) h.single, fun _ => hstate,
        fun hmain => ?_, fun _ hfalse => ?_, fun hs hv => ?_, hjoined .stopping⟩
      · exact absurd ((h.starting hmain).1.symm.trans hrunning) Bool.false_ne_true
      · exact absurd (hrunning.symm.trans hfalse).symm Bool.false_ne_true
      · exact absurd ((h.ending hs hv).1.symm.trans hrunning) Bool.false_ne_true
    | false =>
      -- AF core is not running, and the call is lost.
      refine ⟨Nat.le_trans (Nat.le_of_eq (hdone (by rw [hstop]; rfl))) (Nat.zero_le 1),
        fun _ => hstate, fun hmain => ?_, fun hmain _ => ?_, fun hs hv => ?_, hjoined .handlers⟩
      · refine (h.starting hmain).imp_right fun hstops p hp => ?_
        rcases List.mem_or_eq_of_mem_set hp with hp | rfl
        · exact hstops p hp
        · simp
      · exact absurd (h.serving hmain hrunning).2 hnonzero
      · exact absurd (h.ending hs hv).2.1 hnonzero
  | stopping =>
    obtain ⟨hstate, hnonzero⟩ := h.of_isActive hmem (by rw [hstop]; rfl)
    -- AF core has stopped.
    have hnone := hdone (by rw [hstop]; rfl)
    refine ⟨Nat.le_trans (Nat.le_of_eq hnone) (Nat.zero_le 1), fun _ => hstate, fun hmain => ?_,
      fun _ _ => ⟨hstate, hnone⟩, fun hs hv => ?_, hjoined .handlers⟩
    · exact absurd hstop ((h.starting hmain).2 q hmem)
    · exact absurd (h.ending hs hv).2.1 hnonzero
  | handlers => exact h.erase hq (by rw [hstop]; rfl)

/-- Another thread calls `requestShutdown`. -/
theorem Orderly.append (h : r.Orderly) (southbound : Bool)
    (hjoined : southbound = true → r.main ≠ .released ∧ r.main ≠ .returned) :
    Orderly { r with requests := r.requests ++ [⟨southbound, .called⟩] } := by
  have hcount : activeCount { r with requests := r.requests ++ [⟨southbound, .called⟩] } =
      r.activeCount := weight_append_singleton _ _ _
  refine ⟨hcount ▸ h.single, hcount ▸ h.requested, fun hmain => ?_, hcount ▸ h.serving,
    hcount ▸ h.ending, fun hmain => ?_⟩
  · refine (h.starting hmain).imp_right fun hstops q hq => ?_
    rcases List.mem_append.1 hq with hq | hq
    · exact hstops q hq
    · simp [List.mem_singleton.1 hq]
  · refine (h.joined hmain).imp_right fun hsouthbound q hq => ?_
    rcases List.mem_append.1 hq with hq | hq
    · exact hsouthbound q hq
    · rw [List.mem_singleton.1 hq]
      refine Bool.not_eq_true _ ▸ fun htrue => ?_
      exact hmain.elim (hjoined htrue).1 (hjoined htrue).2

theorem Orderly.next (h : r.Orderly) (hop : op ≠ .fail) (hnext : r.next op = some r') :
    r'.Orderly := by
  cases op with
  | main => exact h.main hnext
  | fail => exact absurd rfl hop
  | handlerReturns =>
    rw [BundledAfRuntime.next] at hnext
    split_ifs at hnext with hstarts
    obtain rfl := Option.some.inj hnext
    exact ⟨h.single, h.requested, h.starting, h.serving, h.ending,
      fun hmain => absurd (h.joined hmain).1 hstarts⟩
  | handlerFails =>
    rw [BundledAfRuntime.next] at hnext
    split_ifs at hnext with hstarts
    obtain rfl := Option.some.inj hnext
    have hmain : r.main ≠ .released ∧ r.main ≠ .returned :=
      not_or.1 fun hmain => hstarts (h.joined hmain).1
    have happend := h.append true fun _ => hmain
    exact ⟨happend.single, happend.requested, happend.starting, happend.serving, happend.ending,
      fun hreleased => absurd hreleased (not_or.2 hmain)⟩
  | request =>
    obtain rfl := Option.some.inj hnext
    exact h.append false (by simp)
  | advance i => exact h.advance hnext
  | cleanupEnds =>
    rw [BundledAfRuntime.next] at hnext
    split_ifs at hnext
    obtain rfl := Option.some.inj hnext
    exact ⟨h.single, h.requested, h.starting, h.serving, h.ending, h.joined⟩

/-- The runs in which `start` does not fail. -/
def orderlySystem : System BundledAfRuntime RuntimeOp :=
  runtimeSystem.restrict fun _ op => op ≠ .fail

theorem orderly_of_reachable (hr : orderlySystem.Reachable r) : r.Orderly := by
  induction hr with
  | init hinit =>
    obtain ⟨handlers, rfl⟩ := hinit
    exact orderly_initial handlers
  | step _ hstep h => exact h.next hstep.1 hstep.2

/-- In a run in which `start` does not fail, one call at most is about to stop AF core, and not
    that of the main thread; and when AF core and the southbound handlers are destroyed, AF core has
    stopped, no call is about to stop it, and the threads of the southbound handlers have ended. -/
theorem released_safely (hr : orderlySystem.Reachable r) :
    r.activeCount ≤ 1 ∧ (∀ stop, r.main = .requesting stop → stop.isActive = false) ∧
      (r.main = .released ∨ r.main = .returned → r.running = false ∧ r.starts = 0 ∧
        ∀ q ∈ r.requests, q.southbound = false ∧ q.stop.isActive = false) := by
  have h := orderly_of_reachable hr
  refine ⟨h.single, fun stop hmain => ?_, fun hmain => ?_⟩
  · -- AF core has stopped before `wait` returns, and the call is left at once.
    obtain ⟨-, -, -, hcalled⟩ := h.ending (by rw [hmain]; rfl) (by rw [hmain]; rfl)
    rw [hcalled stop hmain]
    rfl
  obtain ⟨hstarts, hsouthbound⟩ := h.joined hmain
  have hending : r.main.isStarting = false ∧ r.main.isServing = false := by
    rcases hmain with hmain | hmain <;> rw [hmain] <;> exact ⟨rfl, rfl⟩
  obtain ⟨hrunning, hzero, -⟩ := h.ending hending.1 hending.2
  exact ⟨hrunning, hstarts, fun q hq =>
    ⟨hsouthbound q hq, activeCount_eq_zero_iff.1 hzero q hq⟩⟩

/-- AF core and a southbound handler are destroyed while a call still stops the handlers. -/
theorem released_during_call : ∃ r : BundledAfRuntime, orderlySystem.Reachable r ∧
    r.main = .released ∧ r.requests = [⟨false, .handlers⟩] ∧ r.activeCount ≤ 1 ∧
      r.running = false := by
  have hstep : ∀ {r r' : BundledAfRuntime} (op : RuntimeOp), orderlySystem.Reachable r →
      op ≠ .fail → r.next op = some r' → orderlySystem.Reachable r' :=
    fun op hr hop hnext => hr.step (a := op) ⟨hop, hnext⟩
  have hinit : orderlySystem.Reachable (initial 1) := .init ⟨1, rfl⟩
  -- AF core is started, and the main thread waits.
  have hstarted := hstep .main (hstep .main (hstep .main (hstep .main hinit (by simp) rfl)
    (by simp) rfl) (by simp) rfl) (by simp) rfl
  have hwaiting := hstep .handlerReturns (hstep .main (hstep .main hstarted (by simp) rfl)
    (by simp) rfl) (by simp) rfl
  -- A call stops AF core, and the main thread goes on.
  have hstopped := hstep (.advance 0) (hstep (.advance 0) (hstep (.advance 0)
    (hstep .request hwaiting (by simp) rfl) (by simp) rfl) (by simp) rfl) (by simp) rfl
  have hended := hstep .cleanupEnds hstopped (by simp) rfl
  have hreleased := hstep .main (hstep .main (hstep .main hended (by simp) rfl) (by simp) rfl)
    (by simp) rfl
  obtain ⟨hsingle, -, hsafe⟩ := released_safely hreleased
  exact ⟨_, hreleased, rfl, rfl, hsingle, (hsafe (.inl rfl)).1⟩

/-- If `start` fails, AF core may be destroyed while a call is about to stop it. -/
example : ((initial 0).next .main).bind (fun r => (r.next .request).bind fun r =>
    (r.next (.advance 0)).bind fun r => (r.next .fail).bind fun r => (r.next .main).bind fun r =>
      (r.next .main).map fun r => (r.main, r.requests)) =
        some (.released, [⟨false, .accepted⟩]) := by
  decide

end PhineAf.BundledAfRuntime

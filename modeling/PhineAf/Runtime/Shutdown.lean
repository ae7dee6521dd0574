import PhineAf.Runtime.Lifecycle
import Mathlib.Data.List.Basic
import Mathlib.Algebra.BigOperators.Group.List.Basic
import Mathlib.Algebra.Ring.Nat
import Mathlib.Tactic.Common

/-!
# Shutdown

Once a shutdown has been requested, it is certain that the main thread returns exactly if AF core
has been started, and a request that will stop it is under way or it is not running any more
(`BundledAfRuntime.returns_iff`).
-/

namespace PhineAf

/-! ## Calls of `requestShutdown` -/

/-- The call is about to stop AF core. -/
def Stop.isActive : Stop → Bool
  | accepted | stopping => true
  | called | handlers => false

/-- The number of steps that are left to a call, and one more. -/
def Stop.rank : Stop → ℕ
  | called => 4
  | accepted => 3
  | stopping => 2
  | handlers => 1

section Requests

variable {requests : List ShutdownRequest} {i : ℕ} {q p : ShutdownRequest} {stop : Option Stop}

/-- The sum of a weight over all calls. -/
def weight (f : Stop → ℕ) (requests : List ShutdownRequest) : ℕ :=
  (requests.map fun q => f q.stop).sum

theorem weight_append_singleton (f : Stop → ℕ) (requests : List ShutdownRequest)
    (q : ShutdownRequest) : weight f (requests ++ [q]) = weight f requests + f q.stop := by
  simp [weight]

theorem weight_advanceRequest (f : Stop → ℕ) (h : requests[i]? = some q) (stop : Option Stop) :
    weight f (advanceRequest requests i q stop) + f q.stop = weight f requests + stop.elim 0 f := by
  induction requests generalizing i with
  | nil => cases h
  | cons p requests ih =>
    cases i with
    | zero =>
      obtain rfl : p = q := Option.some.inj h
      cases stop <;> simp [advanceRequest, weight, Nat.add_comm, Nat.add_left_comm]
    | succ i =>
      have ih := ih h
      cases stop <;> simp [advanceRequest, weight] at ih ⊢ <;> omega

theorem mem_advanceRequest_of_ne (h : requests[i]? = some q) (hp : p ∈ requests) (hne : p ≠ q) :
    p ∈ advanceRequest requests i q stop := by
  induction requests generalizing i with
  | nil => cases h
  | cons p' requests ih =>
    cases i with
    | zero =>
      obtain rfl : p' = q := Option.some.inj h
      have hmem := List.mem_of_ne_of_mem hne hp
      cases stop <;> simp [advanceRequest, hmem]
    | succ i =>
      rcases List.mem_cons.1 hp with rfl | hp
      · cases stop <;> simp [advanceRequest]
      · have ih := ih h hp
        cases stop <;> simp only [advanceRequest] at ih ⊢
        · exact List.mem_cons_of_mem _ ih
        · exact List.mem_cons_of_mem _ ih

theorem mem_advanceRequest_some (h : requests[i]? = some q) (s : Stop) :
    { q with stop := s } ∈ advanceRequest requests i q (some s) := by
  obtain ⟨hlt, -⟩ := List.getElem?_eq_some_iff.1 h
  exact List.mem_set hlt _

end Requests

/-! ## A shutdown that is carried out -/

namespace MainThread

/-- AF core is not running yet. -/
def isStarting : MainThread → Bool
  | initialized | spawning _ | starting => true
  | _ => false

/-- `start` has got AF core running, and `wait` has not seen it stop. -/
def isServing : MainThread → Bool
  | started | cleaning | waiting => true
  | _ => false

/-- A bound on the number of steps that are left, once AF core has been started. -/
def rank : MainThread → ℕ
  | started => 18
  | cleaning => 16
  | waiting => 14
  | requesting stop => 8 + stop.rank
  | joining => 7
  | released => 6
  | _ => 0

end MainThread

namespace BundledAfRuntime

variable {r r' : BundledAfRuntime} {op : RuntimeOp}

/-- AF core has been started, and a call is about to stop it, unless the main thread does not wait
    for that. -/
def Carried (r : BundledAfRuntime) : Prop :=
  r.main.isStarting = false ∧
    (r.main.isServing = true → r.running = true → ∃ q ∈ r.requests, q.stop.isActive = true)

/-- A bound on the number of steps that are left. -/
def rank (r : BundledAfRuntime) : ℕ :=
  r.main.rank + weight Stop.rank r.requests + 5 * r.starts + r.cleanup.toNat

theorem stopNext_main (r : BundledAfRuntime) (stop : Stop) : (r.stopNext stop).1.main = r.main := by
  cases stop with
  | called =>
    rw [stopNext]
    split_ifs <;> rfl
  | _ => rfl

theorem stopNext_stopped (h : r.state = .stopped) (stop : Stop) :
    (r.stopNext stop).1.state = .stopped := by
  cases stop with
  | called =>
    rw [stopNext, if_pos (.inr h)]
    exact h
  | _ => exact h

/-- A call goes on, after a shutdown has been requested. -/
theorem stopNext_of_stopping (h : r.state = .stopping) (stop : Stop) :
    (r.stopNext stop).1 = (if stop = .stopping then { r with running := false } else r) ∧
      (r.stopNext stop).2.elim 0 Stop.rank < stop.rank := by
  cases stop with
  | called =>
    rw [stopNext, if_pos (.inl h)]
    exact ⟨rfl, (by decide : 0 < Stop.called.rank)⟩
  | accepted => exact ⟨rfl, by cases hr : r.running <;> simp [stopNext, hr, Stop.rank]⟩
  | stopping => exact ⟨rfl, (by decide : Stop.handlers.rank < Stop.stopping.rank)⟩
  | handlers => exact ⟨rfl, (by decide : 0 < Stop.handlers.rank)⟩

/-- The main thread goes on. -/
theorem Carried.main (h : r.state = .stopping) (hcarried : r.Carried)
    (hnext : r.mainNext = some r') :
    (r'.main = .returned ∨ (r'.state = .stopping ∧ r'.Carried)) ∧ r'.rank < r.rank := by
  obtain ⟨hstarting, hserving⟩ := hcarried
  rw [mainNext] at hnext
  rcases hmain : r.main with _ | left | _ | _ | _ | _ | stop | _ | _ | _ <;>
    rw [hmain] at hstarting hserving hnext <;> dsimp only at hnext
  · cases hstarting
  · cases hstarting
  · cases hstarting
  · -- The thread that removes expired subscriptions is made.
    obtain rfl := Option.some.inj hnext
    refine ⟨.inr ⟨h, rfl, fun _ => hserving rfl⟩, ?_⟩
    simp only [rank, hmain, MainThread.rank, Bool.toNat_true]
    omega
  · obtain rfl := Option.some.inj hnext
    refine ⟨.inr ⟨?_, rfl, fun _ => hserving rfl⟩, ?_⟩
    · rw [h, if_neg (by decide)]
    · simp only [rank, hmain, MainThread.rank]
      omega
  · -- AF core has stopped.
    split_ifs at hnext
    obtain rfl := Option.some.inj hnext
    refine ⟨.inr ⟨h, rfl, nofun⟩, ?_⟩
    simp only [rank, hmain, MainThread.rank, Stop.rank]
    omega
  · obtain ⟨hsame, hrank⟩ := stopNext_of_stopping h stop
    rcases hnext' : r.stopNext stop with ⟨r₁, stop'⟩
    rw [hnext'] at hsame hrank hnext
    obtain rfl : r₁ = _ := hsame
    obtain rfl := Option.some.inj hnext
    have hlt : (stop'.elim MainThread.joining .requesting).rank < 8 + stop.rank := by
      cases stop' with
      | none => exact Nat.lt_add_right _ (by decide)
      | some stop' => exact Nat.add_lt_add_left hrank 8
    refine ⟨.inr ⟨by split_ifs <;> exact h, ?_, ?_⟩, ?_⟩
    · cases stop' <;> rfl
    · cases stop' <;> exact nofun
    · have hmainRank : r.main.rank = 8 + stop.rank := congrArg MainThread.rank hmain
      split_ifs <;> simp only [rank, hmainRank] <;> omega
  · split_ifs at hnext
    obtain rfl := Option.some.inj hnext
    refine ⟨.inr ⟨h, rfl, nofun⟩, ?_⟩
    simp only [rank, hmain, MainThread.rank]
    omega
  · obtain rfl := Option.some.inj hnext
    refine ⟨.inl rfl, ?_⟩
    simp only [rank, hmain, MainThread.rank]
    omega
  · cases hnext

/-- A call of another thread goes on. -/
theorem Carried.advance (h : r.state = .stopping) (hcarried : r.Carried) {i : ℕ}
    (hnext : r.next (.advance i) = some r') :
    r'.state = .stopping ∧ r'.Carried ∧ r'.rank < r.rank := by
  obtain ⟨q, hq, rfl⟩ := Option.map_eq_some_iff.1 hnext
  obtain ⟨hsame, hrank⟩ := stopNext_of_stopping h q.stop
  obtain ⟨hstarting, hserving⟩ := hcarried
  have hstop : r.running = true → q.stop.isActive = true → q.stop ≠ .stopping →
      (r.stopNext q.stop).2 = some .stopping := by
    intro hrunning hactive hne
    cases hs : q.stop <;> rw [hs] at hactive hne <;> simp_all [stopNext, Stop.isActive]
  rcases hnext' : r.stopNext q.stop with ⟨r₁, stop⟩
  rw [hnext'] at hsame hrank hstop
  obtain rfl : r₁ = _ := hsame
  have hsum := weight_advanceRequest Stop.rank hq stop
  dsimp only at hrank ⊢
  by_cases hs : q.stop = .stopping
  · -- AF core is not running any more.
    rw [if_pos hs]
    refine ⟨h, ⟨hstarting, nofun⟩, ?_⟩
    simp only [rank]
    omega
  · rw [if_neg hs]
    refine ⟨h, ⟨hstarting, fun hmain hrunning => ?_⟩, ?_⟩
    · obtain ⟨p, hp, hactive⟩ := hserving hmain hrunning
      by_cases hne : p = q
      · subst hne
        obtain rfl : stop = _ := hstop hrunning hactive hs
        exact ⟨_, mem_advanceRequest_some hq .stopping, rfl⟩
      · exact ⟨p, mem_advanceRequest_of_ne hq hp hne, hactive⟩
    · simp only [rank]
      omega

/-- A shutdown that is carried out goes on, whatever happens, until the main thread returns. -/
theorem Carried.next (h : r.state = .stopping) (hcarried : r.Carried) (hop : op ≠ .request)
    (hnext : r.next op = some r') :
    (r'.main = .returned ∨ (r'.state = .stopping ∧ r'.Carried)) ∧ r'.rank < r.rank := by
  obtain ⟨hstarting, hserving⟩ := hcarried
  cases op with
  | main => exact Carried.main h ⟨hstarting, hserving⟩ hnext
  | fail =>
    rw [BundledAfRuntime.next] at hnext
    split at hnext
    next hmain => simp [hmain, MainThread.isStarting] at hstarting
    next hmain => simp [hmain, MainThread.isStarting] at hstarting
    next hmain =>
      obtain rfl := Option.some.inj hnext
      refine ⟨.inr ⟨h, rfl, nofun⟩, ?_⟩
      simp only [rank, hmain, MainThread.rank, Stop.rank]
      omega
    next => cases hnext
  | handlerReturns =>
    rw [BundledAfRuntime.next] at hnext
    split_ifs at hnext with hstarts
    obtain rfl := Option.some.inj hnext
    refine ⟨.inr ⟨h, hstarting, hserving⟩, ?_⟩
    simp only [rank]
    omega
  | handlerFails =>
    rw [BundledAfRuntime.next] at hnext
    split_ifs at hnext with hstarts
    obtain rfl := Option.some.inj hnext
    refine ⟨.inr ⟨h, hstarting, fun hmain hrunning => ?_⟩, ?_⟩
    · obtain ⟨q, hq, hactive⟩ := hserving hmain hrunning
      exact ⟨q, List.mem_append_left _ hq, hactive⟩
    · simp only [rank, weight_append_singleton, Stop.rank]
      omega
  | request => exact absurd rfl hop
  | advance i =>
    obtain ⟨hstate, hcarried, hrank⟩ := Carried.advance h ⟨hstarting, hserving⟩ hnext
    exact ⟨.inr ⟨hstate, hcarried⟩, hrank⟩
  | cleanupEnds =>
    rw [BundledAfRuntime.next] at hnext
    split_ifs at hnext with hcleanup
    obtain rfl := Option.some.inj hnext
    refine ⟨.inr ⟨h, hstarting, hserving⟩, ?_⟩
    simp only [rank, hcleanup.1, Bool.toNat_true, Bool.toNat_false]
    omega

/-- A call that is under way can go on. -/
theorem exists_advance {q : ShutdownRequest} (hq : q ∈ r.requests) :
    ∃ i, r.requests[i]? = some q ∧ (r.next (.advance i)).isSome = true := by
  obtain ⟨i, hi⟩ := List.mem_iff_getElem?.1 hq
  refine ⟨i, hi, ?_⟩
  rw [BundledAfRuntime.next, hi]
  rfl

/-- Until the main thread has returned, something can happen. -/
theorem Carried.enabled (h : r.state = .stopping) (hcarried : r.Carried)
    (hmain : r.main ≠ .returned) : settlingSystem.Enabled r := by
  suffices hop : ∃ op, op ≠ RuntimeOp.request ∧ (r.next op).isSome = true by
    obtain ⟨op, hne, hsome⟩ := hop
    obtain ⟨r', hr'⟩ := Option.isSome_iff_exists.1 hsome
    exact ⟨op, r', hne, hr'⟩
  obtain ⟨hstarting, hserving⟩ := hcarried
  rcases hthread : r.main with _ | left | _ | _ | _ | _ | stop | _ | _ | _ <;>
    rw [hthread] at hstarting hserving
  · cases hstarting
  · cases hstarting
  · cases hstarting
  · exact ⟨.main, nofun, by rw [BundledAfRuntime.next, mainNext, hthread]; rfl⟩
  · exact ⟨.main, nofun, by rw [BundledAfRuntime.next, mainNext, hthread]; rfl⟩
  · cases hrunning : r.running with
    | false =>
      exact ⟨.main, nofun, by rw [BundledAfRuntime.next, mainNext, hthread, hrunning]; rfl⟩
    | true =>
      obtain ⟨q, hq, -⟩ := hserving rfl hrunning
      obtain ⟨i, -, hi⟩ := exists_advance hq
      exact ⟨.advance i, nofun, hi⟩
  · exact ⟨.main, nofun, by rw [BundledAfRuntime.next, mainNext, hthread]; rfl⟩
  · by_cases hjoin : r.Joinable
    · exact ⟨.main, nofun, by rw [BundledAfRuntime.next, mainNext, hthread]; simp [hjoin]⟩
    · -- One of the threads to be joined goes on.
      by_cases hstarts : r.starts = 0
      · by_cases hsouthbound : ∀ q ∈ r.requests, q.southbound = false
        · have hcleanup : r.cleanup = true := by
            refine Bool.not_eq_false _ ▸ fun hcleanup => hjoin ⟨hstarts, hsouthbound, hcleanup⟩
          exact ⟨.cleanupEnds, nofun, by simp [BundledAfRuntime.next, hcleanup, h]⟩
        · obtain ⟨q, hq, -⟩ := not_forall₂.1 hsouthbound
          obtain ⟨i, -, hi⟩ := exists_advance hq
          exact ⟨.advance i, nofun, hi⟩
      · exact ⟨.handlerReturns, nofun, by simp [BundledAfRuntime.next, hstarts]⟩
  · exact ⟨.main, nofun, by rw [BundledAfRuntime.next, mainNext, hthread]; rfl⟩
  · exact absurd hthread hmain

/-! ## A shutdown that may be lost -/

/-- AF core is not running yet, or it is and no call is about to stop it. -/
def Losable (r : BundledAfRuntime) : Prop :=
  r.state = .stopping ∧ r.main ≠ .initialized ∧ (r.main.isStarting = true ∨
    (r.main.isServing = true ∧ r.running = true ∧ ∀ q ∈ r.requests, q.stop.isActive = false))

/-- While AF core is being started, the calls may be sooner. -/
theorem Losable.starting (hstate : r.state = .stopping) (hinit : r.main ≠ .initialized)
    (hstarting : r.main.isStarting = true) :
    ∃ op r', op ≠ RuntimeOp.request ∧ r.next op = some r' ∧ r'.Losable := by
  by_cases hactive : ∀ q ∈ r.requests, q.stop.isActive = false
  · -- No call is about to stop AF core.
    rcases hthread : r.main with _ | (_ | left) | _ | _ | _ | _ | stop | _ | _ | _ <;>
      rw [hthread] at hstarting <;> try cases hstarting
    · exact absurd hthread hinit
    · refine ⟨.main, { r with main := if r.running then .started else .starting }, nofun,
        by rw [BundledAfRuntime.next, mainNext, hthread], hstate, ?_, ?_⟩
      · split_ifs <;> exact nofun
      · cases hrunning : r.running with
        | false => exact .inl rfl
        | true => exact .inr ⟨rfl, rfl, hactive⟩
    · exact ⟨.main, { r with main := .spawning left, starts := r.starts + 1 }, nofun,
        by rw [BundledAfRuntime.next, mainNext, hthread], hstate, nofun, .inl rfl⟩
    · exact ⟨.main, { r with running := true, main := .started }, nofun,
        by rw [BundledAfRuntime.next, mainNext, hthread], hstate, nofun, .inr ⟨rfl, rfl, hactive⟩⟩
  · -- A call finds AF core not running, or goes on.
    obtain ⟨q, hq, -⟩ := not_forall₂.1 hactive
    obtain ⟨i, hi, -⟩ := exists_advance hq
    obtain ⟨hsame, -⟩ := stopNext_of_stopping hstate q.stop
    refine ⟨.advance i, _, nofun, by rw [BundledAfRuntime.next, hi]; rfl, ?_⟩
    have hthread := stopNext_main r q.stop
    refine ⟨?_, hthread.symm ▸ hinit, .inl (hthread.symm ▸ hstarting)⟩
    dsimp only
    rw [hsame]
    split_ifs <;> exact hstate

/-- A shutdown that is lost stays lost. -/
theorem Losable.serving (hstate : r.state = .stopping) (hserving : r.main.isServing = true)
    (hrunning : r.running = true) (hactive : ∀ q ∈ r.requests, q.stop.isActive = false)
    (hop : op ≠ .request) (hfail : op ≠ .fail) (hnext : r.next op = some r') :
    r'.state = .stopping ∧ r'.main.isServing = true ∧ r'.running = true ∧
      ∀ q ∈ r'.requests, q.stop.isActive = false := by
  cases op with
  | main =>
    rw [BundledAfRuntime.next, mainNext] at hnext
    rcases hthread : r.main with _ | left | _ | _ | _ | _ | stop | _ | _ | _ <;>
      rw [hthread] at hserving hnext <;> try cases hserving
    · obtain rfl := Option.some.inj hnext
      exact ⟨hstate, rfl, hrunning, hactive⟩
    · obtain rfl := Option.some.inj hnext
      exact ⟨by rw [hstate, if_neg (by decide)], rfl, hrunning, hactive⟩
    · -- The main thread waits.
      dsimp only at hnext
      rw [if_pos hrunning] at hnext
      cases hnext
  | fail => exact absurd rfl hfail
  | handlerReturns =>
    rw [BundledAfRuntime.next] at hnext
    split_ifs at hnext
    obtain rfl := Option.some.inj hnext
    exact ⟨hstate, hserving, hrunning, hactive⟩
  | handlerFails =>
    rw [BundledAfRuntime.next] at hnext
    split_ifs at hnext
    obtain rfl := Option.some.inj hnext
    refine ⟨hstate, hserving, hrunning, fun q hq => ?_⟩
    rcases List.mem_append.1 hq with hq | hq
    · exact hactive q hq
    · rw [List.mem_singleton.1 hq]
      rfl
  | request => exact absurd rfl hop
  | advance i =>
    obtain ⟨q, hq, rfl⟩ := Option.map_eq_some_iff.1 hnext
    have hinactive := hactive q (List.mem_of_getElem? hq)
    -- The call returns.
    have hreturns : r.stopNext q.stop = (r, none) := by
      cases hs : q.stop with
      | called => rw [stopNext, if_pos (.inl hstate)]
      | accepted => rw [hs] at hinactive; cases hinactive
      | stopping => rw [hs] at hinactive; cases hinactive
      | handlers => rfl
    rw [hreturns]
    exact ⟨hstate, hserving, hrunning, fun p hp => hactive p (List.mem_of_mem_eraseIdx hp)⟩
  | cleanupEnds =>
    rw [BundledAfRuntime.next] at hnext
    split_ifs at hnext
    obtain rfl := Option.some.inj hnext
    exact ⟨hstate, hserving, hrunning, hactive⟩

/-- A shutdown that may be lost may stay so. -/
theorem Losable.enabled (h : r.Losable) (henabled : settlingSystem.Enabled r) :
    ∃ op r', settlingSystem.step r op r' ∧ r'.Losable := by
  obtain ⟨hstate, hinit, hstarting | ⟨hserving, hrunning, hactive⟩⟩ := h
  · obtain ⟨op, r', hop, hnext, hlosable⟩ := Losable.starting hstate hinit hstarting
    exact ⟨op, r', ⟨hop, hnext⟩, hlosable⟩
  · have hkeeps : ∀ op r', op ≠ RuntimeOp.request → op ≠ .fail → r.next op = some r' →
        ∃ op r', settlingSystem.step r op r' ∧ r'.Losable := by
      intro op r' hop hfail hnext
      obtain ⟨hstate', hserving', hrest⟩ :=
        Losable.serving hstate hserving hrunning hactive hop hfail hnext
      refine ⟨op, r', ⟨hop, hnext⟩, hstate', fun hinit' => ?_, .inr ⟨hserving', hrest⟩⟩
      rw [hinit'] at hserving'
      cases hserving'
    obtain ⟨op, r', hop, hnext⟩ := henabled
    by_cases hfail : op = .fail
    · -- While something can still fail, the main thread can go on as well.
      subst hfail
      change r.next .fail = some r' at hnext
      rw [BundledAfRuntime.next] at hnext
      split at hnext
      next hmain => simp [hmain, MainThread.isServing] at hserving
      next hmain => simp [hmain, MainThread.isServing] at hserving
      next hmain =>
        exact hkeeps .main { r with cleanup := true, main := .cleaning } nofun nofun
          (by rw [BundledAfRuntime.next, mainNext, hmain])
      next => cases hnext
    · exact hkeeps op r' hop hfail hnext

/-- The main thread does not come back to its start. -/
theorem ne_initialized_of_mainNext (hnext : r.mainNext = some r') : r'.main ≠ .initialized := by
  rw [mainNext] at hnext
  rcases hthread : r.main with _ | (_ | left) | _ | _ | _ | _ | stop | _ | _ | _ <;>
    rw [hthread] at hnext <;> dsimp only at hnext <;> try split_ifs at hnext
  case requesting =>
    obtain rfl := Option.some.inj hnext
    cases (r.stopNext stop).2 <;> exact nofun
  all_goals
    cases hnext
  all_goals
    simp

/-- Before `start` no shutdown can be requested. -/
theorem ne_initialized (hr : runtimeSystem.Reachable r) (hstate : r.state = .stopping) :
    r.main ≠ .initialized := by
  have hinit : r.main = .initialized → r.state = .stopped := by
    refine System.Reachable.invariant (P := fun r => r.main = .initialized → r.state = .stopped)
      (fun r hinit => ?_) (fun r op r' _ hinit hnext hmain => ?_) hr
    · obtain ⟨handlers, rfl⟩ := hinit
      exact fun _ => rfl
    · change r.next op = some r' at hnext
      cases op with
      | main => exact absurd hmain (ne_initialized_of_mainNext hnext)
      | fail =>
        rw [BundledAfRuntime.next] at hnext
        split at hnext <;> cases hnext <;> cases hmain
      | advance i =>
        obtain ⟨q, -, rfl⟩ := Option.map_eq_some_iff.1 hnext
        exact stopNext_stopped (hinit ((stopNext_main r q.stop).symm.trans hmain)) q.stop
      | request =>
        cases hnext
        exact hinit hmain
      | _ =>
        rw [BundledAfRuntime.next] at hnext
        split_ifs at hnext
        cases hnext
        exact hinit hmain
  intro hmain
  rw [hinit hmain] at hstate
  cases hstate

/-- Once a shutdown has been requested, the main thread is certain to return, whatever the order
    of steps, exactly if AF core has been started, and a call is about to stop it unless it is not
    running any more. -/
theorem returns_iff (hr : runtimeSystem.Reachable r) (hstate : r.state = .stopping) :
    settlingSystem.Inevitable (·.main = .returned) r ↔ r.Carried := by
  constructor
  · intro hreturns
    by_contra hcarried
    have hlosable : r.Losable := by
      refine ⟨hstate, ne_initialized hr hstate, ?_⟩
      cases hstarting : r.main.isStarting with
      | true => exact .inl rfl
      | false =>
        refine .inr ?_
        simpa [Carried, hstarting] using hcarried
    refine System.not_inevitable_of_avoids (fun r h hmain => ?_) (fun r h => h.enabled) hlosable
      hreturns
    obtain ⟨-, -, hthread⟩ := h
    rw [hmain] at hthread
    simp [MainThread.isStarting, MainThread.isServing] at hthread
  · intro hcarried
    refine System.inevitable_of_rank (P := fun r => r.main = .returned ∨
      (r.state = .stopping ∧ r.Carried)) rank (fun r hP => ?_) (.inr ⟨hstate, hcarried⟩)
    rcases hP with hmain | ⟨hstate, hcarried⟩
    · exact .inl hmain
    · by_cases hmain : r.main = .returned
      · exact .inl hmain
      · exact .inr ⟨hcarried.enabled hstate hmain, fun op r' hstep =>
          hcarried.next hstate hstep.1 hstep.2⟩

/-- A call that comes before AF core is running is lost, and one that comes later is not. -/
theorem lost_before_running : ∃ r r' : BundledAfRuntime,
    (runtimeSystem.Reachable r ∧ r.state = .stopping ∧
      ¬settlingSystem.Inevitable (·.main = .returned) r) ∧
    runtimeSystem.Reachable r' ∧ r'.state = .stopping ∧
      settlingSystem.Inevitable (·.main = .returned) r' := by
  have hinit : runtimeSystem.Reachable (initial 1) := .init ⟨1, rfl⟩
  have hstarting := ((hinit.step (a := RuntimeOp.main) rfl).step (a := RuntimeOp.main) rfl).step
    (a := RuntimeOp.main) rfl
  have hlost := ((hstarting.step (a := RuntimeOp.request) rfl).step
    (a := RuntimeOp.advance 0) rfl).step (a := RuntimeOp.advance 0) rfl
  have hcarried := ((hstarting.step (a := RuntimeOp.main) rfl).step
    (a := RuntimeOp.request) rfl).step (a := RuntimeOp.advance 0) rfl
  refine ⟨_, _, ⟨hlost, rfl, (returns_iff hlost rfl).not.2 fun h => ?_⟩, hcarried, rfl,
    (returns_iff hcarried rfl).2 ⟨rfl, ?_⟩⟩
  · cases h.1
  · exact fun _ _ => ⟨_, List.mem_singleton_self _, rfl⟩

end BundledAfRuntime

end PhineAf

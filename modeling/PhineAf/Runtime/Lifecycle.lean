import PhineAf.Lib.Inevitable
import Mathlib.Data.List.Basic
import Mathlib.Tactic.Cases
import Mathlib.Tactic.SplitIfs

/-!
# The life of the bundled runtime

`BundledAfRuntime`, which runs AF core and the southbound handlers in one process: the main
thread starts them (`start`), waits until AF core has stopped (`wait`), and takes all down
(`finalizeShutdown`); meanwhile other threads may ask for a shutdown (`requestShutdown`).

`AfOrchestrator::stop` does nothing if AF core is not running, and a second request does
nothing if there has been a first. So a request that comes before AF core is running is lost,
and no later one helps: the main thread waits for ever
(`BundledAfRuntime.returns_iff`).
-/

namespace PhineAf

inductive LifecycleState
  | stopped
  | starting
  | running
  | stopping
  deriving DecidableEq, Repr

/-- How far a call of `requestShutdown` has come. -/
inductive Stop
  | called
  /-- The state has been set, and `AfOrchestrator::stop` is called. -/
  | accepted
  /-- `AfOrchestrator::stop` has found AF core running, and stops its services. -/
  | stopping
  /-- `AfOrchestrator::stop` has returned, and the southbound handlers are stopped. -/
  | handlers
  deriving DecidableEq, Repr

/-- A call of `requestShutdown` in another thread than the main one. -/
structure ShutdownRequest where
  /-- The thread is that of a southbound handler, which the main thread joins. -/
  southbound : Bool
  stop : Stop
  deriving DecidableEq, Repr

/-- How far the main thread has come. -/
inductive MainThread
  /-- `initialize` has returned. -/
  | initialized
  /-- `start` makes the threads of the southbound handlers. -/
  | spawning (left : ℕ)
  /-- `AfOrchestrator::start` has found AF core not running, and starts its services. -/
  | starting
  /-- `AfOrchestrator::start` has returned. -/
  | started
  /-- The thread that removes expired subscriptions has been made. -/
  | cleaning
  /-- `start` has returned, and `AfOrchestrator::wait` is called. -/
  | waiting
  /-- `requestShutdown` is called. -/
  | requesting (stop : Stop)
  /-- `finalizeShutdown` waits for the other threads. -/
  | joining
  /-- `finalizeShutdown` has destroyed AF core and the southbound handlers. -/
  | released
  | returned
  deriving DecidableEq, Repr

structure BundledAfRuntime where
  state : LifecycleState
  /-- AF core is running (`AfOrchestrator::isRunning`). -/
  running : Bool
  main : MainThread
  /-- The number of southbound handlers. -/
  handlers : ℕ
  /-- The number of southbound handlers whose `start` has not returned. -/
  starts : ℕ
  /-- There is a thread that removes expired subscriptions. -/
  cleanup : Bool
  requests : List ShutdownRequest
  deriving DecidableEq, Repr

inductive RuntimeOp
  /-- The main thread goes on. -/
  | main
  /-- Something that `start` calls throws an exception. -/
  | fail
  /-- The `start` of a southbound handler returns. -/
  | handlerReturns
  /-- The `start` of a southbound handler throws an exception. -/
  | handlerFails
  /-- Another thread calls `requestShutdown`. -/
  | request
  /-- A call of `requestShutdown` goes on. -/
  | advance (i : ℕ)
  /-- The thread that removes expired subscriptions ends. -/
  | cleanupEnds

/-- The calls of `requestShutdown`, after one of them has gone on, or returned. -/
def advanceRequest (requests : List ShutdownRequest) (i : ℕ) (q : ShutdownRequest) :
    Option Stop → List ShutdownRequest
  | some stop => requests.set i { q with stop }
  | none => requests.eraseIdx i

namespace BundledAfRuntime

/-- A runtime before `start`. -/
def initial (handlers : ℕ) : BundledAfRuntime where
  state := .stopped
  running := false
  main := .initialized
  handlers
  starts := 0
  cleanup := false
  requests := []

/-- A call of `requestShutdown` goes on, or returns. -/
def stopNext (r : BundledAfRuntime) : Stop → BundledAfRuntime × Option Stop
  | .called =>
    if r.state = .stopping ∨ r.state = .stopped then (r, none)
    else ({ r with state := .stopping }, some .accepted)
  | .accepted => (r, some (if r.running then .stopping else .handlers))
  | .stopping => ({ r with running := false }, some .handlers)
  | .handlers => (r, none)

/-- The threads that `finalizeShutdown` joins have ended. -/
def Joinable (r : BundledAfRuntime) : Prop :=
  r.starts = 0 ∧ (∀ q ∈ r.requests, q.southbound = false) ∧ r.cleanup = false

instance (r : BundledAfRuntime) : Decidable r.Joinable :=
  inferInstanceAs (Decidable (_ ∧ _ ∧ _))

/-- The main thread goes on. -/
def mainNext (r : BundledAfRuntime) : Option BundledAfRuntime :=
  match r.main with
  | .initialized =>
    if r.state = .stopped then some { r with state := .starting, main := .spawning r.handlers }
    else none
  | .spawning (left + 1) => some { r with main := .spawning left, starts := r.starts + 1 }
  | .spawning 0 => some { r with main := if r.running then .started else .starting }
  | .starting => some { r with running := true, main := .started }
  | .started => some { r with cleanup := true, main := .cleaning }
  | .cleaning => some { r with
      state := if r.state = .starting then .running else r.state
      main := .waiting }
  | .waiting => if r.running then none else some { r with main := .requesting .called }
  | .requesting stop =>
    let (r, stop) := r.stopNext stop
    some { r with main := stop.elim .joining .requesting }
  | .joining => if r.Joinable then some { r with main := .released } else none
  | .released => some { r with state := .stopped, main := .returned }
  | .returned => none

/-- The runtime after a step. -/
def next (r : BundledAfRuntime) : RuntimeOp → Option BundledAfRuntime
  | .main => r.mainNext
  | .fail =>
    match r.main with
    | .spawning _ | .starting | .started => some { r with main := .requesting .called }
    | _ => none
  | .handlerReturns => if r.starts = 0 then none else some { r with starts := r.starts - 1 }
  | .handlerFails =>
    if r.starts = 0 then none
    else some { r with starts := r.starts - 1, requests := r.requests ++ [⟨true, .called⟩] }
  | .request => some { r with requests := r.requests ++ [⟨false, .called⟩] }
  | .advance i =>
    r.requests[i]?.map fun q =>
      let (r, stop) := r.stopNext q.stop
      { r with requests := advanceRequest r.requests i q stop }
  | .cleanupEnds =>
    if r.cleanup ∧ (r.state = .stopping ∨ r.state = .stopped) then some { r with cleanup := false }
    else none

end BundledAfRuntime

/-- The runs of the runtime. -/
def runtimeSystem : System BundledAfRuntime RuntimeOp where
  init r := ∃ handlers, r = .initial handlers
  step r op r' := r.next op = some r'

/-- No other thread calls `requestShutdown` any more. -/
def settlingSystem : System BundledAfRuntime RuntimeOp :=
  runtimeSystem.restrict fun _ op => op ≠ .request

end PhineAf

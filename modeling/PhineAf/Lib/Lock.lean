import Mathlib.Logic.Basic

/-!
# Calls under a lock

A store protected by a reader-writer lock that is not recursive, as one call
sees it: the lock is explicit state, and a call that acquires it while holding
it already is *blocked*. A call may also throw; its locks are then released and
what it wrote stays.

A call that takes the lock once around a body which leaves it alone runs that
body on the store (`withLock_of_free`, `withLock_attempts`); one that takes it
again inside is blocked (`withLock_of_held`).
-/

namespace PhineAf

/-- What the current call holds of the lock. -/
inductive Hold
  | free
  | shared
  | exclusive
  deriving DecidableEq, Repr

/-- A call on the store `σ`: from the lock and the store, either blocked
    (`none`), or a result or exception with the lock and the store it leaves. -/
abbrev Guarded (ε σ α : Type) := ExceptT ε (StateT (Hold × σ) Option) α

namespace Guarded

variable {ε σ α : Type}

/-- The store. -/
def store : Guarded ε σ σ := return (← get).2

/-- The scope of a lock guard: the lock is acquired, which blocks if it is held,
    and released at the end of the body, however that ends. -/
def withLock (m : Hold) (body : Guarded ε σ α) : Guarded ε σ α := fun hs =>
  if hs.1 = .free then (body (m, hs.2)).map fun r => (r.1, .free, r.2.2) else none

/-- A body that only reads the store. -/
def reads (f : σ → α) : Guarded ε σ α := return f (← store)

/-- A body that changes the store, and may throw before it does. -/
def attempts (f : σ → Except ε (α × σ)) : Guarded ε σ α := fun hs =>
  match f hs.2 with
  | .ok (a, s') => some (.ok a, hs.1, s')
  | .error e => some (.error e, hs)

/-- A body that throws, or not, without looking at the store. -/
def lift (r : Except ε α) : Guarded ε σ α := fun hs => some (r, hs)

/-- A body that changes the store. -/
def writes (f : σ → α × σ) : Guarded ε σ α := attempts fun s => .ok (f s)

/-- A call whose result is not used. -/
def ignore (c : Guarded ε σ α) : Guarded ε σ Unit := fun hs =>
  (c hs).map fun r => (r.1.map fun _ => (), r.2)

/-- The call, started with the lock free, acquires the lock while it holds it. -/
def Blocks (c : Guarded ε σ α) (s : σ) : Prop := c (.free, s) = none

instance (c : Guarded ε σ α) (s : σ) : Decidable (Blocks c s) :=
  decidable_of_iff ((c (.free, s)).isNone) Option.isNone_iff_eq_none

theorem store_bind (f : σ → Guarded ε σ α) (hs : Hold × σ) : (store >>= f) hs = f hs.2 hs := rfl

theorem withLock_of_free (m : Hold) (body : Guarded ε σ α) (s : σ) :
    withLock m body (.free, s) = (body (m, s)).map fun r => (r.1, .free, r.2.2) := rfl

theorem withLock_of_held {m h : Hold} (hh : h ≠ .free) (body : Guarded ε σ α) (s : σ) :
    withLock m body (h, s) = none :=
  if_neg hh

theorem withLock_attempts (m : Hold) (f : σ → Except ε (α × σ)) (s : σ) :
    withLock m (attempts f) (.free, s) =
      match f s with
      | .ok (a, s') => some (.ok a, .free, s')
      | .error e => some (.error e, .free, s) := by
  rw [withLock, attempts]
  cases f s <;> rfl

end Guarded

end PhineAf

import Mathlib.Logic.Basic

/-!
# Transition systems

A labelled transition system: the initial states, and the steps a state can
take under an action. Its runs are the paths from an initial state; what holds
of every run is proved from one step by the two rules

* `System.Reachable.invariant`: what holds initially and is kept by every step
  holds in every reachable state;
* `System.Later.stable`: what is kept by every step holds from then on.

A system can be *restricted* to the steps meeting a condition on the state
before the step and the action (`System.restrict`): the runs of the restricted
system are those of the system all of whose steps meet the condition.
-/

namespace PhineAf

/-- A labelled transition system on the states `S`, with the actions `A`. -/
structure System (S A : Type*) where
  /-- The initial states. -/
  init : S → Prop
  /-- The steps: from a state, under an action, to a state. -/
  step : S → A → S → Prop

namespace System

variable {S A : Type*} (T : System S A)

/-- The states on a run of `T`. -/
inductive Reachable : S → Prop
  | init {s : S} : T.init s → Reachable s
  | step {s s' : S} {a : A} : Reachable s → T.step s a s' → Reachable s'

/-- A run of `T` leads from the first state to the second. -/
inductive Later : S → S → Prop
  | refl (s : S) : Later s s
  | step {s s' s'' : S} {a : A} : Later s s' → T.step s' a s'' → Later s s''

/-- The system whose steps are those of `T` meeting the condition `ok`. -/
def restrict (ok : S → A → Prop) : System S A where
  init := T.init
  step s a s' := ok s a ∧ T.step s a s'

variable {T}

/-- The system of a step function that may have no next state. -/
def ofStep (init : S) (step : S → A → Option S) : System S A where
  init s := s = init
  step s a s' := step s a = some s'

/-- The end of a successful run of a step function, whose steps are those of `T`, is
    reachable. -/
theorem Reachable.foldlM {step : S → A → Option S}
    {as : List A} (hstep : ∀ a ∈ as, ∀ s s', step s a = some s' → T.step s a s') {s s' : S}
    (hs : T.Reachable s) (hrun : as.foldlM step s = some s') : T.Reachable s' := by
  induction as generalizing s with
  | nil =>
    rw [List.foldlM_nil, Option.pure_def, Option.some.injEq] at hrun
    exact hrun ▸ hs
  | cons a as ih =>
    rw [List.foldlM_cons, Option.bind_eq_bind, Option.bind_eq_some_iff] at hrun
    obtain ⟨s₁, h₁, hrun⟩ := hrun
    obtain ⟨ha, has⟩ := List.forall_mem_cons.1 hstep
    exact ih has (.step hs (ha s s₁ h₁)) hrun

/-- The end of a successful run of a step function is reachable. -/
theorem reachable_of_run {init : S} {step : S → A → Option S} (as : List A) {s s' : S}
    (hs : (ofStep init step).Reachable s) (hrun : as.foldlM step s = some s') :
    (ofStep init step).Reachable s' :=
  hs.foldlM (fun _ _ _ _ h => h) hrun

/-- Invariant rule: what holds initially and is kept by the steps from
    reachable states holds in every reachable state. -/
theorem Reachable.invariant {P : S → Prop} (hinit : ∀ s, T.init s → P s)
    (hstep : ∀ s a s', T.Reachable s → P s → T.step s a s' → P s') {s : S}
    (hs : T.Reachable s) : P s := by
  induction hs with
  | init h => exact hinit _ h
  | step hr h ih => exact hstep _ _ _ hr ih h

/-- The states on a run of the restricted system are reachable. -/
theorem Reachable.of_restrict {ok : S → A → Prop} {s : S} (h : (T.restrict ok).Reachable s) :
    T.Reachable s := by
  induction h with
  | init h => exact .init h
  | step _ h ih => exact .step ih h.2

/-- Stability rule: what is kept by the steps from reachable states holds from
    then on. -/
theorem Later.stable {P : S → Prop}
    (hstep : ∀ s a s', T.Reachable s → P s → T.step s a s' → P s') {s s' : S}
    (hs : T.Reachable s) (hl : T.Later s s') (hP : P s) : T.Reachable s' ∧ P s' := by
  induction hl with
  | refl => exact ⟨hs, hP⟩
  | step _ h ih =>
    obtain ⟨hr, hP'⟩ := ih
    exact ⟨.step hr h, hstep _ _ _ hr hP' h⟩

end System

end PhineAf

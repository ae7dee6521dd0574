import Mathlib.Data.Set.Lattice

/-!
# Interleaved transactions

A *program* is a sequence of atomic actions on a shared state, each of which may
depend on what the earlier ones have found. Two programs are *interleaved* by
running their actions in any order that keeps the order of each program.

A *transaction* says what a program does that reads a cell of the state, sends
messages and writes the cell back at its end. Interleaved, two transactions behave
as one of the two serial orders, or both read the cell before either writes it, so
that the later write overwrites the earlier (`overlap`).

* `Refines.interleaves_cases`: every interleaving ends in one of these ways;
* `Refines.exists_overlap`: the overlaps are interleavings;
* `serialisable_iff`: every interleaving is as one of the serial orders iff the
  overlaps are.
-/

namespace PhineAf

/-! ## Programs -/

/-- A program on a shared state `σ`. -/
inductive Prog (σ : Type*)
  | done : Prog σ
  /-- The state is changed by `f`, and the program goes on as `k` of the state
      before. -/
  | act (f : σ → σ) (k : σ → Prog σ) : Prog σ

namespace Prog

variable {σ : Type*}

/-- The program runs alone. -/
def run : Prog σ → σ → σ
  | done, s => s
  | act f k, s => (k s).run (f s)

/-- The interleavings of two programs, from a state to the state at their end. -/
inductive Interleaves : Prog σ → Prog σ → σ → σ → Prop
  | done {s : σ} : Interleaves done done s s
  | left {f : σ → σ} {k : σ → Prog σ} {q : Prog σ} {s s' : σ} :
      Interleaves (k s) q (f s) s' → Interleaves (act f k) q s s'
  | right {p : Prog σ} {f : σ → σ} {k : σ → Prog σ} {s s' : σ} :
      Interleaves p (k s) (f s) s' → Interleaves p (act f k) s s'

theorem Interleaves.symm {p q : Prog σ} {s s' : σ} (h : Interleaves p q s s') :
    Interleaves q p s s' := by
  induction h with
  | done => exact .done
  | left _ ih => exact .right ih
  | right _ ih => exact .left ih

/-- One program waits for the other. -/
theorem interleaves_run (p q : Prog σ) (s : σ) : Interleaves p q s (q.run (p.run s)) := by
  induction p generalizing s with
  | done =>
    induction q generalizing s with
    | done => exact .done
    | act f k ih => exact .right (ih s (f s))
  | act f k ih => exact .left (ih s (f s))

/-- A program interleaved with nothing runs alone. -/
theorem Interleaves.eq_run {q : Prog σ} {s s' : σ} (h : Interleaves .done q s s') :
    s' = q.run s := by
  induction q generalizing s with
  | done =>
    cases h
    rfl
  | act f k ih =>
    cases h with
    | right h => exact ih s h

end Prog

/-! ## Transactions -/

/-- A transaction on a cell of type `β`, by what it reads. -/
structure Transaction (β μ : Type*) where
  /-- What it writes, if it does. -/
  write : β → Option β
  /-- The messages it sends. -/
  msgs : β → Set μ

namespace Transaction

variable {β μ : Type*} (t u : Transaction β μ)

/-- The cell after the transaction. -/
def post (b : β) : β := (t.write b).getD b

/-- One transaction after the other: the cell at the end, and the messages. -/
def serial (b : β) : β × Set μ := (u.post (t.post b), t.msgs b ∪ u.msgs (t.post b))

/-- Both transactions read the cell before either writes it; the second writes
    last. -/
def overlap (b : β) : β × Set μ := ((u.write b).getD (t.post b), t.msgs b ∪ u.msgs b)

/-- The overlap is as one of the serial orders. -/
def Absorbs (b : β) : Prop := t.overlap u b = t.serial u b ∨ t.overlap u b = u.serial t b

variable {t u} {b : β}

/-- An overlap with a transaction that does not write is as a serial order. -/
theorem absorbs_of_write_left (h : t.write b = none) : t.Absorbs u b := by
  have hpost : t.post b = b := by rw [post, h, Option.getD_none]
  left
  rw [overlap, serial, hpost, post]

theorem absorbs_of_write_right (h : u.write b = none) : t.Absorbs u b := by
  have hpost : u.post b = b := by rw [post, h, Option.getD_none]
  right
  rw [overlap, serial, hpost, h, Option.getD_none, Set.union_comm]

/-- The overlap of two transactions that write: the first is lost, or the last
    leaves nothing to do for it. -/
theorem absorbs_iff {x y : β} (ht : t.write b = some x) (hu : u.write b = some y) :
    t.Absorbs u b ↔
      (u.post x = y ∧ t.msgs b ∪ u.msgs x = t.msgs b ∪ u.msgs b) ∨
        (t.post y = y ∧ u.msgs b ∪ t.msgs y = t.msgs b ∪ u.msgs b) := by
  have htpost : t.post b = x := by rw [post, ht, Option.getD_some]
  have hupost : u.post b = y := by rw [post, hu, Option.getD_some]
  rw [Absorbs, overlap, serial, serial, htpost, hupost, hu, Option.getD_some, Prod.mk.injEq,
    Prod.mk.injEq, eq_comm (a := y), eq_comm (a := y), eq_comm (a := t.msgs b ∪ u.msgs b),
    eq_comm (a := t.msgs b ∪ u.msgs b)]

end Transaction

/-! ## Programs that are transactions -/

section

variable {σ β μ : Type*} (R : σ → β → Set μ → Prop)

/-- The rest of a program after it has read the cell: it sends the messages `M` and
    writes `w` at its end. `R s b L` says that in the state `s` the cell holds `b`
    and the messages `L` have been sent. -/
inductive Tail : Prog σ → Option β → Set μ → Prop
  | done : Tail .done none ∅
  | quiet {f : σ → σ} {k : σ → Prog σ} {w : Option β} {A B : Set μ} :
      (∀ s b L, R s b L → R (f s) b (L ∪ A)) → (∀ s, Tail (k s) w B) →
      Tail (.act f k) w (A ∪ B)
  | write {f : σ → σ} {v : β} :
      (∀ s b L, R s b L → R (f s) v L) → Tail (.act f fun _ => .done) (some v) ∅

/-- A program reads the cell first, and then does what the transaction says. -/
def Refines (p : Prog σ) (t : Transaction β μ) : Prop :=
  ∃ k, p = .act id k ∧ ∀ s b L, R s b L → Tail R (k s) (t.write b) (t.msgs b)

variable {R} {p q : Prog σ} {t u : Transaction β μ} {w v : Option β} {M N L : Set μ} {s s' : σ}
  {b : β}

theorem Tail.run (h : Tail R p w M) (hs : R s b L) : R (p.run s) (w.getD b) (L ∪ M) := by
  induction h generalizing s L with
  | done =>
    rw [Set.union_empty]
    exact hs
  | quiet hf _ ih =>
    rw [← Set.union_assoc]
    exact ih s (hf _ _ _ hs)
  | write hf =>
    rw [Set.union_empty]
    exact hf _ _ _ hs

theorem Refines.run (h : Refines R p t) (hs : R s b L) :
    R (p.run s) (t.post b) (L ∪ t.msgs b) := by
  obtain ⟨k, rfl, hk⟩ := h
  exact (hk s b L hs).run hs

/-- Both have read the cell: the later write stands at the end. -/
theorem Tail.interleaves (hp : Tail R p w M) (hq : Tail R q v N) (hs : R s b L)
    (h : p.Interleaves q s s') :
    R s' (v.getD (w.getD b)) (L ∪ (M ∪ N)) ∨ R s' (w.getD (v.getD b)) (L ∪ (M ∪ N)) := by
  induction h generalizing w M v N L b with
  | done =>
    cases hp
    cases hq
    left
    rw [Set.union_empty, Set.union_empty]
    exact hs
  | left _ ih =>
    cases hp with
    | quiet hf hk =>
      rw [Set.union_assoc, ← Set.union_assoc L]
      exact ih (hk _) hq (hf _ _ _ hs)
    | write hf => exact .inl ((or_self_iff).1 (ih .done hq (hf _ _ _ hs)))
  | right _ ih =>
    cases hq with
    | quiet hf hk =>
      rw [Set.union_left_comm M, ← Set.union_assoc L]
      exact ih hp (hk _) (hf _ _ _ hs)
    | write hf => exact .inr ((or_self_iff).1 (ih hp .done (hf _ _ _ hs)))

/-- One has read the cell, the other has not: it reads it before the write of the
    first, or after. -/
theorem Tail.interleaves_refines (hp : Tail R p w M) (hq : Refines R q u) (hs : R s b L)
    (h : p.Interleaves q s s') :
    R s' ((u.write b).getD (w.getD b)) (L ∪ (M ∪ u.msgs b)) ∨
      R s' (w.getD (u.post b)) (L ∪ (M ∪ u.msgs b)) ∨
      R s' (u.post (w.getD b)) (L ∪ (M ∪ u.msgs (w.getD b))) := by
  -- Until `q` reads, the actions of `p` leave the cell alone; its write ends it.
  induction p generalizing M L s with
  | done =>
    cases hp
    rw [h.eq_run, Set.empty_union]
    exact .inl (hq.run hs)
  | act f k ih =>
    obtain ⟨kq, rfl, hkq⟩ := hq
    cases h with
    | left h =>
      cases hp with
      | quiet hf hk =>
        rw [Set.union_assoc, Set.union_assoc, ← Set.union_assoc L, ← Set.union_assoc L]
        exact ih s (hk s) (hf _ _ _ hs) h
      | write hf =>
        rw [h.eq_run]
        rw [Set.empty_union, Set.empty_union]
        exact .inr (.inr (Refines.run ⟨kq, rfl, hkq⟩ (hf _ _ _ hs)))
    | right h =>
      rcases Tail.interleaves hp (hkq s b L hs) hs h with h | h
      · exact .inl h
      · exact .inr (.inl h)

/-- An interleaving of two transactions ends as an overlap, or as one of the serial
    orders. -/
theorem Refines.interleaves_cases (hp : Refines R p t) (hq : Refines R q u) (hs : R s b L)
    (h : p.Interleaves q s s') :
    ∃ e, R s' e.1 (L ∪ e.2) ∧
      (e = t.overlap u b ∨ e = u.overlap t b ∨ e = t.serial u b ∨ e = u.serial t b) := by
  obtain ⟨k, rfl, hk⟩ := id hp
  obtain ⟨k', rfl, hk'⟩ := id hq
  cases h with
  | left h =>
    rcases (hk s b L hs).interleaves_refines hq hs h with h | h | h
    · exact ⟨_, h, .inl rfl⟩
    · rw [Set.union_comm (t.msgs b)] at h
      exact ⟨_, h, .inr (.inl rfl)⟩
    · exact ⟨_, h, .inr (.inr (.inl rfl))⟩
  | right h =>
    rcases (hk' s b L hs).interleaves_refines hp hs h.symm with h | h | h
    · exact ⟨_, h, .inr (.inl rfl)⟩
    · rw [Set.union_comm (u.msgs b)] at h
      exact ⟨_, h, .inl rfl⟩
    · exact ⟨_, h, .inr (.inr (.inr rfl))⟩

/-- Two transactions can overlap. -/
theorem Refines.exists_overlap (hp : Refines R p t) (hq : Refines R q u) (hs : R s b L) :
    ∃ s', p.Interleaves q s s' ∧ R s' (t.overlap u b).1 (L ∪ (t.overlap u b).2) := by
  obtain ⟨k, rfl, hk⟩ := hp
  obtain ⟨k', rfl, hk'⟩ := hq
  refine ⟨_, .left (.right (Prog.interleaves_run (k s) (k' s) s)), ?_⟩
  have hrun := (hk' s b L hs).run ((hk s b L hs).run hs)
  rw [Set.union_assoc] at hrun
  exact hrun

/-- Every interleaving of two transactions is as one of their serial orders iff
    both overlaps are, when what is seen of a state is seen of it alone. -/
theorem serialisable_iff (hR : ∀ s b b' L L', R s b L → R s b' L' → b = b' ∧ L = L')
    (hp : Refines R p t) (hq : Refines R q u) (hs : R s b ∅) :
    (∀ s', p.Interleaves q s s' → ∃ e, R s' e.1 e.2 ∧ (e = t.serial u b ∨ e = u.serial t b)) ↔
      t.Absorbs u b ∧ u.Absorbs t b := by
  constructor
  · intro h
    have absorbed : ∀ e : β × Set μ, (∃ s', p.Interleaves q s s' ∧ R s' e.1 (∅ ∪ e.2)) →
        e = t.serial u b ∨ e = u.serial t b := by
      rintro e ⟨s', hi, he⟩
      obtain ⟨e', he', hor⟩ := h s' hi
      rw [Set.empty_union] at he
      obtain ⟨h₁, h₂⟩ := hR _ _ _ _ _ he he'
      rwa [Prod.ext h₁ h₂]
    refine ⟨absorbed _ (hp.exists_overlap hq hs), (absorbed _ ?_).symm⟩
    obtain ⟨s', hi, he⟩ := hq.exists_overlap hp hs
    exact ⟨s', hi.symm, he⟩
  · rintro ⟨htu, hut⟩ s' hi
    obtain ⟨e, he, hor⟩ := hp.interleaves_cases hq hs hi
    rw [Set.empty_union] at he
    refine ⟨e, he, ?_⟩
    rcases hor with rfl | rfl | h | h
    · exact htu
    · exact hut.symm
    · exact .inl h
    · exact .inr h

end

end PhineAf

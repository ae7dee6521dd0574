import PhineAf.Lib.Table

/-!
# Keyed stores with a secondary index

A store of states under primary keys, with one secondary index from
identifiers to the primary key of a state carrying them. The same identifier
may be carried by several states; the index then points to one of them.

* `link`, `unlink`, `unlinkOwned`: the three ways entries are written, with
  what a lookup finds afterwards;
* `Indexed.Coherent`: every state is filed under its own key, every entry points
  to a carrier, and an identifier with a single carrier is indexed to it;
* `Indexed.Tight`: the inductive form of the latter two, in which *every* carried
  identifier is indexed. An entry can end in one of three ways, none of which
  breaks it: pointing to a carrier, kept, or gone together with the last
  carrier (`Tight.change`).
-/

namespace PhineAf

variable {κ σ ι : Type*} [DecidableEq κ] [DecidableEq ι]

/-! ## Index entries -/

/-- The identifiers `xs` are pointed to `k`. -/
def link (k : κ) (xs : List ι) (t : Table ι κ) : Table ι κ :=
  xs.foldl (fun t x => t.insert x k) t

/-- The entries of the identifiers `xs` are erased, whoever they point to. -/
def unlink (xs : List ι) (t : Table ι κ) : Table ι κ :=
  xs.foldl (fun t x => t.erase x) t

/-- The entries of the identifiers `xs` that point to `k` are erased. -/
def unlinkOwned (k : κ) (xs : List ι) (t : Table ι κ) : Table ι κ :=
  xs.foldl (fun t x => if t.lookup x = some k then t.erase x else t) t

omit [DecidableEq κ] in
theorem lookup_link (k : κ) (xs : List ι) (t : Table ι κ) (x : ι) :
    (link k xs t).lookup x = if x ∈ xs then some k else t.lookup x := by
  rw [link]
  induction xs generalizing t with
  | nil => simp
  | cons y ys ih =>
    rw [List.foldl_cons, ih, Table.lookup_insert_eq]
    by_cases h : x ∈ ys <;> by_cases h' : x = y <;> simp [h, h']

omit [DecidableEq κ] in
theorem lookup_unlink (xs : List ι) (t : Table ι κ) (x : ι) :
    (unlink xs t).lookup x = if x ∈ xs then none else t.lookup x :=
  Table.lookup_foldl_erase t xs x

theorem lookup_unlinkOwned (k : κ) (xs : List ι) (t : Table ι κ) (x : ι) :
    (unlinkOwned k xs t).lookup x =
      if x ∈ xs ∧ t.lookup x = some k then none else t.lookup x := by
  rw [unlinkOwned]
  induction xs generalizing t with
  | nil => simp
  | cons y ys ih =>
    rw [List.foldl_cons, ih]
    by_cases hy : t.lookup y = some k
    · rw [if_pos hy, Table.lookup_erase_eq]
      by_cases h : x = y
      · subst h
        simp [hy]
      · simp [h]
    · rw [if_neg hy]
      by_cases h : x = y
      · subst h
        simp [hy]
      · simp [h]

/-- The entries pointing elsewhere stay. -/
theorem lookup_unlinkOwned_of_ne {k k' : κ} {t : Table ι κ} {x : ι} (xs : List ι)
    (h : t.lookup x = some k') (hne : k' ≠ k) : (unlinkOwned k xs t).lookup x = some k' := by
  rw [lookup_unlinkOwned, if_neg, h]
  rintro ⟨-, hk⟩
  rw [h, Option.some.injEq] at hk
  exact hne hk

/-! An entry found after a change was written by it, or was there before. -/

omit [DecidableEq κ] in
theorem mem_of_lookup_link {k k' : κ} {xs : List ι} {t : Table ι κ} {x : ι}
    (h : (link k xs t).lookup x = some k') : (k' = k ∧ x ∈ xs) ∨ t.lookup x = some k' := by
  rw [lookup_link] at h
  split_ifs at h with hx
  · exact .inl ⟨(Option.some.inj h).symm, hx⟩
  · exact .inr h

omit [DecidableEq κ] in
theorem lookup_of_unlink {k : κ} {xs : List ι} {t : Table ι κ} {x : ι}
    (h : (unlink xs t).lookup x = some k) : t.lookup x = some k := by
  rw [lookup_unlink] at h
  split_ifs at h
  exact h

theorem lookup_of_unlinkOwned {k k' : κ} {xs : List ι} {t : Table ι κ} {x : ι}
    (h : (unlinkOwned k xs t).lookup x = some k') : t.lookup x = some k' := by
  rw [lookup_unlinkOwned] at h
  split_ifs at h
  exact h

/-! ## Coherence -/

/-- A store: the states under their primary keys, and the index. -/
structure Indexed (κ σ ι : Type*) where
  /-- The primary storage. -/
  states : Table κ σ
  /-- The secondary index, to primary keys. -/
  index : Table ι κ

namespace Indexed

variable (ids : σ → List ι) (key : σ → κ)

/-- The empty store. -/
def empty : Indexed κ σ ι := ⟨∅, ∅⟩

/-- The state stored under `k` carries the identifier `x`. -/
def Carries (s : Indexed κ σ ι) (k : κ) (x : ι) : Prop :=
  ∃ st, s.states.lookup k = some st ∧ x ∈ ids st

/-- Every state is stored under its own key. -/
def Filed (s : Indexed κ σ ι) : Prop :=
  ∀ k st, s.states.lookup k = some st → key st = k

/-- The store and its index agree. -/
structure Coherent (s : Indexed κ σ ι) : Prop where
  filed : s.Filed key
  sound : ∀ x k, s.index.lookup x = some k → s.Carries ids k x
  complete : ∀ x k, s.Carries ids k x → (∀ k', s.Carries ids k' x → k' = k) →
    s.index.lookup x = some k

/-- Every entry points to a carrier, and every carried identifier has an entry. -/
structure Tight (s : Indexed κ σ ι) : Prop where
  sound : ∀ x k, s.index.lookup x = some k → s.Carries ids k x
  total : ∀ x k, s.Carries ids k x → s.index.lookup x ≠ none

variable {ids key}

theorem Tight.coherent {s : Indexed κ σ ι} (h : s.Tight ids) (hf : s.Filed key) :
    s.Coherent ids key where
  filed := hf
  sound := h.sound
  complete x k hx hsole := by
    obtain ⟨k', hk'⟩ := Option.ne_none_iff_exists'.1 (h.total x k hx)
    rw [hk', hsole k' (h.sound x k' hk')]

theorem tight_empty : (empty : Indexed κ σ ι).Tight ids where
  sound _ _ h := by simp [empty] at h
  total _ _ h := by simp [Carries, empty] at h

omit [DecidableEq ι] in
theorem filed_empty : (empty : Indexed κ σ ι).Filed key := fun _ _ h => by simp [empty] at h

omit [DecidableEq ι] in
/-- What a key carries only depends on the state stored under it. -/
theorem carries_congr {s s' : Indexed κ σ ι} {k : κ}
    (h : s'.states.lookup k = s.states.lookup k) (x : ι) :
    s'.Carries ids k x ↔ s.Carries ids k x := by
  rw [Carries, Carries, h]

/-- A change of the states under the keys `K` keeps the store tight when every
    entry ends pointing to a carrier, or is kept while it is right for the keys
    `K`, or is gone and nobody carries the identifier any more. -/
theorem Tight.change {s s' : Indexed κ σ ι} (h : s.Tight ids) (K : κ → Prop)
    (hoff : ∀ k, ¬K k → s'.states.lookup k = s.states.lookup k)
    (hidx : ∀ x, (∃ k, s'.index.lookup x = some k ∧ s'.Carries ids k x) ∨
      (s'.index.lookup x = s.index.lookup x ∧
        (∀ k, K k → s.index.lookup x = some k → s'.Carries ids k x) ∧
        (s.index.lookup x = none → ∀ k, K k → ¬s'.Carries ids k x)) ∨
      (s'.index.lookup x = none ∧ ∀ k, ¬s'.Carries ids k x)) :
    s'.Tight ids where
  sound x k hx := by
    rcases hidx x with ⟨k', hk', hc⟩ | ⟨hkeep, hsound, -⟩ | ⟨hnone, -⟩
    · rw [hk', Option.some.injEq] at hx
      exact hx ▸ hc
    · -- Off `K` the entry points to the state it pointed to.
      rw [hkeep] at hx
      by_cases hK : K k
      · exact hsound k hK hx
      · exact (carries_congr (hoff k hK) x).2 (h.sound x k hx)
    · rw [hnone] at hx
      cases hx
  total x k hc hx := by
    rcases hidx x with ⟨k', hk', -⟩ | ⟨hkeep, -, hfree⟩ | ⟨-, hgone⟩
    · rw [hk'] at hx
      cases hx
    · rw [hkeep] at hx
      by_cases hK : K k
      · exact hfree hx k hK hc
      · exact h.total x k ((carries_congr (hoff k hK) x).1 hc) hx
    · exact hgone k hc

/-! ## Changes that keep a store tight -/

section Changes

variable {s : Indexed κ σ ι} {k : κ} {st st' : σ}

omit [DecidableEq ι] in
theorem carries_iff_of_lookup (h : s.states.lookup k = some st) (x : ι) :
    s.Carries ids k x ↔ x ∈ ids st := by
  simp [Carries, h]

omit [DecidableEq ι] in
theorem not_carries_of_lookup_eq_none (h : s.states.lookup k = none) (x : ι) :
    ¬s.Carries ids k x := by
  simp [Carries, h]

omit [DecidableEq ι] in
theorem carries_insert {t : Table ι κ} {k' : κ} {x : ι} :
    (Indexed.mk (s.states.insert k st') t).Carries ids k' x ↔
      if k' = k then x ∈ ids st' else s.Carries ids k' x := by
  simp only [Carries, Table.lookup_insert_eq]
  split_ifs <;> simp

/-- A state replaced by one with the same identifiers keeps the index right. -/
theorem Tight.replace (h : s.Tight ids) (hl : s.states.lookup k = some st)
    (hids : ∀ x, x ∈ ids st' ↔ x ∈ ids st) :
    (Indexed.mk (s.states.insert k st') s.index).Tight ids := by
  have hc : ∀ k' x, (Indexed.mk (s.states.insert k st') s.index).Carries ids k' x ↔
      s.Carries ids k' x := by
    intro k' x
    rw [carries_insert]
    split_ifs with hk
    · rw [hk, hids, carries_iff_of_lookup hl]
    · rfl
  exact ⟨fun x k' hx => (hc k' x).2 (h.sound x k' hx), fun x k' hx => h.total x k' ((hc k' x).1 hx)⟩

/-- A state replaced, with the entries `old` erased and then `new` linked: what
    is erased for good must have no other carrier. -/
theorem Tight.relink (h : s.Tight ids) (new old : List ι) (hnew : ∀ x ∈ new, x ∈ ids st')
    (hkeep : ∀ x, x ∉ new → x ∉ old → (x ∈ ids st' ↔ s.Carries ids k x))
    (hdrop : ∀ x ∈ old, x ∉ new → x ∉ ids st' ∧ ∀ k', k' ≠ k → ¬s.Carries ids k' x) :
    (Indexed.mk (s.states.insert k st') (link k new (unlink old s.index))).Tight ids := by
  refine h.change (· = k) (fun k' hk' => ?_) fun x => ?_
  · rw [Table.lookup_insert_eq, if_neg hk']
  simp only [lookup_link, lookup_unlink, carries_insert]
  by_cases hn : x ∈ new
  · exact .inl ⟨k, by simp [hn], by simpa using hnew x hn⟩
  by_cases ho : x ∈ old
  · -- Erased and not linked again: neither `k` nor another carries it.
    obtain ⟨hst', hother⟩ := hdrop x ho hn
    refine .inr (.inr ⟨by simp [hn, ho], fun k' => ?_⟩)
    split_ifs with hk
    · exact hst'
    · exact hother k' hk
  · refine .inr (.inl ⟨by simp [hn, ho], fun k' hk' hx => ?_, fun hx k' hk' => ?_⟩)
    · rw [if_pos hk', hkeep x hn ho]
      exact hk' ▸ h.sound x k' hx
    · rw [if_pos hk', hkeep x hn ho]
      exact fun hc => h.total x k hc hx

/-- The same when only the entries of `old` that point to `k` are erased: those
    for good must have no other carrier. -/
theorem Tight.relinkOwned (h : s.Tight ids) (new old : List ι) (hnew : ∀ x ∈ new, x ∈ ids st')
    (hold : ∀ x ∈ old, s.Carries ids k x)
    (hkeep : ∀ x, x ∉ new → x ∉ old → (x ∈ ids st' ↔ s.Carries ids k x))
    (hdrop : ∀ x ∈ old, x ∉ new → s.index.lookup x = some k →
      x ∉ ids st' ∧ ∀ k', k' ≠ k → ¬s.Carries ids k' x) :
    (Indexed.mk (s.states.insert k st') (link k new (unlinkOwned k old s.index))).Tight ids := by
  refine h.change (· = k) (fun k' hk' => ?_) fun x => ?_
  · rw [Table.lookup_insert_eq, if_neg hk']
  simp only [lookup_link, lookup_unlinkOwned, carries_insert]
  by_cases hn : x ∈ new
  · exact .inl ⟨k, by simp [hn], by simpa using hnew x hn⟩
  by_cases ho : x ∈ old
  · by_cases hx : s.index.lookup x = some k
    · obtain ⟨hst', hother⟩ := hdrop x ho hn hx
      refine .inr (.inr ⟨by simp [hn, ho, hx], fun k' => ?_⟩)
      split_ifs with hk
      · exact hst'
      · exact hother k' hk
    · -- The entry points to another carrier, and stays with it.
      refine .inr (.inl ⟨by simp [hn, hx], fun k' hk' hx' => ?_, fun hx' => ?_⟩)
      · exact absurd (hk' ▸ hx') hx
      · exact absurd hx' (h.total x k (hold x ho))
  · refine .inr (.inl ⟨by simp [hn, ho], fun k' hk' hx => ?_, fun hx k' hk' => ?_⟩)
    · rw [if_pos hk', hkeep x hn ho]
      exact hk' ▸ h.sound x k' hx
    · rw [if_pos hk', hkeep x hn ho]
      exact fun hc => h.total x k hc hx

/-- A state moved to a free key, with all its identifiers. -/
theorem Tight.move (h : s.Tight ids) {k' : κ} (hk : s.states.lookup k = some st)
    (hk' : s.states.lookup k' = none) (hids : ∀ x ∈ ids st, x ∈ ids st') :
    (Indexed.mk ((s.states.erase k).insert k' st')
      (link k' (ids st') (unlink (ids st) s.index))).Tight ids := by
  have hne : k ≠ k' := by
    rintro rfl
    rw [hk] at hk'
    cases hk'
  refine h.change (fun l => l = k ∨ l = k') (fun l hl => ?_) fun x => ?_
  · rw [not_or] at hl
    rw [Table.lookup_insert_eq, if_neg hl.2, Table.lookup_erase_eq, if_neg hl.1]
  rw [lookup_link, lookup_unlink]
  by_cases hx : x ∈ ids st'
  · exact .inl ⟨k', by simp [hx], st', AList.lookup_insert _, hx⟩
  -- An identifier that is not linked was not one of the state: its entry stays, and
  -- points to neither key.
  have hx₀ : x ∉ ids st := fun h₀ => hx (hids x h₀)
  refine .inr (.inl ⟨by simp [hx, hx₀], ?_, ?_⟩)
  · rintro l (rfl | rfl) hl
    · exact absurd ((carries_iff_of_lookup hk x).1 (h.sound x _ hl)) hx₀
    · exact absurd (h.sound x _ hl) (not_carries_of_lookup_eq_none hk' x)
  · rintro - l (rfl | rfl) ⟨st₁, h₁, hx₁⟩
    · rw [Table.lookup_insert_eq, if_neg hne, AList.lookup_erase] at h₁
      cases h₁
    · rw [AList.lookup_insert, Option.some.injEq] at h₁
      exact hx (h₁ ▸ hx₁)

/-- A state absorbed by another: what it alone brought and is not taken over
    must have no third carrier. -/
theorem Tight.absorb (h : s.Tight ids) {k' : κ} {other : σ} (hne : k ≠ k')
    (hk : s.states.lookup k = some st) (hk' : s.states.lookup k' = some other)
    (hids : ∀ x ∈ ids st, x ∈ ids st')
    (hdrop : ∀ x ∈ ids other, x ∉ ids st' → ∀ l, l ≠ k → l ≠ k' → ¬s.Carries ids l x) :
    (Indexed.mk ((s.states.insert k st').erase k')
      (link k (ids st') (unlink (ids other) (unlink (ids st) s.index)))).Tight ids := by
  refine h.change (fun l => l = k ∨ l = k') (fun l hl => ?_) fun x => ?_
  · rw [not_or] at hl
    rw [Table.lookup_erase_eq, if_neg hl.2, Table.lookup_insert_eq, if_neg hl.1]
  have hc : ∀ l, (Indexed.mk ((s.states.insert k st').erase k')
      (link k (ids st') (unlink (ids other) (unlink (ids st) s.index)))).Carries ids l x ↔
      l ≠ k' ∧ if l = k then x ∈ ids st' else s.Carries ids l x := by
    intro l
    simp only [Carries, Table.lookup_erase_eq, Table.lookup_insert_eq]
    split_ifs with h₁ h₂ <;> simp [*]
  simp only [hc, lookup_link, lookup_unlink]
  by_cases hx : x ∈ ids st'
  · exact .inl ⟨k, by simp [hx], hne, by simp [hx]⟩
  have hx₀ : x ∉ ids st := fun h₀ => hx (hids x h₀)
  by_cases ho : x ∈ ids other
  · -- Brought by the absorbed state alone, and lost with it.
    refine .inr (.inr ⟨by simp [hx, ho], fun l ⟨hl', hl⟩ => ?_⟩)
    split_ifs at hl with hlk
    · exact hx hl
    · exact hdrop x ho hx l hlk hl' hl
  · refine .inr (.inl ⟨by simp [hx, hx₀, ho], ?_, ?_⟩)
    · rintro l (rfl | rfl) hl
      · exact absurd ((carries_iff_of_lookup hk x).1 (h.sound x _ hl)) hx₀
      · exact absurd ((carries_iff_of_lookup hk' x).1 (h.sound x _ hl)) ho
    · rintro - l (rfl | rfl) ⟨hl', hl⟩
      · rw [if_pos rfl] at hl
        exact hx hl
      · exact hl' rfl

/-- The states under the keys `K` gone, with the entries of their identifiers:
    no other state may carry one of these. -/
theorem Tight.evict {s' : Indexed κ σ ι} (h : s.Tight ids) (K : κ → Prop)
    (hstates : ∀ l, K l → s'.states.lookup l = none)
    (hoff : ∀ l, ¬K l → s'.states.lookup l = s.states.lookup l)
    (hgone : ∀ x, (∃ l, K l ∧ s.Carries ids l x) → s'.index.lookup x = none)
    (hkeep : ∀ x, (¬∃ l, K l ∧ s.Carries ids l x) → s'.index.lookup x = s.index.lookup x)
    (hdrop : ∀ x l, K l → s.Carries ids l x → ∀ l', s.Carries ids l' x → K l') :
    s'.Tight ids := by
  refine h.change K hoff fun x => ?_
  by_cases hx : ∃ l, K l ∧ s.Carries ids l x
  · obtain ⟨l, hl, hc⟩ := id hx
    -- All carriers are gone.
    refine .inr (.inr ⟨hgone x hx, fun l' hl' => ?_⟩)
    by_cases hK : K l'
    · exact not_carries_of_lookup_eq_none (hstates l' hK) x hl'
    · exact hK (hdrop x l hl hc l' ((carries_congr (hoff l' hK) x).1 hl'))
  · refine .inr (.inl ⟨hkeep x hx, fun l hl hi => ?_, fun _ l hl => ?_⟩)
    · exact absurd ⟨l, hl, h.sound x l hi⟩ hx
    · exact not_carries_of_lookup_eq_none (hstates l hl) x

omit [DecidableEq ι] in
theorem Filed.insert {t : Table ι κ} (h : s.Filed key) (hst' : key st' = k) :
    (Indexed.mk (s.states.insert k st') t).Filed key := by
  intro l st₁ hl
  rw [Table.lookup_insert_eq] at hl
  split_ifs at hl with hlk
  · rw [Option.some.injEq] at hl
    rw [← hl, hst', hlk]
  · exact h l st₁ hl

omit [DecidableEq ι] in
theorem Filed.erase {t : Table ι κ} (h : s.Filed key) :
    (Indexed.mk (s.states.erase k) t).Filed key := by
  intro l st₁ hl
  rw [Table.lookup_erase_eq] at hl
  split_ifs at hl
  exact h l st₁ hl

end Changes

end Indexed

end PhineAf

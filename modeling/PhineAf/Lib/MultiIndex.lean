import PhineAf.Lib.Table

/-!
# Set-valued indices

An index from keys to sets of ids, as a table whose values are lists without
repetitions. An id is filed under a key by putting it into the key's set, and
unfiled by taking it out; a set that gets empty goes, so that no key leads to an
empty set (`Tidy`). What the index holds afterwards is read off `holds_file` and
`holds_unfile`.
-/

namespace PhineAf

/-- An index from `κ` to sets of `ι`. -/
abbrev MultiIndex (κ ι : Type*) := Table κ (List ι)

namespace MultiIndex

variable {κ ι : Type*} [DecidableEq κ]

/-- The id is in the set of the key. -/
def Holds (t : MultiIndex κ ι) (k : κ) (i : ι) : Prop := ∃ ids, t.lookup k = some ids ∧ i ∈ ids

/-- The values are sets, and none of them is empty. -/
structure Tidy (t : MultiIndex κ ι) : Prop where
  nodup : ∀ k ids, t.lookup k = some ids → ids.Nodup
  ne_nil : ∀ k ids, t.lookup k = some ids → ids ≠ []

variable {t : MultiIndex κ ι} {k k' : κ} {i i' : ι}

theorem mem_getD_lookup : i ∈ (t.lookup k).getD [] ↔ t.Holds k i := by
  rw [Holds]
  cases t.lookup k <;> simp

theorem not_holds_empty : ¬Holds (∅ : MultiIndex κ ι) k i := by
  rintro ⟨ids, h, -⟩
  cases h

theorem tidy_empty : Tidy (∅ : MultiIndex κ ι) where
  nodup _ _ h := by cases h
  ne_nil _ _ h := by cases h

variable [DecidableEq ι]

/-- The id is put into the set of the key. -/
def file (t : MultiIndex κ ι) (k : κ) (i : ι) : MultiIndex κ ι :=
  t.insert k (((t.lookup k).getD []).insert i)

/-- The id is taken out of the set of the key; an empty set goes. -/
def unfile (t : MultiIndex κ ι) (k : κ) (i : ι) : MultiIndex κ ι :=
  match t.lookup k with
  | some ids => if (ids.erase i).isEmpty then t.erase k else t.insert k (ids.erase i)
  | none => t

theorem holds_file : (t.file k i).Holds k' i' ↔ (k' = k ∧ i' = i) ∨ t.Holds k' i' := by
  rw [Holds, file, Table.lookup_insert_eq]
  by_cases hk : k' = k
  · subst hk
    simp only [if_true, Option.some.injEq, exists_eq_left', List.mem_insert_iff, true_and,
      mem_getD_lookup]
  · rw [if_neg hk]
    simp [hk, Holds]

theorem Tidy.file (h : t.Tidy) (k : κ) (i : ι) : (t.file k i).Tidy := by
  have hlookup (x : κ) := Table.lookup_insert_eq t k x (((t.lookup k).getD []).insert i)
  refine ⟨?_, ?_⟩ <;> intro x ids hx <;> rw [MultiIndex.file, hlookup] at hx <;> split_ifs at hx
  · rw [← Option.some.inj hx]
    refine List.Nodup.insert ?_
    cases hk : t.lookup k with
    | none => exact List.nodup_nil
    | some ids => exact h.nodup k ids hk
  · exact h.nodup x ids hx
  · rw [← Option.some.inj hx]
    exact List.ne_nil_of_mem (List.mem_insert_self)
  · exact h.ne_nil x ids hx

theorem lookup_unfile (t : MultiIndex κ ι) (k : κ) (i : ι) (x : κ) :
    (t.unfile k i).lookup x =
      if x = k then ((t.lookup x).map (·.erase i)).filter (!·.isEmpty) else t.lookup x := by
  rw [unfile]
  split
  next ids hids =>
    split_ifs with hempty hx hx
    · rw [Table.lookup_erase_eq, if_pos hx, hx, hids, Option.map_some, Option.filter_some, if_neg]
      rw [hempty]
      exact Bool.false_ne_true
    · rw [Table.lookup_erase_eq, if_neg hx]
    · rw [Table.lookup_insert_eq, if_pos hx, hx, hids, Option.map_some, Option.filter_some, if_pos]
      rw [Bool.eq_false_iff.2 hempty]
      rfl
    · rw [Table.lookup_insert_eq, if_neg hx]
  next hnone =>
    split_ifs with hx
    · rw [hx, hnone]
      rfl
    · rfl

theorem holds_unfile (h : t.Tidy) :
    (t.unfile k i).Holds k' i' ↔ t.Holds k' i' ∧ ¬(k' = k ∧ i' = i) := by
  rw [Holds, lookup_unfile]
  split_ifs with hk
  · subst hk
    rw [Holds]
    cases hids : t.lookup k' with
    | none => simp
    | some ids =>
      simp only [Option.map_some, Option.filter_eq_some_iff, Option.some.injEq]
      constructor
      · rintro ⟨-, ⟨rfl, -⟩, hi⟩
        rw [(h.nodup k' ids hids).mem_erase_iff] at hi
        exact ⟨⟨ids, rfl, hi.2⟩, fun h => hi.1 h.2⟩
      · rintro ⟨⟨ids', rfl, hi⟩, hne⟩
        have hmem := (h.nodup k' ids hids).mem_erase_iff.2 ⟨fun h => hne ⟨trivial, h⟩, hi⟩
        exact ⟨_, ⟨rfl, by simpa using List.ne_nil_of_mem hmem⟩, hmem⟩
  · simp [hk, Holds]

theorem Tidy.unfile (h : t.Tidy) (k : κ) (i : ι) : (t.unfile k i).Tidy := by
  refine ⟨?_, ?_⟩ <;> intro x ids hx <;> rw [lookup_unfile] at hx <;> split_ifs at hx
  · obtain ⟨hx, -⟩ := Option.filter_eq_some_iff.1 hx
    obtain ⟨ids', hids', rfl⟩ := Option.map_eq_some_iff.1 hx
    exact (h.nodup x ids' hids').erase i
  · exact h.nodup x ids hx
  · obtain ⟨-, hne⟩ := Option.filter_eq_some_iff.1 hx
    simpa using hne
  · exact h.ne_nil x ids hx

end MultiIndex

end PhineAf

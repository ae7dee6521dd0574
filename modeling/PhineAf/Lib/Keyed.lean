import PhineAf.Lib.Table

/-!
# Vectors of keyed records

A vector whose records have a key each. Nothing keeps the keys apart, so several records
may share one. Two ways to bring in a record: it takes the place of the first one with
its key (`upsert`), or it is left out if there is one (`adjoin`). What a vector has
afterwards is said key by key (`atKey_foldl_upsert`, `atKey_adjoin`); keys that are distinct
stay so (`nodup_upsert`, `nodup_adjoin`).
-/

namespace PhineAf.List

variable {α κ : Type*} [DecidableEq κ] (key : α → κ)

/-- The records with a key. -/
def atKey (k : κ) (l : List α) : List α := l.filter (key · == k)

/-- A record takes the place of the first one with its key, or is appended. -/
def upsert (a : α) (l : List α) : List α :=
  (replaceFirst? (key · == key a) (fun _ => a) l).getD (l ++ [a])

/-- The records of another vector are appended, unless their keys are there. -/
def adjoin (l as : List α) : List α :=
  as.foldl (fun l a => if l.any (key · == key a) then l else l ++ [a]) l

variable {key} {a b : α} {k : κ} {l as : List α}

@[simp]
theorem atKey_nil : atKey key k [] = [] := rfl

theorem atKey_cons :
    atKey key k (a :: l) = if key a = k then a :: atKey key k l else atKey key k l := by
  rw [atKey, List.filter_cons]
  split_ifs with h h' h' <;> simp_all [atKey]

theorem atKey_append : atKey key k (l ++ as) = atKey key k l ++ atKey key k as :=
  List.filter_append ..

theorem mem_atKey : a ∈ atKey key k l ↔ a ∈ l ∧ key a = k := by
  rw [atKey, List.mem_filter, beq_iff_eq]

theorem atKey_ne_nil_iff : atKey key k l ≠ [] ↔ ∃ a ∈ l, key a = k := by
  rw [← List.length_pos_iff, List.length_pos_iff_exists_mem]
  exact exists_congr fun a => mem_atKey

theorem head?_atKey : (atKey key k l).head? = l.find? (key · == k) := List.head?_filter

/-! ## Replacing -/

theorem upsert_cons :
    upsert key a (b :: l) = if key b = key a then a :: l else b :: upsert key a l := by
  rw [upsert, replaceFirst?]
  by_cases h : key b = key a
  · simp [h]
  · cases hr : replaceFirst? (key · == key a) (fun _ => a) l <;> simp [h, hr, upsert]

/-- A record stands for the first one with its key; the others stay. -/
theorem atKey_upsert : atKey key k (upsert key a l) =
    if key a = k then a :: (atKey key k l).tail else atKey key k l := by
  induction l with
  | nil => rw [upsert, replaceFirst?, Option.getD_none, List.nil_append, atKey_cons, atKey_nil]; rfl
  | cons b l ih =>
    rw [upsert_cons]
    by_cases hb : key b = key a
    · rw [if_pos hb, atKey_cons, atKey_cons, hb]
      split_ifs <;> rfl
    · rw [if_neg hb, atKey_cons, ih, atKey_cons]
      by_cases ha : key a = k
      · have hbk : key b ≠ k := fun h => hb (h.trans ha.symm)
        rw [if_neg hbk, if_neg hbk]
      · rw [if_neg ha, if_neg ha]

/-- Of a whole vector, the last record with a key stands for the first. -/
theorem atKey_foldl_upsert : atKey key k (as.foldl (fun l a => upsert key a l) l) =
    (atKey key k as).getLast?.elim (atKey key k l) fun a => a :: (atKey key k l).tail := by
  induction as generalizing l with
  | nil => rfl
  | cons b as ih =>
    rw [List.foldl_cons, ih, atKey_upsert, atKey_cons]
    split_ifs with h
    · cases hlast : (atKey key k as).getLast? with
      | none => rw [List.getLast?_eq_none_iff.1 hlast]; rfl
      | some c => rw [List.getLast?_cons, hlast]; rfl
    · rfl

/-! ## Appending -/

/-- A key keeps its records, or gets the first one of the other vector. -/
theorem atKey_adjoin : atKey key k (adjoin key l as) =
    if atKey key k l = [] then (atKey key k as).head?.toList else atKey key k l := by
  induction as generalizing l with
  | nil =>
    split_ifs with h
    · exact h
    · rfl
  | cons b as ih =>
    have hstep : adjoin key l (b :: as) =
        adjoin key (if l.any (key · == key b) then l else l ++ [b]) as := rfl
    have hany : l.any (key · == key b) = true ↔ atKey key (key b) l ≠ [] := by
      rw [atKey_ne_nil_iff, List.any_eq_true]
      simp only [beq_iff_eq]
    rw [hstep, ih, atKey_cons]
    by_cases hb : key b = k
    · subst hb
      by_cases hnil : atKey key (key b) l = []
      · have hnot : l.any (key · == key b) = false := by simpa [hnil] using hany
        rw [hnot, if_pos rfl, if_pos hnil]
        simp [atKey_append, hnil, atKey_cons]
      · rw [if_pos (hany.2 hnil), if_neg hnil, if_neg hnil]
    · rw [if_neg hb]
      split_ifs <;> simp_all [atKey_append, atKey_cons]

/-! ## Distinct keys -/

/-- A record in the place of another has its key; it adds one only without another. -/
theorem map_upsert : (upsert key a l).map key =
    if key a ∈ l.map key then l.map key else l.map key ++ [key a] := by
  induction l with
  | nil => rfl
  | cons b l ih =>
    rw [upsert_cons]
    by_cases hb : key b = key a
    · simp [hb]
    · rw [if_neg hb, List.map_cons, ih, List.map_cons]
      simp only [List.mem_cons, Ne.symm hb, false_or]
      split_ifs <;> rfl

theorem nodup_upsert (h : (l.map key).Nodup) : ((upsert key a l).map key).Nodup := by
  rw [map_upsert]
  split_ifs with ha
  · exact h
  · exact h.append (List.nodup_singleton _) (List.disjoint_singleton.2 ha)

theorem nodup_foldl_upsert (h : (l.map key).Nodup) :
    ((as.foldl (fun l a => upsert key a l) l).map key).Nodup := by
  induction as generalizing l with
  | nil => exact h
  | cons b as ih => exact ih (nodup_upsert h)

theorem nodup_adjoin (h : (l.map key).Nodup) : ((adjoin key l as).map key).Nodup := by
  induction as generalizing l with
  | nil => exact h
  | cons b as ih =>
    refine ih ?_
    dsimp only
    split_ifs with hb
    · exact h
    · rw [List.map_append]
      refine h.append (List.nodup_singleton _) (List.disjoint_singleton.2 fun hmem => hb ?_)
      obtain ⟨c, hc, hkey⟩ := List.mem_map.1 hmem
      exact List.any_eq_true.2 ⟨c, hc, beq_iff_eq.2 hkey⟩

end PhineAf.List

import Mathlib.Data.List.AList

/-!
# Finite tables

A finite map from keys to values of one type, as an association list without
repeated keys (`AList`). The lemmas read a table after an update pointwise, by
cases on the key, which is the form every proof about a store uses. What the values
of a table contain altogether (`Table.contents`) is compared by inclusion, and, where
it matters how often, by counting.
-/

namespace PhineAf

/-- A finite table from `κ` to `σ`. -/
abbrev Table (κ σ : Type*) := AList fun _ : κ => σ

namespace Table

variable {κ σ : Type*}

/-- The values of a table, in the order of its entries. -/
def values (t : Table κ σ) : List σ := t.entries.map Sigma.snd

variable [DecidableEq κ]

theorem lookup_insert_eq (t : Table κ σ) (k k' : κ) (v : σ) :
    (t.insert k v).lookup k' = if k' = k then some v else t.lookup k' := by
  split_ifs with h
  · subst h
    exact AList.lookup_insert t
  · exact AList.lookup_insert_ne h

theorem lookup_erase_eq (t : Table κ σ) (k k' : κ) :
    (t.erase k).lookup k' = if k' = k then none else t.lookup k' := by
  split_ifs with h
  · subst h
    exact AList.lookup_erase k' t
  · exact AList.lookup_erase_ne h

/-- The values of a table are what its keys look up to. -/
theorem mem_values {t : Table κ σ} {v : σ} : v ∈ t.values ↔ ∃ k, t.lookup k = some v := by
  simp only [values, List.mem_map, Sigma.exists, exists_eq_right]
  exact exists_congr fun k => (AList.mem_lookup_iff (s := t)).symm

/-- Tables with the same entries of a kind have, up to order, the same values of it. -/
theorem filter_values_perm {t t' : Table κ σ} {p : σ → Bool}
    (h : ∀ k v, p v = true → (t.lookup k = some v ↔ t'.lookup k = some v)) :
    (t.values.filter p).Perm (t'.values.filter p) := by
  have hentries : ∀ t : Table κ σ,
      t.values.filter p = (t.entries.filter fun e => p e.2).map Sigma.snd := by
    intro t
    rw [values, List.filter_map]
    rfl
  rw [hentries, hentries]
  refine List.Perm.map _ ((List.perm_ext_iff_of_nodup ?_ ?_).2 ?_)
  · exact t.nodupKeys.nodup.filter _
  · exact t'.nodupKeys.nodup.filter _
  · rintro ⟨k, v⟩
    rw [List.mem_filter, List.mem_filter]
    refine and_congr_left fun hv => ?_
    rw [← AList.mem_lookup_iff, ← AList.mem_lookup_iff]
    exact h k v hv

/-- A table built by erasing a list of keys. -/
theorem lookup_foldl_erase (t : Table κ σ) (ks : List κ) (k : κ) :
    (ks.foldl (fun t k => t.erase k) t).lookup k = if k ∈ ks then none else t.lookup k := by
  induction ks generalizing t with
  | nil => simp
  | cons k' ks ih =>
    rw [List.foldl_cons, ih, lookup_erase_eq]
    by_cases h : k ∈ ks <;> by_cases h' : k = k' <;> simp [h, h']

theorem length_insert {t : Table κ σ} {k : κ} (h : t.lookup k = none) (v : σ) :
    (t.insert k v).entries.length = t.entries.length + 1 := by
  rw [AList.entries_insert_of_notMem (AList.lookup_eq_none.1 h)]
  rfl

theorem length_erase {t : Table κ σ} {k : κ} (h : k ∈ t) :
    (t.erase k).entries.length + 1 = t.entries.length := by
  have hkeys := congrArg List.length (AList.keys_erase k t)
  rw [List.length_erase_of_mem (AList.mem_keys.1 h)] at hkeys
  have hpos := List.length_pos_of_mem (AList.mem_keys.1 h)
  simp only [AList.keys, List.keys, List.length_map] at hkeys hpos
  omega

/-- Each of the keys that are erased is one less. -/
theorem length_foldl_erase (t : Table κ σ) {ks : List κ} (hnodup : ks.Nodup)
    (hks : ∀ k ∈ ks, k ∈ t) :
    (ks.foldl (fun t k => t.erase k) t).entries.length + ks.length = t.entries.length := by
  induction ks generalizing t with
  | nil => rfl
  | cons k ks ih =>
    obtain ⟨hk, hnodup⟩ := List.nodup_cons.1 hnodup
    obtain ⟨hmem, hks⟩ := List.forall_mem_cons.1 hks
    have herase := length_erase hmem
    have hrest := ih (t.erase k) hnodup fun k' hk' =>
      AList.mem_erase.2 ⟨fun heq => hk (heq ▸ hk'), hks k' hk'⟩
    rw [List.foldl_cons, List.length_cons]
    omega

/-- The table after some values are assigned, one after the other. -/
def insertAll (t : Table κ σ) (l : List (κ × σ)) : Table κ σ :=
  l.foldl (fun t e => t.insert e.1 e.2) t

theorem lookup_insertAll_of_notMem (t : Table κ σ) {l : List (κ × σ)} {k : κ}
    (h : k ∉ l.map Prod.fst) : (t.insertAll l).lookup k = t.lookup k := by
  induction l generalizing t with
  | nil => rfl
  | cons e l ih =>
    rw [List.map_cons, List.mem_cons, not_or] at h
    rw [insertAll, List.foldl_cons, ← insertAll, ih _ h.2, lookup_insert_eq, if_neg h.1]

theorem lookup_insertAll_of_mem (t : Table κ σ) {l : List (κ × σ)} {k : κ} {v : σ}
    (hnodup : (l.map Prod.fst).Nodup) (h : (k, v) ∈ l) : (t.insertAll l).lookup k = some v := by
  induction l generalizing t with
  | nil => cases h
  | cons e l ih =>
    obtain ⟨hnotMem, hnodup⟩ := List.nodup_cons.1 hnodup
    rw [insertAll, List.foldl_cons, ← insertAll]
    rcases List.mem_cons.1 h with rfl | hmem
    · rw [lookup_insertAll_of_notMem _ hnotMem, lookup_insert_eq, if_pos rfl]
    · exact ih _ hnodup hmem

theorem insertAll_append (t : Table κ σ) (l l' : List (κ × σ)) :
    t.insertAll (l ++ l') = (t.insertAll l).insertAll l' := List.foldl_append

/-- What is assigned to some keys, each once, is what they look up to. -/
theorem insertAll_lookup_iff (t : Table κ σ) {l l' : List (κ × σ)}
    (hkeys : l.map Prod.fst = l'.map Prod.fst) (hnodup : (l'.map Prod.fst).Nodup) :
    (∀ e ∈ l', (t.insertAll l).lookup e.1 = some e.2) ↔ l = l' := by
  constructor
  · intro h
    have hlength : l.length = l'.length := by
      simpa using congrArg List.length hkeys
    refine List.ext_getElem hlength fun i hi hi' => ?_
    have hkey : l[i].1 = l'[i].1 := by
      have hget := congrArg (·[i]?) hkeys
      simpa [hi, hi'] using hget
    have hfound : (t.insertAll l).lookup l[i].1 = some l[i].2 :=
      lookup_insertAll_of_mem t (hkeys ▸ hnodup) (List.getElem_mem hi)
    have hvalue := h _ (List.getElem_mem hi')
    rw [← hkey, hfound, Option.some.injEq] at hvalue
    exact Prod.ext hkey hvalue
  · rintro rfl e he
    exact lookup_insertAll_of_mem t hnodup he

end Table

/-! ## Vectors searched by a predicate -/

/-- The list with its first element satisfying `p` changed by `f`, if there is one. -/
def List.replaceFirst? {α : Type*} (p : α → Bool) (f : α → α) : List α → Option (List α)
  | [] => none
  | a :: l => if p a then some (f a :: l) else (replaceFirst? p f l).map (a :: ·)

namespace List

variable {α : Type*} {p : α → Bool} {f : α → α}

theorem replaceFirst?_eq_none {l : List α} : replaceFirst? p f l = none ↔ l.find? p = none := by
  induction l with
  | nil => simp [replaceFirst?]
  | cons a l ih => by_cases h : p a <;> simp [replaceFirst?, h, ih]

/-- The element put in the place of the first is found there. -/
theorem find?_replaceFirst? {l l' : List α} (h : replaceFirst? p f l = some l')
    (hf : ∀ a, p (f a) = p a) : l'.find? p = (l.find? p).map f := by
  induction l generalizing l' with
  | nil => simp [replaceFirst?] at h
  | cons b l ih =>
    by_cases hb : p b
    · rw [replaceFirst?, if_pos hb, Option.some.injEq] at h
      subst h
      simp [hb, hf]
    · rw [replaceFirst?, if_neg hb, Option.map_eq_some_iff] at h
      obtain ⟨l'', hl, rfl⟩ := h
      simpa [hb] using ih hl

/-- A change that keeps an attribute keeps the attributes of the list. -/
theorem map_replaceFirst? {β : Type*} {g : α → β} {l l' : List α}
    (h : replaceFirst? p f l = some l') (hf : ∀ a, g (f a) = g a) : l'.map g = l.map g := by
  induction l generalizing l' with
  | nil => cases h
  | cons b l ih =>
    rw [replaceFirst?] at h
    split_ifs at h
    · obtain rfl := Option.some.inj h
      rw [List.map_cons, List.map_cons, hf]
    · obtain ⟨l'', hl, rfl⟩ := Option.map_eq_some_iff.1 h
      rw [List.map_cons, List.map_cons, ih hl]

/-- Up to order, the first match is replaced and the rest is kept. -/
theorem replaceFirst?_perm {l l' : List α} (h : replaceFirst? p f l = some l') :
    ∃ a, l.find? p = some a ∧ l.Perm (a :: l.eraseP p) ∧ l'.Perm (f a :: l.eraseP p) := by
  induction l generalizing l' with
  | nil => simp [replaceFirst?] at h
  | cons b l ih =>
    by_cases hb : p b
    · rw [replaceFirst?, if_pos hb, Option.some.injEq] at h
      subst h
      exact ⟨b, by simp [hb], by simp [hb], by simp [hb]⟩
    · rw [replaceFirst?, if_neg hb, Option.map_eq_some_iff] at h
      obtain ⟨l₁, h₁, rfl⟩ := h
      obtain ⟨a, ha, hp, hp'⟩ := ih h₁
      refine ⟨a, by simp [hb, ha], ?_, ?_⟩ <;>
        rw [List.eraseP_cons_of_neg (by simpa using hb)]
      · exact (hp.cons b).trans (.swap ..)
      · exact (hp'.cons b).trans (.swap ..)

/-- Up to order, a list is its first match and the rest. -/
theorem perm_cons_eraseP {l : List α} {a : α} (h : l.find? p = some a) :
    l.Perm (a :: l.eraseP p) := by
  induction l with
  | nil => simp at h
  | cons b l ih =>
    by_cases hb : p b
    · simp only [List.find?_cons_of_pos hb, Option.some.injEq] at h
      subst h
      simp [hb]
    · rw [List.find?_cons_of_neg hb] at h
      rw [List.eraseP_cons_of_neg (by simpa using hb)]
      exact ((ih h).cons b).trans (.swap ..)

end List

/-! ## What a table contains -/

namespace Table

variable {κ σ β : Type*} (f : σ → List β)

/-- What `f` finds in the values of a table, with repetitions. -/
def contents (t : Table κ σ) : List β := t.values.flatMap f

variable [DecidableEq κ] {t t' : Table κ σ}

theorem mem_contents {b : β} : b ∈ t.contents f ↔ ∃ k v, t.lookup k = some v ∧ b ∈ f v := by
  rw [contents, List.mem_flatMap]
  constructor
  · rintro ⟨v, hv, hb⟩
    obtain ⟨k, hk⟩ := mem_values.1 hv
    exact ⟨k, v, hk, hb⟩
  · rintro ⟨k, v, hk, hb⟩
    exact ⟨v, mem_values.2 ⟨k, hk⟩, hb⟩

/-- A table contains what each of its values contains. -/
theorem subset_contents {k : κ} {v : σ} (h : t.lookup k = some v) : f v ⊆ t.contents f :=
  fun _ hb => (mem_contents f).2 ⟨k, v, h, hb⟩

theorem contents_subset {l : List β} (h : ∀ k v, t.lookup k = some v → f v ⊆ l) :
    t.contents f ⊆ l := by
  intro b hb
  obtain ⟨k, v, hk, hb⟩ := (mem_contents f).1 hb
  exact h k v hk hb

/-- A value that takes the place of another one exchanges what they contain. -/
theorem count_contents_insert [DecidableEq β] {k : κ} {old : σ} (h : t.lookup k = some old)
    (v : σ) (b : β) : (contents f (t.insert k v)).count b + (f old).count b =
      (t.contents f).count b + (f v).count b := by
  -- Up to order, the entries are the old one and those that stay.
  have hfind := List.map_dlookup_eq_find k t.entries
  rw [show t.entries.dlookup k = some old from h] at hfind
  have hperm : t.entries.Perm (⟨k, old⟩ :: t.entries.kerase k) := List.perm_cons_eraseP hfind.symm
  have hold : t.contents f = t.entries.flatMap fun e => f e.2 := by
    rw [contents, values, List.flatMap_map]
  have hnew : contents f (t.insert k v) = f v ++ (t.entries.kerase k).flatMap fun e => f e.2 := by
    rw [contents, values, AList.entries_insert, List.flatMap_map, List.flatMap_cons]
  rw [hnew, hold, (hperm.flatMap_right _).count_eq, List.flatMap_cons, List.count_append,
    List.count_append]
  dsimp only
  omega

end Table

end PhineAf

import PhineAf.Lib.Json
import PhineAf.Ue.Store

/-!
# Coherence of the UE indices

The UE store is *coherent* when every state is stored under the primary key of
its own key, every index entry points to a UE carrying the identifier, and an
identifier carried by one UE only is indexed to it (`Indexed.Coherent`).

Not every run keeps the store coherent: an operation may erase the entry of an
identifier that another UE still carries, leave the indices as they are while
the identifiers change, or store a state under a key that is not its own.
`UeOp.Tidy` says, of the store before an operation and its arguments, that it
does none of these. In every run of tidy operations the store is coherent in
every state (`coherent_of_reachable_tidy`): the invariant is `Consistent`, kept
by one lemma for each operation.
-/

namespace PhineAf

open AfUeSubscriptionState

namespace UeStore

/-- The invariant of the runs of tidy operations. -/
structure Consistent (s : UeStore) : Prop where
  tight : s.Tight identifiers
  filed : s.Filed primaryKey

theorem Consistent.coherent {s : UeStore} (h : s.Consistent) :
    s.Coherent identifiers primaryKey :=
  h.tight.coherent h.filed

theorem consistent_empty : Consistent .empty := ⟨Indexed.tight_empty, Indexed.filed_empty⟩

/-- No UE but the one under `k` carries the identifier `x`. -/
def Exclusive (s : UeStore) (k : String) (x : Identifier) : Prop :=
  ∀ k', k' ≠ k → ¬s.Carries identifiers k' x

/-! ## Tidy operations -/

/-- Initial data for a known UE brings no new GPSI and no new address: its PDU
    sessions have the addresses of those they replace. -/
def SameIdentifiers (st data : AfUeSubscriptionState) : Prop :=
  (∀ gpsi, data.gpsi = some gpsi → st.gpsi = some gpsi) ∧
    ∀ pdu ∈ data.pduSessions, ∀ x, x ∈ pdu.identifiers ↔
      FoundAddress st.pduSessions pdu.pduSessionId x

/-- A merge keeps an identifier of the secondary state: the primary state has it
    too, or it is an address of a PDU session with an id that is new to it. -/
def MergeKeeps (st other : AfUeSubscriptionState) (x : Identifier) : Prop :=
  x ∈ st.identifiers ∨ ∃ id, st.pduSessions.find? (·.pduSessionId == id) = none ∧
    FoundAddress other.pduSessions id x

/-- A merge drops no identifier that a third UE carries. -/
def MergeTidy (s : UeStore) (k k' : String) : Prop :=
  ∀ st other, s.states.lookup k = some st → s.states.lookup k' = some other →
    ∀ x ∈ other.identifiers, ¬MergeKeeps st other x →
      ∀ l, l ≠ k → l ≠ k' → ¬s.Carries identifiers l x

/-- The PDU session under an id gives up no indexed address of the UE that
    another UE, or another PDU session of the UE, still has. `kept` are the
    addresses of the PDU session taking its place. -/
def PduTidy (s : UeStore) (k id : String) (kept : List Identifier) : Prop :=
  ∀ st old, s.states.lookup k = some st →
    st.pduSessions.find? (·.pduSessionId == id) = some old →
      ∀ x ∈ old.identifiers, x ∉ kept → s.index.lookup x = some k →
        s.Exclusive k x ∧ ¬HasAddress (st.pduSessions.eraseP (·.pduSessionId == id)) x

end UeStore

open UeStore

/-- An operation that takes no identifier off the indices that a UE still
    carries, changes no identifier behind their back, and misfiles no state. -/
def UeOp.Tidy (s : UeStore) : UeOp → Prop
  | .updateUeState st =>
    ∀ x, s.Carries identifiers st.primaryKey x → x ∉ st.identifiers → s.Exclusive st.primaryKey x
  | .createOrUpdateProvisionalUeState key initialData _ => ∀ data, initialData = some data →
    match s.states.lookup key.getPrimaryKey with
    | some st => SameIdentifiers st data
    | none => data.primaryKey = key.getPrimaryKey
  | .promoteUeStateToResolved currentKey supi _ => ∀ st supiKey,
    s.states.lookup currentKey.getPrimaryKey = some st → UeKey.fromSupi supi = .ok supiKey →
      if currentKey.getPrimaryKey = supiKey.getPrimaryKey then st.supi.isSome
      else if (s.states.lookup supiKey.getPrimaryKey).isSome then
        s.MergeTidy supiKey.getPrimaryKey currentKey.getPrimaryKey
      else st.supi = none ∧ st.ueKey.canPromoteToSupi = false
  | .mergeUeStates primaryKey secondaryKey _ =>
    s.MergeTidy primaryKey.getPrimaryKey secondaryKey.getPrimaryKey
  | .removeUeState key =>
    ∀ x, s.Carries identifiers key.getPrimaryKey x → s.Exclusive key.getPrimaryKey x
  | .updateUeGpsi key gpsi _ => ∀ st old, s.states.lookup key.getPrimaryKey = some st →
    st.gpsi = some old → old ≠ gpsi → s.Exclusive key.getPrimaryKey ⟨.gpsi, old.value⟩
  | .addOrUpdatePduSession key pdu _ =>
    s.PduTidy key.getPrimaryKey pdu.pduSessionId pdu.identifiers
  | .removePduSession key pduSessionId _ => s.PduTidy key.getPrimaryKey pduSessionId []
  | .cleanupExpiredProvisionalStates maxAge now =>
    ∀ x, ∀ k ∈ s.expiredKeys maxAge now, s.Carries identifiers k x →
      ∀ k', s.Carries identifiers k' x → k' ∈ s.expiredKeys maxAge now
  | .query _ | .updateUe .. | .removeNonPrimaryUeIdentifier .. | .addQodSessionToUe ..
  | .removeQodSessionFromUe .. | .addQodSessionToPduSession ..
  | .removeQodSessionFromPduSession .. => True

namespace UeStore

variable {s : UeStore} {k : String} {st st' : AfUeSubscriptionState}

/-- The identifiers of the UE under a key are those of its state. -/
theorem carries_identifiers_iff (hl : s.states.lookup k = some st) (x : Identifier) :
    s.Carries identifiers k x ↔ x ∈ st.identifiers :=
  Indexed.carries_iff_of_lookup hl x

/-! ## States replaced and added -/

/-- A state replaced by one with the same identifiers and the same key. -/
theorem Consistent.replace (h : s.Consistent) (hl : s.states.lookup k = some st)
    (hids : ∀ x, x ∈ st'.identifiers ↔ x ∈ st.identifiers)
    (hkey : st'.primaryKey = st.primaryKey) : (s.put k st').Consistent where
  tight := h.tight.replace hl hids
  filed := h.filed.insert (hkey.trans (h.filed k st hl))

/-- A state stored under its key, which is free, and indexed. -/
theorem Consistent.add (h : s.Consistent) (hl : s.states.lookup k = none)
    (hkey : st.primaryKey = k) : ((s.put k st).addUeIndices st).Consistent where
  tight := by
    subst hkey
    refine h.tight.relink _ [] (fun x hx => hx) (fun x hx _ => ?_) nofun
    exact iff_of_false hx (Indexed.not_carries_of_lookup_eq_none hl x)
  filed := h.filed.insert hkey

/-- A state replaced under its key and indexed anew: what it no longer carries,
    no other UE carries. -/
theorem Consistent.reindex (h : s.Consistent) {old : AfUeSubscriptionState}
    (hl : s.states.lookup st.primaryKey = some old)
    (hdrop : ∀ x ∈ old.identifiers, x ∉ st.identifiers → s.Exclusive st.primaryKey x) :
    (((s.removeUeIndices old).put st.primaryKey st).addUeIndices st).Consistent where
  tight := by
    refine h.tight.relink _ _ (fun x hx => hx) (fun x hx hold => ?_) fun x hold hx =>
      ⟨hx, hdrop x hold hx⟩
    rw [Indexed.carries_iff_of_lookup hl]
    exact iff_of_false hx hold
  filed := h.filed.insert rfl

theorem Consistent.updateUeState (h : s.Consistent) (ht : (UeOp.updateUeState st).Tidy s) :
    (s.updateUeState st).Consistent := by
  rw [UeStore.updateUeState]
  cases hl : s.states.lookup st.primaryKey with
  | none => exact h.add hl rfl
  | some old => exact h.reindex hl fun x hold => ht x ((Indexed.carries_iff_of_lookup hl x).2 hold)

/-! ## Provisional states -/

theorem primaryKey_foldl_addOrUpdatePduSession (now : ℤ) (pdus : List PduSessionData) :
    (pdus.foldl (fun st pdu => st.addOrUpdatePduSession now pdu) st).primaryKey = st.primaryKey := by
  induction pdus generalizing st with
  | nil => rfl
  | cons pdu pdus ih =>
    rw [List.foldl_cons, ih]
    rfl

theorem foldl_addOrUpdatePduSession (st : AfUeSubscriptionState) (now : ℤ)
    (pdus : List PduSessionData) :
    (pdus.foldl (fun st pdu => st.addOrUpdatePduSession now pdu) st).supi = st.supi ∧
    (pdus.foldl (fun st pdu => st.addOrUpdatePduSession now pdu) st).gpsi = st.gpsi ∧
    (pdus.foldl (fun st pdu => st.addOrUpdatePduSession now pdu) st).pduSessions =
      pdus.foldl (fun l pdu => putPduSession pdu l) st.pduSessions := by
  induction pdus generalizing st with
  | nil => exact ⟨rfl, rfl, rfl⟩
  | cons pdu pdus ih =>
    obtain ⟨hs, hg, hp⟩ := @ih (st.addOrUpdatePduSession now pdu)
    exact ⟨hs, hg, hp⟩

/-- Initial data without new identifiers leaves those of the state as they are. -/
theorem mem_identifiers_mergeInitialData {data : AfUeSubscriptionState} (now : ℤ)
    (h : SameIdentifiers st data) (x : Identifier) :
    x ∈ (mergeInitialData now st data).identifiers ↔ x ∈ st.identifiers := by
  obtain ⟨hgpsi, hpdus⟩ := h
  unfold mergeInitialData
  extract_lets st₁ st₂ st₃ st₄
  obtain ⟨hs, hg, hp⟩ := foldl_addOrUpdatePduSession st₄ now data.pduSessions
  -- Before its PDU sessions are merged, the state has the identifiers it had: the GPSI
  -- of the data is its own, and the other data are no identifiers.
  have h₄ : st₄.supi = st.supi ∧ st₄.gpsi = st.gpsi ∧ st₄.pduSessions = st.pduSessions := by
    have h₁ : st₁.supi = st.supi ∧ st₁.gpsi = st.gpsi ∧ st₁.pduSessions = st.pduSessions := by
      cases hd : data.gpsi with
      | none => simp [st₁, hd]
      | some gpsi => simp [st₁, hd, hgpsi gpsi hd, setGpsi, touch]
    cases hl : data.locationInfo <;> cases ha : data.accessMobilityData <;>
      cases hp : data.uePolicyDataInfo <;>
      simpa [st₄, st₃, st₂, hl, ha, hp, setLocationInfo, setAccessMobilityData,
        setUePolicyDataInfo, touch] using h₁
  refine mem_identifiers_congr (hs.trans h₄.1) (hg.trans h₄.2.1) ?_
  rw [hp, h₄.2.2]
  exact hasAddress_foldl_putPduSession_of_same hpdus x

theorem primaryKey_mergeInitialData (now : ℤ) (data : AfUeSubscriptionState) :
    (mergeInitialData now st data).primaryKey = st.primaryKey := by
  rw [mergeInitialData, primaryKey_foldl_addOrUpdatePduSession]
  cases data.gpsi <;> cases data.locationInfo <;> cases data.accessMobilityData <;>
    cases data.uePolicyDataInfo <;> rfl

theorem Consistent.createOrUpdateProvisionalUeState (h : s.Consistent) {key : UeKey}
    {initialData : Option AfUeSubscriptionState} {now : ℤ}
    (ht : (UeOp.createOrUpdateProvisionalUeState key initialData now).Tidy s) :
    (s.createOrUpdateProvisionalUeState key initialData now).Consistent := by
  simp only [UeOp.Tidy] at ht
  rw [UeStore.createOrUpdateProvisionalUeState]
  cases hl : s.states.lookup key.getPrimaryKey with
  | none =>
    refine h.add hl ?_
    cases initialData with
    | none => rfl
    | some data => simpa [hl] using ht data rfl
  | some st =>
    cases initialData with
    | none => exact h
    | some data =>
      have hsame : SameIdentifiers st data := by simpa [hl] using ht data rfl
      exact h.replace hl (mem_identifiers_mergeInitialData now hsame)
        (primaryKey_mergeInitialData now data)

/-! ## Merges -/

/-- Two states agree on their identifiers and their key. -/
structure Agree (st st' : AfUeSubscriptionState) : Prop where
  supi : st'.supi = st.supi
  gpsi : st'.gpsi = st.gpsi
  pduSessions : st'.pduSessions = st.pduSessions
  primaryKey : st'.primaryKey = st.primaryKey

theorem Agree.refl (st : AfUeSubscriptionState) : Agree st st := ⟨rfl, rfl, rfl, rfl⟩

theorem Agree.trans {st₁ st₂ st₃ : AfUeSubscriptionState} (h : Agree st₁ st₂) (h' : Agree st₂ st₃) :
    Agree st₁ st₃ :=
  ⟨h'.supi.trans h.supi, h'.gpsi.trans h.gpsi, h'.pduSessions.trans h.pduSessions,
    h'.primaryKey.trans h.primaryKey⟩

theorem agree_addKnownIdentifier (now : ℤ) (type : KnownType) (v : String) :
    Agree st (st.addKnownIdentifier now type v).2 := by
  refine ⟨?_, ?_, ?_, primaryKey_addKnownIdentifier ..⟩ <;> unfold addKnownIdentifier <;>
    split_ifs <;> first | rfl | (cases type <;> rfl)

theorem agree_foldl_addKnownIdentifier (now : ℤ) (type : KnownType) (vs : List String) :
    Agree st (vs.foldl (fun st v => (st.addKnownIdentifier now type v).2) st) := by
  induction vs generalizing st with
  | nil => exact .refl st
  | cons v vs ih => exact (agree_addKnownIdentifier now type v).trans ih

/-- Merging the known identifiers changes no indexed one. -/
theorem agree_mergeKnown (st : AfUeSubscriptionState) (now : ℤ) (other : AfUeSubscriptionState) :
    Agree st (mergeKnown now st other) :=
  (agree_foldl_addKnownIdentifier now .ipv4 _).trans <|
    (agree_foldl_addKnownIdentifier now .ipv6 _).trans (agree_foldl_addKnownIdentifier now .gpsi _)

theorem subset_mergePduSessions (l other : List PduSessionData) :
    l ⊆ mergePduSessions l other := by
  rw [mergePduSessions]
  induction other generalizing l with
  | nil => exact List.Subset.refl l
  | cons pdu other ih =>
    rw [List.foldl_cons]
    split_ifs
    · exact ih l
    · exact List.Subset.trans (List.subset_append_left l [pdu]) (ih _)

/-- A PDU session first found under an id that is new to a list is merged into
    it. -/
theorem mem_mergePduSessions {l other : List PduSessionData} {id : String} {pdu : PduSessionData}
    (hl : l.find? (·.pduSessionId == id) = none)
    (ho : other.find? (·.pduSessionId == id) = some pdu) : pdu ∈ mergePduSessions l other := by
  induction other generalizing l with
  | nil => cases ho
  | cons p other ih =>
    have hstep : mergePduSessions l (p :: other) = mergePduSessions
        (if l.any (·.pduSessionId == p.pduSessionId) then l else l ++ [p]) other := rfl
    rw [hstep]
    by_cases hp : p.pduSessionId = id
    · -- The session itself: nothing in the list has its id, so it is appended.
      have hpdu : p = pdu := by simpa [hp] using ho
      have hany : l.any (·.pduSessionId == p.pduSessionId) = false := by
        simpa [hp] using hl
      rw [hany]
      exact subset_mergePduSessions _ _ (by simp [hpdu])
    · refine ih ?_ (by simpa [hp] using ho)
      split_ifs
      · exact hl
      · simpa [hp] using hl

theorem agree_mergedState (st : AfUeSubscriptionState) (now : ℤ) (other : AfUeSubscriptionState) :
    Agree { st with pduSessions := mergePduSessions st.pduSessions other.pduSessions }
      (mergedState now st other) := by
  have h := agree_mergeKnown st now other
  have hpdus := congrArg (mergePduSessions · other.pduSessions) h.pduSessions
  unfold mergedState
  dsimp only
  split_ifs <;> exact ⟨h.supi, h.gpsi, hpdus, h.primaryKey⟩

/-- The merged state has what a merge keeps. -/
theorem mem_identifiers_mergedState (now : ℤ) {other : AfUeSubscriptionState} {x : Identifier}
    (h : MergeKeeps st other x) : x ∈ (mergedState now st other).identifiers := by
  have hm := agree_mergedState st now other
  rw [mem_identifiers, hm.supi, hm.gpsi, hm.pduSessions]
  rcases h with h | ⟨id, hnew, pdu, hpdu, hx⟩
  · rcases (mem_identifiers st).1 h with h | h | ⟨pdu, hpdu, hx⟩
    · exact .inl h
    · exact .inr (.inl h)
    · exact .inr (.inr ⟨pdu, subset_mergePduSessions _ _ hpdu, hx⟩)
  · exact .inr (.inr ⟨pdu, mem_mergePduSessions hnew hpdu, hx⟩)

theorem Consistent.mergeUeStates (h : s.Consistent) {primaryKey secondaryKey : UeKey} {now : ℤ}
    (ht : s.MergeTidy primaryKey.getPrimaryKey secondaryKey.getPrimaryKey) {r : Bool × UeStore}
    (hr : s.mergeUeStates primaryKey secondaryKey now = .ok r) : r.2.Consistent := by
  rw [UeStore.mergeUeStates] at hr
  split at hr
  next st other hst hother =>
    split_ifs at hr with hne
    obtain rfl := Except.ok.inj hr
    have hkey := (agree_mergedState st now other).primaryKey.trans (h.filed _ st hst)
    refine ⟨?_, (h.filed.insert hkey).erase⟩
    -- The merged state is indexed under its own key, which is the key it is stored under.
    rw [addUeIndices, hkey]
    refine h.tight.absorb hne hst hother (fun x hx => mem_identifiers_mergedState now (.inl hx)) ?_
    intro x hx hgone
    exact ht st other hst hother x hx fun hkeep => hgone (mem_identifiers_mergedState now hkeep)
  next =>
    obtain rfl := Except.ok.inj hr
    exact h

/-! ## Promotion -/

/-- A SUPI already known is not resolved again. -/
theorem resolveSupi_of_isSome (h : st.supi.isSome) (now : ℤ) (supi : Supi) :
    st.resolveSupi now supi = .ok st := by
  rw [resolveSupi, if_pos h]

/-- A state without a SUPI takes the SUPI and its key. -/
theorem resolveSupi_of_eq_none {supi : Supi} {supiKey : UeKey} (h : st.supi = none)
    (hkey : st.ueKey.canPromoteToSupi = false) (hk : UeKey.fromSupi supi = .ok supiKey) (now : ℤ) :
    st.resolveSupi now supi = .ok (st.assignSupi now supiKey supi) := by
  simp [resolveSupi, h, hkey, hk, bind, Except.bind, pure, Except.pure]

/-- Resolving the SUPI adds it to the identifiers of a state without one. -/
theorem subset_identifiers_assignSupi (h : st.supi = none) (now : ℤ) (key : UeKey) (supi : Supi) :
    ∀ x ∈ st.identifiers, x ∈ (st.assignSupi now key supi).identifiers := by
  intro x hx
  rw [mem_identifiers] at hx ⊢
  rcases hx with ⟨_, hsome, -⟩ | hx
  · rw [h] at hsome
    cases hsome
  · exact .inr hx

/-- The promotion that moves a state to the free key of its SUPI. -/
theorem promoteUeStateToResolved_move {currentKey supiKey : UeKey} {supi : Supi}
    (hst : s.states.lookup currentKey.getPrimaryKey = some st)
    (hk : UeKey.fromSupi supi = .ok supiKey)
    (hfree : s.states.lookup supiKey.getPrimaryKey = none) (hsupi : st.supi = none)
    (hkey : st.ueKey.canPromoteToSupi = false) (now : ℤ) :
    s.promoteUeStateToResolved currentKey supi now =
      .ok (true, (((s.removeUeIndices st).drop currentKey.getPrimaryKey).put
        supiKey.getPrimaryKey (st.assignSupi now supiKey supi)).addUeIndices
          (st.assignSupi now supiKey supi)) := by
  have hne : currentKey.getPrimaryKey ≠ supiKey.getPrimaryKey := by
    intro heq
    rw [← heq, hst] at hfree
    cases hfree
  rw [promoteUeStateToResolved]
  simp only [hst, hk, bind, Except.bind, if_neg hne, hfree, Option.isSome_none,
    Bool.false_eq_true, if_false, resolveSupi_of_eq_none hsupi hkey hk]
  rfl

theorem Consistent.promoteUeStateToResolved (h : s.Consistent) {currentKey : UeKey} {supi : Supi}
    {now : ℤ} (ht : (UeOp.promoteUeStateToResolved currentKey supi now).Tidy s)
    {r : Bool × UeStore} (hr : s.promoteUeStateToResolved currentKey supi now = .ok r) :
    r.2.Consistent := by
  have hr' := hr
  rw [UeStore.promoteUeStateToResolved] at hr
  split at hr
  next =>
    obtain rfl := Except.ok.inj hr
    exact h
  next st hst =>
    cases hk : UeKey.fromSupi supi with
    | error e => simp [hk, bind, Except.bind] at hr
    | ok supiKey =>
      have ht := ht st supiKey hst hk
      simp only [hk, bind, Except.bind] at hr
      split_ifs at hr ht with hsame hstored
      · -- Already under its SUPI: nothing changes.
        rw [resolveSupi_of_isSome ht] at hr
        obtain rfl := Except.ok.inj hr
        exact h.replace hst (fun x => Iff.rfl) rfl
      · -- The SUPI has a state, which takes this one in.
        exact h.mergeUeStates ht hr
      · -- Moved under its SUPI.
        have hfree : s.states.lookup supiKey.getPrimaryKey = none := by simpa using hstored
        rw [promoteUeStateToResolved_move hst hk hfree ht.1 ht.2] at hr'
        obtain rfl := Except.ok.inj hr'
        exact ⟨h.tight.move hst hfree (subset_identifiers_assignSupi ht.1 now supiKey supi),
          Indexed.Filed.insert h.filed.erase rfl⟩

/-! ## Removal -/

theorem Consistent.removeUeState (h : s.Consistent) {key : UeKey}
    (ht : (UeOp.removeUeState key).Tidy s) : (s.removeUeState key).2.Consistent := by
  rw [UeStore.removeUeState]
  split
  next st hst =>
    have hc := carries_identifiers_iff hst
    -- The only key evicted is that of the UE; its identifiers go off the index.
    refine ⟨h.tight.evict (· = key.getPrimaryKey) ?_ ?_ ?_ ?_ ?_, h.filed.erase⟩
    · rintro _ rfl
      exact AList.lookup_erase ..
    · intro l hl
      exact AList.lookup_erase_ne hl
    · rintro x ⟨_, rfl, hx⟩
      exact (lookup_unlink ..).trans (if_pos ((hc x).1 hx))
    · intro x hx
      exact (lookup_unlink ..).trans (if_neg fun hst' => hx ⟨_, rfl, (hc x).2 hst'⟩)
    · rintro x _ rfl hx l' hl'
      by_contra hne
      exact ht x hx l' hne hl'
  next => exact h

theorem lookup_states_dropKey (k k' : String) :
    (s.dropKey k).states.lookup k' = if k' = k then none else s.states.lookup k' := by
  rw [dropKey]
  cases hst : s.states.lookup k with
  | none =>
    split_ifs with hk
    · rw [hk]
      exact hst
    · rfl
  | some st => exact Table.lookup_erase_eq ..

theorem carries_dropKey {k k' : String} {x : Identifier} :
    (s.dropKey k).Carries identifiers k' x ↔ k' ≠ k ∧ s.Carries identifiers k' x := by
  simp only [Indexed.Carries, lookup_states_dropKey]
  split_ifs with hk <;> simp [hk]

theorem lookup_index_dropKey_of_carries {k : String} {x : Identifier}
    (h : s.Carries identifiers k x) : (s.dropKey k).index.lookup x = none := by
  obtain ⟨st, hst, hx⟩ := h
  simp only [dropKey, hst, Option.elim_some, removeUeIndices, drop, lookup_unlink, if_pos hx]

theorem lookup_index_dropKey_of_not_carries {k : String} {x : Identifier}
    (h : ¬s.Carries identifiers k x) : (s.dropKey k).index.lookup x = s.index.lookup x := by
  rw [dropKey]
  cases hst : s.states.lookup k with
  | none => rfl
  | some st =>
    rw [Indexed.carries_iff_of_lookup hst] at h
    simp only [Option.elim_some, removeUeIndices, drop, lookup_unlink, if_neg h]

/-! What is left after the states under some keys are dropped one after the
other. -/

theorem lookup_states_foldl_dropKey (ks : List String) (s : UeStore) (k : String) :
    (ks.foldl dropKey s).states.lookup k = if k ∈ ks then none else s.states.lookup k := by
  induction ks generalizing s with
  | nil => simp
  | cons k₁ ks ih =>
    rw [List.foldl_cons, ih, lookup_states_dropKey]
    by_cases h : k ∈ ks <;> by_cases h' : k = k₁ <;> simp [h, h']

theorem lookup_index_foldl_dropKey_of_not_carries {ks : List String} {x : Identifier}
    (h : ∀ k ∈ ks, ¬s.Carries identifiers k x) :
    (ks.foldl dropKey s).index.lookup x = s.index.lookup x := by
  induction ks generalizing s with
  | nil => rfl
  | cons k ks ih =>
    obtain ⟨hk, hks⟩ := List.forall_mem_cons.1 h
    rw [List.foldl_cons, ih fun k' hk' hc => hks k' hk' (carries_dropKey.1 hc).2,
      lookup_index_dropKey_of_not_carries hk]

theorem lookup_index_foldl_dropKey_of_carries {ks : List String} {x : Identifier}
    (h : ∃ k ∈ ks, s.Carries identifiers k x) : (ks.foldl dropKey s).index.lookup x = none := by
  induction ks generalizing s with
  | nil => simp at h
  | cons k₁ ks ih =>
    rw [List.foldl_cons]
    -- The entry goes with a later key still carrying it, or went with the first and stays away.
    by_cases hks : ∃ k ∈ ks, (s.dropKey k₁).Carries identifiers k x
    · exact ih hks
    · have hnone := fun k hk hc => hks ⟨k, hk, hc⟩
      rw [lookup_index_foldl_dropKey_of_not_carries hnone]
      obtain ⟨k, hk, hc⟩ := h
      by_cases hk₁ : k = k₁
      · exact lookup_index_dropKey_of_carries (hk₁ ▸ hc)
      · have hmem : k ∈ ks := (List.mem_cons.1 hk).resolve_left hk₁
        exact absurd (carries_dropKey.2 ⟨hk₁, hc⟩) (hnone k hmem)

theorem Consistent.cleanupExpiredProvisionalStates (h : s.Consistent) {maxAge now : ℤ}
    (ht : (UeOp.cleanupExpiredProvisionalStates maxAge now).Tidy s) :
    (s.cleanupExpiredProvisionalStates maxAge now).Consistent where
  tight := by
    refine h.tight.evict (· ∈ s.expiredKeys maxAge now) (fun l hl => ?_) (fun l hl => ?_)
      (fun x hx => lookup_index_foldl_dropKey_of_carries hx)
      (fun x hx => lookup_index_foldl_dropKey_of_not_carries fun l hl hc => hx ⟨l, hl, hc⟩)
      fun x l hl hc l' hc' => ht x l hl hc l' hc'
    · exact (lookup_states_foldl_dropKey ..).trans (if_pos hl)
    · exact (lookup_states_foldl_dropKey ..).trans (if_neg hl)
  filed := by
    intro l st hl
    rw [UeStore.cleanupExpiredProvisionalStates, lookup_states_foldl_dropKey] at hl
    split_ifs at hl
    exact h.filed l st hl

/-! ## Changes of one UE -/

theorem Consistent.updateUeGpsi (h : s.Consistent) {key : UeKey} {gpsi : Gpsi} {now : ℤ}
    (ht : (UeOp.updateUeGpsi key gpsi now).Tidy s) :
    (s.updateUeGpsi key gpsi now).2.Consistent := by
  rw [UeStore.updateUeGpsi]
  split
  next st hst =>
    have hc := carries_identifiers_iff hst
    -- The UE keeps its SUPI and its addresses, and has the new GPSI for the old one.
    have hids : ∀ x, x ∈ (st.setGpsi now gpsi).identifiers ↔
        (∃ supi, st.supi = some supi ∧ x = ⟨.supi, supi.value⟩) ∨ x = ⟨.gpsi, gpsi.value⟩ ∨
          HasAddress st.pduSessions x := by
      intro x
      rw [mem_identifiers]
      simp [setGpsi, touch]
    refine ⟨h.tight.relink _ _ (fun x hx => ?_) (fun x hx hold => ?_) fun x hold hx => ?_,
      h.filed.insert (h.filed _ st hst)⟩
    · rw [hids, List.mem_singleton.1 hx]
      exact .inr (.inl rfl)
    · rw [hids, hc, mem_identifiers]
      have hx : x ≠ ⟨.gpsi, gpsi.value⟩ := fun hx' => hx (List.mem_singleton.2 hx')
      have hold : ¬∃ g, st.gpsi = some g ∧ x = ⟨.gpsi, g.value⟩ := by
        rintro ⟨g, hg, rfl⟩
        exact hold (by simp [hg])
      simp only [hx, hold, false_or]
    · obtain ⟨old, hg, rfl⟩ : ∃ g, st.gpsi = some g ∧ (⟨.gpsi, g.value⟩ : Identifier) = x := by
        simpa using hold
      have hne : old ≠ gpsi := by
        rintro rfl
        exact hx (List.mem_singleton.2 rfl)
      refine ⟨?_, ht st old hst hg hne⟩
      rw [hids]
      -- The old GPSI is no SUPI, not the new GPSI, and no address.
      rintro (⟨_, _, h⟩ | h | h)
      · cases h
      · exact hx (List.mem_singleton.2 h)
      · exact h.kind.2 rfl
  next => exact h

/-- The update of a datum that is no identifier. -/
theorem Consistent.updateUe (h : s.Consistent) {key : UeKey}
    {f : AfUeSubscriptionState → AfUeSubscriptionState}
    (hids : ∀ st, (f st).identifiers = st.identifiers)
    (hkey : ∀ st, (f st).primaryKey = st.primaryKey) : (s.updateUe key f).2.Consistent := by
  rw [UeStore.updateUe]
  split
  next st hst => exact h.replace hst (fun x => by rw [hids]) (hkey st)
  next => exact h

theorem Consistent.updateDatum (h : s.Consistent) (key : UeKey) (now : ℤ) (datum : UeDatum) :
    (s.updateDatum key now datum).2.Consistent := by
  cases datum <;> exact h.updateUe (fun _ => rfl) fun _ => rfl

theorem Consistent.removeNonPrimaryUeIdentifier (h : s.Consistent) (key : UeKey)
    (type : KnownType) (value : String) (now : ℤ) :
    (s.removeNonPrimaryUeIdentifier key type value now).2.Consistent := by
  rw [UeStore.removeNonPrimaryUeIdentifier]
  split
  next => exact h
  next st hst =>
    have hids := identifiers_removeKnownIdentifier now st type value
    have hkey := (primaryKey_removeKnownIdentifier now st type value).trans (h.filed _ st hst)
    split
    next st' hst' =>
      rw [hst'] at hids hkey
      refine ⟨?_, h.filed.insert hkey⟩
      -- The indices are only written anew: a known identifier is no identifier of the UE.
      rw [addUeIndices, hkey]
      refine h.tight.relink _ _ (fun x hx => hx) (fun x hx _ => ?_) fun x hold hx => absurd hold hx
      rw [Indexed.carries_iff_of_lookup hst, ← hids]
    next => exact h

/-! ## PDU sessions -/

theorem Consistent.addOrUpdatePduSession (h : s.Consistent) {key : UeKey} {pdu : PduSessionData}
    {now : ℤ} (ht : (UeOp.addOrUpdatePduSession key pdu now).Tidy s) :
    (s.addOrUpdatePduSession key pdu now).2.Consistent := by
  rw [UeStore.addOrUpdatePduSession]
  split
  next => exact h
  next st hst =>
    have hc := carries_identifiers_iff hst
    have hkey := h.filed _ st hst
    split
    next old hold =>
      -- Both lists are those of the other PDU sessions, with the new session in front or
      -- the one it replaces.
      have hput := putPduSession_perm hold
      have hl := List.perm_cons_eraseP hold
      refine ⟨h.tight.relinkOwned _ old.identifiers (fun x hx => ?_) (fun x hx => ?_)
        (fun x hx hxold => ?_) (fun x hxold hx hidx => ?_), h.filed.insert hkey⟩
      · rw [identifiers_recordActivity, mem_identifiers, hasAddress_perm hput, hasAddress_cons]
        exact .inr (.inr (.inl hx))
      · rw [hc, mem_identifiers, hasAddress_perm hl, hasAddress_cons]
        exact .inr (.inr (.inl hx))
      · rw [hc, identifiers_recordActivity]
        refine mem_identifiers_congr rfl rfl ?_
        rw [hasAddress_perm hput, hasAddress_perm hl, hasAddress_cons, hasAddress_cons,
          or_iff_right hx, or_iff_right hxold]
      · obtain ⟨hexcl, hrest⟩ := ht st old hst hold x hxold hx hidx
        -- What the old session gives up is an address, and no other session has it.
        have haddress : HasAddress [old] x := ⟨old, by simp, hxold⟩
        rw [identifiers_recordActivity, haddress.mem_identifiers_iff, hasAddress_perm hput,
          hasAddress_cons]
        exact ⟨not_or.2 ⟨hx, hrest⟩, hexcl⟩
    next hnone =>
      -- A session with a new id is appended, and nothing goes off the index.
      have hput := putPduSession_of_find?_eq_none hnone
      refine ⟨h.tight.relinkOwned _ [] (fun x hx => ?_) nofun (fun x hx _ => ?_) nofun,
        h.filed.insert hkey⟩
      · rw [identifiers_recordActivity, mem_identifiers, hput, hasAddress_append]
        exact .inr (.inr (.inr ⟨pdu, by simp, hx⟩))
      · rw [hc, identifiers_recordActivity]
        refine mem_identifiers_congr rfl rfl ?_
        rw [hput, hasAddress_append, or_iff_left]
        simpa [HasAddress] using hx

theorem Consistent.removePduSession (h : s.Consistent) {key : UeKey} {pduSessionId : String}
    {now : ℤ} (ht : (UeOp.removePduSession key pduSessionId now).Tidy s) :
    (s.removePduSession key pduSessionId now).2.2.Consistent := by
  rw [UeStore.removePduSession]
  split
  next => exact h
  next st hst =>
    split
    next => exact h
    next old hold =>
      have hc := carries_identifiers_iff hst
      have hl := List.perm_cons_eraseP hold
      refine ⟨h.tight.relinkOwned [] old.identifiers nofun (fun x hx => ?_)
        (fun x _ hxold => ?_) (fun x hxold hx hidx => ?_), h.filed.insert (h.filed _ st hst)⟩
      · rw [hc, mem_identifiers, hasAddress_perm hl, hasAddress_cons]
        exact .inr (.inr (.inl hx))
      · rw [hc, identifiers_recordActivity]
        refine mem_identifiers_congr rfl rfl ?_
        rw [hasAddress_perm hl, hasAddress_cons, or_iff_right hxold]
      · obtain ⟨hexcl, hrest⟩ := ht st old hst hold x hxold hx hidx
        have haddress : HasAddress [old] x := ⟨old, by simp, hxold⟩
        rw [identifiers_recordActivity, haddress.mem_identifiers_iff]
        exact ⟨hrest, hexcl⟩

/-! ## QoD sessions -/

/-- A PDU session with other QoD sessions has the same addresses. -/
theorem identifiers_withQodSessions (pdu : PduSessionData) (l : List String) :
    { pdu with activeQodSessionIds := l }.identifiers = pdu.identifiers := rfl

theorem Consistent.modifyQodSessions (h : s.Consistent) (key : UeKey) (pduSessionId : String)
    (f : List String → List String) (now : ℤ) :
    (s.modifyQodSessions key pduSessionId f now).2.Consistent := by
  rw [UeStore.modifyQodSessions]
  split
  next => exact h
  next st hst =>
    split
    next pdus hpdus =>
      -- The session changed has the addresses it had.
      obtain ⟨pdu, -, hl, hl'⟩ := List.replaceFirst?_perm hpdus
      refine h.replace hst (fun x => ?_) rfl
      rw [identifiers_recordActivity]
      refine mem_identifiers_congr rfl rfl ?_
      rw [hasAddress_perm hl', hasAddress_perm hl, hasAddress_cons, hasAddress_cons,
        identifiers_withQodSessions]
    next => exact h

theorem Consistent.addQodSessionToUe (h : s.Consistent) (key : UeKey)
    (pduSessionId : Option String) (qodSessionId : String) (now : ℤ) :
    (s.addQodSessionToUe key pduSessionId qodSessionId now).2.Consistent := by
  cases pduSessionId with
  | some id => exact h.modifyQodSessions key id _ now
  | none =>
    unfold UeStore.addQodSessionToUe
    extract_lets s₁ st pdus pdus'
    -- The UE is there, or is made without identifiers.
    have hs₁ : s₁.Consistent ∧ s₁.states.lookup key.getPrimaryKey = some st := by
      cases hl : s.states.lookup key.getPrimaryKey with
      | none =>
        have hadd := h.add hl (primaryKey_ofKey now key)
        simp only [s₁, st, hl, Option.isSome_none]
        exact ⟨hadd, by simp [addUeIndices, put]⟩
      | some st₀ => simp [s₁, st, hl, h]
    refine hs₁.1.replace hs₁.2 (fun x => ?_) rfl
    rw [identifiers_recordActivity]
    refine mem_identifiers_congr rfl rfl ?_
    -- The default PDU session made for a UE without any has no address.
    cases hp : st.pduSessions with
    | nil => simp [pdus', pdus, hp, HasAddress, PduSessionData.identifiers]
    | cons pdu l => simp [pdus', pdus, hp, identifiers_withQodSessions]

theorem Consistent.removeQodSessionFromUe (h : s.Consistent) (key : UeKey)
    (qodSessionId : String) (now : ℤ) :
    (s.removeQodSessionFromUe key qodSessionId now).2.Consistent := by
  rw [UeStore.removeQodSessionFromUe]
  split
  next => exact h
  next st hst =>
    split_ifs
    · refine h.replace hst (fun x => ?_) rfl
      rw [identifiers_recordActivity]
      refine mem_identifiers_congr rfl rfl ?_
      simp [HasAddress, identifiers_withQodSessions]
    · exact h

/-! ## Runs -/

/-- A tidy operation keeps the store consistent. -/
theorem Consistent.next (h : s.Consistent) {op : UeOp} (ht : op.Tidy s) {s' : UeStore}
    (hs' : s.next op = some s') : s'.Consistent := by
  -- An operation that throws leaves the store as it is; the others have their lemmas.
  have hperform : ∀ s', s.perform op = .ok s' → s'.Consistent := by
    intro s' hs'
    cases op with
    | query => exact Except.ok.inj hs' ▸ h
    | updateUeState => exact Except.ok.inj hs' ▸ h.updateUeState ht
    | createOrUpdateProvisionalUeState =>
      exact Except.ok.inj hs' ▸ h.createOrUpdateProvisionalUeState ht
    | promoteUeStateToResolved =>
      obtain ⟨r, hr, rfl⟩ := Json.map_eq_ok.1 hs'
      exact h.promoteUeStateToResolved ht hr
    | mergeUeStates =>
      obtain ⟨r, hr, rfl⟩ := Json.map_eq_ok.1 hs'
      exact h.mergeUeStates ht hr
    | removeUeState => exact Except.ok.inj hs' ▸ h.removeUeState ht
    | updateUeGpsi => exact Except.ok.inj hs' ▸ h.updateUeGpsi ht
    | updateUe => exact Except.ok.inj hs' ▸ h.updateDatum ..
    | addOrUpdatePduSession => exact Except.ok.inj hs' ▸ h.addOrUpdatePduSession ht
    | removePduSession => exact Except.ok.inj hs' ▸ h.removePduSession ht
    | removeNonPrimaryUeIdentifier =>
      exact Except.ok.inj hs' ▸ h.removeNonPrimaryUeIdentifier ..
    | addQodSessionToUe => exact Except.ok.inj hs' ▸ h.addQodSessionToUe ..
    | removeQodSessionFromUe => exact Except.ok.inj hs' ▸ h.removeQodSessionFromUe ..
    | addQodSessionToPduSession => exact Except.ok.inj hs' ▸ h.modifyQodSessions ..
    | removeQodSessionFromPduSession => exact Except.ok.inj hs' ▸ h.modifyQodSessions ..
    | cleanupExpiredProvisionalStates =>
      exact Except.ok.inj hs' ▸ h.cleanupExpiredProvisionalStates ht
  rcases UeStore.next_cases hs' with hs' | rfl
  · exact hperform s' hs'
  · exact h

/-- In every run of tidy operations the store is coherent in every state. -/
theorem coherent_of_reachable_tidy {s : UeStore} (hs : (ueSystem.restrict UeOp.Tidy).Reachable s) :
    s.Coherent identifiers primaryKey := by
  have hconsistent : s.Consistent := by
    refine hs.invariant (fun s hinit => ?_) fun s op s' _ h hstep => ?_
    · exact (show s = .empty from hinit) ▸ consistent_empty
    · exact h.next hstep.1 hstep.2
  exact hconsistent.coherent

/-- The key of a UE with a given SUPI. -/
def keyOf (supi : String) : UeKey := { type := .supiBased, supiValue := some supi, sole := .supi _ }

/-- A UE with a SUPI and a GPSI, made from the SUPI and given the GPSI. -/
def subscriber (supi gpsi : String) : AfUeSubscriptionState where
  ueKey := keyOf supi
  supi := some ⟨supi⟩
  gpsi := some ⟨gpsi⟩
  resolutionState := .resolved
  supiResolvedAt := some 0
  createdAt := 0
  lastUpdated := 0

/-- A run of tidy operations: a subscriber is stored and changes its GPSI. -/
theorem coherent_after_gpsi_change : ∃ s : UeStore, (ueSystem.restrict UeOp.Tidy).Reachable s ∧
    s.index.lookup ⟨.gpsi, "+222"⟩ = some "supi:imsi-001010000000001" ∧
    s.Coherent identifiers primaryKey := by
  let ops : List UeOp := [.updateUeState (subscriber "imsi-001010000000001" "+111"),
    .updateUeGpsi (keyOf "imsi-001010000000001") ⟨"+222"⟩ 1]
  have h₁ : (ueSystem.restrict UeOp.Tidy).Reachable
      (UeStore.updateUeState (subscriber "imsi-001010000000001" "+111") .empty) := by
    refine .step (.init rfl) (a := ops[0]) ⟨?_, rfl⟩
    rintro x ⟨st, hst, -⟩
    simp [Indexed.empty] at hst
  have h₂ : (ueSystem.restrict UeOp.Tidy).Reachable (UeStore.updateUeGpsi
      (keyOf "imsi-001010000000001") ⟨"+222"⟩ 1
      (UeStore.updateUeState (subscriber "imsi-001010000000001" "+111") .empty)).2 := by
    refine .step h₁ (a := ops[1]) ⟨?_, rfl⟩
    -- The subscriber is the only UE in the store.
    rintro st old - - - k' hk' ⟨st', hst', -⟩
    have hmem := AList.mem_keys.1 (AList.lookup_isSome.1 (Option.isSome_of_eq_some hst'))
    exact hk' (List.mem_singleton.1 hmem)
  exact ⟨_, h₂, rfl, coherent_of_reachable_tidy h₂⟩

/-- Two subscribers are stored with one GPSI, and the second is removed. -/
def sharedGpsiRun : List UeOp :=
  [.updateUeState (subscriber "imsi-001010000000001" "+111"),
    .updateUeState (subscriber "imsi-001010000000002" "+111"),
    .removeUeState (keyOf "imsi-001010000000002")]

/-- Removing a UE takes the GPSI of another one off the index. -/
theorem not_coherent_after_shared_gpsi : ∃ s, sharedGpsiRun.foldlM UeStore.next .empty = some s ∧
    ueSystem.Reachable s ∧ ¬s.Coherent identifiers primaryKey := by
  refine ⟨_, rfl, System.reachable_of_run sharedGpsiRun (.init rfl) rfl, fun h => ?_⟩
  -- The first subscriber alone carries the GPSI, which has no entry.
  have hx := h.complete ⟨.gpsi, "+111"⟩ "supi:imsi-001010000000001"
    ⟨subscriber "imsi-001010000000001" "+111", rfl, by decide⟩
  have hnone := hx fun k' ⟨st', hst', _⟩ => by
    have hmem := AList.mem_keys.1 (AList.lookup_isSome.1 (Option.isSome_of_eq_some hst'))
    exact List.mem_singleton.1 hmem
  exact absurd hnone nofun

end UeStore

end PhineAf

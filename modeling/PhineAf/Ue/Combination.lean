import PhineAf.Lib.Keyed
import PhineAf.Ue.Association
import PhineAf.Ue.Indices

/-!
# Two states of one UE made one

A merge of two UEs and an update with initial data both make one state of two. It
combines them (`Combines`) if it has what either knows of the UE, and on a PDU session
both have the QoD sessions of both. Neither operation does so in general:

* a merge leaves out the SUPI, the GPSI, the IPv6 prefixes and the MAC addresses of the
  secondary state, and the QoD sessions on PDU sessions the primary state has; it takes
  the entries of other UEs off the index; and it does not end when the keys are one
  (`mergeUeStates_losesNothing_iff`);
* an update takes over neither the SUPI nor the known identifiers, and the PDU sessions of
  the initial data stand for those of the state
  (`createOrUpdateProvisionalUeState_keepsBoth_iff`).
-/

namespace PhineAf

namespace AfUeSubscriptionState

variable (st : AfUeSubscriptionState)

/-- There is a PDU session with an id. -/
def HasPduSession (id : String) : Prop := List.atKey (·.pduSessionId) id st.pduSessions ≠ []

/-- The QoD sessions on the PDU sessions with an id. -/
def qodSessionsOn (id : String) : List String :=
  carried (List.atKey (·.pduSessionId) id st.pduSessions)

/-- A state has what the states of a list know of the UE: the SUPI, the identifiers and
    the PDU sessions of each, and on a PDU session they all have, their QoD sessions. -/
structure Combines (sts : List AfUeSubscriptionState) (m : AfUeSubscriptionState) : Prop where
  supi : ∀ st ∈ sts, ∀ supi, st.supi = some supi → m.supi = some supi
  known : ∀ st ∈ sts, ∀ type, st.known type ⊆ m.known type
  pduSessions : ∀ st ∈ sts, ∀ id, st.HasPduSession id → m.HasPduSession id
  qodSessions : ∀ id, (∀ st ∈ sts, st.HasPduSession id) →
    ∀ q, q ∈ m.qodSessionsOn id ↔ ∃ st ∈ sts, q ∈ st.qodSessionsOn id

variable {st}

/-- A state combines itself. -/
theorem combines_singleton : Combines [st] st where
  supi _ hst _ h := List.mem_singleton.1 hst ▸ h
  known _ hst _ := List.mem_singleton.1 hst ▸ List.Subset.refl _
  pduSessions _ hst _ h := List.mem_singleton.1 hst ▸ h
  qodSessions _ _ _ := by simp

/-- Nothing is known of a new UE. -/
theorem combines_ofKey (key : UeKey) (now : ℤ) : Combines [] (ofKey key now) where
  supi _ h := absurd h List.not_mem_nil
  known _ h := absurd h List.not_mem_nil
  pduSessions _ h := absurd h List.not_mem_nil
  qodSessions id _ q := by simp [qodSessionsOn, ofKey, carried]

theorem find?_eq_none_iff_not_hasPduSession {id : String} :
    st.pduSessions.find? (·.pduSessionId == id) = none ↔ ¬st.HasPduSession id := by
  rw [HasPduSession, not_not, ← List.head?_atKey, List.head?_eq_none_iff]

/-! ## Known identifiers added -/

theorem known_setKnown {type : KnownType} (htype : type ≠ .unknown) (l : List String)
    (type' : KnownType) :
    (st.setKnown type l).known type' = if type' = type then l else st.known type' := by
  cases type <;> cases type' <;> first | rfl | exact absurd rfl htype

theorem mem_known_addKnownIdentifier (now : ℤ) {type : KnownType} (htype : type ≠ .unknown)
    {type' : KnownType} {v v' : String} :
    v' ∈ (st.addKnownIdentifier now type v).2.known type' ↔
      v' ∈ st.known type' ∨ type' = type ∧ v' = v := by
  have htouch : ∀ st : AfUeSubscriptionState, (st.touch now).known type' = st.known type' := by
    intro st
    cases type' <;> rfl
  rw [addKnownIdentifier]
  split_ifs with h
  · rw [htouch, known_setKnown htype]
    split_ifs with ht <;> simp [ht]
  · -- The value is known already.
    have hv : v ∈ st.known type := not_not.1 fun hv => h ⟨htype, hv⟩
    refine ⟨.inl, ?_⟩
    rintro (h' | ⟨rfl, rfl⟩)
    · exact h'
    · exact hv

theorem mem_known_foldl (now : ℤ) {type : KnownType} (htype : type ≠ .unknown) (vs : List String)
    {type' : KnownType} {v : String} :
    v ∈ (vs.foldl (fun st v => (st.addKnownIdentifier now type v).2) st).known type' ↔
      v ∈ st.known type' ∨ type' = type ∧ v ∈ vs := by
  induction vs generalizing st with
  | nil => simp
  | cons w vs ih =>
    rw [List.foldl_cons, ih, mem_known_addKnownIdentifier now htype, List.mem_cons, or_assoc,
      and_or_left]

end AfUeSubscriptionState

open AfUeSubscriptionState

namespace UeStore

variable {st other data : AfUeSubscriptionState} {s : UeStore}

/-! ## What a merge combines -/

section Merge

theorem mem_known_mergedState (now : ℤ) {type : KnownType} {v : String} :
    v ∈ (mergedState now st other).known type ↔
      v ∈ st.known type ∨ (type = .ipv4 ∨ type = .ipv6 ∨ type = .gpsi) ∧ v ∈ other.known type := by
  have hfields : (mergedState now st other).known type = (mergeKnown now st other).known type := by
    unfold mergedState
    dsimp only
    split_ifs <;> cases type <;> rfl
  rw [hfields, mergeKnown]
  dsimp only
  rw [mem_known_foldl now (by decide), mem_known_foldl now (by decide),
    mem_known_foldl now (by decide)]
  cases type <;> simp

theorem atKey_mergePduSessions (l l' : List PduSessionData) (id : String) :
    List.atKey (·.pduSessionId) id (mergePduSessions l l') =
      if List.atKey (·.pduSessionId) id l = [] then
        (List.atKey (·.pduSessionId) id l').head?.toList
      else List.atKey (·.pduSessionId) id l :=
  List.atKey_adjoin

theorem atKey_mergedState (now : ℤ) (id : String) :
    List.atKey (·.pduSessionId) id (mergedState now st other).pduSessions =
      if List.atKey (·.pduSessionId) id st.pduSessions = [] then
        (List.atKey (·.pduSessionId) id other.pduSessions).head?.toList
      else List.atKey (·.pduSessionId) id st.pduSessions := by
  rw [(agree_mergedState st now other).pduSessions]
  exact atKey_mergePduSessions ..

theorem hasPduSession_mergedState (now : ℤ) {id : String} :
    (mergedState now st other).HasPduSession id ↔ st.HasPduSession id ∨ other.HasPduSession id := by
  simp only [HasPduSession, atKey_mergedState]
  split_ifs with h
  · cases List.atKey (·.pduSessionId) id other.pduSessions <;> simp [h]
  · simp [h]

/-- On a PDU session of both, the QoD sessions are those of the primary state. -/
theorem qodSessionsOn_mergedState (now : ℤ) {id : String} (h : st.HasPduSession id) :
    (mergedState now st other).qodSessionsOn id = st.qodSessionsOn id := by
  rw [qodSessionsOn, atKey_mergedState, if_neg h, qodSessionsOn]

/-- Exactly the identifiers a merge keeps are carried afterwards. -/
theorem mem_identifiers_mergedState_iff (now : ℤ) {x : Identifier} :
    x ∈ (mergedState now st other).identifiers ↔ MergeKeeps st other x := by
  refine ⟨fun h => ?_, mem_identifiers_mergedState now⟩
  have hm := agree_mergedState st now other
  rw [mem_identifiers, hm.supi, hm.gpsi] at h
  rcases h with h | h | ⟨pdu, hpdu, hx⟩
  · exact .inl ((mem_identifiers st).2 (.inl h))
  · exact .inl ((mem_identifiers st).2 (.inr (.inl h)))
  · rw [hm.pduSessions] at hpdu
    have hat : pdu ∈ List.atKey (·.pduSessionId) pdu.pduSessionId
        (mergePduSessions st.pduSessions other.pduSessions) := List.mem_atKey.2 ⟨hpdu, rfl⟩
    rw [atKey_mergePduSessions] at hat
    split_ifs at hat with hnew
    · rw [Option.mem_toList, List.head?_atKey] at hat
      have hnone := find?_eq_none_iff_not_hasPduSession.2 (not_not.2 hnew)
      exact .inr ⟨pdu.pduSessionId, hnone, pdu, hat, hx⟩
    · exact .inl ((mem_identifiers st).2 (.inr (.inr ⟨pdu, (List.mem_atKey.1 hat).1, hx⟩)))

/-- The GPSI of a state is carried as the GPSI or as a known one. -/
def CarriesGpsi (m st : AfUeSubscriptionState) : Prop :=
  ∀ gpsi, st.gpsi = some gpsi → m.gpsi = some gpsi ∨ gpsi.value ∈ m.knownGpsiValues

/-- What a merge leaves out of a secondary state, the primary state has. -/
structure Absorbable (st other : AfUeSubscriptionState) : Prop where
  supi : ∀ supi, other.supi = some supi → st.supi = some supi
  gpsi : ∀ gpsi, other.gpsi = some gpsi → st.gpsi = some gpsi ∨
    gpsi.value ∈ st.knownGpsiValues ∨ gpsi.value ∈ other.knownGpsiValues
  ipv6Prefixes : other.knownIpv6Prefixes ⊆ st.knownIpv6Prefixes
  macAddresses : other.knownMacAddresses ⊆ st.knownMacAddresses
  qodSessions : ∀ id, st.HasPduSession id → other.qodSessionsOn id ⊆ st.qodSessionsOn id

theorem forall_mem_pair {P : AfUeSubscriptionState → Prop} :
    (∀ st' ∈ [st, other], P st') ↔ P st ∧ P other := by
  simp

theorem mem_knownGpsiValues_mergedState (now : ℤ) {v : String} :
    v ∈ (mergedState now st other).knownGpsiValues ↔
      v ∈ st.knownGpsiValues ∨ v ∈ other.knownGpsiValues := by
  refine (mem_known_mergedState now : v ∈ (mergedState now st other).known .gpsi ↔ _).trans ?_
  simp [known]

theorem absorbable_of_combines (now : ℤ) (h : Combines [st, other] (mergedState now st other))
    (hgpsi : CarriesGpsi (mergedState now st other) other) : Absorbable st other := by
  have hm := agree_mergedState st now other
  obtain ⟨-, hknown⟩ := forall_mem_pair.1 h.known
  refine ⟨fun supi hsupi => ?_, fun gpsi ho => ?_, fun v hv => ?_, fun v hv => ?_,
    fun id hid q hq => ?_⟩
  · exact hm.supi ▸ (forall_mem_pair.1 h.supi).2 supi hsupi
  · rcases hgpsi gpsi ho with h' | h'
    · exact .inl (hm.gpsi ▸ h')
    · exact .inr ((mem_knownGpsiValues_mergedState now).1 h')
  · simpa [known] using (mem_known_mergedState now).1 (hknown .ipv6Prefix hv)
  · simpa [known] using (mem_known_mergedState now).1 (hknown .mac hv)
  · -- Without the PDU session the secondary state has no QoD sessions on it.
    by_cases ho : other.HasPduSession id
    · rw [← qodSessionsOn_mergedState now hid]
      exact (h.qodSessions id (forall_mem_pair.2 ⟨hid, ho⟩) q).2 ⟨other, by simp, hq⟩
    · rw [HasPduSession, not_not] at ho
      rw [qodSessionsOn, ho] at hq
      cases hq

theorem Absorbable.combines (now : ℤ) (h : Absorbable st other) :
    Combines [st, other] (mergedState now st other) := by
  have hm := agree_mergedState st now other
  refine ⟨forall_mem_pair.2 ⟨fun supi hs => ?_, fun supi hs => ?_⟩,
    forall_mem_pair.2 ⟨fun type v hv => ?_, fun type v hv => ?_⟩,
    forall_mem_pair.2 ⟨fun id hid => ?_, fun id hid => ?_⟩, fun id hid q => ?_⟩
  · rwa [hm.supi]
  · rw [hm.supi]
    exact h.supi supi hs
  · exact (mem_known_mergedState now).2 (.inl hv)
  · cases type
    case ipv6Prefix => exact (mem_known_mergedState now).2 (.inl (h.ipv6Prefixes hv))
    case mac => exact (mem_known_mergedState now).2 (.inl (h.macAddresses hv))
    case unknown => cases hv
    all_goals exact (mem_known_mergedState now).2 (.inr ⟨by simp, hv⟩)
  · exact (hasPduSession_mergedState now).2 (.inl hid)
  · exact (hasPduSession_mergedState now).2 (.inr hid)
  · obtain ⟨hst, -⟩ := forall_mem_pair.1 hid
    rw [qodSessionsOn_mergedState now hst]
    refine ⟨fun hq => ⟨st, by simp, hq⟩, ?_⟩
    rintro ⟨st', hst', hq⟩
    rcases List.mem_pair.1 hst' with rfl | rfl
    · exact hq
    · exact h.qodSessions id hst hq

theorem Absorbable.carriesGpsi (now : ℤ) (h : Absorbable st other) :
    ∀ st' ∈ [st, other], CarriesGpsi (mergedState now st other) st' := by
  have hm := agree_mergedState st now other
  refine forall_mem_pair.2 ⟨fun gpsi hg => .inl (hm.gpsi.trans hg), fun gpsi hg => ?_⟩
  rcases h.gpsi gpsi hg with h' | h'
  · exact .inl (hm.gpsi.trans h')
  · exact .inr ((mem_knownGpsiValues_mergedState now).2 h')

/-- A merge combines the two states exactly if the primary state has what it leaves out. -/
theorem combines_mergedState_iff (now : ℤ) :
    (Combines [st, other] (mergedState now st other) ∧
      ∀ st' ∈ [st, other], CarriesGpsi (mergedState now st other) st') ↔ Absorbable st other :=
  ⟨fun ⟨h, hgpsi⟩ => absorbable_of_combines now h (hgpsi other (by simp)),
    fun h => ⟨h.combines now, h.carriesGpsi now⟩⟩

/-! ## Merges that lose nothing -/

/-- What is to hold after a merge of the UE `k'` into the UE `k`: the state under `k`
    combines those of both, and other UEs have their states and index entries. -/
structure Merged (s s' : UeStore) (k k' : String) (st other : AfUeSubscriptionState) : Prop where
  combined : ∃ m, s'.states.lookup k = some m ∧ Combines [st, other] m ∧
    ∀ st' ∈ [st, other], CarriesGpsi m st'
  absorbed : k' ≠ k → s'.states.lookup k' = none
  others : ∀ l, l ≠ k → l ≠ k' → s'.states.lookup l = s.states.lookup l
  entries : ∀ l, l ≠ k → l ≠ k' → (s.states.lookup l).isSome →
    ∀ x, s'.index.lookup x = some l ↔ s.index.lookup x = some l

/-- `merge_ue_states` returns true and loses nothing. -/
def LosesNothing (s : UeStore) (primaryKey secondaryKey : UeKey) (now : ℤ)
    (st other : AfUeSubscriptionState) : Prop :=
  ∃ s', s.mergeUeStates primaryKey secondaryKey now = .ok (true, s') ∧
    Merged s s' primaryKey.getPrimaryKey secondaryKey.getPrimaryKey st other

/-- The keys differ, the primary state has what the merge leaves out, and the index
    points an identifier of the two to a third UE exactly if the merge does: if it keeps
    the identifier, and the primary state has the key of that UE. -/
structure Mergeable (s : UeStore) (k k' : String) (st other : AfUeSubscriptionState) : Prop where
  distinct : k ≠ k'
  absorbable : Absorbable st other
  entries : ∀ l, l ≠ k → l ≠ k' → (s.states.lookup l).isSome →
    ∀ x, x ∈ st.identifiers ∨ x ∈ other.identifiers →
      (s.index.lookup x = some l ↔ st.primaryKey = l ∧ MergeKeeps st other x)

theorem MergeKeeps.mem {x : Identifier} (h : MergeKeeps st other x) :
    x ∈ st.identifiers ∨ x ∈ other.identifiers := by
  rcases h with h | ⟨id, -, pdu, hpdu, hx⟩
  · exact .inl h
  · exact .inr ((mem_identifiers other).2 (.inr (.inr ⟨pdu, List.mem_of_find?_eq_some hpdu, hx⟩)))

/-- An identifier the merge keeps points to the key of the primary state, the others of
    the two states have no entry. -/
theorem lookup_index_merged_iff (now : ℤ) (t : Table String AfUeSubscriptionState)
    {x : Identifier} {l : String} :
    (addUeIndices (mergedState now st other)
      ⟨t, unlink other.identifiers (unlink st.identifiers s.index)⟩).index.lookup x = some l ↔
      st.primaryKey = l ∧ MergeKeeps st other x ∨
        ¬(x ∈ st.identifiers ∨ x ∈ other.identifiers) ∧ s.index.lookup x = some l := by
  have hkey : (mergedState now st other).primaryKey = st.primaryKey :=
    (agree_mergedState st now other).primaryKey
  rw [addUeIndices, lookup_link, lookup_unlink, lookup_unlink, hkey,
    ← mem_identifiers_mergedState_iff now]
  split_ifs with hm ho hs
  · have hmem := ((mem_identifiers_mergedState_iff now).1 hm).mem
    simp [hm, hmem]
  · simp [hm, ho]
  · simp [hm, hs]
  · simp [hm, ho, hs]

theorem mergeUeStates_losesNothing_iff {primaryKey secondaryKey : UeKey} (now : ℤ)
    (hst : s.states.lookup primaryKey.getPrimaryKey = some st)
    (hother : s.states.lookup secondaryKey.getPrimaryKey = some other) :
    s.LosesNothing primaryKey secondaryKey now st other ↔
      s.Mergeable primaryKey.getPrimaryKey secondaryKey.getPrimaryKey st other := by
  rw [LosesNothing, mergeUeStates, hst, hother]
  dsimp only
  split_ifs with hne
  · -- One key: the state is used after it is erased.
    refine iff_of_false ?_ fun h => h.distinct hne
    rintro ⟨s', h, -⟩
    cases h
  have hlookup : ∀ l, ((s.states.insert primaryKey.getPrimaryKey (mergedState now st other)).erase
      secondaryKey.getPrimaryKey).lookup l =
      if l = secondaryKey.getPrimaryKey then none
      else if l = primaryKey.getPrimaryKey then some (mergedState now st other)
      else s.states.lookup l := by
    intro l
    rw [Table.lookup_erase_eq, Table.lookup_insert_eq]
  constructor
  · rintro ⟨s', hs', h⟩
    obtain rfl : _ = s' := congrArg Prod.snd (Except.ok.inj hs')
    refine ⟨hne, ?_, fun l hk hk' hl x hx => ?_⟩
    · obtain ⟨m, hm, hcombined⟩ := h.combined
      obtain rfl : mergedState now st other = m := by
        refine Option.some.inj (Eq.trans ?_ hm)
        exact ((hlookup _).trans (by rw [if_neg hne, if_pos rfl])).symm
      exact (combines_mergedState_iff now).1 hcombined
    · rw [← h.entries l hk hk' hl x]
      exact (lookup_index_merged_iff now _).trans (or_iff_left fun h => h.1 hx)
  · intro h
    refine ⟨_, rfl, ⟨_, (hlookup _).trans ?_, (combines_mergedState_iff now).2 h.absorbable⟩,
      fun _ => (hlookup _).trans (if_pos rfl), fun l hk hk' => (hlookup l).trans ?_,
      fun l hk hk' hl x => ?_⟩
    · rw [if_neg hne, if_pos rfl]
    · rw [if_neg hk', if_neg hk]
    · refine (lookup_index_merged_iff now _).trans ?_
      by_cases hx : x ∈ st.identifiers ∨ x ∈ other.identifiers
      · rw [h.entries l hk hk' hl x hx, or_iff_left fun h => h.1 hx]
      · rw [or_iff_right fun h => hx h.2.mem, and_iff_right hx]

/-- A store of two UEs: a subscriber, and a device known by an address, each with a PDU
    session of its own id. -/
def twoUes (st other : AfUeSubscriptionState) : UeStore :=
  updateUeState other (updateUeState st .empty)

/-- The subscriber, with a QoD session on its PDU session. -/
def mergePrimary : AfUeSubscriptionState :=
  { subscriber "imsi-001010000000001" "+111" with
    pduSessions := [{ pduSessionId := "1", activeQodSessionIds := ["q1"] }] }

/-- The device, with another QoD session on a PDU session. -/
def mergeSecondary (pduSessionId : String) : AfUeSubscriptionState :=
  { ofKey (ipv4KeyOf "10.0.0.1") 0 with
    knownIpv4Addresses := ["10.0.0.1"]
    pduSessions := [{ pduSessionId, activeQodSessionIds := ["q2"] }] }

/-- A device whose PDU session has an id of its own is merged. -/
theorem mergeUeStates_losesNothing_two :
    (twoUes mergePrimary (mergeSecondary "2")).LosesNothing (keyOf "imsi-001010000000001")
      (ipv4KeyOf "10.0.0.1") 1 mergePrimary (mergeSecondary "2") := by
  refine (mergeUeStates_losesNothing_iff 1 rfl rfl).2 ⟨by decide, ⟨?_, ?_, ?_, ?_, ?_⟩, ?_⟩
  · intro supi h
    cases h
  · intro gpsi h
    cases h
  · exact List.nil_subset _
  · exact List.nil_subset _
  · intro id hid
    by_cases h : id = "1"
    · subst h
      exact List.nil_subset _
    · exact absurd (by simp [mergePrimary, List.atKey_cons, Ne.symm h]) hid
  · -- There is no third UE.
    intro l hk hk' hl
    have hmem := AList.mem_keys.1 (AList.lookup_isSome.1 hl)
    rcases List.mem_pair.1 hmem with rfl | rfl
    · exact absurd rfl hk'
    · exact absurd rfl hk

/-- If the PDU sessions have one id, the QoD session of the device is lost. -/
theorem not_mergeUeStates_losesNothing : ¬∀ (s : UeStore) (primaryKey secondaryKey : UeKey)
    (now : ℤ) (st other : AfUeSubscriptionState),
    s.states.lookup primaryKey.getPrimaryKey = some st →
    s.states.lookup secondaryKey.getPrimaryKey = some other →
    s.LosesNothing primaryKey secondaryKey now st other := by
  intro h
  obtain ⟨s', hs', hm⟩ := h (twoUes mergePrimary (mergeSecondary "1"))
    (keyOf "imsi-001010000000001") (ipv4KeyOf "10.0.0.1") 1 _ _ rfl rfl
  obtain rfl := congrArg Prod.snd (Except.ok.inj hs')
  obtain ⟨m, hstored, hc, -⟩ := hm.combined
  obtain rfl := Option.some.inj hstored
  have hboth : ∀ st ∈ [mergePrimary, mergeSecondary "1"], st.HasPduSession "1" := by
    simp [HasPduSession, List.atKey, mergePrimary, mergeSecondary]
  have hq := (hc.qodSessions "1" hboth "q2").2 ⟨mergeSecondary "1", by simp, by decide⟩
  exact absurd hq (by decide)

end Merge

/-! ## What an update combines -/

section Update

theorem exists_foldl_addOrUpdatePduSession (st : AfUeSubscriptionState) (now : ℤ)
    (pdus : List PduSessionData) :
    ∃ u, pdus.foldl (fun st pdu => st.addOrUpdatePduSession now pdu) st =
      { st with
        pduSessions := pdus.foldl (fun l pdu => putPduSession pdu l) st.pduSessions
        lastUpdated := u } := by
  induction pdus generalizing st with
  | nil => exact ⟨_, rfl⟩
  | cons pdu pdus ih =>
    obtain ⟨u, hu⟩ := ih (st.addOrUpdatePduSession now pdu)
    exact ⟨u, hu⟩

/-- The fields of the initial data that are taken over. -/
theorem exists_mergeInitialData (st data : AfUeSubscriptionState) (now : ℤ) :
    ∃ t u, mergeInitialData now st data =
      { st with
        gpsi := data.gpsi.or st.gpsi
        locationInfo := data.locationInfo.or st.locationInfo
        locationTimestamp := t
        accessMobilityData := data.accessMobilityData.or st.accessMobilityData
        uePolicyDataInfo := data.uePolicyDataInfo.or st.uePolicyDataInfo
        pduSessions := data.pduSessions.foldl (fun l pdu => putPduSession pdu l) st.pduSessions
        lastUpdated := u } := by
  unfold mergeInitialData
  extract_lets st₁ st₂ st₃ st₄
  obtain ⟨u, hu⟩ := exists_foldl_addOrUpdatePduSession st₄ now data.pduSessions
  rw [hu]
  simp only [st₄, st₃, st₂, st₁]
  cases data.gpsi <;> cases data.locationInfo <;> cases data.accessMobilityData <;>
    cases data.uePolicyDataInfo <;> exact ⟨_, _, rfl⟩

theorem atKey_mergeInitialData (now : ℤ) (id : String) :
    List.atKey (·.pduSessionId) id (mergeInitialData now st data).pduSessions =
      (List.atKey (·.pduSessionId) id data.pduSessions).getLast?.elim
        (List.atKey (·.pduSessionId) id st.pduSessions)
        fun pdu => pdu :: (List.atKey (·.pduSessionId) id st.pduSessions).tail := by
  obtain ⟨t, u, h⟩ := exists_mergeInitialData st data now
  rw [h]
  exact List.atKey_foldl_upsert

theorem hasPduSession_mergeInitialData (now : ℤ) {id : String} :
    (mergeInitialData now st data).HasPduSession id ↔
      st.HasPduSession id ∨ data.HasPduSession id := by
  rw [HasPduSession, HasPduSession, HasPduSession, atKey_mergeInitialData]
  cases h : (List.atKey (·.pduSessionId) id data.pduSessions).getLast? with
  | none => simp [List.getLast?_eq_none_iff.1 h]
  | some pdu => simpa using .inr fun hnil => by simp [hnil] at h

/-- On a PDU session of both, the QoD sessions left by an update: those of the last PDU
    session of the data, and of the PDU sessions of the state that repeat the id. -/
def qodSessionsLeft (st data : AfUeSubscriptionState) (id : String) : List String :=
  carried ((List.atKey (·.pduSessionId) id data.pduSessions).getLast?.toList ++
    (List.atKey (·.pduSessionId) id st.pduSessions).tail)

theorem qodSessionsOn_mergeInitialData (now : ℤ) {id : String} (h : data.HasPduSession id) :
    (mergeInitialData now st data).qodSessionsOn id = qodSessionsLeft st data id := by
  rw [qodSessionsOn, atKey_mergeInitialData, qodSessionsLeft]
  cases hlast : (List.atKey (·.pduSessionId) id data.pduSessions).getLast? with
  | none => exact absurd (List.getLast?_eq_none_iff.1 hlast) h
  | some pdu => rfl

theorem qodSessionsLeft_subset {id q : String} (h : q ∈ qodSessionsLeft st data id) :
    q ∈ st.qodSessionsOn id ∨ q ∈ data.qodSessionsOn id := by
  obtain ⟨pdu, hpdu, hq⟩ := List.mem_flatMap.1 h
  rcases List.mem_append.1 hpdu with hlast | htail
  · exact .inr (List.mem_flatMap.2 ⟨pdu, List.mem_of_getLast? (Option.mem_toList.1 hlast), hq⟩)
  · exact .inl (List.mem_flatMap.2 ⟨pdu, List.mem_of_mem_tail htail, hq⟩)

/-- What an update leaves out of the initial data or overwrites with them, the resulting
    state has. -/
structure Refreshable (st data : AfUeSubscriptionState) : Prop where
  supi : ∀ supi, data.supi = some supi → st.supi = some supi
  known : ∀ type, data.known type ⊆ st.known type
  qodSessions : ∀ id, st.HasPduSession id → data.HasPduSession id →
    ∀ q, q ∈ st.qodSessionsOn id ∨ q ∈ data.qodSessionsOn id → q ∈ qodSessionsLeft st data id

theorem supi_mergeInitialData (st data : AfUeSubscriptionState) (now : ℤ) :
    (mergeInitialData now st data).supi = st.supi := by
  obtain ⟨t, u, h⟩ := exists_mergeInitialData st data now
  rw [h]

theorem known_mergeInitialData (st data : AfUeSubscriptionState) (now : ℤ) (type : KnownType) :
    (mergeInitialData now st data).known type = st.known type := by
  obtain ⟨t, u, h⟩ := exists_mergeInitialData st data now
  rw [h]
  cases type <;> rfl

theorem refreshable_of_combines (now : ℤ)
    (h : Combines [st, data] (mergeInitialData now st data)) : Refreshable st data := by
  refine ⟨fun supi hd => ?_, fun type => ?_, fun id hst hdata q hq => ?_⟩
  · exact supi_mergeInitialData st data now ▸ (forall_mem_pair.1 h.supi).2 supi hd
  · exact known_mergeInitialData st data now type ▸ (forall_mem_pair.1 h.known).2 type
  · rw [← qodSessionsOn_mergeInitialData now hdata,
      h.qodSessions id (forall_mem_pair.2 ⟨hst, hdata⟩)]
    simpa using hq

theorem Refreshable.combines (now : ℤ) (h : Refreshable st data) :
    Combines [st, data] (mergeInitialData now st data) := by
  refine ⟨forall_mem_pair.2 ⟨fun supi hs => ?_, fun supi hs => ?_⟩,
    forall_mem_pair.2 ⟨fun type => ?_, fun type => ?_⟩,
    forall_mem_pair.2 ⟨fun id hid => ?_, fun id hid => ?_⟩, fun id hid q => ?_⟩
  · rwa [supi_mergeInitialData]
  · rw [supi_mergeInitialData]
    exact h.supi supi hs
  · rw [known_mergeInitialData]
    exact List.Subset.refl _
  · rw [known_mergeInitialData]
    exact h.known type
  · exact (hasPduSession_mergeInitialData now).2 (.inl hid)
  · exact (hasPduSession_mergeInitialData now).2 (.inr hid)
  · obtain ⟨hst, hdata⟩ := forall_mem_pair.1 hid
    rw [qodSessionsOn_mergeInitialData now hdata]
    constructor
    · intro hq
      simpa using qodSessionsLeft_subset hq
    · rintro ⟨st', hst', hq⟩
      refine h.qodSessions id hst hdata q ?_
      rcases List.mem_pair.1 hst' with rfl | rfl
      · exact .inl hq
      · exact .inr hq

/-- A state keeps what two sides know: it combines them, and has the GPSI, the location,
    the mobility and the policy data of the newer one where it has them. -/
structure KeepsBoth (prev data : Option AfUeSubscriptionState) (m : AfUeSubscriptionState) :
    Prop where
  combines : Combines (prev.toList ++ data.toList) m
  gpsi : m.gpsi = (data.bind (·.gpsi)).or (prev.bind (·.gpsi))
  locationInfo : m.locationInfo = (data.bind (·.locationInfo)).or (prev.bind (·.locationInfo))
  accessMobilityData : m.accessMobilityData =
    (data.bind (·.accessMobilityData)).or (prev.bind (·.accessMobilityData))
  uePolicyDataInfo : m.uePolicyDataInfo =
    (data.bind (·.uePolicyDataInfo)).or (prev.bind (·.uePolicyDataInfo))

theorem keepsBoth_mergeInitialData_iff (now : ℤ) :
    KeepsBoth (some st) (some data) (mergeInitialData now st data) ↔ Refreshable st data := by
  refine ⟨fun h => refreshable_of_combines now h.combines, fun h => ?_⟩
  refine ⟨h.combines now, ?_, ?_, ?_, ?_⟩ <;>
  · obtain ⟨t, u, h⟩ := exists_mergeInitialData st data now
    rw [h]
    rfl

theorem keepsBoth_of_eq_none : KeepsBoth (some st) none st :=
  ⟨combines_singleton, rfl, rfl, rfl, rfl⟩

/-- A new state is stored as the data are given. -/
theorem keepsBoth_new (key : UeKey) (now : ℤ) (initialData : Option AfUeSubscriptionState) :
    KeepsBoth none initialData (initialData.getD (.ofKey key now)) := by
  cases initialData with
  | none => exact ⟨combines_ofKey key now, rfl, rfl, rfl, rfl⟩
  | some data =>
    refine ⟨combines_singleton, ?_, ?_, ?_, ?_⟩ <;> exact (Option.or_none).symm

/-- An update keeps what both sides know exactly if the initial data bring, to a state
    that is there, nothing that is left out. -/
theorem createOrUpdateProvisionalUeState_keepsBoth_iff (s : UeStore) (key : UeKey)
    (initialData : Option AfUeSubscriptionState) (now : ℤ) :
    (∃ m, (s.createOrUpdateProvisionalUeState key initialData now).states.lookup
        key.getPrimaryKey = some m ∧
      KeepsBoth (s.states.lookup key.getPrimaryKey) initialData m) ↔
      ∀ st data, s.states.lookup key.getPrimaryKey = some st → initialData = some data →
        Refreshable st data := by
  rw [createOrUpdateProvisionalUeState]
  cases hst : s.states.lookup key.getPrimaryKey with
  | none =>
    refine iff_of_true ⟨_, AList.lookup_insert _, keepsBoth_new key now initialData⟩ ?_
    intro st data h
    cases h
  | some st =>
    cases initialData with
    | none =>
      refine iff_of_true ⟨st, hst, keepsBoth_of_eq_none⟩ ?_
      intro st data _ h
      cases h
    | some data =>
      constructor
      · rintro ⟨m, hm, h⟩ _ _ hst' hdata
        obtain rfl := Option.some.inj hst'
        obtain rfl := Option.some.inj hdata
        obtain rfl : mergeInitialData now st data = m :=
          Option.some.inj ((AList.lookup_insert _).symm.trans hm)
        exact (keepsBoth_mergeInitialData_iff now).1 h
      · intro h
        exact ⟨_, AList.lookup_insert _, (keepsBoth_mergeInitialData_iff now).2 (h st data rfl rfl)⟩

/-- An IPv6 address that comes with the second request of a device is not recorded. -/
theorem not_createOrUpdateProvisionalUeState_keepsBoth : ¬∀ (s : UeStore) (key : UeKey)
    (initialData : Option AfUeSubscriptionState) (now : ℤ),
    ∃ m, (s.createOrUpdateProvisionalUeState key initialData now).states.lookup
        key.getPrimaryKey = some m ∧
      KeepsBoth (s.states.lookup key.getPrimaryKey) initialData m := by
  intro h
  let key := ipv4KeyOf "10.0.0.1"
  let data := { ofKey key 1 with knownIpv6Addresses := ["2001:db8::1"] }
  obtain ⟨m, hm, hkept⟩ :=
    h (UeStore.createOrUpdateProvisionalUeState key none 0 .empty) key (some data) 1
  obtain rfl := Option.some.inj hm
  have hmem := hkept.combines.known data (by simp) .ipv6 (List.mem_singleton.2 rfl)
  exact absurd hmem List.not_mem_nil

end Update

end UeStore

end PhineAf

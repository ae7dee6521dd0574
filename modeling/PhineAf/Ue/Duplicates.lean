import PhineAf.Ue.Combination

/-!
# No duplicates inside a UE

The vectors of a UE state have no duplicates: the ids of its PDU sessions are distinct, and
so are its known identifiers of each type (`NoDuplicates`). The operations that change,
remove or look up a PDU session go to the first one with the id, and are right for that
reason only.

PDU sessions come in at several places, some of which write the vector directly. Each of
them looks for the id first, and so does every other one for what it adds: a state without
duplicates stays so, and a store of such states too, as long as what is passed in has none
(`noDuplicates_of_reachable`).
-/

namespace PhineAf

namespace AfUeSubscriptionState

variable {st st' other data : AfUeSubscriptionState}

/-- The ids of the PDU sessions are distinct, and the known identifiers of each type. -/
structure NoDuplicates (st : AfUeSubscriptionState) : Prop where
  pduSessions : (st.pduSessions.map (·.pduSessionId)).Nodup
  known : ∀ type, (st.known type).Nodup

/-- PDU sessions with distinct ids stand for those of a state. -/
theorem NoDuplicates.withPduSessions (h : st.NoDuplicates)
    (hpdus : (st'.pduSessions.map (·.pduSessionId)).Nodup)
    (hknown : ∀ type, st'.known type = st.known type) : st'.NoDuplicates where
  pduSessions := hpdus
  known type := hknown type ▸ h.known type

/-- The other data of a state do not matter. -/
theorem NoDuplicates.congr (h : st.NoDuplicates)
    (hpdus : st'.pduSessions.map (·.pduSessionId) = st.pduSessions.map (·.pduSessionId))
    (hknown : ∀ type, st'.known type = st.known type) : st'.NoDuplicates :=
  h.withPduSessions (hpdus ▸ h.pduSessions) hknown

theorem noDuplicates_ofKey (key : UeKey) (now : ℤ) : (ofKey key now).NoDuplicates where
  pduSessions := List.nodup_nil
  known type := by cases type <;> exact List.nodup_nil

theorem known_touch (now : ℤ) (type : KnownType) : (st.touch now).known type = st.known type := by
  cases type <;> rfl

theorem pduSessions_setKnown (type : KnownType) (l : List String) :
    (st.setKnown type l).pduSessions = st.pduSessions := by
  cases type <;> rfl

/-- Known identifiers without duplicates stand for those of a type. -/
theorem NoDuplicates.setKnown (h : st.NoDuplicates) {type : KnownType} {l : List String}
    (hl : l.Nodup) : (st.setKnown type l).NoDuplicates where
  pduSessions := by
    rw [pduSessions_setKnown]
    exact h.pduSessions
  known type' := by
    by_cases htype : type = .unknown
    · subst htype
      exact h.known type'
    · rw [known_setKnown htype]
      split_ifs
      · exact hl
      · exact h.known type'

theorem NoDuplicates.touch (h : st.NoDuplicates) (now : ℤ) : (st.touch now).NoDuplicates :=
  h.congr rfl (known_touch now)

/-! ## The mutators -/

theorem NoDuplicates.addKnownIdentifier (h : st.NoDuplicates) (now : ℤ) (type : KnownType)
    (value : String) : (st.addKnownIdentifier now type value).2.NoDuplicates := by
  rw [AfUeSubscriptionState.addKnownIdentifier]
  split_ifs with hnew
  · refine (h.setKnown ?_).touch now
    exact (h.known type).append (List.nodup_singleton _) (List.disjoint_singleton.2 hnew.2)
  · exact h

theorem NoDuplicates.foldl_addKnownIdentifier (h : st.NoDuplicates) (now : ℤ) (type : KnownType)
    (values : List String) :
    (values.foldl (fun st v => (st.addKnownIdentifier now type v).2) st).NoDuplicates := by
  induction values generalizing st with
  | nil => exact h
  | cons v values ih => exact ih (h.addKnownIdentifier now type v)

theorem NoDuplicates.removeKnownIdentifier (h : st.NoDuplicates) (now : ℤ) (type : KnownType)
    (value : String) : (st.removeKnownIdentifier now type value).2.NoDuplicates := by
  have hrest : (st.setKnown type ((st.known type).erase value)).NoDuplicates :=
    h.setKnown ((h.known type).erase value)
  rw [AfUeSubscriptionState.removeKnownIdentifier]
  split
  · refine NoDuplicates.touch ?_ now
    split
    · exact hrest.congr rfl fun type => by cases type <;> rfl
    · exact hrest
  · exact h

theorem NoDuplicates.resolveSupi (h : st.NoDuplicates) {now : ℤ} {supi : Supi}
    (hst' : st.resolveSupi now supi = .ok st') : st'.NoDuplicates := by
  have hassign : ∀ key, (st.assignSupi now key supi).NoDuplicates := fun key =>
    h.congr rfl fun type => by cases type <;> rfl
  rw [AfUeSubscriptionState.resolveSupi] at hst'
  split_ifs at hst'
  · exact Except.ok.inj hst' ▸ h
  · exact Except.ok.inj hst' ▸ hassign _
  · cases hkey : UeKey.fromSupi supi with
    | error e =>
      rw [hkey] at hst'
      cases hst'
    | ok key =>
      rw [hkey] at hst'
      exact Except.ok.inj hst' ▸ hassign key

/-- A PDU session that is put under its id. -/
theorem NoDuplicates.putPduSession (h : st.NoDuplicates) (pdu : PduSessionData) (now : ℤ) :
    ({ st with pduSessions := AfUeSubscriptionState.putPduSession pdu st.pduSessions }.recordActivity
      now).NoDuplicates :=
  h.withPduSessions (List.nodup_upsert h.pduSessions) fun type => by cases type <;> rfl

/-- A PDU session that is removed. -/
theorem NoDuplicates.eraseP (h : st.NoDuplicates) (p : PduSessionData → Bool) (now : ℤ) :
    ({ st with pduSessions := st.pduSessions.eraseP p }.recordActivity now).NoDuplicates :=
  h.withPduSessions (h.pduSessions.sublist (List.eraseP_sublist.map _)) fun type => by
    cases type <;> rfl

/-- PDU sessions that are changed without a change of the ids. -/
theorem NoDuplicates.withSameIds (h : st.NoDuplicates) {pdus : List PduSessionData}
    (hpdus : pdus.map (·.pduSessionId) = st.pduSessions.map (·.pduSessionId)) (now : ℤ) :
    ({ st with pduSessions := pdus }.recordActivity now).NoDuplicates :=
  h.congr hpdus fun type => by cases type <;> rfl

end AfUeSubscriptionState

open AfUeSubscriptionState

/-- What an operation brings in has no duplicates, and two UEs that are merged are two. -/
def UeOp.Clean : UeOp → Prop
  | .updateUeState st => st.NoDuplicates
  | .createOrUpdateProvisionalUeState _ initialData _ =>
    ∀ data, initialData = some data → data.NoDuplicates
  | .mergeUeStates primaryKey secondaryKey _ =>
    primaryKey.getPrimaryKey ≠ secondaryKey.getPrimaryKey
  | _ => True

namespace UeStore

variable {s : UeStore} {k : String} {st other data : AfUeSubscriptionState}

/-- No stored state has duplicates. -/
structure DuplicateFree (states : Table String AfUeSubscriptionState) : Prop where
  stored : ∀ {k st}, states.lookup k = some st → st.NoDuplicates

theorem duplicateFree_empty : DuplicateFree ∅ where
  stored h := by simp at h

theorem DuplicateFree.insert (h : DuplicateFree s.states) (hst : st.NoDuplicates) :
    DuplicateFree (s.states.insert k st) where
  stored hst' := by
    rw [Table.lookup_insert_eq] at hst'
    split_ifs at hst'
    · exact Option.some.inj hst' ▸ hst
    · exact h.stored hst'

theorem DuplicateFree.erase {t : Table String AfUeSubscriptionState} (h : DuplicateFree t) :
    DuplicateFree (t.erase k) where
  stored hst' := by
    rw [Table.lookup_erase_eq] at hst'
    split_ifs at hst'
    exact h.stored hst'

/-! ## States made of two -/

theorem noDuplicates_mergeInitialData (h : st.NoDuplicates) (now : ℤ) :
    (mergeInitialData now st data).NoDuplicates := by
  obtain ⟨t, u, hmerge⟩ := exists_mergeInitialData st data now
  rw [hmerge]
  exact h.withPduSessions (List.nodup_foldl_upsert h.pduSessions) fun type => by cases type <;> rfl

theorem noDuplicates_mergedState (h : st.NoDuplicates) (now : ℤ) :
    (mergedState now st other).NoDuplicates := by
  have hknown : (mergeKnown now st other).NoDuplicates :=
    ((h.foldl_addKnownIdentifier now .ipv4 _).foldl_addKnownIdentifier now .ipv6 _)
      |>.foldl_addKnownIdentifier now .gpsi _
  unfold mergedState
  extract_lets merged pdus modified st'
  split
  · exact hknown.withPduSessions (List.nodup_adjoin hknown.pduSessions) fun type => by
      cases type <;> rfl
  · exact hknown.withPduSessions (List.nodup_adjoin hknown.pduSessions) fun type => by
      cases type <;> rfl

/-! ## The operations -/

theorem DuplicateFree.updateUeState (h : DuplicateFree s.states) (hst : st.NoDuplicates) :
    DuplicateFree (s.updateUeState st).states := by
  rw [UeStore.updateUeState]
  split
  · exact h.insert hst
  · exact h.insert hst

theorem DuplicateFree.createOrUpdateProvisionalUeState (h : DuplicateFree s.states) {key : UeKey}
    {initialData : Option AfUeSubscriptionState} {now : ℤ}
    (hdata : ∀ data, initialData = some data → data.NoDuplicates) :
    DuplicateFree (s.createOrUpdateProvisionalUeState key initialData now).states := by
  rw [UeStore.createOrUpdateProvisionalUeState]
  split
  next st hst =>
    cases initialData with
    | none => exact h
    | some data => exact h.insert (noDuplicates_mergeInitialData (h.stored hst) now)
  next =>
    cases initialData with
    | none => exact h.insert (noDuplicates_ofKey key now)
    | some data => exact h.insert (hdata data rfl)

theorem DuplicateFree.mergeUeStates (h : DuplicateFree s.states)
    {primaryKey secondaryKey : UeKey} {now : ℤ} {r : Bool × UeStore}
    (hr : s.mergeUeStates primaryKey secondaryKey now = .ok r) :
    DuplicateFree r.2.states := by
  rw [UeStore.mergeUeStates] at hr
  split at hr
  next st other hst hother =>
    split_ifs at hr
    exact Except.ok.inj hr ▸ (h.insert (noDuplicates_mergedState (h.stored hst) now)).erase
  next => exact Except.ok.inj hr ▸ h

theorem DuplicateFree.promoteUeStateToResolved (h : DuplicateFree s.states) {currentKey : UeKey}
    {supi : Supi} {now : ℤ} {r : Bool × UeStore}
    (hr : s.promoteUeStateToResolved currentKey supi now = .ok r) : DuplicateFree r.2.states := by
  rw [UeStore.promoteUeStateToResolved] at hr
  split at hr
  next => exact Except.ok.inj hr ▸ h
  next st hst =>
    obtain ⟨supiKey, -, hr⟩ := Json.bind_eq_ok.1 hr
    split_ifs at hr
    · obtain ⟨st', hst', hr⟩ := Json.bind_eq_ok.1 hr
      exact Except.ok.inj hr ▸ h.insert ((h.stored hst).resolveSupi hst')
    · exact h.mergeUeStates hr
    · obtain ⟨st', hst', hr⟩ := Json.bind_eq_ok.1 hr
      exact Except.ok.inj hr ▸ h.erase.insert ((h.stored hst).resolveSupi hst')

theorem DuplicateFree.removeUeState (h : DuplicateFree s.states) (key : UeKey) :
    DuplicateFree (s.removeUeState key).2.states := by
  rw [UeStore.removeUeState]
  split
  · exact h.erase
  · exact h

theorem DuplicateFree.updateUeGpsi (h : DuplicateFree s.states) (key : UeKey) (gpsi : Gpsi)
    (now : ℤ) : DuplicateFree (s.updateUeGpsi key gpsi now).2.states := by
  rw [UeStore.updateUeGpsi]
  split
  next st hst => exact h.insert ((h.stored hst).congr rfl fun type => by cases type <;> rfl)
  next => exact h

/-- A datum that is updated is neither a PDU session nor a known identifier. -/
theorem DuplicateFree.updateUe (h : DuplicateFree s.states) {key : UeKey}
    {f : AfUeSubscriptionState → AfUeSubscriptionState}
    (hpdus : ∀ st, (f st).pduSessions = st.pduSessions)
    (hknown : ∀ st type, (f st).known type = st.known type) :
    DuplicateFree (s.updateUe key f).2.states := by
  rw [UeStore.updateUe]
  split
  next st hst => exact h.insert ((h.stored hst).congr (by rw [hpdus]) (hknown st))
  next => exact h

theorem DuplicateFree.updateDatum (h : DuplicateFree s.states) (key : UeKey) (now : ℤ)
    (datum : UeDatum) : DuplicateFree (s.updateDatum key now datum).2.states := by
  cases datum <;> exact h.updateUe (fun _ => rfl) fun _ type => by cases type <;> rfl

theorem DuplicateFree.addOrUpdatePduSession (h : DuplicateFree s.states) (key : UeKey)
    (pdu : PduSessionData) (now : ℤ) :
    DuplicateFree (s.addOrUpdatePduSession key pdu now).2.states := by
  rw [UeStore.addOrUpdatePduSession]
  split
  next => exact h
  next st hst =>
    have hput := h.insert (k := key.getPrimaryKey) ((h.stored hst).putPduSession pdu now)
    dsimp only
    split
    · exact hput
    · exact hput

theorem DuplicateFree.removePduSession (h : DuplicateFree s.states) (key : UeKey)
    (pduSessionId : String) (now : ℤ) :
    DuplicateFree (s.removePduSession key pduSessionId now).2.2.states := by
  rw [UeStore.removePduSession]
  split
  next => exact h
  next st hst =>
    split
    · exact h
    · exact h.insert (k := key.getPrimaryKey) ((h.stored hst).eraseP _ now)

theorem DuplicateFree.removeNonPrimaryUeIdentifier (h : DuplicateFree s.states) (key : UeKey)
    (type : KnownType) (value : String) (now : ℤ) :
    DuplicateFree (s.removeNonPrimaryUeIdentifier key type value now).2.states := by
  rw [UeStore.removeNonPrimaryUeIdentifier]
  split
  next => exact h
  next st hst =>
    have hremove := (h.stored hst).removeKnownIdentifier now type value
    split
    next st' hst' =>
      rw [hst'] at hremove
      exact h.insert hremove
    next => exact h

theorem DuplicateFree.modifyQodSessions (h : DuplicateFree s.states) (key : UeKey)
    (pduSessionId : String) (f : List String → List String) (now : ℤ) :
    DuplicateFree (s.modifyQodSessions key pduSessionId f now).2.states := by
  rw [UeStore.modifyQodSessions]
  split
  next => exact h
  next st hst =>
    split
    next pdus hpdus =>
      exact h.insert ((h.stored hst).withSameIds (List.map_replaceFirst? hpdus fun _ => rfl) now)
    next => exact h

/-- The first PDU session of a UE without any has no other beside it. -/
theorem DuplicateFree.addQodSessionToUe (h : DuplicateFree s.states) (key : UeKey)
    (pduSessionId : Option String) (qodSessionId : String) (now : ℤ) :
    DuplicateFree (s.addQodSessionToUe key pduSessionId qodSessionId now).2.states := by
  cases pduSessionId with
  | some pduSessionId => exact h.modifyQodSessions ..
  | none =>
    unfold UeStore.addQodSessionToUe
    extract_lets s' st pdus pdus'
    have hs' : DuplicateFree s'.states := by
      simp only [s']
      split
      · exact h
      · exact h.insert (noDuplicates_ofKey key now)
    have hst : st.NoDuplicates := by
      simp only [st]
      cases hlookup : s'.states.lookup key.getPrimaryKey with
      | none => exact noDuplicates_ofKey key now
      | some st => exact hs'.stored hlookup
    refine hs'.insert (hst.withPduSessions ?_ fun type => by cases type <;> rfl)
    have hids : pdus'.map (·.pduSessionId) = pdus.map (·.pduSessionId) := by
      simp only [pdus']
      cases pdus <;> rfl
    change (pdus'.map (·.pduSessionId)).Nodup
    rw [hids]
    simp only [pdus]
    split
    · exact List.nodup_singleton _
    · exact hst.pduSessions

theorem DuplicateFree.removeQodSessionFromUe (h : DuplicateFree s.states) (key : UeKey)
    (qodSessionId : String) (now : ℤ) :
    DuplicateFree (s.removeQodSessionFromUe key qodSessionId now).2.states := by
  rw [UeStore.removeQodSessionFromUe]
  split
  next => exact h
  next st hst =>
    split_ifs
    · refine h.insert ((h.stored hst).withSameIds ?_ now)
      rw [List.map_map]
      rfl
    · exact h

theorem DuplicateFree.foldl_dropKey (h : DuplicateFree s.states) (keys : List String) :
    DuplicateFree (keys.foldl dropKey s).states := by
  induction keys generalizing s with
  | nil => exact h
  | cons key keys ih =>
    refine ih ?_
    rw [dropKey]
    cases s.states.lookup key with
    | none => exact h
    | some st => exact h.erase

/-! ## Runs -/

/-- An operation that brings in no duplicates makes none. -/
theorem DuplicateFree.next (h : DuplicateFree s.states) {op : UeOp} (hop : op.Clean)
    {s' : UeStore} (hs' : s.next op = some s') : DuplicateFree s'.states := by
  rcases next_cases hs' with hs' | rfl
  · cases op with
    | query => exact Except.ok.inj hs' ▸ h
    | updateUeState => exact Except.ok.inj hs' ▸ h.updateUeState hop
    | createOrUpdateProvisionalUeState =>
      exact Except.ok.inj hs' ▸ h.createOrUpdateProvisionalUeState hop
    | promoteUeStateToResolved =>
      obtain ⟨r, hr, rfl⟩ := Json.map_eq_ok.1 hs'
      exact h.promoteUeStateToResolved hr
    | mergeUeStates =>
      obtain ⟨r, hr, rfl⟩ := Json.map_eq_ok.1 hs'
      exact h.mergeUeStates hr
    | removeUeState => exact Except.ok.inj hs' ▸ h.removeUeState _
    | updateUeGpsi => exact Except.ok.inj hs' ▸ h.updateUeGpsi ..
    | updateUe => exact Except.ok.inj hs' ▸ h.updateDatum ..
    | addOrUpdatePduSession => exact Except.ok.inj hs' ▸ h.addOrUpdatePduSession ..
    | removePduSession => exact Except.ok.inj hs' ▸ h.removePduSession ..
    | removeNonPrimaryUeIdentifier =>
      exact Except.ok.inj hs' ▸ h.removeNonPrimaryUeIdentifier ..
    | addQodSessionToUe => exact Except.ok.inj hs' ▸ h.addQodSessionToUe ..
    | removeQodSessionFromUe => exact Except.ok.inj hs' ▸ h.removeQodSessionFromUe ..
    | addQodSessionToPduSession => exact Except.ok.inj hs' ▸ h.modifyQodSessions ..
    | removeQodSessionFromPduSession => exact Except.ok.inj hs' ▸ h.modifyQodSessions ..
    | cleanupExpiredProvisionalStates => exact Except.ok.inj hs' ▸ h.foldl_dropKey _
  · exact h

/-- In every run whose operations bring in no duplicates and merge a UE with another one
    only, no stored state has duplicates. -/
theorem noDuplicates_of_reachable {s : UeStore}
    (hs : (ueSystem.restrict fun _ op => op.Clean).Reachable s) {k : String}
    {st : AfUeSubscriptionState} (hst : s.states.lookup k = some st) : st.NoDuplicates := by
  have hfree : DuplicateFree s.states := by
    refine hs.invariant (P := fun s => DuplicateFree s.states) (fun s hinit => ?_)
      fun s op s' _ h hstep => ?_
    · exact (show s = .empty from hinit) ▸ duplicateFree_empty
    · exact h.next hstep.1 hstep.2
  exact hfree.stored hst

/-- A UE with the PDU session `"1"` and a known IPv4 address. -/
def connected (supi : String) : AfUeSubscriptionState :=
  { subscriber supi "+111" with
    knownIpv4Addresses := ["10.0.0.1"]
    pduSessions := [{ pduSessionId := "1" }] }

/-- Two UEs with the same address and PDU session are merged, and the PDU session is updated. -/
def mergedRun : List UeOp :=
  [.updateUeState (connected "imsi-001010000000001"),
    .updateUeState (connected "imsi-001010000000002"),
    .mergeUeStates (keyOf "imsi-001010000000001") (keyOf "imsi-001010000000002") 1,
    .addOrUpdatePduSession (keyOf "imsi-001010000000001") { pduSessionId := "1" } 2]

theorem noDuplicates_connected (supi : String) : (connected supi).NoDuplicates where
  pduSessions := List.nodup_singleton _
  known type := by cases type <;> simp [connected, subscriber, AfUeSubscriptionState.known]

/-- The UE that is left has the address and the PDU session once. -/
theorem noDuplicates_after_merge : ∃ s st, (ueSystem.restrict fun _ op => op.Clean).Reachable s ∧
    s.states.lookup "supi:imsi-001010000000001" = some st ∧
    st.knownIpv4Addresses = ["10.0.0.1"] ∧ st.NoDuplicates := by
  have hclean : ∀ op ∈ mergedRun, op.Clean := by
    simp only [mergedRun, List.forall_mem_cons, UeOp.Clean]
    exact ⟨noDuplicates_connected _, noDuplicates_connected _, by decide, trivial,
      fun _ h => absurd h List.not_mem_nil⟩
  have hlookup : ((mergedRun.foldlM UeStore.next .empty).bind fun s =>
      s.states.lookup "supi:imsi-001010000000001").map (·.knownIpv4Addresses) =
        some ["10.0.0.1"] := by decide
  obtain ⟨st, hst, hknown⟩ := Option.map_eq_some_iff.1 hlookup
  obtain ⟨s, hrun, hst⟩ := Option.bind_eq_some_iff.1 hst
  have hs : (ueSystem.restrict fun _ op => op.Clean).Reachable s :=
    System.Reachable.foldlM (T := ueSystem.restrict fun _ op => op.Clean)
      (fun op hop _ _ hstep => ⟨hclean op hop, hstep⟩) (.init rfl) hrun
  exact ⟨s, st, hs, hst, hknown, noDuplicates_of_reachable hs hst⟩

end UeStore

end PhineAf

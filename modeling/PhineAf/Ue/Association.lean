import PhineAf.Ue.Coherence

/-!
# The QoD sessions of a UE store

The ids of the QoD sessions active on the PDU sessions of the stored UEs
(`UeStore.associated`), and what the operations do to them: an operation adds the ids it
is given at most (`associated_next_subset`), so that a promotion, a merge or a clean-up
adds none; and `remove_qod_session_from_pdu_session` leaves no association of a session
exactly if the session was associated in that place only
(`not_mem_associated_remove_iff`). What holds of the sessions on every PDU session
(`Every`) is kept by each operation that keeps it at the one it is about.
-/

namespace PhineAf

namespace AfUeSubscriptionState

/-! ## The QoD sessions of a list of PDU sessions -/

/-- The QoD sessions active on PDU sessions. -/
def carried (l : List PduSessionData) : List String := l.flatMap (·.activeQodSessionIds)

/-- The QoD sessions of every PDU session satisfy `P`. -/
def Every (P : List String → Prop) (l : List PduSessionData) : Prop :=
  ∀ pdu ∈ l, P pdu.activeQodSessionIds

variable {pdu : PduSessionData} {l l' : List PduSessionData} {S : List String}
  {P : List String → Prop}

theorem carried_cons (pdu : PduSessionData) (l : List PduSessionData) :
    carried (pdu :: l) = pdu.activeQodSessionIds ++ carried l :=
  List.flatMap_cons

theorem carried_perm (h : l.Perm l') : (carried l).Perm (carried l') := h.flatMap_right _

theorem carried_subset_iff : carried l ⊆ S ↔ Every (· ⊆ S) l := by
  constructor
  · intro h pdu hpdu id hid
    exact h (List.mem_flatMap.2 ⟨pdu, hpdu, hid⟩)
  · intro h id hid
    obtain ⟨pdu, hpdu, hid⟩ := List.mem_flatMap.1 hid
    exact h pdu hpdu hid

theorem every_cons : Every P (pdu :: l) ↔ P pdu.activeQodSessionIds ∧ Every P l :=
  List.forall_mem_cons

theorem every_append : Every P (l ++ l') ↔ Every P l ∧ Every P l' := List.forall_mem_append

theorem Every.perm (hl : Every P l) (h : l.Perm l') : Every P l' :=
  fun pdu hpdu => hl pdu (h.symm.subset hpdu)

theorem Every.eraseP (hl : Every P l) (p : PduSessionData → Bool) : Every P (l.eraseP p) :=
  fun pdu hpdu => hl pdu (List.eraseP_subset hpdu)

theorem Every.putPduSession (hl : Every P l) (hpdu : P pdu.activeQodSessionIds) :
    Every P (putPduSession pdu l) := by
  cases h : l.find? (·.pduSessionId == pdu.pduSessionId) with
  | none =>
    rw [putPduSession_of_find?_eq_none h]
    exact every_append.2 ⟨hl, every_cons.2 ⟨hpdu, List.forall_mem_nil _⟩⟩
  | some old => exact (every_cons.2 ⟨hpdu, hl.eraseP _⟩).perm (putPduSession_perm h).symm

theorem Every.foldl_putPduSession {pdus : List PduSessionData} (hl : Every P l)
    (hpdus : Every P pdus) :
    Every P (pdus.foldl (fun l pdu => AfUeSubscriptionState.putPduSession pdu l) l) := by
  induction pdus generalizing l with
  | nil => exact hl
  | cons pdu pdus ih =>
    obtain ⟨hpdu, hpdus⟩ := every_cons.1 hpdus
    exact ih (hl.putPduSession hpdu) hpdus

theorem Every.mergePduSessions {other : List PduSessionData} (hl : Every P l)
    (hother : Every P other) : Every P (UeStore.mergePduSessions l other) := by
  rw [UeStore.mergePduSessions]
  induction other generalizing l with
  | nil => exact hl
  | cons pdu other ih =>
    obtain ⟨hpdu, hother⟩ := every_cons.1 hother
    refine ih ?_ hother
    dsimp only
    split
    · exact hl
    · exact every_append.2 ⟨hl, every_cons.2 ⟨hpdu, List.forall_mem_nil _⟩⟩

/-- The QoD sessions of the first PDU session with an id are changed. -/
theorem Every.replaceFirst? {pduSessionId : String} {f : List String → List String}
    (hl : Every P l) (hf : ∀ ids, P ids → P (f ids))
    (h : List.replaceFirst? (·.pduSessionId == pduSessionId)
      (fun pdu => { pdu with activeQodSessionIds := f pdu.activeQodSessionIds }) l = some l') :
    Every P l' := by
  obtain ⟨pdu, -, hperm, hperm'⟩ := List.replaceFirst?_perm h
  obtain ⟨hpdu, hrest⟩ := every_cons.1 (hl.perm hperm)
  have hnew : Every P ({ pdu with activeQodSessionIds := f pdu.activeQodSessionIds } ::
      l.eraseP (·.pduSessionId == pduSessionId)) := every_cons.2 ⟨hf _ hpdu, hrest⟩
  exact hnew.perm hperm'.symm

theorem count_carried_replaceFirst? {pduSessionId : String} {f : PduSessionData → PduSessionData}
    (h : List.replaceFirst? (·.pduSessionId == pduSessionId) f l = some l') (id : String) :
    ∃ found, l.find? (·.pduSessionId == pduSessionId) = some found ∧
      (carried l').count id + found.activeQodSessionIds.count id =
        (carried l).count id + (f found).activeQodSessionIds.count id := by
  obtain ⟨found, hfound, hl, hl'⟩ := List.replaceFirst?_perm h
  refine ⟨found, hfound, ?_⟩
  rw [(carried_perm hl).count_eq, (carried_perm hl').count_eq, carried_cons, carried_cons,
    List.count_append, List.count_append]
  omega

end AfUeSubscriptionState

open AfUeSubscriptionState

/-- The ids of the QoD sessions an operation is given to put on PDU sessions. -/
def UeOp.brings : UeOp → List String
  | .updateUeState st => carried st.pduSessions
  | .createOrUpdateProvisionalUeState _ initialData _ =>
    initialData.elim [] fun data => carried data.pduSessions
  | .addOrUpdatePduSession _ pdu _ => pdu.activeQodSessionIds
  | .addQodSessionToUe _ _ qodSessionId _ => [qodSessionId]
  | .addQodSessionToPduSession _ _ qodSessionId _ => [qodSessionId]
  | _ => []

/-- What an operation puts on PDU sessions satisfies `P`. -/
def UeOp.Keeps (P : List String → Prop) : UeOp → Prop
  | .updateUeState st => Every P st.pduSessions
  | .createOrUpdateProvisionalUeState _ initialData _ =>
    ∀ data, initialData = some data → Every P data.pduSessions
  | .addOrUpdatePduSession _ pdu _ => P pdu.activeQodSessionIds
  | .addQodSessionToUe _ _ qodSessionId _ => ∀ ids, P ids → P (ids.insert qodSessionId)
  | .addQodSessionToPduSession _ _ qodSessionId _ => ∀ ids, P ids → P (ids.insert qodSessionId)
  | _ => True

namespace UeStore

/-! ## The QoD sessions of a store -/

/-- The ids of the QoD sessions active on the PDU sessions of the stored UEs, as often as
    they are. -/
def associated (s : UeStore) : List String := s.states.contents fun st => carried st.pduSessions

/-- The QoD sessions of every PDU session of the stored UEs satisfy `P`. -/
def Every (P : List String → Prop) (s : UeStore) : Prop :=
  ∀ k st, s.states.lookup k = some st → AfUeSubscriptionState.Every P st.pduSessions

variable {s s' : UeStore} {k : String} {st st' : AfUeSubscriptionState} {S : List String}
  {P : List String → Prop}

theorem carried_subset_associated (h : s.states.lookup k = some st) :
    carried st.pduSessions ⊆ s.associated :=
  Table.subset_contents (fun st => carried st.pduSessions) h

theorem associated_subset_iff : s.associated ⊆ S ↔ s.Every (· ⊆ S) := by
  constructor
  · intro h k st hst
    exact carried_subset_iff.1 (List.Subset.trans (carried_subset_associated hst) h)
  · intro h
    exact Table.contents_subset _ fun k st hst => carried_subset_iff.2 (h k st hst)

theorem Every.put (hs : s.Every P) (hst : AfUeSubscriptionState.Every P st.pduSessions) :
    (s.put k st).Every P := by
  intro k' st' h
  rw [UeStore.put, Table.lookup_insert_eq] at h
  split_ifs at h
  · exact Option.some.inj h ▸ hst
  · exact hs k' st' h

theorem Every.drop (hs : s.Every P) : (s.drop k).Every P := by
  intro k' st h
  rw [UeStore.drop, Table.lookup_erase_eq] at h
  split_ifs at h
  exact hs k' st h

/-- The indices say nothing of the PDU sessions. -/
theorem Every.congr (hs : s.Every P) (h : s'.states = s.states) : s'.Every P := by
  intro k st hst
  rw [h] at hst
  exact hs k st hst

/-! ## One operation -/

theorem pduSessions_resolveSupi {now : ℤ} {supi : Supi} (h : st.resolveSupi now supi = .ok st') :
    st'.pduSessions = st.pduSessions := by
  rw [resolveSupi] at h
  split_ifs at h
  · cases h
    rfl
  · cases h
    rfl
  · cases hkey : UeKey.fromSupi supi with
    | error e =>
      rw [hkey] at h
      cases h
    | ok key =>
      rw [hkey] at h
      cases h
      rfl

theorem pduSessions_mergeInitialData (now : ℤ) (st data : AfUeSubscriptionState) :
    (mergeInitialData now st data).pduSessions =
      data.pduSessions.foldl (fun l pdu => putPduSession pdu l) st.pduSessions := by
  rw [mergeInitialData, (foldl_addOrUpdatePduSession _ now data.pduSessions).2.2]
  cases data.gpsi <;> cases data.locationInfo <;> cases data.accessMobilityData <;>
    cases data.uePolicyDataInfo <;> rfl

theorem pduSessions_removeKnownIdentifier (st : AfUeSubscriptionState) (now : ℤ) (type : KnownType)
    (value : String) :
    (st.removeKnownIdentifier now type value).2.pduSessions = st.pduSessions := by
  rw [removeKnownIdentifier]
  split
  · dsimp only [touch]
    split <;> cases type <;> rfl
  · rfl

theorem every_ofKey (key : UeKey) (now : ℤ) :
    AfUeSubscriptionState.Every P (AfUeSubscriptionState.ofKey key now).pduSessions :=
  List.forall_mem_nil _

theorem Every.updateUeState (hs : s.Every P)
    (hst : AfUeSubscriptionState.Every P st.pduSessions) : (s.updateUeState st).Every P := by
  rw [UeStore.updateUeState]
  split
  next old _ => exact (Every.put (s := s.removeUeIndices old) hs hst).congr rfl
  next => exact (hs.put hst).congr rfl

theorem Every.createOrUpdateProvisional {key : UeKey}
    {initialData : Option AfUeSubscriptionState} {now : ℤ} (hs : s.Every P)
    (hdata : ∀ data, initialData = some data → AfUeSubscriptionState.Every P data.pduSessions) :
    (s.createOrUpdateProvisionalUeState key initialData now).Every P := by
  rw [createOrUpdateProvisionalUeState]
  cases initialData with
  | none =>
    split
    · exact hs
    · exact (hs.put (every_ofKey key now)).congr rfl
  | some data =>
    split
    next st hst =>
      refine hs.put ?_
      rw [pduSessions_mergeInitialData]
      exact (hs _ _ hst).foldl_putPduSession (hdata data rfl)
    next => exact (hs.put (hdata data rfl)).congr rfl

theorem Every.mergeUeStates (hs : s.Every P) {primaryKey secondaryKey : UeKey} {now : ℤ}
    {r : Bool × UeStore} (h : s.mergeUeStates primaryKey secondaryKey now = .ok r) :
    r.2.Every P := by
  rw [UeStore.mergeUeStates] at h
  split at h
  next st other hst hother =>
    split_ifs at h
    cases h
    have hmerged : AfUeSubscriptionState.Every P (mergedState now st other).pduSessions := by
      rw [(agree_mergedState st now other).pduSessions]
      exact (hs _ _ hst).mergePduSessions (hs _ _ hother)
    refine Every.congr (Every.drop (k := secondaryKey.getPrimaryKey) ?_) rfl
    exact Every.put (s := (s.removeUeIndices st).removeUeIndices other) hs hmerged
  next =>
    cases h
    exact hs

theorem Every.promoteUeStateToResolved (hs : s.Every P) {currentKey : UeKey} {supi : Supi}
    {now : ℤ} {r : Bool × UeStore}
    (h : s.promoteUeStateToResolved currentKey supi now = .ok r) : r.2.Every P := by
  rw [UeStore.promoteUeStateToResolved] at h
  split at h
  next =>
    cases h
    exact hs
  next st hst =>
    simp only [bind, Except.bind] at h
    split at h
    next => cases h
    next supiKey _ =>
      split_ifs at h
      · -- The state stays under its key, or is moved to that of the SUPI, or is merged into
        -- the state stored there.
        split at h
        next => cases h
        next st' hst' =>
          cases h
          exact hs.put (pduSessions_resolveSupi hst' ▸ hs _ _ hst)
      · exact hs.mergeUeStates h
      · split at h
        next => cases h
        next st' hst' =>
          cases h
          have hdropped : ((s.removeUeIndices st).drop currentKey.getPrimaryKey).Every P :=
            Every.drop (s := s.removeUeIndices st) hs
          exact (hdropped.put (pduSessions_resolveSupi hst' ▸ hs _ _ hst)).congr rfl

theorem Every.removeUeState (hs : s.Every P) (key : UeKey) : (s.removeUeState key).2.Every P := by
  rw [UeStore.removeUeState]
  split
  next st _ => exact Every.drop (s := s.removeUeIndices st) hs
  next => exact hs

theorem Every.updateUe (hs : s.Every P) (key : UeKey)
    {f : AfUeSubscriptionState → AfUeSubscriptionState}
    (hf : ∀ st, (f st).pduSessions = st.pduSessions) : (s.updateUe key f).2.Every P := by
  rw [UeStore.updateUe]
  split
  next st hst => exact hs.put (hf st ▸ hs _ _ hst)
  next => exact hs

theorem Every.updateUeGpsi (hs : s.Every P) (key : UeKey) (gpsi : Gpsi) (now : ℤ) :
    (s.updateUeGpsi key gpsi now).2.Every P := by
  rw [UeStore.updateUeGpsi]
  split
  next st hst =>
    have hgpsi : AfUeSubscriptionState.Every P (st.setGpsi now gpsi).pduSessions := hs _ st hst
    exact (hs.put hgpsi).congr rfl
  next => exact hs

theorem Every.addOrUpdatePduSession (hs : s.Every P) {key : UeKey} {pdu : PduSessionData}
    {now : ℤ} (hpdu : P pdu.activeQodSessionIds) :
    (s.addOrUpdatePduSession key pdu now).2.Every P := by
  rw [UeStore.addOrUpdatePduSession]
  split
  next => exact hs
  next st hst =>
    have hput := (hs _ _ hst).putPduSession hpdu
    split
    next old _ =>
      exact (Every.put (s := s.removePduSessionIndices key.getPrimaryKey old) hs hput).congr rfl
    next => exact (hs.put hput).congr rfl

theorem Every.removePduSession (hs : s.Every P) (key : UeKey) (pduSessionId : String) (now : ℤ) :
    (s.removePduSession key pduSessionId now).2.2.Every P := by
  rw [UeStore.removePduSession]
  split
  next => exact hs
  next st hst =>
    split
    next => exact hs
    next old _ =>
      exact Every.put (s := s.removePduSessionIndices key.getPrimaryKey old) hs
        ((hs _ _ hst).eraseP _)

theorem Every.removeNonPrimary (hs : s.Every P) (key : UeKey) (type : KnownType) (value : String)
    (now : ℤ) : (s.removeNonPrimaryUeIdentifier key type value now).2.Every P := by
  rw [removeNonPrimaryUeIdentifier]
  split
  next => exact hs
  next st hst =>
    have hpdus := pduSessions_removeKnownIdentifier st now type value
    split
    next st' hst' =>
      rw [hst'] at hpdus
      exact (hs.put (hpdus ▸ hs _ _ hst)).congr rfl
    next => exact hs

theorem Every.modifyQodSessions (hs : s.Every P) {key : UeKey} {pduSessionId : String}
    {f : List String → List String} {now : ℤ} (hf : ∀ ids, P ids → P (f ids)) :
    (s.modifyQodSessions key pduSessionId f now).2.Every P := by
  rw [UeStore.modifyQodSessions]
  split
  next => exact hs
  next st hst =>
    split
    next pdus hpdus => exact hs.put ((hs _ _ hst).replaceFirst? hf hpdus)
    next => exact hs

theorem Every.addQodSessionToUe (hs : s.Every P) (hnil : P []) {key : UeKey}
    {pduSessionId : Option String} {qodSessionId : String} {now : ℤ}
    (hinsert : ∀ ids, P ids → P (ids.insert qodSessionId)) :
    (s.addQodSessionToUe key pduSessionId qodSessionId now).2.Every P := by
  cases pduSessionId with
  | some pduSessionId => exact hs.modifyQodSessions hinsert
  | none =>
    unfold UeStore.addQodSessionToUe
    extract_lets s₁ st pdus pdus'
    -- The UE is there, or is made without PDU sessions.
    have hs₁ : s₁.Every P ∧ AfUeSubscriptionState.Every P st.pduSessions := by
      cases hl : s.states.lookup key.getPrimaryKey with
      | none =>
        simp only [s₁, st, hl, Option.isSome_none]
        have hadd : ((s.put key.getPrimaryKey (.ofKey key now)).addUeIndices
            (.ofKey key now)).Every P :=
          (hs.put (every_ofKey key now)).congr rfl
        refine ⟨hadd, hadd key.getPrimaryKey _ ?_⟩
        simp [addUeIndices, UeStore.put]
      | some st₀ =>
        simp only [s₁, st, hl, Option.isSome_some, if_true, Option.getD_some]
        exact ⟨hs, hs _ _ hl⟩
    refine hs₁.1.put ?_
    -- The first PDU session takes the id, or one made for it.
    have hpdus : AfUeSubscriptionState.Every P pdus := by
      simp only [pdus]
      split_ifs
      · exact every_cons.2 ⟨hnil, List.forall_mem_nil _⟩
      · exact hs₁.2
    change AfUeSubscriptionState.Every P pdus'
    revert hpdus
    simp only [pdus']
    cases pdus with
    | nil => exact id
    | cons pdu l =>
      intro hpdus
      obtain ⟨hpdu, hrest⟩ := every_cons.1 hpdus
      exact every_cons.2 ⟨hinsert _ hpdu, hrest⟩

theorem Every.removeQodSessionFromUe (hs : s.Every P) (key : UeKey) {qodSessionId : String}
    (now : ℤ) (herase : ∀ ids, P ids → P (ids.erase qodSessionId)) :
    (s.removeQodSessionFromUe key qodSessionId now).2.Every P := by
  rw [UeStore.removeQodSessionFromUe]
  split
  next => exact hs
  next st hst =>
    split_ifs
    · refine hs.put fun pdu hpdu => ?_
      obtain ⟨pdu', hpdu', rfl⟩ := List.mem_map.1 hpdu
      exact herase _ (hs _ _ hst pdu' hpdu')
    · exact hs

theorem Every.cleanupExpired (hs : s.Every P) (maxAge now : ℤ) :
    (s.cleanupExpiredProvisionalStates maxAge now).Every P := by
  intro k st h
  rw [cleanupExpiredProvisionalStates, lookup_states_foldl_dropKey] at h
  split_ifs at h
  exact hs k st h

/-- What an operation puts on PDU sessions is all that can break `P`. -/
theorem Every.perform (hs : s.Every P) (hnil : P [])
    (herase : ∀ ids id, P ids → P (ids.erase id)) {op : UeOp} (hop : op.Keeps P)
    (h : s.perform op = .ok s') : s'.Every P := by
  cases op with
  | query => exact Except.ok.inj h ▸ hs
  | updateUeState => exact Except.ok.inj h ▸ hs.updateUeState hop
  | createOrUpdateProvisionalUeState => exact Except.ok.inj h ▸ hs.createOrUpdateProvisional hop
  | promoteUeStateToResolved =>
    obtain ⟨r, hr, rfl⟩ := Json.map_eq_ok.1 h
    exact hs.promoteUeStateToResolved hr
  | mergeUeStates =>
    obtain ⟨r, hr, rfl⟩ := Json.map_eq_ok.1 h
    exact hs.mergeUeStates hr
  | removeUeState => exact Except.ok.inj h ▸ hs.removeUeState _
  | updateUeGpsi => exact Except.ok.inj h ▸ hs.updateUeGpsi _ _ _
  | updateUe key datum now =>
    refine Except.ok.inj h ▸ ?_
    cases datum <;> exact hs.updateUe _ fun _ => rfl
  | addOrUpdatePduSession => exact Except.ok.inj h ▸ hs.addOrUpdatePduSession hop
  | removePduSession => exact Except.ok.inj h ▸ hs.removePduSession _ _ _
  | removeNonPrimaryUeIdentifier => exact Except.ok.inj h ▸ hs.removeNonPrimary _ _ _ _
  | addQodSessionToUe => exact Except.ok.inj h ▸ hs.addQodSessionToUe hnil hop
  | removeQodSessionFromUe =>
    exact Except.ok.inj h ▸ hs.removeQodSessionFromUe _ _ fun ids => herase ids _
  | addQodSessionToPduSession => exact Except.ok.inj h ▸ hs.modifyQodSessions hop
  | removeQodSessionFromPduSession =>
    exact Except.ok.inj h ▸ hs.modifyQodSessions fun ids => herase ids _
  | cleanupExpiredProvisionalStates => exact Except.ok.inj h ▸ hs.cleanupExpired _ _

theorem Every.next (hs : s.Every P) (hnil : P [])
    (herase : ∀ ids id, P ids → P (ids.erase id)) {op : UeOp} (hop : op.Keeps P)
    (h : s.next op = some s') : s'.Every P := by
  rcases UeStore.next_cases h with h | rfl
  · exact hs.perform hnil herase hop h
  · exact hs

/-- A PDU session put on a UE that is stored brings its QoD sessions. -/
theorem subset_associated_addOrUpdatePduSession {key : UeKey} (pdu : PduSessionData) (now : ℤ)
    (h : (s.states.lookup key.getPrimaryKey).isSome) :
    pdu.activeQodSessionIds ⊆ (s.addOrUpdatePduSession key pdu now).2.associated := by
  obtain ⟨st, hst⟩ := Option.isSome_iff_exists.1 h
  let st' := { st with pduSessions := putPduSession pdu st.pduSessions }.recordActivity now
  have hstored : (s.addOrUpdatePduSession key pdu now).2.states.lookup key.getPrimaryKey =
      some st' := by
    rw [UeStore.addOrUpdatePduSession, hst]
    dsimp only
    split <;> exact AList.lookup_insert _
  have hmem : pdu ∈ putPduSession pdu st.pduSessions := by
    cases hfind : st.pduSessions.find? (·.pduSessionId == pdu.pduSessionId) with
    | none =>
      rw [putPduSession_of_find?_eq_none hfind]
      exact List.mem_append_right _ (List.mem_singleton_self _)
    | some old => exact (putPduSession_perm hfind).symm.subset List.mem_cons_self
  exact fun id hid => carried_subset_associated hstored (List.mem_flatMap.2 ⟨pdu, hmem, hid⟩)

theorem insert_subset {qodSessionId : String} (hid : qodSessionId ∈ S) (ids : List String)
    (hids : ids ⊆ S) : ids.insert qodSessionId ⊆ S := by
  intro id hmem
  rcases List.mem_insert_iff.1 hmem with rfl | hmem
  · exact hid
  · exact hids hmem

/-- A session taken off a PDU session adds no association. -/
theorem associated_removeQodSession_subset (key : UeKey) (pduSessionId qodSessionId : String)
    (now : ℤ) : (s.removeQodSessionFromPduSession key pduSessionId qodSessionId
      now).2.associated ⊆ s.associated :=
  associated_subset_iff.2 ((associated_subset_iff.1 (List.Subset.refl _)).modifyQodSessions
    fun _ hids => List.Subset.trans List.erase_subset hids)

/-- An operation puts the ids it is given on PDU sessions at most. -/
theorem associated_next_subset {op : UeOp} (h : s.next op = some s') :
    s'.associated ⊆ s.associated ++ op.brings := by
  have hop : op.brings ⊆ s.associated ++ op.brings := List.subset_append_right _ _
  refine associated_subset_iff.2 ((associated_subset_iff.1 (List.subset_append_left _ _)).next
    (List.nil_subset _) (fun ids id h => List.Subset.trans List.erase_subset h) ?_ h)
  cases op with
  | updateUeState => exact carried_subset_iff.1 hop
  | createOrUpdateProvisionalUeState key initialData now =>
    rintro data rfl
    exact carried_subset_iff.1 hop
  | addOrUpdatePduSession => exact hop
  | addQodSessionToUe => exact insert_subset (hop (List.mem_singleton_self _))
  | addQodSessionToPduSession => exact insert_subset (hop (List.mem_singleton_self _))
  | _ => trivial

/-! ## The associations of one QoD session -/

/-- The QoD sessions of a PDU session, once they are changed. -/
theorem getQodSessions_modifyQodSessions (key : UeKey) (pduSessionId : String)
    (f : List String → List String) (now : ℤ) :
    (s.modifyQodSessions key pduSessionId f now).2.getQodSessionsForPduSession key pduSessionId =
      (s.getQodSessionsForPduSession key pduSessionId).map f := by
  rw [modifyQodSessions]
  cases hst : s.states.lookup key.getPrimaryKey with
  | none => simp [getQodSessionsForPduSession, hst]
  | some st =>
    dsimp only
    split
    next pdus hpdus =>
      have hfind := List.find?_replaceFirst? hpdus fun _ => rfl
      have hlookup : (s.put key.getPrimaryKey ({ st with pduSessions := pdus }.recordActivity
          now)).getQodSessionsForPduSession key pduSessionId =
            (pdus.find? (·.pduSessionId == pduSessionId)).map (·.activeQodSessionIds) := by
        rw [getQodSessionsForPduSession, put, AList.lookup_insert]
        rfl
      rw [hlookup, hfind, getQodSessionsForPduSession, hst, Option.bind_some, Option.map_map,
        Option.map_map]
      rfl
    next hnone =>
      rw [getQodSessionsForPduSession, hst, Option.bind_some,
        List.replaceFirst?_eq_none.1 hnone]
      rfl

/-- A QoD session taken off a PDU session is not one of its sessions, which are a set. -/
theorem not_mem_removeQodSession (h : s.Every List.Nodup) {key : UeKey}
    {pduSessionId qodSessionId : String} {now : ℤ} {ids : List String}
    (hids : (s.removeQodSessionFromPduSession key pduSessionId qodSessionId
      now).2.getQodSessionsForPduSession key pduSessionId = some ids) : qodSessionId ∉ ids := by
  rw [removeQodSessionFromPduSession, getQodSessions_modifyQodSessions,
    Option.map_eq_some_iff] at hids
  obtain ⟨ids', hids', rfl⟩ := hids
  obtain ⟨st, hst, hfound⟩ := Option.bind_eq_some_iff.1 hids'
  obtain ⟨pdu, hfind, rfl⟩ := Option.map_eq_some_iff.1 hfound
  exact (h _ st hst pdu (List.mem_of_find?_eq_some hfind)).not_mem_erase

/-- A state that takes the place of another exchanges what they carry. -/
theorem count_associated_put (st' : AfUeSubscriptionState) (h : s.states.lookup k = some st)
    (id : String) :
    (s.put k st').associated.count id + (carried st.pduSessions).count id =
      s.associated.count id + (carried st'.pduSessions).count id :=
  Table.count_contents_insert (fun st : AfUeSubscriptionState => carried st.pduSessions) h st' id

/-- Identifiers that go take no association with them. -/
theorem count_associated_removeNonPrimary (key : UeKey) (type : KnownType) (value : String)
    (now : ℤ) (id : String) :
    (s.removeNonPrimaryUeIdentifier key type value now).2.associated.count id =
      s.associated.count id := by
  rw [removeNonPrimaryUeIdentifier]
  split
  next => rfl
  next st hst =>
    have hpdus := pduSessions_removeKnownIdentifier st now type value
    split
    next st' hst' =>
      rw [hst'] at hpdus
      have hput := count_associated_put st' hst id
      rw [hpdus] at hput
      exact Nat.add_right_cancel hput
    next => rfl

/-- A QoD session is associated once at most, and with the PDU session found under a
    key. -/
def OnlyAt (s : UeStore) (key : UeKey) (pduSessionId qodSessionId : String) : Prop :=
  s.associated.count qodSessionId ≤
    min 1 (((s.getQodSessionsForPduSession key pduSessionId).getD []).count qodSessionId)

/-- Taken off a PDU session, a QoD session has no association left exactly if it had none
    in another place. -/
theorem not_mem_associated_remove_iff (key : UeKey) (pduSessionId qodSessionId : String)
    (now : ℤ) :
    qodSessionId ∉
        (s.removeQodSessionFromPduSession key pduSessionId qodSessionId now).2.associated ↔
      s.OnlyAt key pduSessionId qodSessionId := by
  rw [← List.count_eq_zero, OnlyAt, removeQodSessionFromPduSession, modifyQodSessions,
    getQodSessionsForPduSession]
  cases hst : s.states.lookup key.getPrimaryKey with
  | none => simp
  | some st =>
    simp only [Option.bind_some]
    split
    next pdus hpdus =>
      obtain ⟨found, hfound, hcarried⟩ := count_carried_replaceFirst? hpdus qodSessionId
      have hput := count_associated_put
        ({ st with pduSessions := pdus }.recordActivity now) hst qodSessionId
      -- What the first PDU session carries less is what the store does.
      have hcount : (found.activeQodSessionIds.erase qodSessionId).count qodSessionId =
          found.activeQodSessionIds.count qodSessionId - 1 := List.count_erase_self
      have hcarried' : (carried ({ st with pduSessions := pdus }.recordActivity
          now).pduSessions).count qodSessionId = (carried pdus).count qodSessionId := rfl
      rw [hfound, Option.map_some, Option.getD_some]
      dsimp only at hcarried ⊢
      omega
    next hnone =>
      rw [List.replaceFirst?_eq_none.1 hnone]
      simp

end UeStore

end PhineAf

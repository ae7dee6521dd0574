import PhineAf.Ue.Combination
import PhineAf.Ue.KeyIdentity

/-!
# Lookups by secondary identifiers

A lookup by GPSI, IPv4 address, IPv6 address or IPv6 prefix reads the state under the key built
from the identifier. It is right as long as the identifier is indexed to that key, and nothing
in the store sees to it: an operation indexes what a UE carries under the key of the UE.
`UeOp.Indexes` says which entries an operation writes, and `UeOp.IndexesOwn` that those of
well-formed identifiers are all under the key of the identifier itself.

In every run of such operations all lookups are right, and a tidy operation leaves them right
exactly if it is such an operation (`lookupsCorrect_of_reachable`). A promotion that moves a UE
is one only if the UE has no well-formed identifier but its SUPI (`indexesOwn_promote_iff`).
-/

namespace PhineAf

open AfUeSubscriptionState UeStore

/-! ## What an operation indexes -/

/-- A merge into the UE under `k` points the identifier `x` to `l`. -/
def UeStore.MergeIndexes (s : UeStore) (k k' l : String) (x : Identifier) : Prop :=
  ∃ st other, s.states.lookup k = some st ∧ s.states.lookup k' = some other ∧
    l = st.primaryKey ∧ MergeKeeps st other x

/-- The operation points the identifier `x` to the key `k`. -/
def UeOp.Indexes (s : UeStore) (k : String) (x : Identifier) : UeOp → Prop
  | .updateUeState st => k = st.primaryKey ∧ x ∈ st.identifiers
  | .createOrUpdateProvisionalUeState key initialData _ =>
    s.states.lookup key.getPrimaryKey = none ∧
      ∃ data, initialData = some data ∧ k = data.primaryKey ∧ x ∈ data.identifiers
  | .promoteUeStateToResolved currentKey supi now => ∃ st supiKey,
    s.states.lookup currentKey.getPrimaryKey = some st ∧ UeKey.fromSupi supi = .ok supiKey ∧
      currentKey.getPrimaryKey ≠ supiKey.getPrimaryKey ∧
        if (s.states.lookup supiKey.getPrimaryKey).isSome then
          s.MergeIndexes supiKey.getPrimaryKey currentKey.getPrimaryKey k x
        else ∃ st', st.resolveSupi now supi = .ok st' ∧ k = st'.primaryKey ∧ x ∈ st'.identifiers
  | .mergeUeStates primaryKey secondaryKey _ =>
    primaryKey.getPrimaryKey ≠ secondaryKey.getPrimaryKey ∧
      s.MergeIndexes primaryKey.getPrimaryKey secondaryKey.getPrimaryKey k x
  | .updateUeGpsi key gpsi _ => (s.states.lookup key.getPrimaryKey).isSome ∧
    k = key.getPrimaryKey ∧ x = ⟨.gpsi, gpsi.value⟩
  | .addOrUpdatePduSession key pdu _ => (s.states.lookup key.getPrimaryKey).isSome ∧
    k = key.getPrimaryKey ∧ x ∈ pdu.identifiers
  | .removeNonPrimaryUeIdentifier key type value _ => ∃ st,
    s.states.lookup key.getPrimaryKey = some st ∧ value ∈ st.known type ∧
      k = st.primaryKey ∧ x ∈ st.identifiers
  | .query _ | .removeUeState _ | .updateUe .. | .removePduSession .. | .addQodSessionToUe ..
  | .removeQodSessionFromUe .. | .addQodSessionToPduSession ..
  | .removeQodSessionFromPduSession .. | .cleanupExpiredProvisionalStates .. => False

/-- The operation indexes well-formed identifiers only under their own keys. -/
def UeOp.IndexesOwn (s : UeStore) (op : UeOp) : Prop :=
  ∀ (x : SecondaryId) (key : UeKey), x.key = .ok key →
    ∀ k, op.Indexes s k x.identifier → k = key.getPrimaryKey

namespace UeStore

variable {s s' : UeStore} {k : String} {x : Identifier}

/-! Some operations leave the index as it is. -/

theorem index_updateDatum (s : UeStore) (key : UeKey) (now : ℤ) (datum : UeDatum) :
    (s.updateDatum key now datum).2.index = s.index := by
  cases h : s.states.lookup key.getPrimaryKey <;> cases datum <;>
    simp only [updateDatum, updateUeLocationInfo, updateUeAccessMobilityData,
      updateUePolicyDataInfo, updateProsePduidInformation, updateTimeSyncServiceAvailability,
      updateServiceAreaCoverageAllowed, updateHighThroughputDesired, updateUe, h] <;> rfl

theorem index_modifyQodSessions (s : UeStore) (key : UeKey) (pduSessionId : String)
    (f : List String → List String) (now : ℤ) :
    (s.modifyQodSessions key pduSessionId f now).2.index = s.index := by
  rw [modifyQodSessions]
  split
  next => rfl
  next => split <;> rfl

theorem index_addQodSessionToUe (s : UeStore) (key : UeKey) (pduSessionId : Option String)
    (qodSessionId : String) (now : ℤ) :
    (s.addQodSessionToUe key pduSessionId qodSessionId now).2.index = s.index := by
  cases pduSessionId with
  | some id => exact index_modifyQodSessions ..
  | none =>
    -- A UE that is made for the session is made without identifiers.
    simp only [addQodSessionToUe, put]
    split_ifs <;> rfl

theorem index_removeQodSessionFromUe (s : UeStore) (key : UeKey) (qodSessionId : String) (now : ℤ) :
    (s.removeQodSessionFromUe key qodSessionId now).2.index = s.index := by
  rw [removeQodSessionFromUe]
  split
  next => rfl
  next => split_ifs <;> rfl

theorem lookup_of_foldl_dropKey {ks : List String}
    (h : (ks.foldl dropKey s).index.lookup x = some k) : s.index.lookup x = some k := by
  by_cases hc : ∃ l ∈ ks, s.Carries identifiers l x
  · rw [lookup_index_foldl_dropKey_of_carries hc] at h
    cases h
  · rwa [lookup_index_foldl_dropKey_of_not_carries fun l hl hx => hc ⟨l, hl, hx⟩] at h

/-! The operations write the entries that `UeOp.Indexes` says, and no others. -/

theorem lookup_mergeUeStates {primaryKey secondaryKey : UeKey} (now : ℤ)
    (hne : primaryKey.getPrimaryKey ≠ secondaryKey.getPrimaryKey)
    (h : s.MergeIndexes primaryKey.getPrimaryKey secondaryKey.getPrimaryKey k x) :
    ∃ r, s.mergeUeStates primaryKey secondaryKey now = .ok r ∧ r.2.index.lookup x = some k := by
  obtain ⟨st, other, hst, hother, rfl, hx⟩ := h
  simp only [mergeUeStates, hst, hother, if_neg hne]
  refine ⟨_, rfl, (lookup_link ..).trans ?_⟩
  rw [if_pos ((mem_identifiers_mergedState_iff now).2 hx)]
  exact congrArg some (agree_mergedState st now other).primaryKey

theorem mergeIndexes_of_lookup {primaryKey secondaryKey : UeKey} {now : ℤ} {r : Bool × UeStore}
    (hr : s.mergeUeStates primaryKey secondaryKey now = .ok r)
    (hx : r.2.index.lookup x = some k) :
    (primaryKey.getPrimaryKey ≠ secondaryKey.getPrimaryKey ∧
      s.MergeIndexes primaryKey.getPrimaryKey secondaryKey.getPrimaryKey k x) ∨
      s.index.lookup x = some k := by
  rw [mergeUeStates] at hr
  split at hr
  next st other hst hother =>
    split_ifs at hr with hne
    obtain rfl := Except.ok.inj hr
    rcases mem_of_lookup_link hx with ⟨rfl, hmem⟩ | hx
    · refine .inl ⟨hne, st, other, hst, hother, ?_, (mem_identifiers_mergedState_iff now).1 hmem⟩
      exact (agree_mergedState st now other).primaryKey
    · exact .inr (lookup_of_unlink (lookup_of_unlink hx))
  next =>
    obtain rfl := Except.ok.inj hr
    exact .inr hx

/-- A promotion indexes the state it moves, or what a merge keeps. -/
theorem indexes_of_lookup_promote {currentKey : UeKey} {supi : Supi} {now : ℤ}
    {r : Bool × UeStore} (hr : s.promoteUeStateToResolved currentKey supi now = .ok r)
    (hx : r.2.index.lookup x = some k) :
    (UeOp.promoteUeStateToResolved currentKey supi now).Indexes s k x ∨
      s.index.lookup x = some k := by
  rw [promoteUeStateToResolved] at hr
  split at hr
  next =>
    obtain rfl := Except.ok.inj hr
    exact .inr hx
  next st hst =>
    cases hk : UeKey.fromSupi supi with
    | error e => simp [hk, bind, Except.bind] at hr
    | ok supiKey =>
      simp only [hk, bind, Except.bind] at hr
      split_ifs at hr with hsame hstored
      · -- Already under its SUPI: the indices stay.
        cases hst' : st.resolveSupi now supi with
        | error e => simp [hst'] at hr
        | ok st' =>
          rw [hst'] at hr
          obtain rfl := Except.ok.inj hr
          exact .inr hx
      · -- The SUPI has a state, which takes this one in.
        refine (mergeIndexes_of_lookup hr hx).imp_left fun h => ⟨st, supiKey, hst, hk, hsame, ?_⟩
        rw [if_pos hstored]
        exact h.2
      · -- Moved under its SUPI.
        cases hst' : st.resolveSupi now supi with
        | error e => simp [hst'] at hr
        | ok st' =>
          rw [hst'] at hr
          obtain rfl := Except.ok.inj hr
          refine (mem_of_lookup_link hx).imp (fun h => ⟨st, supiKey, hst, hk, hsame, ?_⟩)
            lookup_of_unlink
          rw [if_neg hstored]
          exact ⟨st', hst', h⟩

theorem indexes_of_lookup_removeNonPrimary {key : UeKey} {type : KnownType} {value : String}
    {now : ℤ} (hx : (s.removeNonPrimaryUeIdentifier key type value now).2.index.lookup x = some k) :
    (UeOp.removeNonPrimaryUeIdentifier key type value now).Indexes s k x ∨
      s.index.lookup x = some k := by
  rw [removeNonPrimaryUeIdentifier] at hx
  split at hx
  next => exact .inr hx
  next st hst =>
    have hids := identifiers_removeKnownIdentifier now st type value
    have hkey := primaryKey_removeKnownIdentifier now st type value
    split at hx
    next st' hst' =>
      rw [hst'] at hids hkey
      -- The state is only indexed anew when the identifier was known.
      have hvalue := (removeKnownIdentifier_fst_iff now st type value).1 (by rw [hst'])
      exact (mem_of_lookup_link hx).imp
        (fun h => ⟨st, hst, hvalue, h.1.trans hkey, hids ▸ h.2⟩) lookup_of_unlink
    next => exact .inr hx

/-- What an operation indexes, it does not throw on, and is found afterwards. -/
theorem lookup_perform_of_indexes {op : UeOp} (h : op.Indexes s k x) :
    ∃ s', s.perform op = .ok s' ∧ s'.index.lookup x = some k := by
  cases op with
  | updateUeState st =>
    obtain ⟨rfl, hx⟩ := h
    refine ⟨_, rfl, ?_⟩
    rw [updateUeState]
    split <;> exact (lookup_link ..).trans (if_pos hx)
  | createOrUpdateProvisionalUeState key initialData now =>
    obtain ⟨hnone, data, rfl, rfl, hx⟩ := h
    refine ⟨_, rfl, ?_⟩
    simp only [createOrUpdateProvisionalUeState, hnone, Option.getD_some]
    exact (lookup_link ..).trans (if_pos hx)
  | promoteUeStateToResolved currentKey supi now =>
    obtain ⟨st, supiKey, hst, hk, hne, h⟩ := h
    simp only [perform, promoteUeStateToResolved, hst, hk, bind, Except.bind, if_neg hne]
    split_ifs at h ⊢
    · obtain ⟨r, hr, hx⟩ := lookup_mergeUeStates now hne.symm h
      exact ⟨r.2, by rw [hr]; rfl, hx⟩
    · obtain ⟨st', hst', rfl, hx⟩ := h
      rw [hst']
      exact ⟨_, rfl, (lookup_link ..).trans (if_pos hx)⟩
  | mergeUeStates primaryKey secondaryKey now =>
    obtain ⟨r, hr, hx⟩ := lookup_mergeUeStates now h.1 h.2
    exact ⟨r.2, by rw [perform, hr]; rfl, hx⟩
  | updateUeGpsi key gpsi now =>
    obtain ⟨hst, rfl, rfl⟩ := h
    obtain ⟨st, hst⟩ := Option.isSome_iff_exists.1 hst
    refine ⟨_, rfl, ?_⟩
    simp only [updateUeGpsi, hst]
    exact (lookup_link ..).trans (if_pos (List.mem_singleton_self _))
  | addOrUpdatePduSession key pdu now =>
    obtain ⟨hst, rfl, hx⟩ := h
    obtain ⟨st, hst⟩ := Option.isSome_iff_exists.1 hst
    refine ⟨_, rfl, ?_⟩
    simp only [addOrUpdatePduSession, hst]
    split <;> exact (lookup_link ..).trans (if_pos hx)
  | removeNonPrimaryUeIdentifier key type value now =>
    obtain ⟨st, hst, hvalue, rfl, hx⟩ := h
    have hids := identifiers_removeKnownIdentifier now st type value
    have hkey := primaryKey_removeKnownIdentifier now st type value
    have hdone := (removeKnownIdentifier_fst_iff now st type value).2 hvalue
    refine ⟨_, rfl, ?_⟩
    simp only [removeNonPrimaryUeIdentifier, hst]
    rcases hr : st.removeKnownIdentifier now type value with ⟨b, st'⟩
    rw [hr] at hids hkey hdone
    obtain rfl : b = true := hdone
    refine (lookup_link ..).trans ?_
    rw [if_pos (hids ▸ hx), hkey]
  | _ => exact h.elim

/-- What is indexed afterwards the operation has indexed, or it was before. -/
theorem indexes_of_lookup_perform {op : UeOp} (hs' : s.perform op = .ok s')
    (hx : s'.index.lookup x = some k) : op.Indexes s k x ∨ s.index.lookup x = some k := by
  cases op with
  | updateUeState st =>
    obtain rfl := Except.ok.inj hs'
    rw [updateUeState] at hx
    split at hx
    next => exact (mem_of_lookup_link hx).imp_right lookup_of_unlink
    next => exact mem_of_lookup_link hx
  | createOrUpdateProvisionalUeState key initialData now =>
    obtain rfl := Except.ok.inj hs'
    rw [createOrUpdateProvisionalUeState] at hx
    split at hx
    next st hst =>
      cases initialData with
      | none => exact .inr hx
      | some data => exact .inr hx
    next hnone =>
      cases initialData with
      | none => exact (mem_of_lookup_link hx).imp_left fun h => absurd h.2 List.not_mem_nil
      | some data => exact (mem_of_lookup_link hx).imp_left fun h => ⟨hnone, data, rfl, h⟩
  | promoteUeStateToResolved currentKey supi now =>
    obtain ⟨r, hr, rfl⟩ := Json.map_eq_ok.1 hs'
    exact indexes_of_lookup_promote hr hx
  | mergeUeStates primaryKey secondaryKey now =>
    obtain ⟨r, hr, rfl⟩ := Json.map_eq_ok.1 hs'
    exact mergeIndexes_of_lookup hr hx
  | removeUeState key =>
    obtain rfl := Except.ok.inj hs'
    rw [removeUeState] at hx
    split at hx
    next => exact .inr (lookup_of_unlink hx)
    next => exact .inr hx
  | updateUeGpsi key gpsi now =>
    obtain rfl := Except.ok.inj hs'
    rw [updateUeGpsi] at hx
    split at hx
    next st hst =>
      refine (mem_of_lookup_link hx).imp (fun h => ?_) lookup_of_unlink
      exact ⟨Option.isSome_of_eq_some hst, h.1, List.mem_singleton.1 h.2⟩
    next => exact .inr hx
  | updateUe key datum now =>
    obtain rfl := Except.ok.inj hs'
    rw [index_updateDatum] at hx
    exact .inr hx
  | addOrUpdatePduSession key pdu now =>
    obtain rfl := Except.ok.inj hs'
    rw [addOrUpdatePduSession] at hx
    split at hx
    next => exact .inr hx
    next st hst =>
      have hsome := Option.isSome_of_eq_some hst
      split at hx
      next => exact (mem_of_lookup_link hx).imp (fun h => ⟨hsome, h⟩) lookup_of_unlinkOwned
      next => exact (mem_of_lookup_link hx).imp_left fun h => ⟨hsome, h⟩
  | removePduSession key pduSessionId now =>
    obtain rfl := Except.ok.inj hs'
    rw [removePduSession] at hx
    split at hx
    next => exact .inr hx
    next =>
      split at hx
      next => exact .inr hx
      next => exact .inr (lookup_of_unlinkOwned hx)
  | removeNonPrimaryUeIdentifier key type value now =>
    obtain rfl := Except.ok.inj hs'
    exact indexes_of_lookup_removeNonPrimary hx
  | addQodSessionToUe key pduSessionId qodSessionId now =>
    obtain rfl := Except.ok.inj hs'
    rw [index_addQodSessionToUe] at hx
    exact .inr hx
  | removeQodSessionFromUe key qodSessionId now =>
    obtain rfl := Except.ok.inj hs'
    rw [index_removeQodSessionFromUe] at hx
    exact .inr hx
  | addQodSessionToPduSession key pduSessionId qodSessionId now =>
    obtain rfl := Except.ok.inj hs'
    rw [addQodSessionToPduSession, index_modifyQodSessions] at hx
    exact .inr hx
  | removeQodSessionFromPduSession key pduSessionId qodSessionId now =>
    obtain rfl := Except.ok.inj hs'
    rw [removeQodSessionFromPduSession, index_modifyQodSessions] at hx
    exact .inr hx
  | cleanupExpiredProvisionalStates maxAge now =>
    obtain rfl := Except.ok.inj hs'
    exact .inr (lookup_of_foldl_dropKey hx)
  | query q =>
    obtain rfl := Except.ok.inj hs'
    exact .inr hx

/-! ## Own keys -/

/-- Every well-formed identifier that is indexed is indexed to its own key. -/
def OwnKeyed (s : UeStore) : Prop :=
  ∀ (x : SecondaryId) (key : UeKey), x.key = .ok key →
    ∀ k, s.index.lookup x.identifier = some k → k = key.getPrimaryKey

/-- All lookups by well-formed identifiers are right. -/
def LookupsCorrect (s : UeStore) : Prop :=
  ∀ (x : SecondaryId) (key : UeKey), x.key = .ok key → s.LookupCorrect x

theorem OwnKeyed.lookupsCorrect (h : s.OwnKeyed) : s.LookupsCorrect := by
  intro x key hk
  cases hx : s.index.lookup x.identifier with
  | none => exact lookupCorrect_of_not_indexed hk hx
  | some k =>
    obtain rfl := h x key hk k hx
    exact (lookupCorrect_of_indexed hk hx).2 rfl

/-- In a coherent store there is no other way for the lookups to be right. -/
theorem lookupsCorrect_iff_ownKeyed (hs : s.Coherent identifiers primaryKey) :
    s.LookupsCorrect ↔ s.OwnKeyed :=
  ⟨fun h x key hk => (lookupCorrect_iff_of_coherent hs hk).1 (h x key hk), OwnKeyed.lookupsCorrect⟩

theorem ownKeyed_empty : OwnKeyed .empty := by
  intro x key _ k hx
  cases hx

/-- An operation that indexes under own keys keeps the identifiers under their own keys. -/
theorem OwnKeyed.next {op : UeOp} (h : s.OwnKeyed) (hop : op.IndexesOwn s)
    (hs' : s.next op = some s') : s'.OwnKeyed := by
  intro x key hk k hx
  rcases next_cases hs' with hs' | rfl
  · rcases indexes_of_lookup_perform hs' hx with hx | hx
    · exact hop x key hk k hx
    · exact h x key hk k hx
  · exact h x key hk k hx

/-- And no other operation does. -/
theorem OwnKeyed.indexesOwn {op : UeOp} (h : s'.OwnKeyed) (hs' : s.next op = some s') :
    op.IndexesOwn s := by
  intro x key hk k hx
  obtain ⟨s₁, hs₁, hx⟩ := lookup_perform_of_indexes hx
  rw [UeStore.next, hs₁] at hs'
  obtain rfl := Option.some.inj hs'
  exact h x key hk k hx

/-- In every run of operations that index well-formed identifiers only under their own keys, all
    lookups are right. After such a run, a tidy operation on a consistent store leaves them
    right exactly if it is one of these. -/
theorem lookupsCorrect_of_reachable {s : UeStore}
    (hs : (ueSystem.restrict UeOp.IndexesOwn).Reachable s) : s.LookupsCorrect ∧
      ∀ op s', s.Consistent → op.Tidy s → s.next op = some s' →
        (s'.LookupsCorrect ↔ op.IndexesOwn s) := by
  have hown : s.OwnKeyed := by
    refine hs.invariant (fun s hinit => ?_) fun s op s' _ h hstep => h.next hstep.1 hstep.2
    exact (show s = .empty from hinit) ▸ ownKeyed_empty
  refine ⟨hown.lookupsCorrect, fun op s' hcons ht hs' => ?_⟩
  rw [lookupsCorrect_iff_ownKeyed (hcons.next ht hs').coherent]
  exact ⟨fun h => h.indexesOwn hs', fun hop => hown.next hop hs'⟩

/-! ## Promotions -/

end UeStore

/-- The constructor of the key of an identifier. -/
def SecondaryId.source : SecondaryId → KeySource
  | .gpsi g => .gpsi g
  | .ipv4 a => .ipv4 a
  | .ipv6Addr a => .ipv6 a
  | .ipv6Prefix p => .ipv6Prefix p

/-- No identifier but a SUPI has the key of a SUPI. -/
theorem SecondaryId.key_ne_supiKey {x : SecondaryId} {key supiKey : UeKey} {supi : Supi}
    (hk : x.key = .ok key) (hsupi : UeKey.fromSupi supi = .ok supiKey) :
    supiKey.getPrimaryKey ≠ key.getPrimaryKey := by
  have hbuild : x.source.build = .ok key := by
    cases x <;> exact hk
  rw [KeySource.getPrimaryKey_of_build (a := .supi supi) hsupi,
    KeySource.getPrimaryKey_of_build hbuild]
  intro h
  have htype := (KeyType.tag_append_inj h).1
  cases x <;> rw [UeKey.eq_of_checked hsupi, UeKey.eq_of_checked hk] at htype <;> cases htype

/-- A promotion that moves a UE under its SUPI leaves the lookups right only if the UE has no
    well-formed identifier but its SUPI. -/
theorem UeStore.indexesOwn_promote_iff {s : UeStore} {currentKey supiKey : UeKey} {supi : Supi}
    {st : AfUeSubscriptionState} (hst : s.states.lookup currentKey.getPrimaryKey = some st)
    (hk : UeKey.fromSupi supi = .ok supiKey)
    (hfree : s.states.lookup supiKey.getPrimaryKey = none) (hnone : st.supi = none)
    (hkey : st.ueKey.canPromoteToSupi = false) (now : ℤ) :
    (UeOp.promoteUeStateToResolved currentKey supi now).IndexesOwn s ↔
      ∀ (x : SecondaryId) (key : UeKey), x.key = .ok key → x.identifier ∉ st.identifiers := by
  have hne : currentKey.getPrimaryKey ≠ supiKey.getPrimaryKey := by
    intro heq
    rw [← heq, hst] at hfree
    cases hfree
  have hindexes : ∀ (x : SecondaryId) k,
      (UeOp.promoteUeStateToResolved currentKey supi now).Indexes s k x.identifier ↔
        k = supiKey.getPrimaryKey ∧ x.identifier ∈ st.identifiers := by
    intro x k
    simp only [UeOp.Indexes, hst, hk, Option.some.injEq, Except.ok.injEq, exists_and_left,
      exists_eq_left', hfree, Option.isSome_none, Bool.false_eq_true, if_false,
      resolveSupi_of_eq_none hnone hkey hk, hne, ne_eq, not_false_eq_true, true_and]
    -- What is new with the promotion is the SUPI.
    refine and_congr Iff.rfl ?_
    rw [mem_identifiers, mem_identifiers]
    refine or_congr ?_ Iff.rfl
    cases x <;> simp [SecondaryId.identifier]
  constructor
  · intro h x key hx hmem
    exact SecondaryId.key_ne_supiKey hx hk (h x key hx _ ((hindexes x _).2 ⟨rfl, hmem⟩))
  · intro h x key hx k hi
    exact absurd ((hindexes x k).1 hi).2 (h x key hx)

namespace UeStore

/-- A UE is made from its address, which its PDU session then has. -/
def addressedRun : List UeOp :=
  [.createOrUpdateProvisionalUeState (ipv4KeyOf "10.0.0.1") none 0,
    .addOrUpdatePduSession (ipv4KeyOf "10.0.0.1")
      { pduSessionId := "1", ueIpv4Address := some ⟨"10.0.0.1"⟩ } 1]

/-- The address is indexed under the key it makes. -/
theorem indexesOwn_addressedRun (s : UeStore) : ∀ op ∈ addressedRun, op.IndexesOwn s := by
  simp only [addressedRun, List.forall_mem_cons, List.not_mem_nil, false_imp_iff, implies_true,
    and_true]
  constructor
  · rintro x key hk k ⟨-, data, hdata, -⟩
    cases hdata
  · rintro x key hk k ⟨-, rfl, hx⟩
    have hid : x.identifier = ⟨.ipv4Addr, "10.0.0.1"⟩ := List.mem_singleton.1 hx
    cases x with
    | ipv4 a =>
      obtain rfl : a = ⟨"10.0.0.1"⟩ := by
        cases a
        simpa [SecondaryId.identifier] using hid
      rw [key_ipv4] at hk
      obtain rfl := Except.ok.inj hk
      rfl
    | gpsi | ipv6Addr | ipv6Prefix => cases hid

/-- The promotion of the UE to its SUPI. -/
def promoteAddressed : UeOp :=
  .promoteUeStateToResolved (ipv4KeyOf "10.0.0.1") ⟨"imsi-001010000000001"⟩ 2

/-- The UE is found by its address, until it is promoted. -/
theorem lookupsCorrect_until_promotion : ∃ s s',
    addressedRun.foldlM UeStore.next .empty = some s ∧
    s.index.lookup ⟨.ipv4Addr, "10.0.0.1"⟩ = some (ipv4KeyOf "10.0.0.1").getPrimaryKey ∧
    s.LookupsCorrect ∧ s.next promoteAddressed = some s' ∧
    (s'.LookupsCorrect ↔ promoteAddressed.IndexesOwn s) := by
  have h₀ : (ueSystem.restrict UeOp.IndexesOwn).Reachable .empty := .init rfl
  obtain ⟨s, hrun⟩ : ∃ s, addressedRun.foldlM UeStore.next .empty = some s := ⟨_, rfl⟩
  have hsteps : ∀ op ∈ addressedRun, ∀ s s', s.next op = some s' →
      (ueSystem.restrict UeOp.IndexesOwn).step s op s' :=
    fun op hop s s' hs => ⟨indexesOwn_addressedRun s op hop, hs⟩
  have h := h₀.foldlM hsteps hrun
  obtain ⟨hright, hstep⟩ := lookupsCorrect_of_reachable h
  obtain rfl := Option.some.inj hrun
  refine ⟨_, _, rfl, rfl, hright, rfl, hstep promoteAddressed _ ?_ ?_ rfl⟩
  · -- The new UE has no identifiers, and its first PDU session replaces none.
    have htidy : addressedRun[0].Tidy .empty := by
      intro _ hdata
      cases hdata
    have h₁ := consistent_empty.createOrUpdateProvisionalUeState htidy
    refine h₁.addOrUpdatePduSession fun st old hst hold => ?_
    obtain rfl := Option.some.inj hst
    cases hold
  · -- The promotion moves a UE without a SUPI to a free key.
    intro st supiKey hst hk
    obtain rfl := Option.some.inj hst
    obtain rfl := Except.ok.inj hk
    exact ⟨rfl, rfl⟩

/-- And is no longer found by it after the promotion to its SUPI. -/
theorem not_lookupCorrect_after_promotion : ∃ s s',
    ueSystem.Reachable s ∧ s.LookupCorrect (.ipv4 ⟨"10.0.0.1"⟩) ∧
    s.next (.promoteUeStateToResolved (ipv4KeyOf "10.0.0.1") ⟨"imsi-001010000000001"⟩ 2) = some s' ∧
    (SecondaryId.ipv4 ⟨"10.0.0.1"⟩).get s' = .ok none ∧ ¬s'.LookupCorrect (.ipv4 ⟨"10.0.0.1"⟩) := by
  refine ⟨_, _, System.reachable_of_run addressedRun (.init rfl) rfl, ?_, rfl, ?_, ?_⟩
  · exact (SecondaryId.get_of_key key_ipv4).trans rfl
  · exact (SecondaryId.get_of_key key_ipv4).trans rfl
  · intro h
    rw [LookupCorrect, SecondaryId.get_of_key key_ipv4] at h
    cases Except.ok.inj h

end UeStore

end PhineAf

import PhineAf.Ue.Coherence

/-!
# Through the UE indices

What the indices of the UE store are for: a UE is found by its other
identifiers, and the operations on one UE leave the entries of the others
alone.

* A lookup by GPSI, IPv4 address, IPv6 address or IPv6 prefix only asks the index
  whether it has the identifier, and then reads the state under the key built
  from the identifier itself. In a coherent store it is right when that is also
  the key the index gives (`lookupCorrect_iff_of_coherent`); a UE moved under its
  SUPI is lost to it (`get_promoteUeStateToResolved`).
* An operation addressed to a UE erases some entries without looking at where
  they point. It leaves the other UEs alone exactly when none of these points to
  one of them (`isolated_iff`); the operations on PDU sessions always do.
-/

namespace PhineAf

open AfUeSubscriptionState

/-! ## Lookups by secondary identifier -/

/-- An identifier a UE is looked up by, other than its SUPI. -/
inductive SecondaryId
  | gpsi (gpsi : Gpsi)
  | ipv4 (ipv4 : Ipv4Addr)
  | ipv6Addr (ipv6 : Ipv6Addr)
  | ipv6Prefix (ipv6Prefix : Ipv6Prefix)

namespace SecondaryId

/-- The identifier as the index has it. -/
def identifier : SecondaryId → Identifier
  | .gpsi g => ⟨.gpsi, g.value⟩
  | .ipv4 a => ⟨.ipv4Addr, a.value⟩
  | .ipv6Addr a => ⟨.ipv6Addr, a.value⟩
  | .ipv6Prefix p => ⟨.ipv6Prefix, p.value⟩

/-- The key built from the identifier, when it is well formed. -/
def key : SecondaryId → Except Exn UeKey
  | .gpsi g => UeKey.fromGpsi g
  | .ipv4 a => UeKey.fromIpv4 a
  | .ipv6Addr a => UeKey.fromIpv6 a
  | .ipv6Prefix p => UeKey.fromIpv6Prefix p

/-- The lookup of its kind. -/
def get (s : UeStore) : SecondaryId → Except Exn (Option AfUeSubscriptionState)
  | .gpsi g => s.getUeStateByGpsi g
  | .ipv4 a => s.getUeStateByIpv4 a
  | .ipv6Addr a => s.getUeStateByIpv6Addr a
  | .ipv6Prefix p => s.getUeStateByIpv6Prefix p

theorem get_eq (s : UeStore) (x : SecondaryId) : x.get s = s.getUeStateBy x.identifier x.key := by
  cases x <;> rfl

/-- What the lookup finds for a well-formed identifier. -/
theorem get_of_key {s : UeStore} {x : SecondaryId} {key : UeKey} (hk : x.key = .ok key) :
    x.get s = .ok (if (s.index.lookup x.identifier).isSome then
      s.states.lookup key.getPrimaryKey else none) := by
  rw [get_eq, UeStore.getUeStateBy, hk]
  split_ifs <;> rfl

end SecondaryId

namespace UeStore

/-- The lookup by `x` returns the state under the key that the index gives for
    it, and nothing if there is none. -/
def LookupCorrect (s : UeStore) (x : SecondaryId) : Prop :=
  x.get s = .ok ((s.index.lookup x.identifier).bind s.states.lookup)

/-- The lookup of an indexed identifier is correct if the two keys lead to the same. -/
theorem lookupCorrect_of_indexed {s : UeStore} {x : SecondaryId} {key : UeKey} {k : String}
    (hk : x.key = .ok key) (hx : s.index.lookup x.identifier = some k) :
    s.LookupCorrect x ↔ s.states.lookup key.getPrimaryKey = s.states.lookup k := by
  rw [LookupCorrect, SecondaryId.get_of_key hk, hx, Option.isSome_some, if_pos rfl,
    Option.bind_some, Except.ok.injEq]

/-- The lookup of an identifier that is not indexed is correct. -/
theorem lookupCorrect_of_not_indexed {s : UeStore} {x : SecondaryId} {key : UeKey}
    (hk : x.key = .ok key) (hx : s.index.lookup x.identifier = none) : s.LookupCorrect x := by
  rw [LookupCorrect, SecondaryId.get_of_key hk, hx]
  rfl

/-- In a coherent store, the lookup is correct exactly when the index has no
    other key than that built from the identifier. -/
theorem lookupCorrect_iff_of_coherent {s : UeStore} (hs : s.Coherent identifiers primaryKey)
    {x : SecondaryId} {key : UeKey} (hk : x.key = .ok key) :
    s.LookupCorrect x ↔ ∀ k, s.index.lookup x.identifier = some k → k = key.getPrimaryKey := by
  rcases hx : s.index.lookup x.identifier with _ | k
  · exact iff_of_true (lookupCorrect_of_not_indexed hk hx) (fun k hk => (by cases hk))
  · obtain ⟨st, hst, -⟩ := hs.sound _ k hx
    simp only [lookupCorrect_of_indexed hk hx, Option.some.injEq, forall_eq', hst]
    constructor
    · -- A state is stored under its own key, so the two are one.
      intro h
      rw [← hs.filed _ _ h, hs.filed _ _ hst]
    · rintro rfl
      exact hst

/-- A UE stored under the key of `x`, and moved under its SUPI, is still indexed
    by `x` but no longer found by it. -/
theorem get_promoteUeStateToResolved {s : UeStore} {x : SecondaryId} {key supiKey : UeKey}
    {supi : Supi} {st : AfUeSubscriptionState} (now : ℤ) (hk : x.key = .ok key)
    (hst : s.states.lookup key.getPrimaryKey = some st) (hx : x.identifier ∈ st.identifiers)
    (hsupi : UeKey.fromSupi supi = .ok supiKey)
    (hfree : s.states.lookup supiKey.getPrimaryKey = none) (hnone : st.supi = none)
    (hkey : st.ueKey.canPromoteToSupi = false) :
    ∃ s', s.promoteUeStateToResolved key supi now = .ok (true, s') ∧
      s'.index.lookup x.identifier = some supiKey.getPrimaryKey ∧
      (s'.states.lookup supiKey.getPrimaryKey).isSome ∧ x.get s' = .ok none := by
  have hne : key.getPrimaryKey ≠ supiKey.getPrimaryKey := by
    intro heq
    rw [← heq, hst] at hfree
    cases hfree
  refine ⟨_, promoteUeStateToResolved_move hst hsupi hfree hnone hkey now, ?_, ?_, ?_⟩
  · exact (lookup_link ..).trans (if_pos (subset_identifiers_assignSupi hnone now _ _ _ hx))
  · simp [addUeIndices, put]
  · -- The key built from `x` is the one the state was moved away from.
    rw [SecondaryId.get_of_key hk]
    simp [addUeIndices, put, drop, removeUeIndices, hne]

/-- The key of a UE known by an IPv4 address. -/
def ipv4KeyOf (ipv4 : String) : UeKey :=
  { type := .ipv4Based, ipv4Value := some ipv4, sole := .ipv4 _ }

theorem key_ipv4 : (SecondaryId.ipv4 ⟨"10.0.0.1"⟩).key = .ok (ipv4KeyOf "10.0.0.1") := by
  have h : validateIpv4Format "10.0.0.1" = .ok () := by decide
  simp [SecondaryId.key, UeKey.fromIpv4, h, ipv4KeyOf, bind, Except.bind, pure, Except.pure]

end UeStore

/-! ## Operations addressed to a UE -/

/-- The operations addressed to a UE, or to the expired provisional ones. -/
inductive AddressedOp
  | updateUeState (st : AfUeSubscriptionState)
  | removeUeState (key : UeKey)
  | updateUeGpsi (key : UeKey) (gpsi : Gpsi) (now : ℤ)
  | addOrUpdatePduSession (key : UeKey) (pdu : PduSessionData) (now : ℤ)
  | removePduSession (key : UeKey) (pduSessionId : String) (now : ℤ)
  | cleanupExpiredProvisionalStates (maxAge now : ℤ)

namespace AddressedOp

/-- The operation of the store. -/
def toUeOp : AddressedOp → UeOp
  | .updateUeState st => .updateUeState st
  | .removeUeState key => .removeUeState key
  | .updateUeGpsi key gpsi now => .updateUeGpsi key gpsi now
  | .addOrUpdatePduSession key pdu now => .addOrUpdatePduSession key pdu now
  | .removePduSession key pduSessionId now => .removePduSession key pduSessionId now
  | .cleanupExpiredProvisionalStates maxAge now => .cleanupExpiredProvisionalStates maxAge now

/-- The operation is addressed to the UE under `k`. -/
def Addresses (s : UeStore) (k : String) : AddressedOp → Prop
  | .updateUeState st => k = st.primaryKey
  | .removeUeState key | .updateUeGpsi key _ _ | .addOrUpdatePduSession key _ _
  | .removePduSession key _ _ => k = key.getPrimaryKey
  | .cleanupExpiredProvisionalStates maxAge now => k ∈ s.expiredKeys maxAge now

/-- The operation assigns the identifier `x` to the UE. -/
def Assigns (x : Identifier) : AddressedOp → Prop
  | .updateUeState st => x ∈ st.identifiers
  | .updateUeGpsi _ gpsi _ => x = ⟨.gpsi, gpsi.value⟩
  | .addOrUpdatePduSession _ pdu _ => x ∈ pdu.identifiers
  | .removeUeState _ | .removePduSession .. | .cleanupExpiredProvisionalStates .. => False

/-- The identifiers whose entries the operation erases wherever they point: all
    those of the UE that is replaced or removed, and its GPSI when that changes. -/
def Releases (s : UeStore) (x : Identifier) : AddressedOp → Prop
  | .updateUeState st => s.Carries identifiers st.primaryKey x
  | .removeUeState key => s.Carries identifiers key.getPrimaryKey x
  | .updateUeGpsi key _ _ => ∃ st gpsi, s.states.lookup key.getPrimaryKey = some st ∧
      st.gpsi = some gpsi ∧ x = ⟨.gpsi, gpsi.value⟩
  | .cleanupExpiredProvisionalStates maxAge now =>
    ∃ k ∈ s.expiredKeys maxAge now, s.Carries identifiers k x
  | .addOrUpdatePduSession .. | .removePduSession .. => False

end AddressedOp

namespace UeStore

variable {s : UeStore}

/-- The operation leaves every entry that points to another UE as it is, unless
    it assigns the identifier. -/
def Isolated (s : UeStore) (op : AddressedOp) : Prop :=
  ∀ s', s.perform op.toUeOp = .ok s' → ∀ x k, s.index.lookup x = some k → ¬op.Addresses s k →
    ¬op.Assigns x → s'.index.lookup x = some k

theorem lookup_index_updateUeState {st : AfUeSubscriptionState} {x : Identifier}
    (hx : x ∉ st.identifiers) :
    (s.Carries identifiers st.primaryKey x → (s.updateUeState st).index.lookup x = none) ∧
      (¬s.Carries identifiers st.primaryKey x →
        (s.updateUeState st).index.lookup x = s.index.lookup x) := by
  rw [updateUeState]
  split
  next old hold =>
    rw [Indexed.carries_iff_of_lookup hold]
    simp only [addUeIndices, put, removeUeIndices, lookup_link, lookup_unlink, if_neg hx]
    exact ⟨fun h => if_pos h, fun h => if_neg h⟩
  next hnone =>
    refine ⟨fun h => absurd h (Indexed.not_carries_of_lookup_eq_none hnone x), fun _ => ?_⟩
    exact (lookup_link ..).trans (if_neg hx)

theorem lookup_index_removeUeState (key : UeKey) (x : Identifier) :
    (s.Carries identifiers key.getPrimaryKey x → (s.removeUeState key).2.index.lookup x = none) ∧
      (¬s.Carries identifiers key.getPrimaryKey x →
        (s.removeUeState key).2.index.lookup x = s.index.lookup x) := by
  rw [removeUeState]
  split
  next st hst =>
    rw [Indexed.carries_iff_of_lookup hst]
    simp only [drop, removeUeIndices, lookup_unlink]
    exact ⟨fun h => if_pos h, fun h => if_neg h⟩
  next hnone =>
    exact ⟨fun h => absurd h (Indexed.not_carries_of_lookup_eq_none hnone x), fun _ => rfl⟩

theorem lookup_index_updateUeGpsi (key : UeKey) {gpsi : Gpsi} (now : ℤ) {x : Identifier}
    (hx : x ≠ ⟨.gpsi, gpsi.value⟩) :
    ((AddressedOp.updateUeGpsi key gpsi now).Releases s x →
        (s.updateUeGpsi key gpsi now).2.index.lookup x = none) ∧
      (¬(AddressedOp.updateUeGpsi key gpsi now).Releases s x →
        (s.updateUeGpsi key gpsi now).2.index.lookup x = s.index.lookup x) := by
  simp only [AddressedOp.Releases]
  rw [updateUeGpsi]
  split
  next st hst =>
    simp only [lookup_link, List.mem_singleton, if_neg hx, lookup_unlink, hst, Option.some.injEq]
    refine ⟨?_, fun h => if_neg ?_⟩
    · rintro ⟨_, g, rfl, hg, rfl⟩
      exact if_pos (by simp [hg])
    · intro hmem
      obtain ⟨g, hg, rfl⟩ : ∃ g, st.gpsi = some g ∧ (⟨.gpsi, g.value⟩ : Identifier) = x := by
        simpa using hmem
      exact h ⟨st, g, rfl, hg, rfl⟩
  next hnone => simp [hnone]

/-- The operations on PDU sessions keep the entries pointing to other UEs. -/
theorem lookup_index_addOrUpdatePduSession {key : UeKey} {pdu : PduSessionData} (now : ℤ)
    {x : Identifier} {k : String} (hx : x ∉ pdu.identifiers) (hk : k ≠ key.getPrimaryKey)
    (h : s.index.lookup x = some k) :
    (s.addOrUpdatePduSession key pdu now).2.index.lookup x = some k := by
  rw [addOrUpdatePduSession]
  split
  next => exact h
  next st hst =>
    -- Only the entries that point to the UE itself are taken off.
    split
    next => exact ((lookup_link ..).trans (if_neg hx)).trans (lookup_unlinkOwned_of_ne _ h hk)
    next => exact ((lookup_link ..).trans (if_neg hx)).trans h

theorem lookup_index_removePduSession {key : UeKey} (pduSessionId : String) (now : ℤ)
    {x : Identifier} {k : String} (hk : k ≠ key.getPrimaryKey) (h : s.index.lookup x = some k) :
    (s.removePduSession key pduSessionId now).2.2.index.lookup x = some k := by
  rw [removePduSession]
  split
  next => exact h
  next st hst =>
    split
    next => exact h
    next => exact lookup_unlinkOwned_of_ne _ h hk

/-- What an operation does to the entry of an identifier it does not assign: it
    erases it if it releases it, and otherwise keeps it if it points elsewhere. -/
theorem lookup_index_perform {op : AddressedOp} {s' : UeStore}
    (hs' : s.perform op.toUeOp = .ok s') {x : Identifier} (hx : ¬op.Assigns x) :
    (op.Releases s x → s'.index.lookup x = none) ∧
      (¬op.Releases s x → ∀ k, s.index.lookup x = some k → ¬op.Addresses s k →
        s'.index.lookup x = some k) := by
  cases op with
  | updateUeState st =>
    obtain rfl := Except.ok.inj hs'
    obtain ⟨hgone, hkept⟩ := lookup_index_updateUeState (s := s) hx
    exact ⟨hgone, fun h k hk _ => (hkept h).trans hk⟩
  | removeUeState key =>
    obtain rfl := Except.ok.inj hs'
    obtain ⟨hgone, hkept⟩ := lookup_index_removeUeState (s := s) key x
    exact ⟨hgone, fun h k hk _ => (hkept h).trans hk⟩
  | updateUeGpsi key gpsi now =>
    obtain rfl := Except.ok.inj hs'
    obtain ⟨hgone, hkept⟩ := lookup_index_updateUeGpsi (s := s) key now hx
    exact ⟨hgone, fun h k hk _ => (hkept h).trans hk⟩
  | addOrUpdatePduSession key pdu now =>
    obtain rfl := Except.ok.inj hs'
    exact ⟨False.elim, fun _ k hk hne => lookup_index_addOrUpdatePduSession now hx hne hk⟩
  | removePduSession key pduSessionId now =>
    obtain rfl := Except.ok.inj hs'
    exact ⟨False.elim, fun _ k hk hne => lookup_index_removePduSession pduSessionId now hne hk⟩
  | cleanupExpiredProvisionalStates maxAge now =>
    obtain rfl := Except.ok.inj hs'
    refine ⟨lookup_index_foldl_dropKey_of_carries, fun h k hk _ => ?_⟩
    exact (lookup_index_foldl_dropKey_of_not_carries fun l hl hc => h ⟨l, hl, hc⟩).trans hk

theorem perform_addressedOp (s : UeStore) (op : AddressedOp) :
    ∃ s', s.perform op.toUeOp = .ok s' := by
  cases op <;> exact ⟨_, rfl⟩

theorem isolated_of_released {s : UeStore} {op : AddressedOp}
    (h : ∀ x k, op.Releases s x → ¬op.Assigns x → s.index.lookup x = some k → op.Addresses s k) :
    s.Isolated op := by
  intro s' hs' x k hk haddr hx
  by_cases hrel : op.Releases s x
  · exact absurd (h x k hrel hx hk) haddr
  · exact (lookup_index_perform hs' hx).2 hrel k hk haddr

/-- An operation leaves the entries of the other UEs alone exactly when every
    identifier it releases, and does not assign, is indexed to no other UE. -/
theorem isolated_iff (s : UeStore) (op : AddressedOp) : s.Isolated op ↔
    ∀ x k, op.Releases s x → ¬op.Assigns x → s.index.lookup x = some k → op.Addresses s k := by
  constructor
  · intro h x k hrel hx hk
    -- The entry of another UE would be erased and kept.
    by_contra haddr
    obtain ⟨s', hs'⟩ := s.perform_addressedOp op
    have hnone := (lookup_index_perform hs' hx).1 hrel
    rw [h s' hs' x k hk haddr hx] at hnone
    cases hnone
  · exact isolated_of_released

/-- The operations on PDU sessions leave the other UEs alone, in every store. -/
theorem isolated_pduSession (s : UeStore) (key : UeKey) (pdu : PduSessionData) (id : String)
    (now : ℤ) : s.Isolated (.addOrUpdatePduSession key pdu now) ∧
      s.Isolated (.removePduSession key id now) :=
  ⟨isolated_of_released fun _ _ h => h.elim, isolated_of_released fun _ _ h => h.elim⟩

/-- The first of two subscribers with one GPSI is removed, and takes the entry
    that points to the second off the index. -/
theorem not_isolated_removeUeState : ∃ s,
    (sharedGpsiRun.take 2).foldlM UeStore.next .empty = some s ∧ ueSystem.Reachable s ∧
    ¬s.Isolated (.removeUeState (keyOf "imsi-001010000000001")) := by
  refine ⟨_, rfl, System.reachable_of_run (sharedGpsiRun.take 2) (.init rfl) rfl, fun h => ?_⟩
  have hother : "supi:imsi-001010000000002" ≠ (keyOf "imsi-001010000000001").getPrimaryKey := by
    decide
  have hkept := h _ rfl ⟨.gpsi, "+111"⟩ "supi:imsi-001010000000002" rfl hother id
  exact absurd hkept nofun

end UeStore

end PhineAf

import PhineAf.Ue.Indices
import PhineAf.Ue.KeyIdentity

/-!
# The resolution of a UE

Whether the SUPI of a UE is known is written in its state three times: there is a SUPI, the
resolution state says so, and the primary key is made of that SUPI. The clean-up of
provisional states goes by the second, the indices by the first and the third.

The three agree (`IdentityAgrees`) in a state made from a SUPI, and no call makes them
disagree later. A state made from a key is provisional, whatever the key is based on, so they
agree from the beginning only if the key holds no SUPI. Then they agree until `resolve_supi` is
called, and after that exactly if the SUPI it is given is well formed: otherwise the call
throws, but with the SUPI and the resolution state written and the key as it was
(`identityAgrees_iff`).
-/

namespace PhineAf

namespace AfUeSubscriptionState

/-! ## The calls of the mutators -/

section

variable (now : ℤ) (st : AfUeSubscriptionState)

/-- `resolve_supi`, with the object that is left when the format of the SUPI is refused: the
    key comes last. -/
def resolveSupiInPlace (supi : Supi) : Except Exn Unit × AfUeSubscriptionState :=
  if st.supi.isSome then (.ok (), st)
  else
    let st' := { st with
      supi := some supi
      resolutionState := .resolved
      supiResolvedAt := some now }
    if st.ueKey.canPromoteToSupi then
      (.ok (), { st' with ueKey := st.ueKey.promoteToSupi }.touch now)
    else match UeKey.fromSupi supi with
      | .ok key => (.ok (), { st' with ueKey := key }.touch now)
      | .error e => (.error e, st')

/-- A call that does not throw leaves the state that it returns. -/
theorem resolveSupi_eq (supi : Supi) : st.resolveSupi now supi =
    (st.resolveSupiInPlace now supi).1.map fun _ => (st.resolveSupiInPlace now supi).2 := by
  rw [resolveSupi, resolveSupiInPlace]
  split_ifs
  · rfl
  · rfl
  · cases hkey : UeKey.fromSupi supi <;> rfl

end

end AfUeSubscriptionState

open AfUeSubscriptionState

/-- A call of a public mutator of a UE state. Through the reference to the PDU sessions the
    caller may write anything in their place. -/
inductive UeCall
  | setGpsi (gpsi : Gpsi)
  | setDatum (datum : UeDatum)
  | recordActivity
  | resolveSupi (supi : Supi)
  | addKnownIdentifier (type : KnownType) (value : String)
  | removeKnownIdentifier (type : KnownType) (value : String)
  | addOrUpdatePduSession (pdu : PduSessionData)
  | removePduSession (pduSessionId : String)
  | writePduSessions (pdus : List PduSessionData)

/-- A constructor of a UE state. -/
inductive UeConstructor
  | key (key : UeKey) (now : ℤ)
  | supi (supi : Supi) (now : ℤ)

namespace AfUeSubscriptionState

/-- A datum is set by the mutator of its own. -/
def setDatum (now : ℤ) (st : AfUeSubscriptionState) : UeDatum → AfUeSubscriptionState
  | .locationInfo info => st.setLocationInfo now info
  | .accessMobilityData data => st.setAccessMobilityData now data
  | .policyDataInfo data => st.setUePolicyDataInfo now data
  | .prosePduidInformation info => st.setProsePduidInformation now info
  | .timeSyncServiceAvailability available => st.setTimeSyncServiceAvailableAndCapable now available
  | .serviceAreaCoverageAllowed coverage => st.setServiceAreaCoverageAllowed now coverage
  | .highThroughputDesired desired => st.setHighThroughputDesiredForUeTraffic now desired

/-- The state after a call, at the time of the call, also when it throws. -/
def call (st : AfUeSubscriptionState) : ℤ × UeCall → AfUeSubscriptionState
  | (now, .setGpsi gpsi) => st.setGpsi now gpsi
  | (now, .setDatum datum) => st.setDatum now datum
  | (now, .recordActivity) => st.recordActivity now
  | (now, .resolveSupi supi) => (st.resolveSupiInPlace now supi).2
  | (now, .addKnownIdentifier type value) => (st.addKnownIdentifier now type value).2
  | (now, .removeKnownIdentifier type value) => (st.removeKnownIdentifier now type value).2
  | (now, .addOrUpdatePduSession pdu) => st.addOrUpdatePduSession now pdu
  | (now, .removePduSession pduSessionId) => (st.removePduSession now pduSessionId).2
  | (_, .writePduSessions pdus) => { st with pduSessions := pdus }

/-- The states before and after each of some calls. -/
def states (st : AfUeSubscriptionState) (calls : List (ℤ × UeCall)) : List AfUeSubscriptionState :=
  calls.scanl call st

/-- The SUPI is present exactly if the state is resolved, and it is the one that the primary
    key is made of, if that is made of a SUPI. -/
structure IdentityAgrees (st : AfUeSubscriptionState) : Prop where
  resolved : st.supi.isSome ↔ st.resolutionState = .resolved
  primaryKey : ∀ supi, st.supi = some supi ↔ st.primaryKey = "supi:" ++ supi.value

end AfUeSubscriptionState

namespace UeConstructor

/-- The state that is made. -/
def construct : UeConstructor → Except Exn AfUeSubscriptionState
  | key k now => .ok (ofKey k now)
  | supi s now => ofSupi s now

end UeConstructor

/-- The first SUPI that `resolve_supi` is given. -/
def firstSupi (calls : List (ℤ × UeCall)) : Option Supi :=
  calls.findSome? fun
    | (_, .resolveSupi supi) => some supi
    | _ => none

/-- The state is made from a SUPI; or from a key that holds none, and the first SUPI that
    `resolve_supi` is given is well formed. -/
def UeConstructor.Resolvable (calls : List (ℤ × UeCall)) : UeConstructor → Prop
  | key k _ => k.supiValue = none ∧
      ∀ supi, firstSupi calls = some supi → validateSupiFormat supi.value = .ok ()
  | supi .. => True

/-! ## The SUPI of a key -/

namespace UeKey

/-- The primary key has the tag of a SUPI exactly if the key holds one. -/
theorem exists_tag (k : UeKey) : ∃ t v, k.getPrimaryKey = KeyType.tag t ++ ":" ++ v ∧
    k.supiValue = if t = .supiBased then some v else none := by
  obtain ⟨t, a, b, c, d, e, f, hs⟩ := k
  cases hs with
  | supi v | ofSupi v => exact ⟨.supiBased, v, rfl, rfl⟩
  | gpsi v | ofGpsi v => exact ⟨.gpsiBased, v, rfl, rfl⟩
  | ipv4 v | ofIpv4 v => exact ⟨.ipv4Based, v, rfl, rfl⟩
  | ipv6 v | ofIpv6 v => exact ⟨.ipv6Based, v, rfl, rfl⟩
  | ipv6Prefix v | ofIpv6Prefix v => exact ⟨.ipv6PrefixBased, v, rfl, rfl⟩
  | mac v | ofMac v => exact ⟨.macAddrBased, v, rfl, rfl⟩

theorem getPrimaryKey_eq_supi_iff (k : UeKey) (v : String) :
    k.getPrimaryKey = "supi:" ++ v ↔ k.supiValue = some v := by
  obtain ⟨t, w, hkey, hsupi⟩ := k.exists_tag
  rw [hkey, hsupi]
  constructor
  · intro h
    have htag : t.tag ++ ":" ++ w = KeyType.supiBased.tag ++ ":" ++ v := h
    obtain ⟨rfl, rfl⟩ := KeyType.tag_append_inj htag
    exact if_pos rfl
  · intro h
    rw [Option.ite_none_right_eq_some] at h
    obtain ⟨rfl, hw⟩ := h
    rw [Option.some.inj hw]
    rfl

theorem fromSupi_eq_ok_iff {supi : Supi} {k : UeKey} : fromSupi supi = .ok k ↔
    validateSupiFormat supi.value = .ok () ∧
      k = { type := .supiBased, supiValue := some supi.value, sole := .supi _ } := by
  rw [fromSupi, Json.bind_eq_ok]
  constructor
  · rintro ⟨⟨⟩, hvalid, h⟩
    exact ⟨hvalid, (Except.ok.inj h).symm⟩
  · rintro ⟨hvalid, rfl⟩
    exact ⟨(), hvalid, rfl⟩

end UeKey

namespace AfUeSubscriptionState

variable {st st' : AfUeSubscriptionState}

/-- The key holds the SUPI of the state. -/
theorem identityAgrees_iff_key : st.IdentityAgrees ↔
    (st.supi.isSome ↔ st.resolutionState = .resolved) ∧
      st.ueKey.supiValue = st.supi.map (·.value) := by
  constructor
  · rintro ⟨hresolved, hkey⟩
    refine ⟨hresolved, Option.ext fun v => ?_⟩
    rw [← UeKey.getPrimaryKey_eq_supi_iff, Option.map_eq_some_iff]
    constructor
    · exact fun h => ⟨⟨v⟩, (hkey ⟨v⟩).2 h, rfl⟩
    · rintro ⟨supi, hsupi, rfl⟩
      exact (hkey supi).1 hsupi
  · rintro ⟨hresolved, hkey⟩
    refine ⟨hresolved, fun supi => ?_⟩
    rw [AfUeSubscriptionState.primaryKey, UeKey.getPrimaryKey_eq_supi_iff, hkey,
      Option.map_eq_some_iff]
    constructor
    · exact fun h => ⟨supi, h, rfl⟩
    · rintro ⟨supi', hsupi, hvalue⟩
      exact hsupi.trans (congrArg (fun v => some (Supi.mk v)) hvalue)

/-! ## One call -/

/-- What is known of the SUPI is the same in two states. -/
structure SameIdentity (st st' : AfUeSubscriptionState) : Prop where
  supi : st'.supi = st.supi
  resolutionState : st'.resolutionState = st.resolutionState
  supiValue : st'.ueKey.supiValue = st.ueKey.supiValue

theorem SameIdentity.agrees_iff (h : SameIdentity st st') :
    st'.IdentityAgrees ↔ st.IdentityAgrees := by
  rw [identityAgrees_iff_key, identityAgrees_iff_key, h.supi, h.resolutionState, h.supiValue]

theorem SameIdentity.touch (h : SameIdentity st st') (now : ℤ) : SameIdentity st (st'.touch now) :=
  ⟨h.supi, h.resolutionState, h.supiValue⟩

theorem sameIdentity_setKnown (type : KnownType) (l : List String) :
    SameIdentity st (st.setKnown type l) := by
  cases type <;> exact ⟨rfl, rfl, rfl⟩

/-- A key that is demoted holds what it held. -/
theorem sameIdentity_removeKnownIdentifier (now : ℤ) (type : KnownType) (value : String) :
    SameIdentity st (st.removeKnownIdentifier now type value).2 := by
  rw [removeKnownIdentifier]
  split_ifs with hknown
  · refine SameIdentity.touch ?_ now
    have hset : SameIdentity st (st.setKnown type ((st.known type).erase value)) :=
      sameIdentity_setKnown type _
    split
    · exact ⟨hset.supi, hset.resolutionState, hset.supiValue⟩
    · exact hset
  · exact ⟨rfl, rfl, rfl⟩

/-- Only `resolve_supi` has to do with the SUPI. -/
theorem sameIdentity_call {now : ℤ} {c : UeCall} (hc : ∀ supi, c ≠ .resolveSupi supi) :
    SameIdentity st (st.call (now, c)) := by
  cases c with
  | resolveSupi supi => exact absurd rfl (hc supi)
  | setDatum datum => cases datum <;> exact ⟨rfl, rfl, rfl⟩
  | addKnownIdentifier type value =>
    rw [call, addKnownIdentifier]
    split_ifs
    · exact (sameIdentity_setKnown type _).touch now
    · exact ⟨rfl, rfl, rfl⟩
  | removeKnownIdentifier type value => exact sameIdentity_removeKnownIdentifier now type value
  | removePduSession id =>
    rw [call, removePduSession]
    split_ifs <;> exact ⟨rfl, rfl, rfl⟩
  | _ => exact ⟨rfl, rfl, rfl⟩

/-- A state with a SUPI is left as it is. -/
theorem resolveSupiInPlace_of_isSome (h : st.supi.isSome) (now : ℤ) (supi : Supi) :
    (st.resolveSupiInPlace now supi).2 = st := by
  rw [resolveSupiInPlace, if_pos h]

/-- The first SUPI makes the three disagree exactly if it is not well formed. -/
theorem resolveSupiInPlace_identityAgrees_iff (h : st.IdentityAgrees) (hnone : st.supi = none)
    (now : ℤ) (supi : Supi) : (st.resolveSupiInPlace now supi).2.IdentityAgrees ↔
      validateSupiFormat supi.value = .ok () := by
  have hkey : st.ueKey.supiValue = none := by
    rw [(identityAgrees_iff_key.1 h).2, hnone, Option.map_none]
  have hpromote : ¬st.ueKey.canPromoteToSupi := by simp [UeKey.canPromoteToSupi, hkey]
  rw [resolveSupiInPlace, hnone, if_neg (by simp), if_neg hpromote, identityAgrees_iff_key]
  cases hfrom : UeKey.fromSupi supi with
  | ok key =>
    obtain ⟨hvalid, rfl⟩ := UeKey.fromSupi_eq_ok_iff.1 hfrom
    exact iff_of_true ⟨iff_of_true rfl rfl, rfl⟩ hvalid
  | error e =>
    -- The SUPI is written, and the key, which holds none, is not replaced.
    refine iff_of_false (fun hagrees => ?_) fun hvalid => ?_
    · have heq : st.ueKey.supiValue = some supi.value := hagrees.2
      rw [hkey] at heq
      cases heq
    · rw [UeKey.fromSupi_eq_ok_iff.2 ⟨hvalid, rfl⟩] at hfrom
      cases hfrom

theorem isSome_supi_resolveSupiInPlace (st : AfUeSubscriptionState) (now : ℤ) (supi : Supi) :
    (st.resolveSupiInPlace now supi).2.supi.isSome := by
  rw [resolveSupiInPlace]
  split_ifs with h
  · exact h
  · rfl
  · cases UeKey.fromSupi supi <;> rfl

/-! ## Runs -/

theorem firstSupi_cons {now : ℤ} {c : UeCall} (hc : ∀ supi, c ≠ .resolveSupi supi)
    (calls : List (ℤ × UeCall)) : firstSupi ((now, c) :: calls) = firstSupi calls := by
  cases c with
  | resolveSupi supi => exact absurd rfl (hc supi)
  | _ => rfl

theorem states_cons (c : ℤ × UeCall) (calls : List (ℤ × UeCall)) :
    st.states (c :: calls) = st :: (st.call c).states calls :=
  List.scanl_cons

theorem mem_states (calls : List (ℤ × UeCall)) : st ∈ st.states calls := by
  cases calls with
  | nil => exact List.mem_singleton_self st
  | cons c calls =>
    rw [states_cons]
    exact List.mem_cons_self

/-- While the three agree, the states of the calls to come agree just if the first SUPI that
    is still to be given is well formed. -/
theorem forall_states_identityAgrees_iff (h : st.IdentityAgrees) (calls : List (ℤ × UeCall)) :
    (∀ st' ∈ st.states calls, st'.IdentityAgrees) ↔ (st.supi = none →
      ∀ supi, firstSupi calls = some supi → validateSupiFormat supi.value = .ok ()) := by
  induction calls generalizing st with
  | nil =>
    rw [states, List.scanl_nil, List.forall_mem_singleton]
    exact iff_of_true h fun _ _ hsupi => by cases hsupi
  | cons c calls ih =>
    obtain ⟨now, c⟩ := c
    rw [states_cons, List.forall_mem_cons, and_iff_right h]
    by_cases hc : ∃ supi, c = .resolveSupi supi
    · obtain ⟨supi, rfl⟩ := hc
      have hcall : st.call (now, .resolveSupi supi) = (st.resolveSupiInPlace now supi).2 := rfl
      rw [hcall]
      cases hsupi : st.supi with
      | some s =>
        rw [resolveSupiInPlace_of_isSome (by rw [hsupi]; rfl), ih h, hsupi]
        exact iff_of_true nofun nofun
      | none =>
        have hvalid := resolveSupiInPlace_identityAgrees_iff h hsupi now supi
        constructor
        · -- The state after this call is among those to come.
          intro hall _ supi' hsupi'
          obtain rfl := Option.some.inj hsupi'
          exact hvalid.1 (hall _ (mem_states calls))
        · intro hfirst
          refine (ih (hvalid.2 (hfirst rfl supi rfl))).2 fun hnone => ?_
          have hsome := st.isSome_supi_resolveSupiInPlace now supi
          rw [hnone] at hsome
          cases hsome
    · have hc' : ∀ supi, c ≠ .resolveSupi supi := not_exists.1 hc
      have hsame : SameIdentity st (st.call (now, c)) := sameIdentity_call hc'
      rw [ih (hsame.agrees_iff.2 h), hsame.supi, firstSupi_cons hc']

theorem identityAgrees_ofKey_iff (key : UeKey) (now : ℤ) :
    (ofKey key now).IdentityAgrees ↔ key.supiValue = none := by
  rw [identityAgrees_iff_key]
  exact and_iff_right (iff_of_false Bool.false_ne_true nofun)

theorem identityAgrees_ofSupi {supi : Supi} {now : ℤ} {st : AfUeSubscriptionState}
    (h : ofSupi supi now = .ok st) : st.IdentityAgrees ∧ st.supi.isSome := by
  rw [ofSupi, Json.bind_eq_ok] at h
  obtain ⟨key, hkey, h⟩ := h
  obtain ⟨-, rfl⟩ := UeKey.fromSupi_eq_ok_iff.1 hkey
  obtain rfl := Except.ok.inj h
  exact ⟨identityAgrees_iff_key.2 ⟨iff_of_true rfl rfl, rfl⟩, rfl⟩

/-- In every state of every run of calls the SUPI, the resolution state and the primary key
    agree, exactly if the state is made from a SUPI, or from a key without one and the first
    SUPI that `resolve_supi` is given is well formed. -/
theorem identityAgrees_iff {c : UeConstructor} {st : AfUeSubscriptionState}
    (h : c.construct = .ok st) (calls : List (ℤ × UeCall)) :
    (∀ st' ∈ st.states calls, st'.IdentityAgrees) ↔ c.Resolvable calls := by
  cases c with
  | key key now =>
    obtain rfl := Except.ok.inj h
    rw [UeConstructor.Resolvable, ← identityAgrees_ofKey_iff key now]
    constructor
    · intro hall
      have hagrees := hall _ (mem_states calls)
      exact ⟨hagrees, (forall_states_identityAgrees_iff hagrees calls).1 hall rfl⟩
    · rintro ⟨hagrees, hfirst⟩
      exact (forall_states_identityAgrees_iff hagrees calls).2 fun _ => hfirst
  | supi supi now =>
    obtain ⟨hagrees, hsome⟩ := identityAgrees_ofSupi h
    refine iff_of_true ((forall_states_identityAgrees_iff hagrees calls).2 fun hnone => ?_) trivial
    rw [hnone] at hsome
    cases hsome

open UeStore

/-- The SUPI is found out, and then the address is lost. -/
def resolvedCalls : List (ℤ × UeCall) :=
  [(1, .addKnownIdentifier .ipv4 "10.0.0.1"), (2, .resolveSupi ⟨"imsi-001010000000001"⟩),
    (3, .removeKnownIdentifier .ipv4 "10.0.0.1")]

theorem identityAgrees_resolved :
    UeConstructor.Resolvable resolvedCalls (.key (ipv4KeyOf "10.0.0.1") 0) ∧
      ∀ st ∈ (ofKey (ipv4KeyOf "10.0.0.1") 0).states resolvedCalls, st.IdentityAgrees := by
  have hresolvable : (UeConstructor.key (ipv4KeyOf "10.0.0.1") 0).Resolvable resolvedCalls := by
    refine ⟨rfl, fun supi hsupi => ?_⟩
    obtain rfl := Option.some.inj hsupi
    rfl
  exact ⟨hresolvable,
    (identityAgrees_iff (c := .key (ipv4KeyOf "10.0.0.1") 0) rfl resolvedCalls).2 hresolvable⟩

/-- A provisional state with the key of a SUPI; a SUPI that is refused; and a composite key
    that is promoted to the SUPI it holds, with another SUPI. -/
theorem not_identityAgrees :
    ¬(ofKey (keyOf "imsi-001010000000001") 0).IdentityAgrees ∧
      ¬((ofKey (ipv4KeyOf "10.0.0.1") 0).call
        (1, .resolveSupi ⟨"001010000000001"⟩)).IdentityAgrees ∧
      ¬((ofKey (keyOf "imsi-001010000000001").asComposite 0).call
        (1, .resolveSupi ⟨"imsi-001010000000002"⟩)).IdentityAgrees := by
  refine ⟨fun h => ?_, fun h => ?_, fun h => ?_⟩
  · exact absurd (h.primaryKey ⟨"imsi-001010000000001"⟩).2 (by decide)
  · exact absurd (h.primaryKey ⟨"001010000000001"⟩).1 (by decide)
  · exact absurd (h.primaryKey ⟨"imsi-001010000000002"⟩).1 (by decide)

end AfUeSubscriptionState

end PhineAf

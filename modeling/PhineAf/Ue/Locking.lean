import PhineAf.Lib.Lock
import PhineAf.Ue.Indices

/-!
# The lock of the UE store

`UeStateManager` with its lock `rw_mtx_`: every public operation takes it,
shared or exclusive, for its whole body, and the lock is not recursive. Some
operations call a public one from inside, which takes the lock again. They are
the lookups by GPSI, IPv4 address, IPv6 address and IPv6 prefix, when the index
has the identifier, and the promotion to a SUPI that is already stored under.
These are all: any other operation, and these in any other case, runs to its end
(`not_blocks_iff`), and then does to the store what its function of
`PhineAf.Ue.Store` does (`completes_of_not_reenters`).

The event published when a PDU session is removed, with the lock held, has no
subscriber.
-/

namespace PhineAf

open Guarded

namespace UeStateManager

/-! ## Operations taking the lock again -/

/-- `get_ue_state_by_key`. -/
def getUeStateByKey (key : UeKey) : Guarded Exn UeStore (Option AfUeSubscriptionState) :=
  withLock .shared (reads (·.getUeStateByKey key))

/-- The lookups by GPSI, IPv4 address, IPv6 address and IPv6 prefix: the key is
    built, and then looked up by the public operation. -/
def getUeStateBy (m : Hold) (x : Identifier) (key : Except Exn UeKey) :
    Guarded Exn UeStore (Option AfUeSubscriptionState) :=
  withLock m do
    if ((← store).index.lookup x).isSome then getUeStateByKey (← lift key) else return none

/-- `get_ue_state_by_gpsi`. -/
def getUeStateByGpsi (gpsi : Gpsi) : Guarded Exn UeStore (Option AfUeSubscriptionState) :=
  getUeStateBy .shared ⟨.gpsi, gpsi.value⟩ (UeKey.fromGpsi gpsi)

/-- `get_ue_state_by_ipv4`. -/
def getUeStateByIpv4 (ipv4 : Ipv4Addr) : Guarded Exn UeStore (Option AfUeSubscriptionState) :=
  getUeStateBy .exclusive ⟨.ipv4Addr, ipv4.value⟩ (UeKey.fromIpv4 ipv4)

/-- `get_ue_state_by_ipv6_addr`. -/
def getUeStateByIpv6Addr (ipv6 : Ipv6Addr) : Guarded Exn UeStore (Option AfUeSubscriptionState) :=
  getUeStateBy .exclusive ⟨.ipv6Addr, ipv6.value⟩ (UeKey.fromIpv6 ipv6)

/-- `get_ue_state_by_ipv6_prefix`. -/
def getUeStateByIpv6Prefix (ipv6Prefix : Ipv6Prefix) :
    Guarded Exn UeStore (Option AfUeSubscriptionState) :=
  getUeStateBy .exclusive ⟨.ipv6Prefix, ipv6Prefix.value⟩ (UeKey.fromIpv6Prefix ipv6Prefix)

/-- `merge_ue_states`. -/
def mergeUeStates (primaryKey secondaryKey : UeKey) (now : ℤ) : Guarded Exn UeStore Bool :=
  withLock .exclusive (attempts (·.mergeUeStates primaryKey secondaryKey now))

/-- `promote_ue_state_to_resolved`: with a state stored under the SUPI, it calls
    the public `merge_ue_states`. -/
def promoteUeStateToResolved (currentKey : UeKey) (supi : Supi) (now : ℤ) :
    Guarded Exn UeStore Bool :=
  withLock .exclusive do
    let s ← store
    match s.states.lookup currentKey.getPrimaryKey, UeKey.fromSupi supi with
    | some _, .ok supiKey =>
      if currentKey.getPrimaryKey ≠ supiKey.getPrimaryKey ∧
          (s.states.lookup supiKey.getPrimaryKey).isSome then
        mergeUeStates supiKey currentKey now
      else attempts (·.promoteUeStateToResolved currentKey supi now)
    | _, _ => attempts (·.promoteUeStateToResolved currentKey supi now)

/-- `add_qod_session_to_pdu_session`. -/
def addQodSessionToPduSession (key : UeKey) (pduSessionId qodSessionId : String) (now : ℤ) :
    Guarded Exn UeStore Bool :=
  withLock .exclusive (writes (·.addQodSessionToPduSession key pduSessionId qodSessionId now))

/-- `add_qod_session_to_ue`: it unlocks before it calls the public operation. -/
def addQodSessionToUe (key : UeKey) (pduSessionId : Option String) (qodSessionId : String)
    (now : ℤ) : Guarded Exn UeStore Bool :=
  match pduSessionId with
  | some pduSessionId => do
    withLock .exclusive (pure ())
    addQodSessionToPduSession key pduSessionId qodSessionId now
  | none => withLock .exclusive (writes (·.addQodSessionToUe key none qodSessionId now))

/-! ## The public operations -/

/-- A query, without its answer. -/
def answer : UeQuery → Guarded Exn UeStore Unit
  | .getAllUeStates => ignore (withLock .shared (reads (·.getAllUeStates)))
  | .getUeStateByKey key => ignore (getUeStateByKey key)
  | .getUeStateBySupi supi => ignore (withLock .shared (reads (·.getUeStateBySupi supi)))
  | .getUeStateByGpsi gpsi => ignore (getUeStateByGpsi gpsi)
  | .getUeStateByIpv4 ipv4 => ignore (getUeStateByIpv4 ipv4)
  | .getUeStateByIpv6Addr ipv6 => ignore (getUeStateByIpv6Addr ipv6)
  | .getUeStateByIpv6Prefix ipv6Prefix => ignore (getUeStateByIpv6Prefix ipv6Prefix)
  | .getUeStateByMacAddr mac => ignore (withLock .exclusive (reads (·.getUeStateByMacAddr mac)))
  | .getUeStateByPduSessionId pduSessionId =>
    ignore (withLock .exclusive (reads (·.getUeStateByPduSessionId pduSessionId)))
  | .getQodSessionsForPduSession key pduSessionId =>
    ignore (withLock .shared (reads (·.getQodSessionsForPduSession key pduSessionId)))
  | .getPduSessionsForQodSession qodSessionId =>
    ignore (withLock .shared (reads (·.getPduSessionsForQodSession qodSessionId)))
  | .findUeStates resolutionState hasActiveSessions =>
    ignore (withLock .shared (reads (·.findUeStates resolutionState hasActiveSessions)))
  | .getStateStatistics => ignore (withLock .shared (reads (·.getStateStatistics)))

/-- An operation, without its answer. -/
def guarded : UeOp → Guarded Exn UeStore Unit
  | .query q => answer q
  | .updateUeState st => withLock .exclusive (writes fun s => ((), s.updateUeState st))
  | .createOrUpdateProvisionalUeState key initialData now =>
    withLock .exclusive (writes fun s => ((), s.createOrUpdateProvisionalUeState key initialData now))
  | .promoteUeStateToResolved currentKey supi now =>
    ignore (promoteUeStateToResolved currentKey supi now)
  | .mergeUeStates primaryKey secondaryKey now => ignore (mergeUeStates primaryKey secondaryKey now)
  | .removeUeState key => ignore (withLock .exclusive (writes (·.removeUeState key)))
  | .updateUeGpsi key gpsi now => ignore (withLock .exclusive (writes (·.updateUeGpsi key gpsi now)))
  | .updateUe key datum now => ignore (withLock .exclusive (writes (·.updateDatum key now datum)))
  | .addOrUpdatePduSession key pdu now =>
    ignore (withLock .exclusive (writes (·.addOrUpdatePduSession key pdu now)))
  | .removePduSession key pduSessionId now =>
    withLock .exclusive (writes fun s => ((), (s.removePduSession key pduSessionId now).2.2))
  | .removeNonPrimaryUeIdentifier key type value now =>
    ignore (withLock .exclusive (writes (·.removeNonPrimaryUeIdentifier key type value now)))
  | .addQodSessionToUe key pduSessionId qodSessionId now =>
    ignore (addQodSessionToUe key pduSessionId qodSessionId now)
  | .removeQodSessionFromUe key qodSessionId now =>
    ignore (withLock .exclusive (writes (·.removeQodSessionFromUe key qodSessionId now)))
  | .addQodSessionToPduSession key pduSessionId qodSessionId now =>
    ignore (addQodSessionToPduSession key pduSessionId qodSessionId now)
  | .removeQodSessionFromPduSession key pduSessionId qodSessionId now =>
    ignore (withLock .exclusive
      (writes (·.removeQodSessionFromPduSession key pduSessionId qodSessionId now)))
  | .cleanupExpiredProvisionalStates maxAge now =>
    withLock .exclusive (writes fun s => ((), s.cleanupExpiredProvisionalStates maxAge now))

end UeStateManager

/-! ## Which operations block -/

/-- The lookup by `x` finds it in the index, and it is well formed. -/
def SecondaryId.Hit (s : UeStore) (x : SecondaryId) : Prop :=
  (s.index.lookup x.identifier).isSome ∧ ∃ key, x.key = .ok key

/-- The cases in which an operation takes the lock again. -/
def UeOp.Reenters (s : UeStore) : UeOp → Prop
  | .query (.getUeStateByGpsi gpsi) => (SecondaryId.gpsi gpsi).Hit s
  | .query (.getUeStateByIpv4 ipv4) => (SecondaryId.ipv4 ipv4).Hit s
  | .query (.getUeStateByIpv6Addr ipv6) => (SecondaryId.ipv6Addr ipv6).Hit s
  | .query (.getUeStateByIpv6Prefix ipv6Prefix) => (SecondaryId.ipv6Prefix ipv6Prefix).Hit s
  | .promoteUeStateToResolved currentKey supi _ => ∃ supiKey, UeKey.fromSupi supi = .ok supiKey ∧
    (s.states.lookup currentKey.getPrimaryKey).isSome ∧
    currentKey.getPrimaryKey ≠ supiKey.getPrimaryKey ∧
    (s.states.lookup supiKey.getPrimaryKey).isSome
  | _ => False

namespace UeStateManager

variable {s : UeStore}

/-- The store after a call: one that throws leaves the store it has reached, and
    one with undefined behaviour none. -/
def finish (r : Except Exn Unit × Hold × UeStore) : Option UeStore :=
  match r.1 with
  | .ok _ => some r.2.2
  | .error e => if e.throws then some r.2.2 else none

/-- The call runs to its end, leaves the lock free, and does what the operation
    of the store does. -/
def Completes (op : UeOp) (s : UeStore) : Prop :=
  ∃ r s', guarded op (.free, s) = some (r, .free, s') ∧ finish (r, .free, s') = s.next op

theorem ignore_getUeStateBy_of_hit {m : Hold} (hm : m ≠ .free) {x : Identifier}
    {key : Except Exn UeKey} (h : (s.index.lookup x).isSome ∧ ∃ k, key = .ok k) :
    ignore (getUeStateBy m x key) (.free, s) = none := by
  obtain ⟨hx, k, rfl⟩ := h
  have hblocked : getUeStateBy m x (.ok k) (.free, s) = none := by
    rw [getUeStateBy]
    rw [withLock_of_free, store_bind, if_pos hx]
    -- The inner call finds the lock held by its caller.
    change (withLock .shared _ (m, s)).map _ = none
    rw [withLock_of_held hm]
    rfl
  rw [ignore, hblocked, Option.map_none]

theorem ignore_getUeStateBy_of_miss (m : Hold) {x : Identifier} {key : Except Exn UeKey}
    (hkey : ∀ e, key = .error e → e.throws)
    (hx : ¬((s.index.lookup x).isSome ∧ ∃ k, key = .ok k)) :
    ∃ r s', ignore (getUeStateBy m x key) (.free, s) = some (r, .free, s') ∧
      finish (r, .free, s') = some s := by
  rw [getUeStateBy, ignore]
  rw [withLock_of_free, store_bind]
  split_ifs with h
  · -- The index has the identifier, but no key can be built from it.
    cases key with
    | ok k => exact absurd ⟨h, k, rfl⟩ hx
    | error e => exact ⟨.error e, s, rfl, if_pos (hkey e rfl)⟩
  · exact ⟨.ok (), s, rfl, rfl⟩

theorem throws_of_key {x : SecondaryId} {e : Exn} (h : x.key = .error e) : e.throws := by
  cases x with
  | gpsi g => exact throws_of_validateGpsiFormat (UeKey.error_of_checked h)
  | ipv4 a => exact throws_of_validateIpv4Format (UeKey.error_of_checked h)
  | ipv6Addr a => exact throws_of_validateIpv6Format (UeKey.error_of_checked h)
  | ipv6Prefix p => exact throws_of_validateIpv6PrefixFormat (UeKey.error_of_checked h)

/-- A body that may throw, under the lock, does what it does to the store. -/
theorem ignore_withLock_attempts (m : Hold) (f : UeStore → Except Exn (Bool × UeStore)) :
    ∃ r s', ignore (withLock m (attempts f)) (.free, s) = some (r, .free, s') ∧
      finish (r, .free, s') = match (f s).map Prod.snd with
        | .ok s' => some s'
        | .error e => if e.throws then some s else none := by
  rw [ignore]
  rw [withLock_attempts]
  cases f s with
  | ok r => exact ⟨.ok (), r.2, rfl, rfl⟩
  | error e => exact ⟨.error e, s, rfl, rfl⟩

theorem promoteUeStateToResolved_of_reenters {currentKey : UeKey} {supi : Supi} {now : ℤ}
    (h : (UeOp.promoteUeStateToResolved currentKey supi now).Reenters s) :
    promoteUeStateToResolved currentKey supi now (.free, s) = none := by
  obtain ⟨supiKey, hk, hst, hne, hsupi⟩ := h
  obtain ⟨st, hst⟩ := Option.isSome_iff_exists.1 hst
  rw [promoteUeStateToResolved]
  rw [withLock_of_free, store_bind]
  simp only [hst, hk]
  have hheld : Hold.exclusive ≠ .free := nofun
  rw [if_pos ⟨hne, hsupi⟩, mergeUeStates, withLock_of_held hheld]
  rfl

theorem promoteUeStateToResolved_of_not_reenters {currentKey : UeKey} {supi : Supi} {now : ℤ}
    (h : ¬(UeOp.promoteUeStateToResolved currentKey supi now).Reenters s) :
    promoteUeStateToResolved currentKey supi now (.free, s) =
      withLock .exclusive (attempts (·.promoteUeStateToResolved currentKey supi now)) (.free, s) := by
  rw [promoteUeStateToResolved]
  rw [withLock_of_free, store_bind, withLock_of_free]
  cases hst : s.states.lookup currentKey.getPrimaryKey with
  | none => rfl
  | some st =>
    cases hk : UeKey.fromSupi supi with
    | error e => rfl
    | ok supiKey =>
      dsimp only
      -- Under the SUPI there is no state, or it is this one.
      rw [if_neg]
      rintro ⟨hne, hsupi⟩
      exact h ⟨supiKey, hk, Option.isSome_of_eq_some hst, hne, hsupi⟩

/-! ## All operations -/

/-- An operation that takes the lock again is blocked. -/
theorem blocks_of_reenters {op : UeOp} (h : op.Reenters s) : (guarded op).Blocks s := by
  cases op with
  | query q =>
    cases q with
    | getUeStateByGpsi gpsi => exact ignore_getUeStateBy_of_hit (m := .shared) nofun h
    | getUeStateByIpv4 ipv4 =>
      exact ignore_getUeStateBy_of_hit (m := .exclusive) nofun h
    | getUeStateByIpv6Addr ipv6 =>
      exact ignore_getUeStateBy_of_hit (m := .exclusive) nofun h
    | getUeStateByIpv6Prefix ipv6Prefix =>
      exact ignore_getUeStateBy_of_hit (m := .exclusive) nofun h
    | _ => exact h.elim
  | promoteUeStateToResolved currentKey supi now =>
    change (promoteUeStateToResolved currentKey supi now (.free, s)).map _ = none
    rw [promoteUeStateToResolved_of_reenters h, Option.map_none]
  | _ => exact h.elim

/-- Any other completes. -/
theorem completes_of_not_reenters {op : UeOp} (h : ¬op.Reenters s) : Completes op s := by
  cases op with
  | query q =>
    cases q with
    | getUeStateByGpsi gpsi =>
      exact ignore_getUeStateBy_of_miss _ (fun e => throws_of_key (x := .gpsi gpsi)) h
    | getUeStateByIpv4 ipv4 =>
      exact ignore_getUeStateBy_of_miss _ (fun e => throws_of_key (x := .ipv4 ipv4)) h
    | getUeStateByIpv6Addr ipv6 =>
      exact ignore_getUeStateBy_of_miss _ (fun e => throws_of_key (x := .ipv6Addr ipv6)) h
    | getUeStateByIpv6Prefix ipv6Prefix =>
      exact ignore_getUeStateBy_of_miss _ (fun e => throws_of_key (x := .ipv6Prefix ipv6Prefix)) h
    | _ => exact ⟨.ok (), s, rfl, rfl⟩
  | promoteUeStateToResolved currentKey supi now =>
    have hrun : guarded (.promoteUeStateToResolved currentKey supi now) (.free, s) =
        ignore (withLock .exclusive (attempts (·.promoteUeStateToResolved currentKey supi now)))
          (.free, s) := by
      simp only [guarded, ignore, promoteUeStateToResolved_of_not_reenters h]
    obtain ⟨r, s', hr, hfinish⟩ := ignore_withLock_attempts (s := s) .exclusive
      (·.promoteUeStateToResolved currentKey supi now)
    exact ⟨r, s', hrun.trans hr, hfinish⟩
  | mergeUeStates primaryKey secondaryKey now =>
    exact ignore_withLock_attempts .exclusive (·.mergeUeStates primaryKey secondaryKey now)
  | addQodSessionToUe key pduSessionId qodSessionId now =>
    cases pduSessionId <;> exact ⟨.ok (), _, rfl, rfl⟩
  | _ => exact ⟨.ok (), _, rfl, rfl⟩

/-- With the lock free, an operation never acquires it while holding it exactly
    when it is not one of the lookups on a hit or the promotion onto a stored
    SUPI. -/
theorem not_blocks_iff (s : UeStore) (op : UeOp) : ¬(guarded op).Blocks s ↔ ¬op.Reenters s := by
  refine not_congr ⟨fun hb => ?_, blocks_of_reenters⟩
  by_contra h
  obtain ⟨r, s', hrun, -⟩ := completes_of_not_reenters h
  rw [Blocks, hrun] at hb
  cases hb

/-- A UE is stored with a GPSI, and another one under its address. -/
def twoUesRun : List UeOp :=
  [.updateUeState (UeStore.subscriber "imsi-001010000000001" "+111"),
    .createOrUpdateProvisionalUeState (UeStore.ipv4KeyOf "10.0.0.1") none 0]

/-- The lookup of the first by its GPSI blocks, and so does the promotion of the
    second to the SUPI of the first. -/
theorem blocks_after_twoUesRun : ∃ s,
    twoUesRun.foldlM UeStore.next .empty = some s ∧ ueSystem.Reachable s ∧
    (guarded (.query (.getUeStateByGpsi ⟨"+111"⟩))).Blocks s ∧
    (guarded (.promoteUeStateToResolved (UeStore.ipv4KeyOf "10.0.0.1")
      ⟨"imsi-001010000000001"⟩ 1)).Blocks s := by
  refine ⟨_, rfl, System.reachable_of_run twoUesRun (.init rfl) rfl, ?_, ?_⟩
  · exact blocks_of_reenters ⟨rfl, _, rfl⟩
  · exact blocks_of_reenters ⟨UeStore.keyOf "imsi-001010000000001", rfl, rfl, by decide, rfl⟩

end UeStateManager

end PhineAf

import PhineAf.Ue.Store

/-!
# Keys as identities

Two keys are equal if their primary keys are: texts made of a tag for the type of the key, a
colon and the identifier, which may have any characters in it, also those of another tag. As
no tag has a colon in it, the first colon ends the tag, and the text determines both
(`KeyType.tag_append_inj`). So keys made of one identifier each are equal exactly if type and
identifier are the same, and since no change of a key changes its primary key, a state stored
under it is found by it from then on (`equals_iff_and_stable`).
-/

namespace PhineAf

open Text

/-! ## Keys made of one identifier -/

namespace UeKey

/-- The constructor from a text and the type of the key. -/
def ofText (key : String) (keyType : KeyType) : Except Exn UeKey :=
  match keyType with
  | .supiBased => do
    validateSupiFormat key
    return { type := .supiBased, supiValue := some key, sole := .supi _ }
  | .gpsiBased => do
    validateGpsiFormat key
    return { type := .gpsiBased, gpsiValue := some key, sole := .gpsi _ }
  | .ipv4Based => do
    validateIpv4Format key
    return { type := .ipv4Based, ipv4Value := some key, sole := .ipv4 _ }
  | .ipv6Based => do
    validateIpv6Format key
    return { type := .ipv6Based, ipv6Value := some key, sole := .ipv6 _ }
  | .ipv6PrefixBased => do
    validateIpv6PrefixFormat key
    return { type := .ipv6PrefixBased, ipv6PrefixValue := some key, sole := .ipv6Prefix _ }
  | .macAddrBased => do
    validateMacFormat key
    return { type := .macAddrBased, macAddrValue := some key, sole := .mac _ }
  | .composite => .error (.invalidArgument
      "COMPOSITE key type requires explicit construction with multiple identifiers")

/-- `operator==`. -/
def equals (k other : UeKey) : Bool := k.getPrimaryKey == other.getPrimaryKey

/-- `with_supi_promotion`. -/
def withSupiPromotion (k : UeKey) : UeKey :=
  if h : k.canPromoteToSupi then
    { type := .supiBased, supiValue := k.supiValue, gpsiValue := k.gpsiValue,
      ipv4Value := k.ipv4Value, ipv6Value := k.ipv6Value, ipv6PrefixValue := k.ipv6PrefixValue,
      macAddrValue := k.macAddrValue, sole := sole_promote h }
  else k

/-- `as_composite`. -/
def asComposite (k : UeKey) : UeKey :=
  if k.type = .composite then k
  else
    { type := .composite, supiValue := k.supiValue, gpsiValue := k.gpsiValue,
      ipv4Value := k.ipv4Value, ipv6Value := k.ipv6Value, ipv6PrefixValue := k.ipv6PrefixValue,
      macAddrValue := k.macAddrValue, sole := k.sole_demote }

/-- The copies are the keys that the changes in place make. -/
theorem withSupiPromotion_eq (k : UeKey) : k.withSupiPromotion = k.promoteToSupi := rfl

theorem asComposite_eq (k : UeKey) : k.asComposite = k.demoteToComposite := by
  obtain ⟨t, a, b, c, d, e, f, hs⟩ := k
  cases hs <;> rfl

end UeKey

/-- A constructor or factory of keys, with its argument. -/
inductive KeySource
  | supi (supi : Supi)
  | gpsi (gpsi : Gpsi)
  | ipv4 (ipv4 : Ipv4Addr)
  | ipv6 (ipv6 : Ipv6Addr)
  | ipv6Prefix (ipv6Prefix : Ipv6Prefix)
  | mac (mac : MacAddr48)
  | text (key : String) (keyType : KeyType)

namespace KeySource

/-- The key that is made. -/
def build : KeySource → Except Exn UeKey
  | supi s => UeKey.fromSupi s
  | gpsi g => UeKey.fromGpsi g
  | ipv4 a => UeKey.fromIpv4 a
  | ipv6 a => UeKey.fromIpv6 a
  | ipv6Prefix p => UeKey.fromIpv6Prefix p
  | mac m => UeKey.fromMac m
  | text key keyType => UeKey.ofText key keyType

/-- The identifier that the key is made of. -/
def value : KeySource → String
  | supi s => s.value
  | gpsi g => g.value
  | ipv4 a => a.value
  | ipv6 a => a.value
  | ipv6Prefix p => p.value
  | mac m => m.value
  | text key _ => key

end KeySource

/-! ## Tags -/

/-- The tag of a type in the primary key. -/
def KeyType.tag : KeyType → String
  | supiBased => "supi"
  | gpsiBased => "gpsi"
  | ipv4Based => "ipv4"
  | ipv6Based => "ipv6"
  | ipv6PrefixBased => "ipv6_prefix"
  | macAddrBased => "mac"
  | composite => "unknown"

theorem KeyType.colon_notMem_tag (t : KeyType) : ':' ∉ t.tag.toList := by
  cases t <;> decide

theorem KeyType.tag_injective : Function.Injective KeyType.tag := by
  intro t t' h
  cases t <;> cases t' <;> first | rfl | exact absurd h (by decide)

/-- The first colon ends the tag. -/
theorem KeyType.tag_append_inj {t t' : KeyType} {v v' : String}
    (h : t.tag ++ ":" ++ v = t'.tag ++ ":" ++ v') : t = t' ∧ v = v' := by
  have hlist := congrArg String.toList h
  simp only [String.toList_append, List.append_assoc] at hlist
  obtain ⟨htag, hv⟩ := append_cons_inj_left t.colon_notMem_tag t'.colon_notMem_tag hlist
  exact ⟨KeyType.tag_injective (String.toList_injective htag), String.toList_injective hv⟩

/-- A key whose identifier is checked first is what the check lets through. -/
theorem UeKey.eq_of_checked {check : Except Exn Unit} {k k' : UeKey}
    (h : (check >>= fun _ => pure k) = .ok k') : k' = k := by
  cases check with
  | ok _ => exact (Except.ok.inj h).symm
  | error _ => cases h

namespace KeySource

/-- The primary key of a key made of an identifier is the tag of its type and the
    identifier. -/
theorem getPrimaryKey_of_build {a : KeySource} {k : UeKey} (h : a.build = .ok k) :
    k.getPrimaryKey = k.type.tag ++ ":" ++ a.value := by
  cases a with
  | text key keyType => cases keyType with
    | composite => cases h
    | _ => rw [UeKey.eq_of_checked h]; rfl
  | _ => rw [UeKey.eq_of_checked h]; rfl

end KeySource

/-! ## Changes of a key -/

/-- The changes of a key in place. -/
inductive KeyChange
  | promoteToSupi
  | demoteToComposite

namespace UeKey

/-- The key after a change. -/
def change (k : UeKey) : KeyChange → UeKey
  | .promoteToSupi => k.promoteToSupi
  | .demoteToComposite => k.demoteToComposite

/-- The key after a sequence of changes. -/
def changes (k : UeKey) (cs : List KeyChange) : UeKey := cs.foldl change k

@[simp]
theorem getPrimaryKey_change (k : UeKey) (c : KeyChange) :
    (k.change c).getPrimaryKey = k.getPrimaryKey := by
  cases c with
  | promoteToSupi => exact getPrimaryKey_promoteToSupi k
  | demoteToComposite => exact getPrimaryKey_demoteToComposite k

@[simp]
theorem getPrimaryKey_changes (k : UeKey) (cs : List KeyChange) :
    (k.changes cs).getPrimaryKey = k.getPrimaryKey := by
  induction cs generalizing k with
  | nil => rfl
  | cons c cs ih => exact (ih (k.change c)).trans (getPrimaryKey_change k c)

end UeKey

/-- A state is found by every key with the primary key it is stored under. -/
theorem UeStore.getUeStateByKey_put {s : UeStore} {st : AfUeSubscriptionState} {k k' : UeKey}
    (h : k'.getPrimaryKey = k.getPrimaryKey) :
    (s.put k.getPrimaryKey st).getUeStateByKey k' = some st := by
  rw [getUeStateByKey, h]
  exact AList.lookup_insert _

namespace KeySource

/-- Keys made of one identifier each are equal exactly if they have the same type and are
    made of the same identifier. No change of such a key changes its primary key, and a state
    that is stored under it is found by the key after any sequence of changes. -/
theorem equals_iff_and_stable {a b : KeySource} {k₁ k₂ : UeKey} (h₁ : a.build = .ok k₁)
    (h₂ : b.build = .ok k₂) :
    (k₁.equals k₂ = true ↔ k₁.type = k₂.type ∧ a.value = b.value) ∧
      k₁.demoteToComposite.getPrimaryKey = k₁.getPrimaryKey ∧
      k₁.asComposite.getPrimaryKey = k₁.getPrimaryKey ∧
      ∀ cs : List KeyChange, (k₁.changes cs).getPrimaryKey = k₁.getPrimaryKey ∧
        ∀ (s : UeStore) (st : AfUeSubscriptionState),
          (s.put k₁.getPrimaryKey st).getUeStateByKey (k₁.changes cs) = some st := by
  refine ⟨?_, k₁.getPrimaryKey_demoteToComposite, ?_, fun cs => ⟨k₁.getPrimaryKey_changes cs,
    fun s st => UeStore.getUeStateByKey_put (k₁.getPrimaryKey_changes cs)⟩⟩
  · rw [UeKey.equals, beq_iff_eq, getPrimaryKey_of_build h₁, getPrimaryKey_of_build h₂]
    constructor
    · exact KeyType.tag_append_inj
    · rintro ⟨htype, hvalue⟩
      rw [htype, hvalue]
  · rw [UeKey.asComposite_eq, UeKey.getPrimaryKey_demoteToComposite]

/-- A GPSI that begins like the primary key of a UE with a SUPI is not that UE's key. -/
theorem not_equals_lookalike : ∃ k₁ k₂, (gpsi ⟨"supi:user@domain"⟩).build = .ok k₁ ∧
    (text "nai-user@domain" .supiBased).build = .ok k₂ ∧ k₁.equals k₂ = false ∧
      ∀ cs : List KeyChange, (k₂.changes cs).getPrimaryKey = "supi:nai-user@domain" := by
  refine ⟨_, _, rfl, rfl, ?_, fun cs => ?_⟩
  · rw [← Bool.not_eq_true, (equals_iff_and_stable (a := gpsi ⟨"supi:user@domain"⟩)
      (b := text "nai-user@domain" .supiBased) rfl rfl).1]
    exact fun h => absurd h.1 (by decide)
  · rw [((equals_iff_and_stable (a := text "nai-user@domain" .supiBased)
      (b := text "nai-user@domain" .supiBased) rfl rfl).2.2.2 cs).1]
    rfl

end KeySource

end PhineAf

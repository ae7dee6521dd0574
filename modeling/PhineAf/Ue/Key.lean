import PhineAf.Lib.Text
import PhineAf.Common

/-!
# UE keys

A UE is stored under a key: its SUPI when it is known, and otherwise one of
its other identifiers. A key is built from one identifier, whose format the
constructor checks; later it can be demoted to `composite`, and a composite key
promoted back. Since only these operations make keys, a key always holds the
value of exactly one identifier (`UeKey.sole`), and both changes keep its
primary key (`getPrimaryKey_demoteToComposite`, `getPrimaryKey_promoteToSupi`).
-/

namespace PhineAf

open RegularExpression Text

/-! ## Formats -/

/-- `validate_supi_format`. -/
def validateSupiFormat (value : String) : Except Exn Unit :=
  let cs := value.toList
  if cs.isEmpty then
    .error (.invalidArgument "SUPI value cannot be empty")
  else if "imsi-".toList.isPrefixOf cs then
    let imsiDigits := cs.drop 5
    if imsiDigits.isEmpty || 15 < imsiDigits.length then
      .error (.invalidArgument "Invalid IMSI format in SUPI: must be imsi-<5-15 digits>")
    else if !imsiDigits.all Char.isDigit then
      .error (.invalidArgument "Invalid IMSI format in SUPI: digits only after imsi-")
    else .ok ()
  else if "nai-".toList.isPrefixOf cs then
    let naiPart := cs.drop 4
    if naiPart.isEmpty || !naiPart.contains '@' then
      .error (.invalidArgument "Invalid NAI format in SUPI: must be nai-<username>@<domain>")
    else .ok ()
  else .error (.invalidArgument "Invalid SUPI format: must start with 'imsi-' or 'nai-'")

/-- `validate_gpsi_format`. -/
def validateGpsiFormat (value : String) : Except Exn Unit :=
  let cs := value.toList
  if cs.isEmpty then
    .error (.invalidArgument "GPSI value cannot be empty")
  else if "+".toList.isPrefixOf cs then
    let e164 := cs.drop 1
    if e164.isEmpty || 15 < e164.length then
      .error (.invalidArgument "Invalid E.164 format in GPSI: must be +<digits>")
    else if !e164.all Char.isDigit then
      .error (.invalidArgument "Invalid E.164 format in GPSI: digits only after +")
    else .ok ()
  else if cs.contains '@' then
    let atPos := cs.idxOf '@'
    if atPos == 0 || atPos == cs.length - 1 then
      .error (.invalidArgument "Invalid user@domain format in GPSI: must be <user>@<domain>")
    else .ok ()
  else
    .error (.invalidArgument
      "Invalid GPSI format: must start with 'e164-' or be in user@domain format")

/-- A number from `0` to `255` without leading zeros. -/
def octetPattern : Pattern :=
  char '2' * char '5' * range '0' '5' + char '2' * range '0' '4' * range '0' '9' +
    char '1' * times 2 (range '0' '9') + opt (range '1' '9') * range '0' '9'

/-- The pattern of `validate_ipv4_format`. -/
def ipv4Pattern : Pattern := times 3 (octetPattern * char '.') * octetPattern

/-- `validate_ipv4_format`. -/
def validateIpv4Format (value : String) : Except Exn Unit :=
  if value.toList.isEmpty then
    .error (.invalidArgument "IPv4 address cannot be empty")
  else if !fullMatch ipv4Pattern value then
    .error (.invalidArgument ("Invalid IPv4 address format: " ++ value))
  else .ok ()

/-- A hexadecimal digit. -/
def hexPattern : Pattern := range '0' '9' + range 'a' 'f' + range 'A' 'F'

/-- The pattern of `validate_ipv6_format`. -/
def ipv6Pattern : Pattern :=
  between 2 5 (between 0 4 hexPattern * char ':') * (between 0 4 hexPattern + ipv4Pattern)

/-- `validate_ipv6_format`. -/
def validateIpv6Format (value : String) : Except Exn Unit :=
  if value.toList.isEmpty then
    .error (.invalidArgument "IPv6 address cannot be empty")
  else if !value.toList.contains ':' then
    .error (.invalidArgument "Invalid IPv6 address format: must contain colons")
  else if !fullMatch ipv6Pattern value then
    .error (.invalidArgument ("Invalid IPv6 address format: " ++ value))
  else .ok ()

/-- `validate_ipv6_prefix_format`. -/
def validateIpv6PrefixFormat (value : String) : Except Exn Unit :=
  let cs := value.toList
  if cs.isEmpty then
    .error (.invalidArgument "IPv6 prefix cannot be empty")
  else if !cs.contains '/' then
    .error (.invalidArgument "Invalid IPv6 prefix format: must contain '/' for CIDR notation")
  else
    let addressPart := cs.take (cs.idxOf '/')
    let prefixLength := String.ofList (cs.drop (cs.idxOf '/' + 1))
    if addressPart.isEmpty || prefixLength.toList.isEmpty then
      .error (.invalidArgument "Invalid IPv6 prefix format: empty address or prefix length")
    else match stoi prefixLength with
      | some length =>
        if length < 0 || 128 < length then
          -- The range error is thrown inside the `try`, and so reported like a parse error.
          .error (.invalidArgument ("Invalid IPv6 prefix length: " ++ prefixLength))
        else validateIpv6Format (String.ofList addressPart)
      | none => .error (.invalidArgument ("Invalid IPv6 prefix length: " ++ prefixLength))

/-- A pair of hexadecimal digits of a MAC address. -/
def macPattern (sep : Char) : Pattern :=
  let digit := range '0' '9' + range 'A' 'F' + range 'a' 'f'
  times 5 (times 2 digit * char sep) * times 2 digit

/-- `validate_mac_format`. -/
def validateMacFormat (value : String) : Except Exn Unit :=
  if value.toList.isEmpty then
    .error (.invalidArgument "MAC address cannot be empty")
  else if !fullMatch (macPattern ':') value && !fullMatch (macPattern '-') value then
    .error (.invalidArgument ("Invalid MAC address format: " ++ value ++
      " (expected XX:XX:XX:XX:XX:XX or XX-XX-XX-XX-XX-XX)"))
  else .ok ()

/-! A format that is not met is reported by an exception. -/

theorem throws_of_validateGpsiFormat {value : String} {e : Exn}
    (h : validateGpsiFormat value = .error e) : e.throws := by
  rw [validateGpsiFormat] at h
  dsimp only at h
  split_ifs at h <;> cases h <;> rfl

theorem throws_of_validateIpv4Format {value : String} {e : Exn}
    (h : validateIpv4Format value = .error e) : e.throws := by
  rw [validateIpv4Format] at h
  split_ifs at h <;> cases h <;> rfl

theorem throws_of_validateIpv6Format {value : String} {e : Exn}
    (h : validateIpv6Format value = .error e) : e.throws := by
  rw [validateIpv6Format] at h
  split_ifs at h <;> cases h <;> rfl

theorem throws_of_validateIpv6PrefixFormat {value : String} {e : Exn}
    (h : validateIpv6PrefixFormat value = .error e) : e.throws := by
  rw [validateIpv6PrefixFormat] at h
  dsimp only at h
  split_ifs at h
  · cases h; rfl
  · cases h; rfl
  · cases h; rfl
  · split at h
    · split_ifs at h
      · cases h; rfl
      · exact throws_of_validateIpv6Format h
    · cases h; rfl

/-! ## Keys -/

/-- What a key is based on. -/
inductive KeyType
  | supiBased
  | gpsiBased
  | ipv4Based
  | ipv6Based
  | ipv6PrefixBased
  | macAddrBased
  | composite
  deriving DecidableEq, Repr

/-- Exactly one of the values (SUPI, GPSI, IPv4, IPv6, IPv6 prefix, MAC) is
    present, and it is the one of the type, unless that is `composite`. -/
inductive SoleValue : KeyType → (supi gpsi ipv4 ipv6 ipv6Prefix mac : Option String) → Prop
  | supi (v : String) : SoleValue .supiBased (some v) none none none none none
  | gpsi (v : String) : SoleValue .gpsiBased none (some v) none none none none
  | ipv4 (v : String) : SoleValue .ipv4Based none none (some v) none none none
  | ipv6 (v : String) : SoleValue .ipv6Based none none none (some v) none none
  | ipv6Prefix (v : String) : SoleValue .ipv6PrefixBased none none none none (some v) none
  | mac (v : String) : SoleValue .macAddrBased none none none none none (some v)
  | ofSupi (v : String) : SoleValue .composite (some v) none none none none none
  | ofGpsi (v : String) : SoleValue .composite none (some v) none none none none
  | ofIpv4 (v : String) : SoleValue .composite none none (some v) none none none
  | ofIpv6 (v : String) : SoleValue .composite none none none (some v) none none
  | ofIpv6Prefix (v : String) : SoleValue .composite none none none none (some v) none
  | ofMac (v : String) : SoleValue .composite none none none none none (some v)

/-- The key of a UE. -/
structure UeKey where
  type : KeyType
  supiValue : Option String := none
  gpsiValue : Option String := none
  ipv4Value : Option String := none
  ipv6Value : Option String := none
  ipv6PrefixValue : Option String := none
  macAddrValue : Option String := none
  /-- A key holds one identifier, that of its type. -/
  sole : SoleValue type supiValue gpsiValue ipv4Value ipv6Value ipv6PrefixValue macAddrValue
  deriving DecidableEq

namespace UeKey

/-- `UeKey(supi)` and `UeKey::from_supi`. -/
def fromSupi (supi : Supi) : Except Exn UeKey := do
  validateSupiFormat supi.value
  return { type := .supiBased, supiValue := some supi.value, sole := .supi _ }

/-- `UeKey(gpsi)` and `UeKey::from_gpsi`. -/
def fromGpsi (gpsi : Gpsi) : Except Exn UeKey := do
  validateGpsiFormat gpsi.value
  return { type := .gpsiBased, gpsiValue := some gpsi.value, sole := .gpsi _ }

/-- `UeKey(ipv4)` and `UeKey::from_ipv4`. -/
def fromIpv4 (ipv4 : Ipv4Addr) : Except Exn UeKey := do
  validateIpv4Format ipv4.value
  return { type := .ipv4Based, ipv4Value := some ipv4.value, sole := .ipv4 _ }

/-- `UeKey(ipv6)` and `UeKey::from_ipv6`. -/
def fromIpv6 (ipv6 : Ipv6Addr) : Except Exn UeKey := do
  validateIpv6Format ipv6.value
  return { type := .ipv6Based, ipv6Value := some ipv6.value, sole := .ipv6 _ }

/-- `UeKey(ipv6_prefix)` and `UeKey::from_ipv6_prefix`. -/
def fromIpv6Prefix (ipv6Prefix : Ipv6Prefix) : Except Exn UeKey := do
  validateIpv6PrefixFormat ipv6Prefix.value
  return { type := .ipv6PrefixBased, ipv6PrefixValue := some ipv6Prefix.value, sole := .ipv6Prefix _ }

/-- `UeKey(mac_addr)` and `UeKey::from_mac`. -/
def fromMac (mac : MacAddr48) : Except Exn UeKey := do
  validateMacFormat mac.value
  return { type := .macAddrBased, macAddrValue := some mac.value, sole := .mac _ }

/-- `get_primary_key`: the text a UE is stored under. -/
def getPrimaryKey (k : UeKey) : String :=
  match k.type with
  | .supiBased => "supi:" ++ k.supiValue.getD ""
  | .gpsiBased => "gpsi:" ++ k.gpsiValue.getD ""
  | .ipv4Based => "ipv4:" ++ k.ipv4Value.getD ""
  | .ipv6Based => "ipv6:" ++ k.ipv6Value.getD ""
  | .ipv6PrefixBased => "ipv6_prefix:" ++ k.ipv6PrefixValue.getD ""
  | .macAddrBased => "mac:" ++ k.macAddrValue.getD ""
  | .composite =>
    match k.supiValue, k.gpsiValue, k.ipv4Value, k.ipv6Value, k.ipv6PrefixValue, k.macAddrValue with
    | some v, _, _, _, _, _ => "supi:" ++ v
    | none, some v, _, _, _, _ => "gpsi:" ++ v
    | none, none, some v, _, _, _ => "ipv4:" ++ v
    | none, none, none, some v, _, _ => "ipv6:" ++ v
    | none, none, none, none, some v, _ => "ipv6_prefix:" ++ v
    | none, none, none, none, none, some v => "mac:" ++ v
    | none, none, none, none, none, none => "unknown"

/-- `can_promote_to_supi`. -/
def canPromoteToSupi (k : UeKey) : Bool := k.type != .supiBased && k.supiValue.isSome

theorem sole_promote {k : UeKey} (h : k.canPromoteToSupi) :
    SoleValue .supiBased k.supiValue k.gpsiValue k.ipv4Value k.ipv6Value k.ipv6PrefixValue
      k.macAddrValue := by
  obtain ⟨t, a, b, c, d, e, f, hs⟩ := k
  cases hs with
  | ofSupi v => exact .supi v
  | _ => simp [canPromoteToSupi] at h

/-- `promote_to_supi`. -/
def promoteToSupi (k : UeKey) : UeKey :=
  if h : k.canPromoteToSupi then { k with type := .supiBased, sole := sole_promote h } else k

theorem sole_demote (k : UeKey) :
    SoleValue .composite k.supiValue k.gpsiValue k.ipv4Value k.ipv6Value k.ipv6PrefixValue
      k.macAddrValue := by
  obtain ⟨t, a, b, c, d, e, f, hs⟩ := k
  cases hs <;> constructor

/-- `demote_to_composite`. -/
def demoteToComposite (k : UeKey) : UeKey := { k with type := .composite, sole := k.sole_demote }

/-- Demotion keeps the primary key. -/
@[simp]
theorem getPrimaryKey_demoteToComposite (k : UeKey) :
    k.demoteToComposite.getPrimaryKey = k.getPrimaryKey := by
  obtain ⟨t, a, b, c, d, e, f, hs⟩ := k
  cases hs <;> rfl

/-- Promotion keeps the primary key. -/
@[simp]
theorem getPrimaryKey_promoteToSupi (k : UeKey) :
    k.promoteToSupi.getPrimaryKey = k.getPrimaryKey := by
  obtain ⟨t, a, b, c, d, e, f, hs⟩ := k
  cases hs <;> rfl

/-- A key whose identifier is checked first fails as the check does. -/
theorem error_of_checked {check : Except Exn Unit} {k : UeKey} {e : Exn}
    (h : (check >>= fun _ => pure k) = .error e) : check = .error e := by
  cases check with
  | ok _ => cases h
  | error _ =>
    cases h
    rfl

end UeKey

end PhineAf

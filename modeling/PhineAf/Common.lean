import Mathlib.Data.Rat.Defs
import PhineAf.Lib.Json
import PhineAf.Lib.Table

/-!
# Common data

The identifiers and small records shared by the UE store, the QoD sessions and
the PCF handler, and what a call can throw.

Time points count nanoseconds, durations seconds. Only the *equality* of the
3GPP records is used by the stores, which keep them as a whole.
-/

namespace PhineAf

/-! ## Exceptions -/

/-- How a call may end without a result. -/
inductive Exn
  /-- `std::invalid_argument`, with its text. -/
  | invalidArgument (what : String)
  /-- `std::bad_optional_access`: `value()` of an empty optional. -/
  | badOptionalAccess
  /-- An exception of the JSON library: a missing key, or a value of the wrong type. -/
  | json (e : Json.Error)
  /-- Undefined behaviour: an empty optional is dereferenced with `*`. -/
  | emptyDereference
  /-- Undefined behaviour: a reference is used after its object is erased. -/
  | useAfterErase
  deriving DecidableEq, Repr

/-- The call throws a C++ exception, which its caller may catch. -/
def Exn.throws : Exn → Bool
  | .invalidArgument _ | .badOptionalAccess | .json _ => true
  | .emptyDereference | .useAfterErase => false

/-! ## Time -/

/-- The nanoseconds of a second. -/
def nanos : ℤ := 1000000000

/-- The time point `d` seconds after `t`. -/
def after (t d : ℤ) : ℤ := t + d * nanos

theorem after_le_after {t d d' : ℤ} (h : d ≤ d') : after t d ≤ after t d' := by
  unfold after nanos
  omega

/-- The whole seconds of a span of nanoseconds, rounded towards zero. -/
def secondsOf (span : ℤ) : ℤ := span.tdiv nanos

/-! ## Identifiers -/

structure Supi where
  value : String
  deriving DecidableEq, Repr

structure Gpsi where
  value : String
  deriving DecidableEq, Repr

structure Ipv4Addr where
  value : String
  deriving DecidableEq, Repr

structure Ipv6Addr where
  value : String
  deriving DecidableEq, Repr

structure Ipv6Prefix where
  value : String
  deriving DecidableEq, Repr

structure MacAddr48 where
  value : String
  deriving DecidableEq, Repr

/-! ## 3GPP records -/

structure Snssai where
  sst : ℤ
  sd : Option String
  deriving DecidableEq, Repr

structure RouteToLocation where
  dnaiIdentifier : String
  deriving DecidableEq, Repr

structure UserLocation where
  locationArea5g : Option String
  taiList : List String
  geographicalArea : Option String
  deriving DecidableEq, Repr

structure UeLocationInfo where
  userLocation : UserLocation
  timeZone : Option String
  deriving DecidableEq, Repr

structure PduidInformation where
  expiry : ℤ
  pduid : String
  deriving DecidableEq, Repr

structure PlmnIdNid where
  mcc : String
  mnc : String
  nid : Option String
  deriving DecidableEq, Repr

structure ServiceAreaCoverageInfo where
  tacList : List String
  servingNetwork : Option PlmnIdNid
  deriving DecidableEq, Repr

/-- An access type: its enumerators are not listed in the repository. -/
structure AccessType where
  code : ℕ
  deriving DecidableEq, Repr

/-- A radio access technology: its enumerators are not listed in the repository. -/
structure RatType where
  code : ℕ
  deriving DecidableEq, Repr

structure UeAccessMobilityData where
  accessType : Option AccessType := none
  accessTypesList : List AccessType := []
  ratType : Option RatType := none
  ratTypesList : List RatType := []
  servingPlmn : Option PlmnIdNid := none
  currentPlmnTimestamp : Option ℤ := none
  roamingStatus : Option Bool := none
  roamingStatusTimestamp : Option ℤ := none
  connectivityManagementState : Option String := none
  cmStateTimestamp : Option ℤ := none
  registrationManagementState : Option String := none
  ueReachabilityStatus : Option String := none
  reachabilityStatusTimestamp : Option ℤ := none
  smsSupport : Option String := none
  smsSupportTimestamp : Option ℤ := none
  satelliteBackhaulCategory : Option String := none
  deriving DecidableEq, Repr

end PhineAf

import PhineAf.Lib.Timestamp
import PhineAf.Qod.Handler

/-!
# The expiry of an access token

`QodHandler::parse_sink_credential` reads the expiry time with `std::get_time` and
`std::mktime`: the date and the time of day of the timestamp, which are taken for a time in
the zone of the host. The offset of the timestamp is not read. `from_time_t` then counts
nanoseconds.

`QodHandler.expiryRead_iff`: the expiry time is the instant of the timestamp just if the
host has the offset of the timestamp, and the clock has the instant.
-/

namespace PhineAf

open Calendar

/-- `std::mktime`. The offset of the host's zone from UTC, in seconds, has 32 bits. -/
def mktime (host : Int32) (tm : Tm) : ℤ := tm.seconds - host.toInt

/-- `system_clock::from_time_t`: the nanoseconds are counted with 64 bits, and wrap
    around. -/
def fromTimeT (t : ℤ) : ℤ := (t * nanos).bmod (2 ^ 64)

/-- The clock has the second. -/
def InClock (t : ℤ) : Prop := -2 ^ 63 ≤ t * nanos ∧ t * nanos < 2 ^ 63

instance (t : ℤ) : Decidable (InClock t) := inferInstanceAs (Decidable (_ ∧ _))

namespace QodHandler

/-- How `parse_sink_credential` reads on a host. -/
def hostReader (blank : SinkCredential) (host : Int32) : CredentialReader where
  blank := blank
  timeOf s := fromTimeT (mktime host (getTime dateTimeFormat s))

/-- The second of a timestamp is read with the offset of the host instead of its own. -/
theorem fromTimeT_eq_iff (host : Int32) (t : Timestamp) :
    fromTimeT (mktime host (getTime dateTimeFormat t.text)) = t.seconds * nanos ↔
      host.toInt = t.zone.offset ∧ InClock t.seconds := by
  have hsize : ((2 ^ 64 : ℕ) : ℤ) = 2 * 2 ^ 63 := by rfl
  have hhost := host.le_toInt
  have hhost' := host.toInt_lt
  obtain ⟨hoffset, hoffset'⟩ := t.zone.offset_mem
  rw [fromTimeT, mktime, Timestamp.seconds_getTime, Timestamp.seconds_eq, InClock, nanos,
    Int.bmod_eq_iff (by decide), hsize]
  constructor
  · rintro ⟨hlow, hhigh, hdvd⟩
    -- Offsets are too small for their difference to be a multiple of what the clock wraps at.
    have hzero := Int.eq_zero_of_abs_lt_dvd hdvd (abs_lt.2 ⟨by linarith, by linarith⟩)
    exact ⟨by linarith, by omega, by omega⟩
  · rintro ⟨heq, hlow, hhigh⟩
    rw [heq]
    exact ⟨by omega, by omega, by simp⟩

/-- A bearer token is rejected after its expiry time, and only then. -/
theorem validateSink_expired_iff {credential : SinkCredential} {sink token : String} {e now : ℤ}
    (hsink : isHttpsUrl sink = true) (htype : credential.credentialType = .accessToken)
    (htoken : credential.accessToken = some token) (hne : token ≠ "")
    (hexpires : credential.accessTokenExpiresUtc = some e)
    (hkind : credential.accessTokenType = some "bearer") :
    validateSink (some sink) (some credential) now = some "Access token has already expired" ↔
      e < now := by
  have hempty : token.isEmpty = false := by simpa using hne
  rw [validateSink, Option.bind_some, hsink, Bool.not_true, if_neg Bool.false_ne_true,
    Option.bind_some, validateCredential, htype, htoken, hexpires, hkind]
  by_cases hnow : e < now
  · simp [firstError, hempty, hnow]
  · simp [firstError, hempty, hnow]

/-- The expiry time of a credential is the instant of a timestamp, in whole seconds, and
    a sink with the credential is rejected for its expiry after this instant. -/
structure ExpiryRead (credential : SinkCredential) (t : Timestamp) : Prop where
  expires : credential.accessTokenExpiresUtc = some (t.seconds * nanos)
  rejected_iff : ∀ sink token now, isHttpsUrl sink = true →
    credential.accessToken = some token → token ≠ "" →
    credential.accessTokenType = some "bearer" →
    (validateSink (some sink) (some credential) now = some "Access token has already expired" ↔
      t.seconds * nanos < now)

variable {blank : SinkCredential} {host : Int32} {t : Timestamp} {json : Json}
  {token kind : Option String}

/-- A credential with an access token is read. -/
theorem parseSinkCredential_eq (htype : json.field "credentialType" = .ok (.str "ACCESSTOKEN"))
    (htoken : json.optional "accessToken" Json.getStr = .ok token)
    (hexpires : json.optional "accessTokenExpiresUtc" Json.getStr = .ok (some t.text))
    (hkind : json.optional "accessTokenType" Json.getStr = .ok kind) :
    parseSinkCredential (hostReader blank host) json = .ok (some { blank with
      credentialType := .accessToken
      accessToken := token.or blank.accessToken
      accessTokenExpiresUtc := some (fromTimeT (mktime host (getTime dateTimeFormat t.text)))
      accessTokenType := kind.or blank.accessTokenType }) := by
  have hnull : json.isNull = false := by
    rcases json with _ | _ | _ | _ | _ | _ | _ <;> first | rfl | cases htype
  rw [parseSinkCredential, hnull, if_neg Bool.false_ne_true, htype, htoken, hexpires, hkind]
  simp only [bind, Except.bind, Json.getStr, if_true, pure, Except.pure, hostReader,
    Option.map_some, Option.some_or]

/-- The expiry time is the instant of the timestamp just if the host has its offset, and
    the clock has the instant. -/
theorem expiryRead_iff (blank : SinkCredential) (host : Int32) (t : Timestamp) (json : Json)
    (token kind : Option String)
    (htype : json.field "credentialType" = .ok (.str "ACCESSTOKEN"))
    (htoken : json.optional "accessToken" Json.getStr = .ok token)
    (hexpires : json.optional "accessTokenExpiresUtc" Json.getStr = .ok (some t.text))
    (hkind : json.optional "accessTokenType" Json.getStr = .ok kind) :
    (∃ credential, parseSinkCredential (hostReader blank host) json = .ok (some credential) ∧
      ExpiryRead credential t) ↔ host.toInt = t.zone.offset ∧ InClock t.seconds := by
  rw [← fromTimeT_eq_iff]
  rw [parseSinkCredential_eq htype htoken hexpires hkind]
  constructor
  · rintro ⟨credential, hcredential, hread⟩
    obtain rfl := Option.some.inj (Except.ok.inj hcredential)
    exact Option.some.inj hread.expires
  · intro h
    refine ⟨_, rfl, congrArg some h, ?_⟩
    intro sink token' now hsink htoken' hne hkind'
    exact validateSink_expired_iff hsink rfl htoken' hne (congrArg some h) hkind'

/-! ## New Year -/

/-- The first of January 2030. -/
def newYearsDay : Date := ⟨2030, 1, 1, by decide, by decide, by decide, by decide⟩

theorem dayNumber_newYearsDay : newYearsDay.dayNumber = 21915 :=
  (@Tm.dayNumber_eq { mday := 1, year := 130 } newYearsDay (by decide) (by decide)
    (by decide)).symm.trans (by decide)

/-- Midnight with an offset. -/
def newYear (zone : Zone) : Timestamp where
  date := newYearsDay
  year_lt := by decide
  hour := 0
  minute := 0
  second := 0
  fraction := []
  zone := zone

theorem localSeconds_newYear (zone : Zone) : (newYear zone).localSeconds = 1893456000 := by
  change newYearsDay.dayNumber * 86400 + 0 * 3600 + 0 * 60 + 0 = _
  rw [dayNumber_newYearsDay]
  decide

theorem inClock_newYear (zone : Zone) : InClock (newYear zone).seconds := by
  obtain ⟨hoffset, hoffset'⟩ := zone.offset_mem
  rw [InClock, Timestamp.seconds_eq, localSeconds_newYear, nanos]
  change _ ≤ (1893456000 - zone.offset) * 1000000000 ∧ (1893456000 - zone.offset) * 1000000000 < _
  omega

/-- The credential of a request. -/
def bearer (t : Timestamp) : Json := .obj
  [("credentialType", .str "ACCESSTOKEN"), ("accessToken", .str "t"),
    ("accessTokenExpiresUtc", .str t.text), ("accessTokenType", .str "bearer")]

/-- A token that expires at five in the morning, UTC, is read as one that expires at
    midnight, on a host in UTC. -/
theorem offset_ignored : (newYear (.behind 5 0)).text = "2030-01-01T00:00:00-05:00" ∧
    ∃ credential, parseSinkCredential (hostReader { credentialType := .plain } 0)
        (bearer (newYear (.behind 5 0))) = .ok (some credential) ∧
      credential.accessTokenExpiresUtc = some ((newYear .utc).seconds * nanos) ∧
      ¬ExpiryRead credential (newYear (.behind 5 0)) := by
  have hread : fromTimeT (mktime 0 (getTime dateTimeFormat (newYear (.behind 5 0)).text)) =
      (newYear .utc).seconds * nanos := by
    rw [← (fromTimeT_eq_iff 0 (newYear .utc)).2 ⟨rfl, inClock_newYear .utc⟩, mktime, mktime,
      Timestamp.seconds_getTime, Timestamp.seconds_getTime, localSeconds_newYear,
      localSeconds_newYear]
  refine ⟨by decide, _, parseSinkCredential_eq rfl rfl rfl rfl, congrArg some hread, fun h => ?_⟩
  have hoffset := ((fromTimeT_eq_iff 0 _).1 (Option.some.inj h.expires)).1
  exact absurd hoffset (by decide)

/-- With the offset of the host, it is read as it is meant. -/
theorem offset_host : ∃ credential,
    parseSinkCredential (hostReader { credentialType := .plain } 3600)
        (bearer (newYear (.ahead 1 0))) = .ok (some credential) ∧
      ExpiryRead credential (newYear (.ahead 1 0)) :=
  (expiryRead_iff { credentialType := .plain } 3600 (newYear (.ahead 1 0)) _ (some "t")
    (some "bearer") rfl rfl rfl rfl).2 ⟨by decide, inClock_newYear _⟩

end QodHandler

end PhineAf

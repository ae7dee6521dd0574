import PhineAf.Qod.Conflict
import PhineAf.Qod.DeviceRule

/-!
# Devices that match

`retrieve_sessions_by_device` compares the phone numbers, the IPv4 addresses and the IPv6
addresses of two devices, and finds a match if one of these comparisons does. Network
access identifiers, by which a device may be identified alone (`validate_device`), are not
compared. Of the IPv4 addresses either the public ones or the private ones are to agree,
and the ports are not compared at all.

So a device is found by itself unless it has a network access identifier only
(`deviceMatches_self_iff`), and two devices with IPv4 addresses only are confused
exactly if they share one address and differ in another or in the port
(`matches_and_distinct_iff`).
-/

namespace PhineAf

/-- Both values are present, and they differ. -/
def Differ {α : Type} : Option α → Option α → Prop
  | some a, some b => a ≠ b
  | _, _ => False

namespace DeviceIpv4Addr

/-- The addresses are those of different devices: the public addresses differ, or the
    private addresses or the public ports, if both are given. -/
def Distinct (a b : DeviceIpv4Addr) : Prop :=
  a.publicAddress ≠ b.publicAddress ∨ Differ a.privateAddress b.privateAddress ∨
    Differ a.publicPort b.publicPort

/-- Both have this private address. -/
def SharesPrivate (a b : DeviceIpv4Addr) : Prop :=
  ∃ p, a.privateAddress = some p ∧ b.privateAddress = some p

/-- One public address with two private addresses or two ports; or one private address
    behind two public ones. -/
def Confused (a b : DeviceIpv4Addr) : Prop :=
  a.publicAddress = b.publicAddress ∧
      (Differ a.privateAddress b.privateAddress ∨ Differ a.publicPort b.publicPort) ∨
    a.publicAddress ≠ b.publicAddress ∧ a.SharesPrivate b

end DeviceIpv4Addr

namespace QodDevice

/-- A device that is identified by an IPv4 address only. -/
def ofIpv4 (a : DeviceIpv4Addr) : QodDevice := { ipv4Address := some a }

/-- A device that is identified by a network access identifier only. -/
def ofNai (identifier : String) : QodDevice := { networkAccessIdentifier := some identifier }

end QodDevice

namespace QodSessionManager

open QodHandler QodDevice

/-! ## Comparisons -/

theorem agree_self {α β : Type} [BEq β] [LawfulBEq β] (f : α → β) (a : Option α) :
    agree f a a = a.isSome := by
  rcases a with _ | a
  · rfl
  · exact beq_self_eq_true (f a)

theorem agree_iff {α β : Type} [BEq β] [LawfulBEq β] {f : α → β} {x y : Option α} :
    agree f x y = true ↔ ∃ a b, x = some a ∧ y = some b ∧ f a = f b := by
  rcases x with _ | a <;> rcases y with _ | b
  · exact iff_of_false Bool.false_ne_true fun ⟨_, _, h, _⟩ => by cases h
  · exact iff_of_false Bool.false_ne_true fun ⟨_, _, h, _⟩ => by cases h
  · exact iff_of_false Bool.false_ne_true fun ⟨_, _, _, h, _⟩ => by cases h
  · constructor
    · exact fun h => ⟨a, b, rfl, rfl, eq_of_beq h⟩
    · rintro ⟨_, _, hx, hy, h⟩
      cases hx
      cases hy
      exact beq_iff_eq.2 h

/-- A device matches itself by its phone number, its IPv4 or its IPv6 address. -/
theorem deviceMatches_self_iff (d : QodDevice) :
    deviceMatches d d = true ↔
      d.phoneNumber.isSome ∨ d.ipv4Address.isSome ∨ d.ipv6Address.isSome := by
  rw [deviceMatches, agree_self, agree_self, agree_self, agree_self, Bool.or_eq_true,
    Bool.or_eq_true, Bool.or_eq_true]
  constructor
  · rintro (((h | h) | h) | h)
    · exact .inl h
    · exact .inr (.inl h)
    · obtain ⟨p, hp⟩ := Option.isSome_iff_exists.1 h
      obtain ⟨a, ha, -⟩ := Option.bind_eq_some_iff.1 hp
      exact .inr (.inl (Option.isSome_iff_exists.2 ⟨a, ha⟩))
    · exact .inr (.inr h)
  · rintro (h | h | h)
    · exact .inl (.inl (.inl h))
    · exact .inl (.inl (.inr h))
    · exact .inr h

/-- A device that has been accepted does not match itself exactly if it is identified by
    a network access identifier only. -/
theorem exists_ofNai_iff {d : QodDevice} {context : QodRequestContext}
    (h : validateDevice (some d) context = none) :
    (∃ identifier, d = ofNai identifier) ↔ ¬deviceMatches d d = true := by
  rw [deviceMatches_self_iff]
  constructor
  · rintro ⟨identifier, rfl⟩ (h | h | h) <;> cases h
  · intro hnone
    have hempty : d.isEmpty = false := by
      rw [validateDevice, firstError, Option.map_eq_none_iff, List.find?_eq_none] at h
      have hlast := h (d.isEmpty, "At least one device identifier must be provided") (by simp)
      simpa using hlast
    obtain ⟨phoneNumber, networkAccessIdentifier, ipv4Address, ipv6Address⟩ := d
    simp only [not_or, Bool.not_eq_true, Option.isSome_eq_false_iff, Option.isNone_iff_eq_none]
      at hnone
    obtain ⟨rfl, rfl, rfl⟩ := hnone
    rcases networkAccessIdentifier with _ | identifier
    · exact absurd hempty (by decide)
    · exact ⟨identifier, rfl⟩

/-- Devices with an IPv4 address only match if they share one of their addresses. -/
theorem deviceMatches_ofIpv4 (a b : DeviceIpv4Addr) :
    deviceMatches (ofIpv4 a) (ofIpv4 b) = true ↔
      a.publicAddress = b.publicAddress ∨ a.SharesPrivate b := by
  have hvalue : ∀ {x y : Ipv4Addr}, x.value = y.value → x = y :=
    fun {x y} h => by cases x; cases y; exact congrArg _ h
  rw [deviceMatches, Bool.or_eq_true, Bool.or_eq_true, Bool.or_eq_true, agree_iff, agree_iff,
    agree_iff, agree_iff]
  constructor
  · rintro (((⟨_, _, h, _⟩ | ⟨_, _, ha, hb, h⟩) | ⟨p, q, hp, hq, h⟩) | ⟨_, _, h, _⟩)
    · cases h
    · cases ha
      cases hb
      exact .inl (hvalue h)
    · exact .inr ⟨p, hp, hq.trans (congrArg some (hvalue h).symm)⟩
    · cases h
  · rintro (h | ⟨p, hp, hq⟩)
    · exact .inl (.inl (.inr ⟨a, b, rfl, rfl, congrArg _ h⟩))
    · exact .inl (.inr ⟨p, p, hp, hq, rfl⟩)

/-- The comparison confuses two devices with an IPv4 address only exactly if they share
    one address and differ in another or in the port. -/
theorem matches_and_distinct_iff (a b : DeviceIpv4Addr) :
    deviceMatches (ofIpv4 a) (ofIpv4 b) = true ∧ a.Distinct b ↔ a.Confused b := by
  rw [deviceMatches_ofIpv4, DeviceIpv4Addr.Distinct, DeviceIpv4Addr.Confused]
  by_cases hpublic : a.publicAddress = b.publicAddress <;> simp [hpublic]

variable {m : QodSessionManager} {consumer : String}

/-! ## Retrieval -/

theorem mem_retrieveSessionsByDevice_iff {d : QodDevice} {session : QodSession} :
    session ∈ m.retrieveSessionsByDevice (some d) consumer ↔
      session ∈ m.qod.getAllSessions ∧ session.apiConsumerId = consumer ∧ Live session ∧
        ∃ d', session.device = some d' ∧ deviceMatches d d' = true := by
  rw [retrieveSessionsByDevice, List.mem_filter]
  refine and_congr_right fun _ => ?_
  rcases session.device with _ | d' <;>
    simp [Live, and_assoc]

/-- The sessions that a device retrieves are those of the device. -/
structure Matches (m : QodSessionManager) (consumer : String) (d : QodDevice) : Prop where
  /-- A live session of the consumer for the device is returned. -/
  complete : ∀ session ∈ m.qod.getAllSessions, session.apiConsumerId = consumer →
    Live session → session.device = some d →
    session ∈ m.retrieveSessionsByDevice (some d) consumer
  /-- If the device is identified by an IPv4 address only, no session is returned of another
      device identified so. -/
  sound : ∀ a b, d = ofIpv4 a → ∀ session ∈ m.retrieveSessionsByDevice (some d) consumer,
    session.device = some (ofIpv4 b) → ¬a.Distinct b

/-- The consumer has no live session for a device. -/
def Unused (m : QodSessionManager) (consumer : String) (d : QodDevice) : Prop :=
  ∀ session ∈ m.qod.getAllSessions, session.apiConsumerId = consumer → Live session →
    session.device ≠ some d

/-- The device of a request retrieves the sessions of the device exactly if the consumer
    has no live session for it, when it is identified by a network access identifier only,
    and none for a device it is confused with, when it is identified by an IPv4 address
    only. -/
theorem matches_iff {d : QodDevice} {context : QodRequestContext}
    (h : validateDevice (some d) context = none) (m : QodSessionManager) (consumer : String) :
    m.Matches consumer d ↔
      (∀ identifier, d = ofNai identifier → m.Unused consumer d) ∧
        ∀ a b, d = ofIpv4 a → a.Confused b → m.Unused consumer (ofIpv4 b) := by
  constructor
  · rintro ⟨hcomplete, hsound⟩
    refine ⟨fun identifier hd session hmem hconsumer hlive hdevice => ?_, ?_⟩
    · obtain ⟨-, -, -, d', hd', hmatch⟩ :=
        mem_retrieveSessionsByDevice_iff.1 (hcomplete session hmem hconsumer hlive hdevice)
      rw [hdevice, Option.some.injEq] at hd'
      exact (exists_ofNai_iff h).1 ⟨identifier, hd⟩ (hd' ▸ hmatch)
    · rintro a b rfl hconfused session hmem hconsumer hlive hdevice
      obtain ⟨hmatch, hdistinct⟩ := (matches_and_distinct_iff a b).2 hconfused
      refine hsound a b rfl session (mem_retrieveSessionsByDevice_iff.2 ?_) hdevice hdistinct
      exact ⟨hmem, hconsumer, hlive, _, hdevice, hmatch⟩
  · rintro ⟨hnai, hconfused⟩
    refine ⟨fun session hmem hconsumer hlive hdevice => ?_, ?_⟩
    · refine mem_retrieveSessionsByDevice_iff.2 ⟨hmem, hconsumer, hlive, d, hdevice, ?_⟩
      by_contra hmatch
      obtain ⟨identifier, hd⟩ := (exists_ofNai_iff h).2 hmatch
      exact hnai identifier hd session hmem hconsumer hlive hdevice
    · rintro a b rfl session hmem hdevice hdistinct
      obtain ⟨hmem, hconsumer, hlive, d', hd', hmatch⟩ := mem_retrieveSessionsByDevice_iff.1 hmem
      rw [hdevice, Option.some.injEq] at hd'
      subst hd'
      exact hconfused a b rfl ((matches_and_distinct_iff a b).1 ⟨hmatch, hdistinct⟩) session hmem
        hconsumer hlive hdevice

/-! ## Devices behind one NAT -/

/-- A manager with a session for a device. -/
def withDevice (d : QodDevice) : QodSessionManager :=
  (QodRun.initial.manager.createSession
    { QodRun.phoneSession "consumer" with device := some d } "session-1" 0
    (some (.created "pcf-1")) 1).2

/-- A client behind a NAT, with its address there. -/
def client (p : String) : DeviceIpv4Addr where
  publicAddress := ⟨"198.51.100.7"⟩
  privateAddress := some ⟨p⟩

/-- Only a client behind another NAT has a session: none is returned. -/
theorem matches_behind_another_nat : QodSessionManager.Matches
    (withDevice (ofIpv4 { publicAddress := ⟨"203.0.113.9"⟩, privateAddress := some ⟨"10.0.0.2"⟩ }))
    "consumer" (ofIpv4 (client "10.0.0.3")) := by
  have hvalid : validateDevice (some (ofIpv4 (client "10.0.0.3"))) twoLegged = none := by decide
  refine (matches_iff hvalid _ _).2 ⟨fun _ h => ?_, ?_⟩
  · cases h
  intro a b ha hconfused session hmem _ _ hdevice
  cases ha
  cases List.mem_singleton.1 hmem
  cases hdevice
  rcases hconfused with ⟨hpublic, -⟩ | ⟨-, p, hp, hp'⟩
  · exact absurd hpublic (by decide)
  · cases hp
    exact absurd hp' (by decide)

/-- A device with a network access identifier only does not find its session; and one
    client behind a NAT finds that of another. -/
theorem not_matches :
    (validateDevice (some (ofNai "device@example.com")) twoLegged = none ∧
      ¬(withDevice (ofNai "device@example.com")).Matches "consumer" (ofNai "device@example.com")) ∧
    validateDevice (some (ofIpv4 (client "10.0.0.3"))) twoLegged = none ∧
      ¬(withDevice (ofIpv4 (client "10.0.0.2"))).Matches "consumer"
        (ofIpv4 (client "10.0.0.3")) := by
  refine ⟨⟨by decide, fun h => ?_⟩, by decide, fun h => ?_⟩
  · have hmem := h.complete _ List.mem_cons_self rfl (fun h => by cases h) rfl
    cases hmem
  · have hne : (⟨"10.0.0.3"⟩ : Ipv4Addr) ≠ ⟨"10.0.0.2"⟩ := by decide
    exact h.sound _ (client "10.0.0.2") rfl _ List.mem_cons_self rfl (.inr (.inl hne))

end QodSessionManager

end PhineAf

import PhineAf.Qod.Association
import PhineAf.Ue.Combination

/-!
# The PDU session of a QoD session

`create_or_update_ue_state` puts a QoD session on a PDU session of its UE. For a device
with an IP address it puts a PDU session made from the request in the place of the one
that is there, with what was known of it and the QoD sessions on it; for another device it
leaves the PDU session as it is, without the new QoD session. So the PDU session is
undamaged only if there was nothing to lose (`createOrUpdateUeState_undamaged_iff`). Other
PDU sessions and UEs are kept in any case.
-/

namespace PhineAf

open AfUeSubscriptionState UeStore

/-! ## The property -/

namespace QodDevice

/-- The device has an IP address. -/
def HasIpAddress (d : QodDevice) : Prop := d.ipv4Address.isSome ∨ d.ipv6Address.isSome

instance (d : QodDevice) : Decidable d.HasIpAddress := inferInstanceAs (Decidable (_ ∨ _))

/-- An IPv4 address is the public or the private one of the device. -/
def MentionsIpv4 (d : QodDevice) (a : Ipv4Addr) : Prop :=
  ∃ ipv4, d.ipv4Address = some ipv4 ∧ (ipv4.publicAddress = a ∨ ipv4.privateAddress = some a)

/-- An IPv6 address is that of the device. -/
def MentionsIpv6 (d : QodDevice) (a : Ipv6Addr) : Prop := d.ipv6Address = some a

end QodDevice

namespace PduSessionData

/-- A QoD session of a device is put on a PDU session without damage to it: it has the QoD
    sessions it had and the new one, and but for the addresses the device mentions what was
    known of it. -/
structure Extends (device : QodDevice) (sessionId : String) (old new : PduSessionData) :
    Prop where
  pduSessionId : new.pduSessionId = old.pduSessionId
  qodSessions : ∀ q ∈ old.activeQodSessionIds, q ∈ new.activeQodSessionIds
  added : sessionId ∈ new.activeQodSessionIds
  dnn : new.dnn = old.dnn
  snssai : new.snssai = old.snssai
  ueIpv6Prefixes : new.ueIpv6Prefixes = old.ueIpv6Prefixes
  ueMacAddress : new.ueMacAddress = old.ueMacAddress
  dnai : new.dnai = old.dnai
  n6TrafficRoutingInfo : new.n6TrafficRoutingInfo = old.n6TrafficRoutingInfo
  ipv4 : ∀ a, ¬device.MentionsIpv4 a → (new.ueIpv4Address = some a ↔ old.ueIpv4Address = some a)
  ipv6 : ∀ a, ¬device.MentionsIpv6 a → (a ∈ new.ueIpv6Addresses ↔ a ∈ old.ueIpv6Addresses)

/-- Nothing is known of a PDU session that a QoD session of a device does not bring. -/
structure Blank (device : QodDevice) (sessionId : String) (old : PduSessionData) : Prop where
  qodSessions : ∀ q ∈ old.activeQodSessionIds, q = sessionId
  dnn : old.dnn = ""
  snssai : old.snssai = none
  ueIpv6Prefixes : old.ueIpv6Prefixes = []
  ueMacAddress : old.ueMacAddress = none
  dnai : old.dnai = none
  n6TrafficRoutingInfo : old.n6TrafficRoutingInfo = []
  ipv4 : ∀ a, old.ueIpv4Address = some a → device.MentionsIpv4 a
  ipv6 : ∀ a ∈ old.ueIpv6Addresses, device.MentionsIpv6 a

variable {device : QodDevice} {sessionId : String} {old : PduSessionData}

/-- The PDU session left as it is. -/
theorem extends_self_iff : Extends device sessionId old old ↔ sessionId ∈ old.activeQodSessionIds :=
  ⟨Extends.added, fun h =>
    ⟨rfl, fun _ hq => hq, h, rfl, rfl, rfl, rfl, rfl, rfl, fun _ _ => .rfl, fun _ _ => .rfl⟩⟩

/-- The PDU session made from the request in its place. -/
theorem extends_pduSessionFor_iff :
    Extends device sessionId old
      (QodSessionManager.pduSessionFor sessionId old.pduSessionId device) ↔
      Blank device sessionId old := by
  have hipv4 : ∀ a, device.ipv4Address.map (·.publicAddress) = some a → device.MentionsIpv4 a := by
    intro a ha
    obtain ⟨ipv4, hipv4, rfl⟩ := Option.map_eq_some_iff.1 ha
    exact ⟨ipv4, hipv4, .inl rfl⟩
  have hipv6 : ∀ a ∈ device.ipv6Address.toList, device.MentionsIpv6 a :=
    fun a ha => Option.mem_toList.1 ha
  constructor
  · intro h
    refine ⟨fun q hq => ?_, h.dnn.symm, h.snssai.symm, h.ueIpv6Prefixes.symm, h.ueMacAddress.symm,
      h.dnai.symm, h.n6TrafficRoutingInfo.symm, fun a ha => ?_, fun a ha => ?_⟩
    · exact List.mem_singleton.1 (h.qodSessions q hq)
    · -- An address that is not mentioned would have been kept, and only mentioned ones are there.
      by_contra hnot
      exact hnot (hipv4 a ((h.ipv4 a hnot).2 ha))
    · by_contra hnot
      exact hnot (hipv6 a ((h.ipv6 a hnot).2 ha))
  · intro h
    refine ⟨rfl, fun q hq => ?_, List.mem_singleton_self _, h.dnn.symm, h.snssai.symm,
      h.ueIpv6Prefixes.symm, h.ueMacAddress.symm, h.dnai.symm, h.n6TrafficRoutingInfo.symm,
      fun a hnot => ?_, fun a hnot => ?_⟩
    · exact List.mem_singleton.2 (h.qodSessions q hq)
    · exact ⟨fun ha => absurd (hipv4 a ha) hnot, fun ha => absurd (h.ipv4 a ha) hnot⟩
    · exact ⟨fun ha => absurd (hipv6 a ha) hnot, fun ha => absurd (h.ipv6 a ha) hnot⟩

end PduSessionData

namespace QodSessionManager

variable {session : QodSession} {device : QodDevice} {key : UeKey} {st : AfUeSubscriptionState}
  {old : PduSessionData} {l₁ l₂ : List PduSessionData} {ue : UeStore}

/-- A QoD session is put on a PDU session of the UE `k`, which has others before and after
    it: they, and the other UEs, are unchanged, and the PDU session is not damaged. -/
def Undamaged (device : QodDevice) (sessionId k : String) (l₁ l₂ : List PduSessionData)
    (old : PduSessionData) (ue ue' : UeStore) : Prop :=
  (∃ st new, ue'.states.lookup k = some st ∧ st.pduSessions = l₁ ++ new :: l₂ ∧
    old.Extends device sessionId new) ∧
  ∀ l, l ≠ k → ue'.states.lookup l = ue.states.lookup l

theorem putPduSession_append {new : PduSessionData} (hid : new.pduSessionId = old.pduSessionId)
    (hfirst : ∀ pdu ∈ l₁, pdu.pduSessionId ≠ old.pduSessionId) :
    putPduSession new (l₁ ++ old :: l₂) = l₁ ++ new :: l₂ := by
  induction l₁ with
  | nil => rw [List.nil_append, putPduSession_cons, if_pos (by simp [hid]), List.nil_append]
  | cons pdu l₁ ih =>
    obtain ⟨hpdu, hrest⟩ := List.forall_mem_cons.1 hfirst
    rw [List.cons_append, putPduSession_cons, if_neg (by simpa [hid] using hpdu), ih hrest,
      List.cons_append]

/-- The update of the UE leaves its PDU sessions as they are. -/
theorem exists_createOrUpdateProvisional {data : AfUeSubscriptionState} {now : ℤ}
    (hst : ue.states.lookup key.getPrimaryKey = some st)
    (hdata : initialUeState session device key now = .ok data) :
    ∃ st', ue.createOrUpdateProvisionalUeState key (some data) now = ue.put key.getPrimaryKey st' ∧
      st'.pduSessions = st.pduSessions := by
  obtain ⟨t, u, h⟩ := exists_mergeInitialData st data now
  refine ⟨mergeInitialData now st data, ?_, ?_⟩
  · rw [createOrUpdateProvisionalUeState, hst]
    rfl
  · rw [h, pduSessions_initialUeState hdata]
    rfl

theorem states_addOrUpdatePduSession (hst : ue.states.lookup key.getPrimaryKey = some st)
    (pdu : PduSessionData) (now : ℤ) :
    (ue.addOrUpdatePduSession key pdu now).2.states = ue.states.insert key.getPrimaryKey
      ({ st with pduSessions := putPduSession pdu st.pduSessions }.recordActivity now) := by
  rw [UeStore.addOrUpdatePduSession, hst]
  dsimp only
  split <;> rfl

/-- Undamaged, of a store whose PDU sessions are known. -/
theorem undamaged_iff {ue' : UeStore} {sessionId k : String} {new : PduSessionData}
    (hst : ue'.states.lookup k = some st) (hl : st.pduSessions = l₁ ++ new :: l₂)
    (hothers : ∀ l, l ≠ k → ue'.states.lookup l = ue.states.lookup l) :
    Undamaged device sessionId k l₁ l₂ old ue ue' ↔ old.Extends device sessionId new := by
  constructor
  · rintro ⟨⟨st', new', hst', hl', h⟩, -⟩
    obtain rfl := Option.some.inj (hst.symm.trans hst')
    obtain ⟨rfl, -⟩ := List.cons.inj (List.append_cancel_left (hl.symm.trans hl'))
    exact h
  · intro h
    exact ⟨⟨st, new, hst, hl, h⟩, hothers⟩

/-- What becomes of the PDU session, and that the others are kept. -/
theorem exists_lookup_createOrUpdateUeState (now : ℤ) (hdevice : session.device = some device)
    (hkey : createOrGetUeKey session = .ok (some key))
    (hpdu : session.pduSessionId = some old.pduSessionId)
    (hst : ue.states.lookup key.getPrimaryKey = some st)
    (hl : st.pduSessions = l₁ ++ old :: l₂)
    (hfirst : ∀ pdu ∈ l₁, pdu.pduSessionId ≠ old.pduSessionId) :
    (∃ st', (createOrUpdateUeState session now ue).states.lookup key.getPrimaryKey = some st' ∧
      st'.pduSessions = l₁ ++ (if device.HasIpAddress then
        pduSessionFor session.sessionId old.pduSessionId device else old) :: l₂) ∧
      ∀ k, k ≠ key.getPrimaryKey →
        (createOrUpdateUeState session now ue).states.lookup k = ue.states.lookup k := by
  obtain ⟨data, hdata⟩ := exists_initialUeState now hdevice hkey
  obtain ⟨st', hprovisional, hst'⟩ := exists_createOrUpdateProvisional hst hdata
  have hput : (ue.put key.getPrimaryKey st').states.lookup key.getPrimaryKey = some st' :=
    AList.lookup_insert _
  have hothers : ∀ k, k ≠ key.getPrimaryKey →
      (ue.put key.getPrimaryKey st').states.lookup k = ue.states.lookup k :=
    fun k hk => AList.lookup_insert_ne hk
  have hrun : createOrUpdateUeState session now ue =
      if device.HasIpAddress then ((ue.put key.getPrimaryKey st').addOrUpdatePduSession key
        (pduSessionFor session.sessionId old.pduSessionId device) now).2
      else ue.put key.getPrimaryKey st' := by
    simp only [createOrUpdateUeState, hdevice, hkey, hdata, hpdu, hprovisional, Bool.or_eq_true]
    rfl
  rw [hrun]
  split_ifs with haddress
  · have hstates := states_addOrUpdatePduSession hput
      (pduSessionFor session.sessionId old.pduSessionId device) now
    rw [hstates]
    refine ⟨⟨_, AList.lookup_insert _, ?_⟩, fun k hk => ?_⟩
    · -- The PDU session made from the request stands where the old one stood.
      exact hst' ▸ hl ▸ putPduSession_append rfl hfirst
    · rw [AList.lookup_insert_ne hk, hothers k hk]
  · exact ⟨⟨st', hput, hst'.trans hl⟩, hothers⟩

/-- The PDU session is undamaged exactly if there was nothing to lose: a device with an
    IP address replaces it, another device leaves it without the QoD session. -/
theorem createOrUpdateUeState_undamaged_iff (now : ℤ) (hdevice : session.device = some device)
    (hkey : createOrGetUeKey session = .ok (some key))
    (hpdu : session.pduSessionId = some old.pduSessionId)
    (hst : ue.states.lookup key.getPrimaryKey = some st)
    (hl : st.pduSessions = l₁ ++ old :: l₂)
    (hfirst : ∀ pdu ∈ l₁, pdu.pduSessionId ≠ old.pduSessionId) :
    Undamaged device session.sessionId key.getPrimaryKey l₁ l₂ old ue
        (createOrUpdateUeState session now ue) ↔
      if device.HasIpAddress then old.Blank device session.sessionId
      else session.sessionId ∈ old.activeQodSessionIds := by
  obtain ⟨⟨st', hst', hl'⟩, hothers⟩ :=
    exists_lookup_createOrUpdateUeState now hdevice hkey hpdu hst hl hfirst
  rw [undamaged_iff hst' hl' hothers]
  split_ifs
  · exact PduSessionData.extends_pduSessionFor_iff
  · exact PduSessionData.extends_self_iff

/-! ## Two sessions of one device -/

/-- A session of a device known by its address, on the PDU session with an id. -/
def addressedSession (sessionId pduSessionId : String) : QodSession where
  sessionId := sessionId
  apiConsumerId := "app"
  device := some { ipv4Address := some { publicAddress := ⟨"10.0.0.1"⟩ } }
  applicationServer := { ipv4Address := some "192.0.2.1" }
  devicePorts := none
  applicationServerPorts := none
  qosProfile := "QOS_E"
  qosProfileMapping := none
  duration := 60
  sink := none
  sinkCredential := none
  createdAt := 0
  qosStatus := .requested
  pduSessionId := some pduSessionId

/-- The device, with a PDU session. -/
def addressedUe (pdu : PduSessionData) : UeStore :=
  (UeStore.addOrUpdatePduSession (ipv4KeyOf "10.0.0.1") pdu 0
    (UeStore.createOrUpdateProvisionalUeState (ipv4KeyOf "10.0.0.1") none 0 .empty)).2

theorem createOrGetUeKey_addressedSession (sessionId pduSessionId : String) :
    createOrGetUeKey (addressedSession sessionId pduSessionId) =
      .ok (some (ipv4KeyOf "10.0.0.1")) := by
  have h := key_ipv4
  rw [SecondaryId.key] at h
  simp only [createOrGetUeKey, addressedSession, deviceKey, h]
  rfl

/-- The first QoD session on a PDU session of which only the address is known. -/
theorem createOrUpdateUeState_undamaged_first :
    Undamaged { ipv4Address := some { publicAddress := ⟨"10.0.0.1"⟩ } } "q1"
      (ipv4KeyOf "10.0.0.1").getPrimaryKey [] []
      { pduSessionId := "1", ueIpv4Address := some ⟨"10.0.0.1"⟩ }
      (addressedUe { pduSessionId := "1", ueIpv4Address := some ⟨"10.0.0.1"⟩ })
      (createOrUpdateUeState (addressedSession "q1" "1") 1
        (addressedUe { pduSessionId := "1", ueIpv4Address := some ⟨"10.0.0.1"⟩ })) := by
  refine (createOrUpdateUeState_undamaged_iff 1 rfl (createOrGetUeKey_addressedSession "q1" "1") rfl
    rfl rfl (List.forall_mem_nil _)).2 ?_
  rw [if_pos (by decide)]
  refine ⟨List.forall_mem_nil _, rfl, rfl, rfl, rfl, rfl, rfl, fun a ha => ?_,
    List.forall_mem_nil _⟩
  exact ⟨_, rfl, .inl (Option.some.inj ha)⟩

/-- The second one takes the first one off, and the data network the PDU session is in. -/
theorem not_createOrUpdateUeState_undamaged : ¬∀ (session : QodSession) (device : QodDevice)
    (key : UeKey) (st : AfUeSubscriptionState) (old : PduSessionData)
    (l₁ l₂ : List PduSessionData) (ue : UeStore) (now : ℤ),
    session.device = some device → createOrGetUeKey session = .ok (some key) →
    session.pduSessionId = some old.pduSessionId →
    ue.states.lookup key.getPrimaryKey = some st → st.pduSessions = l₁ ++ old :: l₂ →
    (∀ pdu ∈ l₁, pdu.pduSessionId ≠ old.pduSessionId) →
    Undamaged device session.sessionId key.getPrimaryKey l₁ l₂ old ue
      (createOrUpdateUeState session now ue) := by
  intro h
  let old : PduSessionData :=
    { pduSessionId := "1", dnn := "internet", activeQodSessionIds := ["q1"] }
  have hkey := createOrGetUeKey_addressedSession "q2" "1"
  have hpdu : (addressedSession "q2" "1").pduSessionId = some old.pduSessionId := rfl
  obtain ⟨st, hst, hl⟩ : ∃ st, (addressedUe old).states.lookup
      (ipv4KeyOf "10.0.0.1").getPrimaryKey = some st ∧ st.pduSessions = [] ++ old :: [] :=
    ⟨_, rfl, rfl⟩
  have hundamaged := h _ _ _ _ old [] [] _ 1 rfl hkey hpdu hst hl (List.forall_mem_nil _)
  obtain ⟨⟨st', hst', hl'⟩, hothers⟩ :=
    exists_lookup_createOrUpdateUeState 1 rfl hkey hpdu hst hl (List.forall_mem_nil _)
  rw [undamaged_iff hst' hl' hothers] at hundamaged
  exact absurd hundamaged.dnn (by decide)

end QodSessionManager

end PhineAf

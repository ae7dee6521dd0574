import PhineAf.Qod.Expiry
import PhineAf.Qod.SupiIndex
import PhineAf.Ue.Coherence

/-!
# The end of a PDU session

When a PDU session ends, `handle_pdu_session_terminated_event` looks one QoD session of it
up, whichever the index by SUPI gives first, and removes that one. Several QoD sessions can
share a PDU session (to different servers, or of different consumers), and so the event
ends all of them exactly if there is at most one
(`handlePduSessionTerminatedEvent_endsAll_iff`). This is so in every store reached by
admissible updates, and so in every store of a session manager (`QodRun.reachable_qod`).
-/

namespace PhineAf

/-! ## Reachable stores -/

namespace QodStore

variable {s : QodStore}

theorem Admissibly.reachable {ops : List QodStoreOp} (hs : qodStoreSystem.Reachable s)
    (hops : s.Admissibly ops) : qodStoreSystem.Reachable (ops.foldl perform s) := by
  induction ops generalizing s with
  | nil => exact hs
  | cons op ops ih => exact ih (hs.step (a := op) ⟨hops.1, rfl⟩) hops.2

/-- Every session is stored under its own id. -/
theorem sessionId_of_reachable (hs : qodStoreSystem.Reachable s) :
    ∀ id session, s.getSessionById id = some session → session.sessionId = id := by
  refine System.Reachable.invariant
    (P := fun s => ∀ id session, s.getSessionById id = some session → session.sessionId = id)
    ?_ ?_ hs
  · rintro s rfl id session h
    cases h
  · rintro s op s' - h ⟨-, rfl⟩ id session hs'
    cases op with
    | addSession new =>
      rw [perform, getSessionById_addSession] at hs'
      split_ifs at hs' with hid
      · exact Option.some.inj hs' ▸ hid.symm
      · exact h id session hs'
    | updateSession new =>
      rw [perform, getSessionById_updateSession] at hs'
      split_ifs at hs' with hid
      · exact Option.some.inj hs' ▸ hid.1.symm
      · exact h id session hs'
    | updateSessionStatus sessionId status info =>
      rw [perform, getSessionById_updateSessionStatus] at hs'
      split_ifs at hs' with hid
      · obtain ⟨old, hold, rfl⟩ := Option.map_eq_some_iff.1 hs'
        exact h id old hold
      · exact h id session hs'
    | removeSession sessionId =>
      rw [perform, getSessionById_removeSession] at hs'
      split_ifs at hs'
      exact h id session hs'
    | clearAllSessions => cases hs'
    | updatePcfSessionMap p q => exact h id session hs'
    | removePcfToQodSessionMapping p =>
      rw [perform, getSessionById_removePcfToQodSessionMapping] at hs'
      exact h id session hs'

end QodStore

/-- The stores of a session manager. -/
theorem QodRun.reachable_qod {r : QodRun} (hr : qodSystem.Reachable r) :
    qodStoreSystem.Reachable r.manager.qod := by
  refine System.Reachable.invariant (P := fun r => qodStoreSystem.Reachable r.manager.qod) ?_ ?_ hr
  · rintro r ⟨config, pcfService, pcfDestination, notificationHandler, rfl⟩
    exact .init rfl
  · intro r op r' hr h hnext
    have hqod := QodSessionManager.qod_next (QodRun.manager_of_next hnext)
    exact hqod ▸ (QodRun.admissibly_of_next hr hnext).reachable h

namespace QodSessionManager

variable {m : QodSessionManager} {supi : Supi} {pduSessionId : String}

/-! ## The sessions of a PDU session -/

/-- A session is on the PDU session of a UE. -/
def OnPduSession (supi : Supi) (pduSessionId : String) (session : QodSession) : Prop :=
  session.ueSupi = some supi ∧ session.pduSessionId = some pduSessionId

/-- The sessions of a PDU session are gone, and the others are unchanged. -/
structure EndsAll (supi : Supi) (pduSessionId : String) (m m' : QodSessionManager) : Prop where
  gone : ∀ id session, m'.qod.getSessionById id = some session →
    ¬OnPduSession supi pduSessionId session
  kept : ∀ id, (∀ session, m.qod.getSessionById id = some session →
    ¬OnPduSession supi pduSessionId session) →
      m'.qod.getSessionById id = m.qod.getSessionById id

/-- At most one stored session is on the PDU session. -/
def AtMostOne (m : QodSessionManager) (supi : Supi) (pduSessionId : String) : Prop :=
  ∀ id id' session session', m.qod.getSessionById id = some session →
    m.qod.getSessionById id' = some session' → OnPduSession supi pduSessionId session →
      OnPduSession supi pduSessionId session' → id = id'

/-- What the search finds is a stored session of the PDU session. -/
theorem getSessionByPduSession_found (hm : qodStoreSystem.Reachable m.qod) {order : List String}
    {session : QodSession}
    (h : m.qod.getSessionByPduSession supi pduSessionId order = some session) :
    m.qod.getSessionById session.sessionId = some session ∧
      OnPduSession supi pduSessionId session := by
  rw [QodStore.getSessionByPduSession] at h
  obtain ⟨id, hid, hs⟩ := List.mem_filterMap.1 (List.mem_of_find?_eq_some h)
  have hheld := MultiIndex.mem_getD_lookup.1 (QodStore.mem_arrange.1 hid)
  obtain ⟨stored, hstored, hsupi⟩ :=
    ((QodStore.supiIndexed_of_reachable hm).holds_iff _ _).1 hheld
  obtain rfl := Option.some.inj (hs.symm.trans hstored)
  have hpdu := List.find?_some h
  refine ⟨?_, hsupi, beq_iff_eq.1 hpdu⟩
  rw [QodStore.sessionId_of_reachable hm id session hs]
  exact hs

/-- The event ends all sessions of the PDU session exactly if there is at most one. -/
theorem handlePduSessionTerminatedEvent_endsAll_iff (hm : qodStoreSystem.Reachable m.qod)
    (supi : Supi) (pduSessionId : String) (order : List String) :
    EndsAll supi pduSessionId m (m.handlePduSessionTerminatedEvent supi pduSessionId order) ↔
      m.AtMostOne supi pduSessionId := by
  rw [handlePduSessionTerminatedEvent]
  cases hfound : m.qod.getSessionByPduSession supi pduSessionId order with
  | none =>
    have hnone := ((QodStore.supiIndexed_of_reachable hm).getSessionByPduSession_eq_none_iff
      supi pduSessionId order).1 hfound
    refine iff_of_true ⟨fun id session hs hon => ?_, fun _ _ => rfl⟩ ?_
    · exact hnone id session hs hon.1 hon.2
    · exact fun id id' session session' hs _ hon _ => absurd hon.2 (hnone id session hs hon.1)
  | some found =>
    obtain ⟨hstored, hon⟩ := getSessionByPduSession_found hm hfound
    -- The found session is gone, and no other.
    have hget : ∀ id, (m.qod.removeSession found.sessionId).2.getSessionById id =
        if id = found.sessionId then none else m.qod.getSessionById id :=
      QodStore.getSessionById_removeSession m.qod found.sessionId
    constructor
    · intro h id id' session session' hs hs' hon₁ hon₂
      have hfirst : ∀ id session, m.qod.getSessionById id = some session →
          OnPduSession supi pduSessionId session → id = found.sessionId := by
        intro id session hs hon
        by_contra hne
        refine h.gone id session ?_ hon
        rw [qod_notifyIf]
        exact (hget id).trans ((if_neg hne).trans hs)
      exact (hfirst id session hs hon₁).trans (hfirst id' session' hs' hon₂).symm
    · intro h
      refine ⟨fun id session hs hon' => ?_, fun id hoff => ?_⟩
      · rw [qod_notifyIf, hget] at hs
        split_ifs at hs with hne
        exact hne (h id found.sessionId session found hs hstored hon' hon)
      · rw [qod_notifyIf, hget, if_neg]
        rintro rfl
        exact hoff found hstored hon

end QodSessionManager

/-! ## Two sessions on one PDU session -/

namespace QodRun

open QodSessionManager

/-- A UE known by its phone number, with a SUPI and an active PDU session. -/
def connectedUe : AfUeSubscriptionState :=
  { UeStore.subscriber "imsi-001010000000001" "+49170123456" with
    pduSessions := [{ pduSessionId := "5", status := "ACTIVE" }] }

/-- The key of its phone number. -/
def connectedKey : UeKey :=
  { type := .gpsiBased, gpsiValue := some "+49170123456", sole := .gpsi _ }

/-- The UE is stored under its phone number, and a session to a server started. -/
def connect (server sessionId pcfSessionId : String) : List QodOp :=
  [.ueOperation (.createOrUpdateProvisionalUeState connectedKey (some connectedUe) 0),
    .createSession { phoneSession "consumer" with
      applicationServer := { ipv4Address := some server } } sessionId 0
      (some (.created pcfSessionId)) 1]

/-- One session. -/
def connectedRun : List QodOp := connect "203.0.113.5" "session-1" "pcf-1"

/-- Another one, to another server. -/
def secondRun : List QodOp := connect "203.0.113.6" "session-2" "pcf-2"

/-- One session ends with its PDU session. -/
theorem endsAll_after_connectedRun : ∃ r : QodRun,
    connectedRun.foldlM next initial = some r ∧ qodStoreSystem.Reachable r.manager.qod ∧
      (∃ session, r.manager.qod.getSessionById "session-1" = some session ∧
        OnPduSession ⟨"imsi-001010000000001"⟩ "5" session) ∧
      ∀ order, EndsAll ⟨"imsi-001010000000001"⟩ "5" r.manager
        (r.manager.handlePduSessionTerminatedEvent ⟨"imsi-001010000000001"⟩ "5" order) := by
  have hr : qodSystem.Reachable initial := .init ⟨_, _, _, _, rfl⟩
  have h₁ := hr.step (a := connectedRun[0]) rfl
  have h₂ := h₁.step (a := connectedRun[1]) rfl
  refine ⟨_, rfl, reachable_qod h₂, ⟨_, rfl, rfl, rfl⟩, fun order => ?_⟩
  refine (handlePduSessionTerminatedEvent_endsAll_iff (reachable_qod h₂) _ _ order).2 ?_
  -- Only one session is stored.
  intro id id' session session' hs hs' _ _
  have hid := AList.mem_keys.1 (AList.lookup_isSome.1 (Option.isSome_of_eq_some hs))
  have hid' := AList.mem_keys.1 (AList.lookup_isSome.1 (Option.isSome_of_eq_some hs'))
  exact (List.mem_singleton.1 hid).trans (List.mem_singleton.1 hid').symm

/-- Two sessions: one is left when their PDU session ends. -/
theorem not_handlePduSessionTerminatedEvent_endsAll : ¬∀ (m : QodSessionManager) (supi : Supi)
    (pduSessionId : String) (order : List String), qodStoreSystem.Reachable m.qod →
    EndsAll supi pduSessionId m (m.handlePduSessionTerminatedEvent supi pduSessionId order) := by
  intro h
  have hr : qodSystem.Reachable initial := .init ⟨_, _, _, _, rfl⟩
  have h₁ := hr.step (a := connectedRun[0]) rfl
  have h₂ := h₁.step (a := connectedRun[1]) rfl
  have h₃ := h₂.step (a := secondRun[0]) rfl
  have h₄ := h₃.step (a := secondRun[1]) rfl
  have hends := h _ ⟨"imsi-001010000000001"⟩ "5" ["session-1"] (reachable_qod h₄)
  exact hends.gone "session-2" _ rfl ⟨rfl, rfl⟩

end QodRun

end PhineAf

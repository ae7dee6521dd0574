import PhineAf.Lib.Interleave
import PhineAf.Qod.Lifecycle

/-!
# Interleaved operations on one session

Extension, deletion and the PCF response each read a copy of the session, change
it and write the whole record back, in separately locked calls. Here they are
programs of these calls (`QodCall.prog`), which run alone as the operations do
(`QodCall.run_prog`) and are transactions on the stored session
(`QodCall.refines`). Of two interleaved operations the later write can undo the
earlier one: `QodCall.noLostUpdate_iff` says for which sessions it does not.
-/

namespace PhineAf

/-- An operation on a session. -/
inductive QodCall
  | extend (additional : ℤ) (apiConsumerId : String)
  | delete (apiConsumerId : String) (reply : Option PcfReply) (now : ℤ)
  | response (pcfSessionId : String) (success : Bool) (errorMessage : String) (now : ℤ)

namespace QodCall

open QodSessionManager

/-! ## The calls of an operation -/

/-- `update_session` with the copy, at the end. -/
def writeBack (session : QodSession) : Prog QodSessionManager :=
  .act (fun m => { m with qod := (m.qod.updateSession session).2 }) fun _ => .done

/-- A notification of the copy, and its `update_session`. -/
def notifyAndWrite (condition : Bool) (session : QodSession) (info : Option StatusInfo) :
    Prog QodSessionManager :=
  .act (fun m => m.notifyIf condition session info) fun _ => writeBack session

/-- `delete_session` once the session is gone from the PCF. -/
def finish (session : QodSession) (now : ℤ) : Prog QodSessionManager :=
  let rest := notifyAndWrite (session.sink.isSome && session.qosStatus == .available)
    (deleted session now) (some .deleteRequested)
  match session.pduSessionId with
  | none => rest
  | some pduSessionId =>
    match createOrGetUeKey (deleted session now) with
    | .ok (some key) =>
      .act (fun m => { m with
        ue := (m.ue.removeQodSessionFromPduSession key pduSessionId session.sessionId now).2 })
        fun _ => rest
    | _ => .done

/-- The calls of an operation on a session, in their order. An extension of a
    session without `started_at` stops there. -/
def prog (sessionId : String) : QodCall → Prog QodSessionManager
  | .extend additional apiConsumerId => .act id fun m =>
    match m.qod.getSessionById sessionId with
    | none => .done
    | some session =>
      if session.apiConsumerId ≠ apiConsumerId then .done
      else if session.qosStatus = .unavailable then .done
      else match session.startedAt with
        | none => .done
        | some startedAt => writeBack (m.extended session additional startedAt)
  | .delete apiConsumerId reply now => .act id fun m =>
    match m.deleteRequest sessionId apiConsumerId with
    | none => .done
    | some session =>
      match pcfSessionOf session with
      | none => finish session now
      | some pcfSessionId =>
        if m.pcfReady then
          .act (·.send (.deleteQodSession pcfSessionId session.sessionId)) fun _ =>
            .act (fun m => (m.removeReply reply).2) fun m =>
              if (m.removeReply reply).1 then finish session now else .done
        else .done
  | .response pcfSessionId success errorMessage now => .act id fun m =>
    match m.qod.getSessionById sessionId with
    | none => .done
    | some session =>
      if success then
        let session := activated session pcfSessionId now
        .act (fun m => { m with ue := updateUeStateFromPcfResponse session now m.ue }) fun _ =>
          .act (fun m => { m with qod := m.qod.updatePcfSessionMap pcfSessionId sessionId }) fun _ =>
            notifyAndWrite session.sink.isSome session none
      else
        let session := failed session errorMessage
        notifyAndWrite session.sink.isSome session (some .networkTerminated)

/-- The operation as a whole. -/
def perform (sessionId : String) : QodCall → QodSessionManager → QodSessionManager
  | .extend additional apiConsumerId, m =>
    (m.extendSessionDuration sessionId additional apiConsumerId).2
  | .delete apiConsumerId reply now, m => (m.deleteSession sessionId apiConsumerId reply now).2
  | .response pcfSessionId success errorMessage now, m =>
    m.handlePcfSessionResponse sessionId pcfSessionId success errorMessage now

variable {m : QodSessionManager} {sessionId : String}

theorem run_finish (session : QodSession) (now : ℤ) :
    (finish session now).run m = (m.finishDelete session now).2 := by
  rw [finish, finishDelete]
  cases session.pduSessionId with
  | none => rfl
  | some pduSessionId =>
    dsimp only
    cases createOrGetUeKey (deleted session now) with
    | error e => rfl
    | ok key => cases key <;> rfl

/-- Run alone, the calls of an operation are the operation. -/
theorem run_prog (call : QodCall) : (call.prog sessionId).run m = call.perform sessionId m := by
  cases call with
  | extend additional consumer =>
    simp only [prog, perform, extendSessionDuration, Prog.run, id]
    cases m.qod.getSessionById sessionId with
    | none => rfl
    | some session =>
      dsimp only
      split_ifs
      · rfl
      · rfl
      · cases session.startedAt <;> rfl
  | delete consumer reply now =>
    simp only [prog, perform, deleteSession, Prog.run, id]
    cases m.deleteRequest sessionId consumer with
    | none => rfl
    | some session =>
      dsimp only
      cases pcfSessionOf session with
      | none => exact run_finish ..
      | some p =>
        dsimp only
        split_ifs
        · -- The result of the reply decides, on both sides.
          simp only [Prog.run]
          rcases (m.send (.deleteQodSession p session.sessionId)).removeReply reply with
            ⟨_ | _, m'⟩
          · rfl
          · exact run_finish ..
        · rfl
  | response p success e now =>
    simp only [prog, perform, handlePcfSessionResponse, Prog.run, id]
    cases m.qod.getSessionById sessionId with
    | none => rfl
    | some session => cases success <;> rfl

/-! ## The operations as transactions -/

/-- The reply of the PCF handler confirms the removal of a session. -/
def confirms : Option PcfReply → Bool
  | some ⟨.deleteAppSession, payload⟩ =>
    (textOf payload "pcf_session_id" "").isOk && (textOf payload "reason" "Requested by user").isOk
  | _ => false

/-- The PCF lets the session go: it holds none, or confirms its removal. -/
def released (m : QodSessionManager) (session : QodSession) (reply : Option PcfReply) : Bool :=
  (pcfSessionOf session).isNone || m.pcfReady && confirms reply

/-- The UE of a session in a PDU session has a key. -/
def keyed (session : QodSession) : Bool :=
  session.pduSessionId.isNone ||
    match createOrGetUeKey session with
    | .ok (some _) => true
    | _ => false

/-- The operation gets to write the session back. -/
def Effective (m : QodSessionManager) (session : QodSession) : QodCall → Prop
  | .extend _ apiConsumerId => session.apiConsumerId = apiConsumerId ∧
    session.qosStatus ≠ .unavailable ∧ session.startedAt.isSome
  | .delete apiConsumerId reply _ => session.apiConsumerId = apiConsumerId ∧
    released m session reply ∧ keyed session
  | .response .. => True

instance (m : QodSessionManager) (session : QodSession) (call : QodCall) :
    Decidable (call.Effective m session) := by
  cases call <;> unfold Effective <;> infer_instance

/-- The session an operation that gets there writes. -/
def result (m : QodSessionManager) (session : QodSession) : QodCall → QodSession
  | .extend additional _ => m.extended session additional (session.startedAt.getD 0)
  | .delete _ _ now => deleted session now
  | .response pcfSessionId success errorMessage now =>
    responded session pcfSessionId success errorMessage now

/-- The messages an operation sends to the PCF handler. -/
def msgs (m : QodSessionManager) (session : QodSession) : QodCall → Set PcfRequest
  | .delete apiConsumerId _ _ => { x | session.apiConsumerId = apiConsumerId ∧ m.pcfReady ∧
    ∃ p, pcfSessionOf session = some p ∧ x = .deleteQodSession p session.sessionId }
  | _ => ∅

/-- The operation as a transaction on the session. -/
def transaction (m : QodSessionManager) (call : QodCall) : Transaction QodSession PcfRequest where
  write session := if call.Effective m session then some (call.result m session) else none
  msgs session := call.msgs m session

theorem write_of_effective (call : QodCall) {session : QodSession}
    (h : call.Effective m session) :
    (call.transaction m).write session = some (call.result m session) := if_pos h

theorem write_of_not_effective {call : QodCall} {session : QodSession}
    (h : ¬call.Effective m session) : (call.transaction m).write session = none := if_neg h

/-- The session is stored under its id, and `L` are the messages sent; the settings
    are those of `m₀`. -/
structure Shows (m₀ : QodSessionManager) (sessionId : String) (m : QodSessionManager)
    (session : QodSession) (L : Set PcfRequest) : Prop where
  stored : m.qod.getSessionById sessionId = some session
  filed : session.sessionId = sessionId
  sent : { x | x ∈ m.sent } = L
  config : m.config = m₀.config
  pcfReady : m.pcfReady = m₀.pcfReady

variable {m₀ : QodSessionManager} {session : QodSession} {L : Set PcfRequest}

theorem Shows.unique {session' : QodSession} {L' : Set PcfRequest}
    (h : Shows m₀ sessionId m session L) (h' : Shows m₀ sessionId m session' L') :
    session = session' ∧ L = L' :=
  ⟨Option.some.inj (h.stored.symm.trans h'.stored), h.sent.symm.trans h'.sent⟩

theorem Shows.notifyIf (h : Shows m₀ sessionId m session L) (c : Bool) (s : QodSession)
    (info : Option StatusInfo) : Shows m₀ sessionId (m.notifyIf c s info) session L := by
  obtain ⟨delivered, heq⟩ := notifyIf_eq (m := m) c s info
  rw [heq]
  exact ⟨h.stored, h.filed, h.sent, h.config, h.pcfReady⟩

/-- A call that leaves alone what is shown. -/
theorem tail_silent {f : QodSessionManager → QodSessionManager} {k : QodSessionManager →
    Prog QodSessionManager} {w : Option QodSession} {M : Set PcfRequest}
    (hf : ∀ m session L, Shows m₀ sessionId m session L → Shows m₀ sessionId (f m) session L)
    (hk : ∀ m, Tail (Shows m₀ sessionId) (k m) w M) :
    Tail (Shows m₀ sessionId) (.act f k) w M := by
  rw [← Set.empty_union M]
  refine .quiet (fun m session L h => ?_) hk
  rw [Set.union_empty]
  exact hf m session L h

theorem tail_writeBack (hid : session.sessionId = sessionId) :
    Tail (Shows m₀ sessionId) (writeBack session) (some session) ∅ := by
  refine .write fun m s L h => ⟨?_, hid, h.sent, h.config, h.pcfReady⟩
  have hstored := h.stored
  rw [← hid] at hstored ⊢
  rw [QodStore.getSessionById_updateSession_of_stored _ hstored, if_pos rfl]

theorem tail_notifyAndWrite (m₀ : QodSessionManager) (session : QodSession)
    (hid : session.sessionId = sessionId) (c : Bool) (info : Option StatusInfo) :
    Tail (Shows m₀ sessionId) (notifyAndWrite c session info) (some session) ∅ :=
  tail_silent (fun _ _ _ h => h.notifyIf ..) fun _ => tail_writeBack hid

theorem tail_finish (hid : session.sessionId = sessionId) (now : ℤ) :
    Tail (Shows m₀ sessionId) (finish session now)
      (if keyed session then some (deleted session now) else none) ∅ := by
  have hwrite := tail_notifyAndWrite m₀ (deleted session now) hid
    (session.sink.isSome && session.qosStatus == .available) (some .deleteRequested)
  rw [finish, keyed]
  cases session.pduSessionId with
  | none => exact hwrite
  | some pduSessionId =>
    -- The key is that of the session read: deletion keeps its device and SUPI.
    have hkey : createOrGetUeKey (deleted session now) = createOrGetUeKey session := rfl
    dsimp only
    rw [hkey]
    cases createOrGetUeKey session with
    | error e => exact .done
    | ok key =>
      cases key with
      | none => exact .done
      | some key =>
        refine tail_silent (fun m s L h => ?_) fun _ => hwrite
        exact ⟨h.stored, h.filed, h.sent, h.config, h.pcfReady⟩

theorem removeReply_fst (m : QodSessionManager) (reply : Option PcfReply) :
    (m.removeReply reply).1 = confirms reply := by
  rcases reply with _ | ⟨_ | _ | _ | _, payload⟩
  · rfl
  · rfl
  · simp only [QodSessionManager.removeReply, confirms]
    cases textOf payload "pcf_session_id" "" with
    | error e => rfl
    | ok p => cases textOf payload "reason" "Requested by user" <;> rfl
  · rfl
  · rfl

theorem Shows.removeReply (h : Shows m₀ sessionId m session L) (reply : Option PcfReply) :
    Shows m₀ sessionId (m.removeReply reply).2 session L := by
  rcases removeReply_cases reply with ⟨p, heq⟩ | heq
  · rw [heq]
    refine ⟨?_, h.filed, h.sent, h.config, h.pcfReady⟩
    rw [QodStore.getSessionById_removePcfToQodSessionMapping]
    exact h.stored
  · rw [heq]
    exact h

/-- The messages to the PCF are counted when a request is sent. -/
theorem Shows.send (h : Shows m₀ sessionId m session L) (x : PcfRequest) :
    Shows m₀ sessionId (m.send x) session (L ∪ {x}) := by
  refine ⟨h.stored, h.filed, ?_, h.config, h.pcfReady⟩
  rw [← h.sent, Set.union_comm]
  ext y
  exact List.mem_cons

theorem refines_extend (additional : ℤ) (consumer : String) :
    Refines (Shows m₀ sessionId) ((extend additional consumer).prog sessionId)
      ((extend additional consumer).transaction m₀) := by
  refine ⟨_, rfl, fun m session L h => ?_⟩
  simp only [h.stored]
  by_cases heffective : (extend additional consumer).Effective m₀ session
  · obtain ⟨hconsumer, hstatus, hstarted⟩ := id heffective
    obtain ⟨t, ht⟩ := Option.isSome_iff_exists.1 hstarted
    have hextended : m.extended session additional t = m₀.extended session additional t := by
      simp only [extended, extendedDuration, getMaxDurationForProfile, h.config]
    rw [write_of_effective _ heffective, if_neg (not_not.2 hconsumer), if_neg hstatus, ht, result, ht,
      Option.getD_some, ← hextended]
    exact tail_writeBack h.filed
  · rw [write_of_not_effective heffective]
    split_ifs with hconsumer hstatus
    · exact .done
    · exact .done
    · cases ht : session.startedAt with
      | none => exact .done
      | some t => exact absurd ⟨not_not.1 hconsumer, hstatus, by rw [ht]; rfl⟩ heffective

theorem refines_response (p : String) (success : Bool) (e : String) (now : ℤ) :
    Refines (Shows m₀ sessionId) ((response p success e now).prog sessionId)
      ((response p success e now).transaction m₀) := by
  refine ⟨_, rfl, fun m session L h => ?_⟩
  rw [write_of_effective (response p success e now) trivial]
  simp only [h.stored]
  cases success with
  | false => exact tail_notifyAndWrite m₀ (failed session e) h.filed ..
  | true =>
    refine tail_silent (fun m s L h => ?_) fun _ => tail_silent (fun m s L h => ?_) fun _ => ?_
    · exact ⟨h.stored, h.filed, h.sent, h.config, h.pcfReady⟩
    · exact ⟨h.stored, h.filed, h.sent, h.config, h.pcfReady⟩
    · exact tail_notifyAndWrite m₀ (activated session p now) h.filed ..

theorem refines_delete (consumer : String) (reply : Option PcfReply) (now : ℤ) :
    Refines (Shows m₀ sessionId) ((delete consumer reply now).prog sessionId)
      ((delete consumer reply now).transaction m₀) := by
  refine ⟨_, rfl, fun m session L h => ?_⟩
  simp only [deleteRequest, h.stored, transaction]
  by_cases hconsumer : session.apiConsumerId = consumer
  · simp only [Option.filter, beq_iff_eq, hconsumer, if_true, Effective, result, true_and, released]
    cases hp : pcfSessionOf session with
    | none =>
      have hmsgs : (delete consumer reply now).msgs m₀ session = ∅ := by simp [msgs, hp]
      simpa [hmsgs] using tail_finish h.filed now
    | some p =>
      rw [h.pcfReady]
      by_cases hready : m₀.pcfReady
      · have hmsgs : (delete consumer reply now).msgs m₀ session =
            {PcfRequest.deleteQodSession p session.sessionId} ∪ ∅ := by
          simp [msgs, hp, hready, hconsumer]
        dsimp only
        rw [hmsgs, if_pos hready]
        refine .quiet (fun _ _ _ h => h.send _) fun _ =>
          tail_silent (fun _ _ _ h => h.removeReply reply) fun m' => ?_
        rw [removeReply_fst]
        cases confirms reply with
        | true => simpa [hready] using tail_finish h.filed now
        | false => simpa using Tail.done
      · have hmsgs : (delete consumer reply now).msgs m₀ session = ∅ := by simp [msgs, hready]
        simpa [hmsgs, hready] using Tail.done
  · have hmsgs : (delete consumer reply now).msgs m₀ session = ∅ := by simp [msgs, hconsumer]
    have hwrite : ¬(delete consumer reply now).Effective m₀ session := fun h => hconsumer h.1
    rw [hmsgs, if_neg hwrite]
    simpa [Option.filter, hconsumer] using Tail.done

/-- Each operation is a transaction on the session it reads. -/
theorem refines (call : QodCall) :
    Refines (Shows m₀ sessionId) (call.prog sessionId) (call.transaction m₀) := by
  cases call with
  | extend additional consumer => exact refines_extend additional consumer
  | delete consumer reply now => exact refines_delete consumer reply now
  | response p success e now => exact refines_response p success e now

/-! ## Lost updates -/

/-- The session stored at the end, and the messages sent to the PCF handler, are the
    same. -/
def SameOutcome (sessionId : String) (m m' : QodSessionManager) : Prop :=
  m.qod.getSessionById sessionId = m'.qod.getSessionById sessionId ∧ ∀ x, x ∈ m.sent ↔ x ∈ m'.sent

/-- Every interleaving of two operations ends as one of their serial orders does. Of the
    messages, those that they send count. -/
def NoLostUpdate (m : QodSessionManager) (sessionId : String) (c₁ c₂ : QodCall) : Prop :=
  let m₀ := { m with sent := [] }
  ∀ m', (c₁.prog sessionId).Interleaves (c₂.prog sessionId) m₀ m' →
    SameOutcome sessionId m' (c₂.perform sessionId (c₁.perform sessionId m₀)) ∨
      SameOutcome sessionId m' (c₁.perform sessionId (c₂.perform sessionId m₀))

variable {c₁ c₂ : QodCall}

theorem Shows.sameOutcome_iff {m' : QodSessionManager} {session' : QodSession}
    {L' : Set PcfRequest} (h : Shows m₀ sessionId m session L)
    (h' : Shows m₀ sessionId m' session' L') :
    SameOutcome sessionId m m' ↔ (session, L) = (session', L') := by
  rw [SameOutcome, h.stored, h'.stored, Option.some.injEq, Prod.mk.injEq, ← h.sent, ← h'.sent,
    Set.ext_iff]
  rfl

/-- The serial order of two operations, seen as transactions. -/
theorem Shows.serial (h : Shows m₀ sessionId m session ∅) (c₁ c₂ : QodCall) :
    Shows m₀ sessionId (c₂.perform sessionId (c₁.perform sessionId m))
      ((c₁.transaction m₀).serial (c₂.transaction m₀) session).1
      ((c₁.transaction m₀).serial (c₂.transaction m₀) session).2 := by
  have hrun := (refines c₂).run ((refines c₁).run h)
  rw [Set.empty_union, run_prog, run_prog] at hrun
  exact hrun

/-- No update is lost iff both overlaps of the transactions are as a serial order. -/
theorem noLostUpdate_iff_absorbs (hm : m.Filed)
    (hs : m.qod.getSessionById sessionId = some session) :
    NoLostUpdate m sessionId c₁ c₂ ↔
      (c₁.transaction m).Absorbs (c₂.transaction m) session ∧
        (c₂.transaction m).Absorbs (c₁.transaction m) session := by
  have hshows : Shows m sessionId { m with sent := [] } session ∅ :=
    ⟨hs, hm _ _ hs, by simp, rfl, rfl⟩
  rw [← serialisable_iff (R := Shows m sessionId) (fun _ _ _ _ _ => Shows.unique) (refines c₁)
    (refines c₂) hshows]
  refine forall₂_congr fun m' hi => ?_
  constructor
  · intro h
    obtain ⟨e, he, -⟩ := (refines c₁).interleaves_cases (refines c₂) hshows hi
    rw [Set.empty_union] at he
    refine ⟨e, he, ?_⟩
    rwa [he.sameOutcome_iff (hshows.serial c₁ c₂), he.sameOutcome_iff (hshows.serial c₂ c₁)] at h
  · rintro ⟨e, he, rfl | rfl⟩
    · exact .inl ((he.sameOutcome_iff (hshows.serial c₁ c₂)).2 rfl)
    · exact .inr ((he.sameOutcome_iff (hshows.serial c₂ c₁)).2 rfl)

/-- An extension is by one second at least, as `handle_extend_session` checks. -/
def Forward : QodCall → Prop
  | .extend additional _ => 1 ≤ additional
  | _ => True

/-- The session is as a success of the PCF leaves it. -/
def Active (session : QodSession) (pcfSessionId : String) (now : ℤ) : Prop :=
  session.qosStatus = .available ∧ session.pcfSessionId = some pcfSessionId ∧
    session.startedAt = some now

/-- The write of the second operation, of a copy read before the first has written,
    loses nothing of the first. -/
def Absorbed (m : QodSessionManager) (session : QodSession) : QodCall → QodCall → Prop
  | .extend _ _, .extend additional _ =>
    m.getMaxDurationForProfile session.qosProfile ≤ session.duration + additional
  | .extend _ _, .delete _ _ _ => True
  | .extend _ _, .response _ true _ _ =>
    session.duration = m.getMaxDurationForProfile session.qosProfile
  | .extend _ _, .response _ false _ _ => True
  | .delete _ _ _, .extend _ _ => False
  | .delete _ _ _, .delete _ _ _ => True
  | .delete _ _ _, .response _ true _ _ =>
    session.statusInfo = some .deleteRequested ∨ m.pcfReady = false
  | .delete _ _ now, .response _ false _ _ => session.expiresAt = some now
  | .response pcfSessionId true _ now, .extend _ _ => Active session pcfSessionId now
  | .response pcfSessionId true _ now, .delete _ _ _ => Active session pcfSessionId now
  | .response _ true _ _, .response _ true _ _ => True
  | .response pcfSessionId true _ now, .response _ false _ _ =>
    session.pcfSessionId = some pcfSessionId ∧ session.startedAt = some now ∧
      session.expiresAt = some (after now session.duration)
  | .response _ false _ _, .extend _ _ => False
  | .response _ false errorMessage _, .delete _ _ _ =>
    session.errorMessage = some errorMessage ∧ pcfSessionOf session = none
  | .response _ false errorMessage _, .response _ true _ _ =>
    session.statusInfo = some .networkTerminated ∧ session.errorMessage = some errorMessage
  | .response _ false _ _, .response _ false _ _ => True

/-! ## One operation after the other -/

theorem post_of_effective (call : QodCall) (h : call.Effective m session) :
    (call.transaction m).post session = call.result m session := by
  rw [Transaction.post, write_of_effective call h, Option.getD_some]

theorem post_of_not_effective (call : QodCall) (h : ¬call.Effective m session) :
    (call.transaction m).post session = session := by
  rw [Transaction.post, write_of_not_effective h, Option.getD_none]

theorem effective_response (p : String) (success : Bool) (e : String) (now : ℤ) :
    (response p success e now).Effective m session := trivial

/-- The condition of an overlap, by the sessions the operations leave. -/
theorem absorbs_iff_result (h₁ : c₁.Effective m session) (h₂ : c₂.Effective m session) :
    (c₁.transaction m).Absorbs (c₂.transaction m) session ↔
      ((c₂.transaction m).post (c₁.result m session) = c₂.result m session ∧
        c₁.msgs m session ∪ c₂.msgs m (c₁.result m session) =
          c₁.msgs m session ∪ c₂.msgs m session) ∨
      ((c₁.transaction m).post (c₂.result m session) = c₂.result m session ∧
        c₂.msgs m session ∪ c₁.msgs m (c₂.result m session) =
          c₁.msgs m session ∪ c₂.msgs m session) :=
  Transaction.absorbs_iff (write_of_effective c₁ h₁) (write_of_effective c₂ h₂)

/-! The overlaps, by the operation that comes to write first. -/

section Extension

variable {a : ℤ} {c : String}

theorem absorbs_extend_extend {a' : ℤ} {c' : String} (h₁ : (extend a c).Effective m session)
    (h₂ : (extend a' c').Effective m session) (ha : 1 ≤ a) (ha' : 1 ≤ a') :
    ((extend a c).transaction m).Absorbs ((extend a' c').transaction m) session ↔
      m.getMaxDurationForProfile session.qosProfile ≤ session.duration + a' := by
  -- Each extends what the other leaves, in both orders to the same duration.
  have h₂₁ : (extend a' c').Effective m ((extend a c).result m session) := h₂
  have h₁₂ : (extend a c).Effective m ((extend a' c').result m session) := h₁
  rw [absorbs_iff_result h₁ h₂, post_of_effective _ h₂₁, post_of_effective _ h₁₂]
  constructor
  · rintro (⟨h, -⟩ | ⟨h, -⟩) <;>
    · have hduration := congrArg QodSession.duration h
      simp only [result, extended, extendedDuration] at hduration
      omega
  · intro h
    refine .inl ⟨?_, rfl⟩
    have hduration : min (min (session.duration + a)
        (m.getMaxDurationForProfile session.qosProfile) + a')
        (m.getMaxDurationForProfile session.qosProfile) =
          min (session.duration + a') (m.getMaxDurationForProfile session.qosProfile) := by
      omega
    simp only [result, extended, extendedDuration, hduration]

/-- An extension does nothing to a session that is unavailable. -/
theorem not_effective_extend (h : session.qosStatus = .unavailable) :
    ¬(extend a c).Effective m session := fun h' => h'.2.1 h

/-- An operation that leaves the session unavailable absorbs an extension. -/
theorem absorbs_extend_of_unavailable (h₁ : (extend a c).Effective m session)
    (h₂ : c₂.Effective m session) (hend : (c₂.result m session).qosStatus = .unavailable) :
    ((extend a c).transaction m).Absorbs (c₂.transaction m) session := by
  rw [absorbs_iff_result h₁ h₂, post_of_not_effective (extend a c) (not_effective_extend hend)]
  exact .inr ⟨rfl, Set.union_comm ..⟩

/-- An extension revives a session that an operation has ended. -/
theorem not_absorbs_extend (h₁ : c₁.Effective m session) (h₂ : (extend a c).Effective m session)
    (hend : ∀ s, (c₁.result m s).qosStatus = .unavailable)
    (h₁₂ : c₁.Effective m ((extend a c).result m session)) :
    ¬(c₁.transaction m).Absorbs ((extend a c).transaction m) session := by
  rw [absorbs_iff_result h₁ h₂, post_of_not_effective (extend a c) (not_effective_extend (hend _)),
    post_of_effective _ h₁₂]
  -- Both serial orders end it, the overlap leaves it live.
  have hlive : ((extend a c).result m session).qosStatus ≠ .unavailable := h₂.2.1
  rintro (⟨h, -⟩ | ⟨h, -⟩)
  · exact hlive (h ▸ hend _)
  · exact hlive (h ▸ hend _)

theorem absorbs_extend_success {p e : String} {now : ℤ} (h₁ : (extend a c).Effective m session)
    (ha : 1 ≤ a) :
    ((extend a c).transaction m).Absorbs ((response p true e now).transaction m) session ↔
      session.duration = m.getMaxDurationForProfile session.qosProfile := by
  have h₁₂ : (extend a c).Effective m ((response p true e now).result m session) :=
    ⟨h₁.1, nofun, rfl⟩
  rw [absorbs_iff_result h₁ (effective_response p true e now), post_of_effective _ h₁₂,
    post_of_effective _ (effective_response p true e now)]
  constructor
  · rintro (⟨h, -⟩ | ⟨h, -⟩) <;>
    · have hduration := congrArg QodSession.duration h
      simp only [result, responded, activated, extended, extendedDuration, if_true] at hduration
      omega
  · intro h
    refine .inl ⟨?_, rfl⟩
    have hduration : min (session.duration + a) (m.getMaxDurationForProfile session.qosProfile) =
        session.duration := by
      omega
    simp only [result, responded, activated, extended, extendedDuration, if_true, hduration]

theorem absorbs_success_extend {p e : String} {now : ℤ} (h₂ : (extend a c).Effective m session) :
    ((response p true e now).transaction m).Absorbs ((extend a c).transaction m) session ↔
      Active session p now := by
  have h₂₁ : (extend a c).Effective m ((response p true e now).result m session) :=
    ⟨h₂.1, nofun, rfl⟩
  rw [absorbs_iff_result (effective_response p true e now) h₂, post_of_effective _ h₂₁,
    post_of_effective _ (effective_response p true e now)]
  constructor
  · rintro (⟨h, -⟩ | ⟨h, -⟩) <;>
    · exact ⟨(congrArg QodSession.qosStatus h).symm, (congrArg QodSession.pcfSessionId h).symm,
        (congrArg QodSession.startedAt h).symm⟩
  · rintro ⟨hstatus, hp, ht⟩
    refine .inl ⟨?_, rfl⟩
    simp only [result, responded, activated, extended, extendedDuration, if_true, hstatus, hp, ht,
      Option.getD_some]

end Extension

section Deletion

variable {c : String} {reply : Option PcfReply} {t : ℤ}

theorem pcfSessionOf_of_unavailable (h : session.qosStatus = .unavailable) :
    pcfSessionOf session = none := if_neg (by rw [h]; nofun)

theorem msgs_delete_of_none (h : pcfSessionOf session = none) :
    (delete c reply t).msgs m session = ∅ := by
  ext x
  simp [msgs, h]

/-- A deletion asks the PCF to remove the session it holds. -/
theorem msgs_delete_of_some {p : String} (hconsumer : session.apiConsumerId = c)
    (hready : m.pcfReady) (hp : pcfSessionOf session = some p) :
    (delete c reply t).msgs m session = {.deleteQodSession p session.sessionId} := by
  ext x
  simp [msgs, hconsumer, hready, hp]

/-- A session the PCF holds is deleted when the PCF confirms it. -/
theorem released_of_some {p : String} (hp : pcfSessionOf session = some p) :
    released m session reply ↔ m.pcfReady ∧ confirms reply := by
  rw [released, hp]
  simp only [Option.isNone_some, Bool.false_or, Bool.and_eq_true]

/-- A session that has ended can be deleted again. -/
theorem effective_delete_of_unavailable {s : QodSession} (h : (delete c reply t).Effective m session)
    (hconsumer : s.apiConsumerId = session.apiConsumerId) (hkeyed : keyed s = keyed session)
    (hend : s.qosStatus = .unavailable) : (delete c reply t).Effective m s := by
  refine ⟨hconsumer.trans h.1, ?_, hkeyed.trans h.2.2⟩
  rw [released, pcfSessionOf_of_unavailable hend]
  rfl

theorem absorbs_delete_delete {c' : String} {reply' : Option PcfReply} {t' : ℤ}
    (h₁ : (delete c reply t).Effective m session) (h₂ : (delete c' reply' t').Effective m session) :
    ((delete c reply t).transaction m).Absorbs ((delete c' reply' t').transaction m) session := by
  have h₂₁ : (delete c' reply' t').Effective m ((delete c reply t).result m session) :=
    effective_delete_of_unavailable h₂ rfl rfl rfl
  have hmsgs : (delete c' reply' t').msgs m ((delete c reply t).result m session) = ∅ :=
    msgs_delete_of_none (pcfSessionOf_of_unavailable rfl)
  rw [absorbs_iff_result h₁ h₂, post_of_effective _ h₂₁, hmsgs, Set.union_empty]
  refine .inl ⟨rfl, ?_⟩
  -- The second asks for nothing, or for what the first has asked for.
  cases hp : pcfSessionOf session with
  | none => rw [msgs_delete_of_none hp, msgs_delete_of_none hp, Set.union_empty]
  | some p =>
    have hready := ((released_of_some hp).1 h₁.2.1).1
    rw [msgs_delete_of_some h₁.1 hready hp, msgs_delete_of_some h₂.1 hready hp, Set.union_self]

variable {p e : String} {now : ℤ}

theorem absorbs_delete_failure (h₁ : (delete c reply t).Effective m session) :
    ((delete c reply t).transaction m).Absorbs ((response p false e now).transaction m) session ↔
      session.expiresAt = some t := by
  have h₁₂ : (delete c reply t).Effective m ((response p false e now).result m session) :=
    effective_delete_of_unavailable h₁ rfl rfl rfl
  rw [absorbs_iff_result h₁ (effective_response p false e now), post_of_effective _ h₁₂,
    post_of_effective _ (effective_response p false e now)]
  constructor
  · rintro (⟨h, -⟩ | ⟨h, -⟩)
    · exact (congrArg QodSession.expiresAt h).symm
    · exact absurd (congrArg QodSession.statusInfo h) (by simp [result, deleted, responded, failed])
  · intro h
    refine .inl ⟨?_, rfl⟩
    simp only [result, deleted, responded, failed, Bool.false_eq_true, if_false, h]

theorem absorbs_failure_delete (h₂ : (delete c reply t).Effective m session) :
    ((response p false e now).transaction m).Absorbs ((delete c reply t).transaction m) session ↔
      session.errorMessage = some e ∧ pcfSessionOf session = none := by
  have h₂₁ : (delete c reply t).Effective m ((response p false e now).result m session) :=
    effective_delete_of_unavailable h₂ rfl rfl rfl
  have hmsgs : (delete c reply t).msgs m ((response p false e now).result m session) = ∅ :=
    msgs_delete_of_none (pcfSessionOf_of_unavailable rfl)
  rw [absorbs_iff_result (effective_response p false e now) h₂, post_of_effective _ h₂₁,
    post_of_effective _ (effective_response p false e now), hmsgs]
  constructor
  · rintro (⟨h, hsent⟩ | ⟨h, -⟩)
    · refine ⟨(congrArg QodSession.errorMessage h).symm, ?_⟩
      -- The message of the deletion is sent in the overlap only.
      cases hp : pcfSessionOf session with
      | none => rfl
      | some p' =>
        rw [msgs_delete_of_some h₂.1 ((released_of_some hp).1 h₂.2.1).1 hp] at hsent
        simp [msgs] at hsent
    · exact absurd (congrArg QodSession.statusInfo h) (by simp [result, deleted, responded, failed])
  · rintro ⟨he, hp⟩
    rw [msgs_delete_of_none hp]
    refine .inl ⟨?_, rfl⟩
    simp only [result, deleted, responded, failed, Bool.false_eq_true, if_false, he]

theorem pcfSessionOf_activated (session : QodSession) (p : String) (now : ℤ) :
    pcfSessionOf (activated session p now) = some p := if_pos rfl

theorem absorbs_delete_success (h₁ : (delete c reply t).Effective m session) :
    ((delete c reply t).transaction m).Absorbs ((response p true e now).transaction m) session ↔
      session.statusInfo = some .deleteRequested ∨ m.pcfReady = false := by
  have hp := pcfSessionOf_activated session p now
  rw [absorbs_iff_result h₁ (effective_response p true e now),
    post_of_effective _ (effective_response p true e now)]
  constructor
  · rintro (⟨h, -⟩ | ⟨h, hsent⟩)
    · exact .inl (congrArg QodSession.statusInfo h).symm
    · -- The deletion comes last and leaves the session: not after the PCF confirms it,
      -- and if it does not, the request to the PCF is sent in this order only.
      refine .inr (Bool.eq_false_iff.2 fun hready => ?_)
      by_cases hconfirms : confirms reply
      · have h₁₂ : (delete c reply t).Effective m ((response p true e now).result m session) :=
          ⟨h₁.1, (released_of_some hp).2 ⟨hready, hconfirms⟩, h₁.2.2⟩
        rw [post_of_effective _ h₁₂] at h
        exact absurd (congrArg QodSession.qosStatus h) nofun
      · have hnone : pcfSessionOf session = none := by
          cases hs : pcfSessionOf session with
          | none => rfl
          | some p' => exact absurd ((released_of_some hs).1 h₁.2.1).2 hconfirms
        have hmsgs : (delete c reply t).msgs m ((response p true e now).result m session) =
            {.deleteQodSession p session.sessionId} := msgs_delete_of_some h₁.1 hready hp
        rw [hmsgs, msgs_delete_of_none hnone] at hsent
        simp [msgs] at hsent
  · rintro (hinfo | hready)
    · refine .inl ⟨?_, rfl⟩
      simp only [result, deleted, responded, activated, if_true, hinfo]
    · have h₁₂ : ¬(delete c reply t).Effective m ((response p true e now).result m session) := by
        rintro ⟨-, hreleased, -⟩
        rw [((released_of_some hp).1 hreleased).1] at hready
        cases hready
      rw [post_of_not_effective _ h₁₂]
      refine .inr ⟨rfl, ?_⟩
      simp [msgs, hready]

theorem absorbs_success_delete (h₂ : (delete c reply t).Effective m session) :
    ((response p true e now).transaction m).Absorbs ((delete c reply t).transaction m) session ↔
      Active session p now := by
  have hp := pcfSessionOf_activated session p now
  rw [absorbs_iff_result (effective_response p true e now) h₂,
    post_of_effective _ (effective_response p true e now)]
  by_cases h₂₁ : (delete c reply t).Effective m ((response p true e now).result m session)
  · have hready := ((released_of_some hp).1 h₂₁.2.1).1
    have hmsgs : (delete c reply t).msgs m ((response p true e now).result m session) =
        {.deleteQodSession p session.sessionId} := msgs_delete_of_some h₂.1 hready hp
    rw [post_of_effective _ h₂₁, hmsgs]
    constructor
    · rintro (⟨h, hsent⟩ | ⟨h, -⟩)
      · -- The request is for the PCF session of the success: the session read has it.
        refine ⟨?_, (congrArg QodSession.pcfSessionId h).symm,
          (congrArg QodSession.startedAt h).symm⟩
        by_contra hstatus
        rw [msgs_delete_of_none (if_neg hstatus)] at hsent
        simp [msgs] at hsent
      · exact absurd (congrArg QodSession.qosStatus h) nofun
    · rintro ⟨hstatus, hpcf, ht⟩
      have hs : pcfSessionOf session = some p := (if_pos hstatus).trans hpcf
      rw [msgs_delete_of_some h₂.1 hready hs]
      refine .inl ⟨?_, rfl⟩
      simp only [result, deleted, responded, activated, if_true, hpcf, ht]
  · rw [post_of_not_effective _ h₂₁]
    constructor
    · rintro (⟨h, -⟩ | ⟨h, -⟩)
      · exact absurd (congrArg QodSession.qosStatus h) nofun
      · exact absurd (congrArg QodSession.qosStatus h) nofun
    · rintro ⟨hstatus, hpcf, -⟩
      have hs : pcfSessionOf session = some p := (if_pos hstatus).trans hpcf
      refine absurd ⟨h₂.1, ?_, h₂.2.2⟩ h₂₁
      exact (released_of_some hp).2 ((released_of_some hs).1 h₂.2.1)

end Deletion

section Response

variable {p p' e e' : String} {now now' : ℤ}

/-- Of two successes, and of two failures, the later one counts. -/
theorem absorbs_response_response (success : Bool) :
    ((response p success e now).transaction m).Absorbs
      ((response p' success e' now').transaction m) session := by
  rw [absorbs_iff_result (effective_response p success e now)
    (effective_response p' success e' now'),
    post_of_effective _ (effective_response p' success e' now')]
  refine .inl ⟨?_, rfl⟩
  cases success <;> rfl

theorem absorbs_success_failure :
    ((response p true e now).transaction m).Absorbs ((response p' false e' now').transaction m)
      session ↔
      session.pcfSessionId = some p ∧ session.startedAt = some now ∧
        session.expiresAt = some (after now session.duration) := by
  rw [absorbs_iff_result (effective_response p true e now) (effective_response p' false e' now'),
    post_of_effective _ (effective_response p true e now),
    post_of_effective _ (effective_response p' false e' now')]
  constructor
  · rintro (⟨h, -⟩ | ⟨h, -⟩)
    · exact ⟨(congrArg QodSession.pcfSessionId h).symm, (congrArg QodSession.startedAt h).symm,
        (congrArg QodSession.expiresAt h).symm⟩
    · exact absurd (congrArg QodSession.qosStatus h) nofun
  · rintro ⟨hp, ht, hexpires⟩
    refine .inl ⟨?_, rfl⟩
    simp only [result, responded, activated, failed, Bool.false_eq_true, if_false, if_true, hp, ht,
      hexpires]

theorem absorbs_failure_success :
    ((response p false e now).transaction m).Absorbs ((response p' true e' now').transaction m)
      session ↔
      session.statusInfo = some .networkTerminated ∧ session.errorMessage = some e := by
  rw [absorbs_iff_result (effective_response p false e now) (effective_response p' true e' now'),
    post_of_effective _ (effective_response p false e now),
    post_of_effective _ (effective_response p' true e' now')]
  constructor
  · rintro (⟨h, -⟩ | ⟨h, -⟩)
    · exact ⟨(congrArg QodSession.statusInfo h).symm, (congrArg QodSession.errorMessage h).symm⟩
    · exact absurd (congrArg QodSession.qosStatus h) nofun
  · rintro ⟨hinfo, he⟩
    refine .inl ⟨?_, rfl⟩
    simp only [result, responded, activated, failed, Bool.false_eq_true, if_false, if_true, hinfo,
      he]

end Response

/-- When the overlap of two operations that write is as a serial order. -/
theorem absorbs_iff_absorbed (h₁ : c₁.Effective m session) (h₂ : c₂.Effective m session)
    (hf₁ : c₁.Forward) (hf₂ : c₂.Forward) :
    (c₁.transaction m).Absorbs (c₂.transaction m) session ↔ Absorbed m session c₁ c₂ := by
  cases c₁ with
  | extend a c =>
    cases c₂ with
    | extend a' c' => exact absorbs_extend_extend h₁ h₂ hf₁ hf₂
    | delete c' reply t =>
      exact iff_of_true (absorbs_extend_of_unavailable h₁ h₂ rfl) trivial
    | response p success e now =>
      cases success with
      | true => exact absorbs_extend_success h₁ hf₁
      | false => exact iff_of_true (absorbs_extend_of_unavailable h₁ h₂ rfl) trivial
  | delete c reply t =>
    cases c₂ with
    | extend a' c' => exact iff_of_false (not_absorbs_extend h₁ h₂ (fun _ => rfl) h₁) id
    | delete c' reply' t' => exact iff_of_true (absorbs_delete_delete h₁ h₂) trivial
    | response p success e now =>
      cases success with
      | true => exact absorbs_delete_success h₁
      | false => exact absorbs_delete_failure h₁
  | response p success e now =>
    cases success with
    | true =>
      cases c₂ with
      | extend a' c' => exact absorbs_success_extend h₂
      | delete c' reply t => exact absorbs_success_delete h₂
      | response p' success' e' now' =>
        cases success' with
        | true => exact iff_of_true (absorbs_response_response true) trivial
        | false => exact absorbs_success_failure
    | false =>
      cases c₂ with
      | extend a' c' => exact iff_of_false (not_absorbs_extend h₁ h₂ (fun _ => rfl) trivial) id
      | delete c' reply t => exact absorbs_failure_delete h₂
      | response p' success' e' now' =>
        cases success' with
        | true => exact absorbs_failure_success
        | false => exact iff_of_true (absorbs_response_response false) trivial

/-- Two operations on a stored session lose no update, in any interleaving, iff one of
    them does not get to write, or each absorbs the other. -/
theorem noLostUpdate_iff (hm : m.Filed) (hs : m.qod.getSessionById sessionId = some session)
    (h₁ : c₁.Forward) (h₂ : c₂.Forward) :
    NoLostUpdate m sessionId c₁ c₂ ↔
      ¬c₁.Effective m session ∨ ¬c₂.Effective m session ∨
        Absorbed m session c₁ c₂ ∧ Absorbed m session c₂ c₁ := by
  rw [noLostUpdate_iff_absorbs hm hs]
  by_cases he₁ : c₁.Effective m session
  · by_cases he₂ : c₂.Effective m session
    · rw [absorbs_iff_absorbed he₁ he₂ h₁ h₂, absorbs_iff_absorbed he₂ he₁ h₂ h₁]
      simp only [he₁, he₂, not_true_eq_false, false_or]
    · have hwrite := write_of_not_effective he₂
      exact iff_of_true ⟨Transaction.absorbs_of_write_right hwrite,
        Transaction.absorbs_of_write_left hwrite⟩ (.inr (.inl he₂))
  · have hwrite := write_of_not_effective he₁
    exact iff_of_true ⟨Transaction.absorbs_of_write_left hwrite,
      Transaction.absorbs_of_write_right hwrite⟩ (.inl he₁)

/-- A run with one available session, of ten minutes. -/
def availableRun : QodRun where
  manager := (QodRun.initial.manager.createSession (QodRun.phoneSession "consumer") "session-1" 0
    (some (.created "pcf-1")) 1).2
  drawn := ["session-1"]

theorem reachable_availableRun : qodSystem.Reachable availableRun :=
  .step (.init ⟨_, _, _, _, rfl⟩) (a := QodOp.createSession (QodRun.phoneSession "consumer")
    "session-1" 0 (some (.created "pcf-1")) 1) rfl

/-- Two extensions, each to the maximal duration of the profile. -/
theorem noLostUpdate_to_maximum : NoLostUpdate availableRun.manager "session-1"
    (extend 3000 "consumer") (extend 3000 "consumer") := by
  obtain ⟨session, hs, hmax⟩ : ∃ session,
      availableRun.manager.qod.getSessionById "session-1" = some session ∧
        availableRun.manager.getMaxDurationForProfile session.qosProfile ≤
          session.duration + 3000 :=
    ⟨_, rfl, by decide⟩
  have hforward : (extend 3000 "consumer").Forward := (by decide : (1 : ℤ) ≤ 3000)
  exact (noLostUpdate_iff (QodRun.filed_of_reachable reachable_availableRun).1 hs hforward
    hforward).2 (.inr (.inr ⟨hmax, hmax⟩))

/-- An extension by a minute revives a session that is deleted meanwhile. -/
theorem lostUpdate_extend_delete : qodSystem.Reachable availableRun ∧
    ¬NoLostUpdate availableRun.manager "session-1" (extend 60 "consumer")
      (delete "consumer" (some (.removed "pcf-1")) 2) := by
  obtain ⟨session, hs, hdelete, hextend⟩ : ∃ session,
      availableRun.manager.qod.getSessionById "session-1" = some session ∧
        (delete "consumer" (some (.removed "pcf-1")) 2).Effective availableRun.manager
          session ∧
        (extend 60 "consumer").Effective availableRun.manager session :=
    ⟨_, rfl, ⟨rfl, rfl, rfl⟩, ⟨rfl, nofun, rfl⟩⟩
  refine ⟨reachable_availableRun, fun h => ?_⟩
  rw [noLostUpdate_iff_absorbs (QodRun.filed_of_reachable reachable_availableRun).1 hs] at h
  exact not_absorbs_extend hdelete hextend (fun _ => rfl) hdelete h.2

end QodCall

end PhineAf

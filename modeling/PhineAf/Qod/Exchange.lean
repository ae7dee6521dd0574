import PhineAf.Qod.Lifecycle

/-!
# The exchange with the PCF

The session manager and the PCF as two parties with messages between them. A call
of `create_session` or `delete_session` that asks the PCF is split at the request:
the call waits with its copy of the session, while the PCF handles the requests,
the replies travel, and other operations go on. Other events of the PCF and all
other operations are single steps.

Every application session that is alive at the PCF should be the one of an
available session. The operations do not see to it: `Exchange.Careful` says that a
step does not end, remove or overwrite a session that holds a live application
session, and that a reply with a new one finds its session stored.
`Exchange.held_of_reachable` is the result for runs of such steps.
-/

namespace PhineAf

/-- A message between the manager and the PCF. -/
inductive PcfMessage
  | createRequest (sessionId : String)
  | deleteRequest (pcfSessionId : String)
  | created (sessionId pcfSessionId : String)
  | removed (pcfSessionId : String)
  deriving DecidableEq

/-- The two parties, and what is between them. -/
structure Exchange where
  manager : QodSessionManager
  /-- The session ids drawn so far. -/
  drawn : List String
  /-- The messages in flight. -/
  flight : List PcfMessage
  /-- The calls of `create_session` that wait for the PCF, with their sessions. -/
  creating : List QodSession
  /-- The calls of `delete_session` that wait for the PCF, with their sessions. -/
  deleting : List QodSession
  /-- The application sessions alive at the PCF. -/
  alive : List String
  /-- The ids the PCF has issued so far. -/
  issued : List String

inductive ExchangeOp
  /-- `create_session`, up to its request. -/
  | createSession (request : CreateSessionRequest) (sessionId : String) (now : ℤ)
  /-- A waiting call of `create_session` gets its reply. -/
  | createReply (call : ℕ) (pcfSessionId : String) (now : ℤ)
  /-- A waiting call of `create_session` gets no reply, or another one. -/
  | createFails (call : ℕ) (reply : Option PcfReply) (now : ℤ)
  /-- `delete_session`, up to its request. -/
  | deleteSession (sessionId apiConsumerId : String) (now : ℤ)
  /-- A waiting call of `delete_session` gets its reply. -/
  | deleteReply (call : ℕ) (pcfSessionId : String) (now : ℤ)
  /-- A waiting call of `delete_session` gets no reply, or another one. -/
  | deleteFails (call : ℕ)
  /-- A reply comes to `handle_pcf_session_response`. -/
  | lateReply (sessionId pcfSessionId : String) (now : ℤ)
  /-- A reply to a deletion nobody waits for. -/
  | lateRemoval (pcfSessionId : String)
  /-- The PCF handles a request. -/
  | pcfCreates (sessionId pcfSessionId : String)
  | pcfRefuses (sessionId : String)
  | pcfRemoves (pcfSessionId : String)
  /-- The PCF ends a session on its own. -/
  | pcfEnds (pcfSessionId : String)
  /-- Any other operation. -/
  | other (op : QodOp)

namespace Exchange

open QodSessionManager

/-- The operations that do not call the PCF handler. -/
def isLocal : QodOp → Bool
  | .createSession .. | .deleteSession .. | .stop => false
  | _ => true

/-- A reply that does not tell of a session. -/
def isNegative (reply : Option PcfReply) : Bool :=
  reply.all fun r => r.type = .error || r.type = .other

/-- The exchange after a step. -/
def next (x : Exchange) : ExchangeOp → Option Exchange
  | .createSession request sessionId now =>
    if sessionId ∈ x.drawn then none
    else match x.manager.prepareSession request sessionId now with
      | .ok (some session) =>
        let m := x.manager.storeSession session now
        if m.pcfReady then
          some { x with
            manager := m.send (.createQodSession session)
            drawn := sessionId :: x.drawn
            flight := .createRequest sessionId :: x.flight
            creating := session :: x.creating }
        else
          some { x with
            manager := (concludeSession session (false, m)).2
            drawn := sessionId :: x.drawn }
      | _ => some x
  | .createReply call pcfSessionId now => do
    let session ← x.creating[call]?
    if .created session.sessionId pcfSessionId ∈ x.flight then
      some { x with
        manager := (concludeSession session
          (x.manager.applyReply session.sessionId (some (.created pcfSessionId)) now)).2
        flight := x.flight.erase (.created session.sessionId pcfSessionId)
        creating := x.creating.eraseIdx call }
    else none
  | .createFails call reply now => do
    let session ← x.creating[call]?
    if isNegative reply then
      some { x with
        manager := (concludeSession session
          (x.manager.applyReply session.sessionId reply now)).2
        creating := x.creating.eraseIdx call }
    else none
  | .deleteSession sessionId apiConsumerId now =>
    match x.manager.deleteRequest sessionId apiConsumerId with
    | none => some x
    | some session =>
      match pcfSessionOf session with
      | none => some { x with manager := (x.manager.finishDelete session now).2 }
      | some pcfSessionId =>
        if x.manager.pcfReady then
          some { x with
            manager := x.manager.send (.deleteQodSession pcfSessionId session.sessionId)
            flight := .deleteRequest pcfSessionId :: x.flight
            deleting := session :: x.deleting }
        else some x
  | .deleteReply call pcfSessionId now => do
    let session ← x.deleting[call]?
    if pcfSessionOf session = some pcfSessionId ∧ .removed pcfSessionId ∈ x.flight then
      some { x with
        manager :=
          ((x.manager.removeReply (some (.removed pcfSessionId))).2.finishDelete session now).2
        flight := x.flight.erase (.removed pcfSessionId)
        deleting := x.deleting.eraseIdx call }
    else none
  | .deleteFails call => some { x with deleting := x.deleting.eraseIdx call }
  | .lateReply sessionId pcfSessionId now =>
    if .created sessionId pcfSessionId ∈ x.flight then
      some { x with
        manager := x.manager.handlePcfSessionResponse sessionId pcfSessionId true "" now
        flight := x.flight.erase (.created sessionId pcfSessionId) }
    else none
  | .lateRemoval pcfSessionId =>
    if .removed pcfSessionId ∈ x.flight then
      some { x with flight := x.flight.erase (.removed pcfSessionId) }
    else none
  | .pcfCreates sessionId pcfSessionId =>
    if .createRequest sessionId ∈ x.flight ∧ pcfSessionId ∉ x.issued then
      some { x with
        flight := .created sessionId pcfSessionId :: x.flight.erase (.createRequest sessionId)
        alive := pcfSessionId :: x.alive
        issued := pcfSessionId :: x.issued }
    else none
  | .pcfRefuses sessionId =>
    if .createRequest sessionId ∈ x.flight then
      some { x with flight := x.flight.erase (.createRequest sessionId) }
    else none
  | .pcfRemoves pcfSessionId =>
    if .deleteRequest pcfSessionId ∈ x.flight then
      some { x with
        flight := .removed pcfSessionId :: x.flight.erase (.deleteRequest pcfSessionId)
        alive := x.alive.filter (· ≠ pcfSessionId) }
    else none
  | .pcfEnds pcfSessionId => some { x with alive := x.alive.filter (· ≠ pcfSessionId) }
  | .other op =>
    if isLocal op then (x.manager.next op).map fun manager => { x with manager } else none

/-! A call that is not disturbed is the operation of the manager. -/

variable {x : Exchange} {request : CreateSessionRequest} {sessionId p : String} {now later : ℤ}
  {session : QodSession}

/-- `create_session` sends its request. -/
theorem next_createSession (hfresh : sessionId ∉ x.drawn)
    (hprepared : x.manager.prepareSession request sessionId now = .ok (some session))
    (hready : x.manager.pcfReady) :
    x.next (.createSession request sessionId now) = some { x with
      manager := (x.manager.storeSession session now).send (.createQodSession session)
      drawn := sessionId :: x.drawn
      flight := .createRequest sessionId :: x.flight
      creating := session :: x.creating } := by
  have hready' : (x.manager.storeSession session now).pcfReady := hready
  simp only [next, if_neg hfresh, hprepared, if_pos hready']

/-- The PCF creates the application session, and the call gets its reply. -/
theorem run_createSession (hfresh : sessionId ∉ x.drawn) (hp : p ∉ x.issued)
    (hprepared : x.manager.prepareSession request sessionId now = .ok (some session))
    (hready : x.manager.pcfReady) :
    ∃ x', [ExchangeOp.createSession request sessionId now, .pcfCreates sessionId p,
      .createReply 0 p later].foldlM next x = some x' ∧ x'.flight = x.flight ∧
      x'.manager = (x.manager.createSession request sessionId now (some (.created p)) later).2 := by
  obtain rfl : session.sessionId = sessionId := (prepared hprepared).1
  have hready' : (x.manager.storeSession session now).pcfReady := hready
  simp only [List.foldlM_cons, next_createSession hfresh hprepared hready, createSession, hprepared,
    if_pos hready', Option.bind_eq_bind, Option.bind_some]
  simp [next, hp]

/-- The PCF refuses it, or the call waits in vain. -/
theorem run_createSession_of_isNegative (hfresh : sessionId ∉ x.drawn)
    (hprepared : x.manager.prepareSession request sessionId now = .ok (some session))
    (hready : x.manager.pcfReady) {reply : Option PcfReply} (hreply : isNegative reply) :
    ∃ x', [ExchangeOp.createSession request sessionId now, .pcfRefuses sessionId,
      .createFails 0 reply later].foldlM next x = some x' ∧ x'.flight = x.flight ∧
      x'.manager = (x.manager.createSession request sessionId now reply later).2 := by
  obtain rfl : session.sessionId = sessionId := (prepared hprepared).1
  have hready' : (x.manager.storeSession session now).pcfReady := hready
  simp only [List.foldlM_cons, next_createSession hfresh hprepared hready, createSession, hprepared,
    if_pos hready', Option.bind_eq_bind, Option.bind_some]
  simp [next, hreply]

/-- `delete_session`, and the PCF removes the application session. -/
theorem run_deleteSession {consumer : String}
    (hrequest : x.manager.deleteRequest sessionId consumer = some session)
    (hp : pcfSessionOf session = some p) (hready : x.manager.pcfReady) :
    ∃ x', [ExchangeOp.deleteSession sessionId consumer now, .pcfRemoves p,
      .deleteReply 0 p now].foldlM next x = some x' ∧ x'.flight = x.flight ∧
      x'.manager = (x.manager.deleteSession sessionId consumer (some (.removed p)) now).2 := by
  have hreply : ∀ m : QodSessionManager, m.removeReply (some (.removed p)) =
      (true, { m with qod := (m.qod.removePcfToQodSessionMapping p).2 }) := fun _ => rfl
  simp [next, deleteSession, hrequest, hp, hready, hreply]

end Exchange

/-- The runs of the exchange, from any configuration. -/
def exchangeSystem : System Exchange ExchangeOp where
  init x := ∃ config pcfService pcfDestination notificationHandler,
    x = ⟨.create config pcfService pcfDestination notificationHandler, [], [], [], [], [], []⟩
  step x op x' := x.next op = some x'

/-! ## Operations on one session -/

namespace QodSessionManager

variable {m m' m'' : QodSessionManager} {y id p : String}

/-- The available session `id` has the application session `p`. -/
def Holds (m : QodSessionManager) (id p : String) : Prop :=
  ∃ session, m.qod.getSessionById id = some session ∧ session.qosStatus = .available ∧
    session.pcfSessionId = some p

theorem Holds.congr (h : m.Holds id p) (heq : m'.qod.getSessionById id = m.qod.getSessionById id) :
    m'.Holds id p := by
  obtain ⟨session, hs, hstatus, hp⟩ := h
  exact ⟨session, heq.trans hs, hstatus, hp⟩

/-- From `m` to `m'`, at most the session stored under `y` changes or goes. -/
structure Only (y : String) (m m' : QodSessionManager) : Prop where
  other : ∀ id, id ≠ y → m'.qod.getSessionById id = m.qod.getSessionById id
  absent : m.qod.getSessionById y = none → m'.qod.getSessionById y = none
  filed : m'.Filed

theorem Only.of_qod_eq (hm : m.Filed)
    (h : ∀ id, m'.qod.getSessionById id = m.qod.getSessionById id) : Only y m m' where
  other id _ := h id
  absent hy := (h y).trans hy
  filed id session hs := hm id session ((h id).symm.trans hs)

theorem Only.trans (h : Only y m m') (h' : Only y m' m'') : Only y m m'' where
  other id hid := (h'.other id hid).trans (h.other id hid)
  absent hy := h'.absent (h.absent hy)
  filed := h'.filed

/-- A stored session that is there afterwards was there before. -/
theorem Only.isSome (h : Only y m m') {session : QodSession}
    (hs : m'.qod.getSessionById id = some session) : (m.qod.getSessionById id).isSome := by
  by_cases hid : id = y
  · subst hid
    rw [Option.isSome_iff_ne_none]
    intro hnone
    rw [h.absent hnone] at hs
    cases hs
  · rw [← h.other id hid, hs]
    rfl

/-- The session under `y`, if there is one, is changed by `f`. -/
theorem Only.of_map (hm : m.Filed) (f : QodSession → QodSession)
    (hf : ∀ session, session.sessionId = y → (f session).sessionId = y)
    (h : ∀ id, m'.qod.getSessionById id =
      if id = y then (m.qod.getSessionById id).map f else m.qod.getSessionById id) :
    Only y m m' where
  other id hid := (h id).trans (if_neg hid)
  absent hy := by rw [h, if_pos rfl, hy, Option.map_none]
  filed id session hs := by
    rw [h] at hs
    split_ifs at hs with hid
    · obtain ⟨s, hs', rfl⟩ := Option.map_eq_some_iff.1 hs
      rw [hid] at hs' ⊢
      exact hf s (hm y s hs')
    · exact hm id session hs

theorem only_handlePcfSessionResponse (hm : m.Filed) (q p : String) (success : Bool) (e : String)
    (now : ℤ) : Only q m (m.handlePcfSessionResponse q p success e now) :=
  .of_map hm _ (fun _ h => (sessionId_responded ..).trans h)
    (getSessionById_handlePcfSessionResponse hm q p success e now)

theorem only_abandonSession (hm : m.Filed) (y : String) (sink : Option String) :
    Only y m (m.abandonSession y sink).2 :=
  .of_map hm (QodStore.withStatus · .unavailable (some .networkTerminated)) (fun _ h => h)
    (getSessionById_abandonSession y sink)

theorem only_finishDelete (hm : m.Filed) (session : QodSession) (now : ℤ) :
    Only session.sessionId m (m.finishDelete session now).2 := by
  rcases qod_finishDelete (m := m) session now with h | h
  · exact .of_qod_eq hm fun id => by rw [h]
  · refine .of_map hm (fun _ => deleted session now) (fun _ _ => rfl) fun id => ?_
    rw [h, QodStore.getSessionById_updateSession]
    by_cases hid : id = session.sessionId
    · subst hid
      rw [if_pos rfl]
      cases m.qod.getSessionById session.sessionId with
      | none => exact if_neg fun h => nomatch h.2
      | some s => exact if_pos ⟨rfl, rfl⟩
    · rw [if_neg hid]
      exact if_neg fun h => hid h.1

/-- A new session is stored under a free id. -/
theorem filed_storeSession (hm : m.Filed) (session : QodSession) (now : ℤ) :
    (m.storeSession session now).Filed := by
  intro id s hs
  rw [getSessionById_storeSession] at hs
  split_ifs at hs with hid
  · rw [← Option.some.inj hs, hid]
  · exact hm id s hs

/-- A reply that does not tell of a session leaves the sessions alone, or has the one it
    is for fail. -/
theorem applyReply_of_isNegative {reply : Option PcfReply} (h : Exchange.isNegative reply)
    (sessionId : String) (now : ℤ) :
    m.applyReply sessionId reply now = (false, m) ∨
      ∃ e, m.applyReply sessionId reply now =
        (false, m.handlePcfSessionResponse sessionId "" false e now) := by
  rcases reply with _ | ⟨_ | _ | _ | _, payload⟩
  · exact .inl rfl
  · cases h
  · cases h
  · rw [applyReply]
    split
    next e _ _ _ => exact .inr ⟨e, rfl⟩
    next => exact .inl rfl
  · exact .inl rfl

/-- `create_session` and a reply that does not tell of a session. -/
theorem only_createFails (hm : m.Filed) (session : QodSession) {reply : Option PcfReply}
    (hreply : Exchange.isNegative reply) (now : ℤ) :
    Only session.sessionId m
      (concludeSession session (m.applyReply session.sessionId reply now)).2 := by
  rcases applyReply_of_isNegative hreply session.sessionId now with h | ⟨e, h⟩ <;> rw [h]
  · exact only_abandonSession hm ..
  · have hresponse := only_handlePcfSessionResponse hm session.sessionId "" false e now
    exact hresponse.trans (only_abandonSession hresponse.filed ..)

/-- `delete_session` and the reply of the PCF. -/
theorem only_deleteReply (hm : m.Filed) (session : QodSession) (reply : Option PcfReply) (now : ℤ) :
    Only session.sessionId m ((m.removeReply reply).2.finishDelete session now).2 := by
  have hreply : Only session.sessionId m (m.removeReply reply).2 :=
    .of_qod_eq hm (getSessionById_removeReply reply)
  exact hreply.trans (only_finishDelete hreply.filed ..)

end QodSessionManager

/-! ## Live application sessions -/

namespace Exchange

open QodSessionManager

variable {x x' : Exchange} {id p y : String}

/-- No request to the PCF, and no response from it, is in flight. -/
def Quiet (x : Exchange) : Prop := x.flight = []

/-- The session has an application session that is alive. -/
def Engaged (x : Exchange) (id : String) : Prop := ∃ p ∈ x.alive, x.manager.Holds id p

/-- The session is stored and can take the application session `p`: it has no other
    that is alive. -/
def Awaits (x : Exchange) (id p : String) : Prop :=
  (x.manager.qod.getSessionById id).isSome ∧ ∀ p' ∈ x.alive, x.manager.Holds id p' → p' = p

/-- A step leaves the sessions with a live application session what they are, and a
    new application session finds the session it is for. -/
def Careful (x : Exchange) : ExchangeOp → Prop
  | .createReply call p _ => ∀ session ∈ x.creating[call]?, x.Awaits session.sessionId p
  | .lateReply id p _ => x.Awaits id p
  | .createFails call _ _ => ∀ session ∈ x.creating[call]?, ¬x.Engaged session.sessionId
  | .deleteReply call _ _ => ∀ session ∈ x.deleting[call]?, ¬x.Engaged session.sessionId
  | .other (.handlePcfSessionResponse id p true _ _) =>
    ∀ p' ∈ x.alive, x.manager.Holds id p' → p' = p
  | .other (.handlePcfSessionResponse id _ false _ _) => ¬x.Engaged id
  | .other op => ∀ id, x.manager.Removes op id → ¬x.Engaged id
  | _ => True

/-- An available session has the application session, or the reply about it is in
    flight. -/
def Covered (x : Exchange) (p : String) : Prop :=
  (∃ id, x.manager.Holds id p) ∨ ∃ id, .created id p ∈ x.flight

/-- The invariant of careful runs. -/
structure Sound (x : Exchange) : Prop where
  filed : x.manager.Filed
  drawn : ∀ id session, x.manager.qod.getSessionById id = some session → id ∈ x.drawn
  covered : ∀ p ∈ x.alive, x.Covered p

/-- A step that changes the session under `y` at most. -/
theorem Sound.step (h : x.Sound) (y : String)
    (hother : ∀ id, id ≠ y →
      x'.manager.qod.getSessionById id = x.manager.qod.getSessionById id)
    (hfiled : x'.manager.Filed)
    (hdrawn : ∀ id session, x'.manager.qod.getSessionById id = some session → id ∈ x'.drawn)
    (halive : ∀ p ∈ x'.alive, p ∈ x.alive ∨ x'.Covered p)
    (hheld : ∀ p ∈ x'.alive, p ∈ x.alive → x.manager.Holds y p → x'.Covered p)
    (hflight : ∀ id p, .created id p ∈ x.flight → .created id p ∈ x'.flight ∨ x'.Covered p) :
    x'.Sound where
  filed := hfiled
  drawn := hdrawn
  covered p hp := by
    rcases halive p hp with hp' | hcovered
    · rcases h.covered p hp' with ⟨id, hholds⟩ | ⟨id, hid⟩
      · -- Held before: by the session that changes, or by another, which keeps it.
        by_cases hy : id = y
        · exact hheld p hp hp' (hy ▸ hholds)
        · exact .inl ⟨id, hholds.congr (hother id hy)⟩
      · rcases hflight id p hid with hid' | hcovered
        · exact .inr ⟨id, hid'⟩
        · exact hcovered
    · exact hcovered

/-- A step of the manager on one stored session. -/
theorem Sound.only (h : x.Sound) (ho : Only y x.manager x'.manager) (hdrawn : x'.drawn = x.drawn)
    (halive : x'.alive = x.alive)
    (hheld : ∀ p ∈ x.alive, x.manager.Holds y p → x'.Covered p)
    (hflight : ∀ id p, .created id p ∈ x.flight → .created id p ∈ x'.flight ∨ x'.Covered p) :
    x'.Sound := by
  refine h.step y ho.other ho.filed ?_ (fun p hp => .inl (halive ▸ hp)) (fun p _ => hheld p) hflight
  intro id session hs
  obtain ⟨s, hs'⟩ := Option.isSome_iff_exists.1 (ho.isSome hs)
  rw [hdrawn]
  exact h.drawn id s hs'

/-- A step of the PCF, or of the messages. -/
theorem Sound.messages (h : x.Sound) (hqod : x'.manager.qod = x.manager.qod)
    (hdrawn : x'.drawn = x.drawn) (halive : ∀ p ∈ x'.alive, p ∈ x.alive ∨ x'.Covered p)
    (hflight : ∀ id p, .created id p ∈ x.flight → .created id p ∈ x'.flight) : x'.Sound := by
  have hlookup : ∀ id, x'.manager.qod.getSessionById id = x.manager.qod.getSessionById id :=
    fun id => by rw [hqod]
  refine h.step "" (fun id _ => hlookup id) ?_ ?_ halive ?_ fun id p hid => .inl (hflight id p hid)
  · exact fun id session hs => h.filed id session ((hlookup id).symm.trans hs)
  · rw [hdrawn]
    exact fun id session hs => h.drawn id session ((hlookup id).symm.trans hs)
  · exact fun p _ _ hholds => .inl ⟨"", hholds.congr (hlookup "")⟩

/-- A success of the PCF gives the session its application session. -/
theorem holds_handlePcfSessionResponse {m : QodSessionManager} (hm : m.Filed)
    (hid : (m.qod.getSessionById id).isSome) (p e : String) (now : ℤ) :
    (m.handlePcfSessionResponse id p true e now).Holds id p := by
  obtain ⟨session, hs⟩ := Option.isSome_iff_exists.1 hid
  refine ⟨activated session p now, ?_, rfl, rfl⟩
  rw [getSessionById_handlePcfSessionResponse hm, if_pos rfl, hs]
  rfl

/-- A reply with a new application session reaches the session it is for. -/
theorem Sound.reply (h : x.Sound) (hawaits : x.Awaits id p) (now : ℤ)
    (creating : List QodSession) :
    Sound { x with
      manager := x.manager.handlePcfSessionResponse id p true "" now
      flight := x.flight.erase (.created id p)
      creating } := by
  have hholds := holds_handlePcfSessionResponse h.filed hawaits.1 p "" now
  refine h.only (only_handlePcfSessionResponse h.filed ..) rfl rfl ?_ ?_
  · intro p' hp' hold
    rw [hawaits.2 p' hp' hold]
    exact .inl ⟨id, hholds⟩
  · intro id' p' hid'
    by_cases heq : PcfMessage.created id' p' = .created id p
    · cases heq
      exact .inr (.inl ⟨id, hholds⟩)
    · exact .inl ((List.mem_erase_of_ne heq).2 hid')

/-- A step of the manager on a session without a live application session. -/
theorem Sound.disengaged (h : x.Sound) (ho : Only y x.manager x'.manager)
    (hy : ¬x.Engaged y) (hdrawn : x'.drawn = x.drawn) (halive : x'.alive = x.alive)
    (hflight : ∀ id p, .created id p ∈ x.flight → .created id p ∈ x'.flight) : x'.Sound :=
  h.only ho hdrawn halive (fun p hp hholds => absurd ⟨p, hp, hholds⟩ hy)
    fun id p hid => .inl (hflight id p hid)

/-- A session is stored under a new id, and may be changed further. -/
theorem Sound.stored (h : x.Sound) {session : QodSession} (hfresh : session.sessionId ∉ x.drawn)
    (now : ℤ) {m : QodSessionManager}
    (hm : Only session.sessionId (x.manager.storeSession session now) m)
    {flight : List PcfMessage} (hflight : ∀ msg ∈ x.flight, msg ∈ flight)
    (creating : List QodSession) :
    Sound { x with
      manager := m
      drawn := session.sessionId :: x.drawn
      flight
      creating } := by
  have hstore := getSessionById_storeSession (m := x.manager) session now
  refine h.step session.sessionId (fun id hid => ?_) hm.filed (fun id s hs => ?_)
    (fun p hp => .inl hp) (fun p _ _ hholds => ?_) fun id p hid => .inl (hflight _ hid)
  · rw [hm.other id hid, hstore, if_neg hid]
  · by_cases hid : id = session.sessionId
    · exact List.mem_cons.2 (.inl hid)
    · rw [hm.other id hid, hstore, if_neg hid] at hs
      exact List.mem_cons_of_mem _ (h.drawn id s hs)
  · -- The id is new: nothing was stored under it.
    obtain ⟨s, hs, -⟩ := hholds
    exact absurd (h.drawn _ s hs) hfresh

theorem Sound.createSession (h : x.Sound) {request : CreateSessionRequest} {sessionId : String}
    {now : ℤ} (hnext : x.next (.createSession request sessionId now) = some x') : x'.Sound := by
  simp only [next] at hnext
  split_ifs at hnext with hfresh
  split at hnext
  next session hprepared =>
    obtain rfl : session.sessionId = sessionId := (prepared hprepared).1
    have hfiled := filed_storeSession h.filed session now
    split_ifs at hnext
    · cases hnext
      have hsend : Only session.sessionId (x.manager.storeSession session now)
          ((x.manager.storeSession session now).send (.createQodSession session)) :=
        .of_qod_eq hfiled fun _ => rfl
      exact h.stored hfresh now hsend (fun _ => List.mem_cons_of_mem _) _
    · cases hnext
      exact h.stored hfresh now (only_abandonSession hfiled ..) (fun _ => id) _
  next =>
    cases hnext
    exact h

theorem Sound.deleteSession (h : x.Sound) {sessionId consumer : String} {now : ℤ}
    (hnext : x.next (.deleteSession sessionId consumer now) = some x') : x'.Sound := by
  simp only [next] at hnext
  split at hnext
  next =>
    cases hnext
    exact h
  next session hrequest =>
    obtain ⟨hs, -⟩ := Option.filter_eq_some_iff.1 hrequest
    have hid := h.filed _ _ hs
    split at hnext
    next hnone =>
      -- A session that holds an application session asks the PCF.
      have hdisengaged : ¬x.Engaged session.sessionId := by
        rintro ⟨p, -, s, hs', hstatus, hp⟩
        rw [hid, hs, Option.some.injEq] at hs'
        subst hs'
        rw [pcfSessionOf, if_pos hstatus, hp] at hnone
        cases hnone
      cases hnext
      exact h.disengaged (only_finishDelete h.filed ..) hdisengaged rfl rfl fun _ _ => id
    next p _ =>
      split_ifs at hnext
      · cases hnext
        exact h.messages rfl rfl (fun _ => .inl) fun _ _ => List.mem_cons_of_mem _
      · cases hnext
        exact h

/-- A careful local operation keeps what a live application session is held by. -/
theorem Sound.other (h : x.Sound) {op : QodOp} (hop : x.Careful (.other op))
    (hnext : x.next (.other op) = some x') : x'.Sound := by
  simp only [next] at hnext
  split_ifs at hnext with hlocal
  obtain ⟨m, hm, rfl⟩ := Option.map_eq_some_iff.1 hnext
  refine ⟨h.filed.next hm, ?_, ?_⟩
  · refine stored_next h.filed hm h.drawn fun id session hwrite => ?_
    cases hwrite with
    | requested | started | abandoned | rejected | deleted => cases hlocal
    | extended hs => exact h.drawn _ _ hs
    | activated hs => exact h.drawn _ _ hs
    | failed hs => exact h.drawn _ _ hs
  · intro p hp
    rcases h.covered p hp with ⟨id, hholds⟩ | hflight
    · -- The session that holds it is kept, taken away or written.
      have hengaged : x.Engaged id := ⟨p, hp, hholds⟩
      have ⟨session, hs, hstatus, hpcf⟩ := hholds
      rcases lookup_next h.filed hm id with hkept | ⟨-, hremoves⟩ | ⟨session', hs', hwrite⟩
      · exact .inl ⟨id, hholds.congr hkept⟩
      · cases hremoves with
        | told | stopped => cases hlocal
        | terminated hmapped => exact absurd hengaged (hop _ (.terminated hmapped))
        | pduTerminated hfound => exact absurd hengaged (hop _ (.pduTerminated hfound))
        | expired hexpired => exact absurd hengaged (hop _ (.expired hexpired))
      · cases hwrite with
        | requested | started | abandoned | rejected | deleted => cases hlocal
        | extended hs₀ =>
          rw [hs, Option.some.injEq] at hs₀
          subst hs₀
          exact .inl ⟨id, _, hs', hstatus, hpcf⟩
        | activated hs₀ =>
          rw [hop p hp hholds]
          exact .inl ⟨id, _, hs', rfl, rfl⟩
        | failed hs₀ => exact absurd hengaged hop
    · exact .inr hflight

/-- Every careful step keeps the invariant. -/
theorem Sound.next (h : x.Sound) {op : ExchangeOp} (hop : x.Careful op)
    (hnext : x.next op = some x') : x'.Sound := by
  -- What a message in flight is not, is not taken from it.
  have hkeep : ∀ msg : PcfMessage, (∀ id p, msg ≠ .created id p) → ∀ id p,
      .created id p ∈ x.flight → .created id p ∈ x.flight.erase msg :=
    fun msg hmsg id p hid => (List.mem_erase_of_ne (hmsg id p).symm).2 hid
  cases op with
  | createSession request sessionId now => exact h.createSession hnext
  | createReply call p now =>
    obtain ⟨session, hcall, hnext⟩ := Option.bind_eq_some_iff.1 hnext
    split_ifs at hnext
    cases hnext
    exact h.reply (hop session hcall) now _
  | createFails call reply now =>
    obtain ⟨session, hcall, hnext⟩ := Option.bind_eq_some_iff.1 hnext
    split_ifs at hnext with hreply
    cases hnext
    exact h.disengaged (only_createFails h.filed session hreply now) (hop session hcall) rfl rfl
      fun _ _ => id
  | deleteSession sessionId consumer now => exact h.deleteSession hnext
  | deleteReply call p now =>
    obtain ⟨session, hcall, hnext⟩ := Option.bind_eq_some_iff.1 hnext
    split_ifs at hnext
    cases hnext
    exact h.disengaged (only_deleteReply h.filed ..) (hop session hcall) rfl rfl
      (hkeep (.removed p) nofun)
  | deleteFails call =>
    cases hnext
    exact h.messages rfl rfl (fun _ => .inl) fun _ _ => id
  | lateReply id p now =>
    simp only [Exchange.next] at hnext
    split_ifs at hnext
    cases hnext
    exact h.reply hop now _
  | lateRemoval p =>
    simp only [Exchange.next] at hnext
    split_ifs at hnext
    cases hnext
    exact h.messages rfl rfl (fun _ => .inl) (hkeep _ nofun)
  | pcfCreates id p =>
    simp only [Exchange.next] at hnext
    split_ifs at hnext
    cases hnext
    refine h.messages rfl rfl (fun p' hp' => ?_) fun id' p' hid' =>
      List.mem_cons_of_mem _ (hkeep (.createRequest id) nofun id' p' hid')
    -- The new application session is covered by the reply about it.
    rcases List.mem_cons.1 hp' with rfl | hp'
    · exact .inr (.inr ⟨id, List.mem_cons_self⟩)
    · exact .inl hp'
  | pcfRefuses id =>
    simp only [Exchange.next] at hnext
    split_ifs at hnext
    cases hnext
    exact h.messages rfl rfl (fun _ => .inl) (hkeep _ nofun)
  | pcfRemoves p =>
    simp only [Exchange.next] at hnext
    split_ifs at hnext
    cases hnext
    exact h.messages rfl rfl (fun p' hp' => .inl (List.mem_filter.1 hp').1) fun id' p' hid' =>
      List.mem_cons_of_mem _ (hkeep (.deleteRequest p) nofun id' p' hid')
  | pcfEnds p =>
    cases hnext
    exact h.messages rfl rfl (fun p' hp' => .inl (List.mem_filter.1 hp').1) fun _ _ => id
  | other op => exact h.other hop hnext

theorem sound_of_reachable (hx : (exchangeSystem.restrict Careful).Reachable x) : x.Sound := by
  refine System.Reachable.invariant ?_ (fun x op x' _ h hstep => h.next hstep.1 hstep.2) hx
  rintro x ⟨config, pcfService, pcfDestination, notificationHandler, rfl⟩
  have hnone : ∀ id session, (QodSessionManager.create config pcfService pcfDestination
      notificationHandler).qod.getSessionById id ≠ some session := fun _ _ h => nomatch h
  refine ⟨fun id session hs => absurd hs (hnone id session),
    fun id session hs => absurd hs (hnone id session), fun p hp => ?_⟩
  cases hp

/-- In every careful run, when no message is in flight, every application session that
    is alive at the PCF is the one of an available session. -/
theorem held_of_reachable (hx : (exchangeSystem.restrict Careful).Reachable x) (hquiet : x.Quiet) :
    ∀ p ∈ x.alive, ∃ id session, x.manager.qod.getSessionById id = some session ∧
      session.qosStatus = .available ∧ session.pcfSessionId = some p := by
  intro p hp
  rcases (sound_of_reachable hx).covered p hp with hholds | ⟨id, hid⟩
  · exact hholds
  · rw [hquiet] at hid
    cases hid

/-- An exchange with the default configuration and a PCF handler. -/
def initial : Exchange := ⟨.create {} true "pcf" true, [], [], [], [], [], []⟩

/-- A session is requested, created at the PCF, and told of it. -/
def startRun : List ExchangeOp :=
  [.createSession (QodRun.phoneSession "consumer") "session-1" 0, .pcfCreates "session-1" "pcf-1",
    .createReply 0 "pcf-1" 1]

/-- It holds the application session. -/
theorem held_after_startRun : ∃ x : Exchange, (exchangeSystem.restrict Careful).Reachable x ∧
    x.Quiet ∧ x.alive = ["pcf-1"] ∧
    ∃ id session, x.manager.qod.getSessionById id = some session ∧
      session.qosStatus = .available ∧ session.pcfSessionId = some "pcf-1" := by
  have h₀ : (exchangeSystem.restrict Careful).Reachable initial := .init ⟨_, _, _, _, rfl⟩
  have h₁ := h₀.step (a := startRun[0]) ⟨trivial, rfl⟩
  have h₂ := h₁.step (a := startRun[1]) ⟨trivial, rfl⟩
  have h₃ := h₂.step (a := startRun[2]) ⟨?_, rfl⟩
  · exact ⟨_, h₃, rfl, rfl, held_of_reachable h₃ rfl "pcf-1" (List.mem_singleton_self _)⟩
  · rintro session ⟨⟩
    exact ⟨rfl, fun p hp _ => List.mem_singleton.1 hp⟩

/-- The session expires, and is cleaned up after the grace period. -/
theorem orphaned_after_cleanup : ∃ x : Exchange, exchangeSystem.Reachable x ∧ x.Quiet ∧
    "pcf-1" ∈ x.alive ∧ ∀ id, x.manager.qod.getSessionById id = none := by
  have h₀ : exchangeSystem.Reachable initial := .init ⟨_, _, _, _, rfl⟩
  have h₁ := h₀.step (a := startRun[0]) rfl
  have h₂ := h₁.step (a := startRun[1]) rfl
  have h₃ := h₂.step (a := startRun[2]) rfl
  have h₄ := h₃.step (a := ExchangeOp.other (.cleanupExpiredSessions (after 1 961))) rfl
  exact ⟨_, h₄, rfl, List.mem_singleton_self _, fun _ => rfl⟩

end Exchange

end PhineAf

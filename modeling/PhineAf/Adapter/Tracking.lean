import PhineAf.Adapter.SessionManager

/-!
# What the session manager tracks

A session is live from its creation to its deletion, as far as the client's answers tell.
The manager has the ids of the live sessions, and no others, after every round of its loops
(`SessionManager.tracks_of_reachable`). A session it has lost would never be released.

Every round makes at most one call of the client, and does to the ids in the map what the
call does to the live sessions (`ClientCall.effect`).
-/

namespace PhineAf.Adapter

/-! ## Live sessions -/

/-- The client has created a session, and has not deleted it later. -/
def Live (calls : List ClientCall) (id : String) : Prop :=
  ∃ later earlier request info, calls = later ++ .createSession request (.ok info) :: earlier ∧
    info.sessionId = id ∧ .deleteSession id (.ok ()) ∉ later

/-- Whether a session is there after a call, if it is or is not before. -/
def ClientCall.effect (c : ClientCall) (id : String) (before : Prop) : Prop :=
  match c with
  | .createSession _ (.ok info) => id = info.sessionId ∨ before
  | .deleteSession sessionId (.ok _) => id ≠ sessionId ∧ before
  | _ => before

variable {c : ClientCall} {calls : List ClientCall} {id : String}

theorem Live.cons (h : Live calls id) (hc : c ≠ .deleteSession id (.ok ())) :
    Live (c :: calls) id := by
  obtain ⟨later, earlier, request, info, rfl, hid, hlater⟩ := h
  refine ⟨c :: later, earlier, request, info, rfl, hid, fun hmem => ?_⟩
  rcases List.mem_cons.1 hmem with heq | hmem
  · exact hc heq.symm
  · exact hlater hmem

theorem ClientCall.effect_of_ne {before : Prop} (hc : c ≠ .deleteSession id (.ok ()))
    (h : before) : c.effect id before := by
  rcases c with ⟨_, _ | _⟩ | ⟨_, _⟩ | ⟨sessionId, _ | _⟩
  case deleteSession.ok => exact ⟨fun heq => hc (by rw [heq]), h⟩
  case createSession.ok => exact .inr h
  all_goals exact h

theorem live_cons_iff : Live (c :: calls) id ↔ c.effect id (Live calls id) := by
  constructor
  · rintro ⟨_ | ⟨d, later⟩, earlier, request, info, heq, hid, hlater⟩
    · obtain ⟨rfl, -⟩ := List.cons.inj heq
      exact .inl hid.symm
    · obtain ⟨rfl, rfl⟩ := List.cons.inj heq
      rw [List.mem_cons, not_or] at hlater
      exact ClientCall.effect_of_ne (Ne.symm hlater.1)
        ⟨later, earlier, request, info, rfl, hid, hlater.2⟩
  · intro h
    rcases c with ⟨request, info | _⟩ | ⟨_, _⟩ | ⟨sessionId, _ | _⟩
    case createSession.ok =>
      rcases h with rfl | h
      · exact ⟨[], calls, request, info, rfl, rfl, List.not_mem_nil⟩
      · exact Live.cons h (by simp)
    case deleteSession.ok =>
      refine Live.cons h.2 fun heq => h.1 ?_
      rw [ClientCall.deleteSession.injEq] at heq
      exact heq.1.symm
    all_goals exact Live.cons h (by simp)

namespace SessionManager

variable {client : IQodClient} {s s' : SessionManager}

/-- The ids in the map are those of the live sessions. -/
def Tracks (s : SessionManager) : Prop := ∀ id, id ∈ s.sessions ↔ Live s.calls id

/-! ## Rounds -/

/-- A call of the client, and what it does to the ids. -/
def Served (c : ClientCall) (s s' : SessionManager) : Prop :=
  s'.calls = c :: s.calls ∧ ∀ id, id ∈ s'.sessions ↔ c.effect id (id ∈ s.sessions)

theorem Served.tracks {c : ClientCall} (h : Served c s s') (hs : s.Tracks) : s'.Tracks := by
  intro id
  rw [h.1, h.2, live_cons_iff, propext (hs id)]

/-- A session that is replaced is there as before. -/
theorem mem_insert_of_lookup {sessions : Table String TrackedSession} {id : String}
    {tracked : TrackedSession} (h : sessions.lookup id = some tracked) (tracked' : TrackedSession)
    (id' : String) : id' ∈ sessions.insert id tracked' ↔ id' ∈ sessions := by
  have hmem : id ∈ sessions := AList.lookup_isSome.1 (Option.isSome_of_mem h)
  rw [AList.mem_insert]
  exact or_iff_right_of_imp fun heq => heq ▸ hmem

theorem served_requestQosForStream (stream : StreamConfig) :
    Served (.createSession (requestOf stream) (client.createSession s.calls (requestOf stream))) s
      (s.requestQosForStream client stream).2 := by
  rw [requestQosForStream]
  dsimp only
  rcases client.createSession s.calls (requestOf stream) with info | ⟨code, message⟩
  · exact ⟨rfl, fun id => AList.mem_insert _⟩
  · exact ⟨rfl, fun id => Iff.rfl⟩

theorem served_getSessionStatus (sessionId : String) :
    Served (.getSession sessionId (client.getSession s.calls sessionId)) s
      (s.getSessionStatus client sessionId).2 := by
  rw [getSessionStatus]
  rcases client.getSession s.calls sessionId with info | ⟨code, message⟩
  · simp only [sessions_call]
    split
    next => exact ⟨rfl, fun id => Iff.rfl⟩
    next tracked htracked => exact ⟨rfl, mem_insert_of_lookup htracked _⟩
  · exact ⟨rfl, fun id => Iff.rfl⟩

theorem served_monitorOne (sessionId : String) :
    s.monitorOne client sessionId = s ∨
      Served (.getSession sessionId (client.getSession s.calls sessionId)) s
        (s.monitorOne client sessionId) := by
  rcases hlookup : s.sessions.lookup sessionId with _ | tracked
  · exact .inl (by rw [monitorOne, hlookup])
  · rw [monitorOne, hlookup]
    dsimp only
    rcases client.getSession s.calls sessionId with info | ⟨code, message⟩
    · exact .inr ⟨rfl, mem_insert_of_lookup hlookup _⟩
    · exact .inr ⟨rfl, fun id => Iff.rfl⟩

theorem served_deleteSession (sessionId : String) :
    Served (.deleteSession sessionId (client.deleteSession s.calls sessionId)) s
      (s.deleteSession client sessionId).2 := by
  rw [deleteSession]
  rcases client.deleteSession s.calls sessionId with _ | ⟨code, message⟩
  · exact ⟨rfl, fun id => AList.mem_erase⟩
  · exact ⟨rfl, fun id => Iff.rfl⟩

/-- The streams and the information of the sessions that are left are the same. -/
def KeepsInfo (s s' : SessionManager) : Prop :=
  ∀ id tracked', s'.sessions.lookup id = some tracked' → ∃ tracked,
    s.sessions.lookup id = some tracked ∧ tracked'.stream = tracked.stream ∧
      tracked'.sessionInfo = tracked.sessionInfo

theorem KeepsInfo.refl (s : SessionManager) : KeepsInfo s s := fun _ _ h => ⟨_, h, rfl, rfl⟩

theorem KeepsInfo.trans {s₁ : SessionManager} (h : KeepsInfo s s₁) (h' : KeepsInfo s₁ s') :
    KeepsInfo s s' := by
  intro id tracked' hlookup
  obtain ⟨tracked₁, hlookup, hstream, hinfo⟩ := h' id tracked' hlookup
  obtain ⟨tracked, hlookup, hstream', hinfo'⟩ := h id tracked₁ hlookup
  exact ⟨tracked, hlookup, hstream.trans hstream', hinfo.trans hinfo'⟩

theorem served_cleanupOne {sessionId : String} (h : sessionId ∈ s.sessions) :
    Served (.deleteSession sessionId (client.deleteSession s.calls sessionId)) s
      (s.cleanupOne client sessionId) ∧ KeepsInfo s (s.cleanupOne client sessionId) := by
  obtain ⟨tracked, htracked⟩ := Option.isSome_iff_exists.1 (AList.lookup_isSome.2 h)
  rw [cleanupOne, htracked]
  dsimp only
  rcases client.deleteSession s.calls sessionId with _ | ⟨code, message⟩
  · refine ⟨⟨rfl, fun id => AList.mem_erase⟩, fun id tracked' hlookup => ?_⟩
    rw [sessions_call, Table.lookup_erase_eq] at hlookup
    split_ifs at hlookup
    exact ⟨tracked', hlookup, rfl, rfl⟩
  · refine ⟨⟨rfl, mem_insert_of_lookup htracked _⟩, fun id tracked' hlookup => ?_⟩
    rw [sessions_call, Table.lookup_insert_eq] at hlookup
    split_ifs at hlookup with hid
    · obtain rfl := Option.some.inj hlookup
      exact ⟨tracked, hid ▸ htracked, rfl, rfl⟩
    · exact ⟨tracked', hlookup, rfl, rfl⟩

/-- A session that is not there is passed over. -/
theorem cleanupOne_of_notMem {sessionId : String} (h : sessionId ∉ s.sessions) :
    s.cleanupOne client sessionId = s := by
  rw [cleanupOne, AList.lookup_eq_none.2 h]

/-! ## Loops -/

theorem tracks_createOne (hs : s.Tracks) (stream : StreamConfig) :
    (s.createOne client stream).Tracks :=
  (served_requestQosForStream stream).tracks hs

theorem tracks_monitorOne (hs : s.Tracks) (sessionId : String) :
    (s.monitorOne client sessionId).Tracks := by
  rcases @served_monitorOne client s sessionId with heq | hserved
  · exact heq.symm ▸ hs
  · exact hserved.tracks hs

theorem tracks_cleanupOne (hs : s.Tracks) (sessionId : String) :
    (s.cleanupOne client sessionId).Tracks := by
  by_cases hmem : sessionId ∈ s.sessions
  · exact (served_cleanupOne hmem).1.tracks hs
  · rw [cleanupOne_of_notMem hmem]
    exact hs

/-- What the rounds of a loop keep holds after each. -/
theorem forall_mem_scanl {α : Type} {P : SessionManager → Prop}
    {f : SessionManager → α → SessionManager} (hf : ∀ s, P s → ∀ a, P (f s a)) (hs : P s)
    (l : List α) : ∀ p ∈ l.scanl f s, P p := by
  induction l generalizing s with
  | nil =>
    rw [List.scanl_nil, List.forall_mem_singleton]
    exact hs
  | cons a l ih =>
    rw [List.scanl_cons, List.forall_mem_cons]
    exact ⟨hs, ih (hf s hs a)⟩

theorem foldl_mem_scanl {α : Type} (f : SessionManager → α → SessionManager) (l : List α) :
    l.foldl f s ∈ l.scanl f s := by
  induction l generalizing s with
  | nil => simp
  | cons a l ih =>
    rw [List.foldl_cons, List.scanl_cons]
    exact List.mem_cons_of_mem _ ih

/-- A call ends at its last point. -/
theorem next_mem_points (op : SessionOp) : s.next client op ∈ s.points client op := by
  rcases op with stream | streams | sessionId | _ | sessionId | _
  case createAllSessions => exact foldl_mem_scanl _ _
  case monitorSessions => exact foldl_mem_scanl _ _
  case cleanupAllSessions => exact foldl_mem_scanl _ _
  all_goals exact List.mem_cons_of_mem _ List.mem_cons_self

theorem tracks_points (hs : s.Tracks) (op : SessionOp) : ∀ p ∈ s.points client op, p.Tracks := by
  rcases op with stream | streams | sessionId | _ | sessionId | _
  case createAllSessions => exact forall_mem_scanl (fun _ => tracks_createOne) hs _
  case monitorSessions => exact forall_mem_scanl (fun _ => tracks_monitorOne) hs _
  case cleanupAllSessions => exact forall_mem_scanl (fun _ => tracks_cleanupOne) hs _
  all_goals refine List.forall_mem_cons.2 ⟨hs, List.forall_mem_singleton.2 ?_⟩
  case requestQosForStream => exact (served_requestQosForStream stream).tracks hs
  case getSessionStatus => exact (served_getSessionStatus sessionId).tracks hs
  case deleteSession => exact (served_deleteSession sessionId).tracks hs

/-- Asking for the state of the sessions keeps the ids. -/
theorem mem_monitorSessions (id : String) :
    id ∈ (s.monitorSessions client).sessions ↔ id ∈ s.sessions := by
  rw [monitorSessions]
  generalize s.ids = l
  induction l generalizing s with
  | nil => rfl
  | cons sessionId l ih =>
    rw [List.foldl_cons, ih]
    rcases @served_monitorOne client s sessionId with heq | hserved
    · rw [heq]
    · exact hserved.2 id

/-! ## Cleaning up -/

/-- Some sessions have been deleted, or not: the ids, with the results, latest first. -/
structure Cleaned (l : List String) (s s' : SessionManager)
    (made : List (String × Result Unit)) : Prop where
  calls : s'.calls = made.map (fun d => .deleteSession d.1 d.2) ++ s.calls
  ids : made.map Prod.fst = l.reverse
  mem_iff : ∀ id, id ∈ s'.sessions ↔
    (id ∈ s.sessions ∧ id ∉ l) ∨ ∃ code message, (id, .error code message) ∈ made
  keepsInfo : KeepsInfo s s'

theorem exists_error_append (made : List (String × Result Unit)) (id sessionId : String)
    (r : Result Unit) :
    (∃ code message, (id, .error code message) ∈ made ++ [(sessionId, r)]) ↔
      (∃ code message, (id, .error code message) ∈ made) ∨
        id = sessionId ∧ ∃ code message, r = .error code message := by
  simp only [List.mem_append, List.mem_singleton, Prod.mk.injEq, exists_or, exists_and_left,
    eq_comm (b := r)]

theorem cleaned_foldl {l : List String} (hl : l.Nodup) (hs : ∀ id ∈ l, id ∈ s.sessions) :
    ∃ made, Cleaned l s (l.foldl (cleanupOne client) s) made := by
  induction l generalizing s with
  | nil => exact ⟨[], rfl, rfl, fun id => by simp, .refl s⟩
  | cons sessionId l ih =>
    obtain ⟨hnotMem, hl⟩ := List.nodup_cons.1 hl
    obtain ⟨hmem, hrest⟩ := List.forall_mem_cons.1 hs
    obtain ⟨⟨hcalls, hsessions⟩, hkeeps⟩ := @served_cleanupOne client s sessionId hmem
    have hothers : ∀ id ∈ l, id ∈ (s.cleanupOne client sessionId).sessions := by
      intro id hid
      refine (hsessions id).2 (ClientCall.effect_of_ne ?_ (hrest id hid))
      rintro heq
      obtain ⟨rfl, -⟩ := ClientCall.deleteSession.inj heq
      exact hnotMem hid
    obtain ⟨made, hmade⟩ := ih hl hothers
    refine ⟨made ++ [(sessionId, client.deleteSession s.calls sessionId)], ?_, ?_, fun id => ?_,
      hkeeps.trans hmade.keepsInfo⟩
    · rw [List.foldl_cons, hmade.calls, hcalls, List.map_append, List.append_assoc]
      rfl
    · rw [List.map_append, hmade.ids, List.reverse_cons]
      rfl
    · rw [List.foldl_cons, hmade.mem_iff, hsessions, exists_error_append]
      rcases client.deleteSession s.calls sessionId with _ | ⟨code, message⟩
      · simp only [ClientCall.effect, List.mem_cons, not_or, reduceCtorEq, exists_false, and_false,
          or_false]
        tauto
      · by_cases heq : id = sessionId
        · subst heq
          simp [ClientCall.effect, hmem, hnotMem]
        · simp [ClientCall.effect, heq]

/-- The sessions have been deleted, once each, and are left where this has failed. -/
structure CleanedUp (s s' : SessionManager) (made : List (String × Result Unit)) : Prop where
  calls : s'.calls = made.map (fun d => .deleteSession d.1 d.2) ++ s.calls
  once : (made.map Prod.fst).Perm s.sessions.keys
  mem_iff : ∀ id, id ∈ s'.sessions ↔ ∃ code message, (id, .error code message) ∈ made
  keepsInfo : KeepsInfo s s'

theorem mem_ids {id : String} : id ∈ s.ids ↔ id ∈ s.sessions := by
  rw [ids, List.mem_insertionSort, AList.mem_keys]

theorem cleanedUp_cleanupAllSessions :
    ∃ made, CleanedUp s (s.cleanupAllSessions client) made := by
  have hperm : s.ids.Perm s.sessions.keys := List.perm_insertionSort _ _
  obtain ⟨made, hmade⟩ := @cleaned_foldl client s _ (hperm.nodup_iff.2 s.sessions.keys_nodup)
    fun id => mem_ids.1
  refine ⟨made, hmade.calls, ?_, fun id => ?_, hmade.keepsInfo⟩
  · rw [hmade.ids]
    exact (List.reverse_perm _).trans hperm
  · rw [cleanupAllSessions, hmade.mem_iff, mem_ids]
    simp

/-! ## Runs -/

/-- In every run, the ids in the map are those of the live sessions, after every round of a
    loop. A clean-up deletes every session once, and leaves those it has failed to delete.
    Monitoring, and asking for a state, keep the ids. -/
theorem tracks_of_reachable (client : IQodClient) {s : SessionManager}
    (h : (sessionSystem client).Reachable s) :
    (s.Tracks ∧ ∀ op, ∀ p ∈ s.points client op, p.Tracks) ∧
      (∃ made, CleanedUp s (s.cleanupAllSessions client) made) ∧
      (∀ id, id ∈ (s.monitorSessions client).sessions ↔ id ∈ s.sessions) ∧
      ∀ sessionId id, id ∈ (s.getSessionStatus client sessionId).2.sessions ↔ id ∈ s.sessions := by
  have htracks : s.Tracks := by
    refine h.invariant ?_ ?_
    · rintro s rfl id
      refine iff_of_false (AList.notMem_empty id) ?_
      rintro ⟨_ | _, _, _, _, heq, -⟩ <;> cases heq
    · rintro s op s' - hs rfl
      exact tracks_points hs op _ (next_mem_points op)
  exact ⟨⟨htracks, tracks_points htracks⟩, cleanedUp_cleanupAllSessions, mem_monitorSessions,
    fun sessionId => (served_getSessionStatus sessionId).2⟩

/-- A client that fails to delete the second session. -/
def failingClient : IQodClient where
  createSession calls _ := .ok { sessionId := if calls.isEmpty then "s1" else "s2" }
  getSession _ sessionId := .ok { sessionId }
  deleteSession _ sessionId :=
    if sessionId = "s2" then .error "INTERNAL" "server error" else .ok ()
  now _ := 0

def videoStream : StreamConfig where
  name := "video"
  device := { ipv4Address := some { publicAddress := "203.0.113.7" } }
  appServer := ⟨"198.51.100.5"⟩
  qosProfile := "QOS_L"

/-- The first session is released, the second is tracked further. -/
theorem cleanup_partial : ∃ s : SessionManager, (sessionSystem failingClient).Reachable s ∧
    s.ids = ["s1", "s2"] ∧ (s.cleanupAllSessions failingClient).ids = ["s2"] ∧ s.Tracks ∧
    ∃ made, CleanedUp s (s.cleanupAllSessions failingClient) made := by
  have h : (sessionSystem failingClient).Reachable
      (SessionManager.empty.next failingClient (.createAllSessions [videoStream, videoStream])) :=
    .step (.init rfl) rfl
  have hall := tracks_of_reachable failingClient h
  exact ⟨_, h, by decide, by decide, hall.1.1, hall.2.1⟩

end SessionManager

end PhineAf.Adapter

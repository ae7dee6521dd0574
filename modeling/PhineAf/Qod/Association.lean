import PhineAf.Qod.PcfMapping
import PhineAf.Ue.Association

/-!
# The associations of QoD sessions with UEs

A QoD session is associated with the PDU session of its UE, in the UE store, when it is
stored and when the PCF starts it; the paths that end it are to take the association
away. No association is to stay behind (`QodSessionManager.NoStale`): every associated id
is that of a stored session that is not unavailable.

Most paths that end a session leave its association where it is: a creation that fails,
a failure the PCF reports, the end of the PDU session, the clean-up and the stop. The two
that take it away look for it under the key of the session as it is then.
`QodRun.Detaches` says that an operation leaves none behind, and the runs of such
operations have no stale association (`QodRun.noStale_of_reachable`).
-/

namespace PhineAf

namespace QodSessionManager

open AfUeSubscriptionState UeStore

variable {m m' : QodSessionManager} {session : QodSession} {ue ue' : UeStore}

/-! ## What an operation does to the UE store -/

/-- A new session is put on a PDU session: it has one, an address, and a key. -/
def Attached (session : QodSession) : Prop :=
  session.pduSessionId.isSome ∧
    session.device.any (fun d => d.ipv4Address.isSome || d.ipv6Address.isSome) ∧
    ∃ key, createOrGetUeKey session = .ok (some key)

/-- The state handed to the UE store has no PDU session yet. -/
theorem pduSessions_initialUeState {device : QodDevice} {key : UeKey} {now : ℤ}
    {st : AfUeSubscriptionState} (h : initialUeState session device key now = .ok st) :
    st.pduSessions = [] := by
  have hadd : ∀ (st : AfUeSubscriptionState) (type : KnownType) (value : String),
      (st.addKnownIdentifier now type value).2.pduSessions = st.pduSessions :=
    fun st type value => (agree_addKnownIdentifier now type value).pduSessions
  have hofSupi : ∀ (supi : Supi) (st : AfUeSubscriptionState),
      AfUeSubscriptionState.ofSupi supi now = .ok st → st.pduSessions = [] := by
    intro supi st hst
    rw [AfUeSubscriptionState.ofSupi] at hst
    simp only [bind, Except.bind] at hst
    split at hst
    · cases hst
    · cases hst
      rfl
  rw [initialUeState] at h
  simp only [bind, Except.bind] at h
  split at h
  · cases h
  next st₀ hst₀ =>
    have hnil : st₀.pduSessions = [] := by
      cases hsupi : session.ueSupi with
      | none =>
        rw [hsupi] at hst₀
        cases hst₀
        rfl
      | some supi =>
        rw [hsupi] at hst₀
        exact hofSupi supi st₀ hst₀
    cases h
    have hgpsi : ∀ (st : AfUeSubscriptionState) (gpsi : Gpsi),
        (st.setGpsi now gpsi).pduSessions = st.pduSessions := fun _ _ => rfl
    rcases device.ipv4Address with _ | ⟨publicAddress, _ | privateAddress⟩ <;>
      cases device.phoneNumber <;> cases device.ipv6Address <;>
      simp only [Option.elim_none, Option.elim_some, hadd, hgpsi, hnil]

/-- The state of a session with a key can be made. -/
theorem exists_initialUeState {device : QodDevice} {key : UeKey} (now : ℤ)
    (hdevice : session.device = some device) (hkey : createOrGetUeKey session = .ok (some key)) :
    ∃ st, initialUeState session device key now = .ok st := by
  rw [initialUeState]
  cases hsupi : session.ueSupi with
  | none => exact ⟨_, rfl⟩
  | some supi =>
    rw [createOrGetUeKey, hdevice, hsupi] at hkey
    dsimp only at hkey
    rw [Option.elim_some, AfUeSubscriptionState.ofSupi]
    cases hfrom : UeKey.fromSupi supi with
    | error e =>
      rw [hfrom] at hkey
      cases hkey
    | ok supiKey => exact ⟨_, rfl⟩

/-- What is on the PDU sessions when a new session is put on one. -/
theorem every_createOrUpdateUeState {P : List String → Prop} (session : QodSession) (now : ℤ)
    (hue : ue.Every P) (hnew : Attached session → P [session.sessionId]) :
    (createOrUpdateUeState session now ue).Every P := by
  rw [createOrUpdateUeState]
  split
  next device key hdevice hkey =>
    split
    next st hst =>
      -- The state of the UE brings no PDU session of its own.
      have hprovisional : (ue.createOrUpdateProvisionalUeState key (some st) now).Every P := by
        refine hue.createOrUpdateProvisional fun data hdata => ?_
        rw [← Option.some.inj hdata, pduSessions_initialUeState hst]
        exact List.forall_mem_nil _
      dsimp only
      split
      next pduSessionId hpdu =>
        split_ifs with haddress
        · refine hprovisional.addOrUpdatePduSession (hnew ⟨?_, ?_, key, hkey⟩)
          · rw [hpdu]
            rfl
          · rw [hdevice]
            exact haddress
        · exact hprovisional
      next => exact hprovisional
    next => exact hue
  next => exact hue

/-- A new session is associated exactly if it is put on a PDU session, and no other is. -/
theorem associated_createOrUpdateUeState (session : QodSession) (now : ℤ) (ue : UeStore) :
    (createOrUpdateUeState session now ue).associated ⊆ ue.associated ++ [session.sessionId] ∧
      (Attached session →
        session.sessionId ∈ (createOrUpdateUeState session now ue).associated) ∧
      (¬Attached session →
        (createOrUpdateUeState session now ue).associated ⊆ ue.associated) := by
  have hkept : ue.associated ⊆ ue.associated := List.Subset.refl _
  have hadded : ue.associated ⊆ ue.associated ++ [session.sessionId] :=
    List.subset_append_left _ _
  refine ⟨?_, fun hattached => ?_, fun h => ?_⟩
  · exact associated_subset_iff.2 (every_createOrUpdateUeState session now
      (associated_subset_iff.1 hadded) fun _ => List.subset_append_right _ _)
  · obtain ⟨hpdu, hdevice, key, hkey⟩ := hattached
    obtain ⟨device, hdevice, haddress⟩ := (Option.any_eq_true ..).1 hdevice
    obtain ⟨st, hst⟩ := exists_initialUeState now hdevice hkey
    obtain ⟨pduSessionId, hpdu⟩ := Option.isSome_iff_exists.1 hpdu
    have hstored : ((ue.createOrUpdateProvisionalUeState key (some st) now).states.lookup
        key.getPrimaryKey).isSome := by
      rw [createOrUpdateProvisionalUeState]
      split <;> simp [put, addUeIndices]
    simp only [createOrUpdateUeState, hdevice, hkey, hst, hpdu, haddress, if_true]
    exact subset_associated_addOrUpdatePduSession _ now hstored (List.mem_singleton_self _)
  · exact associated_subset_iff.2 (every_createOrUpdateUeState session now
      (associated_subset_iff.1 hkept) fun hattached => absurd hattached h)

/-- The promotion to the SUPI moves PDU sessions, and adds none. -/
theorem every_promoteFromPcfResponse {P : List String → Prop} {supi : Supi} {device : QodDevice}
    {now : ℤ} (hue : ue.Every P) (h : promoteFromPcfResponse supi device now ue = .ok ue') :
    ue'.Every P := by
  simp only [promoteFromPcfResponse, bind, Except.bind] at h
  split at h
  · cases h
  · split at h
    · cases h
      exact hue
    · split at h
      · cases h
      · split_ifs at h
        · cases h
          exact hue
        · split at h
          next => cases h
          next r hr =>
            have hpromoted := hue.promoteUeStateToResolved hr
            split at h
            next =>
              cases h
              exact hpromoted
            next =>
              -- The promotion has failed, and the states may be merged instead.
              split_ifs at h
              · split at h
                next => cases h
                next r' hr' =>
                  cases h
                  exact hpromoted.mergeUeStates hr'
              · cases h
                exact hpromoted

/-- The start of a session adds it to a PDU session at most. -/
theorem every_updateUeStateFromPcfResponse {P : List String → Prop} (session : QodSession)
    (now : ℤ) (hue : ue.Every P) (hinsert : ∀ ids, P ids → P (ids.insert session.sessionId)) :
    (updateUeStateFromPcfResponse session now ue).Every P := by
  rw [updateUeStateFromPcfResponse]
  split
  next => exact hue
  next device _ =>
    split
    next => exact hue
    next ue₁ hue₁ =>
      have hpromoted : ue₁.Every P := by
        cases hsupi : session.ueSupi with
        | none =>
          rw [hsupi] at hue₁
          cases hue₁
          exact hue
        | some supi =>
          rw [hsupi] at hue₁
          exact every_promoteFromPcfResponse hue hue₁
      split
      · exact hpromoted.modifyQodSessions hinsert
      · exact hpromoted

/-- The start of a session adds its association at most. -/
theorem associated_updateUeStateFromPcfResponse_subset (session : QodSession) (now : ℤ)
    (ue : UeStore) : (updateUeStateFromPcfResponse session now ue).associated ⊆
      ue.associated ++ [session.sessionId] := by
  have hid : session.sessionId ∈ ue.associated ++ [session.sessionId] :=
    List.mem_append_right _ (List.mem_singleton_self _)
  exact associated_subset_iff.2 (every_updateUeStateFromPcfResponse session now
    (associated_subset_iff.1 (List.subset_append_left _ _)) (insert_subset hid))

/-- The associations of a session are none, or one where an operation that ends the session
    looks for it: with its PDU session, under the key the session has then. -/
def Unlinked (session : QodSession) (ue : UeStore) : Prop :=
  match session.pduSessionId with
  | none => session.sessionId ∉ ue.associated
  | some pduSessionId => ∀ key, createOrGetUeKey session = .ok (some key) →
    ue.OnlyAt key pduSessionId session.sessionId

theorem count_associated_removeDeviceAddresses (key : UeKey) (device : QodDevice) (now : ℤ)
    (id : String) :
    (removeDeviceAddresses key device now ue).associated.count id = ue.associated.count id := by
  rw [removeDeviceAddresses]
  cases device.ipv4Address <;> cases device.ipv6Address <;>
    simp only [Option.elim_none, Option.elim_some, count_associated_removeNonPrimary]

theorem mem_associated_removeDeviceAddresses (key : UeKey) (device : QodDevice) (now : ℤ)
    (id : String) :
    id ∈ (removeDeviceAddresses key device now ue).associated ↔ id ∈ ue.associated := by
  rw [← List.count_pos_iff, count_associated_removeDeviceAddresses, List.count_pos_iff]

/-- The end of an available session adds no association, and takes those of the session
    away exactly if there are none in other places. -/
theorem associated_releaseUe {now : ℤ} (h : releaseUe session now ue = .ok (some ue')) :
    ue'.associated ⊆ ue.associated ∧
      (session.sessionId ∉ ue'.associated ↔ Unlinked session ue) := by
  have hremove : ∀ (key : UeKey) (device : QodDevice) (ue : UeStore),
      (removeDeviceAddresses key device now ue).associated ⊆ ue.associated :=
    fun key device ue id => (mem_associated_removeDeviceAddresses key device now id).1
  rw [releaseUe] at h
  cases hpdu : session.pduSessionId with
  | none =>
    simp only [Unlinked, hpdu] at h ⊢
    cases hdevice : session.device with
    | none =>
      rw [hdevice] at h
      cases h
      exact ⟨List.Subset.refl _, Iff.rfl⟩
    | some device =>
      rw [hdevice] at h
      simp only [bind, Except.bind] at h
      split at h
      next => cases h
      next key _ =>
        cases h
        cases key with
        | none => exact ⟨List.Subset.refl _, Iff.rfl⟩
        | some key => exact ⟨hremove .., not_congr (mem_associated_removeDeviceAddresses ..)⟩
  | some pduSessionId =>
    simp only [Unlinked, hpdu] at h ⊢
    cases hdevice : session.device with
    | none =>
      rw [hdevice] at h
      cases h
    | some device =>
      rw [hdevice] at h
      simp only [bind, Except.bind] at h
      split at h
      next => cases h
      next key hkey =>
        cases key with
        | none => cases h
        | some key =>
          cases h
          refine ⟨List.Subset.trans (hremove ..) (associated_removeQodSession_subset ..), ?_⟩
          rw [mem_associated_removeDeviceAddresses, not_mem_associated_remove_iff]
          simp only [Except.ok.injEq, Option.some.injEq, hkey, forall_eq']

/-- An end that is not handled leaves nothing to look for: the key throws, or there is no
    key. -/
theorem releaseUe_cases (session : QodSession) (now : ℤ) (ue : UeStore) :
    ((∃ ue', releaseUe session now ue = .ok (some ue')) ∧
        ∃ key, createOrGetUeKey session = .ok key) ∨
      (∀ ue', releaseUe session now ue ≠ .ok (some ue')) ∧
        ((∃ key, createOrGetUeKey session = .ok key) → Unlinked session ue) := by
  have hnodevice : session.device = none → createOrGetUeKey session = .ok none := by
    intro hdevice
    rw [createOrGetUeKey, hdevice]
  have hnone : ∀ e : Exn, createOrGetUeKey session = .error e →
      (∃ key, createOrGetUeKey session = .ok key) → Unlinked session ue := by
    intro e he hkey
    obtain ⟨key, hkey⟩ := hkey
    cases he.symm.trans hkey
  rw [releaseUe]
  cases hpdu : session.pduSessionId with
  | none =>
    cases hdevice : session.device with
    | none => exact .inl ⟨⟨_, rfl⟩, none, hnodevice hdevice⟩
    | some device =>
      cases hkey : createOrGetUeKey session with
      | error e => exact .inr ⟨fun _ h => (by cases h), hkey ▸ hnone e hkey⟩
      | ok key => exact .inl ⟨⟨_, rfl⟩, key, rfl⟩
  | some pduSessionId =>
    have hnokey : createOrGetUeKey session = .ok none → Unlinked session ue := by
      intro hkey
      simp only [Unlinked, hpdu, hkey]
      exact fun key h => by cases h
    cases hdevice : session.device with
    | none => exact .inr ⟨fun _ h => (by cases h), fun _ => hnokey (hnodevice hdevice)⟩
    | some device =>
      cases hkey : createOrGetUeKey session with
      | error e => exact .inr ⟨fun _ h => (by cases h), hkey ▸ hnone e hkey⟩
      | ok key =>
        cases key with
        | none => exact .inr ⟨fun _ h => (by cases h), fun _ => hnokey hkey⟩
        | some key => exact .inl ⟨⟨_, rfl⟩, some key, rfl⟩

/-! ## Stale associations -/

/-- The session is stored, and not unavailable. -/
def InUse (m : QodSessionManager) (id : String) : Prop :=
  ∃ session, m.qod.getSessionById id = some session ∧ session.qosStatus ≠ .unavailable

/-- Only sessions in use are associated with a UE. -/
def NoStale (m : QodSessionManager) : Prop := ∀ id ∈ m.ue.associated, m.InUse id

theorem InUse.of_eq {id : String} (h : m'.qod.getSessionById id = m.qod.getSessionById id) :
    m'.InUse id ↔ m.InUse id := by
  rw [InUse, InUse, h]

/-- An operation that ends or adds one session at most is judged by that session. -/
theorem noStale_iff_of_others {q : String} (h : m.NoStale)
    (hue : m'.ue.associated ⊆ m.ue.associated ++ [q])
    (huse : ∀ id, id ≠ q → m.InUse id → m'.InUse id) :
    m'.NoStale ↔ (q ∈ m'.ue.associated → m'.InUse q) := by
  refine ⟨fun h' => h' q, fun hq id hid => ?_⟩
  by_cases heq : id = q
  · exact heq ▸ hq (heq ▸ hid)
  · rcases List.mem_append.1 (hue hid) with hold | hnew
    · exact huse id heq (h id hold)
    · exact absurd (List.mem_singleton.1 hnew) heq

/-- Where the session is not in use afterwards, its associations have to be gone. -/
theorem noStale_iff_of_ended {q : String} (h : m.NoStale)
    (hue : m'.ue.associated ⊆ m.ue.associated ++ [q])
    (huse : ∀ id, id ≠ q → m.InUse id → m'.InUse id) (hended : ¬m'.InUse q) :
    m'.NoStale ↔ q ∉ m'.ue.associated := by
  rw [noStale_iff_of_others h hue huse]
  exact ⟨fun hq hmem => hended (hq hmem), fun hq hmem => absurd hmem hq⟩

@[simp]
theorem ue_notifyIf (c : Bool) (session : QodSession) (info : Option StatusInfo) :
    (m.notifyIf c session info).ue = m.ue := by
  obtain ⟨delivered, h⟩ := notifyIf_eq (m := m) c session info
  rw [h]

theorem associated_handlePcfSessionResponse_subset (hfiled : m.Filed) (q p : String)
    (success : Bool) (e : String) (now : ℤ) :
    (m.handlePcfSessionResponse q p success e now).ue.associated ⊆ m.ue.associated ++ [q] := by
  rw [handlePcfSessionResponse]
  split
  next => exact List.subset_append_left _ _
  next session hs =>
    cases success with
    | true =>
      simp only [if_true, ue_notifyIf]
      have hid : (activated session p now).sessionId = q := hfiled q session hs
      have hstart := associated_updateUeStateFromPcfResponse_subset
        (activated session p now) now m.ue
      rwa [hid] at hstart
    | false =>
      simp only [Bool.false_eq_true, if_false, ue_notifyIf]
      exact List.subset_append_left _ _

theorem ue_handlePcfSessionResponse_failure (q p e : String) (now : ℤ) :
    (m.handlePcfSessionResponse q p false e now).ue = m.ue := by
  rw [handlePcfSessionResponse]
  split
  · rfl
  · simp only [Bool.false_eq_true, if_false, ue_notifyIf]

/-- A failure the PCF reports leaves the association of the session. -/
theorem noStale_handlePcfSessionResponse_iff (hfiled : m.Filed) (h : m.NoStale) (q p : String)
    (success : Bool) (e : String) (now : ℤ) :
    (m.handlePcfSessionResponse q p success e now).NoStale ↔
      (success = false → q ∉ m.ue.associated) := by
  have hget := getSessionById_handlePcfSessionResponse hfiled q p success e now
  have hother : ∀ id, id ≠ q → m.InUse id →
      (m.handlePcfSessionResponse q p success e now).InUse id := fun id hne =>
    (InUse.of_eq ((hget id).trans (if_neg hne))).2
  have hue := associated_handlePcfSessionResponse_subset hfiled q p success e now
  have hq := (hget q).trans (if_pos rfl)
  cases success with
  | true =>
    rw [noStale_iff_of_others h hue hother]
    refine iff_of_true (fun hmem => ?_) fun hfailure => by cases hfailure
    cases hs : m.qod.getSessionById q with
    | none =>
      rw [handlePcfSessionResponse, hs] at hmem ⊢
      exact h q hmem
    | some session =>
      rw [hs] at hq
      exact ⟨_, hq, fun hstatus => by cases hstatus⟩
  | false =>
    have hended : ¬(m.handlePcfSessionResponse q p false e now).InUse q := by
      rintro ⟨session, hs, hstatus⟩
      obtain ⟨s, -, rfl⟩ := Option.map_eq_some_iff.1 (hq.symm.trans hs)
      exact hstatus rfl
    rw [noStale_iff_of_ended h hue hother hended, ue_handlePcfSessionResponse_failure]
    exact ⟨fun h' _ => h', fun h' => h' rfl⟩

/-- The end the PCF tells of takes the associations of the session away: it is available,
    and its key does not throw. -/
def ReleasesTerminated (m : QodSessionManager) (p : String) : Prop :=
  ∀ session, m.qod.getSessionByPcfSessionId p = some session → session.qosStatus = .available →
    (∃ key, createOrGetUeKey session = .ok key) → Unlinked session m.ue

/-- A session that is gone is not in use. -/
theorem not_inUse_of_eq_none {id : String} (h : m.qod.getSessionById id = none) : ¬m.InUse id := by
  rintro ⟨session, hs, -⟩
  rw [h] at hs
  cases hs

/-- A session that is not in use is not associated. -/
theorem NoStale.not_mem (h : m.NoStale) {id : String} (hid : ¬m.InUse id) :
    id ∉ m.ue.associated :=
  mt (h id) hid

theorem noStale_dropTerminated_iff (h : m.NoStale) (delivered : List Notification)
    (hue : ue.associated ⊆ m.ue.associated) (q p : String) :
    (dropTerminated { m with ue, delivered } q p).NoStale ↔ q ∉ ue.associated := by
  have hget (id : String) : (dropTerminated { m with ue, delivered } q p).qod.getSessionById id =
      if id = q then none else m.qod.getSessionById id := getSessionById_dropTerminated ..
  exact noStale_iff_of_ended h (List.Subset.trans hue (List.subset_append_left _ _))
    (fun id hne => (InUse.of_eq ((hget id).trans (if_neg hne))).2)
    (not_inUse_of_eq_none ((hget q).trans (if_pos rfl)))

theorem noStale_handlePcfSessionTerminated_iff (h : m.NoStale) {p : String}
    (hrequested : ∀ session, m.qod.getSessionByPcfSessionId p = some session →
      m.qod.getSessionById session.sessionId = some session ∧ session.qosStatus ≠ .requested)
    (now : ℤ) : (m.handlePcfSessionTerminated p now).2.NoStale ↔ m.ReleasesTerminated p := by
  rw [handlePcfSessionTerminated, ReleasesTerminated]
  cases hp : m.qod.getSessionByPcfSessionId p with
  | none => exact iff_of_true h fun _ hs => by cases hs
  | some session =>
    obtain ⟨hs, hnot⟩ := hrequested session hp
    simp only [Option.some.injEq, forall_eq']
    split
    next hstatus =>
      simp only [hstatus, true_implies]
      -- The key and the place of the association do not depend on what is written.
      let ended := { session with
        qosStatus := .unavailable, statusInfo := some .networkTerminated, expiresAt := some now }
      have hunlinked : Unlinked ended m.ue ↔ Unlinked session m.ue := Iff.rfl
      have hkeys : createOrGetUeKey ended = createOrGetUeKey session := rfl
      rw [← hunlinked, ← hkeys]
      rcases releaseUe_cases ended now m.ue with ⟨⟨ue', hrelease⟩, hkey⟩ | ⟨hrelease, hkey⟩
      · obtain ⟨hue, hiff⟩ := associated_releaseUe hrelease
        rw [hrelease]
        obtain ⟨delivered, hnotify⟩ := notifyIf_eq (m := { m with ue := ue' })
          ended.sink.isSome ended (some .networkTerminated)
        dsimp only
        rw [hnotify]
        refine (noStale_dropTerminated_iff h delivered hue ..).trans ?_
        exact hiff.trans ⟨fun h' _ => h', fun h' => h' hkey⟩
      · -- An end that is not handled changes nothing.
        rcases hresult : releaseUe ended now m.ue with e | _ | ue'
        · exact iff_of_true h hkey
        · exact iff_of_true h hkey
        · exact absurd hresult (hrelease ue')
    next hstatus =>
      -- A session that is not available has ended before, and is not associated.
      have hended : ¬m.InUse session.sessionId := by
        rintro ⟨s, hs', hs''⟩
        rw [hs, Option.some.injEq] at hs'
        subst hs'
        cases hqos : session.qosStatus
        · exact hnot hqos
        · exact hstatus hqos
        · exact hs'' hqos
      refine iff_of_true ?_ fun h' => absurd h' hstatus
      exact (noStale_dropTerminated_iff h m.delivered (List.Subset.refl _) ..).2 (h.not_mem hended)

/-! ### Deletion -/

theorem NoStale.congr (h : m.NoStale) (hue : m'.ue = m.ue)
    (hget : ∀ id, m'.qod.getSessionById id = m.qod.getSessionById id) : m'.NoStale := by
  intro id hid
  rw [hue] at hid
  exact (InUse.of_eq (hget id)).2 (h id hid)

/-- The session is written back as deleted. -/
theorem noStale_deleted_iff (h : m.NoStale)
    (hs : m.qod.getSessionById session.sessionId = some session) (now : ℤ)
    (delivered : List Notification) (hue : ue.associated ⊆ m.ue.associated) :
    NoStale { m with ue, delivered, qod := (m.qod.updateSession (deleted session now)).2 } ↔
      session.sessionId ∉ ue.associated := by
  have hs' : m.qod.getSessionById (deleted session now).sessionId = some session := hs
  have hget (id : String) : (m.qod.updateSession (deleted session now)).2.getSessionById id =
      if id = session.sessionId then some (deleted session now) else m.qod.getSessionById id :=
    m.qod.getSessionById_updateSession_of_stored hs' id
  refine noStale_iff_of_ended h (List.Subset.trans hue (List.subset_append_left _ _))
    (fun id hne => (InUse.of_eq ((hget id).trans (if_neg hne))).2) ?_
  rintro ⟨s, hstored, hstatus⟩
  have hdeleted := hstored.symm.trans ((hget session.sessionId).trans (if_pos rfl))
  rw [Option.some.inj hdeleted] at hstatus
  exact hstatus rfl

theorem noStale_finishDelete_iff (h : m.NoStale)
    (hs : m.qod.getSessionById session.sessionId = some session) (now : ℤ) :
    (m.finishDelete session now).2.NoStale ↔ Unlinked session m.ue := by
  have hkeys : createOrGetUeKey (deleted session now) = createOrGetUeKey session := rfl
  rw [finishDelete, hkeys]
  dsimp only
  cases hpdu : session.pduSessionId with
  | none =>
    obtain ⟨delivered, hnotify⟩ := notifyIf_eq (m := m)
      (session.sink.isSome && session.qosStatus == .available) (deleted session now)
      (some .deleteRequested)
    simp only [hnotify, Unlinked, hpdu]
    exact noStale_deleted_iff h hs now delivered (List.Subset.refl _)
  | some pduSessionId =>
    simp only [Unlinked, hpdu]
    cases hkey : createOrGetUeKey session with
    | error e => exact iff_of_true h fun _ hk => by cases hk
    | ok key =>
      cases key with
      | none => exact iff_of_true h fun _ hk => by cases hk
      | some key =>
        let ue := (m.ue.removeQodSessionFromPduSession key pduSessionId session.sessionId now).2
        obtain ⟨delivered, hnotify⟩ := notifyIf_eq (m := { m with ue })
          (session.sink.isSome && session.qosStatus == .available) (deleted session now)
          (some .deleteRequested)
        have hue : ue.associated ⊆ m.ue.associated := associated_removeQodSession_subset ..
        simp only [Except.ok.injEq, Option.some.injEq, forall_eq']
        rw [← not_mem_associated_remove_iff key pduSessionId session.sessionId now]
        refine Iff.trans ?_ (noStale_deleted_iff h hs now delivered hue)
        rw [hnotify]

/-- A deletion that goes through takes the associations of the session away. -/
theorem noStale_deleteSession_iff (hfiled : m.Filed) (h : m.NoStale) (sessionId consumer : String)
    (reply : Option PcfReply) (now : ℤ) :
    (m.deleteSession sessionId consumer reply now).2.NoStale ↔
      ∀ session, m.deleteRequest sessionId consumer = some session →
        (pcfSessionOf session = none ∨ m.pcfReady = true ∧ ∃ p, PcfAnswer.of reply = .ended p) →
        Unlinked session m.ue := by
  rw [deleteSession]
  cases hrequest : m.deleteRequest sessionId consumer with
  | none => exact iff_of_true h fun _ hs => by cases hs
  | some session =>
    obtain ⟨hs, -⟩ := Option.filter_eq_some_iff.1 hrequest
    have hid : session.sessionId = sessionId := hfiled _ _ hs
    rw [← hid] at hs
    simp only [Option.some.injEq, forall_eq']
    cases hpcf : pcfSessionOf session with
    | none =>
      simp only [true_or, true_implies]
      exact noStale_finishDelete_iff h hs now
    | some pcfSessionId =>
      simp only [reduceCtorEq, false_or]
      cases hready : m.pcfReady with
      | false => simpa using h
      | true =>
        simp only [if_true, true_and, removeReply_eq]
        cases hanswer : PcfAnswer.of reply with
        | created p => exact iff_of_true h fun hp => by simp at hp
        | refused e => exact iff_of_true h fun hp => by simp at hp
        | unreadable => exact iff_of_true h fun hp => by simp at hp
        | ended p =>
          -- The mapping of the PCF id goes first, which touches no session.
          simp only [PcfAnswer.ended.injEq, exists_eq', true_implies]
          have hget (id : String) :
              (m.qod.removePcfToQodSessionMapping p).2.getSessionById id =
                m.qod.getSessionById id :=
            QodStore.getSessionById_removePcfToQodSessionMapping ..
          let m₁ := { m.send (.deleteQodSession pcfSessionId session.sessionId) with
            qod := (m.qod.removePcfToQodSessionMapping p).2 }
          have h₁ : m₁.NoStale := h.congr rfl hget
          exact noStale_finishDelete_iff h₁ ((hget _).trans hs) now

/-! ### Creation -/

theorem ue_abandonSession (sessionId : String) (sink : Option String) :
    (m.abandonSession sessionId sink).2.ue = m.ue := by
  rw [abandonSession]
  dsimp only
  split
  · rfl
  · rw [ue_notifyIf]

/-- A session that could not be applied leaves the UE store alone. -/
theorem ue_applySessionToPcf_of_not {reply : Option PcfReply} {later : ℤ}
    (h : (m.applySessionToPcf session reply later).1 = false) :
    (m.applySessionToPcf session reply later).2.ue = m.ue := by
  rw [applySessionToPcf] at h ⊢
  split
  next hready =>
    rw [if_pos hready] at h
    rcases applyReply_cases (m := m.send (.createQodSession session)) session.sessionId reply later
      with heq | ⟨p, heq⟩ | ⟨e, heq⟩ | ⟨p, -, heq⟩ <;> rw [heq] at h ⊢
    · rfl
    · cases h
    · exact ue_handlePcfSessionResponse_failure ..
    · cases h
  next => rfl

/-- A session that is stored is in use, whatever comes of it. -/
theorem NoStale.storeSession (h : m.NoStale) (hstatus : session.qosStatus = .requested) (now : ℤ) :
    (m.storeSession session now).NoStale := by
  have hget := getSessionById_storeSession (m := m) session now
  refine (noStale_iff_of_others h (associated_createOrUpdateUeState session now m.ue).1
    fun id hne => (InUse.of_eq ((hget id).trans (if_neg hne))).2).2 fun _ => ?_
  refine ⟨session, (hget _).trans (if_pos rfl), fun h' => ?_⟩
  rw [hstatus] at h'
  cases h'

/-- A session that could not be applied is associated exactly if it was put on a PDU
    session when it was stored. -/
theorem noStale_abandoned_iff (hfiled : m.Filed) (h : m.NoStale) (now : ℤ)
    (hfresh : m.qod.getSessionById session.sessionId = none) {reply : Option PcfReply} {later : ℤ}
    (hnot : ((m.storeSession session now).applySessionToPcf session reply later).1 = false)
    (sink : Option String) :
    (((m.storeSession session now).applySessionToPcf session reply later).2.abandonSession
        session.sessionId sink).2.NoStale ↔ ¬Attached session := by
  obtain ⟨hadded, hattached, hdetached⟩ := associated_createOrUpdateUeState session now m.ue
  have hue : (((m.storeSession session now).applySessionToPcf session reply later).2.abandonSession
      session.sessionId sink).2.ue = createOrUpdateUeState session now m.ue :=
    (ue_abandonSession ..).trans (ue_applySessionToPcf_of_not hnot)
  have hm₁ : (m.storeSession session now).Filed := hfiled.of_addSession rfl
  -- The other sessions are stored as before, and the new one as unavailable.
  have hother : ∀ id, id ≠ session.sessionId →
      (((m.storeSession session now).applySessionToPcf session reply later).2.abandonSession
        session.sessionId sink).2.qod.getSessionById id = m.qod.getSessionById id := by
    intro id hne
    rw [getSessionById_abandonSession, if_neg hne]
    have hstore : (m.storeSession session now).qod.getSessionById id = m.qod.getSessionById id := by
      rw [getSessionById_storeSession, if_neg hne]
    rcases getSessionById_applySessionToPcf_of_not hm₁ hnot with hget | ⟨e, hget⟩
    · exact (hget id).trans hstore
    · exact (hget id).trans ((if_neg hne).trans hstore)
  have hended : ¬(((m.storeSession session now).applySessionToPcf session reply
      later).2.abandonSession session.sessionId sink).2.InUse session.sessionId := by
    rintro ⟨s, hs, hstatus⟩
    rw [getSessionById_abandonSession, if_pos rfl, Option.map_eq_some_iff] at hs
    obtain ⟨s', -, rfl⟩ := hs
    exact hstatus rfl
  rw [noStale_iff_of_ended h (by rw [hue]; exact hadded)
    (fun id hne => (InUse.of_eq (hother id hne)).2) hended, hue]
  refine ⟨fun hmem ha => hmem (hattached ha), fun ha hmem => ?_⟩
  exact h.not_mem (not_inUse_of_eq_none hfresh) (hdetached ha hmem)

/-- A creation leaves no association behind: if it is not applied, the session was not put
    on a PDU session; and an end it is told of instead takes the associations away. -/
def CreationDetaches (m : QodSessionManager) (session : QodSession) (now : ℤ)
    (reply : Option PcfReply) : Prop :=
  (¬m.Applied reply → ¬Attached session) ∧
    (m.Applied reply → ∀ p, PcfAnswer.of reply = .ended p →
      (m.storeSession session now).ReleasesTerminated p)

theorem noStale_createSession_iff (hfiled : m.Filed) (h : m.NoStale)
    {request : CreateSessionRequest} {sessionId : String} {now : ℤ}
    (hprepared : m.prepareSession request sessionId now = .ok (some session))
    (hfresh : m.qod.getSessionById sessionId = none)
    (hmapped : ∀ p s, (m.storeSession session now).qod.getSessionByPcfSessionId p = some s →
      (m.storeSession session now).qod.getSessionById s.sessionId = some s ∧
        s.qosStatus ≠ .requested)
    (reply : Option PcfReply) (later : ℤ) :
    (m.createSession request sessionId now reply later).2.NoStale ↔
      m.CreationDetaches session now reply := by
  obtain ⟨rfl, -, -, -, hstatus, -⟩ := prepared hprepared
  have hok := fst_applySessionToPcf_iff now hfresh hstatus reply later
  rw [createSession_of_prepared hprepared, concludeSession, CreationDetaches]
  by_cases happlied : m.Applied reply
  · have hready : (m.storeSession session now).pcfReady = true := happlied.1
    simp only [happlied, not_true, false_implies, true_and, true_implies]
    rw [if_pos (hok.2 happlied), applySessionToPcf, if_pos hready, applyReply_eq]
    -- The reply is handled where the session is stored.
    let m₁ := (m.storeSession session now).send (.createQodSession session)
    have h₁ : m₁.NoStale := h.storeSession hstatus now
    have hm₁ : m₁.Filed := hfiled.of_addSession rfl
    have hanswer := happlied.2
    cases hreply : PcfAnswer.of reply with
    | created p =>
      refine iff_of_true ?_ fun _ hp => by cases hp
      exact (noStale_handlePcfSessionResponse_iff hm₁ h₁ session.sessionId p true "" later).2
        fun hfailure => by cases hfailure
    | ended p =>
      simp only [PcfAnswer.ended.injEq, forall_eq']
      exact noStale_handlePcfSessionTerminated_iff h₁ (hmapped p) later
    | refused e =>
      rw [hreply] at hanswer
      exact hanswer.elim
    | unreadable =>
      rw [hreply] at hanswer
      exact hanswer.elim
  · have hnot := Bool.eq_false_iff.2 (mt hok.1 happlied)
    simp only [happlied, not_false_eq_true, true_implies, false_implies, and_true]
    rw [if_neg (mt hok.1 happlied)]
    exact noStale_abandoned_iff hfiled h now hfresh hnot session.sink

/-! ### The other ends of a session -/

theorem noStale_handlePduSessionTerminatedEvent_iff (h : m.NoStale) (supi : Supi)
    (pduSessionId : String) (order : List String) :
    (m.handlePduSessionTerminatedEvent supi pduSessionId order).NoStale ↔
      ∀ session, m.qod.getSessionByPduSession supi pduSessionId order = some session →
        session.sessionId ∉ m.ue.associated := by
  rw [handlePduSessionTerminatedEvent]
  cases hfound : m.qod.getSessionByPduSession supi pduSessionId order with
  | none => exact iff_of_true h fun _ hs => by cases hs
  | some session =>
    simp only [Option.some.injEq, forall_eq']
    obtain ⟨delivered, hnotify⟩ := notifyIf_eq
      (m := { m with qod := (m.qod.removeSession session.sessionId).2 })
      (session.sink.isSome && session.qosStatus == .available) session (some .networkTerminated)
    rw [hnotify]
    have hget (id : String) : (m.qod.removeSession session.sessionId).2.getSessionById id =
        if id = session.sessionId then none else m.qod.getSessionById id :=
      QodStore.getSessionById_removeSession ..
    exact noStale_iff_of_ended h (List.subset_append_left _ _)
      (fun id hne => (InUse.of_eq ((hget id).trans (if_neg hne))).2)
      (not_inUse_of_eq_none ((hget session.sessionId).trans (if_pos rfl)))

theorem noStale_cleanupExpiredSessions_iff (h : m.NoStale) (now : ℤ) :
    (m.cleanupExpiredSessions now).NoStale ↔
      ∀ session ∈ m.qod.getExpiredSessions now m.config.unavailableSessionTtl,
        session.sessionId ∉ m.ue.associated := by
  have hget := QodStore.getSessionById_foldl_removeSession m.qod
    (m.qod.getExpiredSessions now m.config.unavailableSessionTtl)
  constructor
  · intro h' session hsession hid
    have hgone : (m.cleanupExpiredSessions now).qod.getSessionById session.sessionId = none :=
      (hget _).trans (if_pos (List.mem_map_of_mem hsession))
    exact not_inUse_of_eq_none hgone (h' _ hid)
  · intro hexpired id hid
    have hkept : id ∉ (m.qod.getExpiredSessions now
        m.config.unavailableSessionTtl).map (·.sessionId) := by
      intro hmem
      obtain ⟨session, hsession, rfl⟩ := List.mem_map.1 hmem
      exact hexpired session hsession hid
    have hsame : (m.cleanupExpiredSessions now).qod.getSessionById id = m.qod.getSessionById id :=
      (hget id).trans (if_neg hkept)
    exact (InUse.of_eq hsame).2 (h id hid)

theorem noStale_stop_iff : m.stop.NoStale ↔ m.ue.associated = [] := by
  have hgone (id : String) : m.stop.qod.getSessionById id = none :=
    QodStore.getSessionById_clearAllSessions ..
  rw [List.eq_nil_iff_forall_not_mem]
  exact forall_congr' fun id => ⟨fun h hid => not_inUse_of_eq_none (hgone id) (h hid),
    fun h hid => absurd hid h⟩

/-- An extension changes neither the status nor the associations. -/
theorem NoStale.extendSessionDuration (hfiled : m.Filed) (h : m.NoStale)
    {sessionId consumer : String} {additional : ℤ}
    (hnext : m.next (.extendSessionDuration sessionId additional consumer) = some m') :
    m'.NoStale := by
  obtain rfl | ⟨session, t, hs, -, hstatus, -, rfl⟩ := next_extendSessionDuration_cases hnext
  · exact h
  · intro id hid
    have hget := getSessionById_extended hfiled hs additional t id
    split_ifs at hget
    · exact ⟨_, hget, hstatus⟩
    · exact (InUse.of_eq hget).2 (h id hid)

/-- An operation of another component on the UE store brings sessions in use at most. -/
theorem NoStale.ueOperation (h : m.NoStale) {op : UeOp} (hue : m.ue.next op = some ue)
    (hop : ∀ id ∈ op.brings, m.InUse id) : NoStale { m with ue } := by
  intro id hid
  rcases List.mem_append.1 (associated_next_subset hue hid) with hold | hnew
  · exact h id hold
  · exact hop id hnew

end QodSessionManager

namespace QodRun

open QodSessionManager

variable {r r' : QodRun} {op : QodOp}

/-- An operation leaves no association of a session that it ends, or that has ended. Of the
    sessions it ends, a deletion and the end the PCF tells of take the associations away
    where they look for them; the other operations take none away. -/
def Detaches (r : QodRun) : QodOp → Prop
  | .createSession request sessionId now reply _ => ∀ session,
    r.manager.prepareSession request sessionId now = .ok (some session) →
      r.manager.CreationDetaches session now reply
  | .extendSessionDuration .. => True
  | .deleteSession sessionId consumer reply _ => ∀ session,
    r.manager.deleteRequest sessionId consumer = some session →
      (pcfSessionOf session = none ∨
        r.manager.pcfReady = true ∧ ∃ p, PcfAnswer.of reply = .ended p) →
      Unlinked session r.manager.ue
  | .handlePcfSessionResponse q _ success _ _ => success = false → q ∉ r.manager.ue.associated
  | .handlePcfSessionTerminated p _ => r.manager.ReleasesTerminated p
  | .handlePduSessionTerminatedEvent supi pduSessionId order => ∀ session,
    r.manager.qod.getSessionByPduSession supi pduSessionId order = some session →
      session.sessionId ∉ r.manager.ue.associated
  | .cleanupExpiredSessions now =>
    ∀ session ∈ r.manager.qod.getExpiredSessions now r.manager.config.unavailableSessionTtl,
      session.sessionId ∉ r.manager.ue.associated
  | .stop => r.manager.ue.associated = []
  | .ueOperation op => ∀ id ∈ op.brings, r.manager.InUse id

/-- Where no association is stale, an operation of the session manager keeps it so exactly
    if it leaves none behind. -/
theorem noStale_next_iff (hr : qodSystem.Reachable r) (h : r.manager.NoStale)
    (hnext : r.next op = some r') (hop : ∀ ueOp, op ≠ .ueOperation ueOp) :
    r'.manager.NoStale ↔ r.Detaches op := by
  have hfiled := (filed_of_reachable hr).1
  have hm := manager_of_next hnext
  cases op with
  | createSession request sessionId now reply later =>
    have hfresh := getSessionById_of_next hr hnext rfl
    rw [QodSessionManager.next, Option.some.injEq] at hm
    rw [← hm, Detaches]
    rcases createSession_prepared_or_refused (m := r.manager) request sessionId now reply later with
      ⟨session, hprepared⟩ | ⟨hrefused, heq⟩
    · simp only [hprepared, Except.ok.injEq, Option.some.injEq, forall_eq']
      have hid : (QodOp.createSession request sessionId now reply later).drawnId =
          some session.sessionId := congrArg some (prepared hprepared).1.symm
      exact noStale_createSession_iff hfiled h hprepared hfresh
        (found_of_next hr hnext hid now) reply later
    · rw [heq]
      exact iff_of_true h fun session hprepared => absurd hprepared (hrefused session)
  | extendSessionDuration sessionId additional consumer =>
    exact iff_of_true (h.extendSessionDuration hfiled hm) trivial
  | deleteSession sessionId consumer reply now =>
    rw [QodSessionManager.next, Option.some.injEq] at hm
    rw [← hm, Detaches]
    exact noStale_deleteSession_iff hfiled h sessionId consumer reply now
  | handlePcfSessionResponse q p success e now =>
    rw [QodSessionManager.next, Option.some.injEq] at hm
    rw [← hm, Detaches]
    exact noStale_handlePcfSessionResponse_iff hfiled h q p success e now
  | handlePcfSessionTerminated p now =>
    rw [QodSessionManager.next, Option.some.injEq] at hm
    rw [← hm, Detaches]
    refine noStale_handlePcfSessionTerminated_iff h (fun session hs => ?_) now
    obtain ⟨id, -, hget⟩ := Option.bind_eq_some_iff.1 hs
    exact ⟨(hfiled id session hget).symm ▸ hget, not_requested_of_reachable hr hs⟩
  | handlePduSessionTerminatedEvent supi pduSessionId order =>
    rw [QodSessionManager.next, Option.some.injEq] at hm
    rw [← hm, Detaches]
    exact noStale_handlePduSessionTerminatedEvent_iff h supi pduSessionId order
  | cleanupExpiredSessions now =>
    rw [QodSessionManager.next, Option.some.injEq] at hm
    rw [← hm, Detaches]
    exact noStale_cleanupExpiredSessions_iff h now
  | stop =>
    rw [QodSessionManager.next, Option.some.injEq] at hm
    rw [← hm, Detaches]
    exact noStale_stop_iff
  | ueOperation ueOp => exact absurd rfl (hop ueOp)

/-- In every run whose operations leave no association behind, every id associated with a
    UE is that of a stored session that is not unavailable; and the first operation of the
    session manager that leaves one behind breaks this. -/
theorem noStale_of_reachable (hr : (qodSystem.restrict Detaches).Reachable r) :
    (∀ id ∈ r.manager.ue.associated, ∃ session,
      r.manager.qod.getSessionById id = some session ∧ session.qosStatus ≠ .unavailable) ∧
      ∀ op r', (∀ ueOp, op ≠ .ueOperation ueOp) → r.next op = some r' →
        (r'.manager.NoStale ↔ r.Detaches op) := by
  have h : r.manager.NoStale := by
    refine System.Reachable.invariant (P := fun r : QodRun => r.manager.NoStale) ?_ ?_ hr
    · rintro r ⟨config, pcfService, pcfDestination, notificationHandler, rfl⟩ id hid
      cases hid
    · rintro r op r' hr h ⟨hop, hnext⟩
      by_cases hue : ∀ ueOp, op ≠ .ueOperation ueOp
      · exact (noStale_next_iff hr.of_restrict h hnext hue).2 hop
      · push Not at hue
        obtain ⟨ueOp, rfl⟩ := hue
        obtain ⟨ue, hstep, hm⟩ := Option.map_eq_some_iff.1 (manager_of_next hnext)
        exact hm ▸ h.ueOperation hstep hop
  exact ⟨h, fun op r' hop hnext => noStale_next_iff hr.of_restrict h hnext hop⟩

/-- The key of the UE with the phone number of `phoneSession`. -/
def phoneKey : UeKey :=
  { type := .gpsiBased, gpsiValue := some "+49170123456", sole := .gpsi _ }

/-- A UE with an active PDU session is stored, under its phone number. -/
def attachUe : QodOp := .ueOperation <| .updateUeState
  { AfUeSubscriptionState.ofKey phoneKey 0 with
    gpsi := some ⟨"+49170123456"⟩
    pduSessions := [{ pduSessionId := "5", status := "ACTIVE" }] }

/-- A session for it, from its address. -/
def addressSession : CreateSessionRequest :=
  { phoneSession "consumer" with
    device := some {
      phoneNumber := some "+49170123456"
      ipv4Address := some { publicAddress := ⟨"198.51.100.7"⟩ } } }

/-- The session is started, associated with its UE, and deleted. -/
theorem noStale_after_delete : ∃ r r' : QodRun,
    (qodSystem.restrict Detaches).Reachable r ∧ r.manager.ue.associated = ["session-1"] ∧
      (∀ id ∈ r.manager.ue.associated, ∃ session,
        r.manager.qod.getSessionById id = some session ∧ session.qosStatus ≠ .unavailable) ∧
      (qodSystem.restrict Detaches).Reachable r' ∧ r'.manager.ue.associated = [] := by
  have h₀ : (qodSystem.restrict Detaches).Reachable initial := .init ⟨_, _, _, _, rfl⟩
  have h₁ := h₀.step (a := attachUe) ⟨fun id hid => (by cases hid), rfl⟩
  have h₂ := h₁.step (a := QodOp.createSession addressSession "session-1" 1
    (some (.created "pcf-1")) 2)
    ⟨fun _ _ => ⟨fun h => absurd ⟨rfl, trivial⟩ h, fun _ p hp => by cases hp⟩, rfl⟩
  have h₃ := h₂.step (a := QodOp.deleteSession "session-1" "consumer" (some (.removed "pcf-1")) 3)
    ⟨?_, rfl⟩
  · exact ⟨_, _, h₂, rfl, (noStale_of_reachable h₂).1, h₃, rfl⟩
  · intro session hs _
    cases hs
    intro key hkey
    cases hkey
    exact Nat.le_refl 1

/-- The PCF does not answer for the session, which stays associated with its UE. -/
theorem stale_after_unanswered : ∃ (r r' : QodRun) (session : QodSession),
    qodSystem.Reachable r ∧ r.manager.ue.associated = [] ∧
      r.next (.createSession addressSession "session-1" 1 none 2) = some r' ∧
      qodSystem.Reachable r' ∧ "session-1" ∈ r'.manager.ue.associated ∧
      r'.manager.qod.getSessionById "session-1" = some session ∧
      session.qosStatus = .unavailable ∧ ¬r'.manager.NoStale := by
  have h₀ : qodSystem.Reachable initial := .init ⟨_, _, _, _, rfl⟩
  have h₁ := h₀.step (a := attachUe) rfl
  have h₂ := h₁.step (a := QodOp.createSession addressSession "session-1" 1 none 2) rfl
  refine ⟨_, _, _, h₁, rfl, rfl, h₂, List.mem_singleton_self _, rfl, rfl, fun h => ?_⟩
  obtain ⟨session, hs, hstatus⟩ := h "session-1" (List.mem_singleton_self _)
  cases hs
  exact hstatus rfl

end QodRun

end PhineAf

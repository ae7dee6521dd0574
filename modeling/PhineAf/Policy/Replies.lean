import PhineAf.Lib.Service
import PhineAf.Policy.Requests
import PhineAf.Policy.Rollback

/-!
# What the replies tell of the policies

A client knows the policies from the replies to its requests: the last one that names a
policy tells its state (`told`). This is the state of the stored policy, or there is none
any more if the policy was told to be deleted; what has been stored and not told is a
policy that could not be applied (`told_of_replies`).
-/

namespace PhineAf

/-- A request for a policy, with the identifier that is drawn and the answer of the PCF
    handler. -/
structure QosCall where
  drawn : String
  answer : AppSessionAnswer
  payload : String

namespace PolicyManager

variable (lib : Json.Library)

/-- A request is served. -/
def serveQos (m : PolicyManager) (c : QosCall) : PolicyManager × QosReply :=
  m.handleQosRequest lib c.drawn c.answer c.payload

/-- The state of a policy that is stored. -/
def stateOf (m : PolicyManager) (policyId : String) : Option PolicyState :=
  (m.getPolicy policyId).map (·.state)

/-- The state that the replies tell of a policy: what the last one says that names it. -/
def told (policyId : String) (replies : List QosReply) : Option String :=
  replies.foldl (fun state reply => match reply with
    | .success id s => if id = policyId then some s else state
    | .error .. => state) none

variable {lib} {m m' : PolicyManager} {answer : AppSessionAnswer} {policyId drawn : String}

/-! ## One request -/

theorem stateOf_store {policy : QoSPolicy} (hpolicies : m'.policies = m.policies) (x : String) :
    (m'.store policyId policy).stateOf x =
      if x = policyId then some policy.state else m.stateOf x := by
  rw [stateOf, getPolicy_store]
  split_ifs
  · rfl
  · rw [stateOf, getPolicy, getPolicy, hpolicies]

theorem stateOf_congr (hpolicies : m'.policies = m.policies) : m'.stateOf = m.stateOf := by
  funext x
  rw [stateOf, stateOf, getPolicy, getPolicy, hpolicies]

theorem id_applyAnswer (policy : QoSPolicy) (answer : AppSessionAnswer) :
    (applyAnswer lib policy answer).2.id = policy.id := by
  unfold applyAnswer
  split
  · rfl
  · rfl
  · split <;> rfl
  · split <;> rfl
  · rfl

variable (lib m) in
theorem id_applyPolicy (policy : QoSPolicy) (answer : AppSessionAnswer) :
    (m.applyPolicy lib policy answer).1.2.id = policy.id := by
  rw [applyPolicy]
  split_ifs
  · exact id_applyAnswer policy answer
  · rfl

/-- A policy that is applied is active. -/
theorem state_of_applyPolicy {policy policy' : QoSPolicy}
    (h : m.applyPolicy lib policy answer = ((true, policy'), m')) : policy'.state = .active := by
  rw [applyPolicy] at h
  split_ifs at h
  · obtain ⟨happly, -⟩ := Prod.mk.injEq .. ▸ h
    unfold applyAnswer at happly
    split at happly
    · cases happly
    · cases happly
    · split at happly
      · cases happly
      · cases happly
        rfl
    · split at happly <;> cases happly
    · cases happly
  · cases h

variable (lib m answer drawn) in
/-- A creation makes an active policy, or stores at most one that could not be applied. -/
theorem stateOf_createPolicy (data : Json) :
    (∃ policy, (m.createPolicy lib drawn data answer).1 = .ok policy ∧ policy.id = drawn ∧
        policy.state = .active ∧ ∀ x, (m.createPolicy lib drawn data answer).2.stateOf x =
          if x = drawn then some .active else m.stateOf x) ∨
      (∃ what, (m.createPolicy lib drawn data answer).1 = .error what) ∧
        ((∀ x, (m.createPolicy lib drawn data answer).2.stateOf x = m.stateOf x) ∨
          ∀ x, (m.createPolicy lib drawn data answer).2.stateOf x =
            if x = drawn then some .error else m.stateOf x) := by
  have hrecord := QoSPolicy.record_readData lib data { id := drawn }
  rw [createPolicy]
  rcases hread : QoSPolicy.readData lib data { id := drawn } with ⟨_ | e, policy⟩
  · rw [hread] at hrecord
    simp only [QoSPolicy.record, Prod.mk.injEq] at hrecord
    dsimp only
    split_ifs
    · exact .inr ⟨⟨_, rfl⟩, .inl fun x => rfl⟩
    · have hid := id_applyPolicy lib m { policy with state := .inactive } answer
      obtain ⟨-, hpolicies⟩ :=
        applyPolicy_frame lib (m := m) { policy with state := .inactive } answer
      rcases happly : m.applyPolicy lib { policy with state := .inactive } answer with
        ⟨⟨_ | _, policy'⟩, m'⟩ <;> rw [happly] at hid hpolicies <;>
        replace hid := hid.trans hrecord.1
      · refine .inr ⟨⟨_, rfl⟩, .inr fun x => ?_⟩
        exact (stateOf_store hpolicies x).trans (by rw [hid])
      · have hactive := state_of_applyPolicy happly
        refine .inl ⟨policy', rfl, hid, hactive, fun x => ?_⟩
        exact (stateOf_store hpolicies x).trans (by rw [hid, hactive])
  · exact .inr ⟨⟨_, rfl⟩, .inl fun x => rfl⟩

variable (lib m answer policyId) in
/-- An update leaves an active policy, or all states as they are. -/
theorem stateOf_updatePolicy (data : Json) :
    ((m.updatePolicy lib policyId data answer).1 = true ∧ (m.stateOf policyId).isSome ∧
        ∀ x, (m.updatePolicy lib policyId data answer).2.stateOf x =
          if x = policyId then some .active else m.stateOf x) ∨
      (m.updatePolicy lib policyId data answer).1 = false ∧
        ∀ x, (m.updatePolicy lib policyId data answer).2.stateOf x = m.stateOf x := by
  rw [updatePolicy]
  rcases hold : m.policies.lookup policyId with _ | old
  · exact .inr ⟨rfl, fun x => rfl⟩
  have hstate : m.stateOf policyId = some old.state := by
    rw [stateOf, getPolicy, hold]
    rfl
  -- A policy of the old state takes the place of the old one.
  have hkeep : ∀ (policy : QoSPolicy) (m' : PolicyManager), policy.state = old.state →
      m'.policies = m.policies → ∀ x, (m'.store policyId policy).stateOf x = m.stateOf x := by
    intro policy m' hsame hpolicies x
    rw [stateOf_store hpolicies, hsame]
    split_ifs with hx
    · rw [hx, hstate]
    · rfl
  have hrecord := QoSPolicy.record_readData lib data old
  dsimp only
  rcases hread : QoSPolicy.readData lib data old with ⟨_ | e, policy⟩ <;> rw [hread] at hrecord <;>
    simp only [QoSPolicy.record, Prod.mk.injEq] at hrecord
  · dsimp only
    split_ifs
    · exact .inr ⟨rfl, hkeep old m rfl rfl⟩
    · obtain ⟨-, hpolicies⟩ := applyPolicy_frame lib (m := m) policy answer
      rcases happly : m.applyPolicy lib policy answer with ⟨⟨_ | _, policy'⟩, m'⟩ <;>
        rw [happly] at hpolicies
      · exact .inr ⟨rfl, hkeep old m' rfl hpolicies⟩
      · refine .inl ⟨rfl, by rw [hstate]; rfl, fun x => ?_⟩
        exact (stateOf_store hpolicies x).trans (by rw [state_of_applyPolicy happly])
  · exact .inr ⟨rfl, hkeep policy m hrecord.2.1 rfl⟩

theorem policies_removePolicy (policy : QoSPolicy) (answer : AppSessionAnswer) :
    (m.removePolicy policy answer).2.policies = m.policies := by
  rw [removePolicy]
  split_ifs
  · rfl
  · dsimp only
    split <;> rfl
  · rfl

variable (m answer policyId) in
/-- A deletion takes the policy away, or leaves all as they are. -/
theorem stateOf_deletePolicy :
    ((m.deletePolicy policyId answer).1 = true ∧ (m.stateOf policyId).isSome ∧
        ∀ x, (m.deletePolicy policyId answer).2.stateOf x =
          if x = policyId then none else m.stateOf x) ∨
      (m.deletePolicy policyId answer).1 = false ∧
        ∀ x, (m.deletePolicy policyId answer).2.stateOf x = m.stateOf x := by
  rw [deletePolicy]
  rcases hold : m.policies.lookup policyId with _ | old
  · exact .inr ⟨rfl, fun x => rfl⟩
  have hpolicies := policies_removePolicy (m := m) old answer
  dsimp only
  rcases hremove : m.removePolicy old answer with ⟨_ | _, m'⟩ <;> rw [hremove] at hpolicies
  · exact .inr ⟨rfl, congrFun (stateOf_congr hpolicies)⟩
  · refine .inl ⟨rfl, by rw [stateOf, getPolicy, hold]; rfl, fun x => ?_⟩
    rw [← stateOf_congr hpolicies, stateOf, stateOf, getPolicy, getPolicy, Table.lookup_erase_eq]
    split_ifs <;> rfl

variable (lib m) in
/-- What a reply tells is what happens to the policies: one is active, or gone, or only a
    new one is stored, which could not be applied. -/
theorem stateOf_serveQos (c : QosCall) :
    (∃ id, (m.serveQos lib c).2 = .success id "active" ∧ (id = c.drawn ∨ (m.stateOf id).isSome) ∧
        ∀ x, (m.serveQos lib c).1.stateOf x = if x = id then some .active else m.stateOf x) ∨
      (∃ id, (m.serveQos lib c).2 = .success id "deleted" ∧ (m.stateOf id).isSome ∧
        ∀ x, (m.serveQos lib c).1.stateOf x = if x = id then none else m.stateOf x) ∨
      (∃ e what, (m.serveQos lib c).2 = .error e what) ∧
        ((∀ x, (m.serveQos lib c).1.stateOf x = m.stateOf x) ∨
          ∀ x, (m.serveQos lib c).1.stateOf x =
            if x = c.drawn then some .error else m.stateOf x) := by
  rw [serveQos, handleQosRequest]
  rcases readQosRequest lib c.payload with what | ⟨data, _ | id | id⟩
  · exact .inr (.inr ⟨⟨_, _, rfl⟩, .inl fun x => rfl⟩)
  · have hcases := stateOf_createPolicy lib m c.answer c.drawn data
    dsimp only
    rcases hcreate : m.createPolicy lib c.drawn data c.answer with ⟨what | policy, m'⟩ <;>
      rw [hcreate] at hcases
    · obtain ⟨_, hok, -⟩ | ⟨-, hstates⟩ := hcases
      · cases hok
      · exact .inr (.inr ⟨⟨_, _, rfl⟩, hstates⟩)
    · obtain ⟨_, hok, hid, hactive, hstates⟩ | ⟨⟨what, herror⟩, -⟩ := hcases
      · cases hok
        refine .inl ⟨c.drawn, ?_, .inl rfl, hstates⟩
        dsimp only
        rw [hid, hactive]
        rfl
      · cases herror
  · have hcases := stateOf_updatePolicy lib m c.answer id data
    dsimp only
    rcases hupdate : m.updatePolicy lib id data c.answer with ⟨_ | _, m'⟩ <;>
      rw [hupdate] at hcases
    · obtain ⟨htrue, -⟩ | ⟨-, hstates⟩ := hcases
      · cases htrue
      · exact .inr (.inr ⟨⟨_, _, rfl⟩, .inl hstates⟩)
    · obtain ⟨-, hstored, hstates⟩ | ⟨hfalse, -⟩ := hcases
      · refine .inl ⟨id, ?_, .inr hstored, hstates⟩
        -- The state told is read off the store.
        have hactive : (m'.getPolicy id).map (·.state) = some .active := by
          exact (hstates id).trans (if_pos rfl)
        obtain ⟨policy, hpolicy, hstate⟩ := Option.map_eq_some_iff.1 hactive
        dsimp only
        rw [hpolicy, Option.elim_some, hstate]
        rfl
      · cases hfalse
  · have hcases := stateOf_deletePolicy m c.answer id
    dsimp only
    rcases hdelete : m.deletePolicy id c.answer with ⟨_ | _, m'⟩ <;> rw [hdelete] at hcases
    · obtain ⟨htrue, -⟩ | ⟨-, hstates⟩ := hcases
      · cases htrue
      · exact .inr (.inr ⟨⟨_, _, rfl⟩, .inl hstates⟩)
    · obtain ⟨-, hstored, hstates⟩ | ⟨hfalse, -⟩ := hcases
      · exact .inr (.inl ⟨id, rfl, hstored, hstates⟩)
      · cases hfalse

/-! ## All requests -/

/-- What the replies tell agrees with a state of the store. -/
def Agrees : Option String → Option PolicyState → Prop
  | some told, state => told = "active" ∧ state = some .active ∨ told = "deleted" ∧ state = none
  | none, state => state = none ∨ state = some .error

theorem told_append (policyId : String) (replies : List QosReply) (reply : QosReply) :
    told policyId (replies ++ [reply]) = match reply with
      | .success id s => if id = policyId then some s else told policyId replies
      | .error .. => told policyId replies := by
  rw [told, List.foldl_append]
  rfl

/-- The policies that are stored and those that the replies name have been drawn, and the
    replies tell the states. -/
structure Known (m : PolicyManager) (drawn : List String) (replies : List QosReply) : Prop where
  stored : ∀ x, (m.stateOf x).isSome → x ∈ drawn
  named : ∀ x, (told x replies).isSome → x ∈ drawn
  agrees : ∀ x, Agrees (told x replies) (m.stateOf x)

/-- A reply tells what has become of the policy it names. -/
theorem Known.serveQos {drawn : List String} {replies : List QosReply}
    (h : m.Known drawn replies) {c : QosCall} (hfresh : c.drawn ∉ drawn) :
    (m.serveQos lib c).1.Known (drawn ++ [c.drawn]) (replies ++ [(m.serveQos lib c).2]) := by
  have hold : ∀ x, (m.stateOf x).isSome → x ∈ drawn ++ [c.drawn] := fun x hx =>
    List.mem_append_left _ (h.stored x hx)
  have hnamed : ∀ x, (told x replies).isSome → x ∈ drawn ++ [c.drawn] := fun x hx =>
    List.mem_append_left _ (h.named x hx)
  obtain ⟨id, hreply, hid, hstates⟩ | ⟨id, hreply, hid, hstates⟩ | ⟨⟨e, what, hreply⟩, hstates⟩ :=
    stateOf_serveQos lib m c
  · have hmem : id ∈ drawn ++ [c.drawn] := by
      rcases hid with rfl | hid
      · exact List.mem_append_right _ (List.mem_singleton_self _)
      · exact hold id hid
    refine ⟨fun x => ?_, fun x => ?_, fun x => ?_⟩
    · rw [hstates]
      split_ifs with hx
      · exact fun _ => hx ▸ hmem
      · exact hold x
    · rw [told_append, hreply]
      dsimp only
      split_ifs with hx
      · exact fun _ => hx ▸ hmem
      · exact hnamed x
    · rw [told_append, hreply, hstates]
      dsimp only
      by_cases hx : id = x
      · rw [if_pos hx, if_pos hx.symm]
        exact .inl ⟨rfl, rfl⟩
      · rw [if_neg hx, if_neg (Ne.symm hx)]
        exact h.agrees x
  · refine ⟨fun x => ?_, fun x => ?_, fun x => ?_⟩
    · rw [hstates]
      split_ifs with hx
      · exact fun hnone => by cases hnone
      · exact hold x
    · rw [told_append, hreply]
      dsimp only
      split_ifs with hx
      · exact fun _ => hx ▸ hold id hid
      · exact hnamed x
    · rw [told_append, hreply, hstates]
      dsimp only
      by_cases hx : id = x
      · rw [if_pos hx, if_pos hx.symm]
        exact .inr ⟨rfl, rfl⟩
      · rw [if_neg hx, if_neg (Ne.symm hx)]
        exact h.agrees x
  · have htold : ∀ x, told x (replies ++ [(m.serveQos lib c).2]) = told x replies := by
      intro x
      rw [told_append, hreply]
    rcases hstates with hstates | hstates
    · refine ⟨fun x => ?_, fun x => ?_, fun x => ?_⟩
      · rw [hstates]
        exact hold x
      · rw [htold]
        exact hnamed x
      · rw [htold, hstates]
        exact h.agrees x
    · refine ⟨fun x => ?_, fun x => ?_, fun x => ?_⟩
      · rw [hstates]
        split_ifs with hx
        · exact fun _ => by simp [hx]
        · exact hold x
      · rw [htold]
        exact hnamed x
      · rw [htold, hstates]
        split_ifs with hx
        · -- The new policy has not been named before.
          have hnone : told x replies = none := by
            rw [← Option.not_isSome_iff_eq_none]
            exact fun hsome => hfresh (hx ▸ h.named x hsome)
          rw [hnone]
          exact .inr rfl
        · exact h.agrees x

variable (lib) in
/-- The last reply that names a policy tells its state. A policy that no reply names is not
    stored, or could not be applied. -/
theorem told_of_replies (orchestrator pcfService : Bool) (pcfDestination : String)
    (calls : List QosCall) (hdrawn : (calls.map (·.drawn)).Nodup) (policyId : String) :
    Agrees
      (told policyId (Service.answers (serveQos lib)
        (PolicyManager.create orchestrator pcfService pcfDestination) calls))
      ((Service.after (serveQos lib)
        (PolicyManager.create orchestrator pcfService pcfDestination) calls).stateOf policyId) := by
  suffices h : (Service.after (PolicyManager.serveQos lib)
      (PolicyManager.create orchestrator pcfService pcfDestination) calls).Known
        (calls.map (·.drawn)) (Service.answers (PolicyManager.serveQos lib)
          (PolicyManager.create orchestrator pcfService pcfDestination) calls) from
      h.agrees policyId
  induction calls using List.reverseRecOn with
  | nil => exact ⟨nofun, nofun, fun _ => .inl rfl⟩
  | append_singleton calls c ih =>
    rw [List.map_append, List.map_singleton] at hdrawn ⊢
    obtain ⟨hcalls, -, hfresh⟩ := List.nodup_append.1 hdrawn
    rw [Service.after_append, Service.answers_append]
    refine (ih hcalls).serveQos fun hmem => ?_
    exact hfresh _ hmem _ (List.mem_singleton_self _) rfl

/-- A request for a policy. -/
def gameRequest : String := "\x7b\"app_id\":\"game\"\x7d"

/-- A request for the deletion of a policy. -/
def gameDeletion : String := "\x7b\"operation\":\"delete\",\"policy_id\":\"policy-1\"\x7d"

/-- A library that knows these requests. -/
def requestLibrary : Json.Library where
  dump _ := "null"
  parse s :=
    if s = gameRequest then .ok (.obj [("app_id", .str "game")])
    else if s = gameDeletion then
      .ok (.obj [("operation", .str "delete"), ("policy_id", .str "policy-1")])
    else .error "[json.exception.parse_error.101] parse error"
  what _ := ""

/-- A policy is created and deleted, and another one cannot be applied. -/
def qosCalls : List QosCall :=
  [⟨"policy-1", .ok (some ⟨.created, .ok (.obj [("app_session_id", .str "app-1")])⟩), gameRequest⟩,
    ⟨"policy-2", .ok (some ⟨.deleted, .ok (.obj [])⟩), gameDeletion⟩,
    ⟨"policy-3", .ok none, gameRequest⟩]

/-- The deletion is what the replies tell of the first policy. -/
theorem told_of_qosCalls :
    told "policy-1" (Service.answers (serveQos requestLibrary)
        (PolicyManager.create true true "pcf-handler:50052") qosCalls) = some "deleted" ∧
      Agrees (some "deleted") ((Service.after (serveQos requestLibrary)
        (PolicyManager.create true true "pcf-handler:50052") qosCalls).stateOf "policy-1") :=
  ⟨by decide, told_of_replies requestLibrary true true "pcf-handler:50052" qosCalls (by decide)
    "policy-1"⟩

end PolicyManager

end PhineAf

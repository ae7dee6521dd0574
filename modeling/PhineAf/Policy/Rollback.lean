import Mathlib.Logic.Function.Conjugate
import PhineAf.Policy.Agreement

/-!
# Updates that fail

`update_policy` writes the members of a document to the stored policy one after the
other. It keeps a copy, which it puts back if the policy is invalid then or cannot be
applied, but not if a member cannot be read: what was written before stays.

The members are written independently of each other, and so nothing is changed exactly
if none of these writes changes anything (`foldl_eq_self_iff`). In the runs in which no
update leaves a change behind (`PolicyRun.Recovers`) every active policy is valid.
-/

namespace PhineAf

/-! ## Writes -/

/-- What commutes with all writes commutes with all of them together. -/
theorem commute_foldl {S : Type} {write : S → S} {writes : List (S → S)}
    (h : ∀ w ∈ writes, Function.Commute write w) :
    Function.Commute write (fun s => writes.foldl (fun s w => w s) s) := by
  intro s
  induction writes generalizing s with
  | nil => rfl
  | cons w writes ih =>
    obtain ⟨hw, h⟩ := List.forall_mem_cons.1 h
    dsimp only at ih ⊢
    rw [List.foldl_cons, List.foldl_cons, ih h, hw]

/-- Writes that commute, and that change nothing a second time, change nothing together
    exactly if none of them does. -/
theorem foldl_eq_self_iff {S : Type} {writes : List (S → S)}
    (hcomm : writes.Pairwise Function.Commute)
    (hidem : ∀ write ∈ writes, ∀ s, write (write s) = write s) (s : S) :
    writes.foldl (fun s write => write s) s = s ↔ ∀ write ∈ writes, write s = s := by
  induction writes generalizing s with
  | nil => exact iff_of_true rfl fun _ h => by cases h
  | cons write writes ih =>
    obtain ⟨hwrite, hcomm⟩ := List.pairwise_cons.1 hcomm
    have ih := ih hcomm fun w hw => hidem w (List.mem_cons_of_mem _ hw)
    rw [List.foldl_cons, List.forall_mem_cons]
    constructor
    · intro h
      -- The first write, done once more at the end, changes nothing there.
      have hs : write s = s := by
        rw [← h, commute_foldl hwrite, hidem write List.mem_cons_self]
      rw [hs] at h
      exact ⟨hs, (ih s).1 h⟩
    · rintro ⟨hs, h⟩
      rw [hs]
      exact (ih s).2 h

namespace QoSPolicy

/-- A member of a policy document, and what it writes. -/
abbrev Member := String × (Json → Except Json.Error (QoSPolicy → QoSPolicy))

/-- The document does not have the member, or it can be read. -/
def readable (data : Json) (member : Member) : Bool :=
  (data.find? member.1).all fun v => (member.2 v).isOk

/-- What a member writes, if the document has it and it can be read. -/
def written (data : Json) (member : Member) : Option (QoSPolicy → QoSPolicy) :=
  (data.find? member.1).bind fun v => (member.2 v).toOption

theorem written_eq_some {data : Json} {member : Member} {write : QoSPolicy → QoSPolicy}
    (h : written data member = some write) : ∃ v, member.2 v = .ok write := by
  obtain ⟨v, -, hv⟩ := Option.bind_eq_some_iff.1 h
  refine ⟨v, ?_⟩
  rcases hread : member.2 v with e | write'
  · rw [hread] at hv
    cases hv
  · rw [hread] at hv
    cases hv
    rfl

/-- What the members of a document write. -/
def writes (data : Json) (members : List Member) : List (QoSPolicy → QoSPolicy) :=
  members.filterMap (written data)

/-- The members are written up to the first that cannot be read. -/
theorem readMembers_snd (data : Json) (members : List Member) (policy : QoSPolicy) :
    (readMembers data members policy).2 =
      (writes data (members.takeWhile (readable data))).foldl (fun policy write => write policy)
        policy := by
  induction members generalizing policy with
  | nil => rfl
  | cons member members ih =>
    rw [readMembers, List.takeWhile_cons]
    rcases hv : data.find? member.1 with _ | v
    · have hreadable : readable data member = true := by rw [readable, hv]; rfl
      have hwritten : written data member = none := by rw [written, hv]; rfl
      rw [if_pos hreadable, writes, List.filterMap_cons_none hwritten]
      exact ih policy
    · dsimp only
      rcases hread : member.2 v with e | write
      · have hreadable : ¬readable data member = true := by
          rw [readable, hv, Option.all_some, hread]
          exact Bool.false_ne_true
        rw [if_neg hreadable]
        rfl
      · have hreadable : readable data member = true := by
          rw [readable, hv, Option.all_some, hread]
          rfl
        have hwritten : written data member = some write := by
          rw [written, hv, Option.bind_some, hread]
          rfl
        rw [if_pos hreadable, writes, List.filterMap_cons_some hwritten]
        exact ih (write policy)

/-- No exception is thrown exactly if all members can be read. -/
theorem readMembers_fst (data : Json) (members : List Member) (policy : QoSPolicy) :
    (readMembers data members policy).1 = none ↔ ∀ member ∈ members, readable data member := by
  induction members generalizing policy with
  | nil => exact iff_of_true rfl fun _ h => by cases h
  | cons member members ih =>
    obtain ⟨key, read⟩ := member
    rw [readMembers, List.forall_mem_cons, readable]
    rcases data.find? key with _ | v
    · exact (ih policy).trans (and_iff_right rfl).symm
    · dsimp only
      rw [Option.all_some]
      rcases read v with e | write
      · exact iff_of_false (fun h => by cases h) fun h => by cases h.1
      · exact (ih (write policy)).trans (and_iff_right rfl).symm

variable (lib : Json.Library)

/-- The members before the additional parameters. -/
def scalarMembers : List Member := (members lib).dropLast

/-- Two members write independently of each other. -/
def Independent (member member' : Member) : Prop :=
  ∀ v v' write write', member.2 v = .ok write → member'.2 v' = .ok write' →
    Function.Commute write write'

/-- What a member writes changes nothing a second time. -/
def Idempotent (member : Member) : Prop :=
  ∀ v write, member.2 v = .ok write → ∀ policy, write (write policy) = write policy

section Map

variable {α β : Type} {key key' : String} {read : Json → Except Json.Error α}
  {read' : Json → Except Json.Error β} {set : α → QoSPolicy → QoSPolicy}
  {set' : β → QoSPolicy → QoSPolicy}

theorem map_eq_ok {r : Except Json.Error α} {write : QoSPolicy → QoSPolicy}
    (h : r.map set = .ok write) : ∃ a, write = set a := by
  rcases r with e | a
  · cases h
  · cases h
    exact ⟨a, rfl⟩

theorem independent_map (h : ∀ a b policy, set a (set' b policy) = set' b (set a policy)) :
    Independent (key, fun v => (read v).map set) (key', fun v => (read' v).map set') := by
  intro v v' write write' hwrite hwrite'
  obtain ⟨a, rfl⟩ := map_eq_ok hwrite
  obtain ⟨b, rfl⟩ := map_eq_ok hwrite'
  exact h a b

theorem idempotent_map (h : ∀ a policy, set a (set a policy) = set a policy) :
    Idempotent (key, fun v => (read v).map set) := by
  intro v write hwrite
  obtain ⟨a, rfl⟩ := map_eq_ok hwrite
  exact h a

end Map

theorem pairwise_scalarMembers : (scalarMembers lib).Pairwise Independent := by
  simp only [scalarMembers, members, List.dropLast, List.pairwise_cons, List.forall_mem_cons,
    List.not_mem_nil, false_implies, implies_true, List.Pairwise.nil, and_true]
  and_intros
  all_goals exact independent_map fun _ _ _ => rfl

theorem idempotent_scalarMembers : ∀ member ∈ scalarMembers lib, Idempotent member := by
  simp only [scalarMembers, members, List.dropLast, List.forall_mem_cons, List.not_mem_nil,
    false_implies, implies_true, and_true]
  and_intros
  all_goals exact idempotent_map fun _ _ => rfl

/-- Reading goes on unless an exception has ended it. -/
theorem readMembers_append (data : Json) (members members' : List Member) (policy : QoSPolicy) :
    readMembers data (members ++ members') policy = match readMembers data members policy with
      | (some e, policy) => (some e, policy)
      | (none, policy) => readMembers data members' policy := by
  induction members generalizing policy with
  | nil => rfl
  | cons member members ih =>
    rw [List.cons_append, readMembers, readMembers]
    rcases data.find? member.1 with _ | v
    · exact ih policy
    · dsimp only
      rcases member.2 v with e | write
      · rfl
      · exact ih (write policy)

variable {lib} {data : Json} {policy : QoSPolicy}

/-- The additional parameters can always be read. -/
theorem exists_members_eq (lib : Json.Library) (data : Json) :
    ∃ member, members lib = scalarMembers lib ++ [member] ∧ readable data member = true := by
  refine ⟨_, rfl, ?_⟩
  rw [readable]
  rcases data.find? _ with _ | v
  · rfl
  · rw [Option.all_some]
    dsimp only
    split <;> rfl

theorem readData_fst :
    (readData lib data policy).1 = none ↔ ∀ member ∈ scalarMembers lib, readable data member := by
  obtain ⟨member, heq, hreadable⟩ := exists_members_eq lib data
  rw [readData, readMembers_fst, heq, List.forall_mem_append]
  refine and_iff_left fun member' hmem => ?_
  rw [List.mem_singleton.1 hmem]
  exact hreadable

/-- What is written before an exception changes nothing. -/
def Unwritten (lib : Json.Library) (data : Json) (policy : QoSPolicy) : Prop :=
  ∀ write ∈ writes data ((scalarMembers lib).takeWhile (readable data)), write policy = policy

theorem readData_snd_eq_iff (h : (readData lib data policy).1 ≠ none) :
    (readData lib data policy).2 = policy ↔ Unwritten lib data policy := by
  have hsnd : (readData lib data policy).2 =
      (readMembers data (scalarMembers lib) policy).2 := by
    rw [Ne, readData_fst, ← readMembers_fst data _ policy] at h
    obtain ⟨member, heq, -⟩ := exists_members_eq lib data
    rw [readData, heq, readMembers_append]
    rcases hread : readMembers data (scalarMembers lib) policy with ⟨_ | e, policy'⟩
    · rw [hread] at h
      exact absurd rfl h
    · rfl
  have hsub := List.takeWhile_sublist (l := scalarMembers lib) (readable data)
  rw [hsnd, readMembers_snd]
  refine foldl_eq_self_iff ?_ ?_ policy
  · rw [writes, List.pairwise_filterMap]
    refine ((pairwise_scalarMembers lib).sublist hsub).imp ?_
    intro member member' hind write hwrite write' hwrite'
    obtain ⟨v, hv⟩ := written_eq_some hwrite
    obtain ⟨v', hv'⟩ := written_eq_some hwrite'
    exact hind v v' write write' hv hv'
  · intro write hwrite
    obtain ⟨member, hmem, hwrite⟩ := List.mem_filterMap.1 hwrite
    obtain ⟨v, hv⟩ := written_eq_some hwrite
    exact idempotent_scalarMembers lib member (hsub.subset hmem) v write hv

/-- An update of the policy with the document leaves no change behind if it fails: all
    members can be read, or nothing changes before the first that cannot. -/
def Recoverable (lib : Json.Library) (data : Json) (policy : QoSPolicy) : Prop :=
  (∀ member ∈ scalarMembers lib, readable data member) ∨ Unwritten lib data policy

end QoSPolicy

/-! ## Operations -/

namespace PolicyManager

variable (lib : Json.Library) {m : PolicyManager} {answer : AppSessionAnswer}

/-- The PCF handler has no say in whether a policy is valid. -/
theorem validatePolicy_applyAnswer (policy : QoSPolicy) (answer : AppSessionAnswer) :
    (applyAnswer lib policy answer).2.validatePolicy = policy.validatePolicy := by
  unfold applyAnswer
  split
  · rfl
  · rfl
  · split <;> rfl
  · split <;> rfl
  · rfl

theorem applyPolicy_frame (policy : QoSPolicy) (answer : AppSessionAnswer) :
    (m.applyPolicy lib policy answer).1.2.validatePolicy = policy.validatePolicy ∧
      (m.applyPolicy lib policy answer).2.policies = m.policies := by
  rw [applyPolicy]
  split_ifs
  · exact ⟨validatePolicy_applyAnswer lib policy answer, rfl⟩
  · exact ⟨rfl, rfl⟩

/-- A creation stores nothing, or a valid policy. -/
theorem createPolicy_stores (policyId : String) (data : Json) (answer : AppSessionAnswer) :
    (m.createPolicy lib policyId data answer).2 = m ∨
      ∃ (id : String) (policy : QoSPolicy) (m' : PolicyManager),
        (m.createPolicy lib policyId data answer).2 = m'.store id policy ∧
        m'.policies = m.policies ∧ policy.validatePolicy = true := by
  rw [createPolicy]
  rcases QoSPolicy.readData lib data { id := policyId } with ⟨_ | e, policy⟩
  · dsimp only
    split_ifs with hvalid
    · exact .inl rfl
    · have hvalid : policy.validatePolicy = true := by simpa using hvalid
      obtain ⟨hvalid', hpolicies⟩ :=
        applyPolicy_frame lib (m := m) { policy with state := .inactive } answer
      rcases heq : m.applyPolicy lib { policy with state := .inactive } answer with
        ⟨⟨_ | _, policy'⟩, m'⟩ <;> rw [heq] at hvalid' hpolicies
      · exact .inr ⟨_, _, m', rfl, hpolicies, hvalid'.trans hvalid⟩
      · exact .inr ⟨_, _, m', rfl, hpolicies, hvalid'.trans hvalid⟩
  · exact .inl rfl

/-- An update stores what it has read if it ends in an exception; otherwise the policy
    there was, if it fails, and a valid one, if it does not. -/
theorem updatePolicy_stores {policyId : String} {old : QoSPolicy}
    (h : m.getPolicy policyId = some old) (data : Json) (answer : AppSessionAnswer) :
    ∃ (policy : QoSPolicy) (m' : PolicyManager),
      (m.updatePolicy lib policyId data answer).2 = m'.store policyId policy ∧
      m'.policies = m.policies ∧
      ((m.updatePolicy lib policyId data answer).1 = false ∧
          (QoSPolicy.readData lib data old).1 ≠ none ∧
          policy = (QoSPolicy.readData lib data old).2 ∨
        (QoSPolicy.readData lib data old).1 = none ∧
          ((m.updatePolicy lib policyId data answer).1 = false ∧ policy = old ∨
            (m.updatePolicy lib policyId data answer).1 = true ∧
              policy.validatePolicy = true)) := by
  rw [getPolicy] at h
  rw [updatePolicy, h]
  dsimp only
  rcases QoSPolicy.readData lib data old with ⟨_ | e, policy⟩
  · dsimp only
    split_ifs with hvalid
    · exact ⟨old, m, rfl, rfl, .inr ⟨rfl, .inl ⟨rfl, rfl⟩⟩⟩
    · have hvalid : policy.validatePolicy = true := by simpa using hvalid
      obtain ⟨hvalid', hpolicies⟩ := applyPolicy_frame lib (m := m) policy answer
      rcases heq : m.applyPolicy lib policy answer with ⟨⟨_ | _, policy'⟩, m'⟩ <;>
        rw [heq] at hvalid' hpolicies
      · exact ⟨old, m', rfl, hpolicies, .inr ⟨rfl, .inl ⟨rfl, rfl⟩⟩⟩
      · exact ⟨policy', m', rfl, hpolicies, .inr ⟨rfl, .inr ⟨rfl, hvalid'.trans hvalid⟩⟩⟩
  · exact ⟨policy, m, rfl, rfl, .inl ⟨rfl, (fun h => by cases h), rfl⟩⟩

/-- A deletion stores nothing. -/
theorem getPolicy_deletePolicy {policyId x : String} {policy : QoSPolicy}
    (h : (m.deletePolicy policyId answer).2.getPolicy x = some policy) :
    m.getPolicy x = some policy := by
  have hremove : ∀ old, (m.removePolicy old answer).2.policies = m.policies := by
    intro old
    rw [removePolicy]
    split_ifs
    · rfl
    · dsimp only
      split <;> rfl
    · rfl
  rw [deletePolicy] at h
  rcases hold : m.policies.lookup policyId with _ | old
  · rw [hold] at h
    exact h
  · rw [hold] at h
    dsimp only at h
    have hremove := hremove old
    rcases heq : m.removePolicy old answer with ⟨_ | _, m'⟩ <;> rw [heq] at h hremove
    · rwa [getPolicy, hremove] at h
    · rw [getPolicy, Table.lookup_erase_eq] at h
      split_ifs at h
      rwa [hremove] at h

/-- The policies are those there were. -/
def SamePolicies (m m' : PolicyManager) : Prop := ∀ id, m'.getPolicy id = m.getPolicy id

theorem samePolicies_store_iff {m' : PolicyManager} {policyId : String} {old policy : QoSPolicy}
    (hpolicies : m'.policies = m.policies) (hold : m.getPolicy policyId = some old) :
    SamePolicies m (m'.store policyId policy) ↔ policy = old := by
  constructor
  · intro h
    have h := h policyId
    rw [getPolicy_store, if_pos rfl, hold] at h
    exact Option.some.inj h
  · rintro rfl id
    rw [getPolicy_store]
    split_ifs with hid
    · rw [hid, hold]
    · rw [getPolicy, hpolicies, getPolicy]

/-- An update of the policy with the document leaves no change behind if it fails. -/
def Recovers (m : PolicyManager) (policyId : String) (data : Json) : Prop :=
  ∀ old, m.getPolicy policyId = some old → QoSPolicy.Recoverable lib data old

/-- Every active policy is valid. -/
def Valid (m : PolicyManager) : Prop :=
  ∀ id policy, m.getPolicy id = some policy → policy.state = .active →
    policy.validatePolicy = true

variable {lib}

theorem Valid.store (h : m.Valid) {m' : PolicyManager} (hpolicies : m'.policies = m.policies)
    {policyId : String} {policy : QoSPolicy}
    (hpolicy : policy.state = .active → policy.validatePolicy = true) :
    (m'.store policyId policy).Valid := by
  intro x policy' hx hactive
  rw [getPolicy_store] at hx
  split_ifs at hx
  · cases hx
    exact hpolicy hactive
  · rw [getPolicy, hpolicies] at hx
    exact h x policy' hx hactive

/-- An update that fails leaves the policies as they were exactly if it recovers. -/
theorem samePolicies_updatePolicy_iff (policyId : String) (data : Json)
    (answer : AppSessionAnswer) :
    ((m.updatePolicy lib policyId data answer).1 = false →
      SamePolicies m (m.updatePolicy lib policyId data answer).2) ↔
        m.Recovers lib policyId data := by
  rcases hold : m.getPolicy policyId with _ | old
  · refine iff_of_true (fun _ => ?_) fun old' hold' => by cases hold.symm.trans hold'
    rw [getPolicy] at hold
    rw [updatePolicy, hold]
    exact fun _ => rfl
  have hrecovers : m.Recovers lib policyId data ↔ QoSPolicy.Recoverable lib data old :=
    ⟨fun h => h old hold, fun h old' hold' => Option.some.inj (hold.symm.trans hold') ▸ h⟩
  obtain ⟨policy, m', heq, hpolicies, ⟨hfails, hread, rfl⟩ | ⟨hread, hend⟩⟩ :=
    updatePolicy_stores lib hold data answer
  · rw [hfails, heq, samePolicies_store_iff hpolicies hold, hrecovers, QoSPolicy.Recoverable,
      QoSPolicy.readData_snd_eq_iff hread, ← @QoSPolicy.readData_fst lib data old]
    exact ⟨fun h => .inr (h rfl), fun h _ => h.resolve_left hread⟩
  · refine iff_of_true (fun hfails => ?_) (hrecovers.2 (.inl (QoSPolicy.readData_fst.1 hread)))
    rw [heq, samePolicies_store_iff hpolicies hold]
    rcases hend with ⟨-, hpolicy⟩ | ⟨hsucceeds, -⟩
    · exact hpolicy
    · cases hfails.symm.trans hsucceeds

theorem Valid.updatePolicy (h : m.Valid) {policyId : String} {data : Json}
    (hrecovers : m.Recovers lib policyId data) :
    (m.updatePolicy lib policyId data answer).2.Valid := by
  rcases hfails : (m.updatePolicy lib policyId data answer).1
  · intro x policy hx
    rw [(samePolicies_updatePolicy_iff policyId data answer).2 hrecovers hfails] at hx
    exact h x policy hx
  · rcases hold : m.getPolicy policyId with _ | old
    · rw [getPolicy] at hold
      rw [PolicyManager.updatePolicy, hold] at hfails
      cases hfails
    obtain ⟨policy, m', heq, hpolicies, ⟨hfails', -⟩ | ⟨-, ⟨hfails', -⟩ | ⟨-, hvalid⟩⟩⟩ :=
      updatePolicy_stores lib hold data answer
    · cases hfails.symm.trans hfails'
    · cases hfails.symm.trans hfails'
    · rw [heq]
      exact h.store hpolicies fun _ => hvalid

theorem Valid.createPolicy (h : m.Valid) (policyId : String) (data : Json) :
    (m.createPolicy lib policyId data answer).2.Valid := by
  rcases createPolicy_stores lib policyId data answer with
    heq | ⟨id, policy, m', heq, hpolicies, hvalid⟩ <;> rw [heq]
  · exact h
  · exact h.store hpolicies fun _ => hvalid

end PolicyManager

/-! ## Runs -/

/-- The runs of a policy manager, from any set-up, whatever the PCF handler answers. -/
def anyPolicySystem (lib : Json.Library) : System PolicyRun PolicyOp where
  init r := ∃ orchestrator pcfService pcfDestination,
    r = ⟨.create orchestrator pcfService pcfDestination, []⟩
  step r op r' := r.next lib op = some r'

namespace PolicyRun

variable {lib : Json.Library} {r : PolicyRun}

/-- The operation leaves no change behind if it fails. -/
def Recovers (lib : Json.Library) (r : PolicyRun) : PolicyOp → Prop
  | .updatePolicy policyId data _ => r.manager.Recovers lib policyId data
  | _ => True

theorem valid_of_reachable
    (hr : ((anyPolicySystem lib).restrict (Recovers lib)).Reachable r) : r.manager.Valid := by
  refine System.Reachable.invariant (P := fun r : PolicyRun => r.manager.Valid) ?_ ?_ hr
  · rintro r ⟨orchestrator, pcfService, pcfDestination, rfl⟩ id policy hpolicy
    cases hpolicy
  · rintro r op r' - h ⟨hrecovers, hnext⟩
    obtain ⟨-, hmanager, -⟩ := next_eq hnext
    rw [hmanager]
    rcases op with ⟨policyId, data, answer⟩ | ⟨policyId, data, answer⟩ | ⟨policyId, answer⟩
    · exact h.createPolicy policyId data
    · exact h.updatePolicy hrecovers
    · exact fun x policy hx => h x policy (PolicyManager.getPolicy_deletePolicy hx)

/-- A failed update changes nothing exactly if it recovers; and in the runs whose updates
    do, every active policy is valid. -/
theorem update_recovers (lib : Json.Library) :
    (∀ (m : PolicyManager) policyId data answer,
      ((m.updatePolicy lib policyId data answer).1 = false →
        m.SamePolicies (m.updatePolicy lib policyId data answer).2) ↔
          m.Recovers lib policyId data) ∧
      ∀ r, ((anyPolicySystem lib).restrict (Recovers lib)).Reachable r → r.manager.Valid :=
  ⟨fun _ policyId data answer => PolicyManager.samePolicies_updatePolicy_iff policyId data answer,
    fun _ hr => valid_of_reachable hr⟩

/-- A policy is created, and an update of it cannot be read before anything is written:
    the policy is active and valid still. -/
theorem valid_after_recovery : ∃ (r : PolicyRun) (policy : QoSPolicy),
    ((anyPolicySystem plainLibrary).restrict (Recovers plainLibrary)).Reachable r ∧
      r.manager.getPolicy "policy-1" = some policy ∧ policy.state = .active ∧
      policy.validatePolicy = true := by
  have h₀ : ((anyPolicySystem plainLibrary).restrict (Recovers plainLibrary)).Reachable initial :=
    .init ⟨_, _, _, rfl⟩
  have h₁ := h₀.step (a := gamePolicy) ⟨trivial, rfl⟩
  let data : Json := .obj [("app_id", .str "game"), ("qos_reference", .str "x")]
  have hrecovers : (initial.manager.next plainLibrary gamePolicy).Recovers plainLibrary
      "policy-1" data := by
    intro old hold
    cases hold
    refine .inr fun write hwrite => ?_
    cases List.mem_singleton.1 hwrite
    rfl
  have h₂ := h₁.step (a := PolicyOp.updatePolicy "policy-1" data (sessionCreated "app-2"))
    ⟨hrecovers, rfl⟩
  exact ⟨_, _, h₂, rfl, rfl, (update_recovers plainLibrary).2 _ h₂ "policy-1" _ rfl rfl⟩

/-- The flow direction of an active policy is written, the 5QI after it cannot be read:
    the update fails, and the policy has changed and is no longer valid. -/
theorem invalid_after_failure : ∃ (r : PolicyRun) (data : Json),
    (anyPolicySystem plainLibrary).Reachable r ∧ r.manager.Valid ∧
      (r.manager.updatePolicy plainLibrary "policy-1" data (.ok none)).1 = false ∧
      ¬r.manager.SamePolicies (r.manager.updatePolicy plainLibrary "policy-1" data (.ok none)).2 ∧
      ¬(r.manager.updatePolicy plainLibrary "policy-1" data (.ok none)).2.Valid := by
  have h₀ : ((anyPolicySystem plainLibrary).restrict (Recovers plainLibrary)).Reachable initial :=
    .init ⟨_, _, _, rfl⟩
  have h₁ := h₀.step (a := gamePolicy) ⟨trivial, rfl⟩
  have hvalid := valid_of_reachable h₁
  let data : Json := .obj [("flow_direction", .str "sideways"), ("qos_reference", .str "x")]
  have hinvalid : ¬(PolicyManager.updatePolicy plainLibrary (initial.manager.next plainLibrary
      gamePolicy) "policy-1" data (.ok none)).2.Valid := fun h => by
    cases h "policy-1" _ rfl rfl
  refine ⟨_, data, h₁.of_restrict, hvalid, rfl, fun h => hinvalid ?_, hinvalid⟩
  intro id policy hpolicy
  rw [h] at hpolicy
  exact hvalid id policy hpolicy

end PolicyRun

end PhineAf

import PhineAf.Lib.Holding
import PhineAf.Lib.System
import PhineAf.Policy.Manager

/-!
# Policies and application sessions

The application sessions that the PCF handler has created and not deleted are to be
those of the active policies, one for each. Both sides are read off a run: the policies
off the store (`PolicyManager.held`), the application sessions off the log of the calls
(`alive`).

An update of an active policy creates a second application session, and the policy
forgets the first, which nothing can delete any more. In the runs without such an
update (`PolicyRun.KeepsSessions`) the account is exact (`PolicyRun.accounted_of_reachable`).
-/

namespace PhineAf

/-! ## The log of the calls -/

namespace AppSessionCall

/-- The application session that a call has created. -/
def created : AppSessionCall → Option String
  | ⟨.create .., .ok (some ⟨.created, .ok payload⟩)⟩ =>
    (payload.find? "app_session_id").bind fun v => v.getStr.toOption
  | _ => none

/-- The application session that a call has deleted. -/
def deleted : AppSessionCall → Option String
  | ⟨.delete _ appSessionId, .ok (some ⟨.deleted, _⟩)⟩ => some appSessionId
  | _ => none

end AppSessionCall

/-- The application sessions created by the calls. -/
def issued (calls : List AppSessionCall) : List String := calls.filterMap (·.created)

/-- The application sessions created by the calls, and not deleted since. -/
def alive : List AppSessionCall → List String
  | [] => []
  | call :: calls => call.created.toList ++ (alive calls).filter fun p => some p ≠ call.deleted

theorem alive_subset_issued (calls : List AppSessionCall) : alive calls ⊆ issued calls := by
  induction calls with
  | nil => exact List.Subset.refl _
  | cons call calls ih =>
    intro p hp
    rw [issued, List.filterMap_cons]
    rcases List.mem_append.1 hp with hp | hp
    · rw [Option.mem_toList.1 hp]
      exact List.mem_cons_self
    · have hmem : p ∈ issued calls := ih (List.mem_of_mem_filter hp)
      rcases call.created with _ | q
      · exact hmem
      · exact List.mem_cons_of_mem _ hmem

/-! ## Answers of the PCF handler -/

namespace AppSessionAnswer

/-- The answer says that an application session has been created. -/
def Creates (answer : AppSessionAnswer) (appSessionId : String) : Prop :=
  ∃ payload, answer = .ok (some ⟨.created, .ok payload⟩) ∧
    payload.find? "app_session_id" = some (.str appSessionId)

/-- The answer is an error. -/
def Refuses (answer : AppSessionAnswer) : Prop := ∃ payload, answer = .ok (some ⟨.error, payload⟩)

/-- The answer says that an application session has been deleted. -/
def Deletes (answer : AppSessionAnswer) : Prop :=
  ∃ payload, answer = .ok (some ⟨.deleted, payload⟩)

variable {answer : AppSessionAnswer} {p : String}

theorem Creates.not_refuses (h : answer.Creates p) : ¬answer.Refuses := by
  obtain ⟨payload, rfl, -⟩ := h
  rintro ⟨payload', heq⟩
  cases heq

end AppSessionAnswer

namespace PolicyManager

variable {m m' : PolicyManager} {answer : AppSessionAnswer}

/-- The calls have changed nothing at the PCF handler. -/
def Quiet (m m' : PolicyManager) : Prop := alive m'.calls = alive m.calls

/-- The calls have created an application session. -/
def Opens (p : String) (m m' : PolicyManager) : Prop := alive m'.calls = p :: alive m.calls

/-- The calls have deleted an application session. -/
def Closes (p : String) (m m' : PolicyManager) : Prop :=
  alive m'.calls = (alive m.calls).filter fun q => q ≠ p

theorem opens_call {p : String} (h : answer.Creates p) (policyId : String) (payload : Json) :
    Opens p m (m.call (.create policyId payload) answer) := by
  obtain ⟨reply, rfl, hp⟩ := h
  have hcreated : AppSessionCall.created
      ⟨.create policyId payload, .ok (some ⟨.created, .ok reply⟩)⟩ = some p := by
    rw [AppSessionCall.created, hp]
    rfl
  rw [Opens, call, alive, hcreated]
  exact congrArg _ (List.filter_eq_self.2 fun _ _ => rfl)

theorem quiet_call (h : answer.Refuses) (request : AppSessionRequest) :
    Quiet m (m.call request answer) := by
  obtain ⟨payload, rfl⟩ := h
  rw [Quiet, call, alive]
  rcases request with _ | _ <;> exact List.filter_eq_self.2 fun _ _ => rfl

theorem closes_call (h : answer.Deletes) (policyId p : String) :
    Closes p m (m.call (.delete policyId p) answer) := by
  obtain ⟨payload, rfl⟩ := h
  rw [Closes, call, alive]
  refine List.filter_congr fun q _ => ?_
  simp [AppSessionCall.deleted]

end PolicyManager

/-! ## What is read -/

namespace QoSPolicy

variable (lib : Json.Library)

/-- What no member writes stays as it is. -/
theorem readMembers_frame {α : Type} (f : QoSPolicy → α) (data : Json)
    (members : List (String × (Json → Except Json.Error (QoSPolicy → QoSPolicy))))
    (h : ∀ member ∈ members, ∀ v write, member.2 v = .ok write → ∀ policy, f (write policy) = f policy)
    (policy : QoSPolicy) : f (readMembers data members policy).2 = f policy := by
  induction members generalizing policy with
  | nil => rfl
  | cons member members ih =>
    obtain ⟨key, read⟩ := member
    have hmembers := ih fun member hmem => h member (List.mem_cons_of_mem _ hmem)
    rw [readMembers]
    split
    next => exact hmembers policy
    next v _ =>
      split
      next => rfl
      next write hwrite =>
        rw [hmembers (write policy)]
        exact h (key, read) List.mem_cons_self v write hwrite policy

/-- What a document can not say of a policy. -/
def record (policy : QoSPolicy) : String × PolicyState × String :=
  (policy.id, policy.state, policy.pcfTransactionId)

/-- A document says nothing of the id, the state and the application session. -/
theorem record_readData (data : Json) (policy : QoSPolicy) :
    (readData lib data policy).2.record = policy.record := by
  refine readMembers_frame record data (members lib) ?_ policy
  have hmap : ∀ {α : Type} {r : Except Json.Error α} {set : α → QoSPolicy → QoSPolicy},
      (∀ a policy, (set a policy).record = policy.record) →
      ∀ write, r.map set = .ok write → ∀ policy, (write policy).record = policy.record := by
    intro α r set hset write hwrite policy
    rcases r with e | a
    · cases hwrite
    · cases hwrite
      exact hset a policy
  intro member hmem v
  simp only [members, List.mem_cons, List.not_mem_nil, or_false] at hmem
  rcases hmem with rfl | rfl | rfl | rfl | rfl | rfl | rfl | rfl
  · exact hmap fun _ _ => rfl
  · exact hmap fun _ _ => rfl
  · exact hmap fun _ _ => rfl
  · exact hmap fun _ _ => rfl
  · exact hmap fun _ _ => rfl
  · exact hmap fun _ _ => rfl
  · exact hmap fun _ _ => rfl
  · intro write hwrite policy
    dsimp only at hwrite
    split at hwrite <;> cases hwrite <;> rfl

/-- The application session of an active policy. -/
def inForce (policy : QoSPolicy) : Option String :=
  if policy.state = .active then some policy.pcfTransactionId else none

theorem inForce_congr {policy policy' : QoSPolicy} (h : policy'.record = policy.record) :
    policy'.inForce = policy.inForce := by
  simp only [record, Prod.mk.injEq] at h
  rw [inForce, inForce, h.2.1, h.2.2]

/-- The policy is put into force with an application session. -/
def withSession (policy : QoSPolicy) (appSessionId : String) : QoSPolicy :=
  { policy with
    pcfTransactionId := appSessionId
    state := .active }

theorem inForce_withSession (policy : QoSPolicy) (p : String) :
    (policy.withSession p).inForce = some p := rfl

/-- A policy has an application session exactly while it is active. -/
def Sound (policy : QoSPolicy) : Prop := policy.state = .active ↔ policy.pcfTransactionId ≠ ""

theorem Sound.congr {policy policy' : QoSPolicy} (hs : policy.Sound)
    (h : policy'.record = policy.record) : policy'.Sound := by
  simp only [record, Prod.mk.injEq] at h
  rwa [Sound, h.2.1, h.2.2]

theorem sound_withSession {p : String} (hp : p ≠ "") (policy : QoSPolicy) :
    (policy.withSession p).Sound :=
  iff_of_true rfl hp

end QoSPolicy

namespace PolicyManager

variable (lib : Json.Library) {m m' : PolicyManager} {answer : AppSessionAnswer}
  {policy : QoSPolicy} {policyId p : String}

/-! ## What each operation does -/

/-- The policies after a policy has been stored. -/
theorem getPolicy_store (x : String) :
    (m.store policyId policy).getPolicy x = if x = policyId then some policy else m.getPolicy x :=
  Table.lookup_insert_eq ..

theorem applyAnswer_of_creates (h : answer.Creates p) (policy : QoSPolicy) :
    applyAnswer lib policy answer = (true, policy.withSession p) := by
  obtain ⟨payload, rfl, hp⟩ := h
  have htext : textUnder lib (.ok payload) "app_session_id" = .ok (some p) := by
    rw [textUnder]
    dsimp only [bind, Except.bind]
    rw [Json.optional, hp]
    rfl
  rw [applyAnswer, htext]
  rfl

theorem applyAnswer_of_refuses (h : answer.Refuses) (policy : QoSPolicy) :
    ∃ reason, applyAnswer lib policy answer = failPolicy policy reason := by
  obtain ⟨payload, rfl⟩ := h
  rw [applyAnswer]
  split <;> exact ⟨_, rfl⟩

/-- The PCF handler answers a request to create with a new application session, whose id
    is not empty, or with an error. -/
def AnswersCreate (m : PolicyManager) (answer : AppSessionAnswer) : Prop :=
  (∃ p, answer.Creates p ∧ p ≠ "" ∧ p ∉ issued m.calls) ∨ answer.Refuses

/-- The PCF handler answers a request to delete with a success or an error. -/
def AnswersDelete (answer : AppSessionAnswer) : Prop := answer.Deletes ∨ answer.Refuses

/-- A policy is put into force with the application session created for it, or fails and
    none is created. -/
theorem applyPolicy_cases (hanswer : m.AnswersCreate answer) (policy : QoSPolicy) :
    (m.pcfReady = true ∧ ∃ p m', answer.Creates p ∧ p ≠ "" ∧ p ∉ issued m.calls ∧
        m.applyPolicy lib policy answer = ((true, policy.withSession p), m') ∧
        m'.policies = m.policies ∧ Opens p m m') ∨
      ¬(m.pcfReady = true ∧ ∃ p, answer.Creates p) ∧ ∃ policy' m',
        m.applyPolicy lib policy answer = ((false, policy'), m') ∧ policy'.id = policy.id ∧
        policy'.pcfTransactionId = policy.pcfTransactionId ∧ m'.policies = m.policies ∧
        Quiet m m' := by
  rw [applyPolicy]
  split_ifs with hready
  · rcases hanswer with ⟨p, hcreates, hp, hfresh⟩ | hrefuses
    · rw [applyAnswer_of_creates lib hcreates]
      exact .inl ⟨hready, p, _, hcreates, hp, hfresh, rfl, rfl, opens_call hcreates _ _⟩
    · obtain ⟨reason, heq⟩ := applyAnswer_of_refuses lib hrefuses policy
      rw [heq]
      refine .inr ⟨fun ⟨_, _, hcreates⟩ => hcreates.not_refuses hrefuses, _, _, rfl, rfl, rfl, rfl, ?_⟩
      exact quiet_call hrefuses _
  · exact .inr ⟨fun h => hready h.1, _, _, rfl, rfl, rfl, rfl, rfl⟩

/-- A creation stores nothing; or a policy without an application session, and the PCF
    handler has created none; or an active policy, with the one it has created. -/
theorem createPolicy_cases (hanswer : m.AnswersCreate answer) (policyId : String) (data : Json) :
    (m.createPolicy lib policyId data answer).2 = m ∨
      ∃ policy m', (m.createPolicy lib policyId data answer).2 = m'.store policyId policy ∧
        m'.policies = m.policies ∧ policy.Sound ∧
        (policy.inForce = none ∧ Quiet m m' ∨
          ∃ p, policy.inForce = some p ∧ p ∉ issued m.calls ∧ Opens p m m') := by
  have hrecord := QoSPolicy.record_readData lib data { id := policyId }
  rw [createPolicy]
  rcases hread : QoSPolicy.readData lib data { id := policyId } with ⟨_ | e, policy⟩
  · dsimp only
    rw [hread] at hrecord
    simp only [QoSPolicy.record, Prod.mk.injEq] at hrecord
    split_ifs
    · exact .inl rfl
    · refine .inr ?_
      -- The policy that is applied, of which only the id and that it is new matter.
      have hid : ({ policy with state := .inactive } : QoSPolicy).id = policyId := hrecord.1
      have htransaction : ({ policy with state := .inactive } : QoSPolicy).pcfTransactionId = "" :=
        hrecord.2.2
      generalize ({ policy with state := .inactive } : QoSPolicy) = policy₁ at hid htransaction ⊢
      rcases applyPolicy_cases lib hanswer policy₁ with
        ⟨-, p, m', -, hp, hfresh, heq, hpolicies, hopens⟩ |
        ⟨-, policy', m', heq, hid', htransaction', hpolicies, hquiet⟩
      · rw [heq]
        exact ⟨policy₁.withSession p, m', congrArg (m'.store · _) hid, hpolicies,
          QoSPolicy.sound_withSession hp _, .inr ⟨p, rfl, hfresh, hopens⟩⟩
      · rw [heq]
        refine ⟨_, m', congrArg (m'.store · _) (hid'.trans hid), hpolicies, ?_, .inl ⟨rfl, hquiet⟩⟩
        exact iff_of_false (fun h => by cases h) fun h => h (htransaction'.trans htransaction)
  · exact .inl rfl

/-- An update of a policy gets as far as a request to the PCF handler. -/
def Requests (m : PolicyManager) (policyId : String) (data : Json) : Prop :=
  m.pcfReady = true ∧ ∃ old, m.getPolicy policyId = some old ∧
    (QoSPolicy.readData lib data old).1 = none ∧
    (QoSPolicy.readData lib data old).2.validatePolicy = true

/-- An update that makes the PCF handler create an application session takes it for the
    policy. Any other leaves the application sessions of all policies as they are. -/
theorem updatePolicy_cases (hanswer : m.AnswersCreate answer) (policyId : String) (data : Json) :
    (m.Requests lib policyId data ∧ ∃ (p : String) (policy : QoSPolicy) (m' : PolicyManager),
        answer.Creates p ∧ p ≠ "" ∧ p ∉ issued m.calls ∧
        (m.updatePolicy lib policyId data answer).2 = m'.store policyId (policy.withSession p) ∧
        m'.policies = m.policies ∧ Opens p m m') ∨
      ¬(m.Requests lib policyId data ∧ ∃ p, answer.Creates p) ∧
        ((m.updatePolicy lib policyId data answer).2 = m ∨
          ∃ old policy m', m.getPolicy policyId = some old ∧ policy.record = old.record ∧
            (m.updatePolicy lib policyId data answer).2 = m'.store policyId policy ∧
            m'.policies = m.policies ∧ Quiet m m') := by
  rw [updatePolicy]
  rcases hold : m.policies.lookup policyId with _ | old
  · refine .inr ⟨?_, .inl rfl⟩
    rintro ⟨⟨-, old, hold', -⟩, -⟩
    cases hold.symm.trans hold'
  · have hrecord := QoSPolicy.record_readData lib data old
    dsimp only
    rcases hread : QoSPolicy.readData lib data old with ⟨_ | e, policy⟩ <;> rw [hread] at hrecord
    · dsimp only
      split_ifs with hvalid
      · refine .inr ⟨?_, .inr ⟨old, old, m, hold, rfl, rfl, rfl, rfl⟩⟩
        rintro ⟨⟨-, old', hold', -, hvalid'⟩, -⟩
        obtain rfl : old = old' := Option.some.inj (hold.symm.trans hold')
        rw [hread] at hvalid'
        simp [hvalid'] at hvalid
      · have hrequests : m.Requests lib policyId data ↔ m.pcfReady = true := by
          refine ⟨And.left, fun hready => ⟨hready, old, hold, ?_⟩⟩
          rw [hread]
          simpa using hvalid
        rcases applyPolicy_cases lib hanswer policy with
          ⟨hready, p, m', hcreates, hp, hfresh, heq, hpolicies, hopens⟩ |
          ⟨hnot, policy', m', heq, -, -, hpolicies, hquiet⟩
        · rw [heq]
          exact .inl ⟨hrequests.2 hready, p, policy, m', hcreates, hp, hfresh, rfl, hpolicies, hopens⟩
        · rw [heq, hrequests]
          exact .inr ⟨hnot, .inr ⟨old, old, m', hold, rfl, rfl, hpolicies, hquiet⟩⟩
    · -- What was read before the exception stays written.
      refine .inr ⟨?_, .inr ⟨old, policy, m, hold, hrecord, rfl, rfl, rfl⟩⟩
      rintro ⟨⟨-, old', hold', hread', -⟩, -⟩
      obtain rfl : old = old' := Option.some.inj (hold.symm.trans hold')
      rw [hread] at hread'
      cases hread'

/-- A deletion keeps the policies; or takes away one without an application session; or
    one whose application session the PCF handler has deleted. -/
theorem deletePolicy_cases (hanswer : AnswersDelete answer) (policyId : String) :
    (∃ m', (m.deletePolicy policyId answer).2 = m' ∧ m'.policies = m.policies ∧ Quiet m m') ∨
      ∃ policy m', m.getPolicy policyId = some policy ∧
        (m.deletePolicy policyId answer).2 = { m' with policies := m.policies.erase policyId } ∧
        (policy.pcfTransactionId = "" ∧ Quiet m m' ∨
          policy.pcfTransactionId ≠ "" ∧ Closes policy.pcfTransactionId m m') := by
  rw [deletePolicy]
  rcases hpolicy : m.policies.lookup policyId with _ | policy
  · exact .inl ⟨m, rfl, rfl, rfl⟩
  · dsimp only
    rw [removePolicy]
    split_ifs with hempty hready
    · exact .inr ⟨policy, m, hpolicy, rfl, .inl ⟨String.isEmpty_iff.1 hempty, rfl⟩⟩
    · rcases hanswer with hdeletes | hrefuses
      · have hcloses := closes_call (m := m) hdeletes policy.id policy.pcfTransactionId
        obtain ⟨payload, rfl⟩ := hdeletes
        refine .inr ⟨policy, _, hpolicy, rfl, .inr ⟨fun h => hempty ?_, hcloses⟩⟩
        exact String.isEmpty_iff.2 h
      · have hquiet := quiet_call (m := m) hrefuses (.delete policy.id policy.pcfTransactionId)
        obtain ⟨payload, rfl⟩ := hrefuses
        exact .inl ⟨_, rfl, rfl, hquiet⟩
    · exact .inl ⟨m, rfl, rfl, rfl⟩

/-! ## The account -/

/-- The application session that a policy holds. -/
def held (m : PolicyManager) (policyId : String) : Option String :=
  (m.getPolicy policyId).bind (·.inForce)

/-- The application sessions there are, are those of the active policies. -/
def Accounted (m : PolicyManager) : Prop := Exact m.held (alive m.calls)

theorem held_store {m' : PolicyManager} (hpolicies : m'.policies = m.policies) (x : String) :
    (m'.store policyId policy).held x = if x = policyId then policy.inForce else m.held x := by
  rw [held, getPolicy_store, getPolicy, hpolicies]
  split_ifs <;> rfl

/-- A policy keeps what it holds when it is written with the same record. -/
theorem Accounted.store (h : m.Accounted) {m' : PolicyManager}
    (hpolicies : m'.policies = m.policies) (hquiet : Quiet m m')
    (hheld : policy.inForce = m.held policyId) : (m'.store policyId policy).Accounted := by
  have halive : alive m'.calls = alive m.calls := hquiet
  have h' : Exact m.held (alive m'.calls) := halive ▸ h
  refine h'.congr fun x => ?_
  rw [held_store hpolicies]
  split_ifs with hx
  · rw [hx, hheld]
  · rfl

/-- A policy that takes a new application session keeps the account exact if it held
    none. -/
theorem accounted_store_iff (h : m.Accounted) {m' : PolicyManager}
    (hpolicies : m'.policies = m.policies) (hopens : Opens p m m') (hp : p ∉ issued m.calls)
    (hforce : policy.inForce = some p) :
    (m'.store policyId policy).Accounted ↔ m.held policyId = none := by
  have hnew : p ∉ alive m.calls := fun hmem => hp (alive_subset_issued _ hmem)
  have halive : alive m'.calls = p :: alive m.calls := hopens
  have hheld : ∀ x, (m'.store policyId policy).held x =
      if x = policyId then some p else m.held x := by
    intro x
    rw [held_store hpolicies, hforce]
  rw [← Exact.acquire_iff h hnew hheld, ← halive]
  exact Iff.rfl

/-- A policy that goes with its application session keeps the account exact. -/
theorem Accounted.erase (h : m.Accounted) (hpolicy : m.getPolicy policyId = some policy)
    (hsound : policy.Sound) {m' : PolicyManager}
    (hcalls : policy.pcfTransactionId = "" ∧ Quiet m m' ∨
      policy.pcfTransactionId ≠ "" ∧ Closes policy.pcfTransactionId m m') :
    Accounted { m' with policies := m.policies.erase policyId } := by
  have hheld : ∀ x, held { m' with policies := m.policies.erase policyId } x =
      if x = policyId then none else m.held x := by
    intro x
    rw [held, getPolicy, Table.lookup_erase_eq]
    split_ifs <;> rfl
  have hforce : m.held policyId = policy.inForce := by rw [held, hpolicy]; rfl
  rcases hcalls with ⟨hempty, hquiet⟩ | ⟨hne, hcloses⟩
  · have hnone : m.held policyId = none := by
      rw [hforce, QoSPolicy.inForce, if_neg fun hactive => hsound.1 hactive hempty]
    have halive : alive m'.calls = alive m.calls := hquiet
    have h' : Exact m.held (alive m'.calls) := halive ▸ h
    refine h'.congr fun x => ?_
    rw [hheld]
    split_ifs with hx
    · rw [hx, hnone]
    · rfl
  · have hsome : m.held policyId = some policy.pcfTransactionId := by
      rw [hforce, QoSPolicy.inForce, if_pos (hsound.2 hne)]
    have halive : alive m'.calls =
        (alive m.calls).filter fun q => q ≠ policy.pcfTransactionId := hcloses
    have h' := Exact.release h hsome hheld
    rw [← halive] at h'
    exact h'

end PolicyManager

/-! ## Runs -/

/-- An operation on the policies, with the id it draws and the answer it gets. -/
inductive PolicyOp
  | createPolicy (policyId : String) (data : Json) (answer : AppSessionAnswer)
  | updatePolicy (policyId : String) (data : Json) (answer : AppSessionAnswer)
  | deletePolicy (policyId : String) (answer : AppSessionAnswer)

/-- The policy id an operation draws. -/
def PolicyOp.drawnId : PolicyOp → Option String
  | .createPolicy policyId _ _ => some policyId
  | _ => none

/-- The manager after an operation. -/
def PolicyManager.next (lib : Json.Library) (m : PolicyManager) : PolicyOp → PolicyManager
  | .createPolicy policyId data answer => (m.createPolicy lib policyId data answer).2
  | .updatePolicy policyId data answer => (m.updatePolicy lib policyId data answer).2
  | .deletePolicy policyId answer => (m.deletePolicy policyId answer).2

/-- A policy manager, and the ids `generate_policy_id` has drawn so far. -/
structure PolicyRun where
  manager : PolicyManager
  drawn : List String

namespace PolicyRun

variable (lib : Json.Library)

/-- The run goes on; an id is never drawn twice. -/
def next (r : PolicyRun) (op : PolicyOp) : Option PolicyRun :=
  if op.drawnId.any (· ∈ r.drawn) then none
  else some ⟨r.manager.next lib op, op.drawnId.toList ++ r.drawn⟩

/-- The PCF handler answers as it should. -/
def Answered (r : PolicyRun) : PolicyOp → Prop
  | .createPolicy _ _ answer => r.manager.AnswersCreate answer
  | .updatePolicy _ _ answer => r.manager.AnswersCreate answer
  | .deletePolicy _ answer => PolicyManager.AnswersDelete answer

end PolicyRun

/-- The runs of a policy manager, from any set-up, with a PCF handler that answers as it
    should. -/
def policySystem (lib : Json.Library) : System PolicyRun PolicyOp where
  init r := ∃ orchestrator pcfService pcfDestination,
    r = ⟨.create orchestrator pcfService pcfDestination, []⟩
  step r op r' := r.Answered op ∧ r.next lib op = some r'

namespace PolicyRun

open PolicyManager

variable {lib : Json.Library} {r r' : PolicyRun} {op : PolicyOp}

theorem next_eq (h : r.next lib op = some r') :
    (∀ id, op.drawnId = some id → id ∉ r.drawn) ∧ r'.manager = r.manager.next lib op ∧
      r'.drawn = op.drawnId.toList ++ r.drawn := by
  rw [next] at h
  split_ifs at h with hany
  cases h
  refine ⟨fun id hid hmem => hany ?_, rfl, rfl⟩
  rw [hid]
  simpa using hmem

/-- What is stored is sound, and its id has been drawn. -/
def Sound (r : PolicyRun) : Prop :=
  ∀ id policy, r.manager.getPolicy id = some policy → policy.Sound ∧ id ∈ r.drawn

/-- A policy is written that is sound. -/
theorem sound_store {m' : PolicyManager} {policyId : String} {policy : QoSPolicy}
    {drawn : List String} (h : r.Sound) (hpolicies : m'.policies = r.manager.policies)
    (hsound : policy.Sound) (hid : policyId ∈ drawn) (hdrawn : r.drawn ⊆ drawn) :
    Sound ⟨m'.store policyId policy, drawn⟩ := by
  intro x policy' hx
  rw [getPolicy_store, getPolicy, hpolicies] at hx
  split_ifs at hx with hxid
  · cases hx
    exact ⟨hsound, hxid ▸ hid⟩
  · obtain ⟨hsound', hmem⟩ := h x policy' hx
    exact ⟨hsound', hdrawn hmem⟩

theorem Sound.next (h : r.Sound) (hanswer : r.Answered op) (hnext : r.next lib op = some r') :
    r'.Sound := by
  obtain ⟨-, hmanager, hdrawn⟩ := next_eq hnext
  have hsub : r.drawn ⊆ r'.drawn := by
    rw [hdrawn]
    exact List.subset_append_right _ _
  obtain ⟨m', drawn'⟩ := r'
  dsimp only at hmanager hdrawn hsub
  rw [hmanager]
  rcases op with ⟨policyId, data, answer⟩ | ⟨policyId, data, answer⟩ | ⟨policyId, answer⟩
  · have hid : policyId ∈ drawn' := by
      rw [hdrawn]
      exact List.mem_append_left _ (by simp [PolicyOp.drawnId])
    rcases createPolicy_cases lib hanswer policyId data with
      heq | ⟨policy, m', heq, hpolicies, hsound, -⟩ <;> rw [PolicyManager.next, heq]
    · exact fun x policy hx => ⟨(h x policy hx).1, hsub (h x policy hx).2⟩
    · exact sound_store h hpolicies hsound hid hsub
  · rcases updatePolicy_cases lib hanswer policyId data with
      ⟨hrequests, p, policy, m', -, hp, -, heq, hpolicies, -⟩ |
      ⟨-, heq | ⟨old, policy, m', hold, hrecord, heq, hpolicies, -⟩⟩ <;> rw [PolicyManager.next, heq]
    · obtain ⟨-, old, hold, -⟩ := hrequests
      exact sound_store h hpolicies (QoSPolicy.sound_withSession hp _) (hsub (h _ _ hold).2) hsub
    · exact fun x policy hx => ⟨(h x policy hx).1, hsub (h x policy hx).2⟩
    · obtain ⟨hsound, hmem⟩ := h _ _ hold
      exact sound_store h hpolicies (hsound.congr hrecord) (hsub hmem) hsub
  · rcases deletePolicy_cases (m := r.manager) hanswer policyId with
      ⟨m', heq, hpolicies, -⟩ | ⟨policy, m', -, heq, -⟩ <;> rw [PolicyManager.next, heq]
    · intro x policy hx
      rw [getPolicy, hpolicies] at hx
      exact ⟨(h x policy hx).1, hsub (h x policy hx).2⟩
    · intro x policy' hx
      rw [getPolicy, Table.lookup_erase_eq] at hx
      split_ifs at hx
      exact ⟨(h x policy' hx).1, hsub (h x policy' hx).2⟩

theorem sound_of_reachable (hr : (policySystem lib).Reachable r) : r.Sound := by
  refine System.Reachable.invariant (P := Sound) ?_ ?_ hr
  · rintro r ⟨orchestrator, pcfService, pcfDestination, rfl⟩ id policy hpolicy
    cases hpolicy
  · rintro r op r' - h ⟨hanswer, hnext⟩
    exact h.next hanswer hnext

/-- No update makes the PCF handler create an application session for a policy that is
    active already. -/
def KeepsSessions (lib : Json.Library) (r : PolicyRun) : PolicyOp → Prop
  | .updatePolicy policyId data answer =>
    r.manager.Requests lib policyId data → (∃ p, answer.Creates p) →
      ∀ policy, r.manager.getPolicy policyId = some policy → policy.state ≠ .active
  | _ => True

/-- An operation keeps the account exact exactly if it keeps the sessions. -/
theorem accounted_next_iff (hsound : r.Sound) (h : r.manager.Accounted) (hanswer : r.Answered op)
    (hnext : r.next lib op = some r') : r'.manager.Accounted ↔ r.KeepsSessions lib op := by
  obtain ⟨hfresh, hmanager, -⟩ := next_eq hnext
  rw [hmanager]
  rcases op with ⟨policyId, data, answer⟩ | ⟨policyId, data, answer⟩ | ⟨policyId, answer⟩
  · refine iff_of_true ?_ trivial
    -- The id is new, and no policy is stored under it.
    have hnone : r.manager.held policyId = none := by
      rw [held]
      rcases hget : r.manager.getPolicy policyId with _ | policy
      · rfl
      · exact absurd (hsound _ _ hget).2 (hfresh policyId rfl)
    rcases createPolicy_cases lib hanswer policyId data with
      heq | ⟨policy, m', heq, hpolicies, -, ⟨hforce, hquiet⟩ | ⟨p, hforce, hp, hopens⟩⟩ <;>
      rw [PolicyManager.next, heq]
    · exact h
    · exact h.store hpolicies hquiet (hforce.trans hnone.symm)
    · exact (accounted_store_iff h hpolicies hopens hp hforce).2 hnone
  · rcases updatePolicy_cases lib hanswer policyId data with
      ⟨hrequests, p, policy, m', hcreates, -, hp, heq, hpolicies, hopens⟩ |
      ⟨hnot, heq | ⟨old, policy, m', hold, hrecord, heq, hpolicies, hquiet⟩⟩ <;>
      rw [PolicyManager.next, heq]
    · rw [accounted_store_iff h hpolicies hopens hp (QoSPolicy.inForce_withSession ..)]
      constructor
      · intro hnone _ _ policy hpolicy hactive
        rw [held, hpolicy, Option.bind_some, QoSPolicy.inForce, if_pos hactive] at hnone
        cases hnone
      · intro hkeeps
        obtain ⟨old, hold, -⟩ := hrequests.2
        rw [held, hold, Option.bind_some, QoSPolicy.inForce,
          if_neg (hkeeps hrequests ⟨p, hcreates⟩ old hold)]
    · exact iff_of_true h fun hrequests hcreates => absurd ⟨hrequests, hcreates⟩ hnot
    · refine iff_of_true (h.store hpolicies hquiet ?_) fun hrequests hcreates =>
        absurd ⟨hrequests, hcreates⟩ hnot
      rw [held, hold]
      exact QoSPolicy.inForce_congr hrecord
  · refine iff_of_true ?_ trivial
    rcases deletePolicy_cases (m := r.manager) hanswer policyId with
      ⟨m', heq, hpolicies, hquiet⟩ | ⟨policy, m', hpolicy, heq, hcalls⟩ <;>
      rw [PolicyManager.next, heq]
    · have halive : alive m'.calls = alive r.manager.calls := hquiet
      have h' : Exact r.manager.held (alive m'.calls) := halive ▸ h
      refine h'.congr fun x => ?_
      rw [held, getPolicy, hpolicies]
      rfl
    · exact h.erase hpolicy (hsound _ _ hpolicy).1 hcalls

/-- In every run in which no update makes the PCF handler create an application session
    for an active policy, the application sessions created and not deleted are those of
    the active policies, one for each; and the first update that does breaks this. -/
theorem accounted_of_reachable
    (hr : ((policySystem lib).restrict (KeepsSessions lib)).Reachable r) :
    r.manager.Accounted ∧ ∀ op r', (policySystem lib).step r op r' →
      (r'.manager.Accounted ↔ r.KeepsSessions lib op) := by
  have h : r.manager.Accounted := by
    refine System.Reachable.invariant (P := fun r : PolicyRun => r.manager.Accounted) ?_ ?_ hr
    · rintro r ⟨orchestrator, pcfService, pcfDestination, rfl⟩
      exact Exact.nil fun _ => rfl
    · rintro r op r' hr h ⟨hkeeps, hanswer, hnext⟩
      exact (accounted_next_iff (sound_of_reachable hr.of_restrict) h hanswer hnext).2 hkeeps
  refine ⟨h, ?_⟩
  rintro op r' ⟨hanswer, hnext⟩
  exact accounted_next_iff (sound_of_reachable hr.of_restrict) h hanswer hnext

/-- A library for documents without additional parameters, which it is not asked about. -/
def plainLibrary : Json.Library where
  dump _ := "null"
  parse _ := .error "[json.exception.parse_error.101] parse error"
  what _ := "[json.exception.type_error.302] type must be string"

/-- A manager with a PCF handler, before any operation. -/
def initial : PolicyRun := ⟨.create true true "pcf-handler:50052", []⟩

/-- An application session has been created. -/
def sessionCreated (appSessionId : String) : AppSessionAnswer :=
  .ok (some ⟨.created, .ok (.obj [("app_session_id", .str appSessionId)])⟩)

/-- A policy for an application. -/
def gamePolicy : PolicyOp :=
  .createPolicy "policy-1" (.obj [("app_id", .str "game"), ("qos_reference", .int 3)])
    (sessionCreated "app-1")

theorem answered_sessionCreated {m : PolicyManager} {p : String} (hp : p ≠ "")
    (hfresh : p ∉ issued m.calls) : m.AnswersCreate (sessionCreated p) :=
  .inl ⟨p, ⟨_, rfl, rfl⟩, hp, hfresh⟩

/-- A policy is created, and an update of it refused: it keeps its application session. -/
theorem accounted_after_refusal : ∃ r : PolicyRun,
    ((policySystem plainLibrary).restrict (KeepsSessions plainLibrary)).Reachable r ∧
      alive r.manager.calls = ["app-1"] ∧ r.manager.held "policy-1" = some "app-1" ∧
      r.manager.Accounted := by
  have h₀ : ((policySystem plainLibrary).restrict (KeepsSessions plainLibrary)).Reachable initial :=
    .init ⟨_, _, _, rfl⟩
  have h₁ := h₀.step (a := gamePolicy)
    ⟨trivial, answered_sessionCreated (by decide) (by decide), rfl⟩
  have hrefuses : AppSessionAnswer.Refuses (.ok (some ⟨.error, .ok (.obj [])⟩)) := ⟨_, rfl⟩
  have h₂ := h₁.step (a := PolicyOp.updatePolicy "policy-1"
    (.obj [("maximum_bandwidth", .int 500)]) (.ok (some ⟨.error, .ok (.obj [])⟩)))
    ⟨fun _ ⟨_, hcreates⟩ => absurd hrefuses hcreates.not_refuses, .inr hrefuses, rfl⟩
  exact ⟨_, h₂, rfl, rfl, (accounted_of_reachable h₂).1⟩

/-- The bandwidth of the policy is updated, and the PCF handler creates a second
    application session: the first is there still, but no policy has it. -/
theorem not_accounted_after_update : ∃ r : PolicyRun, (policySystem plainLibrary).Reachable r ∧
    alive r.manager.calls = ["app-2", "app-1"] ∧
    r.manager.policies.values.map (·.pcfTransactionId) = ["app-2"] ∧ ¬r.manager.Accounted := by
  have h₀ : (policySystem plainLibrary).Reachable initial := .init ⟨_, _, _, rfl⟩
  have h₁ := h₀.step (a := gamePolicy) ⟨answered_sessionCreated (by decide) (by decide), rfl⟩
  have h₂ := h₁.step (a := PolicyOp.updatePolicy "policy-1"
    (.obj [("maximum_bandwidth", .int 500)]) (sessionCreated "app-2"))
    ⟨answered_sessionCreated (by decide) (by decide), rfl⟩
  refine ⟨_, h₂, rfl, rfl, fun h => ?_⟩
  obtain ⟨id, hid⟩ := (h.mem_iff "app-1").1 (List.mem_cons_of_mem _ List.mem_cons_self)
  obtain ⟨policy, hpolicy, hforce⟩ := Option.bind_eq_some_iff.1 hid
  have hmem : policy.pcfTransactionId ∈ ["app-2"] :=
    List.mem_map_of_mem (Table.mem_values.2 ⟨id, hpolicy⟩)
  rw [QoSPolicy.inForce] at hforce
  split_ifs at hforce
  rw [Option.some.injEq] at hforce
  rw [hforce, List.mem_singleton] at hmem
  exact absurd hmem (by decide)

end PolicyRun

end PhineAf

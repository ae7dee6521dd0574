import PhineAf.Pcf.Dispatch
import PhineAf.Policy.Replies

/-!
# Policies with the PCF handler

The policy manager together with the PCF handler it sends its requests to. The router of
the PCF handler has no handler for application sessions, so no policy is ever put into
force: creations and updates fail, what is stored are policies in error, and a request
that succeeds is the deletion of one of these, which does not reach the PCF handler
(`unserved`).
-/

namespace PhineAf.PolicyManager

variable {lib : Json.Library} {m : PolicyManager}

/-- An answer that puts no policy into force. -/
def Useless (lib : Json.Library) (answer : AppSessionAnswer) : Prop :=
  ∀ policy, ∃ reason, applyAnswer lib policy answer = failPolicy policy reason

theorem useless_of_answers {S : Type} {qod : PcfHandler.QodHandlers S} {answer : AppSessionAnswer}
    (h : PcfHandler.Answers qod lib answer) : Useless lib answer := by
  intro policy
  obtain ⟨what, hwhat⟩ | hsilent | ⟨payload, hother⟩ := h.cases
  · exact ⟨_, by rw [hwhat]; rfl⟩
  · exact ⟨_, by rw [hsilent]; rfl⟩
  · exact ⟨_, by rw [hother]; rfl⟩

/-- Every policy is in error, without an application session. -/
def Dormant (m : PolicyManager) : Prop :=
  ∀ id policy, m.getPolicy id = some policy → policy.state = .error ∧ policy.pcfTransactionId = ""

theorem Dormant.store (h : m.Dormant) {m' : PolicyManager} (hpolicies : m'.policies = m.policies)
    {policyId : String} {policy : QoSPolicy} (hstate : policy.state = .error)
    (htransaction : policy.pcfTransactionId = "") : (m'.store policyId policy).Dormant := by
  intro id policy' hpolicy
  rw [getPolicy_store] at hpolicy
  split_ifs at hpolicy
  · cases hpolicy
    exact ⟨hstate, htransaction⟩
  · rw [getPolicy, hpolicies] at hpolicy
    exact h id policy' hpolicy

/-! ## One request -/

/-- A reply that tells of no active policy. -/
def Refuses (reply : QosReply) : Prop :=
  ∀ id state, reply = .success id state → state = "deleted"

/-- What a request does as long as every policy is in error, from `m` to `m'`: the PCF handler
    is not called, or it is called to create an application session, with an answer that may
    help. -/
def Idles (lib : Json.Library) (answer : AppSessionAnswer) (m m' : PolicyManager)
    (refused : Prop) : Prop :=
  (m'.calls = m.calls ∧ m'.Dormant ∧ refused) ∨
    ∃ policyId payload, m'.calls = ⟨.create policyId payload, answer⟩ :: m.calls ∧
      (Useless lib answer → m'.Dormant ∧ refused)

theorem Idles.mono {answer : AppSessionAnswer} {m' : PolicyManager} {refused refused' : Prop}
    (h : Idles lib answer m m' refused) (hrefused : refused → refused') :
    Idles lib answer m m' refused' :=
  h.imp (fun h => ⟨h.1, h.2.1, hrefused h.2.2⟩) fun ⟨policyId, payload, hcalls, huseless⟩ =>
    ⟨policyId, payload, hcalls, fun h => ⟨(huseless h).1, hrefused (huseless h).2⟩⟩

variable (lib m) in
/-- A policy that is applied is left as it is, or a session is asked for. -/
theorem applyPolicy_calls (policy : QoSPolicy) (answer : AppSessionAnswer) :
    m.applyPolicy lib policy answer = ((false, policy), m) ∨
      ∃ payload, (m.applyPolicy lib policy answer).2.calls =
          ⟨.create policy.id payload, answer⟩ :: m.calls ∧
        (m.applyPolicy lib policy answer).1 = applyAnswer lib policy answer := by
  rw [applyPolicy]
  split_ifs
  · exact .inr ⟨_, rfl, rfl⟩
  · exact .inl rfl

variable (lib) in
theorem Dormant.createPolicy (h : m.Dormant) (drawn : String) (data : Json)
    (answer : AppSessionAnswer) :
    Idles lib answer m (m.createPolicy lib drawn data answer).2
      (∃ what, (m.createPolicy lib drawn data answer).1 = .error what) := by
  have hrecord := QoSPolicy.record_readData lib data { id := drawn }
  rw [PolicyManager.createPolicy]
  rcases hread : QoSPolicy.readData lib data { id := drawn } with ⟨_ | e, policy⟩
  · rw [hread] at hrecord
    simp only [QoSPolicy.record, Prod.mk.injEq] at hrecord
    obtain ⟨-, -, htransaction⟩ := hrecord
    dsimp only
    split_ifs
    · exact .inl ⟨rfl, h, _, rfl⟩
    · obtain ⟨-, hpolicies⟩ :=
        applyPolicy_frame lib (m := m) { policy with state := .inactive } answer
      obtain happly | ⟨payload, hcalls, hanswer⟩ :=
        applyPolicy_calls lib m { policy with state := .inactive } answer
      · rw [happly]
        exact .inl ⟨rfl, h.store rfl rfl htransaction, _, rfl⟩
      · rcases happly : m.applyPolicy lib { policy with state := .inactive } answer with
          ⟨⟨applied, policy'⟩, m'⟩
        rw [happly] at hpolicies hcalls hanswer
        refine .inr ⟨policy.id, payload, ?_, fun hanswer' => ?_⟩
        · cases applied <;> exact hcalls
        · obtain ⟨reason, hfail⟩ := hanswer' { policy with state := .inactive }
          obtain ⟨rfl, rfl⟩ := Prod.mk.injEq .. ▸ hanswer.trans hfail
          exact ⟨h.store hpolicies rfl htransaction, _, rfl⟩
  · exact .inl ⟨rfl, h, _, rfl⟩

variable (lib) in
theorem Dormant.updatePolicy (h : m.Dormant) (policyId : String) (data : Json)
    (answer : AppSessionAnswer) :
    Idles lib answer m (m.updatePolicy lib policyId data answer).2
      ((m.updatePolicy lib policyId data answer).1 = false) := by
  rw [PolicyManager.updatePolicy]
  rcases hold : m.policies.lookup policyId with _ | old
  · exact .inl ⟨rfl, h, rfl⟩
  obtain ⟨hstate, htransaction⟩ := h policyId old hold
  have hrecord := QoSPolicy.record_readData lib data old
  dsimp only
  rcases hread : QoSPolicy.readData lib data old with ⟨_ | e, policy⟩ <;> rw [hread] at hrecord <;>
    simp only [QoSPolicy.record, Prod.mk.injEq] at hrecord
  · dsimp only
    split_ifs
    · exact .inl ⟨rfl, h.store rfl hstate htransaction, rfl⟩
    · obtain ⟨-, hpolicies⟩ := applyPolicy_frame lib (m := m) policy answer
      obtain happly | ⟨payload, hcalls, hanswer⟩ :=
        applyPolicy_calls lib m policy answer
      · rw [happly]
        exact .inl ⟨rfl, h.store rfl hstate htransaction, rfl⟩
      · rcases happly : m.applyPolicy lib policy answer with ⟨⟨applied, policy'⟩, m'⟩
        rw [happly] at hpolicies hcalls hanswer
        refine .inr ⟨policy.id, payload, ?_, fun hanswer' => ?_⟩
        · cases applied <;> exact hcalls
        · obtain ⟨reason, hfail⟩ := hanswer' policy
          obtain ⟨rfl, -⟩ := Prod.mk.injEq .. ▸ hanswer.trans hfail
          exact ⟨h.store hpolicies hstate htransaction, rfl⟩
  · obtain ⟨-, hstate', htransaction'⟩ := hrecord
    exact .inl ⟨rfl, h.store rfl (hstate'.trans hstate) (htransaction'.trans htransaction), rfl⟩

/-- A policy without a session is deleted without a call. -/
theorem Dormant.deletePolicy (h : m.Dormant) (policyId : String) (answer : AppSessionAnswer) :
    (m.deletePolicy policyId answer).2.calls = m.calls ∧
      (m.deletePolicy policyId answer).2.Dormant := by
  rw [PolicyManager.deletePolicy]
  rcases hold : m.policies.lookup policyId with _ | old
  · exact ⟨rfl, h⟩
  obtain ⟨-, htransaction⟩ := h policyId old hold
  have hremove : m.removePolicy old answer = (true, m) := by
    rw [removePolicy, htransaction]
    rfl
  dsimp only
  rw [hremove]
  refine ⟨rfl, fun id policy hpolicy => h id policy ?_⟩
  rw [getPolicy, Table.lookup_erase_eq] at hpolicy
  split_ifs at hpolicy
  exact hpolicy

variable (lib) in
/-- As long as every policy is in error, no request activates one unless an answer helps. -/
theorem Dormant.serveQos (h : m.Dormant) (c : QosCall) :
    Idles lib c.answer m (m.serveQos lib c).1 (Refuses (m.serveQos lib c).2) := by
  rw [PolicyManager.serveQos, handleQosRequest]
  rcases readQosRequest lib c.payload with what | ⟨data, _ | id | id⟩
  · exact .inl ⟨rfl, h, by simp [Refuses]⟩
  · have hidles := h.createPolicy lib c.drawn data c.answer
    dsimp only
    rcases hcreate : m.createPolicy lib c.drawn data c.answer with ⟨what | policy, m'⟩ <;>
      rw [hcreate] at hidles
    · exact hidles.mono fun _ => by simp [Refuses]
    · exact hidles.mono (by simp [Refuses])
  · have hidles := h.updatePolicy lib id data c.answer
    dsimp only
    rcases hupdate : m.updatePolicy lib id data c.answer with ⟨_ | _, m'⟩ <;>
      rw [hupdate] at hidles
    · exact hidles.mono fun _ => by simp [Refuses]
    · exact hidles.mono (by simp [Refuses])
  · obtain ⟨hcalls, hdormant⟩ := h.deletePolicy id c.answer
    dsimp only
    rcases hdelete : m.deletePolicy id c.answer with ⟨_ | _, m'⟩ <;>
      rw [hdelete] at hcalls hdormant
    · exact .inl ⟨hcalls, hdormant, by simp [Refuses]⟩
    · exact .inl ⟨hcalls, hdormant, fun id state hreply => by cases hreply; rfl⟩

/-! ## All requests -/

/-- The PCF handler is only called for creations. -/
def Creations (m : PolicyManager) : Prop :=
  ∀ call ∈ m.calls, ∃ policyId payload, call.request = .create policyId payload

theorem Idles.creations {answer : AppSessionAnswer} {m' : PolicyManager} {refused : Prop}
    (h : Idles lib answer m m' refused) (hcreations : m.Creations) : m'.Creations := by
  obtain ⟨hcalls, -, -⟩ | ⟨policyId, payload, hcalls, -⟩ := h
  · rw [Creations, hcalls]
    exact hcreations
  · rw [Creations, hcalls, List.forall_mem_cons]
    exact ⟨⟨policyId, payload, rfl⟩, hcreations⟩

theorem Idles.dormant {answer : AppSessionAnswer} {m' : PolicyManager} {refused : Prop}
    (h : Idles lib answer m m' refused) (huseless : Useless lib answer) : m'.Dormant ∧ refused := by
  obtain ⟨-, hdormant⟩ | ⟨policyId, payload, -, hdormant⟩ := h
  · exact hdormant
  · exact hdormant huseless

variable (lib) in
/-- With the PCF handler no policy becomes active: what is stored are policies in error
    without an application session, what succeeds are deletions, and the PCF handler is only
    called for creations, which leave it as it is. -/
theorem unserved {S : Type} (qod : PcfHandler.QodHandlers S) (orchestrator pcfService : Bool)
    (pcfDestination : String) (calls : List QosCall)
    (hanswers : ∀ c ∈ calls, PcfHandler.Answers qod lib c.answer) :
    (∀ reply ∈ Service.answers (serveQos lib) (create orchestrator pcfService pcfDestination) calls,
        Refuses reply) ∧
      (∀ id policy, (Service.after (serveQos lib) (create orchestrator pcfService pcfDestination)
          calls).getPolicy id = some policy →
        policy.state = .error ∧ policy.pcfTransactionId = "") ∧
      ∀ call ∈ (Service.after (serveQos lib) (create orchestrator pcfService pcfDestination)
          calls).calls,
        (∃ policyId payload, call.request = .create policyId payload) ∧
          ∀ s, (PcfHandler.processMessage qod (call.request.toRequest lib) s).1 = s := by
  suffices h : (∀ reply ∈ Service.answers (PolicyManager.serveQos lib)
        (create orchestrator pcfService pcfDestination) calls, Refuses reply) ∧
      (Service.after (PolicyManager.serveQos lib) (create orchestrator pcfService pcfDestination)
        calls).Dormant ∧
      (Service.after (PolicyManager.serveQos lib) (create orchestrator pcfService pcfDestination)
        calls).Creations by
    obtain ⟨hreplies, hdormant, hcreations⟩ := h
    refine ⟨hreplies, hdormant, fun call hcall => ⟨hcreations call hcall, fun s => ?_⟩⟩
    rw [(PcfHandler.processMessage_appSessionRequest qod lib call.request s).2]
  induction calls using List.reverseRecOn with
  | nil => exact ⟨nofun, nofun, nofun⟩
  | append_singleton calls c ih =>
    obtain ⟨hreplies, hdormant, hcreations⟩ := ih fun c hc =>
      hanswers c (List.mem_append_left _ hc)
    have hidles := hdormant.serveQos lib c
    have huseless := useless_of_answers (hanswers c (by simp))
    obtain ⟨hdormant', hrefuses⟩ := hidles.dormant huseless
    rw [Service.after_append, Service.answers_append]
    refine ⟨fun reply hreply => ?_, hdormant', hidles.creations hcreations⟩
    rcases List.mem_append.1 hreply with hreply | hreply
    · exact hreplies reply hreply
    · rw [Service.answers, Service.answers, List.mem_singleton] at hreply
      rw [hreply]
      exact hrefuses

/-- The handlers of a PCF handler that ignores its messages. -/
def idleHandlers : PcfHandler.QodHandlers Unit :=
  let handler : MessageHandler Unit := fun message s =>
    (s, { messageType := "success", correlationId := message.correlationId, payload := "" })
  ⟨handler, handler, handler⟩

/-- The reply of the PCF handler to the request for a policy. -/
def unservedAnswer : AppSessionAnswer :=
  .ok (some ((PcfHandler.processMessage idleHandlers
    ((AppSessionRequest.create "policy-1" .null).toRequest requestLibrary) ()).2.toAppSessionReply
      requestLibrary))

/-- A policy is created, then deleted, and another one is created without a reply. -/
theorem unserved_calls :
    (∀ c ∈ [QosCall.mk "policy-1" unservedAnswer gameRequest,
        ⟨"policy-2", unservedAnswer, gameDeletion⟩, ⟨"policy-3", .ok none, gameRequest⟩],
      PcfHandler.Answers idleHandlers requestLibrary c.answer) ∧
    ∀ reply ∈ Service.answers (serveQos requestLibrary) (create true true "pcf-handler:50052")
      [QosCall.mk "policy-1" unservedAnswer gameRequest,
        ⟨"policy-2", unservedAnswer, gameDeletion⟩, ⟨"policy-3", .ok none, gameRequest⟩],
      Refuses reply := by
  have hanswers : ∀ c ∈ [QosCall.mk "policy-1" unservedAnswer gameRequest,
      ⟨"policy-2", unservedAnswer, gameDeletion⟩, ⟨"policy-3", .ok none, gameRequest⟩],
      PcfHandler.Answers idleHandlers requestLibrary c.answer := by
    intro c hc
    simp only [List.mem_cons, List.not_mem_nil, or_false] at hc
    rcases hc with rfl | rfl | rfl
    · exact .inr (.inr ⟨_, (), rfl⟩)
    · exact .inr (.inr ⟨_, (), rfl⟩)
    · exact .inr (.inl rfl)
  exact ⟨hanswers, (unserved requestLibrary idleHandlers true true "pcf-handler:50052" _
    hanswers).1⟩

end PhineAf.PolicyManager

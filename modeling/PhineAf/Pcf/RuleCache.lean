import PhineAf.Lib.System
import PhineAf.Pcf.Bandwidth

/-!
# The cache of PCC rules

The rules in the cache are meant to be valid, each under its own identifier
(`CacheValid`). Rules that are created are validated before they are kept. A rule in the
format of the PCF is kept as it is read: it is valid only if the document has a legal 5QI
and legal bandwidths, and no empty identifier (`Acceptable`). So the cache stays valid as
long as each document that can be read is like that, and no longer
(`PccRuleManager.cacheValid_of_reachable`).
-/

namespace PhineAf

/-- The calls of the manager. -/
inductive RuleOp
  | createRuleFromMediaComponent (suffix : String) (mediaComponent : Json)
  | createRuleFromAppSession (suffix : String) (appSessionData : Json)
  | parseRuleFromPcfFormat (suffix : String) (pcfRule : Json)

namespace PccRuleManager

open Text Json

/-- The manager after a call. -/
def next (m : PccRuleManager) : RuleOp → PccRuleManager
  | .createRuleFromMediaComponent suffix mediaComponent =>
    (m.createRuleFromMediaComponent suffix mediaComponent).2
  | .createRuleFromAppSession suffix appSessionData =>
    (m.createRuleFromAppSession suffix appSessionData).2
  | .parseRuleFromPcfFormat suffix pcfRule => (m.parseRuleFromPcfFormat suffix pcfRule).2

/-- The runs of the manager, from an empty cache. -/
def ruleSystem : System PccRuleManager RuleOp where
  init m := m = ⟨∅⟩
  step m op m' := m' = m.next op

/-- Every rule in the cache is valid, and kept under its identifier. -/
def CacheValid (m : PccRuleManager) : Prop :=
  ∀ id rule, m.rulesCache.lookup id = some rule → rule.ruleId = id ∧ validateRule rule = true

/-! ## Documents -/

/-- The QoS data of a document. -/
def qosDataAt (pcfRule : Json) : Json := (pcfRule.find? "qosData").getD .null

/-- The members of a document that are read are of the kinds that can be. -/
structure Readable (pcfRule : Json) : Prop where
  ruleId : ∀ v, pcfRule.find? "pccRuleId" = some v → ∃ s, v = .str s
  flowInfos : ∀ info ∈ arrayAt pcfRule "flowInfos", ∀ v,
    info.find? "flowDescription" = some v → ∃ s, v = .str s
  qosReference : ∀ v, (qosDataAt pcfRule).find? "5qi" = some v → ∃ n, v.getInt = .ok n
  bandwidth : ∀ (field : BandwidthField) (v : Json),
    (qosDataAt pcfRule).find? field.key = some v → ∃ s, v = .str s

/-- The bandwidth a document gives, zero if it gives none. -/
def givenBandwidth (pcfRule : Json) (field : BandwidthField) : Int32 :=
  match (qosDataAt pcfRule).find? field.key with
  | some (.str bwStr) => parseBandwidth bwStr
  | _ => 0

/-- The identifier of a document is not empty, its 5QI is there and legal, and so are its
    bandwidths. -/
structure Acceptable (pcfRule : Json) : Prop where
  ruleId : pcfRule.find? "pccRuleId" ≠ some (.str "")
  qosReference : ∃ v n, (qosDataAt pcfRule).find? "5qi" = some v ∧ v.getInt = .ok n ∧
    1 ≤ n.bmod (2 ^ 32) ∧ n.bmod (2 ^ 32) ≤ 79
  uplink : legalBandwidths (givenBandwidth pcfRule .gbrUl) (givenBandwidth pcfRule .mbrUl) = true
  downlink : legalBandwidths (givenBandwidth pcfRule .gbrDl) (givenBandwidth pcfRule .mbrDl) = true

/-- A document that can be read makes a valid rule. -/
def Accepts (_ : PccRuleManager) : RuleOp → Prop
  | .parseRuleFromPcfFormat _ pcfRule => Readable pcfRule → Acceptable pcfRule
  | _ => True

/-! ## What a document makes -/

/-- A document makes a rule just if it can be read. -/
theorem exists_readPcfRule_iff (suffix : String) (pcfRule : Json) :
    (∃ rule, readPcfRule suffix pcfRule = .ok rule) ↔ Readable pcfRule := by
  have hbandwidth : ∀ field : BandwidthField,
      (∃ b, bandwidthAt (qosDataAt pcfRule) field.key = .ok b) ↔
        ∀ v, (qosDataAt pcfRule).find? field.key = some v → ∃ s, v = .str s := by
    intro field
    simp only [bandwidthAt, map_eq_ok]
    rw [exists_comm]
    simp only [exists_and_left, exists_eq', and_true, exists_optional_eq_ok, getStr_eq_ok]
  have hqosReference : (∃ n, intAt (qosDataAt pcfRule) "5qi" 0 = .ok n) ↔
      ∀ v, (qosDataAt pcfRule).find? "5qi" = some v → ∃ n, v.getInt = .ok n := by
    simp only [intAt, map_eq_ok]
    rw [exists_comm]
    simp only [exists_and_left, exists_eq', and_true, exists_optional_eq_ok]
  have hruleId : (∃ s, pcfRule.optional "pccRuleId" getStr = .ok s) ↔
      ∀ v, pcfRule.find? "pccRuleId" = some v → ∃ s, v = .str s := by
    simp only [exists_optional_eq_ok, getStr_eq_ok]
  have hflowInfos : (∃ l, (arrayAt pcfRule "flowInfos").mapM (·.optional "flowDescription" getStr) =
      .ok l) ↔ ∀ info ∈ arrayAt pcfRule "flowInfos", ∀ v,
        info.find? "flowDescription" = some v → ∃ s, v = .str s := by
    simp only [exists_mapM_eq_ok, exists_optional_eq_ok, getStr_eq_ok]
  constructor
  · rintro ⟨rule, h⟩
    have hget := get_of_readPcfRule h
    obtain ⟨i, f, q, _, _, _, _, hi, hf, hq, -⟩ := readPcfRule_eq_ok.1 h
    exact ⟨hruleId.1 ⟨i, hi⟩, hflowInfos.1 ⟨f, hf⟩, hqosReference.1 ⟨q, hq⟩,
      fun field => (hbandwidth field).1 ⟨_, hget field⟩⟩
  · rintro ⟨hi, hf, hq, hb⟩
    obtain ⟨i, hi⟩ := hruleId.2 hi
    obtain ⟨f, hf⟩ := hflowInfos.2 hf
    obtain ⟨q, hq⟩ := hqosReference.2 hq
    obtain ⟨gbrUl, hgbrUl⟩ := (hbandwidth .gbrUl).2 (hb .gbrUl)
    obtain ⟨gbrDl, hgbrDl⟩ := (hbandwidth .gbrDl).2 (hb .gbrDl)
    obtain ⟨mbrUl, hmbrUl⟩ := (hbandwidth .mbrUl).2 (hb .mbrUl)
    obtain ⟨mbrDl, hmbrDl⟩ := (hbandwidth .mbrDl).2 (hb .mbrDl)
    exact ⟨_, readPcfRule_eq_ok.2 ⟨i, f, q, gbrUl, gbrDl, mbrUl, mbrDl, hi, hf, hq, hgbrUl,
      hgbrDl, hmbrUl, hmbrDl, rfl⟩⟩

/-- A bandwidth that can be read is the one that is given. -/
theorem givenBandwidth_eq {suffix : String} {pcfRule : Json} {rule : PccRule}
    (h : readPcfRule suffix pcfRule = .ok rule) (field : BandwidthField) :
    field.get rule = givenBandwidth pcfRule field := by
  obtain ⟨o, ho, hb⟩ := map_eq_ok.1 (get_of_readPcfRule h field)
  rw [← hb, givenBandwidth, qosDataAt]
  rcases optional_eq_ok.1 ho with ⟨hnone, rfl⟩ | ⟨v, s, hv, hs, rfl⟩
  · rw [hnone]
    rfl
  · rw [hv, getStr_eq_ok.1 hs]
    rfl

/-- The identifier is empty only if the document says so. -/
theorem ruleId_eq_empty_iff (suffix : String) {pcfRule : Json} {o : Option String}
    (h : pcfRule.optional "pccRuleId" getStr = .ok o) :
    o.getD (generateRuleId suffix) = "" ↔ pcfRule.find? "pccRuleId" = some (.str "") := by
  rcases optional_eq_ok.1 h with ⟨hnone, rfl⟩ | ⟨v, s, hv, hs, rfl⟩
  · have hgenerated : generateRuleId suffix ≠ "" := by simp [generateRuleId]
    simp [hnone, hgenerated]
  · rw [hv, getStr_eq_ok.1 hs]
    simp

/-- The 5QI is legal only if the document has it, and a legal one. -/
theorem legalQos_iff {pcfRule : Json} {q : Int32}
    (h : intAt (qosDataAt pcfRule) "5qi" 0 = .ok q) :
    (1 ≤ q.toInt ∧ q.toInt ≤ 79) ↔ ∃ v n, (qosDataAt pcfRule).find? "5qi" = some v ∧
      v.getInt = .ok n ∧ 1 ≤ n.bmod (2 ^ 32) ∧ n.bmod (2 ^ 32) ≤ 79 := by
  obtain ⟨o, ho, rfl⟩ := map_eq_ok.1 h
  rcases optional_eq_ok.1 ho with ⟨hnone, rfl⟩ | ⟨v, n, hv, hn, rfl⟩
  · simp [hnone]
  · rw [Option.elim_some, Int32.toInt_ofInt]
    constructor
    · rintro ⟨hmin, hmax⟩
      exact ⟨v, n, hv, hn, hmin, hmax⟩
    · rintro ⟨v', n', hv', hn', hmin, hmax⟩
      rw [hv, Option.some.injEq] at hv'
      subst hv'
      rw [hn, Except.ok.injEq] at hn'
      subst hn'
      exact ⟨hmin, hmax⟩

/-- The rule a document makes is valid just if the document is acceptable. -/
theorem validateRule_iff {suffix : String} {pcfRule : Json} {rule : PccRule}
    (h : readPcfRule suffix pcfRule = .ok rule) :
    validateRule rule = true ↔ Acceptable pcfRule := by
  have hgiven := givenBandwidth_eq h
  have hgbrUl := hgiven .gbrUl
  have hgbrDl := hgiven .gbrDl
  have hmbrUl := hgiven .mbrUl
  have hmbrDl := hgiven .mbrDl
  obtain ⟨i, _, q, _, _, _, _, hi, -, hq, -, -, -, -, rfl⟩ := readPcfRule_eq_ok.1 h
  dsimp only [BandwidthField.get] at hgbrUl hgbrDl hmbrUl hmbrDl
  have hid := ruleId_eq_empty_iff suffix hi
  have hqos := legalQos_iff hq
  rw [validateRule, hgbrUl, hgbrDl, hmbrUl, hmbrDl]
  simp only [Bool.and_eq_true, Bool.not_eq_true', Bool.or_eq_false_iff, decide_eq_false_iff_not,
    Int32.lt_iff_toInt_lt, not_lt]
  constructor
  · rintro ⟨⟨⟨⟨hne, -⟩, hmin, hmax⟩, hup⟩, hdown⟩
    refine ⟨fun hempty => ?_, hqos.1 ⟨hmin, hmax⟩, hup, hdown⟩
    rw [hid.2 hempty] at hne
    cases hne
  · rintro ⟨hne, hlegal, hup, hdown⟩
    obtain ⟨hmin, hmax⟩ := hqos.2 hlegal
    refine ⟨⟨⟨⟨?_, rfl⟩, hmin, hmax⟩, hup⟩, hdown⟩
    exact String.isEmpty_eq_false_iff.2 fun hempty => hne (hid.1 hempty)

/-! ## Runs -/

variable {m : PccRuleManager}

/-- A rule that is kept leaves the cache valid just if it is valid. -/
theorem CacheValid.cacheRule_iff (h : m.CacheValid) (rule : PccRule) :
    (m.cacheRule rule).2.CacheValid ↔ validateRule rule = true := by
  constructor
  · intro hvalid
    exact (hvalid rule.ruleId rule (AList.lookup_insert _)).2
  · intro hrule id rule' hid
    rw [cacheRule, Table.lookup_insert_eq] at hid
    split at hid
    next heq =>
      rw [← Option.some.inj hid]
      exact ⟨heq.symm, hrule⟩
    next => exact h id rule' hid

/-- What is created is validated. -/
theorem CacheValid.createRule (h : m.CacheValid) (read : Except Json.Error PccRule) :
    (m.createRule read).2.CacheValid := by
  unfold PccRuleManager.createRule
  split
  next rule =>
    split
    next hrule => exact (h.cacheRule_iff rule).2 hrule
    next => exact h
  next => exact h

/-- A call leaves the cache valid just if it makes a valid rule of its document, or none. -/
theorem CacheValid.next_iff (h : m.CacheValid) (op : RuleOp) :
    (m.next op).CacheValid ↔ Accepts m op := by
  cases op with
  | createRuleFromMediaComponent suffix mediaComponent =>
    exact iff_of_true (h.createRule _) trivial
  | createRuleFromAppSession suffix appSessionData =>
    exact iff_of_true (h.createRule _) trivial
  | parseRuleFromPcfFormat suffix pcfRule =>
    have hreadable := exists_readPcfRule_iff suffix pcfRule
    rw [next, PccRuleManager.parseRuleFromPcfFormat]
    split
    next rule hread =>
      rw [h.cacheRule_iff, validateRule_iff hread]
      exact ⟨fun hacceptable _ => hacceptable, fun himp => himp (hreadable.1 ⟨rule, hread⟩)⟩
    next e hread =>
      refine iff_of_true h fun hread' => ?_
      obtain ⟨rule, hrule⟩ := hreadable.2 hread'
      rw [hread] at hrule
      cases hrule

/-- The cache is valid as long as the documents make valid rules, and no longer. -/
theorem cacheValid_of_reachable (hr : (ruleSystem.restrict Accepts).Reachable m) :
    m.CacheValid ∧ ∀ op, (m.next op).CacheValid ↔ Accepts m op := by
  have hvalid : m.CacheValid := by
    refine hr.invariant (P := CacheValid) ?_ ?_
    · rintro m rfl id rule hid
      cases hid
    · rintro m op m' - h ⟨haccepts, rfl⟩
      exact (h.next_iff op).2 haccepts
  exact ⟨hvalid, hvalid.next_iff⟩

/-- An empty object is kept as a rule without a 5QI. -/
theorem empty_cached : ∃ m, ruleSystem.Reachable m ∧ ¬m.CacheValid := by
  refine ⟨_, .step (a := .parseRuleFromPcfFormat "0000abcd" (.obj [])) (.init rfl) rfl, ?_⟩
  intro h
  exact absurd (h "pcc-rule-0000abcd" _ rfl).2 (by decide)

/-- A document with a 5QI is kept, and the cache is valid. -/
theorem fiveQi_cached : ∃ m, (ruleSystem.restrict Accepts).Reachable m ∧
    m.rulesCache.keys = ["rule-1"] ∧ m.CacheValid := by
  have hr : (ruleSystem.restrict Accepts).Reachable _ :=
    .step (a := .parseRuleFromPcfFormat "0000abcd" (.obj [("pccRuleId", .str "rule-1"),
      ("qosData", .obj [("5qi", .int 9)])])) (.init rfl)
      ⟨fun _ => ⟨by simp [find?], ⟨_, 9, rfl, rfl, by decide, by decide⟩, rfl, rfl⟩, rfl⟩
  exact ⟨_, hr, rfl, (cacheValid_of_reachable hr).1⟩

end PccRuleManager

end PhineAf

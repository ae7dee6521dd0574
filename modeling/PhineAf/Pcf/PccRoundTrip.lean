import PhineAf.Pcf.Bandwidth

/-!
# The round trip of a PCC rule

A valid rule is written in the format of the PCF and read from it
(`PccRuleManager.readPcfRule_convert`): its identifier, its flow descriptions, its 5QI and
its bandwidths come back, also those that are zero. The direction is not written, and none
but `bidirectional` is read; additional parameters are written, and not read. So a rule
comes back as a whole just if it has that direction and no additional parameters
(`PccRuleManager.roundTrip_iff`).
-/

namespace PhineAf.PccRuleManager

open Json

variable {rule : PccRule}

/-! ## Valid rules -/

/-- The bandwidths of a legal pair are not negative. -/
theorem nonneg_of_legalBandwidths {guaranteed maximum : Int32}
    (h : legalBandwidths guaranteed maximum = true) : 0 ≤ guaranteed.toInt ∧ 0 ≤ maximum.toInt := by
  simp only [legalBandwidths, Bool.and_eq_true, Bool.not_eq_true', decide_eq_false_iff_not,
    Int32.lt_iff_toInt_lt, not_lt] at h
  exact ⟨h.1.1, h.1.2⟩

/-- The bandwidths of a rule of both kinds are legal. -/
theorem legal_of_validateRule (h : validateRule rule = true) :
    legalBandwidths rule.guaranteedBandwidthUl rule.maximumBandwidthUl = true ∧
      legalBandwidths rule.guaranteedBandwidthDl rule.maximumBandwidthDl = true := by
  simp only [validateRule, Bool.and_eq_true] at h
  exact ⟨h.1.2, h.2⟩

/-! ## Bandwidths -/

/-- A bandwidth that is written is read back. -/
theorem parseBandwidth_bandwidthText {bandwidth : Int32} (h : 0 ≤ bandwidth.toInt) :
    parseBandwidth (bandwidthText bandwidth) = bandwidth := by
  obtain ⟨v, hv⟩ := Int.eq_ofNat_of_zero_le h
  have htext : bandwidthText bandwidth = bitRateText v .kbps := by
    rw [bandwidthText, hv]
    rfl
  have hlt := bandwidth.toInt_lt
  rw [htext, ← Int32.toInt_inj, toInt_parseBandwidth, hv, if_pos (by omega)]

/-- A bandwidth that is left out is zero. -/
theorem bandwidthAt_of_find? {qosData : Json} {key : String} {bandwidth ul dl : Int32}
    (h : qosData.find? key = bandwidthOf bandwidth ul dl) (hul : 0 ≤ ul.toInt)
    (hdl : 0 ≤ dl.toInt) (hb : bandwidth = ul ∨ bandwidth = dl) :
    bandwidthAt qosData key = .ok bandwidth := by
  rw [bandwidthOf] at h
  split at h
  next =>
    have hnonneg : 0 ≤ bandwidth.toInt := by rcases hb with rfl | rfl <;> assumption
    rw [bandwidthAt_str h, parseBandwidth_bandwidthText hnonneg]
  next hnone =>
    simp only [Int32.lt_iff_toInt_lt, Int32.toInt_zero, not_or, not_lt] at hnone
    have hzero : bandwidth = 0 := by
      rw [← Int32.toInt_inj, Int32.toInt_zero]
      rcases hb with rfl | rfl
      · exact le_antisymm hnone.1 hul
      · exact le_antisymm hnone.2 hdl
    rw [bandwidthAt, Json.optional, h, hzero]
    rfl

/-! ## The round trip -/

theorem qosData_find? (rule : PccRule) (key : String) :
    (ofFields (qosFields rule)).find? key = ((qosFields rule).lookup key).join :=
  find?_ofFields key (by decide : ["5qi", "gbrUl", "gbrDl", "mbrUl", "mbrDl"].Nodup)

/-- Without additional parameters, a rule has the members of its own only. -/
theorem convert_find? (hparams : rule.additionalParams = ∅) (key : String) :
    (convertRuleToPcfFormat rule).find? key = ((ruleFields rule).lookup key).join := by
  have hfields : convertRuleToPcfFormat rule = ofFields (ruleFields rule) := by
    rw [convertRuleToPcfFormat, hparams]
    rfl
  rw [hfields]
  exact find?_ofFields key (by decide : ["pccRuleId", "flowInfos", "qosData"].Nodup)

/-- What is read of a valid rule without additional parameters. -/
theorem readPcfRule_convert (suffix : String) (h : validateRule rule = true)
    (hparams : rule.additionalParams = ∅) :
    readPcfRule suffix (convertRuleToPcfFormat rule) =
      .ok { rule with flowDirection := "bidirectional" } := by
  obtain ⟨hul, hdl⟩ := legal_of_validateRule h
  obtain ⟨hgbrUl, hmbrUl⟩ := nonneg_of_legalBandwidths hul
  obtain ⟨hgbrDl, hmbrDl⟩ := nonneg_of_legalBandwidths hdl
  have hqosData : ((convertRuleToPcfFormat rule).find? "qosData").getD .null =
      ofFields (qosFields rule) := by
    rw [convert_find? hparams]
    rfl
  refine readPcfRule_eq_ok.2 ⟨some rule.ruleId, rule.flowDescriptions.map some,
    rule.qosReference, rule.guaranteedBandwidthUl, rule.guaranteedBandwidthDl,
    rule.maximumBandwidthUl, rule.maximumBandwidthDl, ?_, ?_, ?_, ?_, ?_, ?_, ?_, ?_⟩
  · exact optional_str (s := some rule.ruleId) (convert_find? hparams "pccRuleId")
  · rw [arrayAt, convert_find? hparams]
    change ((nonemptyArr _ _).elim [] elements).mapM _ = _
    rw [elements_nonemptyArr]
    have hread : ∀ desc, Json.optional (.obj [("flowDescription", .str desc)]) "flowDescription"
        getStr = .ok (some desc) := fun desc => rfl
    exact mapM_map hread _
  · rw [hqosData, intAt, Json.optional, qosData_find?]
    change Except.ok (Int32.ofInt rule.qosReference.toInt) = _
    rw [Int32.ofInt_toInt]
  · rw [hqosData]
    exact bandwidthAt_of_find? (qosData_find? rule "gbrUl") hgbrUl hgbrDl (.inl rfl)
  · rw [hqosData]
    exact bandwidthAt_of_find? (qosData_find? rule "gbrDl") hgbrUl hgbrDl (.inr rfl)
  · rw [hqosData]
    exact bandwidthAt_of_find? (qosData_find? rule "mbrUl") hmbrUl hmbrDl (.inl rfl)
  · rw [hqosData]
    exact bandwidthAt_of_find? (qosData_find? rule "mbrDl") hmbrUl hmbrDl (.inr rfl)
  · have hflows : (rule.flowDescriptions.map some).reduceOption = rule.flowDescriptions := by
      change (rule.flowDescriptions.map some).filterMap id = rule.flowDescriptions
      rw [List.filterMap_map, Function.id_comp, List.filterMap_some]
    rw [hflows, ← hparams]
    rfl

/-- Rules with the same values: additional parameters have no order. -/
structure SameRule (rule rule' : PccRule) : Prop where
  ruleId : rule.ruleId = rule'.ruleId
  flowDirection : rule.flowDirection = rule'.flowDirection
  flowDescriptions : rule.flowDescriptions = rule'.flowDescriptions
  qosReference : rule.qosReference = rule'.qosReference
  guaranteedBandwidthUl : rule.guaranteedBandwidthUl = rule'.guaranteedBandwidthUl
  guaranteedBandwidthDl : rule.guaranteedBandwidthDl = rule'.guaranteedBandwidthDl
  maximumBandwidthUl : rule.maximumBandwidthUl = rule'.maximumBandwidthUl
  maximumBandwidthDl : rule.maximumBandwidthDl = rule'.maximumBandwidthDl
  additionalParams : ∀ key, rule.additionalParams.lookup key = rule'.additionalParams.lookup key

/-- A valid rule that is written comes back just if it has the direction that is read of
    any rule, and no additional parameters. -/
theorem roundTrip_iff (m : PccRuleManager) (suffix : String) (rule : PccRule)
    (h : validateRule rule = true) :
    (∃ rule', (m.parseRuleFromPcfFormat suffix (convertRuleToPcfFormat rule)).1 = some rule' ∧
        SameRule rule' rule) ↔
      rule.flowDirection = "bidirectional" ∧ rule.additionalParams = ∅ := by
  constructor
  · rintro ⟨rule', hparse, hsame⟩
    rw [parseRuleFromPcfFormat] at hparse
    split at hparse
    next read hread =>
      cases hparse
      -- Whatever is read has the one direction, and nothing additional.
      obtain ⟨_, _, _, _, _, _, _, -, -, -, -, -, -, -, rfl⟩ := readPcfRule_eq_ok.1 hread
      refine ⟨hsame.flowDirection.symm, ?_⟩
      have hnone : ∀ key, rule.additionalParams.lookup key = none :=
        fun key => (hsame.additionalParams key).symm
      refine AList.ext (List.eq_nil_iff_forall_not_mem.2 ?_)
      rintro ⟨key, value⟩ hmem
      rw [← AList.mem_lookup_iff, hnone] at hmem
      cases hmem
    next => cases hparse
  · rintro ⟨hdirection, hparams⟩
    refine ⟨rule, ?_, ⟨rfl, rfl, rfl, rfl, rfl, rfl, rfl, rfl, fun _ => rfl⟩⟩
    rw [parseRuleFromPcfFormat, readPcfRule_convert suffix h hparams, ← hdirection]
    rfl

/-- A valid rule for the uplink. -/
def uplinkRule : PccRule :=
  { ruleId := "rule-1", flowDirection := "uplink", qosReference := 9 }

/-- The uplink is not written, and comes back as both directions. -/
theorem uplink_lost : validateRule uplinkRule = true ∧
    ∃ rule', ((⟨∅⟩ : PccRuleManager).parseRuleFromPcfFormat "0000abcd"
      (convertRuleToPcfFormat uplinkRule)).1 = some rule' ∧
      rule'.flowDirection = "bidirectional" ∧ ¬SameRule rule' uplinkRule := by
  refine ⟨by decide, _, rfl, rfl, fun h => ?_⟩
  exact absurd h.flowDirection (by decide)

/-- A rule for both directions. -/
def bothWays : PccRule :=
  { ruleId := "rule-2", flowDirection := "bidirectional", qosReference := 1,
    flowDescriptions := ["permit in ip from any to any"], maximumBandwidthUl := 5000 }

/-- A rule for both directions comes back. -/
theorem bothWays_kept : ∃ rule', ((⟨∅⟩ : PccRuleManager).parseRuleFromPcfFormat "0000abcd"
      (convertRuleToPcfFormat bothWays)).1 = some rule' ∧ SameRule rule' bothWays :=
  (roundTrip_iff ⟨∅⟩ "0000abcd" bothWays (by decide)).2 ⟨rfl, rfl⟩

end PhineAf.PccRuleManager

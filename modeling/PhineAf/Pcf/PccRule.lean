import PhineAf.Common
import PhineAf.Lib.Text

/-!
# PCC rules

`PccRuleManager`: a rule is made of a media component, of the data of an application
session, or of a rule in the format of the PCF, and kept in a cache. The first two are
validated before they are kept; the last is not.

The numbers of a rule are of the type `int`. The digits a generated identifier ends with
are an argument.
-/

namespace PhineAf

structure PccRule where
  ruleId : String := ""
  flowDirection : String := ""
  flowDescriptions : List String := []
  /-- The 5QI. -/
  qosReference : Int32 := 0
  /-- The bandwidths, in Kbps. -/
  guaranteedBandwidthUl : Int32 := 0
  guaranteedBandwidthDl : Int32 := 0
  maximumBandwidthUl : Int32 := 0
  maximumBandwidthDl : Int32 := 0
  additionalParams : Table String String := ∅

structure PccRuleManager where
  rulesCache : Table String PccRule

namespace PccRuleManager

open Text Json

/-! ## Validation -/

/-- A guaranteed and a maximum bandwidth of a rule: a maximum of zero is none. -/
def legalBandwidths (guaranteed maximum : Int32) : Bool :=
  !(guaranteed < 0 : Bool) && !(maximum < 0 : Bool) &&
    !((0 < maximum : Bool) && (maximum < guaranteed : Bool))

/-- `validate_rule`. -/
def validateRule (rule : PccRule) : Bool :=
  !rule.ruleId.isEmpty &&
  (rule.flowDirection == "uplink" || rule.flowDirection == "downlink" ||
    rule.flowDirection == "bidirectional") &&
  !((rule.qosReference < 1 : Bool) || (79 < rule.qosReference : Bool)) &&
  legalBandwidths rule.guaranteedBandwidthUl rule.maximumBandwidthUl &&
  legalBandwidths rule.guaranteedBandwidthDl rule.maximumBandwidthDl

/-! ## Reading -/

/-- `generate_rule_id`. -/
def generateRuleId (suffix : String) : String := "pcc-rule-" ++ suffix

/-- The elements of the array under a key; there are none if it is not one. -/
def arrayAt (json : Json) (key : String) : List Json := (json.find? key).elim [] elements

/-- The number under a key, or a default. -/
def intAt (json : Json) (key : String) (default : Int32) : Except Json.Error Int32 :=
  (json.optional key getInt).map fun n => n.elim default Int32.ofInt

/-- The rule of a media component. -/
def readMediaComponent (suffix : String) (mediaComponent : Json) :
    Except Json.Error PccRule := do
  let flows := arrayAt mediaComponent "fDescs"
  let flowDescriptions ← (flows.flatMap (arrayAt · "flowDescriptions")).mapM getStr
  let medQoS := (mediaComponent.find? "medQoS").getD .null
  return {
    ruleId := generateRuleId suffix
    flowDirection := "bidirectional"
    flowDescriptions
    qosReference := 9
    maximumBandwidthUl := ← intAt medQoS "maxbrUl" 0
    maximumBandwidthDl := ← intAt medQoS "maxbrDl" 0
    guaranteedBandwidthUl := ← intAt medQoS "minbrUl" 0
    guaranteedBandwidthDl := ← intAt medQoS "minbrDl" 0 }

/-- The rule of the data of an application session. -/
def readAppSession (suffix : String) (appSessionData : Json) : Except Json.Error PccRule := do
  let flowDirection ← appSessionData.optional "flow_direction" getStr
  return {
    ruleId := generateRuleId suffix
    flowDirection := flowDirection.getD "bidirectional"
    flowDescriptions := ← (arrayAt appSessionData "flow_descriptions").mapM getStr
    qosReference := ← intAt appSessionData "qos_reference" 9
    guaranteedBandwidthUl := ← intAt appSessionData "guaranteed_bandwidth_ul" 0
    guaranteedBandwidthDl := ← intAt appSessionData "guaranteed_bandwidth_dl" 0
    maximumBandwidthUl := ← intAt appSessionData "maximum_bandwidth_ul" 0
    maximumBandwidthDl := ← intAt appSessionData "maximum_bandwidth_dl" 0 }

/-- `parse_bandwidth`: the number before the unit `Kbps` or `kbps`, or at the start of the
    text; zero if there is none. -/
def parseBandwidth (bwStr : String) : Int32 :=
  let number := (beforeFirst " Kbps".toList bwStr.toList).or
    (beforeFirst " kbps".toList bwStr.toList)
  ((stoi (number.elim bwStr String.ofList)).elim 0 Int32.ofInt)

/-- The bandwidth under a key, zero if there is none. -/
def bandwidthAt (qosData : Json) (key : String) : Except Json.Error Int32 :=
  (qosData.optional key getStr).map fun bwStr => bwStr.elim 0 parseBandwidth

/-- The rule of a rule in the format of the PCF. The direction is not read, nor are
    additional parameters. -/
def readPcfRule (suffix : String) (pcfRule : Json) : Except Json.Error PccRule := do
  let ruleId ← pcfRule.optional "pccRuleId" getStr
  let flowDescriptions ← (arrayAt pcfRule "flowInfos").mapM (·.optional "flowDescription" getStr)
  let qosData := (pcfRule.find? "qosData").getD .null
  return {
    ruleId := ruleId.getD (generateRuleId suffix)
    flowDirection := "bidirectional"
    flowDescriptions := flowDescriptions.reduceOption
    qosReference := ← intAt qosData "5qi" 0
    guaranteedBandwidthUl := ← bandwidthAt qosData "gbrUl"
    guaranteedBandwidthDl := ← bandwidthAt qosData "gbrDl"
    maximumBandwidthUl := ← bandwidthAt qosData "mbrUl"
    maximumBandwidthDl := ← bandwidthAt qosData "mbrDl" }

/-! ## Writing -/

/-- A bandwidth with its unit. -/
def bandwidthText (bandwidth : Int32) : String := toString bandwidth.toInt ++ " Kbps"

/-- A bandwidth is written if that of one of the directions is positive. -/
def bandwidthOf (bandwidth ul dl : Int32) : Option Json :=
  if 0 < ul ∨ 0 < dl then some (.str (bandwidthText bandwidth)) else none

/-- The members of the QoS data of a rule. -/
def qosFields (rule : PccRule) : List (String × Option Json) :=
  let guaranteed := (bandwidthOf · rule.guaranteedBandwidthUl rule.guaranteedBandwidthDl)
  let maximum := (bandwidthOf · rule.maximumBandwidthUl rule.maximumBandwidthDl)
  [("5qi", some (.int rule.qosReference.toInt)),
    ("gbrUl", guaranteed rule.guaranteedBandwidthUl),
    ("gbrDl", guaranteed rule.guaranteedBandwidthDl),
    ("mbrUl", maximum rule.maximumBandwidthUl),
    ("mbrDl", maximum rule.maximumBandwidthDl)]

/-- The members of a rule before its additional parameters. -/
def ruleFields (rule : PccRule) : List (String × Option Json) := [
  ("pccRuleId", some (.str rule.ruleId)),
  ("flowInfos", nonemptyArr (fun desc => .obj [("flowDescription", .str desc)])
    rule.flowDescriptions),
  ("qosData", some (ofFields (qosFields rule)))]

/-- `convert_rule_to_pcf_format`: an additional parameter may take the place of a member. -/
def convertRuleToPcfFormat (rule : PccRule) : Json :=
  .obj (rule.additionalParams.entries.foldl (fun fields e => assign fields e.1 (.str e.2))
    (ofFields (ruleFields rule)).members)

/-! ## The cache -/

/-- A rule is kept under its identifier, and returned. -/
def cacheRule (m : PccRuleManager) (rule : PccRule) : Option PccRule × PccRuleManager :=
  (some rule, { m with rulesCache := m.rulesCache.insert rule.ruleId rule })

/-- A rule that can be read and is valid is kept. -/
def createRule (m : PccRuleManager) (read : Except Json.Error PccRule) :
    Option PccRule × PccRuleManager :=
  match read with
  | .ok rule => if validateRule rule then m.cacheRule rule else (none, m)
  | .error _ => (none, m)

/-- `create_rule_from_media_component`. -/
def createRuleFromMediaComponent (m : PccRuleManager) (suffix : String) (mediaComponent : Json) :
    Option PccRule × PccRuleManager :=
  m.createRule (readMediaComponent suffix mediaComponent)

/-- `create_rule_from_app_session`. -/
def createRuleFromAppSession (m : PccRuleManager) (suffix : String) (appSessionData : Json) :
    Option PccRule × PccRuleManager :=
  m.createRule (readAppSession suffix appSessionData)

/-- `parse_rule_from_pcf_format`: a rule that can be read is kept. -/
def parseRuleFromPcfFormat (m : PccRuleManager) (suffix : String) (pcfRule : Json) :
    Option PccRule × PccRuleManager :=
  match readPcfRule suffix pcfRule with
  | .ok rule => m.cacheRule rule
  | .error _ => (none, m)

/-! ## What is read -/

/-- The parts of a rule that can be read. -/
theorem readPcfRule_eq_ok {suffix : String} {pcfRule : Json} {rule : PccRule} :
    readPcfRule suffix pcfRule = .ok rule ↔
      ∃ ruleId flowDescriptions qosReference gbrUl gbrDl mbrUl mbrDl,
        pcfRule.optional "pccRuleId" getStr = .ok ruleId ∧
        (arrayAt pcfRule "flowInfos").mapM (·.optional "flowDescription" getStr) =
          .ok flowDescriptions ∧
        intAt ((pcfRule.find? "qosData").getD .null) "5qi" 0 = .ok qosReference ∧
        bandwidthAt ((pcfRule.find? "qosData").getD .null) "gbrUl" = .ok gbrUl ∧
        bandwidthAt ((pcfRule.find? "qosData").getD .null) "gbrDl" = .ok gbrDl ∧
        bandwidthAt ((pcfRule.find? "qosData").getD .null) "mbrUl" = .ok mbrUl ∧
        bandwidthAt ((pcfRule.find? "qosData").getD .null) "mbrDl" = .ok mbrDl ∧
        rule = {
          ruleId := ruleId.getD (generateRuleId suffix)
          flowDirection := "bidirectional"
          flowDescriptions := flowDescriptions.reduceOption
          qosReference
          guaranteedBandwidthUl := gbrUl
          guaranteedBandwidthDl := gbrDl
          maximumBandwidthUl := mbrUl
          maximumBandwidthDl := mbrDl } := by
  simp only [readPcfRule, bind_eq_ok, pure, Except.pure, Except.ok.injEq]
  constructor
  · rintro ⟨i, hi, f, hf, q, hq, g, hg, g', hg', m, hm, m', hm', rfl⟩
    exact ⟨i, f, q, g, g', m, m', hi, hf, hq, hg, hg', hm, hm', rfl⟩
  · rintro ⟨i, f, q, g, g', m, m', hi, hf, hq, hg, hg', hm, hm', rfl⟩
    exact ⟨i, hi, f, hf, q, hq, g, hg, g', hg', m, hm, m', hm', rfl⟩

end PccRuleManager

end PhineAf

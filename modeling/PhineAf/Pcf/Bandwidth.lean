import PhineAf.Lib.Pattern
import PhineAf.Pcf.PccRule
import PhineAf.Pcf.Validation

/-!
# Bandwidths and their units

A bit rate is a number with one of five units. Of the units `parse_bandwidth` knows
`Kbps`: of any other it takes the number alone (`toInt_parseBandwidth`), so that a
bandwidth is what the bit rate says only if it is given in `Kbps`, is zero, is no whole
number of Kbps, or is too large for either to be an `int`
(`PccRuleManager.honoured_iff`).
-/

namespace PhineAf

/-! ## Bit rates -/

/-- The units of a bit rate. -/
inductive BitRateUnit
  | bps
  | kbps
  | mbps
  | gbps
  | tbps
  deriving DecidableEq, Repr

namespace BitRateUnit

def text : BitRateUnit → String
  | bps => "bps"
  | kbps => "Kbps"
  | mbps => "Mbps"
  | gbps => "Gbps"
  | tbps => "Tbps"

/-- The bits per second of a unit. -/
def bits : BitRateUnit → ℕ
  | bps => 1
  | kbps => 1000
  | mbps => 1000000
  | gbps => 1000000000
  | tbps => 1000000000000

end BitRateUnit

/-- The text of a bit rate. -/
def bitRateText (v : ℕ) (u : BitRateUnit) : String := toString v ++ (" " ++ u.text)

open RegularExpression Text in
/-- Such a text is a valid bit rate. -/
theorem isValidBitrate_bitRateText (v : ℕ) (u : BitRateUnit) :
    isValidBitrate (bitRateText v u) = true := by
  have hdigits : (toString v).toList ∈ (many1 digit).matches' := by
    rw [digit, (matchesChar_range (by decide) (by decide)).many1]
    refine ⟨fun hnil => toString_ne_empty v (String.toList_eq_nil_iff.1 hnil), fun c hc => ?_⟩
    have hdigit := isDigit_of_mem_toString hc
    simpa [Char.isDigit, UInt32.le_iff_toNat_le] using hdigit
  have hunit : u.text.toList ∈ (oneOf ["bps", "Kbps", "Mbps", "Gbps", "Tbps"]).matches' := by
    rw [oneOf, mem_foldr_add]
    refine ⟨word u.text, List.mem_map_of_mem ?_, mem_word.2 rfl⟩
    cases u <;> simp [BitRateUnit.text]
  rw [isValidBitrate, fullMatch_iff, bitRateText, String.toList_append, String.toList_append,
    ← List.append_assoc, matches'_mul]
  -- There is no fraction.
  have hnumber : (toString v).toList ∈ (many1 digit * opt (char '.' * many1 digit)).matches' := by
    rw [matches'_mul, Language.mem_mul]
    exact ⟨_, hdigits, [], .inl ((Language.mem_one _).2 rfl), List.append_nil _⟩
  exact ⟨_, mem_mul_char.2 ⟨_, hnumber, rfl⟩, _, hunit, rfl⟩

namespace PccRuleManager

open Text Json

/-! ## One text -/

/-- The number of a bit rate is taken, whatever its unit. -/
theorem toInt_parseBandwidth (v : ℕ) (u : BitRateUnit) :
    (parseBandwidth (bitRateText v u)).toInt = if v < 2 ^ 31 then (v : ℤ) else 0 := by
  have hspace : ' ' ∉ (toString v).toList := by
    intro hmem
    exact absurd (isDigit_of_mem_toString hmem) (by decide)
  have hbefore : ∀ unit : List Char, beforeFirst (' ' :: unit) (bitRateText v u).toList =
      (beforeFirst (' ' :: unit) (" " ++ u.text).toList).map ((toString v).toList ++ ·) := by
    intro unit
    rw [bitRateText, String.toList_append, beforeFirst_append _ hspace]
  have hfound : (beforeFirst " Kbps".toList (bitRateText v u).toList).or
      (beforeFirst " kbps".toList (bitRateText v u).toList) =
        if u = .kbps then some (toString v).toList else none := by
    have hupper : " Kbps".toList = ' ' :: "Kbps".toList := rfl
    have hlower : " kbps".toList = ' ' :: "kbps".toList := rfl
    rw [hupper, hlower, hbefore, hbefore]
    cases u <;> simp [BitRateUnit.text, beforeFirst]
  have hinteger : ∀ rest : String, (∀ c cs, rest.toList = c :: cs → c.isDigit = false) →
      ((stoi (toString v ++ rest)).elim 0 Int32.ofInt).toInt =
        if v < 2 ^ 31 then (v : ℤ) else 0 := by
    intro rest hrest
    rw [stoi_toString_append v hrest]
    split
    next hlt => exact Int32.toInt_ofInt_of_le (by omega) (by exact_mod_cast hlt)
    next => rfl
  rw [parseBandwidth, hfound]
  split
  next =>
    have h := hinteger "" fun c cs h => by cases h
    rw [String.append_empty] at h
    rw [Option.elim_some, String.ofList_toList]
    exact h
  next =>
    refine hinteger (" " ++ u.text) fun c cs h => ?_
    rw [String.toList_append] at h
    rw [← (List.cons.inj h).1]
    rfl

/-- What a bandwidth in Kbps says of a bit rate: it is the bit rate, if that is a whole
    number of Kbps in the range of an `int`, and not another positive one if it is beyond
    the range. -/
structure Honours (bandwidth : Int32) (v : ℕ) (u : BitRateUnit) : Prop where
  exact : ∀ k : ℕ, v * u.bits = k * 1000 → k ≤ 2 ^ 31 - 1 → bandwidth.toInt = k
  beyond : (2 ^ 31 - 1) * 1000 < v * u.bits → ¬0 < bandwidth.toInt

/-- The unit of a bit rate does not matter. -/
def UnitIrrelevant (v : ℕ) : BitRateUnit → Prop
  | .kbps => True
  | .bps => v = 0 ∨ ¬1000 ∣ v ∨ 2 ^ 31 ≤ v / 1000
  | .mbps | .gbps | .tbps => v = 0 ∨ 2 ^ 31 ≤ v

/-- A bandwidth honours a bit rate if the unit of that does not matter. -/
theorem honours_parseBandwidth_iff (v : ℕ) (u : BitRateUnit) :
    Honours (parseBandwidth (bitRateText v u)) v u ↔ UnitIrrelevant v u := by
  have hvalue := toInt_parseBandwidth v u
  have hnumber : (v < 2 ^ 31 ∧ (parseBandwidth (bitRateText v u)).toInt = v) ∨
      (2 ^ 31 ≤ v ∧ (parseBandwidth (bitRateText v u)).toInt = 0) := by
    by_cases hv : v < 2 ^ 31
    · exact .inl ⟨hv, hvalue.trans (if_pos hv)⟩
    · exact .inr ⟨not_lt.1 hv, hvalue.trans (if_neg hv)⟩
  constructor
  · -- The whole number of Kbps, if it is one, is what it is to be compared with.
    rintro ⟨hexact, hbeyond⟩
    have hexact := hexact (v * u.bits / 1000)
    cases u <;> simp only [UnitIrrelevant, BitRateUnit.bits] at * <;> omega
  · intro h
    refine ⟨fun k hk hle => ?_, fun hlt => ?_⟩
    · cases u <;> simp only [UnitIrrelevant, BitRateUnit.bits] at * <;> omega
    · cases u <;> simp only [UnitIrrelevant, BitRateUnit.bits] at * <;> omega

/-! ## The fields of a rule -/

/-- The bandwidths of the QoS data. -/
inductive BandwidthField
  | gbrUl
  | gbrDl
  | mbrUl
  | mbrDl

namespace BandwidthField

def key : BandwidthField → String
  | gbrUl => "gbrUl"
  | gbrDl => "gbrDl"
  | mbrUl => "mbrUl"
  | mbrDl => "mbrDl"

/-- The bandwidth of a rule. -/
def get : BandwidthField → PccRule → Int32
  | gbrUl => PccRule.guaranteedBandwidthUl
  | gbrDl => PccRule.guaranteedBandwidthDl
  | mbrUl => PccRule.maximumBandwidthUl
  | mbrDl => PccRule.maximumBandwidthDl

end BandwidthField

/-- A rule has for each bandwidth what the text of it is parsed to. -/
theorem get_of_readPcfRule {suffix : String} {pcfRule : Json} {rule : PccRule}
    (h : readPcfRule suffix pcfRule = .ok rule) (field : BandwidthField) :
    bandwidthAt ((pcfRule.find? "qosData").getD .null) field.key = .ok (field.get rule) := by
  obtain ⟨_, _, _, _, _, _, _, -, -, -, hgbrUl, hgbrDl, hmbrUl, hmbrDl, rfl⟩ :=
    readPcfRule_eq_ok.1 h
  cases field with
  | gbrUl => exact hgbrUl
  | gbrDl => exact hgbrDl
  | mbrUl => exact hmbrUl
  | mbrDl => exact hmbrDl

theorem bandwidthAt_str {qosData : Json} {key bwStr : String}
    (h : qosData.find? key = some (.str bwStr)) :
    bandwidthAt qosData key = .ok (parseBandwidth bwStr) := by
  rw [bandwidthAt, optional_str (s := some bwStr) h]
  rfl

/-- A rule with one bandwidth only, in the format of the PCF. -/
def oneBandwidth (field : BandwidthField) (v : ℕ) (u : BitRateUnit) : Json :=
  .obj [("qosData", .obj [(field.key, .str (bitRateText v u))])]

/-- Such a rule can be read. -/
theorem readPcfRule_oneBandwidth (suffix : String) (field : BandwidthField) (v : ℕ)
    (u : BitRateUnit) : ∃ rule, readPcfRule suffix (oneBandwidth field v u) = .ok rule := by
  cases field <;> exact ⟨_, rfl⟩

/-- A bandwidth of a rule honours the bit rate of its field, a valid one, just if the unit
    of that does not matter. -/
theorem bandwidth_honoured_iff (m : PccRuleManager) (suffix : String) (field : BandwidthField)
    (v : ℕ) (u : BitRateUnit) :
    isValidBitrate (bitRateText v u) = true ∧
    (∃ rule, (m.parseRuleFromPcfFormat suffix (oneBandwidth field v u)).1 = some rule) ∧
    ∀ pcfRule qosData rule, pcfRule.find? "qosData" = some qosData →
      qosData.find? field.key = some (.str (bitRateText v u)) →
      (m.parseRuleFromPcfFormat suffix pcfRule).1 = some rule →
      (Honours (field.get rule) v u ↔ UnitIrrelevant v u) := by
  refine ⟨isValidBitrate_bitRateText v u, ?_, ?_⟩
  · obtain ⟨rule, hrule⟩ := readPcfRule_oneBandwidth suffix field v u
    exact ⟨rule, by rw [parseRuleFromPcfFormat, hrule]; rfl⟩
  · intro pcfRule qosData rule hqosData hfield hparse
    rw [parseRuleFromPcfFormat] at hparse
    split at hparse
    next rule' hread =>
      cases hparse
      have hget := get_of_readPcfRule hread field
      rw [hqosData, Option.getD_some, bandwidthAt_str hfield, Except.ok.injEq] at hget
      rw [← hget]
      exact honours_parseBandwidth_iff v u
    next => cases hparse

/-- One Gbps is read as one Kbps. -/
theorem gbps_not_honoured : ∃ rule, ((⟨∅⟩ : PccRuleManager).parseRuleFromPcfFormat "0000abcd"
      (oneBandwidth .gbrUl 1 .gbps)).1 = some rule ∧
    rule.guaranteedBandwidthUl = 1 ∧ 1 * BitRateUnit.gbps.bits = 1000000 * 1000 ∧
    ¬Honours rule.guaranteedBandwidthUl 1 .gbps := by
  refine ⟨_, rfl, by decide, rfl, fun h => ?_⟩
  exact absurd (h.exact 1000000 rfl (by decide)) (by decide)

/-- Kbps are read as such. -/
theorem kbps_honoured : ∃ rule, ((⟨∅⟩ : PccRuleManager).parseRuleFromPcfFormat "0000abcd"
      (oneBandwidth .mbrDl 5000 .kbps)).1 = some rule ∧
    (Honours rule.maximumBandwidthDl 5000 .kbps ↔ UnitIrrelevant 5000 .kbps) := by
  obtain ⟨-, ⟨rule, hrule⟩, h⟩ := bandwidth_honoured_iff ⟨∅⟩ "0000abcd" .mbrDl 5000 .kbps
  exact ⟨rule, hrule, h _ _ rule rfl rfl hrule⟩

end PccRuleManager

end PhineAf

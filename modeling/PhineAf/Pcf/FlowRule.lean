import PhineAf.Pcf.Flow

/-!
# The meaning of flow descriptions

The grammar of the flow descriptions,

    permit (in|out) ip from <addr> [<spec>] to <addr> [<spec>]

where `<addr>` is a word and `<spec>` a decimal number or two with a dash between them.
It is unambiguous (`FlowRule.text_injective`). What the PCF handler writes for a session
with words as addresses derives from it, and the uplink descriptions match exactly the
ports the session asked for (`matches_asked_ports`).
-/

namespace PhineAf

/-! ## The grammar -/

/-- A word: not empty, and without a space. -/
def IsWord (s : String) : Prop := s ≠ "" ∧ ' ' ∉ s.toList

/-- The digits of a decimal number. -/
def IsDecimal (s : String) : Prop := s ≠ "" ∧ ∀ c ∈ s.toList, c.isDigit

instance (s : String) : Decidable (IsWord s) := inferInstanceAs (Decidable (_ ∧ _))
instance (s : String) : Decidable (IsDecimal s) := inferInstanceAs (Decidable (_ ∧ _))

theorem IsDecimal.not_mem {s : String} (h : IsDecimal s) {c : Char} (hc : c.isDigit = false) :
    c ∉ s.toList := by
  intro hmem
  rw [h.2 c hmem] at hc
  cases hc

theorem isDecimal_toString (n : ℕ) : IsDecimal (toString n) :=
  ⟨Text.toString_ne_empty n, fun _ => Text.isDigit_of_mem_toString⟩

/-- A port specification, as its digits. -/
inductive PortSpec
  | port (digits : String)
  | range (lo hi : String)
  deriving DecidableEq, Repr

namespace PortSpec

def text : PortSpec → String
  | port digits => digits
  | range lo hi => lo ++ "-" ++ hi

def WellFormed : PortSpec → Prop
  | port digits => IsDecimal digits
  | range lo hi => IsDecimal lo ∧ IsDecimal hi

/-- The ports of a specification. -/
def Matches (spec : PortSpec) (x : ℕ) : Prop :=
  match spec with
  | port digits => x = Text.digitsValue digits.toList
  | range lo hi => Text.digitsValue lo.toList ≤ x ∧ x ≤ Text.digitsValue hi.toList

theorem toList_range (lo hi : String) :
    (range lo hi).text.toList = lo.toList ++ '-' :: hi.toList := by
  simp [text]

theorem text_injective {spec spec' : PortSpec} (h : spec.WellFormed) (h' : spec'.WellFormed)
    (heq : spec.text = spec'.text) : spec = spec' := by
  -- Digits have no dash, so the dash tells the forms apart and the bounds of a range.
  have hdash : ('-').isDigit = false := by decide
  rcases spec with d | ⟨lo, hi⟩ <;> rcases spec' with d' | ⟨lo', hi'⟩
  · exact congrArg port heq
  · have hmem : '-' ∈ (port d).text.toList := by rw [heq, toList_range]; simp
    exact absurd hmem (h.not_mem hdash)
  · have hmem : '-' ∈ (port d').text.toList := by rw [← heq, toList_range]; simp
    exact absurd hmem (h'.not_mem hdash)
  · have hlist := congrArg String.toList heq
    rw [toList_range, toList_range,
      List.append_cons_inj_of_notMem (h.1.not_mem hdash) (h.2.not_mem hdash)] at hlist
    obtain ⟨hlo, -, hhi⟩ := hlist
    rw [String.toList_inj.1 hlo, String.toList_inj.1 hhi]

theorem WellFormed.isWord {spec : PortSpec} (h : spec.WellFormed) : IsWord spec.text := by
  have hspace : (' ').isDigit = false := by decide
  rcases spec with d | ⟨lo, hi⟩
  · exact ⟨h.1, h.not_mem hspace⟩
  · refine ⟨?_, ?_⟩
    · intro hempty
      have hlist := congrArg String.toList hempty
      rw [toList_range] at hlist
      simp at hlist
    · rw [toList_range]
      simp [h.1.not_mem hspace, h.2.not_mem hspace]

theorem WellFormed.text_ne_to {spec : PortSpec} (h : spec.WellFormed) : spec.text ≠ "to" := by
  have ht : ('t').isDigit = false := by decide
  intro hto
  have hmem : 't' ∈ spec.text.toList := by rw [hto]; decide
  rcases spec with d | ⟨lo, hi⟩
  · exact h.not_mem ht hmem
  · rw [toList_range] at hmem
    simp [h.1.not_mem ht, h.2.not_mem ht] at hmem

end PortSpec

inductive Direction
  | inward
  | outward
  deriving DecidableEq, Repr

def Direction.text : Direction → String
  | inward => "in"
  | outward => "out"

/-- A flow description by its parts. -/
@[ext]
structure FlowRule where
  direction : Direction
  source : String
  sourceSpec : Option PortSpec
  target : String
  targetSpec : Option PortSpec
  deriving DecidableEq, Repr

/-- The words of an optional port specification. -/
def specWords (spec : Option PortSpec) : List String := (spec.map PortSpec.text).toList

/-- The text of an optional port specification. -/
def specText (spec : Option PortSpec) : String := (spec.map PortSpec.text).getD ""

/-- An absent specification matches every port. -/
def SpecMatches (spec : Option PortSpec) (x : ℕ) : Prop := ∀ p ∈ spec, p.Matches x

namespace FlowRule

/-- The words after `from`. -/
def endpoints (r : FlowRule) : List String :=
  r.source :: (specWords r.sourceSpec ++ "to" :: r.target :: specWords r.targetSpec)

def words (r : FlowRule) : List String :=
  "permit" :: r.direction.text :: "ip" :: "from" :: r.endpoints

def text (r : FlowRule) : String := " ".intercalate r.words

structure WellFormed (r : FlowRule) : Prop where
  source : IsWord r.source
  sourceSpec : ∀ p ∈ r.sourceSpec, p.WellFormed
  target : IsWord r.target
  targetSpec : ∀ p ∈ r.targetSpec, p.WellFormed

/-- The text derives from the grammar with the parts of `r`. -/
def Parses (r : FlowRule) (description : String) : Prop := r.WellFormed ∧ r.text = description

/-- The rule matches traffic from port `a` to port `b`. -/
def Matches (r : FlowRule) (a b : ℕ) : Prop := SpecMatches r.sourceSpec a ∧ SpecMatches r.targetSpec b

/-! ## It is unambiguous -/

theorem isWord_of_mem_specWords {spec : Option PortSpec} (h : ∀ p ∈ spec, p.WellFormed)
    {w : String} (hw : w ∈ specWords spec) : IsWord w := by
  rcases spec with _ | p
  · cases hw
  · rw [List.mem_singleton.1 hw]
    exact (h p rfl).isWord

theorem WellFormed.isWord_of_mem {r : FlowRule} (h : r.WellFormed) {w : String}
    (hw : w ∈ r.words) : IsWord w := by
  simp only [words, endpoints, List.mem_cons, List.mem_append] at hw
  rcases hw with rfl | rfl | rfl | rfl | rfl | hw | rfl | rfl | hw
  · decide
  · cases r.direction <;> decide
  · decide
  · decide
  · exact h.source
  · exact isWord_of_mem_specWords h.sourceSpec hw
  · decide
  · exact h.target
  · exact isWord_of_mem_specWords h.targetSpec hw

/-- The words of a description are found back at its spaces. -/
theorem words_of_text {r r' : FlowRule} (h : r.WellFormed) (h' : r'.WellFormed)
    (heq : r.text = r'.text) : r.words = r'.words := by
  have hsplit : ∀ r : FlowRule, r.WellFormed →
      r.text.toList.splitOn ' ' = r.words.map String.toList := by
    intro r hr
    rw [text, String.toList_intercalate]
    refine List.splitOn_intercalate ' ' ?_ (by simp [words])
    intro l hl
    obtain ⟨w, hw, rfl⟩ := List.mem_map.1 hl
    exact (hr.isWord_of_mem hw).2
  have hlist := hsplit r h
  rw [heq, hsplit r' h'] at hlist
  exact (List.map_injective_iff.2 (fun _ _ => String.toList_inj.1) hlist).symm

theorem spec_of_words {spec spec' : Option PortSpec} (h : ∀ p ∈ spec, p.WellFormed)
    (h' : ∀ p ∈ spec', p.WellFormed) (heq : specWords spec = specWords spec') : spec = spec' := by
  rcases spec with _ | p <;> rcases spec' with _ | p'
  · rfl
  · cases heq
  · cases heq
  · exact congrArg some (PortSpec.text_injective (h p rfl) (h' p' rfl) (List.cons.inj heq).1)

/-- The word after the address tells whether a specification follows it. -/
theorem sourceSpec_of_words {spec spec' : Option PortSpec} {l l' : List String}
    (h : ∀ p ∈ spec, p.WellFormed) (h' : ∀ p ∈ spec', p.WellFormed)
    (heq : specWords spec ++ "to" :: l = specWords spec' ++ "to" :: l') : spec = spec' ∧ l = l' := by
  rcases spec with _ | p <;> rcases spec' with _ | p'
  · exact ⟨rfl, (List.cons.inj heq).2⟩
  · exact absurd (List.cons.inj heq).1.symm (h' p' rfl).text_ne_to
  · exact absurd (List.cons.inj heq).1 (h p rfl).text_ne_to
  · obtain ⟨hp, hl⟩ := List.cons.inj heq
    rw [PortSpec.text_injective (h p rfl) (h' p' rfl) hp]
    exact ⟨rfl, (List.cons.inj hl).2⟩

/-- No text derives from the grammar in two ways. -/
theorem text_injective {r r' : FlowRule} (h : r.WellFormed) (h' : r'.WellFormed)
    (heq : r.text = r'.text) : r = r' := by
  have hwords := words_of_text h h' heq
  simp only [words, endpoints, List.cons.injEq, true_and] at hwords
  obtain ⟨hdirection, hsource, hrest⟩ := hwords
  obtain ⟨hspec, htail⟩ := sourceSpec_of_words h.sourceSpec h'.sourceSpec hrest
  obtain ⟨htarget, hlast⟩ := List.cons.inj htail
  have htargetSpec := spec_of_words h.targetSpec h'.targetSpec hlast
  have hdir : r.direction = r'.direction := by
    revert hdirection
    cases r.direction <;> cases r'.direction <;> decide
  exact FlowRule.ext hdir hsource hspec htarget htargetSpec

end FlowRule

namespace QodPcfHandler

open FlowRule

/-! ## What the handler writes -/

/-- A range of ports as a port specification of the grammar. -/
def rangeRule (range : ℕ × ℕ) : PortSpec :=
  if range.1 = range.2 then .port (toString range.1)
  else .range (toString range.1) (toString range.2)

/-- The specifications collected, by the grammar. -/
def portRules (ports : FlowPorts) : List PortSpec :=
  ports.ports.map (fun p => .port (toString p)) ++ ports.ranges.map rangeRule

/-- The port specifications of one side; without ports, the absent one. -/
def specRules : Option FlowPorts → List (Option PortSpec)
  | none => [none]
  | some ports => if ports.isEmpty then [none] else (portRules ports).map some

/-- The ports one side of the session asks for: all, if none is listed. -/
def Asked (ports : Option FlowPorts) (x : ℕ) : Prop :=
  match ports with
  | none => True
  | some ports => ports.isEmpty ∨ x ∈ ports.ports ∨ ∃ r ∈ ports.ranges, r.1 ≤ x ∧ x ≤ r.2

theorem text_rangeRule (range : ℕ × ℕ) : (rangeRule range).text = rangeSpec range := by
  rw [rangeRule, rangeSpec]
  split_ifs <;> rfl

theorem wellFormed_rangeRule (range : ℕ × ℕ) : (rangeRule range).WellFormed := by
  rw [rangeRule]
  split_ifs
  · exact isDecimal_toString _
  · exact ⟨isDecimal_toString _, isDecimal_toString _⟩

theorem matches_rangeRule (range : ℕ × ℕ) (x : ℕ) :
    (rangeRule range).Matches x ↔ range.1 ≤ x ∧ x ≤ range.2 := by
  rw [rangeRule]
  split_ifs with heq
  · rw [PortSpec.Matches, Text.digitsValue_toString, ← heq]
    omega
  · rw [PortSpec.Matches, Text.digitsValue_toString, Text.digitsValue_toString]

theorem map_text_portRules (ports : FlowPorts) :
    (portRules ports).map PortSpec.text = collectPortSpecs ports := by
  have hrange : PortSpec.text ∘ rangeRule = rangeSpec := funext text_rangeRule
  rw [portRules, List.map_append, List.map_map, List.map_map, hrange]
  rfl

theorem wellFormed_of_mem_portRules {ports : FlowPorts} {p : PortSpec} (h : p ∈ portRules ports) :
    p.WellFormed := by
  rcases List.mem_append.1 h with h | h
  · obtain ⟨n, -, rfl⟩ := List.mem_map.1 h
    exact isDecimal_toString n
  · obtain ⟨range, -, rfl⟩ := List.mem_map.1 h
    exact wellFormed_rangeRule range

theorem exists_matches_portRules (ports : FlowPorts) (x : ℕ) :
    (∃ p ∈ portRules ports, p.Matches x) ↔
      x ∈ ports.ports ∨ ∃ r ∈ ports.ranges, r.1 ≤ x ∧ x ≤ r.2 := by
  have hport : (∃ p ∈ ports.ports.map (fun n => PortSpec.port (toString n)), p.Matches x) ↔
      x ∈ ports.ports := by
    simp only [List.mem_map, exists_exists_and_eq_and, PortSpec.Matches, Text.digitsValue_toString,
      exists_eq_right']
  have hrange : (∃ p ∈ ports.ranges.map rangeRule, p.Matches x) ↔
      ∃ r ∈ ports.ranges, r.1 ≤ x ∧ x ≤ r.2 := by
    simp only [List.mem_map, exists_exists_and_eq_and, matches_rangeRule]
  rw [← hport, ← hrange, portRules]
  simp only [List.mem_append, or_and_right, exists_or]

/-- A side without a specification to collect has no ports. -/
theorem isEmpty_collectPortSpecs (ports : FlowPorts) :
    (collectPortSpecs ports).isEmpty = ports.isEmpty := by
  rw [collectPortSpecs, FlowPorts.isEmpty]
  cases ports.ports <;> cases ports.ranges <;> rfl

theorem orAny_portSpecs (ports : Option FlowPorts) :
    orAny (portSpecs ports) = (specRules ports).map specText := by
  rcases ports with _ | ports
  · rfl
  · rw [portSpecs, specRules]
    cases hempty : ports.isEmpty with
    | true => rfl
    | false =>
      rw [if_neg Bool.false_ne_true, if_neg Bool.false_ne_true, orAny, isEmpty_collectPortSpecs,
        hempty, if_neg Bool.false_ne_true, ← map_text_portRules, List.map_map]
      rfl

theorem wellFormed_of_mem_specRules {ports : Option FlowPorts} {spec : Option PortSpec}
    (h : spec ∈ specRules ports) : ∀ p ∈ spec, p.WellFormed := by
  intro p hp
  rw [Option.mem_def.1 hp] at h
  rcases ports with _ | ports
  · cases List.mem_singleton.1 h
  · rw [specRules] at h
    split_ifs at h
    · cases List.mem_singleton.1 h
    · exact wellFormed_of_mem_portRules (List.mem_map_of_injective (Option.some_injective _) |>.1 h)

/-- A port is asked for if and only if one of the specifications matches it. -/
theorem exists_specMatches_iff (ports : Option FlowPorts) (x : ℕ) :
    (∃ spec ∈ specRules ports, SpecMatches spec x) ↔ Asked ports x := by
  rcases ports with _ | ports
  · simp [specRules, Asked, SpecMatches]
  · rw [specRules, Asked, ← exists_matches_portRules]
    cases hempty : ports.isEmpty with
    | true => simp [SpecMatches]
    | false => simp [SpecMatches]

/-- The description of a flow, by its parts. -/
def flowRule (direction : Direction) (src dst : String) (p : Option PortSpec × Option PortSpec) :
    FlowRule :=
  ⟨direction, src, p.1, dst, p.2⟩

theorem text_flowRule (direction : Direction) (src dst : String)
    {p : Option PortSpec × Option PortSpec} (h : ∀ q ∈ p.1, q.WellFormed)
    (h' : ∀ q ∈ p.2, q.WellFormed) :
    (flowRule direction src dst p).text =
      formatFlowDescription direction.text src (specText p.1) dst (specText p.2) := by
  -- An absent specification is the empty text, and nothing else is.
  have hspaced : ∀ q : Option PortSpec, (∀ r ∈ q, r.WellFormed) →
      (spaced (specText q)).toList = (specWords q).flatMap (' ' :: ·.toList) := by
    intro q hq
    rcases q with _ | r
    · rfl
    · have hne : spaced r.text = " " ++ r.text := if_neg (hq r rfl).isWord.1
      simpa [specText, specWords] using congrArg String.toList hne
  rw [← String.toList_inj]
  simp only [formatFlowDescription, String.toList_append, hspaced p.1 h, hspaced p.2 h']
  obtain ⟨p, p'⟩ := p
  rcases p with _ | q <;> rcases p' with _ | q' <;>
    simp [flowRule, text, words, endpoints, specWords]

/-- The pairs of port specifications of a session, by the grammar. -/
theorem mem_specPairs_iff {s : FlowSession} {q : String × String} :
    q ∈ specPairs s ↔ ∃ p ∈ specRules s.devicePorts, ∃ p' ∈ specRules s.applicationServerPorts,
      (specText p, specText p') = q := by
  rw [specPairs, orAny_portSpecs, orAny_portSpecs]
  constructor
  · intro hmem
    obtain ⟨hq, hq'⟩ := List.pair_mem_product.1 hmem
    obtain ⟨p, hp, hq⟩ := List.mem_map.1 hq
    obtain ⟨p', hp', hq'⟩ := List.mem_map.1 hq'
    exact ⟨p, hp, p', hp', Prod.ext hq hq'⟩
  · rintro ⟨p, hp, p', hp', rfl⟩
    exact List.pair_mem_product.2 ⟨List.mem_map_of_mem hp, List.mem_map_of_mem hp'⟩

section Meaning

variable {s : FlowSession} (hsrc : IsWord s.srcIp) (hdst : IsWord s.dstIp)

include hsrc hdst

/-- The uplink description of a pair, by its parts. -/
theorem parses_uplink {p p' : Option PortSpec} (hp : p ∈ specRules s.devicePorts)
    (hp' : p' ∈ specRules s.applicationServerPorts) :
    (flowRule .outward s.srcIp s.dstIp (p, p')).Parses (uplink s (specText p, specText p')) :=
  ⟨⟨hsrc, wellFormed_of_mem_specRules hp, hdst, wellFormed_of_mem_specRules hp'⟩,
    text_flowRule .outward s.srcIp s.dstIp (wellFormed_of_mem_specRules hp)
      (wellFormed_of_mem_specRules hp')⟩

/-- The downlink description of a pair, by its parts. -/
theorem parses_downlink {p p' : Option PortSpec} (hp : p ∈ specRules s.devicePorts)
    (hp' : p' ∈ specRules s.applicationServerPorts) :
    (flowRule .outward s.dstIp s.srcIp (p', p)).Parses
      (downlink "out" s (specText p, specText p')) :=
  ⟨⟨hdst, wellFormed_of_mem_specRules hp', hsrc, wellFormed_of_mem_specRules hp⟩,
    text_flowRule .outward s.dstIp s.srcIp (wellFormed_of_mem_specRules hp')
      (wellFormed_of_mem_specRules hp)⟩

theorem exists_parses {d : String} (hd : d ∈ descriptions "out" s) : ∃ r : FlowRule, r.Parses d := by
  obtain ⟨q, hq, hmem⟩ := List.mem_flatMap.1 hd
  obtain ⟨p, hp, p', hp', rfl⟩ := mem_specPairs_iff.1 hq
  rcases List.mem_pair.1 hmem with rfl | rfl
  · exact ⟨_, parses_uplink hsrc hdst hp hp'⟩
  · exact ⟨_, parses_downlink hsrc hdst hp hp'⟩

/-- Every description parses in one way, and the uplink descriptions match exactly the
    pairs of ports that the session asked for. -/
theorem matches_asked_ports :
    (∀ d, Json.str d ∈ fDescsInOrder (mapPortsToMediaSubcomponents s) →
      ∃! r : FlowRule, r.Parses d) ∧
    ∀ a b, (∃ i d r, description? (mapPortsToMediaSubcomponents s) (2 * i + 1) = some d ∧
        FlowRule.Parses r d ∧ r.Matches a b) ↔
      Asked s.devicePorts a ∧ Asked s.applicationServerPorts b := by
  have hunique : ∀ {d : String} {r r' : FlowRule}, r.Parses d → r'.Parses d → r = r' :=
    fun hr hr' => FlowRule.text_injective hr.1 hr'.1 (hr.2.trans hr'.2.symm)
  refine ⟨?_, ?_⟩
  · intro d hd
    rw [(agree_upto_keyword s).2] at hd
    obtain ⟨d', hmem, heq⟩ := List.mem_map.1 hd
    obtain ⟨r, hr⟩ := exists_parses hsrc hdst hmem
    rw [Json.str.inj heq] at hr
    exact ⟨r, hr, fun r' hr' => hunique hr' hr⟩
  · intro a b
    rw [← exists_specMatches_iff, ← exists_specMatches_iff]
    simp only [mapPortsToMediaSubcomponents_eq, description?_numbered,
      (getElem?_descriptions "out" s _).1, Option.map_eq_some_iff]
    constructor
    · rintro ⟨i, _, r, ⟨q, hq, rfl⟩, hr, hmatch⟩
      obtain ⟨p, hp, p', hp', rfl⟩ := mem_specPairs_iff.1 (List.mem_of_getElem? hq)
      rw [hunique hr (parses_uplink hsrc hdst hp hp')] at hmatch
      exact ⟨⟨p, hp, hmatch.1⟩, p', hp', hmatch.2⟩
    · rintro ⟨⟨p, hp, ha⟩, p', hp', hb⟩
      obtain ⟨i, hi⟩ := List.mem_iff_getElem?.1 (mem_specPairs_iff.2 ⟨p, hp, p', hp', rfl⟩)
      exact ⟨i, _, _, ⟨_, hi, rfl⟩, parses_uplink hsrc hdst hp hp', ha, hb⟩

end Meaning

/-- Ports on the side of the device only. -/
def portsSession : FlowSession :=
  { plainSession with devicePorts := some { ports := [5000], ranges := [(80, 90)] } }

theorem matches_asked_ports_portsSession :
    (∀ d, Json.str d ∈ fDescsInOrder (mapPortsToMediaSubcomponents portsSession) →
      ∃! r : FlowRule, r.Parses d) ∧
    ∀ a b, (∃ i d r, description? (mapPortsToMediaSubcomponents portsSession) (2 * i + 1) = some d ∧
        FlowRule.Parses r d ∧ r.Matches a b) ↔
      Asked portsSession.devicePorts a ∧ Asked portsSession.applicationServerPorts b :=
  matches_asked_ports (by decide) (by decide)

end QodPcfHandler

end PhineAf

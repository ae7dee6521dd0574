import Mathlib.Data.List.ProdSigma
import Mathlib.Data.List.Sort
import PhineAf.Lib.Text
import PhineAf.Qod.Session

/-!
# Flow descriptions

The flows of a session as the PCF handler describes them: one for each pair of a port
specification of the device and one of the application server, and for each such pair
one from the device and one towards it.

`QodPcfHandler` has two generators. `map_ports_to_media_subcomponents` numbers the
descriptions and files each under its number (`exactFlowSet`), and its result is what
reaches the PCF; `build_flow_descriptions` makes a flat list of the same flows. They
differ in every description towards the device (`agree_upto_keyword`,
`generators_never_agree`).
-/

namespace PhineAf

/-! ## Data -/

/-- The ports of one side of a flow, with the ranges from the first port to the second. -/
structure FlowPorts where
  ports : List ℕ := []
  ranges : List (ℕ × ℕ) := []
  deriving DecidableEq, Repr

/-- `is_empty`. -/
def FlowPorts.isEmpty (ports : FlowPorts) : Bool := ports.ports.isEmpty && ports.ranges.isEmpty

/-- The ports of a specification. -/
def PortsSpec.flowPorts (ports : PortsSpec) : FlowPorts where
  ports := ports.ports.map UInt16.toNat
  ranges := ports.ranges.map fun r => (r.lo.toNat, r.hi.toNat)

/-- The fields of a session its flows are made of. The ports are any natural numbers:
    nothing here depends on the width of a port. -/
structure FlowSession where
  device : Option QodDevice := none
  applicationServer : ApplicationServer := {}
  devicePorts : Option FlowPorts := none
  applicationServerPorts : Option FlowPorts := none
  deriving DecidableEq, Repr

def QodSession.flowSession (session : QodSession) : FlowSession where
  device := session.device
  applicationServer := session.applicationServer
  devicePorts := session.devicePorts.map PortsSpec.flowPorts
  applicationServerPorts := session.applicationServerPorts.map PortsSpec.flowPorts

/-! ## Utilities -/

/-- A range of ports as a port specification: a degenerate one is a single port. -/
def rangeSpec (range : ℕ × ℕ) : String :=
  if range.1 = range.2 then toString range.1 else toString range.1 ++ "-" ++ toString range.2

/-- `collect_port_specs`. -/
def collectPortSpecs (ports : FlowPorts) : List String :=
  ports.ports.map toString ++ ports.ranges.map rangeSpec

/-- A port specification after an address, unless it is empty. -/
def spaced (spec : String) : String := if spec = "" then "" else " " ++ spec

/-- `format_flow_description`. -/
def formatFlowDescription (direction srcIp srcPort dstIp dstPort : String) : String :=
  "permit " ++ direction ++ " ip from " ++ srcIp ++ spaced srcPort ++ " to " ++ dstIp ++
    spaced dstPort

namespace FlowSession

/-- The address of the device, the private one first. -/
def srcIp (s : FlowSession) : String :=
  match s.device with
  | none => "any"
  | some device =>
    match device.ipv4Address with
    | some ipv4 => (ipv4.privateAddress.getD ipv4.publicAddress).value
    | none => (device.ipv6Address.map (·.value)).getD "any"

/-- The address of the application server. -/
def dstIp (s : FlowSession) : String :=
  match s.applicationServer.ipv4Address with
  | some ipv4 => ipv4
  | none => s.applicationServer.ipv6Address.getD "any"

end FlowSession

/-- The specifications of the ports of one side, if any. -/
def portSpecs : Option FlowPorts → List String
  | none => []
  | some ports => if ports.isEmpty then [] else collectPortSpecs ports

namespace QodPcfHandler

/-! ## Media sub-components -/

/-- A media sub-component. -/
def mediaSubComponent (flowNumber : ℕ) (description : String) : Json :=
  .obj [("fNum", .int flowNumber), ("fDescs", .arr [.str description]),
    ("fStatus", .str "ENABLED"), ("flowUsage", .str "NO_INFO")]

/-- The media sub-components made so far, and the number of the next flow (an `int` in
    the source, which the flows of one session do not exhaust). -/
structure SubComponents where
  medSubComps : List (String × Json) := []
  flowNumber : ℕ := 1

/-- A media sub-component is filed under its number. -/
def SubComponents.add (m : SubComponents) (description : String) : SubComponents where
  medSubComps :=
    Json.assign m.medSubComps (toString m.flowNumber) (mediaSubComponent m.flowNumber description)
  flowNumber := m.flowNumber + 1

/-- `add_subcomp_pair`: uplink, then downlink. -/
def addSubcompPair (srcIp dstIp : String) (m : SubComponents) (srcPortSpec dstPortSpec : String) :
    SubComponents :=
  (m.add (formatFlowDescription "out" srcIp srcPortSpec dstIp dstPortSpec)).add
    (formatFlowDescription "out" dstIp dstPortSpec srcIp srcPortSpec)

/-- `map_ports_to_media_subcomponents`. -/
def mapPortsToMediaSubcomponents (s : FlowSession) : Json :=
  let addPair := addSubcompPair s.srcIp s.dstIp
  let srcPortSpecs := portSpecs s.devicePorts
  let dstPortSpecs := portSpecs s.applicationServerPorts
  let m : SubComponents :=
    if !srcPortSpecs.isEmpty && !dstPortSpecs.isEmpty then
      srcPortSpecs.foldl (fun m sp => dstPortSpecs.foldl (fun m dp => addPair m sp dp) m) {}
    else if !srcPortSpecs.isEmpty then srcPortSpecs.foldl (fun m sp => addPair m sp "") {}
    else if !dstPortSpecs.isEmpty then dstPortSpecs.foldl (fun m dp => addPair m "" dp) {}
    else addPair {} "" ""
  .obj m.medSubComps

/-! ## The flat list -/

/-- `build_flow_descriptions`. -/
def buildFlowDescriptions (s : FlowSession) : Json :=
  let both (sp dp : String) : List Json :=
    [.str (formatFlowDescription "out" s.srcIp sp s.dstIp dp),
      .str (formatFlowDescription "in" s.dstIp dp s.srcIp sp)]
  let srcPortSpecs := portSpecs s.devicePorts
  let dstPortSpecs := portSpecs s.applicationServerPorts
  let flows : List Json :=
    if !srcPortSpecs.isEmpty && !dstPortSpecs.isEmpty then
      srcPortSpecs.foldl
        (fun flows sp => dstPortSpecs.foldl (fun flows dp => flows ++ both sp dp) flows) []
    else if !srcPortSpecs.isEmpty then srcPortSpecs.foldl (fun flows sp => flows ++ both sp "") []
    else if !dstPortSpecs.isEmpty then dstPortSpecs.foldl (fun flows dp => flows ++ both "" dp) []
    else both "" ""
  .arr flows

/-! ## The pairs of port specifications -/

/-- The specifications of one side, or the empty one. -/
def orAny (specs : List String) : List String := if specs.isEmpty then [""] else specs

/-- The pairs of port specifications of a session, in row-major order. -/
def specPairs (s : FlowSession) : List (String × String) :=
  orAny (portSpecs s.devicePorts) ×ˢ orAny (portSpecs s.applicationServerPorts)

/-- The four cases are one loop over the pairs. -/
theorem fold_cases {σ : Type} (f : σ → String → String → σ) (init : σ) (l l' : List String) :
    (if !l.isEmpty && !l'.isEmpty then
        l.foldl (fun m sp => l'.foldl (fun m dp => f m sp dp) m) init
      else if !l.isEmpty then l.foldl (fun m sp => f m sp "") init
      else if !l'.isEmpty then l'.foldl (fun m dp => f m "" dp) init
      else f init "" "") =
    (orAny l ×ˢ orAny l').foldl (fun m p => f m p.1 p.2) init := by
  have hprod : ∀ (l l' : List String) (init : σ), (l ×ˢ l').foldl (fun m p => f m p.1 p.2) init =
      l.foldl (fun m sp => l'.foldl (fun m dp => f m sp dp) m) init := by
    intro l l'
    induction l with
    | nil => intro init; rfl
    | cons sp l ih =>
      intro init
      rw [List.product_cons, List.foldl_append, List.foldl_map, ih, List.foldl_cons]
  rw [hprod]
  cases l with
  | nil => cases l' <;> simp [orAny]
  | cons sp l => cases l' <;> simp [orAny]

theorem length_orAny (specs : List String) : (orAny specs).length = max 1 specs.length := by
  rw [orAny]
  cases specs with
  | nil => rfl
  | cons spec specs => simp

/-- An empty specification of ports has no port specifications anyway. -/
theorem portSpecs_eq (ports : Option FlowPorts) :
    portSpecs ports = (ports.map collectPortSpecs).getD [] := by
  rcases ports with _ | ⟨ports, ranges⟩
  · rfl
  · cases ports <;> cases ranges <;> rfl

/-! ## Both generators in closed form -/

/-- The description of the flow from the device. -/
def uplink (s : FlowSession) (p : String × String) : String :=
  formatFlowDescription "out" s.srcIp p.1 s.dstIp p.2

/-- The description of the flow towards the device, under a direction keyword. -/
def downlink (direction : String) (s : FlowSession) (p : String × String) : String :=
  formatFlowDescription direction s.dstIp p.2 s.srcIp p.1

/-- The descriptions of a session, when those towards the device have a keyword. -/
def descriptions (direction : String) (s : FlowSession) : List String :=
  (specPairs s).flatMap fun p => [uplink s p, downlink direction s p]

theorem buildFlowDescriptions_eq (s : FlowSession) :
    buildFlowDescriptions s = .arr ((descriptions "in" s).map .str) := by
  refine (congrArg Json.arr (fold_cases (fun flows sp dp => flows ++
    [Json.str (uplink s (sp, dp)), Json.str (downlink "in" s (sp, dp))]) [] _ _)).trans ?_
  have hfold : ∀ (l : List (String × String)) (init : List Json),
      l.foldl (fun flows p => flows ++ [Json.str (uplink s p), Json.str (downlink "in" s p)]) init =
        init ++ (l.flatMap fun p => [uplink s p, downlink "in" s p]).map Json.str := by
    intro l
    induction l with
    | nil => simp
    | cons p l ih =>
      intro init
      rw [List.foldl_cons, ih, List.flatMap_cons, List.map_append, ← List.append_assoc]
      rfl
  rw [descriptions, specPairs]
  exact congrArg Json.arr (hfold _ [])

/-- Descriptions filed under their numbers, from one on. -/
def numbered (ds : List String) : List (String × Json) :=
  (ds.zipIdx 1).map fun d => (toString d.2, mediaSubComponent d.2 d.1)

theorem keys_numbered (ds : List String) :
    (numbered ds).map Prod.fst = (List.range' 1 ds.length).map toString := by
  rw [numbered, List.map_map, ← List.zipIdx_map_snd, List.map_map]
  rfl

theorem add_numbered (ds : List String) (d : String) :
    SubComponents.add ⟨numbered ds, ds.length + 1⟩ d =
      ⟨numbered (ds ++ [d]), (ds ++ [d]).length + 1⟩ := by
  have hfresh : toString (ds.length + 1) ∉ (numbered ds).map Prod.fst := by
    rw [keys_numbered]
    intro h
    obtain ⟨k, hk, heq⟩ := List.mem_map.1 h
    have hlt := List.mem_range'_1.1 hk
    have := Text.toString_injective heq
    omega
  rw [SubComponents.add]
  dsimp only
  rw [Json.assign_of_not_mem _ hfresh, numbered, numbered, List.zipIdx_append, List.map_append]
  simp [Nat.add_comm]

theorem mapPortsToMediaSubcomponents_eq (s : FlowSession) :
    mapPortsToMediaSubcomponents s = .obj (numbered (descriptions "out" s)) := by
  have hfold : ∀ (l : List (String × String)) (ds : List String),
      l.foldl (fun m p => addSubcompPair s.srcIp s.dstIp m p.1 p.2) ⟨numbered ds, ds.length + 1⟩ =
        ⟨numbered (ds ++ l.flatMap fun p => [uplink s p, downlink "out" s p]),
          (ds ++ l.flatMap fun p => [uplink s p, downlink "out" s p]).length + 1⟩ := by
    intro l
    induction l with
    | nil => simp
    | cons p l ih =>
      intro ds
      rw [List.foldl_cons, addSubcompPair, add_numbered, add_numbered, ih, List.flatMap_cons]
      simp [uplink, downlink]
  have hloop := fold_cases (addSubcompPair s.srcIp s.dstIp) {} (portSpecs s.devicePorts)
    (portSpecs s.applicationServerPorts)
  have hall := hfold (specPairs s) []
  exact congrArg (fun m : SubComponents => Json.obj m.medSubComps) (hloop.trans hall)

/-! ## Reading the numbered descriptions -/

/-- The media sub-component with a number. -/
def subComponent? (medSubComps : Json) (k : ℕ) : Option Json := medSubComps.find? (toString k)

/-- The only flow description of the media sub-component with a number. -/
def description? (medSubComps : Json) (k : ℕ) : Option String :=
  match (subComponent? medSubComps k).bind (·.find? "fDescs") with
  | some (.arr [.str description]) => some description
  | _ => none

theorem lookup_numbered (ds : List String) (i k : ℕ) :
    ((ds.zipIdx i).map fun d => (toString d.2, mediaSubComponent d.2 d.1)).lookup (toString (i + k)) =
      (ds[k]?).map (mediaSubComponent (i + k)) := by
  induction ds generalizing i k with
  | nil => rfl
  | cons d ds ih =>
    rw [List.zipIdx_cons, List.map_cons, List.lookup_cons]
    cases k with
    | zero => simp
    | succ k =>
      have hne : (toString (i + (k + 1)) == toString i) = false := by
        rw [beq_eq_false_iff_ne]
        intro h
        have := Text.toString_injective h
        omega
      have hk : i + (k + 1) = i + 1 + k := by omega
      rw [hne]
      simpa only [hk, List.getElem?_cons_succ] using ih (i + 1) k

theorem subComponent?_numbered (ds : List String) (k : ℕ) :
    subComponent? (.obj (numbered ds)) (k + 1) = (ds[k]?).map (mediaSubComponent (k + 1)) := by
  have h := lookup_numbered ds 1 k
  rw [Nat.add_comm 1 k] at h
  exact h

theorem description?_numbered (ds : List String) (k : ℕ) :
    description? (.obj (numbered ds)) (k + 1) = ds[k]? := by
  rw [description?, subComponent?_numbered]
  cases ds[k]? <;> rfl

theorem getElem?_descriptions (direction : String) (s : FlowSession) (i : ℕ) :
    (descriptions direction s)[2 * i]? = (specPairs s)[i]?.map (uplink s) ∧
      (descriptions direction s)[2 * i + 1]? = (specPairs s)[i]?.map (downlink direction s) := by
  rw [descriptions]
  generalize specPairs s = l
  induction l generalizing i with
  | nil => simp
  | cons p l ih =>
    cases i with
    | zero => exact ⟨rfl, rfl⟩
    | succ i => exact ih i

theorem length_descriptions (direction : String) (s : FlowSession) :
    (descriptions direction s).length = 2 * (specPairs s).length := by
  simp [descriptions, List.length_flatMap, Nat.mul_comm]

theorem length_specPairs (s : FlowSession) :
    (specPairs s).length = max 1 (portSpecs s.devicePorts).length *
      max 1 (portSpecs s.applicationServerPorts).length := by
  rw [specPairs, List.length_product, length_orAny, length_orAny]

/-! ## The exact set of flows -/

/-- An endpoint of a flow as a description names it: its address and, after a space, its
    ports, if they are restricted. -/
def endpointText (address spec : String) : String :=
  if spec = "" then address else address ++ " " ++ spec

/-- A description is a permission under a direction, from one endpoint to the other. -/
theorem formatFlowDescription_eq (direction srcIp srcPort dstIp dstPort : String) :
    formatFlowDescription direction srcIp srcPort dstIp dstPort =
      "permit " ++ direction ++ " ip from " ++ endpointText srcIp srcPort ++ " to " ++
        endpointText dstIp dstPort := by
  have hspaced : ∀ address spec : String, address ++ spaced spec = endpointText address spec := by
    intro address spec
    rw [spaced, endpointText]
    split_ifs
    · exact String.append_empty
    · exact (String.append_assoc ..).symm
  rw [← hspaced, ← hspaced]
  simp only [formatFlowDescription, String.append_assoc]

/-- The media sub-components of a session with the pairs `pairs` of port specifications:
    two for each pair, numbered one after the other. -/
structure ExactFlowSet (s : FlowSession) (pairs : List (String × String))
    (medSubComps : List (String × Json)) : Prop where
  /-- No key is repeated. -/
  nodup : (medSubComps.map Prod.fst).Nodup
  /-- The keys are the decimal numbers from one to twice the number of pairs. -/
  keys : ∀ key, key ∈ medSubComps.map Prod.fst ↔
    ∃ k, 1 ≤ k ∧ k ≤ 2 * pairs.length ∧ key = toString k
  /-- Every media sub-component has its number and one description. -/
  numbered : ∀ k, 1 ≤ k → k ≤ 2 * pairs.length → ∃ component,
    subComponent? (.obj medSubComps) k = some component ∧
    component.find? "fNum" = some (.int k) ∧
    ∃ description, component.find? "fDescs" = some (.arr [.str description])
  /-- The first one for a pair permits the flow from the device to the application server. -/
  uplink : ∀ i p, pairs[i]? = some p → description? (.obj medSubComps) (2 * i + 1) =
    some ("permit out ip from " ++ endpointText s.srcIp p.1 ++ " to " ++ endpointText s.dstIp p.2)
  /-- The second one permits a flow with the same endpoints exchanged. -/
  downlink : ∀ i p, pairs[i]? = some p → ∃ direction ∈ ["in", "out"],
    description? (.obj medSubComps) (2 * i + 2) = some ("permit " ++ direction ++ " ip from " ++
      endpointText s.dstIp p.2 ++ " to " ++ endpointText s.srcIp p.1)

/-- The media sub-components of a session are exactly its flows. -/
theorem exactFlowSet (s : FlowSession) :
    let srcPortSpecs := (s.devicePorts.map collectPortSpecs).getD []
    let dstPortSpecs := (s.applicationServerPorts.map collectPortSpecs).getD []
    let pairs := orAny srcPortSpecs ×ˢ orAny dstPortSpecs
    pairs.length = max 1 srcPortSpecs.length * max 1 dstPortSpecs.length ∧
      ∃ medSubComps, mapPortsToMediaSubcomponents s = .obj medSubComps ∧
        ExactFlowSet s pairs medSubComps := by
  intro srcPortSpecs dstPortSpecs pairs
  have hpairs : pairs = specPairs s := by rw [specPairs, portSpecs_eq, portSpecs_eq]
  have hlength : (descriptions "out" s).length = 2 * pairs.length := by
    rw [hpairs, length_descriptions]
  refine ⟨by rw [List.length_product, length_orAny, length_orAny], _,
    mapPortsToMediaSubcomponents_eq s, ?_, ?_, ?_, ?_, ?_⟩
  · rw [keys_numbered]
    exact (List.nodup_range' _).map Text.toString_injective
  · intro key
    rw [keys_numbered, hlength, List.mem_map]
    simp only [List.mem_range'_1]
    constructor
    · rintro ⟨k, hk, rfl⟩
      exact ⟨k, by omega, by omega, rfl⟩
    · rintro ⟨k, hpos, hk, rfl⟩
      exact ⟨k, by omega, rfl⟩
  · intro k hpos hk
    obtain ⟨k, rfl⟩ := Nat.exists_eq_add_of_le' hpos
    have hlt : k < (descriptions "out" s).length := by omega
    rw [subComponent?_numbered, List.getElem?_eq_getElem hlt]
    exact ⟨_, rfl, rfl, _, rfl⟩
  · intro i p hp
    rw [description?_numbered, (getElem?_descriptions "out" s i).1, ← hpairs, hp, Option.map_some,
      QodPcfHandler.uplink, formatFlowDescription_eq]
    rfl
  · intro i p hp
    refine ⟨"out", by decide, ?_⟩
    rw [description?_numbered, (getElem?_descriptions "out" s i).2, ← hpairs, hp, Option.map_some,
      QodPcfHandler.downlink, formatFlowDescription_eq]

/-! ## The generators compared -/

/-- The number a key is the decimal of. -/
def numericKey (key : String) : ℕ := Text.digitsValue key.toList

/-- The descriptions of all media sub-components, in increasing order of their numbers. -/
def fDescsInOrder : Json → List Json
  | .obj medSubComps =>
    (medSubComps.mergeSort fun f g => numericKey f.1 ≤ numericKey g.1).flatMap fun f =>
      (f.2.find? "fDescs").elim [] Json.elements
  | _ => []

theorem fDescsInOrder_numbered (ds : List String) :
    fDescsInOrder (.obj (numbered ds)) = ds.map .str := by
  have hsorted : (numbered ds).Pairwise fun f g => decide (numericKey f.1 ≤ numericKey g.1) := by
    rw [numbered, List.pairwise_map]
    have hsnd : ((ds.zipIdx 1).map Prod.snd).Pairwise (· < ·) := by
      rw [List.zipIdx_map_snd]
      exact List.pairwise_lt_range'
    refine (List.pairwise_map.1 hsnd).imp ?_
    intro d e hlt
    simpa only [numericKey, Text.digitsValue_toString, decide_eq_true_eq] using hlt.le
  have hflat : ∀ (l : List String) (i : ℕ),
      ((l.zipIdx i).map fun d => (toString d.2, mediaSubComponent d.2 d.1)).flatMap
        (fun f => (f.2.find? "fDescs").elim [] Json.elements) = l.map Json.str := by
    intro l
    induction l with
    | nil => intro i; rfl
    | cons d l ih =>
      intro i
      rw [List.zipIdx_cons, List.map_cons, List.flatMap_cons, ih]
      rfl
  rw [fDescsInOrder, List.mergeSort_of_pairwise hsorted]
  exact hflat ds 1

/-- Up to the keyword of the descriptions towards the device, the generators agree. -/
theorem agree_upto_keyword (s : FlowSession) :
    buildFlowDescriptions s = .arr ((descriptions "in" s).map .str) ∧
      fDescsInOrder (mapPortsToMediaSubcomponents s) = (descriptions "out" s).map .str := by
  rw [mapPortsToMediaSubcomponents_eq, fDescsInOrder_numbered]
  exact ⟨buildFlowDescriptions_eq s, rfl⟩

theorem downlink_in_ne_out (s : FlowSession) (p : String × String) :
    downlink "in" s p ≠ downlink "out" s p := by
  intro h
  have hlist := congrArg String.toList h
  simp [downlink, formatFlowDescription] at hlist

theorem specPairs_ne_nil (s : FlowSession) : specPairs s ≠ [] := by
  rw [← List.length_pos_iff, length_specPairs]
  exact Nat.mul_pos (by omega) (by omega)

/-- There is a flow towards the device, so the generators differ on every session. -/
theorem generators_never_agree (s : FlowSession) :
    buildFlowDescriptions s ≠ .arr (fDescsInOrder (mapPortsToMediaSubcomponents s)) := by
  obtain ⟨hflat, hnumbered⟩ := agree_upto_keyword s
  rw [hflat, hnumbered]
  intro h
  have hds : descriptions "in" s = descriptions "out" s :=
    List.map_injective_iff.2 (fun d e hde => Json.str.inj hde) (Json.arr.inj h)
  obtain ⟨p, l, hp⟩ := List.exists_cons_of_ne_nil (specPairs_ne_nil s)
  have hin := (getElem?_descriptions "in" s 0).2
  have hout := (getElem?_descriptions "out" s 0).2
  rw [hds, hout, hp] at hin
  exact downlink_in_ne_out s p (Option.some.inj hin).symm

/-- A device and a server, without ports. -/
def plainSession : FlowSession where
  device := some { ipv4Address := some { publicAddress := ⟨"203.0.113.5"⟩ } }
  applicationServer := { ipv4Address := some "198.51.100.7" }

/-- What the PCF gets for `plainSession` names no flow with the keyword `in`. -/
theorem not_generators_agree :
    ¬∀ s, buildFlowDescriptions s = .arr (fDescsInOrder (mapPortsToMediaSubcomponents s)) := by
  intro h
  obtain ⟨hflat, hnumbered⟩ := agree_upto_keyword plainSession
  have heq := h plainSession
  rw [hflat, hnumbered] at heq
  have hds := Json.arr.inj heq
  simp only [descriptions, specPairs, plainSession, portSpecs, orAny] at hds
  have htail := (List.cons.inj (List.cons.inj hds).2).1
  exact absurd (Json.str.inj htail) (by decide)

end QodPcfHandler

end PhineAf

import Mathlib.Data.List.Forall2
import PhineAf.Rest.Router

/-!
# Parameters in paths

A client puts percent-encoded texts in the places of the names of a pattern, and the
router is to assign the texts to the names. The path is decoded when it is parsed, before
it is matched with the pattern, and each capture is decoded again. So a text with a slash
is taken for several segments, one with a percent sign is decoded twice, and a literal
segment with an escape does not match itself. If the path cannot be parsed, it is matched
as it is, with the query string.

`RestRouter.pathParams_correct_iff`: these are the ways in which the texts are lost.
-/

namespace PhineAf

namespace RestRouter

open Percent

def question : UInt8 := 63
def hash : UInt8 := 35

/-! ## Patterns and paths -/

/-- A segment of a pattern, with what a client puts there. -/
inductive Segment
  | literal (text : Bytes)
  | param (name value encoded : Bytes)

namespace Segment

/-- The segment of the pattern. -/
def pattern : Segment → Bytes
  | literal text => text
  | param name _ _ => openBrace :: (name ++ [closeBrace])

/-- The segment of the path. -/
def raw : Segment → Bytes
  | literal text => text
  | param _ _ encoded => encoded

/-- The piece of the expression made of the segment. -/
def token : Segment → PatternToken
  | literal text => .literal text
  | param _ _ _ => .capture

/-- What is to be assigned. -/
def assignment : Segment → Option (Bytes × Bytes)
  | literal _ => none
  | param name value _ => some (name, value)

/-- A text of a segment, or a name in braces with a text and an encoding of it. -/
def WellFormed : Segment → Prop
  | literal text => text ≠ [] ∧ slash ∉ text ∧ question ∉ text ∧ hash ∉ text ∧ openBrace ∉ text
  | param name value encoded => name ≠ [] ∧ closeBrace ∉ name ∧ value ≠ [] ∧
      Decodes encoded value ∧ slash ∉ encoded ∧ question ∉ encoded ∧ hash ∉ encoded

/-- A text without escapes; a value without percent signs and slashes. -/
def Plain : Segment → Prop
  | literal text => percent ∉ text
  | param _ value _ => percent ∉ value ∧ slash ∉ value

end Segment

/-- Segments, each after a slash. -/
def join (parts : List Bytes) : Bytes := parts.flatMap (slash :: ·)

theorem join_nil : join [] = [] := rfl

theorem join_cons (part : Bytes) (parts : List Bytes) :
    join (part :: parts) = slash :: (part ++ join parts) := rfl

/-- The pattern. -/
def patternOf (segs : List Segment) : Bytes := join (segs.map Segment.pattern)

/-- The path of the client. -/
def pathOf (segs : List Segment) : Bytes := join (segs.map Segment.raw)

/-- The expression made of the pattern. -/
def tokensOf (segs : List Segment) : List PatternToken :=
  segs.flatMap fun seg => [.literal [slash], seg.token]

/-- What is to be assigned to the names. -/
def assignments (segs : List Segment) : List (Bytes × Bytes) := segs.filterMap Segment.assignment

/-- The path component of a target. -/
def pathComponent (target : Bytes) : Bytes := target.takeWhile fun b => b ≠ question && b ≠ hash

/-! ## Names -/

theorem scanNames_append (text : Bytes) (h : openBrace ∉ text) (rest : Bytes) :
    scanNames none (text ++ rest) = scanNames none rest := by
  induction text with
  | nil => rfl
  | cons b text ih =>
    rw [List.mem_cons, not_or] at h
    rw [List.cons_append, scanNames, if_neg (Ne.symm h.1), ih h.2]

theorem scanNames_close {acc name : Bytes} (h : closeBrace ∉ name) (hne : acc ++ name ≠ [])
    (rest : Bytes) : scanNames (some acc) (name ++ closeBrace :: rest) =
      (acc ++ name) :: scanNames none rest := by
  induction name generalizing acc with
  | nil =>
    rw [List.append_nil] at hne ⊢
    rw [List.nil_append, scanNames, if_pos rfl, if_neg (by simpa using hne)]
  | cons b name ih =>
    rw [List.mem_cons, not_or] at h
    rw [List.cons_append, scanNames, if_neg (Ne.symm h.1), ih h.2 (by simp), List.append_assoc]
    rfl

/-- The names found in a pattern are those of its segments. -/
theorem paramNames_patternOf {segs : List Segment} (h : ∀ seg ∈ segs, seg.WellFormed) :
    paramNames (patternOf segs) = (assignments segs).map Prod.fst := by
  rw [paramNames]
  induction segs with
  | nil => rfl
  | cons seg segs ih =>
    obtain ⟨hseg, hsegs⟩ := List.forall_mem_cons.1 h
    have hslash : scanNames none (patternOf (seg :: segs)) =
        scanNames none (seg.pattern ++ patternOf segs) :=
      scanNames_append [slash] (by decide) _
    rw [hslash]
    cases seg with
    | literal text =>
      obtain ⟨-, -, -, -, hbrace⟩ := hseg
      rw [Segment.pattern, scanNames_append text hbrace, ih hsegs]
      rfl
    | param name value encoded =>
      obtain ⟨hne, hbrace, -⟩ := hseg
      have hopen : scanNames none ((Segment.param name value encoded).pattern ++ patternOf segs) =
          scanNames (some []) (name ++ closeBrace :: patternOf segs) := by
        rw [Segment.pattern, List.cons_append, List.append_assoc]
        rfl
      rw [hopen, scanNames_close hbrace (by simpa using hne), ih hsegs]
      rfl

/-! ## Matching -/

/-- A text is empty, or starts with a slash. -/
def AtSlash (s : Bytes) : Prop := s = [] ∨ ∃ rest, s = slash :: rest

theorem atSlash_join (parts : List Bytes) : AtSlash (join parts) := by
  rcases parts with _ | ⟨part, parts⟩
  · exact .inl rfl
  · exact .inr ⟨_, rfl⟩

theorem takeWhile_append {a s : Bytes} (ha : slash ∉ a) (hs : AtSlash s) :
    (a ++ s).takeWhile (· ≠ slash) = a := by
  have hpos : ∀ b ∈ a, decide (b ≠ slash) = true := by
    intro b hb
    refine decide_eq_true ?_
    rintro rfl
    exact ha hb
  rw [List.takeWhile_append_of_pos hpos]
  rcases hs with rfl | ⟨rest, rfl⟩ <;> simp

/-- A segment ends at the next slash. -/
theorem append_inj_of_slash {a b s t : Bytes} (ha : slash ∉ a) (hb : slash ∉ b)
    (hs : AtSlash s) (ht : AtSlash t) (h : a ++ s = b ++ t) : a = b ∧ s = t := by
  have hab : a = b := by
    rw [← takeWhile_append ha hs, h, takeWhile_append hb ht]
  subst hab
  exact ⟨rfl, List.append_cancel_left h⟩

/-- The texts that match a pattern, and what is captured. -/
inductive Matches : List Segment → Bytes → List Bytes → Prop
  | nil : Matches [] [] []
  | literal {text s : Bytes} {segs : List Segment} {captures : List Bytes} :
      Matches segs s captures →
      Matches (.literal text :: segs) (slash :: (text ++ s)) captures
  | param {name value encoded part s : Bytes} {segs : List Segment} {captures : List Bytes} :
      part ≠ [] → slash ∉ part → Matches segs s captures →
      Matches (.param name value encoded :: segs) (slash :: (part ++ s)) (part :: captures)

theorem Matches.atSlash {segs : List Segment} {s : Bytes} {captures : List Bytes}
    (h : Matches segs s captures) : AtSlash s := by
  rcases h with _ | _ | _
  · exact .inl rfl
  · exact .inr ⟨_, rfl⟩
  · exact .inr ⟨_, rfl⟩

theorem tokensOf_cons (seg : Segment) (segs : List Segment) :
    tokensOf (seg :: segs) = .literal [slash] :: seg.token :: tokensOf segs := rfl

theorem regexMatch_slash (tokens : List PatternToken) (s : Bytes) :
    regexMatch (.literal [slash] :: tokens) (slash :: s) = regexMatch tokens s := by
  simp [regexMatch]

/-- What a capture takes is part of what comes before the next slash. -/
theorem captured_of_le {s : Bytes} {n : Nat} (hpos : 1 ≤ n)
    (hle : n ≤ (s.takeWhile (· ≠ slash)).length) : s.take n ≠ [] ∧ slash ∉ s.take n := by
  have htake : s.take n = (s.takeWhile (· ≠ slash)).take n := by
    obtain ⟨tail, htail⟩ := List.takeWhile_prefix (l := s) fun b => decide (b ≠ slash)
    conv_lhs => rw [← htail]
    exact List.take_append_of_le_length hle
  rw [htake]
  refine ⟨List.ne_nil_of_length_pos ?_, fun hmem => ?_⟩
  · rw [List.length_take]
    omega
  · have hne := List.all_eq_true.1 List.all_takeWhile _ (List.mem_of_mem_take hmem)
    exact of_decide_eq_true hne rfl

/-- What the expression matches. -/
theorem matches_of_regexMatch {segs : List Segment} {s : Bytes} {captures : List Bytes}
    (h : regexMatch (tokensOf segs) s = some captures) : Matches segs s captures := by
  induction segs generalizing s captures with
  | nil =>
    rw [tokensOf, List.flatMap_nil, regexMatch] at h
    split at h
    next hnil =>
      rw [List.isEmpty_iff.1 hnil, ← Option.some.inj h]
      exact .nil
    next => cases h
  | cons seg segs ih =>
    have hslash : ∃ s', s = slash :: s' ∧ regexMatch (seg.token :: tokensOf segs) s' =
        some captures := by
      rw [tokensOf_cons, regexMatch] at h
      split at h
      next hprefix =>
        obtain ⟨s', rfl⟩ := List.isPrefixOf_iff_prefix.1 hprefix
        exact ⟨s', rfl, h⟩
      next => cases h
    obtain ⟨s, rfl, h⟩ := hslash
    cases seg with
    | literal text =>
      change regexMatch (.literal text :: tokensOf segs) s = some captures at h
      rw [regexMatch] at h
      split at h
      next hprefix =>
        obtain ⟨s, rfl⟩ := List.isPrefixOf_iff_prefix.1 hprefix
        rw [List.drop_left] at h
        exact .literal (ih h)
      next => cases h
    | param name value encoded =>
      change regexMatch (.capture :: tokensOf segs) s = some captures at h
      rw [regexMatch] at h
      obtain ⟨n, hn, hfound⟩ := List.exists_of_findSome?_eq_some h
      obtain ⟨rest, hrest, rfl⟩ := Option.map_eq_some_iff.1 hfound
      rw [List.mem_reverse, List.mem_range'_1] at hn
      have hle : n ≤ (s.takeWhile (· ≠ slash)).length := by omega
      obtain ⟨hne, hnoSlash⟩ := captured_of_le hn.1 hle
      have hparam : Matches (.param name value encoded :: segs)
          (slash :: (s.take n ++ s.drop n)) (s.take n :: rest) := .param hne hnoSlash (ih hrest)
      rwa [List.take_append_drop] at hparam

/-- The expression matches, and each group captures a segment. -/
theorem Matches.regexMatch {segs : List Segment} {s : Bytes} {captures : List Bytes}
    (h : Matches segs s captures) : regexMatch (tokensOf segs) s = some captures := by
  induction h with
  | nil => rfl
  | @literal text s segs captures _ ih =>
    rw [tokensOf_cons, regexMatch_slash, Segment.token, RestRouter.regexMatch,
      if_pos (List.isPrefixOf_iff_prefix.2 (List.prefix_append text s)), List.drop_left, ih]
  | @param name value encoded part s segs captures hne hslash hrest ih =>
    -- The longest capture comes first, and is that of the whole segment.
    obtain ⟨n, hn⟩ := Nat.exists_eq_succ_of_ne_zero (List.length_pos_of_ne_nil hne).ne'
    have hlast : (List.range' 1 part.length).reverse =
        part.length :: (List.range' 1 n).reverse := by
      rw [hn, List.range'_1_concat, List.reverse_append, Nat.add_comm]
      rfl
    rw [tokensOf_cons, regexMatch_slash, Segment.token, RestRouter.regexMatch,
      takeWhile_append hslash hrest.atSlash, hlast, List.findSome?_cons, List.drop_left,
      List.take_left, ih]
    rfl

/-! ## Parts -/

/-- The slashes of a text that matches are those before the segments. -/
theorem Matches.count_slash {segs : List Segment} {s : Bytes} {captures : List Bytes}
    (h : Matches segs s captures) (hsegs : ∀ seg ∈ segs, seg.WellFormed) :
    s.count slash = segs.length := by
  induction h with
  | nil => rfl
  | @literal text s segs captures _ ih =>
    obtain ⟨hseg, hsegs⟩ := List.forall_mem_cons.1 hsegs
    rw [List.count_cons_self, List.count_append, List.count_eq_zero.2 hseg.2.1, ih hsegs,
      Nat.zero_add, List.length_cons]
  | @param name value encoded part s segs captures _ hslash _ ih =>
    obtain ⟨-, hsegs⟩ := List.forall_mem_cons.1 hsegs
    rw [List.count_cons_self, List.count_append, List.count_eq_zero.2 hslash, ih hsegs,
      Nat.zero_add, List.length_cons]

theorem count_slash_join (parts : List Bytes) :
    (join parts).count slash = parts.length + (parts.map (List.count slash)).sum := by
  induction parts with
  | nil => rfl
  | cons part parts ih =>
    rw [join, List.flatMap_cons, ← join, List.count_append, List.count_cons_self, ih,
      List.map_cons, List.sum_cons, List.length_cons]
    omega

variable {boost : BoostUrl}

variable (boost) in
/-- A part of a path is what a segment asks for: the text itself, or one that is decoded to
    the value. -/
def Serves (seg : Segment) (part : Bytes) : Prop :=
  match seg with
  | .literal text => part = text
  | .param _ value _ => part ≠ [] ∧ slash ∉ part ∧ boost.decode part = some value

variable (boost) in
/-- The captures are decoded to the values. -/
def Captured (segs : List Segment) (captures : List Bytes) : Prop :=
  List.Forall₂ (fun capture e => boost.decode capture = some e.2) captures (assignments segs)

/-- Parts without slashes are the segments that match. -/
theorem serves_of_matches {segs : List Segment} {parts captures : List Bytes}
    (hsegs : ∀ seg ∈ segs, seg.WellFormed) (hparts : ∀ part ∈ parts, slash ∉ part)
    (hlength : parts.length = segs.length) (hmatch : Matches segs (join parts) captures)
    (hcaptured : Captured boost segs captures) : List.Forall₂ (Serves boost) segs parts := by
  induction segs generalizing parts captures with
  | nil =>
    rw [List.length_eq_zero_iff.1 hlength]
    exact .nil
  | cons seg segs ih =>
    obtain ⟨part, parts, rfl⟩ := List.exists_cons_of_length_eq_add_one hlength
    obtain ⟨hpart, hrestParts⟩ := List.forall_mem_cons.1 hparts
    obtain ⟨hseg, hrests⟩ := List.forall_mem_cons.1 hsegs
    have hrestLength := Nat.succ_inj.1 hlength
    generalize hs : join (part :: parts) = s at hmatch
    rcases hmatch with _ | hrest | ⟨hne, hslash, hrest⟩
    · obtain ⟨rfl, rfl⟩ := append_inj_of_slash hpart hseg.2.1 (atSlash_join parts) hrest.atSlash
        (List.cons.inj hs).2
      exact .cons rfl (ih hrests hrestParts hrestLength hrest hcaptured)
    · obtain ⟨rfl, rfl⟩ := append_inj_of_slash hpart hslash (atSlash_join parts) hrest.atSlash
        (List.cons.inj hs).2
      obtain ⟨hdecode, hcaptured⟩ := List.forall₂_cons.1 hcaptured
      exact .cons ⟨hne, hslash, hdecode⟩ (ih hrests hrestParts hrestLength hrest hcaptured)

/-- Parts that are what the segments ask for match, and are captured. -/
theorem exists_matches_of_serves {segs : List Segment} {parts : List Bytes}
    (h : List.Forall₂ (Serves boost) segs parts) :
    ∃ captures, Matches segs (join parts) captures ∧ Captured boost segs captures := by
  induction h with
  | nil => exact ⟨[], .nil, .nil⟩
  | @cons seg part segs parts hseg _ ih =>
    obtain ⟨captures, hmatch, hcaptured⟩ := ih
    cases seg with
    | literal text =>
      obtain rfl : part = text := hseg
      exact ⟨captures, .literal hmatch, hcaptured⟩
    | param name value encoded =>
      obtain ⟨hne, hslash, hdecode⟩ := hseg
      exact ⟨part :: captures, .param hne hslash hmatch, .cons hdecode hcaptured⟩

/-- The values are captured and decoded just if each part is what its segment asks for. -/
theorem served_iff {segs : List Segment} {parts : List Bytes}
    (hsegs : ∀ seg ∈ segs, seg.WellFormed) (hlength : parts.length = segs.length) :
    (∃ captures, Matches segs (join parts) captures ∧ Captured boost segs captures) ↔
      List.Forall₂ (Serves boost) segs parts := by
  refine ⟨?_, exists_matches_of_serves⟩
  rintro ⟨captures, hmatch, hcaptured⟩
  -- There are no more slashes than segments, so there is none in a part.
  have hcount := hmatch.count_slash hsegs
  rw [count_slash_join, hlength] at hcount
  have hsum : (parts.map (List.count slash)).sum = 0 := by omega
  refine serves_of_matches hsegs (fun part hpart => ?_) hlength hmatch hcaptured
  have hcount := List.sum_eq_zero_iff_forall_eq_nat.1 hsum _ (List.mem_map_of_mem hpart)
  exact List.count_eq_zero.1 hcount

/-! ## The decoded path -/

/-- A path is decoded segment by segment. -/
theorem exists_of_decodes_join {raws : List Bytes} {path : Bytes} (h : Decodes (join raws) path) :
    ∃ parts, path = join parts ∧ List.Forall₂ Decodes raws parts := by
  induction raws generalizing path with
  | nil => exact ⟨[], h.unique .nil, .nil⟩
  | cons raw raws ih =>
    rw [join_cons] at h
    obtain ⟨rest, hrest, rfl⟩ := (decodes_cons_iff (by decide : slash ≠ percent)).1 h
    rcases raws with _ | ⟨raw', raws⟩
    · rw [join_nil, List.append_nil] at hrest
      exact ⟨[rest], by simp [join], .cons hrest .nil⟩
    · obtain ⟨part, rest', hpart, hrest', rfl⟩ := hrest.of_append_slash
      obtain ⟨parts, hparts, hforall⟩ := ih (.byte (by decide) hrest')
      exact ⟨part :: parts, by rw [hparts]; rfl, .cons hpart hforall⟩

/-- A segment that is decoded is what is asked for just if it is plain. -/
theorem serves_iff_plain (hdecode : ∀ s, boost.decode s = pctDecode s) {seg : Segment}
    {part : Bytes} (hseg : seg.WellFormed) (hpart : Decodes seg.raw part) :
    Serves boost seg part ↔ seg.Plain := by
  cases seg with
  | literal text =>
    constructor
    · rintro rfl
      exact decodes_self_iff.1 hpart
    · exact fun hplain => hpart.unique (decodes_self_iff.2 hplain)
  | param name value encoded =>
    obtain ⟨-, -, hne, hvalue, -⟩ := hseg
    obtain rfl := hpart.unique hvalue
    rw [Serves, hdecode, pctDecode_eq_some_iff, decodes_self_iff, Segment.Plain]
    tauto

theorem forall₂_serves_iff (hdecode : ∀ s, boost.decode s = pctDecode s) {segs : List Segment}
    {parts : List Bytes} (hsegs : ∀ seg ∈ segs, seg.WellFormed)
    (hparts : List.Forall₂ Decodes (segs.map Segment.raw) parts) :
    List.Forall₂ (Serves boost) segs parts ↔ ∀ seg ∈ segs, seg.Plain := by
  induction segs generalizing parts with
  | nil =>
    rcases hparts with _ | _
    exact iff_of_true .nil (fun _ h => by cases h)
  | cons seg segs ih =>
    obtain ⟨hseg, hrest⟩ := List.forall_mem_cons.1 hsegs
    rcases hparts with _ | ⟨hpart, hparts⟩
    rw [List.forall₂_cons, List.forall_mem_cons, serves_iff_plain hdecode hseg hpart,
      ih hrest hparts]

/-! ## The path as it is -/

/-- The path itself serves all segments. -/
theorem serves_raw (hdecode : ∀ s, boost.decode s = pctDecode s) {segs : List Segment}
    (hsegs : ∀ seg ∈ segs, seg.WellFormed) :
    List.Forall₂ (Serves boost) segs (segs.map Segment.raw) := by
  rw [List.forall₂_map_right_iff, List.forall₂_same]
  intro seg hseg
  cases seg with
  | literal text => rfl
  | param name value encoded =>
    obtain ⟨-, -, hne, hvalue, hslash, -⟩ := hsegs _ hseg
    refine ⟨?_, hslash, (hdecode _).trans (pctDecode_eq_some_iff.2 hvalue)⟩
    rintro rfl
    exact hne (hvalue.unique .nil)

/-- A last segment with a query string does not serve. -/
theorem not_serves_query (hdecode : ∀ s, boost.decode s = pctDecode s) {seg : Segment}
    (hseg : seg.WellFormed) (query : Bytes) : ¬Serves boost seg (seg.raw ++ question :: query) := by
  intro h
  cases seg with
  | literal text =>
    have hlength := congrArg List.length (h : text ++ question :: query = text)
    simp [Segment.raw] at hlength
  | param name value encoded =>
    obtain ⟨-, -, -, hvalue, -⟩ := hseg
    have hall := pctDecode_eq_some_iff.1 ((hdecode _).symm.trans h.2.2)
    obtain ⟨rest, hrest, heq⟩ := hvalue.of_append hall
    have hnil : rest = [] := List.append_cancel_left (heq.symm.trans (List.append_nil value).symm)
    obtain ⟨_, -, hcons⟩ := (decodes_cons_iff (by decide : question ≠ percent)).1 hrest
    rw [hnil] at hcons
    cases hcons

/-! ## The metadata -/

/-- The names are distinct, and no other metadata have them. -/
structure Named (req : HttpRequest) (segs : List Segment) : Prop where
  nodup : ((assignments segs).map Prod.fst).Nodup
  headers : ∀ e ∈ assignments segs, e.1 ∉ req.headers.keys.map lowercase
  query : ∀ e ∈ assignments segs, ¬ascii "query." <+: e.1
  reference : ∀ e ∈ assignments segs, e.1 ≠ ascii "http_method" ∧ e.1 ≠ ascii "http_path"

variable {toRegex : Bytes → List PatternToken}

theorem Matches.length_captures {segs : List Segment} {s : Bytes} {captures : List Bytes}
    (h : Matches segs s captures) : captures.length = (assignments segs).length := by
  induction h with
  | nil => rfl
  | literal _ ih => exact ih
  | param _ _ _ ih => exact congrArg (· + 1) ih

/-- What is assigned to the names, if each capture can be decoded. -/
theorem mapM_zip_eq_some {captures : List Bytes} {expected params : List (Bytes × Bytes)}
    (hlength : captures.length = expected.length) :
    ((expected.map Prod.fst).zip captures).mapM
        (fun p => (boost.decode p.2).map (p.1, ·)) = some params ↔
      params.map Prod.fst = expected.map Prod.fst ∧
        List.Forall₂ (fun capture e => boost.decode capture = some e.2) captures params := by
  induction captures generalizing expected params with
  | nil =>
    rw [List.length_eq_zero_iff.1 hlength.symm]
    cases params <;> simp
  | cons capture captures ih =>
    obtain ⟨e, expected, rfl⟩ := List.exists_cons_of_length_eq_add_one hlength.symm
    have hrest := fun params => @ih expected params (Nat.succ_inj.1 hlength)
    rw [List.map_cons, List.zip_cons_cons, List.mapM_cons]
    rcases hdecoded : boost.decode capture with _ | value
    · refine iff_of_false (by simp) ?_
      rintro ⟨-, hforall⟩
      rcases hforall with _ | ⟨hcapture, -⟩
      rw [hdecoded] at hcapture
      cases hcapture
    · simp only [Option.map_some, Option.bind_eq_bind, Option.bind_some, Option.bind_eq_some_iff,
        Option.pure_def, Option.some.injEq, hrest]
      constructor
      · rintro ⟨params, ⟨hkeys, hforall⟩, rfl⟩
        exact ⟨congrArg (e.1 :: ·) hkeys, .cons hdecoded hforall⟩
      · rintro ⟨hkeys, hforall⟩
        rcases hforall with _ | ⟨hcapture, hforall⟩
        obtain ⟨hkey, hkeys⟩ := List.cons.inj hkeys
        rw [hdecoded, Option.some.injEq] at hcapture
        exact ⟨_, ⟨hkeys, hforall⟩, congrArg₂ List.cons (Prod.ext hkey.symm hcapture) rfl⟩

/-- The metadata of a name are what is assigned to it as a parameter of the path. -/
theorem lookup_metadata (generated messageType : Bytes) {req : HttpRequest} {segs : List Segment}
    (hnamed : Named req segs) (params : List (Bytes × Bytes)) {e : Bytes × Bytes}
    (he : e ∈ assignments segs) :
    (messageOf boost generated req messageType params).metadata.lookup e.1 =
      (((∅ : Table Bytes Bytes).insertAll (headerMetadata req)).insertAll params).lookup e.1 := by
  have hreference : e.1 ∉ (referenceMetadata req).map Prod.fst := by
    obtain ⟨hmethod, hpath⟩ := hnamed.reference e he
    simp [referenceMetadata, hmethod, hpath]
  have hquery : e.1 ∉ (extractQueryParams boost req.path).map Prod.fst := by
    intro hmem
    rw [extractQueryParams, List.map_map, List.mem_map] at hmem
    obtain ⟨p, -, hp⟩ := hmem
    exact hnamed.query e he ⟨p.1, hp⟩
  rw [messageOf, Table.insertAll_append, Table.insertAll_append, Table.insertAll_append,
    Table.lookup_insertAll_of_notMem _ hreference, Table.lookup_insertAll_of_notMem _ hquery]

/-- No header has a name. -/
theorem lookup_headers {req : HttpRequest} {segs : List Segment} (hnamed : Named req segs)
    {e : Bytes × Bytes} (he : e ∈ assignments segs) :
    ((∅ : Table Bytes Bytes).insertAll (headerMetadata req)).lookup e.1 = none := by
  rw [Table.lookup_insertAll_of_notMem]
  · rfl
  · intro hmem
    refine hnamed.headers e he ?_
    rw [headerMetadata, List.map_map] at hmem
    rw [AList.keys, List.keys, List.map_map]
    exact hmem

/-- What is assigned to the names of a pattern that is matched. -/
theorem extractPathParams_eq {pattern path : Bytes} {segs : List Segment}
    (hregex : toRegex pattern = tokensOf segs)
    (hnames : paramNames pattern = (assignments segs).map Prod.fst) {captures : List Bytes}
    (hmatch : Matches segs path captures) {params : List (Bytes × Bytes)} :
    extractPathParams boost toRegex pattern path = some params ↔
      params.map Prod.fst = (assignments segs).map Prod.fst ∧
        List.Forall₂ (fun capture e => boost.decode capture = some e.2) captures params := by
  rw [extractPathParams, hregex, hmatch.regexMatch, hnames]
  exact mapM_zip_eq_some hmatch.length_captures

/-- The metadata of the names are the values just if these are what is captured. -/
theorem assigned_iff {generated messageType : Bytes} {req : HttpRequest} {segs : List Segment}
    (hregex : toRegex (patternOf segs) = tokensOf segs) (hsegs : ∀ seg ∈ segs, seg.WellFormed)
    (hnamed : Named req segs) :
    (∃ msg, httpRequestToMessage boost toRegex generated req messageType (patternOf segs) =
        some msg ∧ ∀ e ∈ assignments segs, msg.metadata.lookup e.1 = some e.2) ↔
      assignments segs = [] ∨ ∃ captures, Matches segs (pathOnly boost req.path) captures ∧
        Captured boost segs captures := by
  have hnames := paramNames_patternOf hsegs
  simp only [httpRequestToMessage, Option.map_eq_some_iff, exists_exists_and_eq_and]
  rcases segs with _ | ⟨seg, segs⟩
  · exact iff_of_true ⟨[], rfl, fun e he => (by cases he)⟩ (.inl rfl)
  rw [if_neg (by simp [patternOf, join_cons])]
  rcases hmatch : RestRouter.regexMatch (tokensOf (seg :: segs)) (pathOnly boost req.path) with
    _ | captures
  · -- Nothing is assigned.
    have hnone : ¬∃ captures, Matches (seg :: segs) (pathOnly boost req.path) captures ∧
        Captured boost (seg :: segs) captures := by
      rintro ⟨captures, hmatches, -⟩
      rw [hmatches.regexMatch] at hmatch
      cases hmatch
    rw [or_iff_left hnone, extractPathParams, hregex, hmatch]
    constructor
    · rintro ⟨params, hparams, hall⟩
      obtain rfl := Option.some.inj hparams
      refine List.eq_nil_iff_forall_not_mem.2 fun e he => ?_
      have hsome := (lookup_metadata _ _ hnamed [] he).symm.trans (hall e he)
      exact absurd ((lookup_headers hnamed he).symm.trans hsome) (Option.some_ne_none _).symm
    · intro hnil
      rw [hnil]
      exact ⟨[], rfl, fun e he => (by cases he)⟩
  · have hmatches := matches_of_regexMatch hmatch
    simp only [extractPathParams_eq hregex hnames hmatches]
    constructor
    · rintro ⟨params, ⟨hkeys, hforall⟩, hall⟩
      obtain rfl := (Table.insertAll_lookup_iff _ hkeys hnamed.nodup).1 fun e he =>
        (lookup_metadata _ _ hnamed params he).symm.trans (hall e he)
      exact .inr ⟨captures, hmatches, hforall⟩
    · rintro (hnil | ⟨captures', hmatches', hcaptured⟩)
      · have hlength := hmatches.length_captures
        rw [hnil] at hlength ⊢
        rw [List.length_eq_zero_iff.1 hlength]
        exact ⟨[], ⟨rfl, .nil⟩, fun e he => (by cases he)⟩
      · obtain rfl := Option.some.inj (hmatches'.regexMatch.symm.trans hmatch)
        refine ⟨_, ⟨rfl, hcaptured⟩, fun e he => ?_⟩
        exact (lookup_metadata _ _ hnamed _ he).trans
          ((Table.insertAll_lookup_iff _ rfl hnamed.nodup).2 rfl e he)

/-! ## When the texts are kept -/

/-- The path component of a target with a query string is the path. -/
theorem pathComponent_eq {segs : List Segment} (hsegs : ∀ seg ∈ segs, seg.WellFormed)
    {query : Bytes} (hquery : query = [] ∨ ∃ q, query = question :: q) :
    pathComponent (pathOf segs ++ query) = pathOf segs := by
  have hbytes : ∀ b ∈ pathOf segs, (b ≠ question && b ≠ hash) = true := by
    intro b hb
    obtain ⟨part, hpart, hb⟩ := List.mem_flatMap.1 hb
    obtain ⟨seg, hseg, rfl⟩ := List.mem_map.1 hpart
    have hraw : question ∉ seg.raw ∧ hash ∉ seg.raw := by
      cases seg with
      | literal text =>
        obtain ⟨-, -, hquestion, hhash, -⟩ := hsegs _ hseg
        exact ⟨hquestion, hhash⟩
      | param name value encoded =>
        obtain ⟨-, -, -, -, -, hquestion, hhash⟩ := hsegs _ hseg
        exact ⟨hquestion, hhash⟩
    rcases List.mem_cons.1 hb with rfl | hb
    · decide
    · have hne : b ≠ question ∧ b ≠ hash := by
        constructor <;> rintro rfl
        · exact hraw.1 hb
        · exact hraw.2 hb
      simpa using hne
  rw [pathComponent, List.takeWhile_append_of_pos hbytes]
  rcases hquery with rfl | ⟨q, rfl⟩
  · simp
  · simp

/-- With a query string, the last part of the path is not what its segment asks for. -/
theorem exists_parts_query (hdecode : ∀ s, boost.decode s = pctDecode s) {segs : List Segment}
    (hsegs : ∀ seg ∈ segs, seg.WellFormed) (hne : segs ≠ []) (q : Bytes) :
    ∃ parts, pathOf segs ++ question :: q = join parts ∧ parts.length = segs.length ∧
      ¬List.Forall₂ (Serves boost) segs parts := by
  induction segs with
  | nil => exact absurd rfl hne
  | cons seg segs ih =>
    obtain ⟨hseg, hrest⟩ := List.forall_mem_cons.1 hsegs
    rcases segs with _ | ⟨seg', segs⟩
    · refine ⟨[seg.raw ++ question :: q], by simp [pathOf, join], rfl, fun h => ?_⟩
      exact not_serves_query hdecode hseg q (List.forall₂_cons.1 h).1
    · obtain ⟨parts, hparts, hlength, hnot⟩ := ih hrest (List.cons_ne_nil _ _)
      refine ⟨seg.raw :: parts, ?_, congrArg (· + 1) hlength, fun h => ?_⟩
      · rw [join_cons, ← hparts, pathOf, List.map_cons, join_cons, List.cons_append,
          List.append_assoc]
        rfl
      · exact hnot (List.forall₂_cons.1 h).2

/-- Every name has its text in the metadata just if there are no names, or the path can be
    parsed and no segment has an escape or a slash in it, or the path cannot be parsed and
    there is no query string. -/
theorem pathParams_correct_iff (boost : BoostUrl) (toRegex : Bytes → List PatternToken)
    (generated messageType query : Bytes) (req : HttpRequest) (segs : List Segment)
    (hsegs : ∀ seg ∈ segs, seg.WellFormed) (hnamed : Named req segs)
    (hquery : query = [] ∨ ∃ q, query = question :: q)
    (hreq : req.path = pathOf segs ++ query)
    (hpath : ∀ parsed, boost.parseRelativeRef req.path = some parsed →
      pctDecode (pathComponent req.path) = some parsed.path)
    (hdecode : ∀ s, boost.decode s = pctDecode s)
    (hregex : toRegex (patternOf segs) = tokensOf segs) :
    (∃ msg, httpRequestToMessage boost toRegex generated req messageType (patternOf segs) =
        some msg ∧ ∀ e ∈ assignments segs, msg.metadata.lookup e.1 = some e.2) ↔
      assignments segs = [] ∨
        match boost.parseRelativeRef req.path with
        | some _ => ∀ seg ∈ segs, seg.Plain
        | none => query = [] := by
  rw [assigned_iff hregex hsegs hnamed, pathOnly]
  rcases hparse : boost.parseRelativeRef req.path with _ | parsed
  · dsimp only
    rw [Option.elim_none, hreq]
    rcases hquery with rfl | ⟨q, rfl⟩
    · rw [List.append_nil]
      exact iff_of_true (.inr (exists_matches_of_serves (serves_raw hdecode hsegs))) (.inr rfl)
    · by_cases hnone : assignments segs = []
      · exact iff_of_true (.inl hnone) (.inl hnone)
      · have hne : segs ≠ [] := by
          rintro rfl
          exact hnone rfl
        obtain ⟨parts, hparts, hlength, hnot⟩ := exists_parts_query hdecode hsegs hne q
        rw [hparts, served_iff hsegs hlength]
        exact or_congr_right (iff_of_false hnot (List.cons_ne_nil _ _))
  · have hdecoded := hpath parsed hparse
    rw [hreq, pathComponent_eq hsegs hquery, pctDecode_eq_some_iff] at hdecoded
    obtain ⟨parts, hparts, hforall⟩ := exists_of_decodes_join hdecoded
    have hlength : parts.length = segs.length := by
      simpa using hforall.length_eq.symm
    dsimp only
    rw [Option.elim_some, hparts, served_iff hsegs hlength,
      forall₂_serves_iff hdecode hsegs hforall]

/-! ## A session -/

/-- The pattern of a session, with an identifier that is put there. -/
def sessionSegments (id : Bytes) : List Segment :=
  [.literal (ascii "sessions"), .param (ascii "sessionId") id (pctEncode id)]

/-- The request of the client. -/
def sessionRequest (id : Bytes) : HttpRequest :=
  ⟨ascii "GET", pathOf (sessionSegments id), ∅, []⟩

/-- A URL library that parses every path without a query string, if its escapes are well
    formed. -/
def pathLibrary : BoostUrl where
  parseRelativeRef target := (pctDecode (pathComponent target)).map (⟨·, []⟩)
  decode := pctDecode

theorem notMem_pctEncode {b : UInt8} (hb : isUnreserved b = false) (hne : b ≠ percent)
    (id : Bytes) : b ∉ pctEncode id := by
  intro hmem
  rcases mem_pctEncode hmem with h | h
  · rw [hb] at h
    cases h
  · exact hne h

theorem wellFormed_sessionSegments {id : Bytes} (hne : id ≠ []) :
    ∀ seg ∈ sessionSegments id, seg.WellFormed := by
  rw [sessionSegments, List.forall_mem_cons, List.forall_mem_singleton]
  refine ⟨⟨by decide, by decide, by decide, by decide, by decide⟩, by decide, by decide, hne,
    decodes_pctEncode id, ?_, ?_, ?_⟩ <;> exact notMem_pctEncode (by decide) (by decide) id

theorem named_sessionSegments (id : Bytes) : Named (sessionRequest id) (sessionSegments id) := by
  have hnames : ∀ e ∈ assignments (sessionSegments id), e.1 = ascii "sessionId" := by
    intro e he
    rw [List.mem_singleton.1 he]
  refine ⟨List.nodup_singleton _, fun e _ => List.not_mem_nil, ?_, ?_⟩
  · intro e he
    rw [hnames e he]
    decide
  · intro e he
    rw [hnames e he]
    decide

/-- The session `%41` is taken for the session `A`. -/
theorem escape_decoded_twice : (∀ seg ∈ sessionSegments (ascii "%41"), seg.WellFormed) ∧
    Named (sessionRequest (ascii "%41")) (sessionSegments (ascii "%41")) ∧
    assignments (sessionSegments (ascii "%41")) = [(ascii "sessionId", ascii "%41")] ∧
    ∃ msg, httpRequestToMessage pathLibrary (fun _ => tokensOf (sessionSegments (ascii "%41"))) []
        (sessionRequest (ascii "%41")) (ascii "get") (patternOf (sessionSegments (ascii "%41"))) =
          some msg ∧ msg.metadata.lookup (ascii "sessionId") = some (ascii "A") :=
  ⟨wellFormed_sessionSegments (by decide), named_sessionSegments _, rfl, _, rfl, by decide⟩

/-- The session `a b`, which is written with an escape, is found. -/
theorem space_kept : ∃ msg, httpRequestToMessage pathLibrary
    (fun _ => tokensOf (sessionSegments (ascii "a b"))) [] (sessionRequest (ascii "a b"))
      (ascii "get") (patternOf (sessionSegments (ascii "a b"))) = some msg ∧
    ∀ e ∈ assignments (sessionSegments (ascii "a b")), msg.metadata.lookup e.1 = some e.2 := by
  refine (pathParams_correct_iff pathLibrary _ [] (ascii "get") [] _ (sessionSegments (ascii "a b"))
    (wellFormed_sessionSegments (by decide)) (named_sessionSegments _) (.inl rfl)
    (List.append_nil _).symm ?_ (fun _ => rfl) rfl).2 (.inr ?_)
  · intro parsed hparsed
    simp only [pathLibrary, Option.map_eq_some_iff] at hparsed
    obtain ⟨path, hpath, rfl⟩ := hparsed
    exact hpath
  · split
    · rw [sessionSegments, List.forall_mem_cons, List.forall_mem_singleton]
      exact ⟨(by decide : percent ∉ ascii "sessions"), by decide, by decide⟩
    · rfl

end RestRouter

end PhineAf

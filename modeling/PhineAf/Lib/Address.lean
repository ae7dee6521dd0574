import Mathlib.Data.Set.List
import PhineAf.Lib.Pattern

/-!
# Internet addresses

The texts of IPv4 and IPv6 addresses: the four numbers of a 32-bit address in decimal
notation (`Ipv4.dottedQuad`), and hexadecimal groups joined by colons, at most seven with
one `::` in the place of those that are missing (`Ipv6.IsIpv6Address`). The last two groups
may be written like an IPv4 address (`Ipv6.IsIpv6Text`).

An IPv6 address is determined by its pieces (`Ipv6.pieces`), what stands between the colons;
a `::` is an empty piece.
-/

namespace PhineAf

open Text RegularExpression

namespace Ipv4

/-- The four numbers of an address. -/
def octets (a : BitVec 32) : List ℕ := [24, 16, 8, 0].map fun i => a.toNat / 2 ^ i % 256

/-- The numbers of an address in decimal notation, joined by dots. -/
def dottedQuad (a : BitVec 32) : String := ".".intercalate ((octets a).map toString)

theorem length_octets (a : BitVec 32) : (octets a).length = 4 := rfl

theorem lt_of_mem_octets {a : BitVec 32} {n : ℕ} (h : n ∈ octets a) : n < 256 := by
  obtain ⟨i, -, rfl⟩ := List.mem_map.1 h
  exact Nat.mod_lt _ (by decide)

theorem octets_injective : Function.Injective octets := by
  intro a b h
  simp only [octets, List.map_cons, List.map_nil, List.cons.injEq, and_true] at h
  have ha := a.isLt
  have hb := b.isLt
  exact BitVec.eq_of_toNat_eq (by omega)

/-- Any four numbers are those of an address. -/
theorem exists_octets_eq {ns : List ℕ} (hlength : ns.length = 4) (h : ∀ n ∈ ns, n < 256) :
    ∃ a, octets a = ns := by
  obtain ⟨n₁, n₂, n₃, n₄, rfl⟩ := List.length_eq_four.1 hlength
  simp only [List.forall_mem_cons] at h
  obtain ⟨h₁, h₂, h₃, h₄, -⟩ := h
  refine ⟨BitVec.ofNat 32 (n₁ * 2 ^ 24 + n₂ * 2 ^ 16 + n₃ * 2 ^ 8 + n₄), ?_⟩
  simp only [octets, BitVec.toNat_ofNat, List.map_cons, List.map_nil, List.cons.injEq, and_true]
  omega

theorem toList_dottedQuad (a : BitVec 32) :
    (dottedQuad a).toList = ['.'].intercalate ((octets a).map fun n => (toString n).toList) := by
  rw [dottedQuad, String.toList_intercalate, List.map_map]
  rfl

theorem dot_notMem_toString (n : ℕ) : '.' ∉ (toString n).toList := by
  intro h
  exact absurd (isDigit_of_mem_toString h) (by decide)

/-- The numbers can be read off the text. -/
theorem splitOn_dottedQuad (a : BitVec 32) :
    (dottedQuad a).toList.splitOn '.' = (octets a).map fun n => (toString n).toList := by
  rw [toList_dottedQuad]
  refine List.splitOn_intercalate '.' ?_ (List.cons_ne_nil _ _)
  intro l hl
  obtain ⟨n, -, rfl⟩ := List.mem_map.1 hl
  exact dot_notMem_toString n

theorem dottedQuad_injective : Function.Injective dottedQuad := by
  intro a b h
  have hinjective : Function.Injective fun n : ℕ => (toString n).toList :=
    fun m n hmn => toString_injective (String.toList_inj.1 hmn)
  refine octets_injective (List.map_injective_iff.2 hinjective ?_)
  rw [← splitOn_dottedQuad, ← splitOn_dottedQuad, h]

/-- The texts of addresses: four numbers below 256, joined by dots. -/
theorem exists_dottedQuad_iff {x : List Char} : (∃ a, x = (dottedQuad a).toList) ↔
    ∃ ns : List ℕ, ns.length = 4 ∧ (∀ n ∈ ns, n < 256) ∧
      x = ['.'].intercalate (ns.map fun n => (toString n).toList) := by
  constructor
  · rintro ⟨a, rfl⟩
    exact ⟨octets a, length_octets a, fun _ => lt_of_mem_octets, toList_dottedQuad a⟩
  · rintro ⟨ns, hlength, hns, rfl⟩
    obtain ⟨a, rfl⟩ := exists_octets_eq hlength hns
    exact ⟨a, (toList_dottedQuad a).symm⟩

theorem isDigit_or_of_mem_dottedQuad {a : BitVec 32} {c : Char} (h : c ∈ (dottedQuad a).toList) :
    c = '.' ∨ c.isDigit = true := by
  rw [toList_dottedQuad] at h
  refine (mem_intercalate h).imp_right ?_
  rintro ⟨_, hx, hc⟩
  obtain ⟨n, -, rfl⟩ := List.mem_map.1 hx
  exact isDigit_of_mem_toString hc

theorem dot_mem_dottedQuad (a : BitVec 32) : '.' ∈ (dottedQuad a).toList := by
  rw [toList_dottedQuad, octets, List.map_map, List.map_cons, List.map_cons,
    List.intercalate_cons_cons, List.append_assoc]
  exact List.mem_append_right _ List.mem_cons_self

end Ipv4

namespace Ipv6

def IsHexDigit (c : Char) : Prop :=
  '0' ≤ c ∧ c ≤ '9' ∨ 'a' ≤ c ∧ c ≤ 'f' ∨ 'A' ≤ c ∧ c ≤ 'F'

instance : DecidablePred IsHexDigit := fun c =>
  inferInstanceAs (Decidable ('0' ≤ c ∧ c ≤ '9' ∨ 'a' ≤ c ∧ c ≤ 'f' ∨ 'A' ≤ c ∧ c ≤ 'F'))

/-- One to four hexadecimal digits. -/
structure IsGroup (g : List Char) : Prop where
  nonempty : 1 ≤ g.length
  length : g.length ≤ 4
  digits : ∀ c ∈ g, IsHexDigit c

theorem isGroup_iff {g : List Char} :
    IsGroup g ↔ 1 ≤ g.length ∧ g.length ≤ 4 ∧ ∀ c ∈ g, IsHexDigit c :=
  ⟨fun ⟨h₁, h₂, h₃⟩ => ⟨h₁, h₂, h₃⟩, fun ⟨h₁, h₂, h₃⟩ => ⟨h₁, h₂, h₃⟩⟩

/-- Groups, joined by colons. -/
def join (groups : List (List Char)) : List Char := [':'].intercalate groups

/-- Eight groups. -/
def Full (s : String) : Prop :=
  ∃ groups, groups.length = 8 ∧ (∀ g ∈ groups, IsGroup g) ∧ s.toList = join groups

/-- The groups before and after a `::`. -/
def Compressed (s : String) (left right : List (List Char)) : Prop :=
  (∀ g ∈ left ++ right, IsGroup g) ∧ s.toList = join left ++ [':', ':'] ++ join right

/-- An IPv6 address in hexadecimal groups. -/
def IsIpv6Address (s : String) : Prop :=
  Full s ∨ ∃ left right, left.length + right.length ≤ 7 ∧ Compressed s left right

/-! ## Pieces -/

/-- The pieces of a text between its colons. -/
def pieces (s : String) : List (List Char) := s.toList.splitOn ':'

theorem pieces_eq_iff {s : String} {ps : List (List Char)} (hps : ps ≠ [])
    (hcolon : ∀ p ∈ ps, ':' ∉ p) : pieces s = ps ↔ s.toList = join ps := by
  constructor
  · rintro rfl
    exact (List.intercalate_splitOn ':').symm
  · intro h
    rw [pieces, h]
    exact List.splitOn_intercalate ':' hcolon hps

theorem IsGroup.colon_notMem {g : List Char} (h : IsGroup g) : ':' ∉ g := by
  intro hmem
  exact absurd (h.digits ':' hmem) (by decide)

theorem IsGroup.ne_nil {g : List Char} (h : IsGroup g) : g ≠ [] := by
  rintro rfl
  exact absurd h.nonempty (by decide)

theorem nil_notMem {gs : List (List Char)} (h : ∀ g ∈ gs, IsGroup g) : [] ∉ gs :=
  fun hmem => (h [] hmem).ne_nil rfl

/-- What stands on one side of a `::`: an empty piece, if there are no groups. -/
def side (groups : List (List Char)) : List (List Char) := if groups = [] then [[]] else groups

theorem side_ne_nil (gs : List (List Char)) : side gs ≠ [] := by
  rw [side]
  split_ifs with h
  · exact List.cons_ne_nil _ _
  · exact h

theorem join_side (gs : List (List Char)) : join (side gs) = join gs := by
  rw [side]
  split_ifs with h
  · rw [h]
    rfl
  · rfl

theorem side_of_ne_nil {gs : List (List Char)} (h : gs ≠ []) : side gs = gs := if_neg h

theorem colon_notMem_side {gs : List (List Char)} (h : ∀ p ∈ gs, ':' ∉ p) :
    ∀ p ∈ side gs, ':' ∉ p := by
  intro p hp
  rw [side] at hp
  split_ifs at hp
  · rw [List.mem_singleton.1 hp]
    exact List.not_mem_nil
  · exact h p hp

theorem full_iff {s : String} :
    Full s ↔ ∃ groups, groups.length = 8 ∧ (∀ g ∈ groups, IsGroup g) ∧ pieces s = groups := by
  refine exists_congr fun gs => and_congr_right fun hlength => and_congr_right fun h => ?_
  rw [pieces_eq_iff ?_ fun g hg => (h g hg).colon_notMem]
  rintro rfl
  cases hlength

theorem join_append {xs ys : List (List Char)} (hxs : xs ≠ []) (hys : ys ≠ []) :
    join (xs ++ ys) = join xs ++ ':' :: join ys :=
  intercalate_append hxs hys

theorem join_nil_cons {ys : List (List Char)} (hys : ys ≠ []) : join ([] :: ys) = ':' :: join ys :=
  List.intercalate_cons_of_ne_nil hys

/-- A `::` between groups: an empty piece between what stands on its sides. -/
theorem pieces_eq_side_iff {s : String} {left right : List (List Char)}
    (hleft : ∀ p ∈ left, ':' ∉ p) (hright : ∀ p ∈ right, ':' ∉ p) :
    pieces s = side left ++ [] :: side right ↔
      s.toList = join left ++ [':', ':'] ++ join right := by
  have hjoin : join (side left ++ [] :: side right) = join left ++ [':', ':'] ++ join right := by
    rw [join_append (side_ne_nil left) (List.cons_ne_nil _ _), join_nil_cons (side_ne_nil right),
      join_side, join_side, List.append_assoc]
    rfl
  rw [pieces_eq_iff (List.append_ne_nil_of_left_ne_nil (side_ne_nil left) _), hjoin]
  rw [List.forall_mem_append, List.forall_mem_cons]
  exact ⟨colon_notMem_side hleft, List.not_mem_nil, colon_notMem_side hright⟩

theorem compressed_iff {s : String} {left right : List (List Char)} :
    Compressed s left right ↔
      (∀ g ∈ left ++ right, IsGroup g) ∧ pieces s = side left ++ [] :: side right := by
  refine and_congr_right fun h => ?_
  obtain ⟨hleft, hright⟩ := List.forall_mem_append.1 h
  exact (pieces_eq_side_iff (fun g hg => (hleft g hg).colon_notMem) fun g hg =>
    (hright g hg).colon_notMem).symm

theorem matchesChar_hexDigit : MatchesChar hexDigit IsHexDigit := by
  have h := ((matchesChar_range (a := '0') (b := '9') (by decide) (by decide)).add
    (matchesChar_range (a := 'a') (b := 'f') (by decide) (by decide))).add
    (matchesChar_range (a := 'A') (b := 'F') (by decide) (by decide))
  intro x
  rw [hexDigit, digit, h x]
  refine exists_congr fun c => and_congr_left' ?_
  exact or_assoc

/-! ## A dotted quad at the end -/

/-- Groups, and in the place of the last two of them the address `a` as a dotted quad: the
    parts of the text, and how many groups they stand for. -/
inductive Parts : List (List Char) → ℕ → Prop
  | groups {gs : List (List Char)} : (∀ g ∈ gs, IsGroup g) → Parts gs gs.length
  | quad {gs : List (List Char)} (a : BitVec 32) : (∀ g ∈ gs, IsGroup g) →
      Parts (gs ++ [(Ipv4.dottedQuad a).toList]) (gs.length + 2)

/-- An IPv6 address: eight groups, or at most seven and a `::`. -/
def IsIpv6Text (s : String) : Prop :=
  (∃ parts, Parts parts 8 ∧ s.toList = join parts) ∨
    ∃ left right n, (∀ g ∈ left, IsGroup g) ∧ Parts right n ∧ left.length + n ≤ 7 ∧
      s.toList = join left ++ [':', ':'] ++ join right

/-- An IPv6 address, a slash, and a decimal number of at most 128. -/
def IsIpv6PrefixText (s : String) : Prop :=
  ∃ address length, s.toList = address ++ '/' :: length ∧ IsIpv6Text (String.ofList address) ∧
    length ≠ [] ∧ (∀ c ∈ length, c.isDigit = true) ∧ digitsValue length ≤ 128

theorem Parts.notMem {ps : List (List Char)} {n : ℕ} {c : Char} (h : Parts ps n)
    (hhex : ¬IsHexDigit c) (hquad : ¬(c = '.' ∨ c.isDigit = true)) : ∀ p ∈ ps, c ∉ p := by
  cases h with
  | groups h => exact fun g hg hmem => hhex ((h g hg).digits c hmem)
  | quad a h =>
    refine List.forall_mem_append.2 ⟨fun g hg hmem => hhex ((h g hg).digits c hmem), ?_⟩
    rw [List.forall_mem_singleton]
    exact fun hmem => hquad (Ipv4.isDigit_or_of_mem_dottedQuad hmem)

theorem Parts.colon_notMem {ps : List (List Char)} {n : ℕ} (h : Parts ps n) :
    ∀ p ∈ ps, ':' ∉ p :=
  h.notMem (by decide) (by decide)

theorem notMem_join {c : Char} {ps : List (List Char)} (hc : c ≠ ':') (h : ∀ p ∈ ps, c ∉ p) :
    c ∉ join ps := by
  intro hmem
  rcases mem_intercalate hmem with rfl | ⟨p, hp, hcp⟩
  · exact hc rfl
  · exact h p hp hcp

/-- An address has no slash in it. -/
theorem IsIpv6Text.slash_notMem {s : String} (h : IsIpv6Text s) : '/' ∉ s.toList := by
  rcases h with ⟨parts, hparts, hs⟩ | ⟨left, right, n, hleft, hright, -, hs⟩
  · rw [hs]
    exact notMem_join (by decide) (hparts.notMem (by decide) (by decide))
  · rw [hs, List.mem_append, List.mem_append, not_or, not_or]
    refine ⟨⟨notMem_join (by decide) fun g hg hmem => ?_, by decide⟩,
      notMem_join (by decide) (hright.notMem (by decide) (by decide))⟩
    exact absurd ((hleft g hg).digits '/' hmem) (by decide)

/-- The slash of a prefix is its first one. -/
theorem isIpv6PrefixText_append {s : String} {address length : List Char}
    (hs : s.toList = address ++ '/' :: length) (hslash : '/' ∉ address) :
    IsIpv6PrefixText s ↔ IsIpv6Text (String.ofList address) ∧ length ≠ [] ∧
      (∀ c ∈ length, c.isDigit = true) ∧ digitsValue length ≤ 128 := by
  constructor
  · rintro ⟨address', length', hs', htext, h⟩
    have hslash' := htext.slash_notMem
    rw [String.toList_ofList] at hslash'
    obtain ⟨rfl, rfl⟩ := append_cons_inj_left hslash hslash' (hs.symm.trans hs')
    exact ⟨htext, h⟩
  · rintro ⟨htext, h⟩
    exact ⟨address, length, hs, htext, h⟩

/-! ## What is between the colons -/

/-- At most four hexadecimal digits. -/
def IsPiece (p : List Char) : Prop := p.length ≤ 4 ∧ ∀ c ∈ p, IsHexDigit c

/-- At most four hexadecimal digits in each place; the last one may be a dotted quad. -/
structure IsPieces (ps : List (List Char)) : Prop where
  hex : ∀ p ∈ ps.dropLast, IsPiece p
  last : ∀ p ∈ ps.getLast?, IsPiece p ∨ ∃ a, p = (Ipv4.dottedQuad a).toList

/-- The number of groups that a piece stands for. -/
def width (p : List Char) : ℕ := if p = [] then 0 else if '.' ∈ p then 2 else 1

/-- The number of groups. -/
def groupCount (ps : List (List Char)) : ℕ := (ps.map width).sum

/-- The number of `::`, the pieces without a character between others. -/
def gaps (ps : List (List Char)) : ℕ := ps.tail.dropLast.count []

/-- The text begins or ends with a colon that is no part of a `::`. -/
def LoneColon (ps : List (List Char)) : Prop :=
  ps.head? = some [] ∧ ps.tail.head? ≠ some [] ∨
    ps.getLast? = some [] ∧ ps.dropLast.getLast? ≠ some []

variable {p g : List Char} {ps qs gs : List (List Char)} {n : ℕ}

theorem IsPiece.isGroup (h : IsPiece p) (hne : p ≠ []) : IsGroup p :=
  ⟨List.length_pos_of_ne_nil hne, h.1, h.2⟩

theorem isPieces_nil : IsPieces [] where
  hex _ h := by cases h
  last _ h := by cases h

theorem isPieces_concat_iff : IsPieces (ps ++ [p]) ↔
    (∀ q ∈ ps, IsPiece q) ∧ (IsPiece p ∨ ∃ a, p = (Ipv4.dottedQuad a).toList) := by
  constructor
  · rintro ⟨hhex, hlast⟩
    rw [List.dropLast_concat] at hhex
    exact ⟨hhex, hlast p List.getLast?_concat⟩
  · rintro ⟨hhex, hlast⟩
    refine ⟨?_, fun q hq => ?_⟩
    · rwa [List.dropLast_concat]
    · obtain rfl := Option.some.inj (List.getLast?_concat.symm.trans hq)
      exact hlast

theorem IsPiece.notMem {c : Char} (h : IsPiece p) (hc : ¬IsHexDigit c) : c ∉ p :=
  fun hmem => hc (h.2 c hmem)

theorem IsPieces.colon_notMem (h : IsPieces ps) : ∀ p ∈ ps, ':' ∉ p := by
  rcases List.eq_nil_or_concat' ps with rfl | ⟨qs, q, rfl⟩
  · exact List.forall_mem_nil _
  · obtain ⟨hqs, hq⟩ := isPieces_concat_iff.1 h
    refine List.forall_mem_append.2 ⟨fun p hp => (hqs p hp).notMem (by decide), ?_⟩
    rw [List.forall_mem_singleton]
    rcases hq with hq | ⟨a, rfl⟩
    · exact hq.notMem (by decide)
    · exact fun hmem => absurd (Ipv4.isDigit_or_of_mem_dottedQuad hmem) (by decide)

theorem IsPieces.of_append (h : IsPieces (ps ++ qs)) (hne : qs ≠ []) :
    (∀ p ∈ ps, IsPiece p) ∧ IsPieces qs := by
  rcases List.eq_nil_or_concat' qs with rfl | ⟨qs, q, rfl⟩
  · exact absurd rfl hne
  · rw [← List.append_assoc, isPieces_concat_iff, List.forall_mem_append] at h
    exact ⟨h.1.1, isPieces_concat_iff.2 ⟨h.1.2, h.2⟩⟩

theorem IsPieces.of_side (h : IsPieces (side gs)) : IsPieces gs := by
  by_cases hne : gs = []
  · rw [hne]
    exact isPieces_nil
  · rwa [side_of_ne_nil hne] at h

/-! ## The number of groups -/

theorem IsGroup.width_eq (h : IsGroup g) : width g = 1 := by
  rw [width, if_neg h.ne_nil, if_neg]
  intro hmem
  exact absurd (h.digits '.' hmem) (by decide)

theorem width_dottedQuad (a : BitVec 32) : width (Ipv4.dottedQuad a).toList = 2 := by
  have hdot := Ipv4.dot_mem_dottedQuad a
  rw [width, if_neg (List.ne_nil_of_mem hdot), if_pos hdot]

theorem groupCount_append : groupCount (ps ++ qs) = groupCount ps + groupCount qs := by
  rw [groupCount, List.map_append, List.sum_append]
  rfl

theorem groupCount_groups (h : ∀ g ∈ gs, IsGroup g) : groupCount gs = gs.length := by
  rw [groupCount, List.map_congr_left fun g hg => (h g hg).width_eq, List.map_const',
    List.sum_replicate_nat, mul_one]

theorem groupCount_side : groupCount (side gs) = groupCount gs := by
  rw [side]
  split_ifs with h
  · rw [h]
    rfl
  · rfl

theorem groupCount_compressed (left right : List (List Char)) :
    groupCount (side left ++ [] :: side right) = groupCount left + groupCount right := by
  have hgap : groupCount ([] :: side right) = groupCount (side right) := by
    rw [groupCount, List.map_cons, List.sum_cons]
    exact Nat.zero_add _
  rw [groupCount_append, hgap, groupCount_side, groupCount_side]

theorem Parts.nil_notMem (h : Parts ps n) : [] ∉ ps := by
  cases h with
  | groups h => exact Ipv6.nil_notMem h
  | quad a h =>
    rw [List.mem_append, List.mem_singleton, not_or]
    refine ⟨Ipv6.nil_notMem h, fun hnil => ?_⟩
    exact List.ne_nil_of_mem (Ipv4.dot_mem_dottedQuad a) hnil.symm

theorem Parts.groupCount_eq (h : Parts ps n) : groupCount ps = n := by
  cases h with
  | groups h => exact groupCount_groups h
  | quad a h =>
    rw [groupCount_append, groupCount_groups h, groupCount, List.map_singleton,
      List.sum_singleton, width_dottedQuad]

/-- Pieces are the parts of an address, if none is empty. -/
theorem IsPieces.parts_iff (h : IsPieces ps) : Parts ps n ↔ [] ∉ ps ∧ groupCount ps = n := by
  constructor
  · exact fun hparts => ⟨hparts.nil_notMem, hparts.groupCount_eq⟩
  · rintro ⟨hnil, rfl⟩
    rcases List.eq_nil_or_concat' ps with rfl | ⟨gs, q, rfl⟩
    · exact .groups (List.forall_mem_nil _)
    · obtain ⟨hgs, hq⟩ := isPieces_concat_iff.1 h
      rw [List.mem_append, List.mem_singleton, not_or] at hnil
      have hgroups : ∀ g ∈ gs, IsGroup g := fun g hg =>
        (hgs g hg).isGroup fun heq => hnil.1 (heq ▸ hg)
      rcases hq with hq | ⟨a, rfl⟩
      · have hall : ∀ g ∈ gs ++ [q], IsGroup g := List.forall_mem_append.2
          ⟨hgroups, List.forall_mem_singleton.2 (hq.isGroup (Ne.symm hnil.2))⟩
        rw [groupCount_groups hall]
        exact .groups hall
      · rw [(Parts.quad a hgroups).groupCount_eq]
        exact .quad a hgroups

/-! ## Addresses by their pieces -/

/-- An address by its pieces. -/
theorem isIpv6Text_iff_pieces {s : String} : IsIpv6Text s ↔ Parts (pieces s) 8 ∨
    ∃ left right n, (∀ g ∈ left, IsGroup g) ∧ Parts right n ∧ left.length + n ≤ 7 ∧
      pieces s = side left ++ [] :: side right := by
  refine or_congr ?_ ?_
  · have hpieces : ∀ parts, Parts parts 8 ∧ s.toList = join parts ↔
        Parts parts 8 ∧ pieces s = parts := by
      refine fun parts => and_congr_right fun h => (pieces_eq_iff ?_ h.colon_notMem).symm
      rintro rfl
      exact absurd h.groupCount_eq (by decide)
    rw [exists_congr hpieces]
    constructor
    · rintro ⟨_, h, rfl⟩
      exact h
    · exact fun h => ⟨_, h, rfl⟩
  · refine exists₃_congr fun left right n => and_congr_right fun hleft =>
      and_congr_right fun hright => and_congr_right fun _ => ?_
    exact (pieces_eq_side_iff (fun g hg => (hleft g hg).colon_notMem) hright.colon_notMem).symm

/-- What begins with an empty piece only if there is no other stands on the left of a `::`, and
    what ends so on the right. -/
theorem exists_side_cons (hps : [] ∉ ps) (h : p = [] → ps = []) :
    ∃ gs, [] ∉ gs ∧ p :: ps = side gs := by
  by_cases hp : p = []
  · rw [hp, h hp]
    exact ⟨[], List.not_mem_nil, rfl⟩
  · exact ⟨p :: ps, List.not_mem_cons_of_ne_of_not_mem (Ne.symm hp) hps,
      (side_of_ne_nil (List.cons_ne_nil p ps)).symm⟩

theorem exists_side_concat (hps : [] ∉ ps) (h : p = [] → ps = []) :
    ∃ gs, [] ∉ gs ∧ ps ++ [p] = side gs := by
  by_cases hp : p = []
  · rw [hp, h hp]
    exact ⟨[], List.not_mem_nil, rfl⟩
  · refine ⟨ps ++ [p], ?_, (side_of_ne_nil (List.concat_ne_nil p ps)).symm⟩
    rw [List.mem_append, List.mem_singleton, not_or]
    exact ⟨hps, Ne.symm hp⟩

theorem exists_ends (h : 3 ≤ ps.length) : ∃ f inner l, inner ≠ [] ∧ ps = f :: (inner ++ [l]) := by
  rcases ps with _ | ⟨f, ps⟩
  · cases h
  · rcases List.eq_nil_or_concat' ps with rfl | ⟨inner, l, rfl⟩
    · simp at h
    · refine ⟨f, inner, l, ?_, rfl⟩
      rintro rfl
      simp at h

theorem gaps_cons_concat (f l : List Char) (inner : List (List Char)) :
    gaps (f :: (inner ++ [l])) = inner.count [] := by
  rw [gaps, List.tail_cons, List.dropLast_concat]

theorem loneColon_cons_concat {f l : List Char} {inner : List (List Char)} (hne : inner ≠ []) :
    LoneColon (f :: (inner ++ [l])) ↔
      f = [] ∧ inner.head? ≠ some [] ∨ l = [] ∧ inner.getLast? ≠ some [] := by
  have hdropLast : (f :: (inner ++ [l])).dropLast = f :: inner := by
    rw [← List.cons_append, List.dropLast_concat]
  have hgetLast : (f :: (inner ++ [l])).getLast? = some l := by
    rw [← List.cons_append, List.getLast?_concat]
  rw [LoneColon, List.head?_cons, Option.some.injEq, List.tail_cons,
    List.head?_append_of_ne_nil _ hne, hdropLast, hgetLast, Option.some.injEq,
    List.getLast?_cons_of_ne_nil hne]

/-- Without a `::`, and without a colon at an end, no piece is empty. -/
theorem nil_notMem_iff (h : 3 ≤ ps.length) : [] ∉ ps ↔ gaps ps = 0 ∧ ¬LoneColon ps := by
  obtain ⟨f, inner, l, hne, rfl⟩ := exists_ends h
  rw [gaps_cons_concat, List.count_eq_zero, loneColon_cons_concat hne, List.mem_cons,
    List.mem_append, List.mem_singleton]
  constructor
  · intro hnil
    refine ⟨fun hmem => hnil (.inr (.inl hmem)), ?_⟩
    rintro (⟨hf, -⟩ | ⟨hl, -⟩)
    · exact hnil (.inl hf.symm)
    · exact hnil (.inr (.inr hl.symm))
  · rintro ⟨hinner, hlone⟩ (hf | hmem | hl)
    · exact hlone (.inl ⟨hf.symm, fun hhead => hinner (List.mem_of_head? hhead)⟩)
    · exact hinner hmem
    · exact hlone (.inr ⟨hl.symm, fun hlast => hinner (List.mem_of_getLast? hlast)⟩)

theorem nil_notMem_tail_side (h : [] ∉ gs) : [] ∉ (side gs).tail := by
  rcases gs with _ | ⟨g, gs⟩
  · exact List.not_mem_nil
  · exact fun hmem => h (List.mem_cons_of_mem g hmem)

theorem nil_notMem_dropLast_side (h : [] ∉ gs) : [] ∉ (side gs).dropLast := by
  rcases gs with _ | ⟨g, gs⟩
  · exact List.not_mem_nil
  · exact fun hmem => h (List.mem_of_mem_dropLast hmem)

theorem gaps_compressed {left right : List (List Char)} (hleft : [] ∉ left) (hright : [] ∉ right) :
    gaps (side left ++ [] :: side right) = 1 := by
  rw [gaps, List.tail_append_of_ne_nil (side_ne_nil left),
    List.dropLast_append_of_ne_nil (List.cons_ne_nil _ _),
    List.dropLast_cons_of_ne_nil (side_ne_nil right), List.count_append, List.count_cons_self,
    List.count_eq_zero.2 (nil_notMem_tail_side hleft),
    List.count_eq_zero.2 (nil_notMem_dropLast_side hright)]

theorem not_loneColon_compressed {left right : List (List Char)} (hleft : [] ∉ left)
    (hright : [] ∉ right) : ¬LoneColon (side left ++ [] :: side right) := by
  rintro (⟨hhead, hnext⟩ | ⟨hlast, hbefore⟩)
  · rcases left with _ | ⟨g, gs⟩
    · exact hnext rfl
    · obtain rfl : g = [] := Option.some.inj hhead
      exact hleft List.mem_cons_self
  · rcases List.eq_nil_or_concat' right with rfl | ⟨gs, g, rfl⟩
    · have hends : side left ++ [] :: side [] = side left ++ [[]] ++ [[]] := by
        rw [List.append_assoc]
        rfl
      rw [hends, List.dropLast_concat, List.getLast?_concat] at hbefore
      exact hbefore rfl
    · rw [side_of_ne_nil (List.concat_ne_nil g gs), ← List.cons_append, ← List.append_assoc,
        List.getLast?_concat] at hlast
      exact hright (List.mem_append_right gs (Option.some.inj hlast ▸ List.mem_singleton_self _))

/-- What stands on the sides of the only `::`, if no other colon is at an end. -/
theorem exists_side_iff (h : 3 ≤ ps.length) :
    (∃ left right, [] ∉ left ∧ [] ∉ right ∧ ps = side left ++ [] :: side right) ↔
      gaps ps = 1 ∧ ¬LoneColon ps := by
  constructor
  · rintro ⟨left, right, hleft, hright, rfl⟩
    exact ⟨gaps_compressed hleft hright, not_loneColon_compressed hleft hright⟩
  · obtain ⟨f, inner, l, hne, rfl⟩ := exists_ends h
    rw [gaps_cons_concat, loneColon_cons_concat hne]
    rintro ⟨hgaps, hlone⟩
    obtain ⟨as, bs, rfl⟩ := List.append_of_mem (List.count_pos_iff.1 (hgaps ▸ Nat.one_pos))
    rw [List.count_append, List.count_cons_self] at hgaps
    have has : [] ∉ as := List.count_eq_zero.1 (by omega)
    have hbs : [] ∉ bs := List.count_eq_zero.1 (by omega)
    -- An empty piece at an end has the empty one of the `::` beside it.
    have hfirst : f = [] → as = [] := by
      intro hf
      rcases as with _ | ⟨a, as⟩
      · rfl
      · refine absurd (.inl ⟨hf, fun hhead => has ?_⟩) hlone
        exact Option.some.inj hhead ▸ List.mem_cons_self
    have hlast : l = [] → bs = [] := by
      intro hl
      rcases List.eq_nil_or_concat' bs with rfl | ⟨bs, b, rfl⟩
      · rfl
      · refine absurd (.inr ⟨hl, fun hlast => hbs ?_⟩) hlone
        rw [← List.cons_append, ← List.append_assoc, List.getLast?_concat] at hlast
        exact List.mem_append_right bs (Option.some.inj hlast ▸ List.mem_singleton_self _)
    obtain ⟨left, hleft, hside⟩ := exists_side_cons has hfirst
    obtain ⟨right, hright, hside'⟩ := exists_side_concat hbs hlast
    refine ⟨left, right, hleft, hright, ?_⟩
    rw [← hside, ← hside', List.append_assoc, List.cons_append, List.cons_append]

/-- Pieces make an address if there is no `::` and they are eight groups, or one and they are at
    most seven; and no other colon stands at an end. -/
theorem isIpv6Text_iff {s : String} (h : IsPieces (pieces s)) (hlength : 3 ≤ (pieces s).length) :
    IsIpv6Text s ↔ ¬LoneColon (pieces s) ∧
      (gaps (pieces s) = 0 ∧ groupCount (pieces s) = 8 ∨
        gaps (pieces s) = 1 ∧ groupCount (pieces s) ≤ 7) := by
  have hfull : Parts (pieces s) 8 ↔
      ¬LoneColon (pieces s) ∧ gaps (pieces s) = 0 ∧ groupCount (pieces s) = 8 := by
    rw [h.parts_iff, nil_notMem_iff hlength, and_comm (a := gaps _ = 0), and_assoc]
  have hcompressed : (∃ left right n, (∀ g ∈ left, IsGroup g) ∧ Parts right n ∧
      left.length + n ≤ 7 ∧ pieces s = side left ++ [] :: side right) ↔
      ¬LoneColon (pieces s) ∧ gaps (pieces s) = 1 ∧ groupCount (pieces s) ≤ 7 := by
    rw [← and_assoc, and_comm (a := ¬_), ← exists_side_iff hlength]
    constructor
    · rintro ⟨left, right, n, hleft, hright, hcount, hs⟩
      refine ⟨⟨left, right, nil_notMem hleft, hright.nil_notMem, hs⟩, ?_⟩
      rwa [hs, groupCount_compressed, groupCount_groups hleft, hright.groupCount_eq]
    · rintro ⟨⟨left, right, hleft, hright, hs⟩, hcount⟩
      rw [hs, List.append_cons] at h
      obtain ⟨hpieces, hrest⟩ := h.of_append (side_ne_nil right)
      have hgroups : ∀ g ∈ left, IsGroup g := by
        intro g hg
        have hside : g ∈ side left := by rwa [side_of_ne_nil (List.ne_nil_of_mem hg)]
        exact (hpieces g (List.mem_append_left _ hside)).isGroup fun heq => hleft (heq ▸ hg)
      rw [hs, groupCount_compressed, groupCount_groups hgroups] at hcount
      exact ⟨left, right, _, hgroups, hrest.of_side.parts_iff.2 ⟨hright, rfl⟩, hcount, hs⟩
  rw [isIpv6Text_iff_pieces, hfull, hcompressed, ← and_or_left]

end Ipv6

end PhineAf

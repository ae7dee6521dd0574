import PhineAf.Lib.Address
import PhineAf.Pcf.Validation

/-!
# The check of IPv6 addresses

What `is_valid_ipv6` accepts, against the textual form of an IPv6 address in hexadecimal
groups: eight groups separated by colons, or at most seven with one `::` in the place of
those that are missing (`IsIpv6Address`).

The third alternative of the expression has the separator of a group before its `::` as well:
an address that is compressed after a group is not accepted, the same with three colons is,
and the groups are not counted. Both languages are compared by the pieces of a text between
its colons (`pieces`), which determine it.
-/

namespace PhineAf

open Text RegularExpression

namespace Ipv6

/-! ## The expression -/

/-- The texts of the third alternative: groups that are each followed by a colon, `::` and
    groups. -/
def Trailing (s : String) (left right : List (List Char)) : Prop :=
  right ≠ [] ∧ (∀ g ∈ left ++ right, IsGroup g) ∧ pieces s = left ++ [] :: [] :: right

theorem mem_hexGroup {g : List Char} : g ∈ hexGroup.matches' ↔ IsGroup g := by
  rw [hexGroup, matchesChar_hexDigit.between, isGroup_iff]

theorem flatten_append_join (xs : List (List Char)) {ys : List (List Char)} (hys : ys ≠ []) :
    (xs.map (· ++ [':'])).flatten ++ join ys = join (xs ++ ys) :=
  flatten_append_intercalate xs hys

theorem toList_eq_iff_of_groups {s : String} {left right : List (List Char)} (hne : right ≠ [])
    (h : ∀ g ∈ left ++ right, IsGroup g) : pieces s = left ++ [] :: [] :: right ↔
      s.toList = (left.map (· ++ [':'])).flatten ++ ([':', ':'] ++ join right) := by
  obtain ⟨hleft, hright⟩ := List.forall_mem_append.1 h
  rw [pieces_eq_iff (List.append_ne_nil_of_right_ne_nil left (List.cons_ne_nil _ _)),
    ← flatten_append_join left (List.cons_ne_nil _ _), join_nil_cons (List.cons_ne_nil _ _),
    join_nil_cons hne]
  · rfl
  · rw [List.forall_mem_append, List.forall_mem_cons, List.forall_mem_cons]
    exact ⟨fun g hg => (hleft g hg).colon_notMem, List.not_mem_nil, List.not_mem_nil,
      fun g hg => (hright g hg).colon_notMem⟩

theorem trailing_iff {s : String} :
    s.toList ∈ (star (hexGroup * char ':') * word "::" * hexGroup *
      star (char ':' * hexGroup)).matches' ↔ ∃ left right, Trailing s left right := by
  have hlanguage : (star (hexGroup * char ':') * word "::" * hexGroup *
      star (char ':' * hexGroup)).matches' = (star (hexGroup * char ':')).matches' *
        ((word "::").matches' * (hexGroup * star (char ':' * hexGroup)).matches') := by
    simp only [matches'_mul, mul_assoc]
  rw [hlanguage, Language.mem_mul]
  constructor
  · rintro ⟨a, ha, b, hb, hs⟩
    obtain ⟨left, hleft, rfl⟩ := mem_star_mul_char.1 ha
    obtain ⟨c, hc, d, hd, rfl⟩ := Language.mem_mul.1 hb
    obtain rfl := mem_word.1 hc
    obtain ⟨right, hne, hright, rfl⟩ := mem_mul_star_char_mul.1 hd
    have hgroups : ∀ g ∈ left ++ right, IsGroup g := List.forall_mem_append.2
      ⟨fun g hg => mem_hexGroup.1 (hleft g hg), fun g hg => mem_hexGroup.1 (hright g hg)⟩
    exact ⟨left, right, hne, hgroups, (toList_eq_iff_of_groups hne hgroups).2 hs.symm⟩
  · rintro ⟨left, right, hne, hgroups, hs⟩
    obtain ⟨hleft, hright⟩ := List.forall_mem_append.1 hgroups
    refine ⟨_, mem_star_mul_char.2 ⟨left, fun g hg => mem_hexGroup.2 (hleft g hg), rfl⟩, _,
      Language.mem_mul.2 ⟨_, mem_word.2 rfl, join right, mem_mul_star_char_mul.2
        ⟨right, hne, fun g hg => mem_hexGroup.2 (hright g hg), rfl⟩, rfl⟩, ?_⟩
    exact ((toList_eq_iff_of_groups hne hgroups).1 hs).symm

/-- The texts that are accepted. -/
theorem isValidIpv6_iff {s : String} : isValidIpv6 s = true ↔
    Full s ∨ Compressed s [] [] ∨ ∃ left right, Trailing s left right := by
  have hfull : s.toList ∈ (times 7 (hexGroup * char ':') * hexGroup).matches' ↔ Full s := by
    rw [mem_times_mul_char_mul]
    exact exists_congr fun gs => and_congr_right fun _ =>
      and_congr_left' (forall₂_congr fun _ _ => mem_hexGroup)
  have hempty : s.toList ∈ (word "::").matches' ↔ Compressed s [] [] := by
    rw [mem_word, Compressed]
    exact (and_iff_right fun _ h => by cases h).symm
  -- The second alternative is a case of the last one.
  have hone : s.toList ∈ (word "::1").matches' → ∃ left right, Trailing s left right := by
    intro h
    have hgroups : ∀ g ∈ [] ++ [['1']], IsGroup g := by simp [isGroup_iff, IsHexDigit]
    refine ⟨[], [['1']], List.cons_ne_nil _ _, hgroups, ?_⟩
    rw [toList_eq_iff_of_groups (List.cons_ne_nil _ _) hgroups]
    exact mem_word.1 h
  rw [isValidIpv6, fullMatch_iff, matches'_add, matches'_add, matches'_add, Language.mem_add,
    Language.mem_add, Language.mem_add, hfull, hempty, trailing_iff]
  constructor
  · rintro (((h | h) | h) | h)
    · exact .inl h
    · exact .inr (.inr (hone h))
    · exact .inr (.inl h)
    · exact .inr (.inr h)
  · rintro (h | h | h)
    · exact .inl (.inl (.inl h))
    · exact .inl (.inr h)
    · exact .inr h

/-! ## The comparison -/

/-- What follows the first empty piece of a compressed address. -/
def rest (left right : List (List Char)) : List (List Char) :=
  if left = [] then [] :: side right else side right

theorem Compressed.pieces_eq {s : String} {left right : List (List Char)}
    (h : Compressed s left right) : pieces s = left ++ [] :: rest left right := by
  rw [(compressed_iff.1 h).2, side, rest]
  split_ifs with hleft
  · rw [hleft]
    rfl
  · rfl

variable {s : String} {left left' right right' : List (List Char)}

theorem Full.nil_notMem (h : Full s) : [] ∉ pieces s := by
  obtain ⟨groups, -, hgroups, heq⟩ := full_iff.1 h
  rw [heq]
  exact Ipv6.nil_notMem hgroups

theorem Compressed.not_full (h : Compressed s left right) : ¬Full s := by
  intro hfull
  refine hfull.nil_notMem ?_
  rw [h.pieces_eq]
  exact List.mem_append_right _ List.mem_cons_self

theorem Trailing.not_full (h : Trailing s left right) : ¬Full s := by
  intro hfull
  refine hfull.nil_notMem ?_
  rw [h.2.2]
  exact List.mem_append_right _ List.mem_cons_self

/-- The groups of an address are determined. -/
theorem Compressed.unique (h : Compressed s left right) (h' : Compressed s left' right') :
    left = left' ∧ right = right' := by
  obtain ⟨hleft, hright⟩ := List.forall_mem_append.1 h.1
  obtain ⟨hleft', hright'⟩ := List.forall_mem_append.1 h'.1
  obtain ⟨rfl, hrest⟩ := append_cons_inj_left (nil_notMem hleft) (nil_notMem hleft')
    (h.pieces_eq.symm.trans h'.pieces_eq)
  have hside : side right = side right' := by
    rw [rest, rest] at hrest
    split_ifs at hrest
    · exact (List.cons.inj hrest).2
    · exact hrest
  refine ⟨rfl, ?_⟩
  by_cases hr : right = [] <;> by_cases hr' : right' = []
  · rw [hr, hr']
  · rw [hr, side_of_ne_nil hr'] at hside
    exact absurd (hside ▸ List.mem_cons_self) (nil_notMem hright')
  · rw [hr', side_of_ne_nil hr] at hside
    exact absurd (hside ▸ List.mem_cons_self) (nil_notMem hright)
  · rwa [side_of_ne_nil hr, side_of_ne_nil hr'] at hside

/-- Groups after a `::` are all there is of an address that starts with it. -/
theorem trailing_nil_iff (hne : right ≠ []) : Trailing s [] right ↔ Compressed s [] right := by
  rw [Trailing, compressed_iff, side_of_ne_nil hne]
  exact and_iff_right hne

/-- A text of the third alternative is an address only if no group comes first. -/
theorem Trailing.left_eq_nil (h : Trailing s left right) (h' : Compressed s left' right') :
    left = [] ∧ left' = [] := by
  obtain ⟨hne, hgroups, heq⟩ := h
  obtain ⟨hleft, hright⟩ := List.forall_mem_append.1 hgroups
  obtain ⟨hleft', hright'⟩ := List.forall_mem_append.1 h'.1
  obtain ⟨rfl, hrest⟩ := append_cons_inj_left (nil_notMem hleft) (nil_notMem hleft')
    (heq.symm.trans h'.pieces_eq)
  refine (and_self_iff (a := left = [])).2 ?_
  by_contra hleft
  rw [rest, if_neg hleft] at hrest
  by_cases hr : right' = []
  · rw [hr] at hrest
    exact hne (List.cons.inj hrest).2
  · rw [side_of_ne_nil hr] at hrest
    exact absurd (hrest ▸ List.mem_cons_self) (nil_notMem hright')

/-- An address that is compressed after a group. -/
def CompressedLate (s : String) : Prop :=
  ∃ left right, left ≠ [] ∧ left.length + right.length ≤ 7 ∧ Compressed s left right

/-- Groups before and after three colons. -/
def ThreeColons (s : String) : Prop :=
  ∃ left right, left ≠ [] ∧ right ≠ [] ∧ (∀ g ∈ left ++ right, IsGroup g) ∧
    s.toList = join left ++ [':', ':', ':'] ++ join right

/-- Eight groups or more after a `::`. -/
def TooLong (s : String) : Prop := ∃ right, 8 ≤ right.length ∧ Compressed s [] right

theorem threeColons_iff : ThreeColons s ↔ ∃ left right, left ≠ [] ∧ Trailing s left right := by
  refine exists₂_congr fun left right => and_congr_right fun hleft =>
    and_congr_right fun hright => and_congr_right fun hgroups => ?_
  have hjoin : (left.map (· ++ [':'])).flatten = join left ++ [':'] := by
    have h := (flatten_append_join left (List.cons_ne_nil [] [])).trans
      (join_append hleft (List.cons_ne_nil [] []))
    rwa [show join [[]] = [] from rfl, List.append_nil] at h
  rw [toList_eq_iff_of_groups hright hgroups, hjoin, List.append_assoc, List.append_assoc]
  rfl

theorem CompressedLate.isIpv6Address (h : CompressedLate s) : IsIpv6Address s := by
  obtain ⟨left, right, -, hlength, hs⟩ := h
  exact .inr ⟨left, right, hlength, hs⟩

theorem CompressedLate.not_isValidIpv6 (h : CompressedLate s) : ¬isValidIpv6 s = true := by
  obtain ⟨left, right, hleft, -, hs⟩ := h
  rw [isValidIpv6_iff]
  rintro (hfull | hempty | ⟨left', right', ht⟩)
  · exact hs.not_full hfull
  · exact hleft (hs.unique hempty).1
  · exact hleft (ht.left_eq_nil hs).2

theorem ThreeColons.not_isIpv6Address (h : ThreeColons s) : ¬IsIpv6Address s := by
  obtain ⟨left, right, hleft, hs⟩ := threeColons_iff.1 h
  rintro (hfull | ⟨left', right', -, hc⟩)
  · exact hs.not_full hfull
  · exact hleft (hs.left_eq_nil hc).1

theorem ThreeColons.isValidIpv6 (h : ThreeColons s) : isValidIpv6 s = true := by
  obtain ⟨left, right, -, hs⟩ := threeColons_iff.1 h
  exact isValidIpv6_iff.2 (.inr (.inr ⟨left, right, hs⟩))

theorem TooLong.not_isIpv6Address (h : TooLong s) : ¬IsIpv6Address s := by
  obtain ⟨right, hlength, hs⟩ := h
  rintro (hfull | ⟨left', right', hlength', hc⟩)
  · exact hs.not_full hfull
  · obtain ⟨rfl, rfl⟩ := hs.unique hc
    rw [List.length_nil] at hlength'
    omega

theorem TooLong.isValidIpv6 (h : TooLong s) : isValidIpv6 s = true := by
  obtain ⟨right, hlength, hs⟩ := h
  have hne : right ≠ [] := by
    rintro rfl
    cases hlength
  exact isValidIpv6_iff.2 (.inr (.inr ⟨[], right, (trailing_nil_iff hne).2 hs⟩))

/-- An accepted text is an address and the other way round, exactly unless it is an address
    that is compressed after a group, or three colons stand between groups, or too many
    groups follow a `::`. -/
theorem isValidIpv6_exact_iff (s : String) : (isValidIpv6 s = true ↔ IsIpv6Address s) ↔
    ¬CompressedLate s ∧ ¬ThreeColons s ∧ ¬TooLong s := by
  constructor
  · intro h
    exact ⟨fun hlate => hlate.not_isValidIpv6 (h.2 hlate.isIpv6Address),
      fun hthree => hthree.not_isIpv6Address (h.1 hthree.isValidIpv6),
      fun hlong => hlong.not_isIpv6Address (h.1 hlong.isValidIpv6)⟩
  · rintro ⟨hlate, hthree, hlong⟩
    rw [threeColons_iff] at hthree
    rw [isValidIpv6_iff]
    constructor
    · rintro (hfull | hempty | ⟨left, right, ht⟩)
      · exact .inl hfull
      · exact .inr ⟨[], [], by decide, hempty⟩
      · obtain rfl : left = [] := by
          by_contra hleft
          exact hthree ⟨left, right, hleft, ht⟩
        have hs := (trailing_nil_iff ht.1).1 ht
        refine .inr ⟨[], right, ?_, hs⟩
        by_contra hlength
        rw [List.length_nil] at hlength
        exact hlong ⟨right, by omega, hs⟩
    · rintro (hfull | ⟨left, right, hlength, hs⟩)
      · exact .inl hfull
      · obtain rfl : left = [] := by
          by_contra hleft
          exact hlate ⟨left, right, hleft, hlength, hs⟩
        by_cases hne : right = []
        · exact .inr (.inl (hne ▸ hs))
        · exact .inr (.inr ⟨[], right, (trailing_nil_iff hne).2 hs⟩)

/-- A link-local address is refused; and a text with three colons accepted. -/
theorem not_isValidIpv6_exact :
    ¬(isValidIpv6 "fe80::1" = true ↔ IsIpv6Address "fe80::1") ∧
      ¬(isValidIpv6 "1:::2" = true ↔ IsIpv6Address "1:::2") := by
  have hlate : CompressedLate "fe80::1" := ⟨[['f', 'e', '8', '0']], [['1']], by decide, by decide,
    by simp [isGroup_iff, IsHexDigit], by decide⟩
  have hthree : ThreeColons "1:::2" := ⟨[['1']], [['2']], by decide, by decide,
    by simp [isGroup_iff, IsHexDigit], by decide⟩
  exact ⟨fun h => hlate.not_isValidIpv6 (h.2 hlate.isIpv6Address),
    fun h => hthree.not_isIpv6Address (h.1 hthree.isValidIpv6)⟩

end Ipv6

end PhineAf

import PhineAf.Lib.Address
import PhineAf.Ue.Key

/-!
# Addresses in keys

What the formats of the addresses in keys let through. A text is an IPv4 address for
`validate_ipv4_format` exactly if it is the dotted quad of a 32-bit value, and of one only.
`validate_ipv6_format` looks at each piece between the colons by itself (`Shaped`): nothing
counts the groups or the `::`. And of the length of a prefix only what `stoi` reads is looked
at. So each of the last two accepts texts that are no addresses, which are those of
`Malformed` and `MalformedPrefix`.
-/

namespace PhineAf

open Text RegularExpression Ipv4 Ipv6

/-! ## IPv4 addresses -/

theorem matches'_octetPattern : octetPattern.matches' =
    (char '2' * char '5' * range '0' '5' + char '2' * range '0' '4' * range '0' '9' +
      char '1' * range '0' '9' * range '0' '9' +
      (range '0' '9' + range '1' '9' * range '0' '9')).matches' := by
  have htimes : times 2 (range '0' '9') = range '0' '9' * (range '0' '9' * 1) := rfl
  rw [octetPattern, opt, htimes]
  simp only [matches'_add, matches'_mul, matches'_epsilon, mul_assoc, mul_one, add_mul, one_mul]

/-- A number from 0 to 255 without leading zeros. -/
theorem matchesNumber_octetPattern : MatchesNumber octetPattern (· < 256) := by
  have hdigits : ∀ {i j : ℕ}, i ≤ j → j < 10 →
      MatchesChar (range i.digitChar j.digitChar) (DigitIn i j) := matchesChar_digits
  have hdigit (d : ℕ) (hd : d < 10) : MatchesNumber (char d.digitChar) fun n => d ≤ n ∧ n ≤ d :=
    (matchesChar_digit d).matchesNumber hd
  have h250 := ((hdigit 2 (by decide)).mul (by omega) (matchesChar_digit 5) (by decide)).mul
    (by omega) (hdigits (Nat.zero_le 5) (by decide)) (by decide)
  have h200 := ((hdigit 2 (by decide)).mul (by omega) (hdigits (Nat.zero_le 4) (by decide))
    (by decide)).mul (by omega) (hdigits (Nat.zero_le 9) (by decide)) (by decide)
  have h100 := ((hdigit 1 (by decide)).mul (by omega) (hdigits (Nat.zero_le 9) (by decide))
    (by decide)).mul (by omega) (hdigits (Nat.zero_le 9) (by decide)) (by decide)
  have h10 := ((hdigits (i := 1) (j := 9) (by decide) (by decide)).matchesNumber (by decide)).mul
    (by omega) (hdigits (Nat.zero_le 9) (by decide)) (by decide)
  have h0 := (hdigits (Nat.zero_le 9) (by decide)).matchesNumber (by decide)
  intro x
  rw [matches'_octetPattern]
  refine (((h250.add h200).add h100).add (h0.add h10) x).trans (exists_congr fun n => ?_)
  refine and_congr_left' ?_
  omega

theorem mem_ipv4Pattern {x : List Char} :
    x ∈ ipv4Pattern.matches' ↔ ∃ a, x = (dottedQuad a).toList := by
  rw [ipv4Pattern, mem_times_mul_char_mul, exists_dottedQuad_iff]
  constructor
  · rintro ⟨xs, hlength, hxs, rfl⟩
    obtain ⟨ns, rfl, hns⟩ := (exists_map_of_forall matchesNumber_octetPattern).1 hxs
    rw [List.length_map] at hlength
    exact ⟨ns, hlength, hns, rfl⟩
  · rintro ⟨ns, hlength, hns, rfl⟩
    refine ⟨_, ?_, (exists_map_of_forall matchesNumber_octetPattern).2 ⟨ns, rfl, hns⟩, rfl⟩
    rw [List.length_map, hlength]

/-- The accepted texts and the 32-bit addresses correspond to each other. -/
theorem validateIpv4Format_iff (x : String) :
    validateIpv4Format x = .ok () ↔ ∃! a, dottedQuad a = x := by
  have hunique : (∃! a, dottedQuad a = x) ↔ ∃ a, x.toList = (dottedQuad a).toList := by
    constructor
    · rintro ⟨a, rfl, -⟩
      exact ⟨a, rfl⟩
    · rintro ⟨a, ha⟩
      obtain rfl := String.toList_inj.1 ha
      exact ⟨a, rfl, fun b hb => dottedQuad_injective hb⟩
  rw [hunique, ← mem_ipv4Pattern, ← fullMatch_iff, validateIpv4Format]
  split_ifs with hempty hmatch
  · refine iff_of_false (by simp) fun hmatch => ?_
    obtain ⟨a, ha⟩ := mem_ipv4Pattern.1 (fullMatch_iff.1 hmatch)
    rw [List.isEmpty_iff.1 hempty] at ha
    exact List.ne_nil_of_mem (dot_mem_dottedQuad a) ha.symm
  · exact iff_of_false (by simp) (by simpa using hmatch)
  · exact iff_of_true rfl (by simpa using hmatch)

/-! ## IPv6 addresses -/

/-- The form that is checked: from three to eight pieces of at most four hexadecimal digits, the
    last of which may be a dotted quad. -/
structure Shaped (s : String) : Prop where
  isPieces : IsPieces (pieces s)
  length_ge : 3 ≤ (pieces s).length
  length_le : (pieces s).length ≤ 8

variable {s : String}

theorem mem_between_hexPattern {p : List Char} :
    p ∈ (between 0 4 hexPattern).matches' ↔ IsPiece p := by
  have hhex : MatchesChar hexPattern IsHexDigit := matchesChar_hexDigit
  rw [hhex.between, IsPiece]
  simp only [Nat.zero_le, Nat.zero_add, true_and]

theorem fullMatch_ipv6Pattern_iff : fullMatch ipv6Pattern s = true ↔ Shaped s := by
  rw [fullMatch_iff, ipv6Pattern, mem_between_mul_char_mul]
  simp only [matches'_add, Language.mem_add, mem_between_hexPattern, mem_ipv4Pattern]
  constructor
  · rintro ⟨xs, y, hge, hle, hxs, hy, hs⟩
    have hpieces := isPieces_concat_iff.2 ⟨hxs, hy⟩
    have hs' := (pieces_eq_iff (List.concat_ne_nil y xs) hpieces.colon_notMem).2 hs
    have hlength : (pieces s).length = xs.length + 1 := by
      rw [hs', List.length_append, List.length_singleton]
    exact ⟨hs'.symm ▸ hpieces, by omega, by omega⟩
  · rintro ⟨hpieces, hge, hle⟩
    rcases List.eq_nil_or_concat' (pieces s) with hnil | ⟨xs, y, hs⟩
    · rw [hnil] at hge
      cases hge
    · rw [hs] at hpieces hge hle
      rw [List.length_append, List.length_singleton] at hge hle
      obtain ⟨hxs, hy⟩ := isPieces_concat_iff.1 hpieces
      exact ⟨xs, y, by omega, by omega, hxs, hy,
        (pieces_eq_iff (List.concat_ne_nil y xs) hpieces.colon_notMem).1 hs⟩

theorem Shaped.colon_mem (h : Shaped s) : ':' ∈ s.toList := by
  by_contra hcolon
  have hpieces : pieces s = [s.toList] :=
    (pieces_eq_iff (List.cons_ne_nil _ _) (List.forall_mem_singleton.2 hcolon)).2
      List.intercalate_singleton.symm
  have hlength := h.length_ge
  rw [hpieces] at hlength
  simp at hlength

theorem validateIpv6Format_iff : validateIpv6Format s = .ok () ↔ Shaped s := by
  rw [validateIpv6Format]
  split_ifs with hempty hcolon hmatch
  · refine iff_of_false (by simp) fun h => ?_
    exact List.ne_nil_of_mem h.colon_mem (List.isEmpty_iff.1 hempty)
  · refine iff_of_false (by simp) fun h => ?_
    simp [h.colon_mem] at hcolon
  · rw [← fullMatch_ipv6Pattern_iff]
    exact iff_of_false (by simp) (by simpa using hmatch)
  · rw [← fullMatch_ipv6Pattern_iff]
    exact iff_of_true rfl (by simpa using hmatch)

/-! ## IPv6 prefixes -/

/-- A number from 0 to 128 is read of the text. -/
def LengthRead (length : List Char) : Prop :=
  ∃ n, stoi (String.ofList length) = some n ∧ 0 ≤ n ∧ n ≤ 128

theorem LengthRead.ne_nil {length : List Char} (h : LengthRead length) : length ≠ [] := by
  rintro rfl
  obtain ⟨n, hn, -⟩ := h
  cases hn

/-- The first slash is where a prefix is split. -/
theorem validateIpv6PrefixFormat_append {address length : List Char}
    (hs : s.toList = address ++ '/' :: length) (hslash : '/' ∉ address) :
    validateIpv6PrefixFormat s = .ok () ↔ LengthRead length ∧ Shaped (String.ofList address) := by
  have hidx : s.toList.idxOf '/' = address.length := by
    rw [hs, List.idxOf_append_of_notMem hslash, List.idxOf_cons_self, Nat.add_zero]
  have htake : s.toList.take (s.toList.idxOf '/') = address := by
    rw [hidx, hs, List.take_left]
  have hdrop : s.toList.drop (s.toList.idxOf '/' + 1) = length := by
    have hlength : address.length + 1 = (address ++ ['/']).length := by simp
    rw [hidx, hs, List.append_cons, hlength, List.drop_left]
  have hmem : '/' ∈ s.toList := by simp [hs]
  rw [validateIpv6PrefixFormat]
  dsimp only
  rw [htake, hdrop, if_neg (by simp [List.ne_nil_of_mem hmem]), if_neg (by simp [hmem])]
  split_ifs with hparts
  · refine iff_of_false (by simp) ?_
    rintro ⟨hlength, hshaped⟩
    have haddress := List.ne_nil_of_mem hshaped.colon_mem
    simp_all [hlength.ne_nil]
  · split
    next n hn =>
      simp only [Bool.or_eq_true, decide_eq_true_eq]
      split_ifs with hrange
      · refine iff_of_false (by simp) ?_
        rintro ⟨⟨m, hm, hm'⟩, -⟩
        obtain rfl := Option.some.inj (hn.symm.trans hm)
        omega
      · rw [validateIpv6Format_iff]
        exact (and_iff_right ⟨n, hn, by omega, by omega⟩).symm
    next hn =>
      refine iff_of_false (by simp) ?_
      rintro ⟨⟨m, hm, -⟩, -⟩
      rw [hn] at hm
      cases hm

theorem validateIpv6PrefixFormat_iff : validateIpv6PrefixFormat s = .ok () ↔
    ∃ address length, s.toList = address ++ '/' :: length ∧ '/' ∉ address ∧ LengthRead length ∧
      Shaped (String.ofList address) := by
  constructor
  · intro h
    have hmem : '/' ∈ s.toList := by
      by_contra hmem
      rw [validateIpv6PrefixFormat] at h
      simp only [List.contains_eq_mem, hmem, decide_false, Bool.not_false, if_true] at h
      split_ifs at h
    obtain ⟨address, length, hs, hslash⟩ := List.eq_append_cons_of_mem hmem
    exact ⟨address, length, hs, hslash, (validateIpv6PrefixFormat_append hs hslash).1 h⟩
  · rintro ⟨address, length, hs, hslash, h⟩
    exact (validateIpv6PrefixFormat_append hs hslash).2 h

/-! ## What is accepted, and is no address -/

/-- The form is right, and it is no address: a single colon is at an end, there is no `::` and
    there are not eight groups, there is one and there are not fewer, or there are several. -/
def Malformed (s : String) : Prop :=
  Shaped s ∧ (LoneColon (pieces s) ∨ gaps (pieces s) = 0 ∧ groupCount (pieces s) ≠ 8 ∨
    gaps (pieces s) = 1 ∧ 8 ≤ groupCount (pieces s) ∨ 2 ≤ gaps (pieces s))

/-- The form is right, and it is no prefix: the address is none, or the length is not all
    digits, but a number from 0 to 128 is read of it. -/
def MalformedPrefix (s : String) : Prop :=
  ∃ address length, s.toList = address ++ '/' :: length ∧ '/' ∉ address ∧ LengthRead length ∧
    Shaped (String.ofList address) ∧
    (Malformed (String.ofList address) ∨ ∃ c ∈ length, c.isDigit = false)

theorem Shaped.isIpv6Text_iff (h : Shaped s) : IsIpv6Text s ↔ ¬Malformed s := by
  rw [Ipv6.isIpv6Text_iff h.isPieces h.length_ge, Malformed, and_iff_right h]
  by_cases hlone : LoneColon (pieces s)
  · simp only [hlone, not_true, false_and, true_or]
  · simp only [hlone, not_false_eq_true, true_and, false_or]
    omega

theorem LengthRead.digitsValue_le {length : List Char} (h : LengthRead length)
    (hdigits : ∀ c ∈ length, c.isDigit = true) : digitsValue length ≤ 128 := by
  have hstoi : stoi (String.ofList length ++ "") = _ := stoi_append h.ne_nil hdigits (by simp)
  obtain ⟨n, hn, -, hle⟩ := h
  rw [← String.append_empty (s := String.ofList length), hstoi] at hn
  split_ifs at hn
  obtain rfl := Option.some.inj hn
  exact Int.ofNat_le.1 hle

/-- The text is accepted as an address, or a prefix, only if it is one; and as an IPv4 address
    exactly if it is that of one 32-bit value. -/
structure AdmitsOnlyAddresses (x : String) : Prop where
  ipv4 : validateIpv4Format x = .ok () ↔ ∃! a : BitVec 32, dottedQuad a = x
  ipv6 : validateIpv6Format x = .ok () → IsIpv6Text x
  ipv6Prefix : validateIpv6PrefixFormat x = .ok () → IsIpv6PrefixText x

theorem validateIpv6Format_imp_iff :
    (validateIpv6Format s = .ok () → IsIpv6Text s) ↔ ¬Malformed s := by
  rw [validateIpv6Format_iff]
  constructor
  · exact fun h hbad => hbad.1.isIpv6Text_iff.1 (h hbad.1) hbad
  · exact fun hbad h => h.isIpv6Text_iff.2 hbad

theorem validateIpv6PrefixFormat_imp_iff :
    (validateIpv6PrefixFormat s = .ok () → IsIpv6PrefixText s) ↔ ¬MalformedPrefix s := by
  constructor
  · rintro h ⟨address, length, hs, hslash, hread, hshaped, hbad⟩
    have haccepted := (validateIpv6PrefixFormat_append hs hslash).2 ⟨hread, hshaped⟩
    obtain ⟨haddress, -, hdigits, -⟩ := (isIpv6PrefixText_append hs hslash).1 (h haccepted)
    rcases hbad with hbad | ⟨c, hc, hdigit⟩
    · exact hshaped.isIpv6Text_iff.1 haddress hbad
    · rw [hdigits c hc] at hdigit
      cases hdigit
  · intro hbad h
    obtain ⟨address, length, hs, hslash, hread, hshaped⟩ := validateIpv6PrefixFormat_iff.1 h
    have hdigits : ∀ c ∈ length, c.isDigit = true := by
      intro c hc
      by_contra hdigit
      exact hbad ⟨address, length, hs, hslash, hread, hshaped,
        .inr ⟨c, hc, Bool.eq_false_of_not_eq_true hdigit⟩⟩
    refine (isIpv6PrefixText_append hs hslash).2
      ⟨hshaped.isIpv6Text_iff.2 fun hbad' => ?_, hread.ne_nil, hdigits,
        hread.digitsValue_le hdigits⟩
    exact hbad ⟨address, length, hs, hslash, hread, hshaped, .inl hbad'⟩

/-- Only addresses are accepted, exactly unless the text is malformed in one of these ways. -/
theorem admitsOnlyAddresses_iff (x : String) :
    AdmitsOnlyAddresses x ↔ ¬Malformed x ∧ ¬MalformedPrefix x := by
  constructor
  · rintro ⟨-, hipv6, hprefix⟩
    exact ⟨validateIpv6Format_imp_iff.1 hipv6, validateIpv6PrefixFormat_imp_iff.1 hprefix⟩
  · rintro ⟨hipv6, hprefix⟩
    exact ⟨validateIpv4Format_iff x, validateIpv6Format_imp_iff.2 hipv6,
      validateIpv6PrefixFormat_imp_iff.2 hprefix⟩

/-- Three groups are accepted; and a length that is followed by letters. -/
theorem not_admitsOnlyAddresses :
    ¬AdmitsOnlyAddresses "1:2:3" ∧ ¬AdmitsOnlyAddresses "2001:db8::/64abc" := by
  have hshort : Shaped "1:2:3" := by
    have hpieces : pieces "1:2:3" = [['1'], ['2']] ++ [['3']] := by decide
    refine ⟨?_, by decide, by decide⟩
    rw [hpieces, isPieces_concat_iff]
    exact ⟨by simp [IsPiece, IsHexDigit], .inl (by simp [IsPiece, IsHexDigit])⟩
  have hdb8 : Shaped "2001:db8::" := by
    have hpieces : pieces "2001:db8::" = [['2', '0', '0', '1'], ['d', 'b', '8'], []] ++ [[]] := by
      decide
    refine ⟨?_, by decide, by decide⟩
    rw [hpieces, isPieces_concat_iff]
    exact ⟨by simp [IsPiece, IsHexDigit], .inl (by simp [IsPiece, IsHexDigit])⟩
  constructor
  · intro h
    exact validateIpv6Format_imp_iff.1 h.ipv6 ⟨hshort, .inr (.inl (by decide))⟩
  · intro h
    refine validateIpv6PrefixFormat_imp_iff.1 h.ipv6Prefix
      ⟨"2001:db8::".toList, "64abc".toList, by decide, by decide, ⟨64, by decide, by decide⟩,
        ?_, ?_⟩
    · rw [String.ofList_toList]
      exact hdb8
    · exact .inr ⟨'a', by decide, by decide⟩

end PhineAf

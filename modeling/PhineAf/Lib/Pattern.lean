import PhineAf.Lib.Text

/-!
# What a pattern matches

The language of each of the patterns of `PhineAf.Text`. A pattern for one character out of
a class (`MatchesChar`) matches, repeated, the texts of a length over the class; a pattern for
some numbers (`MatchesNumber`) and one for a digit after it match numbers again; repeated with
a separator, a pattern matches texts that are joined by it (`List.intercalate`).
-/

namespace PhineAf.Text

open RegularExpression

variable {r r' : Pattern} {x : List Char}

theorem fullMatch_iff {s : String} : fullMatch r s = true ↔ s.toList ∈ r.matches' :=
  rmatch_iff_matches' r s.toList

/-! ## Words and repetitions -/

theorem mem_times {n : ℕ} : x ∈ (times n r).matches' ↔
    ∃ L : List (List Char), L.length = n ∧ x = L.flatten ∧ ∀ y ∈ L, y ∈ r.matches' := by
  induction n generalizing x with
  | zero =>
    constructor
    · intro h
      exact ⟨[], rfl, (Language.mem_one x).1 h, fun _ h => by cases h⟩
    · rintro ⟨L, hL, rfl, -⟩
      rw [List.length_eq_zero_iff.1 hL]
      exact (Language.mem_one _).2 rfl
  | succ n ih =>
    have hsucc : times (n + 1) r = r * times n r := rfl
    rw [hsucc, matches'_mul, Language.mem_mul]
    constructor
    · rintro ⟨a, ha, b, hb, rfl⟩
      obtain ⟨L, hL, rfl, hmem⟩ := ih.1 hb
      exact ⟨a :: L, congrArg (· + 1) hL, rfl, List.forall_mem_cons.2 ⟨ha, hmem⟩⟩
    · rintro ⟨L, hL, rfl, hmem⟩
      obtain ⟨a, L, rfl⟩ := List.exists_cons_of_length_eq_add_one hL
      obtain ⟨ha, hmem⟩ := List.forall_mem_cons.1 hmem
      exact ⟨a, ha, L.flatten, ih.2 ⟨L, Nat.succ_inj.1 hL, rfl, hmem⟩, rfl⟩

/-- At most `k` times. -/
theorem mem_upTo {k : ℕ} :
    x ∈ ((List.replicate k r).foldr (fun r acc => opt (r * acc)) 1).matches' ↔
      ∃ n ≤ k, x ∈ (times n r).matches' := by
  induction k generalizing x with
  | zero =>
    simp only [Nat.le_zero, exists_eq_left]
    rfl
  | succ k ih =>
    rw [List.replicate_succ, List.foldr_cons, opt, matches'_add, matches'_mul, Language.mem_add,
      Language.mem_mul]
    constructor
    · rintro (hx | ⟨a, ha, b, hb, rfl⟩)
      · exact ⟨0, Nat.zero_le _, hx⟩
      · obtain ⟨n, hn, hb⟩ := ih.1 hb
        exact ⟨n + 1, Nat.succ_le_succ hn, a, ha, b, hb, rfl⟩
    · rintro ⟨_ | n, hn, hx⟩
      · exact .inl hx
      · obtain ⟨a, ha, b, hb, rfl⟩ := hx
        exact .inr ⟨a, ha, b, ih.2 ⟨n, Nat.le_of_succ_le_succ hn, hb⟩, rfl⟩

theorem mem_between {m k : ℕ} : x ∈ (between m k r).matches' ↔
    ∃ L : List (List Char), m ≤ L.length ∧ L.length ≤ m + k ∧ x = L.flatten ∧
      ∀ y ∈ L, y ∈ r.matches' := by
  rw [between, matches'_mul, Language.mem_mul]
  constructor
  · rintro ⟨a, ha, b, hb, rfl⟩
    obtain ⟨L, rfl, rfl, hL⟩ := mem_times.1 ha
    obtain ⟨n, hn, hb⟩ := mem_upTo.1 hb
    obtain ⟨L', rfl, rfl, hL'⟩ := mem_times.1 hb
    refine ⟨L ++ L', ?_, ?_, List.flatten_append.symm, List.forall_mem_append.2 ⟨hL, hL'⟩⟩
    · rw [List.length_append]
      omega
    · rw [List.length_append]
      omega
  · rintro ⟨L, hm, hk, rfl, hL⟩
    refine ⟨_, mem_times.2 ⟨L.take m, List.length_take_of_le hm, rfl, ?_⟩, _,
      mem_upTo.2 ⟨L.length - m, by omega, mem_times.2 ⟨L.drop m, List.length_drop, rfl, ?_⟩⟩, ?_⟩
    · exact fun y hy => hL y (List.mem_of_mem_take hy)
    · exact fun y hy => hL y (List.mem_of_mem_drop hy)
    · rw [← List.flatten_append, List.take_append_drop]

theorem mem_word {s : String} : x ∈ (word s).matches' ↔ x = s.toList := by
  rw [word]
  induction s.toList generalizing x with
  | nil => exact Language.mem_one x
  | cons c cs ih =>
    rw [List.map_cons, List.foldr_cons, matches'_mul, Language.mem_mul]
    constructor
    · rintro ⟨a, ha, b, hb, rfl⟩
      rw [Set.mem_singleton_iff.1 ha, ih.1 hb]
      rfl
    · rintro rfl
      exact ⟨[c], Set.mem_singleton _, cs, ih.2 rfl, rfl⟩

theorem mem_foldr_add {l : List Pattern} :
    x ∈ (l.foldr (· + ·) 0).matches' ↔ ∃ r ∈ l, x ∈ r.matches' := by
  induction l with
  | nil => exact iff_of_false (fun h => h) fun ⟨_, h, _⟩ => by cases h
  | cons r l ih =>
    rw [List.foldr_cons, matches'_add, Language.mem_add, ih, List.exists_mem_cons_iff]

/-! ## One character -/

/-- The pattern matches the characters that satisfy `p`. -/
def MatchesChar (r : Pattern) (p : Char → Prop) : Prop :=
  ∀ x, x ∈ r.matches' ↔ ∃ c, p c ∧ x = [c]

variable {p p' : Char → Prop}

theorem MatchesChar.add (h : MatchesChar r p) (h' : MatchesChar r' p') :
    MatchesChar (r + r') fun c => p c ∨ p' c := by
  intro x
  rw [matches'_add, Language.mem_add, h x, h' x]
  constructor
  · rintro (⟨c, hc, rfl⟩ | ⟨c, hc, rfl⟩)
    · exact ⟨c, .inl hc, rfl⟩
    · exact ⟨c, .inr hc, rfl⟩
  · rintro ⟨c, hc | hc, rfl⟩
    · exact .inl ⟨c, hc, rfl⟩
    · exact .inr ⟨c, hc, rfl⟩

theorem MatchesChar.mem_mul (h : MatchesChar r p) :
    x ∈ (r * r').matches' ↔ ∃ c, p c ∧ ∃ y ∈ r'.matches', x = c :: y := by
  rw [matches'_mul, Language.mem_mul]
  constructor
  · rintro ⟨a, ha, y, hy, rfl⟩
    obtain ⟨c, hc, rfl⟩ := (h a).1 ha
    exact ⟨c, hc, y, hy, rfl⟩
  · rintro ⟨c, hc, y, hy, rfl⟩
    exact ⟨[c], (h [c]).2 ⟨c, hc, rfl⟩, y, hy, rfl⟩

theorem matchesChar_char (a : Char) : MatchesChar (char a) (· = a) := by
  intro x
  constructor
  · intro hx
    exact ⟨a, rfl, Set.mem_singleton_iff.1 hx⟩
  · rintro ⟨c, rfl, rfl⟩
    exact Set.mem_singleton _

/-- A range of characters below the surrogates. -/
theorem matchesChar_range {a b : Char} (hab : a.toNat ≤ b.toNat) (hb : b.toNat < 0xd800) :
    MatchesChar (range a b) fun c => a.toNat ≤ c.toNat ∧ c.toNat ≤ b.toNat := by
  intro x
  rw [range, mem_foldr_add]
  constructor
  · rintro ⟨r, hr, hx⟩
    obtain ⟨i, hi, rfl⟩ := List.mem_map.1 hr
    rw [List.mem_range] at hi
    have hvalid : (a.toNat + i).isValidChar := .inl (by omega)
    have htoNat : (Char.ofNat (a.toNat + i)).toNat = a.toNat + i := by
      rw [Char.ofNat, dif_pos hvalid]
      rfl
    exact ⟨_, by omega, Set.mem_singleton_iff.1 hx⟩
  · rintro ⟨c, ⟨hac, hcb⟩, rfl⟩
    refine ⟨_, List.mem_map_of_mem (List.mem_range.2 (by omega : c.toNat - a.toNat < _)), ?_⟩
    rw [Nat.add_sub_cancel' hac, Char.ofNat_toNat]
    exact Set.mem_singleton _

/-- A decimal digit from `i` to `j`. -/
def DigitIn (i j : ℕ) (c : Char) : Prop := ∃ d, i ≤ d ∧ d ≤ j ∧ c = d.digitChar

/-- A range of decimal digits. -/
theorem matchesChar_digits {i j : ℕ} (hij : i ≤ j) (hj : j < 10) :
    MatchesChar (range i.digitChar j.digitChar) (DigitIn i j) := by
  have htoNat : ∀ {d}, d < 10 → d.digitChar.toNat = 48 + d := Nat.toNat_digitChar_of_lt_ten
  have hi : i < 10 := by omega
  have hrange := matchesChar_range (a := i.digitChar) (b := j.digitChar)
    (by rw [htoNat hi, htoNat hj]; omega) (by rw [htoNat hj]; omega)
  intro x
  rw [hrange x]
  refine exists_congr fun c => and_congr_left' ?_
  rw [htoNat hi, htoNat hj]
  constructor
  · rintro ⟨hic, hcj⟩
    refine ⟨c.toNat - 48, by omega, by omega, Char.toNat_inj.1 ?_⟩
    rw [htoNat (by omega)]
    omega
  · rintro ⟨d, hid, hdj, rfl⟩
    rw [htoNat (by omega)]
    omega

theorem matchesChar_digit (d : ℕ) : MatchesChar (char d.digitChar) (DigitIn d d) := by
  intro x
  rw [matchesChar_char d.digitChar x]
  refine exists_congr fun c => and_congr_left' ?_
  constructor
  · rintro rfl
    exact ⟨d, le_rfl, le_rfl, rfl⟩
  · rintro ⟨e, hde, hed, rfl⟩
    rw [Nat.le_antisymm hed hde]

theorem MatchesChar.times (h : MatchesChar r p) {n : ℕ} :
    x ∈ (times n r).matches' ↔ x.length = n ∧ ∀ c ∈ x, p c := by
  rw [mem_times]
  constructor
  · rintro ⟨L, rfl, rfl, hmem⟩
    induction L with
    | nil => exact ⟨rfl, fun _ h => by cases h⟩
    | cons y L ih =>
      obtain ⟨hy, hL⟩ := List.forall_mem_cons.1 hmem
      obtain ⟨c, hc, rfl⟩ := (h y).1 hy
      obtain ⟨hlength, hp⟩ := ih hL
      exact ⟨congrArg (· + 1) hlength, List.forall_mem_cons.2 ⟨hc, hp⟩⟩
  · rintro ⟨rfl, hp⟩
    refine ⟨x.map ([·]), List.length_map _, (List.flatMap_singleton' x).symm, ?_⟩
    intro y hy
    obtain ⟨c, hc, rfl⟩ := List.mem_map.1 hy
    exact (h [c]).2 ⟨c, hp c hc, rfl⟩

/-- At most `k` characters. -/
theorem MatchesChar.upTo (h : MatchesChar r p) {k : ℕ} :
    x ∈ ((List.replicate k r).foldr (fun r acc => opt (r * acc)) 1).matches' ↔
      x.length ≤ k ∧ ∀ c ∈ x, p c := by
  rw [mem_upTo]
  constructor
  · rintro ⟨n, hn, hx⟩
    obtain ⟨rfl, hp⟩ := h.times.1 hx
    exact ⟨hn, hp⟩
  · rintro ⟨hlength, hp⟩
    exact ⟨x.length, hlength, h.times.2 ⟨rfl, hp⟩⟩

theorem MatchesChar.between (h : MatchesChar r p) {m k : ℕ} :
    x ∈ (between m k r).matches' ↔ m ≤ x.length ∧ x.length ≤ m + k ∧ ∀ c ∈ x, p c := by
  rw [Text.between, matches'_mul, Language.mem_mul]
  constructor
  · rintro ⟨a, ha, b, hb, rfl⟩
    obtain ⟨rfl, ha'⟩ := h.times.1 ha
    obtain ⟨hlength, hb⟩ := h.upTo.1 hb
    rw [List.length_append]
    exact ⟨by omega, by omega, List.forall_mem_append.2 ⟨ha', hb⟩⟩
  · rintro ⟨hm, hk, hp⟩
    refine ⟨x.take m, h.times.2 ⟨?_, ?_⟩, x.drop m, h.upTo.2 ⟨?_, ?_⟩, List.take_append_drop m x⟩
    · rw [List.length_take, Nat.min_eq_left hm]
    · exact fun c hc => hp c (List.mem_of_mem_take hc)
    · rw [List.length_drop]
      omega
    · exact fun c hc => hp c (List.mem_of_mem_drop hc)

/-- At least one character. -/
theorem MatchesChar.many1 (h : MatchesChar r p) :
    x ∈ (many1 r).matches' ↔ x ≠ [] ∧ ∀ c ∈ x, p c := by
  rw [Text.many1, matches'_mul, matches'_star, Language.mem_mul]
  constructor
  · rintro ⟨a, ha, b, hb, rfl⟩
    obtain ⟨c, hc, rfl⟩ := (h a).1 ha
    obtain ⟨L, rfl, hL⟩ := Language.mem_kstar.1 hb
    have hflatten := (h.times.1 (mem_times.2 ⟨L, rfl, rfl, hL⟩)).2
    exact ⟨List.cons_ne_nil _ _, List.forall_mem_cons.2 ⟨hc, hflatten⟩⟩
  · rintro ⟨hne, hp⟩
    obtain ⟨c, cs, rfl⟩ := List.exists_cons_of_ne_nil hne
    obtain ⟨hc, hcs⟩ := List.forall_mem_cons.1 hp
    obtain ⟨L, -, hL, hmem⟩ := mem_times.1 (h.times.2 ⟨rfl, hcs⟩)
    exact ⟨[c], (h [c]).2 ⟨c, hc, rfl⟩, cs, Language.mem_kstar.2 ⟨L, hL, hmem⟩, rfl⟩

/-! ## Numbers -/

/-- The pattern matches the decimal numerals of the numbers that satisfy `p`. -/
def MatchesNumber (r : Pattern) (p : ℕ → Prop) : Prop :=
  ∀ x, x ∈ r.matches' ↔ ∃ n, p n ∧ x = (toString n).toList

variable {q q' : ℕ → Prop}

theorem MatchesNumber.add (h : MatchesNumber r q) (h' : MatchesNumber r' q') :
    MatchesNumber (r + r') fun n => q n ∨ q' n := by
  intro x
  rw [matches'_add, Language.mem_add, h x, h' x]
  constructor
  · rintro (⟨n, hn, rfl⟩ | ⟨n, hn, rfl⟩)
    · exact ⟨n, .inl hn, rfl⟩
    · exact ⟨n, .inr hn, rfl⟩
  · rintro ⟨n, hn | hn, rfl⟩
    · exact .inl ⟨n, hn, rfl⟩
    · exact .inr ⟨n, hn, rfl⟩

theorem MatchesChar.matchesNumber {i j : ℕ} (h : MatchesChar r (DigitIn i j)) (hj : j < 10) :
    MatchesNumber r fun n => i ≤ n ∧ n ≤ j := by
  intro x
  rw [h x]
  constructor
  · rintro ⟨_, ⟨d, hid, hdj, rfl⟩, rfl⟩
    exact ⟨d, ⟨hid, hdj⟩, (toList_toString_of_lt_ten (by omega)).symm⟩
  · rintro ⟨n, ⟨hin, hnj⟩, rfl⟩
    exact ⟨n.digitChar, ⟨n, hin, hnj, rfl⟩, toList_toString_of_lt_ten (by omega)⟩

/-- One more digit. -/
theorem MatchesNumber.mul {i j : ℕ} (h : MatchesNumber r q) (hq : ∀ n, q n → 0 < n)
    (h' : MatchesChar r' (DigitIn i j)) (hj : j < 10) :
    MatchesNumber (r * r') fun n => q (n / 10) ∧ i ≤ n % 10 ∧ n % 10 ≤ j := by
  intro x
  rw [matches'_mul, Language.mem_mul]
  constructor
  · rintro ⟨y, hy, z, hz, rfl⟩
    obtain ⟨n, hn, rfl⟩ := (h y).1 hy
    obtain ⟨_, ⟨d, hid, hdj, rfl⟩, rfl⟩ := (h' z).1 hz
    have hdiv : (10 * n + d) / 10 = n := by omega
    have hmod : (10 * n + d) % 10 = d := by omega
    refine ⟨10 * n + d, ⟨by rwa [hdiv], by rwa [hmod], by rwa [hmod]⟩, ?_⟩
    exact (toList_toString_append (hq n hn) (by omega)).symm
  · rintro ⟨n, ⟨hn, hi, hj'⟩, rfl⟩
    refine ⟨_, (h _).2 ⟨n / 10, hn, rfl⟩, _, (h' _).2 ⟨_, ⟨n % 10, hi, hj', rfl⟩, rfl⟩, ?_⟩
    rw [← toList_toString_append (hq _ hn) (Nat.mod_lt n (by decide)), Nat.div_add_mod]

/-! ## Separators -/

variable {sep : Char}

/-- Texts that are each followed by the separator, and texts joined by it. -/
theorem flatten_append_intercalate (xs : List (List Char)) {ys : List (List Char)}
    (hys : ys ≠ []) :
    (xs.map (· ++ [sep])).flatten ++ [sep].intercalate ys = [sep].intercalate (xs ++ ys) := by
  induction xs with
  | nil => rfl
  | cons x xs ih =>
    rw [List.map_cons, List.flatten_cons, List.append_assoc, ih, List.cons_append,
      List.intercalate_cons_of_ne_nil (List.append_ne_nil_of_right_ne_nil xs hys)]

/-- A text, and texts that each follow the separator. -/
theorem append_flatten_eq_intercalate (x : List Char) (xs : List (List Char)) :
    x ++ (xs.map (sep :: ·)).flatten = [sep].intercalate (x :: xs) := by
  induction xs generalizing x with
  | nil => exact (List.append_nil x).trans List.intercalate_singleton.symm
  | cons y xs ih =>
    rw [List.intercalate_cons_cons, ← ih y, List.map_cons, List.flatten_cons]
    simp

theorem intercalate_append {xs ys : List (List Char)} (hxs : xs ≠ []) (hys : ys ≠ []) :
    [sep].intercalate (xs ++ ys) = [sep].intercalate xs ++ sep :: [sep].intercalate ys := by
  rcases List.eq_nil_or_concat' xs with rfl | ⟨xs, x, rfl⟩
  · exact absurd rfl hxs
  · have hne : [x] ++ ys ≠ [] := List.append_ne_nil_of_left_ne_nil (List.cons_ne_nil x []) ys
    rw [← flatten_append_intercalate xs (List.cons_ne_nil x []), List.append_assoc,
      ← flatten_append_intercalate xs hne,
      List.cons_append, List.nil_append, List.intercalate_cons_of_ne_nil hys,
      List.intercalate_singleton]
    simp

theorem mem_intercalate {c : Char} {xs : List (List Char)} (h : c ∈ [sep].intercalate xs) :
    c = sep ∨ ∃ x ∈ xs, c ∈ x := by
  induction xs with
  | nil => cases h
  | cons x xs ih =>
    rcases xs with _ | ⟨y, ys⟩
    · rw [List.intercalate_singleton] at h
      exact .inr ⟨x, List.mem_cons_self, h⟩
    · rw [List.intercalate_cons_cons, List.append_assoc, List.mem_append, List.mem_append] at h
      rcases h with h | h | h
      · exact .inr ⟨x, List.mem_cons_self, h⟩
      · exact .inl (List.mem_singleton.1 h)
      · exact (ih h).imp_right fun ⟨z, hz, hc⟩ => ⟨z, List.mem_cons_of_mem x hz, hc⟩

/-- Texts that are images. -/
theorem exists_map_of_forall {α : Type} {p : α → Prop} {q : List Char → Prop}
    {f : α → List Char} (h : ∀ y, q y ↔ ∃ x, p x ∧ y = f x) {L : List (List Char)} :
    (∀ y ∈ L, q y) ↔ ∃ xs : List α, L = xs.map f ∧ ∀ x ∈ xs, p x := by
  constructor
  · intro hL
    induction L with
    | nil => exact ⟨[], rfl, fun _ h => by cases h⟩
    | cons y L ih =>
      obtain ⟨hy, hys⟩ := List.forall_mem_cons.1 hL
      obtain ⟨x, hx, rfl⟩ := (h y).1 hy
      obtain ⟨xs, rfl, hxs⟩ := ih hys
      exact ⟨x :: xs, rfl, List.forall_mem_cons.2 ⟨hx, hxs⟩⟩
  · rintro ⟨xs, rfl, hxs⟩ y hy
    obtain ⟨x, hx, rfl⟩ := List.mem_map.1 hy
    exact (h _).2 ⟨x, hxs x hx, rfl⟩

theorem mem_mul_char {y : List Char} :
    y ∈ (r * char sep).matches' ↔ ∃ x ∈ r.matches', y = x ++ [sep] := by
  rw [matches'_mul, Language.mem_mul]
  constructor
  · rintro ⟨x, hx, b, hb, rfl⟩
    exact ⟨x, hx, congrArg (x ++ ·) (Set.mem_singleton_iff.1 hb)⟩
  · rintro ⟨x, hx, rfl⟩
    exact ⟨x, hx, [sep], Set.mem_singleton _, rfl⟩

theorem mem_char_mul {y : List Char} :
    y ∈ (char sep * r).matches' ↔ ∃ x ∈ r.matches', y = sep :: x := by
  rw [matches'_mul, Language.mem_mul]
  constructor
  · rintro ⟨a, ha, x, hx, rfl⟩
    exact ⟨x, hx, congrArg (· ++ x) (Set.mem_singleton_iff.1 ha)⟩
  · rintro ⟨x, hx, rfl⟩
    exact ⟨[sep], Set.mem_singleton _, x, hx, rfl⟩

theorem mem_star_mul_char : x ∈ (star (r * char sep)).matches' ↔
    ∃ xs : List (List Char), (∀ y ∈ xs, y ∈ r.matches') ∧ x = (xs.map (· ++ [sep])).flatten := by
  rw [matches'_star, Language.mem_kstar]
  constructor
  · rintro ⟨L, rfl, hL⟩
    obtain ⟨xs, rfl, hxs⟩ := (exists_map_of_forall fun _ => mem_mul_char).1 hL
    exact ⟨xs, hxs, rfl⟩
  · rintro ⟨xs, hxs, rfl⟩
    exact ⟨_, rfl, (exists_map_of_forall fun _ => mem_mul_char).2 ⟨xs, rfl, hxs⟩⟩

/-- Texts joined by the separator, at least one. -/
theorem mem_mul_star_char_mul : x ∈ (r * star (char sep * r)).matches' ↔
    ∃ xs : List (List Char), xs ≠ [] ∧ (∀ y ∈ xs, y ∈ r.matches') ∧ x = [sep].intercalate xs := by
  rw [matches'_mul, matches'_star, Language.mem_mul]
  constructor
  · rintro ⟨a, ha, b, hb, rfl⟩
    obtain ⟨L, rfl, hL⟩ := Language.mem_kstar.1 hb
    obtain ⟨xs, rfl, hxs⟩ := (exists_map_of_forall fun _ => mem_char_mul).1 hL
    exact ⟨a :: xs, List.cons_ne_nil _ _, List.forall_mem_cons.2 ⟨ha, hxs⟩,
      append_flatten_eq_intercalate a xs⟩
  · rintro ⟨xs, hne, hxs, rfl⟩
    obtain ⟨a, xs, rfl⟩ := List.exists_cons_of_ne_nil hne
    obtain ⟨ha, hxs⟩ := List.forall_mem_cons.1 hxs
    refine ⟨a, ha, _, Language.mem_kstar.2 ⟨_, rfl, ?_⟩, append_flatten_eq_intercalate a xs⟩
    exact (exists_map_of_forall fun _ => mem_char_mul).2 ⟨xs, rfl, hxs⟩

/-- A number of texts joined by the separator. -/
theorem mem_times_mul_char_mul {n : ℕ} : x ∈ (times n (r * char sep) * r).matches' ↔
    ∃ xs : List (List Char), xs.length = n + 1 ∧ (∀ y ∈ xs, y ∈ r.matches') ∧
      x = [sep].intercalate xs := by
  rw [matches'_mul, Language.mem_mul]
  constructor
  · rintro ⟨a, ha, b, hb, rfl⟩
    obtain ⟨L, rfl, rfl, hL⟩ := mem_times.1 ha
    obtain ⟨xs, rfl, hxs⟩ := (exists_map_of_forall fun _ => mem_mul_char).1 hL
    refine ⟨xs ++ [b], ?_, List.forall_mem_append.2 ⟨hxs, List.forall_mem_singleton.2 hb⟩, ?_⟩
    · rw [List.length_append, List.length_map, List.length_singleton]
    · rw [← flatten_append_intercalate xs (List.cons_ne_nil b []), List.intercalate_singleton]
  · rintro ⟨xs, hlength, hxs, rfl⟩
    rcases List.eq_nil_or_concat' xs with rfl | ⟨xs, b, rfl⟩
    · cases hlength
    obtain ⟨hxs, hb⟩ := List.forall_mem_append.1 hxs
    refine ⟨_, mem_times.2 ⟨xs.map (· ++ [sep]), ?_, rfl, ?_⟩, b, hb b List.mem_cons_self, ?_⟩
    · rw [List.length_append, List.length_singleton] at hlength
      rw [List.length_map]
      exact Nat.succ_inj.1 hlength
    · exact (exists_map_of_forall fun _ => mem_mul_char).2 ⟨xs, rfl, hxs⟩
    · rw [← flatten_append_intercalate xs (List.cons_ne_nil b []), List.intercalate_singleton]

/-- From `m` to `m + k` texts that are each followed by the separator, and a last one. -/
theorem mem_between_mul_char_mul {m k : ℕ} :
    x ∈ (between m k (r * char sep) * r').matches' ↔
      ∃ (xs : List (List Char)) (y : List Char), m ≤ xs.length ∧ xs.length ≤ m + k ∧
        (∀ z ∈ xs, z ∈ r.matches') ∧ y ∈ r'.matches' ∧ x = [sep].intercalate (xs ++ [y]) := by
  rw [matches'_mul, Language.mem_mul]
  constructor
  · rintro ⟨a, ha, y, hy, rfl⟩
    obtain ⟨L, hm, hk, rfl, hL⟩ := mem_between.1 ha
    obtain ⟨xs, rfl, hxs⟩ := (exists_map_of_forall fun _ => mem_mul_char).1 hL
    rw [List.length_map] at hm hk
    refine ⟨xs, y, hm, hk, hxs, hy, ?_⟩
    rw [← flatten_append_intercalate xs (List.cons_ne_nil y []), List.intercalate_singleton]
  · rintro ⟨xs, y, hm, hk, hxs, hy, rfl⟩
    refine ⟨_, mem_between.2 ⟨xs.map (· ++ [sep]), ?_, ?_, rfl, ?_⟩, y, hy, ?_⟩
    · rwa [List.length_map]
    · rwa [List.length_map]
    · exact (exists_map_of_forall fun _ => mem_mul_char).2 ⟨xs, rfl, hxs⟩
    · rw [← flatten_append_intercalate xs (List.cons_ne_nil y []), List.intercalate_singleton]

end PhineAf.Text

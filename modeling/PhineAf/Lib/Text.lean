import Mathlib.Algebra.Order.Ring.Int
import Mathlib.Computability.RegularExpressions

/-!
# Texts

Regular expressions over characters in the notation of a scanner (character
ranges, options, bounded repetition), matched against a whole text, the search for
a text in another, and the decimal prefix of a text as a C library reads it.
-/

namespace PhineAf.Text

open RegularExpression

/-! ## Patterns -/

/-- A regular expression over characters. -/
abbrev Pattern := RegularExpression Char

/-- The characters from `a` to `b`. -/
def range (a b : Char) : Pattern :=
  ((List.range (b.toNat - a.toNat + 1)).map fun i => char (Char.ofNat (a.toNat + i))).foldr (· + ·) 0

/-- A decimal digit. -/
def digit : Pattern := range '0' '9'

/-- A hexadecimal digit. -/
def hexDigit : Pattern := digit + range 'a' 'f' + range 'A' 'F'

/-- An optional `r`. -/
def opt (r : Pattern) : Pattern := 1 + r

/-- `n` times `r`. -/
def times (n : ℕ) (r : Pattern) : Pattern := (List.replicate n r).foldr (· * ·) 1

/-- From `m` to `m + k` times `r`. -/
def between (m k : ℕ) (r : Pattern) : Pattern :=
  times m r * (List.replicate k r).foldr (fun r acc => opt (r * acc)) 1

/-- One or more times `r`. -/
def many1 (r : Pattern) : Pattern := r * star r

/-- The characters of `s`, one after the other. -/
def word (s : String) : Pattern := (s.toList.map char).foldr (· * ·) 1

/-- One of some words. -/
def oneOf (l : List String) : Pattern := (l.map word).foldr (· + ·) 0

/-- The whole of `s` matches `r`. -/
def fullMatch (r : Pattern) (s : String) : Bool := r.rmatch s.toList

/-! ## Search -/

/-- What follows the first occurrence of `pattern`. -/
def afterFirst (pattern : List Char) : List Char → Option (List Char)
  | [] => if pattern.isEmpty then some [] else none
  | c :: cs =>
    if pattern.isPrefixOf (c :: cs) then some ((c :: cs).drop pattern.length)
    else afterFirst pattern cs

/-- The occurrence that is found comes first. -/
theorem afterFirst_eq_some_iff {pattern cs t : List Char} :
    afterFirst pattern cs = some t ↔ ∃ s, cs = s ++ pattern ++ t ∧
      ∀ a b, cs = a ++ pattern ++ b → s.length ≤ a.length := by
  induction cs with
  | nil =>
    rw [afterFirst]
    rcases pattern with _ | ⟨p, ps⟩
    · simp [eq_comm]
    · simp
  | cons c cs ih =>
    rw [afterFirst]
    split
    next hprefix =>
      obtain ⟨t', ht'⟩ := List.isPrefixOf_iff_prefix.1 hprefix
      rw [← ht', List.drop_left, Option.some.injEq]
      constructor
      · rintro rfl
        exact ⟨[], rfl, fun a b _ => Nat.zero_le _⟩
      · rintro ⟨s, hs, hfirst⟩
        obtain rfl : s = [] := List.length_eq_zero_iff.1 (Nat.le_zero.1 (hfirst [] t' rfl))
        exact List.append_cancel_left hs
    next hprefix =>
      rw [ih]
      constructor
      · rintro ⟨s, rfl, hfirst⟩
        refine ⟨c :: s, rfl, fun a b hab => ?_⟩
        rcases a with _ | ⟨a, as⟩
        · exact absurd (List.isPrefixOf_iff_prefix.2 ⟨b, hab.symm⟩) hprefix
        · exact Nat.succ_le_succ (hfirst as b (List.cons.inj hab).2)
      · rintro ⟨s, hs, hfirst⟩
        rcases s with _ | ⟨s, ss⟩
        · exact absurd (List.isPrefixOf_iff_prefix.2 ⟨t, hs.symm⟩) hprefix
        · refine ⟨ss, (List.cons.inj hs).2, fun a b hab => ?_⟩
          exact Nat.le_of_succ_le_succ (hfirst (c :: a) b (by rw [hab]; rfl))

/-- A pattern that begins and ends with a character that is nowhere else in it, after a
    text without the pattern's beginning: no occurrence starts in this text. -/
theorem length_le_of_occurrence {c : Char} {m s t a b : List Char} (hc : c ∉ m)
    (hs : ¬(c :: m) <:+: s)
    (h : s ++ (c :: m ++ [c]) ++ t = a ++ (c :: m ++ [c]) ++ b) : s.length ≤ a.length := by
  rw [List.append_assoc s, List.append_assoc a] at h
  rcases List.append_eq_append_iff.1 h with ⟨as, rfl, -⟩ | ⟨_ | ⟨x, cs⟩, rfl, hcs⟩
  · simp
  · simp
  · -- The occurrence starts in `s`, after `a`, and goes on beyond its beginning in `s`.
    simp only [List.cons_append, List.append_assoc, List.cons.injEq] at hcs
    obtain ⟨rfl, hcs⟩ := hcs
    rcases List.append_eq_append_iff.1 hcs with ⟨as, rfl, -⟩ | ⟨_ | ⟨y, ds⟩, hm, hds⟩
    · exact absurd ⟨a, as, by simp⟩ hs
    · refine absurd ⟨a, [], ?_⟩ hs
      rw [hm]
      simp
    · refine absurd ?_ hc
      rw [hm, (List.cons.inj hds).1]
      simp

/-- Lists with the same first occurrence of an element. -/
theorem append_cons_inj_left {α : Type} {a : α} {xs ys us vs : List α} (hxs : a ∉ xs)
    (hys : a ∉ ys) (h : xs ++ a :: us = ys ++ a :: vs) : xs = ys ∧ us = vs := by
  induction xs generalizing ys with
  | nil =>
    rcases ys with _ | ⟨y, ys⟩
    · exact ⟨rfl, (List.cons.inj h).2⟩
    · exact absurd List.mem_cons_self ((List.cons.inj h).1 ▸ hys)
  | cons x xs ih =>
    obtain ⟨hx, hxs⟩ := not_or.1 (mt List.mem_cons.2 hxs)
    rcases ys with _ | ⟨y, ys⟩
    · exact absurd (List.cons.inj h).1.symm hx
    · obtain ⟨rfl, htail⟩ := List.cons.inj h
      obtain ⟨rfl, rfl⟩ := ih hxs (fun hmem => hys (List.mem_cons_of_mem _ hmem)) htail
      exact ⟨rfl, rfl⟩

/-- What comes before the first occurrence of `pattern`. -/
def beforeFirst (pattern : List Char) : List Char → Option (List Char)
  | [] => if pattern.isEmpty then some [] else none
  | c :: cs =>
    if pattern.isPrefixOf (c :: cs) then some [] else (beforeFirst pattern cs).map (c :: ·)

/-- An occurrence does not start in characters other than the first of the pattern. -/
theorem beforeFirst_append {p : Char} {ps cs : List Char} (rest : List Char) (h : p ∉ cs) :
    beforeFirst (p :: ps) (cs ++ rest) = (beforeFirst (p :: ps) rest).map (cs ++ ·) := by
  induction cs with
  | nil => simp
  | cons c cs ih =>
    have hne : (p == c) = false := beq_false_of_ne fun heq => h (heq ▸ List.mem_cons_self)
    rw [List.cons_append, beforeFirst, List.isPrefixOf, hne, Bool.false_and,
      if_neg Bool.false_ne_true, ih fun hmem => h (List.mem_cons_of_mem _ hmem), Option.map_map]
    rfl

/-! ## Numbers -/

/-- The white space skipped before a number. -/
def isSpace (c : Char) : Bool := c ∈ [' ', '\t', '\n', '\x0b', '\x0c', '\r']

/-- The value of a list of decimal digits. -/
def digitsValue (ds : List Char) : ℕ := ds.foldl (fun n d => 10 * n + (d.toNat - '0'.toNat)) 0

/-- Writing a number and reading its digits. -/
theorem digitsValue_toString (n : ℕ) : digitsValue (toString n).toList = n := by
  rw [Nat.toString_eq_repr, Nat.toList_repr]
  exact Nat.ofDigitChars_ten_toDigits

/-- A decimal numeral of one digit, and of more. -/
theorem toList_toString_of_lt_ten {n : ℕ} (h : n < 10) : (toString n).toList = [n.digitChar] := by
  rw [Nat.toString_eq_repr, Nat.toList_repr, Nat.toDigits_of_lt_base h]

theorem toList_toString_append {n d : ℕ} (hn : 0 < n) (hd : d < 10) :
    (toString (10 * n + d)).toList = (toString n).toList ++ [d.digitChar] := by
  rw [Nat.toString_eq_repr, Nat.toString_eq_repr, Nat.toList_repr, Nat.toList_repr,
    ← Nat.toDigits_append_toDigits (by decide) hn hd, Nat.toDigits_of_lt_base hd]

theorem digitsValue_append (ds : List Char) (d : Char) :
    digitsValue (ds ++ [d]) = 10 * digitsValue ds + (d.toNat - '0'.toNat) := by
  rw [digitsValue, List.foldl_append]
  rfl

/-- The last `w` digits of a number, with zeros in front. -/
def padded : ℕ → ℕ → List Char
  | 0, _ => []
  | w + 1, n => padded w (n / 10) ++ [Nat.digitChar (n % 10)]

theorem length_padded (w n : ℕ) : (padded w n).length = w := by
  induction w generalizing n with
  | zero => rfl
  | succ w ih => rw [padded, List.length_append, ih, List.length_singleton]

theorem digitsValue_padded (w n : ℕ) : digitsValue (padded w n) = n % 10 ^ w := by
  induction w generalizing n with
  | zero => exact (Nat.mod_one n).symm
  | succ w ih =>
    have hdigit : ∀ d, d < 10 → (Nat.digitChar d).toNat - '0'.toNat = d := by decide
    rw [padded, digitsValue_append, ih, hdigit _ (Nat.mod_lt n (by decide)), pow_succ', add_comm,
      Nat.mod_mul]

theorem isDigit_of_mem_padded {w n : ℕ} {c : Char} (h : c ∈ padded w n) : c.isDigit = true := by
  induction w generalizing n with
  | zero => cases h
  | succ w ih =>
    have hdigit : ∀ d, d < 10 → (Nat.digitChar d).isDigit = true := by decide
    rcases List.mem_append.1 h with h | h
    · exact ih h
    · rw [List.mem_singleton.1 h]
      exact hdigit _ (Nat.mod_lt n (by decide))

theorem toString_injective : Function.Injective (toString : ℕ → String) := by
  intro m n h
  rw [← digitsValue_toString m, h, digitsValue_toString]

theorem isDigit_of_mem_toString {n : ℕ} {c : Char} (h : c ∈ (toString n).toList) :
    c.isDigit := by
  rw [Nat.toString_eq_repr, Nat.toList_repr] at h
  exact Nat.isDigit_of_mem_toDigits (by decide) (by decide) h

theorem toString_ne_empty (n : ℕ) : toString n ≠ "" := by
  rw [Nat.toString_eq_repr]
  exact Nat.repr_ne_empty

/-- The number a text starts with, after white space and an optional sign:
    what follows the digits is ignored. There is none without a digit, nor if
    the number does not fit in 32 bits. -/
def stoi (s : String) : Option ℤ :=
  let cs := s.toList.dropWhile isSpace
  let (neg, cs) := match cs with
    | '-' :: cs => (true, cs)
    | '+' :: cs => (false, cs)
    | cs => (false, cs)
  let ds := cs.takeWhile Char.isDigit
  let n : ℤ := if neg then -(digitsValue ds : ℤ) else digitsValue ds
  if ds.isEmpty || n < -2 ^ 31 || 2 ^ 31 ≤ n then none else some n

theorem isSpace_of_isDigit {c : Char} (h : c.isDigit = true) : isSpace c = false := by
  rw [isSpace, decide_eq_false_iff_not]
  intro hmem
  simp only [List.mem_cons, List.not_mem_nil, or_false] at hmem
  rcases hmem with rfl | rfl | rfl | rfl | rfl | rfl <;> exact absurd h (by decide)

/-- Digits that are followed by something else than a digit. -/
theorem stoi_append {ds : List Char} {rest : String} (hne : ds ≠ [])
    (hdigits : ∀ c ∈ ds, c.isDigit = true)
    (hrest : ∀ c cs, rest.toList = c :: cs → c.isDigit = false) :
    stoi (String.ofList ds ++ rest) =
      if digitsValue ds < 2 ^ 31 then some (digitsValue ds : ℤ) else none := by
  obtain ⟨d, ds, rfl⟩ := List.exists_cons_of_ne_nil hne
  have hd : d.isDigit = true := hdigits d List.mem_cons_self
  -- The digits are what is taken of the text: it starts with one, and ends after the last.
  have hdrop : (String.ofList (d :: ds) ++ rest).toList.dropWhile isSpace =
      d :: (ds ++ rest.toList) := by
    rw [String.toList_append, String.toList_ofList, List.cons_append,
      List.dropWhile_cons_of_neg (by rw [isSpace_of_isDigit hd]; decide)]
  have htake : (d :: (ds ++ rest.toList)).takeWhile Char.isDigit = d :: ds := by
    rw [← List.cons_append, List.takeWhile_append_of_pos hdigits]
    rcases hrest' : rest.toList with _ | ⟨c, cs⟩
    · simp
    · rw [List.takeWhile_cons_of_neg (by rw [hrest c cs hrest']; decide), List.append_nil]
  have hsign : d ≠ '-' ∧ d ≠ '+' := by
    constructor <;> (rintro rfl; exact absurd hd (by decide))
  rw [stoi, hdrop]
  dsimp only
  split
  next hcons => exact absurd (List.cons.inj hcons).1 hsign.1
  next hcons => exact absurd (List.cons.inj hcons).1 hsign.2
  next =>
    simp only [htake, List.isEmpty_cons, Bool.false_or, if_neg Bool.false_ne_true,
      Bool.or_eq_true, decide_eq_true_eq]
    by_cases hn : digitsValue (d :: ds) < 2 ^ 31
    · rw [if_neg (by omega), if_pos hn]
    · rw [if_pos (by omega), if_neg hn]

/-- A number that is followed by something else than a digit. -/
theorem stoi_toString_append (n : ℕ) {rest : String}
    (hrest : ∀ c cs, rest.toList = c :: cs → c.isDigit = false) :
    stoi (toString n ++ rest) = if n < 2 ^ 31 then some (n : ℤ) else none := by
  have hne : (toString n).toList ≠ [] := fun hnil =>
    toString_ne_empty n (String.toList_eq_nil_iff.1 hnil)
  have hstoi := stoi_append hne (fun c => isDigit_of_mem_toString) hrest
  rwa [String.ofList_toList, digitsValue_toString] at hstoi

end PhineAf.Text

import Mathlib.Algebra.Order.Ring.Int
import Mathlib.Data.List.Basic

/-!
# Percent-encoding

Bytes written as `%` and two hexadecimal digits. `pctDecode` reads every escape once, and
fails on one that is malformed. Texts without a `%` are read as they are, and only these:
`pctDecode_eq_self_iff`.
-/

namespace PhineAf

/-- Texts as bytes. -/
abbrev Bytes := List UInt8

/-- The bytes of an ASCII text. -/
def ascii (s : String) : Bytes := s.toList.map fun c => UInt8.ofNat c.toNat

namespace Percent

def percent : UInt8 := 37
def slash : UInt8 := 47

/-! ## Digits -/

/-- The value of a hexadecimal digit. -/
def hexValue (b : UInt8) : Option ℕ :=
  if 48 ≤ b.toNat ∧ b.toNat ≤ 57 then some (b.toNat - 48)
  else if 65 ≤ b.toNat ∧ b.toNat ≤ 70 then some (b.toNat - 55)
  else if 97 ≤ b.toNat ∧ b.toNat ≤ 102 then some (b.toNat - 87)
  else none

/-- The digit of a value below 16. -/
def hexDigit (n : ℕ) : UInt8 := UInt8.ofNat (if n < 10 then 48 + n else 55 + n)

theorem hexValue_hexDigit {n : ℕ} (h : n < 16) : hexValue (hexDigit n) = some n := by
  decide +revert

/-! ## Decoding -/

/-- Every escape is replaced by its byte. There is no result if one is malformed. -/
def pctDecode : Bytes → Option Bytes
  | [] => some []
  | 37 :: h :: l :: rest =>
    match hexValue h, hexValue l with
    | some h, some l => (pctDecode rest).map (UInt8.ofNat (16 * h + l) :: ·)
    | _, _ => none
  | 37 :: _ => none
  | b :: rest => (pctDecode rest).map (b :: ·)

theorem pctDecode_cons_of_ne {b : UInt8} (hb : b ≠ percent) (rest : Bytes) :
    pctDecode (b :: rest) = (pctDecode rest).map (b :: ·) := by
  rw [pctDecode]
  · rintro h l rest' rfl
    exact fun _ => hb rfl
  · rintro rfl
    exact hb rfl

/-- An escape that is read. -/
theorem pctDecode_escape_eq_some {h l : UInt8} {rest s : Bytes} :
    pctDecode (percent :: h :: l :: rest) = some s ↔ ∃ hv lv s', hexValue h = some hv ∧
      hexValue l = some lv ∧ pctDecode rest = some s' ∧ s = UInt8.ofNat (16 * hv + lv) :: s' := by
  rw [percent, pctDecode]
  split
  next hv lv hh hl => simp [hh, hl, eq_comm]
  next hnone =>
    refine iff_of_false (by simp) ?_
    rintro ⟨hv, lv, s', hh, hl, -⟩
    exact hnone hv lv hh hl

/-- What a text is read as: the steps of `pctDecode`. -/
inductive Decodes : Bytes → Bytes → Prop
  | nil : Decodes [] []
  | byte {b : UInt8} {a a' : Bytes} : b ≠ percent → Decodes a a' → Decodes (b :: a) (b :: a')
  | escape {d e : UInt8} {dv ev : ℕ} {a a' : Bytes} : hexValue d = some dv →
      hexValue e = some ev → Decodes a a' →
      Decodes (percent :: d :: e :: a) (UInt8.ofNat (16 * dv + ev) :: a')

theorem pctDecode_eq_some_iff {a a' : Bytes} : pctDecode a = some a' ↔ Decodes a a' := by
  constructor
  · intro h
    induction a using pctDecode.induct generalizing a' with
    | case1 =>
      cases h
      exact .nil
    | case2 d e rest dv ev he hd ih =>
      obtain ⟨dv', ev', rest', hd', he', hrest, rfl⟩ := pctDecode_escape_eq_some.1 h
      exact .escape hd' he' (ih hrest)
    | case3 d e rest hnone =>
      obtain ⟨dv, ev, rest', hd, he, -⟩ := pctDecode_escape_eq_some.1 h
      exact (hnone dv ev hd he).elim
    | case4 rest hshort =>
      -- There are no two digits.
      rw [pctDecode] at h
      · cases h
      · exact hshort
    | case5 b rest _ hb ih =>
      rw [pctDecode_cons_of_ne hb] at h
      obtain ⟨rest', hrest, rfl⟩ := Option.map_eq_some_iff.1 h
      exact .byte hb (ih hrest)
  · intro h
    induction h with
    | nil => rfl
    | byte hb _ ih => rw [pctDecode_cons_of_ne hb, ih, Option.map_some]
    | escape hd he _ ih => exact pctDecode_escape_eq_some.2 ⟨_, _, _, hd, he, ih, rfl⟩

theorem decodes_cons_iff {b : UInt8} {a c : Bytes} (hb : b ≠ percent) :
    Decodes (b :: a) c ↔ ∃ a', Decodes a a' ∧ c = b :: a' := by
  simp only [← pctDecode_eq_some_iff, pctDecode_cons_of_ne hb, Option.map_eq_some_iff,
    eq_comm (a := c)]

theorem decodes_escape_iff {d e : UInt8} {a c : Bytes} :
    Decodes (percent :: d :: e :: a) c ↔ ∃ dv ev a', hexValue d = some dv ∧
      hexValue e = some ev ∧ Decodes a a' ∧ c = UInt8.ofNat (16 * dv + ev) :: a' := by
  simp only [← pctDecode_eq_some_iff, pctDecode_escape_eq_some]

/-- Texts are read one after the other. -/
theorem Decodes.append {a a' b b' : Bytes} (h : Decodes a a') (hb : Decodes b b') :
    Decodes (a ++ b) (a' ++ b') := by
  induction h with
  | nil => exact hb
  | byte hne _ ih => exact .byte hne ih
  | escape hd he _ ih => exact .escape hd he ih

/-- What is read after a text. -/
theorem Decodes.of_append {a a' b c : Bytes} (h : Decodes a a') (hc : Decodes (a ++ b) c) :
    ∃ b', Decodes b b' ∧ c = a' ++ b' := by
  induction h generalizing c with
  | nil => exact ⟨c, hc, rfl⟩
  | byte hne _ ih =>
    obtain ⟨c', hrest, rfl⟩ := (decodes_cons_iff hne).1 hc
    obtain ⟨b', hb, rfl⟩ := ih hrest
    exact ⟨b', hb, rfl⟩
  | escape hd he _ ih =>
    obtain ⟨dv, ev, c', hd', he', hrest, rfl⟩ := decodes_escape_iff.1 hc
    obtain ⟨b', hb, rfl⟩ := ih hrest
    rw [hd, Option.some.injEq] at hd'
    rw [he, Option.some.injEq] at he'
    exact ⟨b', hb, by rw [hd', he']; rfl⟩

/-- A slash is not part of an escape. -/
theorem Decodes.of_append_slash {a b c : Bytes} (h : Decodes (a ++ slash :: b) c) :
    ∃ a' b', Decodes a a' ∧ Decodes b b' ∧ c = a' ++ slash :: b' := by
  have hslash : hexValue slash = none := by decide
  generalize hs : a ++ slash :: b = s at h
  induction h generalizing a with
  | nil => exact absurd hs (List.append_ne_nil_of_right_ne_nil a (List.cons_ne_nil slash b))
  | byte hne hrest ih =>
    rcases a with _ | ⟨x, a⟩
    · obtain ⟨rfl, rfl⟩ := List.cons.inj hs
      exact ⟨[], _, .nil, hrest, rfl⟩
    · simp only [List.cons_append, List.cons.injEq] at hs
      obtain ⟨rfl, hs⟩ := hs
      obtain ⟨a', b', ha, hb, rfl⟩ := ih hs
      exact ⟨_, b', .byte hne ha, hb, rfl⟩
  | escape hd he hrest ih =>
    rcases a with _ | ⟨x, _ | ⟨y, _ | ⟨z, a⟩⟩⟩
    · exact absurd (List.cons.inj hs).1 (by decide)
    · obtain ⟨-, hs⟩ := List.cons.inj hs
      rw [← (List.cons.inj hs).1, hslash] at hd
      cases hd
    · obtain ⟨-, hs⟩ := List.cons.inj hs
      obtain ⟨-, hs⟩ := List.cons.inj hs
      rw [← (List.cons.inj hs).1, hslash] at he
      cases he
    · simp only [List.cons_append, List.cons.injEq] at hs
      obtain ⟨rfl, rfl, rfl, hs⟩ := hs
      obtain ⟨a', b', ha, hb, rfl⟩ := ih hs
      exact ⟨_, b', .escape hd he ha, hb, rfl⟩

/-- A text that is read gets shorter with each escape. -/
theorem Decodes.length_lt {a a' : Bytes} (h : Decodes a a') :
    a'.length ≤ a.length ∧ (percent ∈ a → a'.length < a.length) := by
  induction h with
  | nil => exact ⟨le_refl _, fun hmem => absurd hmem List.not_mem_nil⟩
  | byte hne _ ih =>
    refine ⟨Nat.succ_le_succ ih.1, fun hmem => Nat.succ_lt_succ (ih.2 ?_)⟩
    exact (List.mem_cons.1 hmem).resolve_left (Ne.symm hne)
  | escape _ _ _ ih =>
    simp only [List.length_cons]
    omega

/-- A text is read as it is just if there is no escape in it. -/
theorem decodes_self_iff {a : Bytes} : Decodes a a ↔ percent ∉ a := by
  constructor
  · exact fun h hmem => lt_irrefl _ (h.length_lt.2 hmem)
  · intro h
    induction a with
    | nil => exact .nil
    | cons b a ih =>
      rw [List.mem_cons, not_or] at h
      exact .byte (Ne.symm h.1) (ih h.2)

theorem Decodes.unique {a a' a'' : Bytes} (h : Decodes a a') (h' : Decodes a a'') : a' = a'' :=
  Option.some.inj ((pctDecode_eq_some_iff.2 h).symm.trans (pctDecode_eq_some_iff.2 h'))

/-! ## Encoding -/

/-- Letters, digits and four marks. -/
def isUnreserved (b : UInt8) : Bool :=
  (48 ≤ b && b ≤ 57) || (65 ≤ b && b ≤ 90) || (97 ≤ b && b ≤ 122) ||
    b == 45 || b == 46 || b == 95 || b == 126

/-- A byte, or its escape. -/
def encodeByte (b : UInt8) : Bytes :=
  if isUnreserved b then [b]
  else [percent, hexDigit (b.toNat / 16), hexDigit (b.toNat % 16)]

/-- Every byte that is not unreserved is written as an escape. -/
def pctEncode (s : Bytes) : Bytes := s.flatMap encodeByte

theorem decodes_encodeByte (b : UInt8) : Decodes (encodeByte b) [b] := by
  rw [encodeByte]
  split
  next h =>
    refine .byte ?_ .nil
    rintro rfl
    exact absurd h (by decide)
  next =>
    have hlt : b.toNat < 256 := b.toNat_lt
    have hvalue : UInt8.ofNat (16 * (b.toNat / 16) + b.toNat % 16) = b := by
      rw [Nat.div_add_mod, UInt8.ofNat_toNat]
    have h := Decodes.escape (hexValue_hexDigit (n := b.toNat / 16) (by omega))
      (hexValue_hexDigit (n := b.toNat % 16) (by omega)) .nil
    rwa [hvalue] at h

/-- What is encoded is read back. -/
theorem decodes_pctEncode (s : Bytes) : Decodes (pctEncode s) s := by
  induction s with
  | nil => exact .nil
  | cons b s ih => exact (decodes_encodeByte b).append ih

/-- What is encoded has escapes and unreserved bytes only. -/
theorem mem_pctEncode {s : Bytes} {c : UInt8} (h : c ∈ pctEncode s) :
    isUnreserved c = true ∨ c = percent := by
  obtain ⟨b, -, hc⟩ := List.mem_flatMap.1 h
  have hdigit : ∀ n, n < 16 → isUnreserved (hexDigit n) = true := by decide
  have hlt : b.toNat < 256 := b.toNat_lt
  rw [encodeByte] at hc
  split at hc
  next hb =>
    rw [List.mem_singleton.1 hc]
    exact .inl hb
  next =>
    simp only [List.mem_cons, List.not_mem_nil, or_false] at hc
    rcases hc with rfl | rfl | rfl
    · exact .inr rfl
    · exact .inl (hdigit _ (by omega))
    · exact .inl (hdigit _ (by omega))

end Percent

end PhineAf

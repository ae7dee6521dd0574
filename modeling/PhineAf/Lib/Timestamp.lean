import Mathlib.Data.List.TakeWhile
import Mathlib.Data.Rat.Floor
import PhineAf.Lib.Calendar
import PhineAf.Lib.Text

/-!
# Timestamps

Timestamps as they are written in Internet protocols, with an optional fraction of a
second and an offset from UTC, and the instants they denote, in seconds from the start
of 1970 (`Timestamp.instant`).

A C++ library reads a text with a format of literals and numbers (`getTime`). What comes
after the format is not read: of a timestamp, neither the fraction nor the offset
(`Timestamp.seconds_getTime`).
-/

namespace PhineAf

namespace Calendar

open Text

/-! ## Reading -/

/-- A piece of a format: a character, or a number of some digits that is in a range. -/
inductive Directive
  | literal (c : Char)
  | number (width lo hi : ℕ) (set : ℤ → Tm → Tm)

/-- What has been read when a text has ended, or something else stands in it, stays. -/
def scan : List Directive → List Char → Tm → Tm
  | [], _, tm => tm
  | .literal c :: format, s, tm =>
    match s with
    | [] => tm
    | d :: s => if d.toLower = c.toLower then scan format s tm else tm
  | .number width lo hi set :: format, s, tm =>
    let ds := (s.take width).takeWhile Char.isDigit
    let n := digitsValue ds
    if ds.isEmpty || n < lo || hi < n then tm
    else scan format (s.drop ds.length) (set n tm)

/-- `%Y-%m-%dT%H:%M:%S`. -/
def dateTimeFormat : List Directive :=
  [.number 4 0 9999 fun n tm => { tm with year := n - 1900 }, .literal '-',
    .number 2 1 12 fun n tm => { tm with mon := n - 1 }, .literal '-',
    .number 2 1 31 fun n tm => { tm with mday := n }, .literal 'T',
    .number 2 0 23 fun n tm => { tm with hour := n }, .literal ':',
    .number 2 0 59 fun n tm => { tm with min := n }, .literal ':',
    .number 2 0 60 fun n tm => { tm with sec := n }]

/-- `std::get_time`: white space in front is skipped. -/
def getTime (format : List Directive) (s : String) : Tm :=
  scan format (s.toList.dropWhile isSpace) {}

theorem scan_literal (c : Char) (format : List Directive) (s : List Char) (tm : Tm) :
    scan (.literal c :: format) (c :: s) tm = scan format s tm := if_pos rfl

/-- A number that is written with all its digits is read. -/
theorem scan_number {width lo hi n : ℕ} (hwidth : width ≠ 0) (hn : n < 10 ^ width) (hlo : lo ≤ n)
    (hhi : n ≤ hi) (set : ℤ → Tm → Tm) (format : List Directive) (s : List Char) (tm : Tm) :
    scan (.number width lo hi set :: format) (padded width n ++ s) tm =
      scan format s (set n tm) := by
  have hdigits : ∀ c ∈ padded width n, c.isDigit = true := fun c => isDigit_of_mem_padded
  have htake : ((padded width n ++ s).take width).takeWhile Char.isDigit = padded width n := by
    rw [List.take_left' (length_padded width n), List.takeWhile_eq_self_iff]
    exact hdigits
  have hne : (padded width n).isEmpty = false := by
    rw [List.isEmpty_eq_false_iff, ← List.length_pos_iff, length_padded]
    exact Nat.pos_of_ne_zero hwidth
  have hvalue : digitsValue (padded width n) = n := by
    rw [digitsValue_padded, Nat.mod_eq_of_lt hn]
  rw [scan]
  simp only [htake, hvalue, hne, Bool.false_or, Bool.or_eq_true, decide_eq_true_eq]
  rw [if_neg (by omega), List.drop_left]

/-- There is no white space to be skipped before a number. -/
theorem dropWhile_isSpace_padded {width : ℕ} (hwidth : width ≠ 0) (n : ℕ) (s : List Char) :
    (padded width n ++ s).dropWhile isSpace = padded width n ++ s := by
  obtain ⟨c, cs, hcs⟩ : ∃ c cs, padded width n = c :: cs := by
    refine List.exists_cons_of_ne_nil fun hnil => hwidth ?_
    rw [← length_padded width n, hnil, List.length_nil]
  have hc : c.isDigit = true := isDigit_of_mem_padded (hcs ▸ List.mem_cons_self)
  rw [hcs, List.cons_append, List.dropWhile_cons_of_neg]
  rw [isSpace_of_isDigit hc]
  decide

/-! ## Timestamps -/

/-- An offset from UTC, as it is written. -/
inductive Zone
  | utc
  | ahead (hours : Fin 24) (minutes : Fin 60)
  | behind (hours : Fin 24) (minutes : Fin 60)

/-- The offset in seconds. -/
def Zone.offset : Zone → ℤ
  | utc => 0
  | ahead hours minutes => hours * 3600 + minutes * 60
  | behind hours minutes => -(hours * 3600 + minutes * 60)

theorem Zone.offset_mem (z : Zone) : -86400 < z.offset ∧ z.offset < 86400 := by
  rcases z with _ | ⟨hours, minutes⟩ | ⟨hours, minutes⟩ <;> simp only [offset] <;> omega

/-- `Z`, `+hh:mm` or `-hh:mm`. -/
def Zone.text : Zone → List Char
  | utc => ['Z']
  | ahead hours minutes => '+' :: (padded 2 hours ++ ':' :: padded 2 minutes)
  | behind hours minutes => '-' :: (padded 2 hours ++ ':' :: padded 2 minutes)

/-- A date, a time of day, the digits of a fraction of a second, if there are any, and an
    offset. The second is 60 in a leap second, which counts as the second after it. -/
structure Timestamp where
  date : Date
  year_lt : date.year < 10000
  hour : Fin 24
  minute : Fin 60
  second : Fin 61
  fraction : List (Fin 10)
  zone : Zone

/-- The value of the digits after the point. -/
def fractionValue : List (Fin 10) → ℚ
  | [] => 0
  | d :: ds => ((d : ℕ) + fractionValue ds) / 10

theorem fractionValue_mem (ds : List (Fin 10)) : 0 ≤ fractionValue ds ∧ fractionValue ds < 1 := by
  induction ds with
  | nil => exact ⟨le_refl _, one_pos⟩
  | cons d ds ih =>
    have hd : ((d : ℕ) : ℚ) ≤ 9 := by exact_mod_cast Nat.le_of_lt_succ d.isLt
    have hd' : (0 : ℚ) ≤ (d : ℕ) := Nat.cast_nonneg _
    rw [fractionValue]
    constructor <;> linarith

namespace Timestamp

/-- The text: `YYYY-MM-DDThh:mm:ss`, a point and digits, and the offset. -/
def chars (t : Timestamp) : List Char :=
  padded 4 t.date.year ++ '-' :: (padded 2 t.date.month ++ '-' :: (padded 2 t.date.day ++
    'T' :: (padded 2 t.hour ++ ':' :: (padded 2 t.minute ++ ':' :: (padded 2 t.second ++
      ((if t.fraction.isEmpty then []
        else '.' :: t.fraction.map fun d => Nat.digitChar d) ++ t.zone.text))))))

def text (t : Timestamp) : String := String.ofList t.chars

/-- The seconds from the start of 1970, as if the offset was that of UTC. -/
def localSeconds (t : Timestamp) : ℤ :=
  t.date.dayNumber * 86400 + t.hour * 3600 + t.minute * 60 + t.second

/-- The instant that is denoted. -/
def instant (t : Timestamp) : ℚ := t.localSeconds + fractionValue t.fraction - t.zone.offset

/-- The instant in whole seconds. -/
def seconds (t : Timestamp) : ℤ := ⌊t.instant⌋

theorem seconds_eq (t : Timestamp) : t.seconds = t.localSeconds - t.zone.offset := by
  obtain ⟨hnonneg, hlt⟩ := fractionValue_mem t.fraction
  rw [seconds, Int.floor_eq_iff, instant, Int.cast_sub]
  constructor <;> linarith

/-- Of a timestamp, the date and the time of day are read. -/
theorem seconds_getTime (t : Timestamp) :
    (getTime dateTimeFormat t.text).seconds = t.localSeconds := by
  have hyear := t.year_lt
  have hday : t.date.day ≤ 31 := t.date.day_le.trans (monthLength_le _ _)
  have hmonth := t.date.month_le
  have hone := t.date.one_le_month
  have hone' := t.date.one_le_day
  have hh := t.hour.isLt
  have hm := t.minute.isLt
  have hs := t.second.isLt
  rw [getTime, text, String.toList_ofList, chars, dropWhile_isSpace_padded (by decide),
    dateTimeFormat]
  rw [scan_number (by decide) hyear (Nat.zero_le _) (by omega), scan_literal,
    scan_number (by decide) (by omega) hone (by omega), scan_literal,
    scan_number (by decide) (by omega) hone' hday, scan_literal,
    scan_number (by decide) (by omega) (Nat.zero_le _) (by omega), scan_literal,
    scan_number (by decide) (by omega) (Nat.zero_le _) (by omega), scan_literal,
    scan_number (by decide) (by omega) (Nat.zero_le _) (by omega), scan]
  rw [Tm.seconds, Tm.dayNumber_eq rfl rfl rfl]
  rfl

end Timestamp

end Calendar

end PhineAf

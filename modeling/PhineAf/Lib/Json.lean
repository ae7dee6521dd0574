import Mathlib.Algebra.Order.Ring.Int
import Mathlib.Data.List.Lookmap
import Mathlib.Data.Rat.Defs

/-!
# JSON values

JSON values and the accessors of a library that reads them by key: `contains`,
`field` (which throws on a missing key), `value` (with a default), and the
conversions to texts and integers, which throw on a value of another kind. An
integer is cast to the width of the type it is read into; a float that does not
fit, for which the cast is undefined, is wrapped like an integer.

`Json.ofFields` is the value made by assigning the present fields, one after the
other, to a value that starts out as null: without any it stays null. How values
are written to texts and read from them is left to the library (`Json.Library`).
-/

namespace PhineAf

inductive Json
  | null
  | bool (b : Bool)
  | int (n : ℤ)
  | float (q : ℚ)
  | str (s : String)
  | arr (l : List Json)
  | obj (fields : List (String × Json))

namespace Json

/-- The exceptions of the accessors. -/
inductive Error
  | outOfRange (key : String)
  | typeError
  deriving DecidableEq, Repr

/-! ## Reading -/

theorem map_eq_ok {ε α β : Type} {x : Except ε α} {f : α → β} {b : β} :
    x.map f = .ok b ↔ ∃ a, x = .ok a ∧ f a = b := by
  rcases x with e | a
  · simp [Except.map]
  · simp [Except.map]

/-- What is read after something else is read only if that was. -/
theorem bind_eq_ok {ε α β : Type} {x : Except ε α} {f : α → Except ε β} {b : β} :
    x >>= f = .ok b ↔ ∃ a, x = .ok a ∧ f a = .ok b := by
  rcases x with e | a
  · simp [bind, Except.bind]
  · simp [bind, Except.bind]

/-- The member under a key of an object. -/
def find? (key : String) : Json → Option Json
  | obj fields => fields.lookup key
  | _ => none

/-- `contains`: false of a value that is not an object. -/
def contains (j : Json) (key : String) : Bool := (j.find? key).isSome

/-- `at`: the member under a key, which must be there. -/
def field (j : Json) (key : String) : Except Error Json :=
  match j, j.find? key with
  | obj _, some v => .ok v
  | obj _, none => .error (.outOfRange key)
  | _, _ => .error .typeError

/-- `value`: the member under a key of an object, or a default. -/
def value (j : Json) (key : String) (default : Json) : Except Error Json :=
  match j with
  | obj _ => .ok ((j.find? key).getD default)
  | _ => .error .typeError

/-- `is_null`. -/
def isNull : Json → Bool
  | null => true
  | _ => false

/-- `is_object`. -/
def isObject : Json → Bool
  | obj _ => true
  | _ => false

/-- `is_number_integer`. -/
def isInteger : Json → Bool
  | int _ => true
  | _ => false

/-- `get<std::string>`. -/
def getStr : Json → Except Error String
  | str s => .ok s
  | _ => .error .typeError

/-- The number of a value, cut off towards zero. It is the value that the cast to a type with
    room for it gives; the cast of a float to a type without is undefined. -/
def getInt : Json → Except Error ℤ
  | int n => .ok n
  | float q => .ok (q.num.tdiv q.den)
  | bool b => .ok b.toNat
  | _ => .error .typeError

/-- `get<int>`, of 32 bits: an integer out of range wraps around. A float out of range does so
    here too, where the cast of the library is undefined. -/
def getInt32 (j : Json) : Except Error ℤ := do return (← j.getInt).bmod (2 ^ 32)

/-- `get` of an unsigned type of 16 bits, which wraps around in the same way. -/
def getUInt16 (j : Json) : Except Error UInt16 := do return UInt16.ofInt (← j.getInt)

/-- The members of an object; there are none in any other value. -/
def members : Json → List (String × Json)
  | obj fields => fields
  | _ => []

/-- The elements of an array; there are none in any other value. -/
def elements : Json → List Json
  | arr l => l
  | _ => []

/-- The member under a key read by `read`, if there is one. -/
def optional {α : Type} (j : Json) (key : String) (read : Json → Except Error α) :
    Except Error (Option α) :=
  (j.find? key).elim (.ok none) fun v => (read v).map some

theorem getStr_eq_ok {j : Json} {s : String} : j.getStr = .ok s ↔ j = .str s := by
  cases j <;> simp [getStr]

/-- What is read of a member that need not be there. -/
theorem optional_eq_ok {α : Type} {j : Json} {key : String} {read : Json → Except Error α}
    {o : Option α} : j.optional key read = .ok o ↔ (j.find? key = none ∧ o = none) ∨
      ∃ v a, j.find? key = some v ∧ read v = .ok a ∧ o = some a := by
  rw [optional]
  rcases hv : j.find? key with _ | v
  · simp [eq_comm]
  · simp only [Option.elim_some, map_eq_ok, Option.some.injEq, eq_comm (b := o)]
    simp

/-- A member that need not be there can be read. -/
theorem exists_optional_eq_ok {α : Type} {j : Json} {key : String}
    {read : Json → Except Error α} : (∃ o, j.optional key read = .ok o) ↔
      ∀ v, j.find? key = some v → ∃ a, read v = .ok a := by
  simp only [optional_eq_ok]
  rcases hv : j.find? key with _ | v
  · simp
  · simp

/-- All elements can be read. -/
theorem exists_mapM_eq_ok {ε α β : Type} {read : α → Except ε β} {l : List α} :
    (∃ l', l.mapM read = .ok l') ↔ ∀ x ∈ l, ∃ y, read x = .ok y := by
  induction l with
  | nil => simp [pure, Except.pure]
  | cons x l ih =>
    rw [List.forall_mem_cons, ← ih, List.mapM_cons]
    simp only [bind_eq_ok, pure, Except.pure, Except.ok.injEq]
    constructor
    · rintro ⟨_, y, hy, l', hl', rfl⟩
      exact ⟨⟨y, hy⟩, l', hl'⟩
    · rintro ⟨⟨y, hy⟩, l', hl'⟩
      exact ⟨_, y, hy, l', hl', rfl⟩

/-! ## Writing -/

/-- `operator[]` of an object, assigned to: the member under the key is replaced, or
    a new one added. -/
def assign (fields : List (String × Json)) (key : String) (v : Json) : List (String × Json) :=
  if (fields.lookup key).isSome then fields.map fun f => if f.1 = key then (key, v) else f
  else fields ++ [(key, v)]

theorem assign_of_not_mem {fields : List (String × Json)} {key : String} (v : Json)
    (h : key ∉ fields.map Prod.fst) : assign fields key v = fields ++ [(key, v)] := by
  have hnone : fields.lookup key = none := by
    rw [List.lookup_eq_none_iff]
    intro f hf
    have hne : key ≠ f.1 := by
      rintro rfl
      exact h (List.mem_map_of_mem hf)
    simpa using hne
  simp [assign, hnone]

/-- What is assigned is found, and nothing else is changed. -/
theorem lookup_assign (fields : List (String × Json)) (key : String) (v : Json) (k : String) :
    (assign fields key v).lookup k = if k = key then some v else fields.lookup k := by
  have hmap : (fields.map fun f => if f.1 = key then (key, v) else f).lookup k =
      if k = key then (fields.lookup key).map fun _ => v else fields.lookup k := by
    induction fields with
    | nil => simp
    | cons f fields ih =>
      obtain ⟨k', v'⟩ := f
      rw [List.map_cons]
      by_cases hk' : k' = key
      · subst hk'
        by_cases hk : k = k'
        · subst hk
          simp
        · have hbeq : (k == k') = false := beq_false_of_ne hk
          simpa [List.lookup_cons, hbeq, hk] using ih
      · rw [if_neg hk', List.lookup_cons, ih, List.lookup_cons, List.lookup_cons]
        by_cases hk : k = key
        · subst hk
          have hbeq : (k == k') = false := beq_false_of_ne (Ne.symm hk')
          simp [hbeq]
        · rw [if_neg hk, if_neg hk]
  rw [assign]
  split
  next hsome =>
    obtain ⟨v', hv'⟩ := Option.isSome_iff_exists.1 hsome
    rw [hmap, hv', Option.map_some]
  next hnone =>
    rw [List.lookup_append, List.lookup_cons, List.lookup_nil]
    by_cases hk : k = key
    · subst hk
      rw [Option.not_isSome_iff_eq_none.1 hnone]
      simp
    · have hbeq : (k == key) = false := beq_false_of_ne hk
      simp [hbeq, hk]

/-- The value made by assigning the fields that are present. -/
def ofFields (fields : List (String × Option Json)) : Json :=
  match fields.filterMap fun f => f.2.map (f.1, ·) with
  | [] => null
  | fields => obj fields

/-- An array, unless it is empty. -/
def nonemptyArr {α : Type} (f : α → Json) (l : List α) : Option Json :=
  if l.isEmpty then none else some (.arr (l.map f))

/-- The elements of an array that is not there if it is empty. -/
theorem elements_nonemptyArr {α : Type} (f : α → Json) (l : List α) :
    (nonemptyArr f l).elim [] elements = l.map f := by
  rw [nonemptyArr]
  split
  next hnil =>
    rw [List.isEmpty_iff.1 hnil]
    rfl
  next => rfl

theorem isNone_nonemptyArr {α : Type} (f : α → Json) (l : List α) :
    (nonemptyArr f l).isNone = l.isEmpty := by
  rw [nonemptyArr]
  split
  next hnil => rw [hnil]; rfl
  next hne => rw [Bool.not_eq_true] at hne; rw [hne]; rfl

/-- Elements are read as they are written. -/
theorem mapM_map {α β : Type} {write : α → Json} {read : Json → Except Error β} {g : α → β}
    (h : ∀ x, read (write x) = .ok (g x)) (l : List α) :
    (l.map write).mapM read = .ok (l.map g) := by
  induction l with
  | nil => rfl
  | cons x l ih =>
    rw [List.map_cons, List.mapM_cons, h, ih]
    rfl

theorem lookup_present {fields : List (String × Option Json)} (key : String)
    (h : (fields.map Prod.fst).Nodup) :
    (fields.filterMap fun f => f.2.map (f.1, ·)).lookup key = (fields.lookup key).join := by
  induction fields with
  | nil => rfl
  | cons f fields ih =>
    obtain ⟨k, v⟩ := f
    obtain ⟨hk, hfields⟩ := List.nodup_cons.1 h
    by_cases hkey : key = k
    · subst hkey
      cases v with
      | some v => simp
      | none =>
        -- The key is not repeated further on.
        have hnone : fields.lookup key = none := by
          rw [List.lookup_eq_none_iff]
          rintro ⟨k', v'⟩ hmem
          have hne : key ≠ k' := by
            rintro rfl
            exact hk (List.mem_map.2 ⟨(key, v'), hmem, rfl⟩)
          simpa using hne
        simpa [hnone] using ih hfields
    · have hbeq : (key == k) = false := beq_false_of_ne hkey
      cases v <;> simpa [List.lookup_cons, hbeq] using ih hfields

/-- Reading back what was assigned. -/
theorem find?_ofFields {fields : List (String × Option Json)} (key : String)
    (h : (fields.map Prod.fst).Nodup) :
    (ofFields fields).find? key = (fields.lookup key).join := by
  rw [← lookup_present key h, ofFields]
  split
  next hnil => rw [hnil]; rfl
  next => rfl

theorem isNull_ofFields (fields : List (String × Option Json)) :
    (ofFields fields).isNull = fields.all fun f => f.2.isNone := by
  have hnil : (fields.filterMap fun f => f.2.map (f.1, ·)) = [] ↔ ∀ f ∈ fields, f.2.isNone := by
    simp [List.filterMap_eq_nil_iff]
  rw [ofFields]
  split
  next h => simpa [isNull] using hnil.1 h
  next h =>
    refine (Bool.eq_false_iff.2 fun hall => h (hnil.2 ?_)).symm
    simpa using hall

theorem isObject_ofFields (fields : List (String × Option Json)) :
    (ofFields fields).isObject = !(ofFields fields).isNull := by
  rw [ofFields]
  split <;> rfl

/-- A required member that was assigned. -/
theorem field_ofFields {fields : List (String × Option Json)} (key : String) {v : Json}
    (h : (fields.map Prod.fst).Nodup) (hv : fields.lookup key = some (some v)) :
    (ofFields fields).field key = .ok v := by
  have hfind : (ofFields fields).find? key = some v := by rw [find?_ofFields key h, hv]; rfl
  unfold field
  rw [hfind]
  cases hj : ofFields fields <;> first | rfl | (rw [hj] at hfind; cases hfind)

/-- A required member that was not assigned, in a value where another was. -/
theorem field_ofFields_of_none {fields : List (String × Option Json)} {key : String}
    (h : (fields.map Prod.fst).Nodup) (hv : (fields.lookup key).join = none) :
    ∃ e, (ofFields fields).field key = .error e := by
  have hfind : (ofFields fields).find? key = none := by rw [find?_ofFields key h, hv]
  unfold field
  rw [hfind]
  cases ofFields fields <;> exact ⟨_, rfl⟩

/-- A member with a default, in a value where something was assigned. -/
theorem value_ofFields {fields : List (String × Option Json)} (key : String) (default : Json)
    (h : (fields.map Prod.fst).Nodup) (hnull : (ofFields fields).isNull = false) :
    (ofFields fields).value key default = .ok ((fields.lookup key).join.getD default) := by
  rw [← find?_ofFields key h]
  rw [ofFields] at hnull ⊢
  split at hnull
  next => cases hnull
  next => simp only [value]

theorem optional_ofFields {α : Type} {fields : List (String × Option Json)} (key : String)
    (read : Json → Except Error α) (h : (fields.map Prod.fst).Nodup) :
    (ofFields fields).optional key read =
      (fields.lookup key).join.elim (.ok none) fun v => (read v).map some := by
  rw [optional, find?_ofFields key h]

/-- A text that was assigned, if it was. -/
theorem optional_str {j : Json} {key : String} {s : Option String}
    (h : j.find? key = s.map .str) : j.optional key getStr = .ok s := by
  rw [optional, h]
  cases s <;> rfl

/-! ## Equality -/

/-- Equality of values: a number may be written as an integer or as a float, and the
    members of an object have no order. -/
inductive Equal : Json → Json → Prop
  | null : Equal null null
  | bool (b : Bool) : Equal (bool b) (bool b)
  | int (n : ℤ) : Equal (int n) (int n)
  | float (q : ℚ) : Equal (float q) (float q)
  | intFloat (n : ℤ) : Equal (int n) (float n)
  | floatInt (n : ℤ) : Equal (float n) (int n)
  | str (s : String) : Equal (str s) (str s)
  | arr {l l' : List Json} (h : List.Forall₂ Equal l l') : Equal (arr l) (arr l')
  | obj {fields fields' : List (String × Json)}
      (h : ∀ key, Option.Rel Equal (fields.lookup key) (fields'.lookup key)) :
      Equal (obj fields) (obj fields')

theorem eq_of_equal_str {j : Json} {s : String} (h : j.Equal (str s)) : j = str s := by
  rcases h with ⟨⟩
  rfl

/-! ## Texts -/

/-- The texts of a JSON library. -/
structure Library where
  /-- `dump`: a value as a text. -/
  dump : Json → String
  /-- `parse`: the value of a text, or what the exception says. -/
  parse : String → Except String Json
  /-- `what` an exception of the accessors says. -/
  what : Error → String

/-- The text of a value is read back as the value. -/
def Library.Lossless (lib : Library) (j : Json) : Prop := lib.parse (lib.dump j) = .ok j

end Json

end PhineAf

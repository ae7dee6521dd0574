import PhineAf.Lib.Json

/-!
# Schemas of JSON values

A schema has places. At each place there are checks of the members of a value, and
children: members whose value, or whose elements or members, are values at other places.
A validator that finds nothing wrong at a place finds nothing wrong at its children; so it
has nothing to say against any value that is visited from the root (`Visited.invariant`).

A check may pass over a value of another type than it expects. What passes a check
satisfies its constraint exactly if it has the type (`Check.holds_iff`).
-/

namespace PhineAf

namespace Json

/-- The member under a key, if it is there, satisfies `P`. -/
def AtMember (json : Json) (field : String) (P : Json → Prop) : Prop :=
  ∀ v, json.find? field = some v → P v

theorem AtMember.congr {json : Json} {field : String} {P Q : Json → Prop} (h : ∀ v, P v ↔ Q v) :
    AtMember json field P ↔ AtMember json field Q :=
  forall₂_congr fun v _ => h v

theorem atMember_and {json : Json} {field : String} {P Q : Json → Prop} :
    AtMember json field (fun v => P v ∧ Q v) ↔ AtMember json field P ∧ AtMember json field Q :=
  forall₂_and

end Json

namespace Schema

/-! ## Checks -/

/-- A check of a member. -/
inductive Check
  /-- A text of a format or an enumeration. -/
  | text (isValid : String → Bool)
  /-- An array of such texts. -/
  | texts (isValid : String → Bool)
  | integer
  /-- An array of integers. -/
  | integers
  | minItems (n : ℕ)
  | maxItems (n : ℕ)
  /-- An object with at least `n` members. -/
  | properties (n : ℕ)

namespace Check

/-- The value satisfies the constraint. -/
def Holds : Check → Json → Prop
  | text isValid, v => ∃ s, v = .str s ∧ isValid s = true
  | texts isValid, v => ∀ x ∈ v.elements, ∃ s, x = .str s ∧ isValid s = true
  | integer, v => v.isInteger = true
  | integers, v => ∀ x ∈ v.elements, x.isInteger = true
  | minItems n, v => ∃ l, v = .arr l ∧ n ≤ l.length
  | maxItems n, v => ∃ l, v = .arr l ∧ l.length ≤ n
  | properties n, v => ∃ fields, v = .obj fields ∧ n ≤ fields.length

/-- The value passes: a value that is no text is passed over where a text is expected. -/
def Passes : Check → Json → Prop
  | text isValid, v => ∀ s, v = .str s → isValid s = true
  | texts isValid, v => ∀ x ∈ v.elements, ∀ s, x = .str s → isValid s = true
  | check, v => check.Holds v

/-- The value is a text where a text is expected. -/
def TextTyped : Check → Json → Prop
  | text _, v => ∃ s, v = .str s
  | texts _, v => ∀ x ∈ v.elements, ∃ s, x = .str s
  | _, _ => True

theorem exists_text_iff {isValid : String → Bool} {v : Json}
    (h : ∀ s, v = .str s → isValid s = true) :
    (∃ s, v = .str s ∧ isValid s = true) ↔ ∃ s, v = .str s :=
  exists_congr fun s => and_iff_left_of_imp (h s)

/-- What passes satisfies the constraint exactly if it is of the type. -/
theorem holds_iff {check : Check} {v : Json} (h : check.Passes v) :
    check.Holds v ↔ check.TextTyped v := by
  cases check with
  | text isValid => exact exists_text_iff h
  | texts isValid => exact forall₂_congr fun x hx => exists_text_iff (h x hx)
  | integer => exact iff_of_true h trivial
  | integers => exact iff_of_true h trivial
  | minItems n => exact iff_of_true h trivial
  | maxItems n => exact iff_of_true h trivial
  | properties n => exact iff_of_true h trivial

end Check

end Schema

/-! ## Places -/

/-- Which values under a key are visited. -/
inductive Schema.Shape
  /-- The value itself. -/
  | value
  /-- The elements of an array. -/
  | elements
  /-- The values of the members of an object. -/
  | members

/-- The values that are visited. -/
def Schema.Shape.parts : Schema.Shape → Json → List Json
  | .value, v => [v]
  | .elements, v => v.elements
  | .members, v => v.members.map Prod.snd

/-- What is checked at the places of a kind of value, and where it leads. -/
structure Schema (P : Type) where
  /-- The checks, by the keys they are about. -/
  checks : P → List (String × Schema.Check)
  /-- The children, by the keys they are under. -/
  children : P → List (String × Schema.Shape × P)

namespace Schema

variable {P : Type} (S : Schema P)

/-- The values visited from the root, with their places. -/
inductive Visited (place : P) (root : Json) : P → Json → Prop
  | root : Visited place root place root
  | child {place' child : P} {v w x : Json} {field : String} {shape : Shape} :
    Visited place root place' v → (field, shape, child) ∈ S.children place' →
    v.find? field = some w → x ∈ shape.parts w → Visited place root child x

/-- A predicate at a place leads to itself at the children. -/
def Descends (accepts : P → Json → Prop) (place : P) (v : Json) : Prop :=
  ∀ c ∈ S.children place, v.AtMember c.1 fun w => ∀ x ∈ c.2.1.parts w, accepts c.2.2 x

/-- The checks at a place pass. -/
def ChecksPass (place : P) (v : Json) : Prop :=
  ∀ c ∈ S.checks place, v.AtMember c.1 c.2.Passes

/-- What holds at the root, and is passed on to the children, holds wherever it is visited. -/
theorem Visited.invariant {S : Schema P} {accepts : P → Json → Prop}
    (hdescends : ∀ place v, accepts place v → S.Descends accepts place v) {place place' : P}
    {root v : Json} (hroot : accepts place root) (h : S.Visited place root place' v) :
    accepts place' v := by
  induction h with
  | root => exact hroot
  | child _ hchild hw hx ih => exact hdescends _ _ ih _ hchild _ hw _ hx

end Schema

end PhineAf

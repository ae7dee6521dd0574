import Mathlib.Logic.Basic
import Mathlib.Tactic.SplitIfs

/-!
# Inverse maps

Two partial maps, each the inverse of the other, kept so by writing to both. The
lemmas say of each way of writing when the maps stay inverse to each other:

* `Inverse.insert_iff`: a new pair, if the left end had no partner;
* `Inverse.redirect_iff`: one map alone, if it is left as it is;
* `Inverse.erase`: a pair is taken away, always.
-/

namespace PhineAf

variable {α β : Type*}

/-- Each of two partial maps is the inverse of the other. -/
def Inverse (f : α → Option β) (g : β → Option α) : Prop := ∀ a b, f a = some b ↔ g b = some a

namespace Inverse

variable {f f' : α → Option β} {g g' : β → Option α} {a : α} {b : β}

theorem congr (h : Inverse f g) (hf : ∀ x, f' x = f x) (hg : ∀ y, g' y = g y) : Inverse f' g' := by
  intro x y
  rw [hf, hg]
  exact h x y

variable [DecidableEq α]

/-- A pair whose right end is new is added: the maps stay inverse to each other exactly if
    its left end is new too. -/
theorem insert_iff [DecidableEq β] (h : Inverse f g) (hb : g b = none)
    (hf : ∀ x, f' x = if x = a then some b else f x)
    (hg : ∀ y, g' y = if y = b then some a else g y) : Inverse f' g' ↔ f a = none := by
  constructor
  · intro h'
    rw [Option.eq_none_iff_forall_ne_some]
    intro b₀ hb₀
    -- The old partner of the left end still points back to it.
    have hg₀ : g b₀ = some a := (h a b₀).1 hb₀
    have hne : b₀ ≠ b := by
      rintro rfl
      cases hb.symm.trans hg₀
    have hf' : f' a = some b₀ := by
      rw [h' a b₀, hg, if_neg hne, hg₀]
    rw [hf, if_pos rfl, Option.some.injEq] at hf'
    exact hne hf'.symm
  · intro ha x y
    rw [hf, hg]
    split_ifs with hx hy hy
    · rw [hx, hy]
      exact iff_of_true rfl rfl
    · have hne : g y ≠ some x := by
        intro hgy
        rw [← h x y, hx, ha] at hgy
        cases hgy
      refine iff_of_false (fun hby => hy (Option.some.inj hby).symm) hne
    · have hne : f x ≠ some y := by
        intro hfx
        rw [h x y, hy, hb] at hfx
        cases hfx
      exact iff_of_false hne fun hax => hx (Option.some.inj hax).symm
    · exact h x y

/-- One map alone is written where it has a partner: the maps stay inverse to each other
    exactly if that changes nothing. -/
theorem redirect_iff (h : Inverse f g) (ha : f a ≠ none)
    (hf : ∀ x, f' x = if x = a then some b else f x) : Inverse f' g ↔ f a = some b := by
  constructor
  · intro h'
    obtain ⟨b₀, hb₀⟩ := Option.ne_none_iff_exists'.1 ha
    have hf' : f' a = some b₀ := (h' a b₀).2 ((h a b₀).1 hb₀)
    rw [hf, if_pos rfl] at hf'
    rw [hb₀, hf']
  · intro hb
    refine h.congr (fun x => ?_) fun _ => rfl
    rw [hf]
    split_ifs with hx
    · rw [hx, hb]
    · rfl

/-- A pair is taken away. -/
theorem erase [DecidableEq β] (h : Inverse f g) (ha : f a = some b)
    (hf : ∀ x, f' x = if x = a then none else f x)
    (hg : ∀ y, g' y = if y = b then none else g y) : Inverse f' g' := by
  intro x y
  rw [hf, hg]
  split_ifs with hx hy hy
  · exact Iff.rfl
  · refine iff_of_false (fun h => by cases h) fun hgy => hy ?_
    rw [← h x y, hx, ha, Option.some.injEq] at hgy
    exact hgy.symm
  · refine iff_of_false (fun hfx => hx ?_) fun h => by cases h
    rw [h x y, hy, (h a b).1 ha, Option.some.injEq] at hfx
    exact hfx.symm
  · exact h x y

end Inverse

end PhineAf

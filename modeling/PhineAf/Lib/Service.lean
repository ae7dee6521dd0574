import Mathlib.Data.List.Forall2
import Mathlib.Data.List.Induction
import Mathlib.Data.Option.Basic

/-!
# Services

A service takes requests one after the other: each is answered, and changes the state. It
is compared with itself when it is not given some of the requests (`observed_forall₂`): if
the relation of the two states outlives each request that is left out, what is observed of
the answers to the others stays the same. And what a service does is explained by the steps
of something more abstract (`exists_trace`). The relations may speak of the requests to
come.
-/

namespace PhineAf.Service

variable {S T A B O : Type*}

/-- The state after some requests. -/
def after (serve : S → A → S × B) (s : S) (as : List A) : S :=
  as.foldl (fun s a => (serve s a).1) s

/-- The answers to some requests. -/
def answers (serve : S → A → S × B) : S → List A → List B
  | _, [] => []
  | s, a :: as => (serve s a).2 :: answers serve (serve s a).1 as

variable {serve : S → A → S × B} {s : S} {t : T} {as : List A}

@[simp]
theorem after_nil : after serve s [] = s := rfl

@[simp]
theorem after_cons (a : A) : after serve s (a :: as) = after serve (serve s a).1 as := rfl

theorem after_append (as' : List A) :
    after serve s (as ++ as') = after serve (after serve s as) as' := List.foldl_append

theorem answers_append (as' : List A) :
    answers serve s (as ++ as') = answers serve s as ++ answers serve (after serve s as) as' := by
  induction as generalizing s with
  | nil => rfl
  | cons a as ih => rw [List.cons_append, answers, answers, ih, List.cons_append, after_cons]

/-- What each request keeps holds after all of them. -/
theorem after_of_invariant {P : S → Prop} (hstep : ∀ s a, P s → P (serve s a).1) (hs : P s) :
    P (after serve s as) := by
  induction as generalizing s with
  | nil => exact hs
  | cons a as ih => exact ih (hstep s a hs)

/-- What some requests bring about, and others put an end to, holds after all of them if one
    of them has brought it about and none has ended it since. -/
theorem after_iff {P : S → Prop} {Makes Ends : A → Prop}
    (hstep : ∀ s a, P (serve s a).1 ↔ Makes a ∨ (P s ∧ ¬Ends a)) (hs : ¬P s) :
    P (after serve s as) ↔
      ∃ before a later, as = before ++ a :: later ∧ Makes a ∧ ∀ b ∈ later, ¬Ends b := by
  induction as using List.reverseRecOn with
  | nil => simp [hs]
  | append_singleton as a ih =>
    rw [after_append, after_cons, after_nil, hstep, ih]
    constructor
    · rintro (hmakes | ⟨⟨before, b, later, rfl, hmakes, hlater⟩, hends⟩)
      · exact ⟨as, a, [], rfl, hmakes, by simp⟩
      · refine ⟨before, b, later ++ [a], by simp, hmakes, fun c hc => ?_⟩
        rcases List.mem_append.1 hc with hc | hc
        · exact hlater c hc
        · exact List.mem_singleton.1 hc ▸ hends
    · rintro ⟨before, b, later, heq, hmakes, hlater⟩
      rcases List.eq_nil_or_concat later with rfl | ⟨later, c, rfl⟩
      · obtain ⟨-, hlast⟩ := List.append_inj' heq rfl
        exact .inl (List.singleton_inj.1 hlast ▸ hmakes)
      · rw [List.concat_eq_append] at heq hlater
        rw [← List.cons_append, ← List.append_assoc] at heq
        obtain ⟨rfl, hlast⟩ := List.append_inj' heq rfl
        obtain rfl := List.singleton_inj.1 hlast
        exact .inr ⟨⟨before, b, later, rfl, hmakes, fun d hd => hlater d (by simp [hd])⟩,
          hlater a (by simp)⟩

/-- Requests that are not observed, and leave the relation as it is, can be left out. -/
theorem observed_forall₂ {observe : B → Option O} {keep : A → Bool}
    {R : List A → S → S → Prop} {Q : O → O → Prop}
    (hkeep : ∀ a as s t, R (a :: as) s t → keep a → R as (serve s a).1 (serve t a).1 ∧
      Option.Rel Q (observe (serve s a).2) (observe (serve t a).2))
    (hdrop : ∀ a as s t, R (a :: as) s t → keep a = false →
      R as (serve s a).1 t ∧ observe (serve s a).2 = none) {t : S} (h : R as s t) :
    List.Forall₂ Q ((answers serve s as).filterMap observe)
      ((answers serve t (as.filter keep)).filterMap observe) := by
  induction as generalizing s t with
  | nil => exact .nil
  | cons a as ih =>
    rw [answers, List.filter_cons]
    rcases ha : keep a with _ | _
    · obtain ⟨hnext, hnone⟩ := hdrop a as s t h ha
      rw [List.filterMap_cons_none hnone, if_neg Bool.false_ne_true]
      exact ih hnext
    · obtain ⟨hnext, hrel⟩ := hkeep a as s t h ha
      rw [if_pos rfl, answers]
      rcases ho : observe (serve s a).2 with _ | o <;>
        rcases ho' : observe (serve t a).2 with _ | o' <;> rw [ho, ho'] at hrel
      · rw [List.filterMap_cons_none ho, List.filterMap_cons_none ho']
        exact ih hnext
      · cases hrel
      · cases hrel
      · rw [List.filterMap_cons_some ho, List.filterMap_cons_some ho']
        cases hrel with
        | some hq => exact .cons hq (ih hnext)

/-- The steps that explain some requests and their answers, one after the other. -/
inductive Trace (step : T → A × B → T → Prop) : T → List (A × B) → T → Prop
  | nil (t : T) : Trace step t [] t
  | cons {t t' t'' : T} {x : A × B} {xs : List (A × B)} :
      step t x t' → Trace step t' xs t'' → Trace step t (x :: xs) t''

/-- If a step explains each request and its answer, steps explain all of them. -/
theorem exists_trace {step : T → A × B → T → Prop} {R : List A → S → T → Prop}
    (hstep : ∀ a as s t, R (a :: as) s t →
      ∃ t', step t (a, (serve s a).2) t' ∧ R as (serve s a).1 t')
    (h : R as s t) : ∃ t', Trace step t (as.zip (answers serve s as)) t' := by
  induction as generalizing s t with
  | nil => exact ⟨t, .nil t⟩
  | cons a as ih =>
    obtain ⟨t', ht', h'⟩ := hstep a as s t h
    obtain ⟨t'', htrace⟩ := ih h'
    exact ⟨t'', .cons ht' htrace⟩

end PhineAf.Service

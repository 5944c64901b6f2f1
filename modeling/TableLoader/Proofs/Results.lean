/-
# Results side by side

Two results that are alike: the same error, or values that are related
(`ResultsAlike`). Options are related in the same way by `Option.Rel`.

Key definitions: `ResultsAlike`.
Key theorems: `ResultsAlike.cases`, `ResultsAlike.bind`.
-/
import Mathlib.Data.Option.Defs

namespace TableLoader

/-- Options that are related, as equations. -/
theorem optionRel_cases {α β : Type} {R : α → β → Prop} {x : Option α} {y : Option β}
    (h : Option.Rel R x y) :
    (x = none ∧ y = none) ∨ ∃ a b, R a b ∧ x = some a ∧ y = some b := by
  cases h with
  | none => exact .inl ⟨rfl, rfl⟩
  | some h => exact .inr ⟨_, _, h, rfl, rfl⟩

/-- Both end with the same error, or both end well with related results. -/
inductive ResultsAlike {ε α β : Type} (R : α → β → Prop) : Except ε α → Except ε β → Prop
  | ok {x : α} {y : β} : R x y → ResultsAlike R (.ok x) (.ok y)
  | error (e : ε) : ResultsAlike R (.error e) (.error e)

theorem ResultsAlike.refl {ε α : Type} (x : Except ε α) : ResultsAlike Eq x x := by
  cases x with
  | ok x => exact .ok rfl
  | error e => exact .error e

theorem ResultsAlike.imp {ε α β : Type} {R Q : α → β → Prop} {x : Except ε α}
    {y : Except ε β} (h : ResultsAlike R x y) (hRQ : ∀ a b, R a b → Q a b) :
    ResultsAlike Q x y := by
  cases h with
  | ok h => exact .ok (hRQ _ _ h)
  | error e => exact .error e

theorem ResultsAlike.eq {ε α : Type} {x y : Except ε α} (h : ResultsAlike Eq x y) : x = y := by
  cases h with
  | ok h => rw [h]
  | error e => rfl

/-- Results that are alike, as equations. -/
theorem ResultsAlike.cases {ε α β : Type} {R : α → β → Prop} {x : Except ε α}
    {y : Except ε β} (h : ResultsAlike R x y) :
    (∃ a b, R a b ∧ x = .ok a ∧ y = .ok b) ∨ ∃ e, x = .error e ∧ y = .error e := by
  cases h with
  | ok h => exact .inl ⟨_, _, h, rfl, rfl⟩
  | error e => exact .inr ⟨e, rfl, rfl⟩

theorem ResultsAlike.map {ε α β γ δ : Type} {R : α → β → Prop} {T : γ → δ → Prop}
    {x : Except ε α} {y : Except ε β} {f : α → γ} {g : β → δ} (h : ResultsAlike R x y)
    (hf : ∀ a b, R a b → T (f a) (g b)) : ResultsAlike T (x.map f) (y.map g) := by
  cases h with
  | ok h => exact .ok (hf _ _ h)
  | error e => exact .error e

theorem ResultsAlike.bind {ε α β γ δ : Type} {R : α → β → Prop} {T : γ → δ → Prop}
    {x : Except ε α} {y : Except ε β} {f : α → Except ε γ} {g : β → Except ε δ}
    (h : ResultsAlike R x y) (hf : ∀ a b, R a b → ResultsAlike T (f a) (g b)) :
    ResultsAlike T (x >>= f) (y >>= g) := by
  cases h with
  | ok h => exact hf _ _ h
  | error e => exact .error e

end TableLoader

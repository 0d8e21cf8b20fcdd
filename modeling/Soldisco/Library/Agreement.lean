import Mathlib.Logic.Basic
import Soldisco.Library.Transition

/-
This file relates two fallible computations that fail together and runs that answer alike.
-/

/-- Both computations fail with the same error or both succeed with related results. -/
inductive Agrees {Error Left Right : Type} (related : Left → Right → Prop) :
    Except Error Left → Except Error Right → Prop
  | ok {left : Left} {right : Right} (holds : related left right) :
      Agrees related (.ok left) (.ok right)
  | error (error : Error) : Agrees related (.error error) (.error error)

namespace Agrees

variable {Error Left Right NextLeft NextRight State : Type} {related : Left → Right → Prop}
  {relatedNext : NextLeft → NextRight → Prop}

/-- Agreeing computations go on with agreeing continuations. -/
theorem bind {left : Except Error Left} {right : Except Error Right}
    {nextLeft : Left → Except Error NextLeft} {nextRight : Right → Except Error NextRight}
    (first : Agrees related left right)
    (second : ∀ before other, left = .ok before → related before other →
      Agrees relatedNext (nextLeft before) (nextRight other)) :
    Agrees relatedNext (left >>= nextLeft) (right >>= nextRight) := by
  cases first with
  | ok holds => exact second _ _ rfl holds
  | error error => exact .error error

/-- A common first computation leaves the agreement to its continuations. -/
theorem same {first : Except Error State} {nextLeft : State → Except Error NextLeft}
    {nextRight : State → Except Error NextRight}
    (second : ∀ state, first = .ok state →
      Agrees relatedNext (nextLeft state) (nextRight state)) :
    Agrees relatedNext (first >>= nextLeft) (first >>= nextRight) := by
  cases first with
  | ok state => exact second state rfl
  | error error => exact .error error

/-- A common condition selects agreeing branches. -/
theorem ite {condition : Prop} [Decidable condition] {left other : Except Error Left}
    {right another : Except Error Right} (holds : condition → Agrees related left right)
    (fails : ¬ condition → Agrees related other another) :
    Agrees related (if condition then left else other)
      (if condition then right else another) := by
  by_cases met : condition
  · rw [if_pos met, if_pos met]
    exact holds met
  · rw [if_neg met, if_neg met]
    exact fails met

end Agrees

namespace Transition

variable {Left Right Action Output : Type} {step : Left → Action → Output × Left}
  {otherStep : Right → Action → Output × Right}

/-- The answers of a run in their order. -/
def outputs {State : Type} (step : State → Action → Output × State) (state : State)
    (actions : List Action) : List Output :=
  collect step (fun state action => [(step state action).1]) state actions

@[simp] theorem outputs_cons {State : Type} (step : State → Action → Output × State)
    (state : State) (action : Action) (rest : List Action) :
    outputs step state (action :: rest) =
      (step state action).1 :: outputs step (step state action).2 rest := rfl

/-- Two machines whose guarded steps answer alike and stay related give the same answers. -/
theorem outputs_eq {related : Left → Right → Prop} {guard : Left → Action → Prop}
    (stepped : ∀ left right action, related left right → guard left action →
      (otherStep right action).1 = (step left action).1 ∧
        related (step left action).2 (otherStep right action).2)
    {left : Left} {right : Right} {actions : List Action} (initial : related left right)
    (along : Along step guard left actions) :
    outputs otherStep right actions = outputs step left actions ∧
      related (run step left actions) (run otherStep right actions) := by
  induction actions generalizing left right with
  | nil => exact ⟨rfl, initial⟩
  | cons action rest ih =>
      obtain ⟨answer, after⟩ := stepped left right action initial along.1
      obtain ⟨answers, final⟩ := ih after along.2
      exact ⟨by rw [outputs_cons, outputs_cons, answer, answers], final⟩

end Transition

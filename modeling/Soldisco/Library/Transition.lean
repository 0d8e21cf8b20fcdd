import Mathlib.Data.List.Basic
import Mathlib.Data.List.Induction

/-
This file gives the runs of a deterministic step function and their induction rules.
-/

namespace Transition

variable {State Action Output : Type} (step : State → Action → Output × State)

/-- A run applies its actions from left to right and keeps only the states. -/
def run (state : State) : List Action → State
  | [] => state
  | action :: rest => run (step state action).2 rest

@[simp] theorem run_nil (state : State) : run step state [] = state := rfl

@[simp] theorem run_cons (state : State) (action : Action) (rest : List Action) :
    run step state (action :: rest) = run step (step state action).2 rest := rfl

theorem run_append (state : State) (first second : List Action) :
    run step state (first ++ second) = run step (run step state first) second := by
  induction first generalizing state with
  | nil => rfl
  | cons action rest ih => exact ih (step state action).2

/-- The last action of a run starts from the state of the shorter run. -/
theorem run_concat (state : State) (actions : List Action) (action : Action) :
    run step state (actions ++ [action]) = (step (run step state actions) action).2 := by
  rw [run_append]
  rfl

/-- A guard holds along a run when each action meets it in the state it starts from. -/
def Along (guard : State → Action → Prop) : State → List Action → Prop
  | _, [] => True
  | state, action :: rest => guard state action ∧ Along guard (step state action).2 rest

instance decidableAlong (guard : State → Action → Prop) [∀ state action, Decidable (guard state action)] :
    ∀ (state : State) (actions : List Action), Decidable (Along step guard state actions)
  | _, [] => isTrue trivial
  | state, action :: rest =>
      @instDecidableAnd _ _ _ (decidableAlong guard (step state action).2 rest)

variable {step}

/-- A guard holds along two runs one after the other. -/
theorem along_append {guard : State → Action → Prop} {state : State} {first : List Action}
    (second : List Action) : Along step guard state (first ++ second) ↔
      Along step guard state first ∧ Along step guard (run step state first) second := by
  induction first generalizing state with
  | nil => exact ⟨fun along => ⟨trivial, along⟩, And.right⟩
  | cons action rest ih =>
      change guard state action ∧ Along step guard _ (rest ++ second) ↔
        (guard state action ∧ Along step guard _ rest) ∧ _
      rw [ih, and_assoc]
      rfl

/-- A guard that the actions meet in every state holds along their run. -/
theorem along_of_forall {guard : State → Action → Prop} {actions : List Action} (state : State)
    (meets : ∀ state, ∀ action ∈ actions, guard state action) :
    Along step guard state actions := by
  induction actions generalizing state with
  | nil => exact trivial
  | cons action rest ih =>
      exact ⟨meets state action List.mem_cons_self, ih _ fun state later member =>
        meets state later (List.mem_cons_of_mem _ member)⟩

variable (step)

/-- An invariant that each guarded step keeps holds after each guarded run. -/
theorem invariant_of_along {guard : State → Action → Prop} (invariant : State → Prop)
    (preserved : ∀ state action, invariant state → guard state action →
      invariant (step state action).2)
    {state : State} {actions : List Action} (initial : invariant state)
    (along : Along step guard state actions) : invariant (run step state actions) := by
  induction actions generalizing state with
  | nil => exact initial
  | cons action rest ih => exact ih (preserved state action initial along.1) along.2

/-- A guard that is asked of the steps with an accepted output only. -/
def WhenAccepted (accepted : Output → Bool) (guard : State → Action → Prop) (state : State)
    (action : Action) : Prop :=
  accepted (step state action).1 = true → guard state action

/-- A guard that holds along a run holds of its accepted steps. -/
theorem along_whenAccepted {accepted : Output → Bool} {guard : State → Action → Prop}
    {state : State} {actions : List Action} (along : Along step guard state actions) :
    Along step (WhenAccepted step accepted guard) state actions := by
  induction actions generalizing state with
  | nil => exact trivial
  | cons action rest ih => exact ⟨fun _ => along.1, ih along.2⟩

/-- Where a refused step changes nothing, an invariant that each guarded step keeps holds after each
run with guarded accepted steps. -/
theorem invariant_of_accepted {accepted : Output → Bool} {guard : State → Action → Prop}
    (invariant : State → Prop)
    (refused : ∀ state action, accepted (step state action).1 = false →
      (step state action).2 = state)
    (preserved : ∀ state action, invariant state → guard state action →
      invariant (step state action).2)
    {state : State} {actions : List Action} (initial : invariant state)
    (along : Along step (WhenAccepted step accepted guard) state actions) :
    invariant (run step state actions) := by
  refine invariant_of_along step invariant (fun state action holds guarded => ?_) initial along
  cases outcome : accepted (step state action).1 with
  | false =>
      rw [refused state action outcome]
      exact holds
  | true => exact preserved state action holds (guarded outcome)

/-- An invariant that each step keeps holds after each run. -/
theorem invariant_run (invariant : State → Prop)
    (preserved : ∀ state action, invariant state → invariant (step state action).2)
    {state : State} (initial : invariant state) (actions : List Action) :
    invariant (run step state actions) := by
  induction actions generalizing state with
  | nil => exact initial
  | cons action rest ih => exact ih (preserved state action initial)

/-- The items that the steps of a run emit, in their order. -/
def collect {Item : Type} (emit : State → Action → List Item) : State → List Action → List Item
  | _, [] => []
  | state, action :: rest => emit state action ++ collect emit (step state action).2 rest

/-- A longer run emits the items of the shorter one first. -/
theorem collect_append {Item : Type} (emit : State → Action → List Item) (state : State)
    (first second : List Action) : collect step emit state (first ++ second) =
      collect step emit state first ++ collect step emit (run step state first) second := by
  induction first generalizing state with
  | nil => rfl
  | cons action rest ih =>
      rw [List.cons_append, collect, collect, ih, List.append_assoc]
      rfl

/-- An invariant of the state and the emitted items that each guarded step keeps holds after each
guarded run. -/
theorem collect_invariant {Item : Type} {emit : State → Action → List Item}
    {guard : State → Action → Prop} (invariant : State → List Item → Prop)
    (preserved : ∀ state items action, invariant state items → guard state action →
      invariant (step state action).2 (items ++ emit state action))
    {state : State} {items : List Item} {actions : List Action} (initial : invariant state items)
    (along : Along step guard state actions) :
    invariant (run step state actions) (items ++ collect step emit state actions) := by
  induction actions generalizing state items with
  | nil =>
      rw [collect, List.append_nil]
      exact initial
  | cons action rest ih =>
      rw [collect, ← List.append_assoc]
      exact ih (preserved state items action initial along.1) along.2

variable {step}

/-- A split of a longer list splits the shorter list or ends at the new item. -/
theorem split_concat {Item : Type} {items before after : List Item} {last item : Item}
    (split : items ++ [last] = before ++ item :: after) :
    (before = items ∧ item = last ∧ after = []) ∨
      ∃ rest, after = rest ++ [last] ∧ items = before ++ item :: rest := by
  rcases List.eq_nil_or_concat' after with rfl | ⟨rest, other, rfl⟩
  · obtain ⟨same, ends⟩ := List.append_inj' split rfl
    exact .inl ⟨same.symm, (List.singleton_inj.mp ends).symm, rfl⟩
  · have longer : items ++ [last] = (before ++ item :: rest) ++ [other] := by
      rw [split, List.append_assoc, List.cons_append]
    obtain ⟨same, ends⟩ := List.append_inj' longer rfl
    rw [List.singleton_inj.mp ends]
    exact .inr ⟨rest, rfl, same⟩

/-- Since the last event of the run a property has held without a break. -/
def HeldSince (step : State → Action → Output × State) (event : State → Action → Prop)
    (holds : State → Prop) (state : State) (actions : List Action) : Prop :=
  ∃ before action after, actions = before ++ action :: after ∧
    event (run step state before) action ∧
    (∀ earlier other later, after = earlier ++ other :: later →
      ¬ event (run step state (before ++ action :: earlier)) other) ∧
    ∀ earlier later, after = earlier ++ later →
      holds (run step state (before ++ action :: earlier))

/-- A property that only an event can start has held since the last event. -/
theorem heldSince_run {event : State → Action → Prop} {holds : State → Prop}
    (invariant : State → Prop)
    (preserved : ∀ state action, invariant state → invariant (step state action).2)
    (started : ∀ state action, invariant state → holds (step state action).2 →
      event state action ∨ holds state)
    {state : State} (initial : invariant state) (absent : ¬ holds state) (actions : List Action)
    (present : holds (run step state actions)) : HeldSince step event holds state actions := by
  induction actions using List.reverseRecOn with
  | nil => exact absurd present absent
  | append_singleton actions action ih =>
      by_cases starts : event (run step state actions) action
      · refine ⟨actions, action, [], rfl, starts, ?_, ?_⟩
        · intro earlier other later split
          cases earlier <;> cases split
        · intro earlier later split
          obtain ⟨rfl, -⟩ := List.append_eq_nil_iff.mp split.symm
          exact present
      · rw [run_concat] at present
        have before := (started _ action (invariant_run step invariant preserved initial actions)
          present).resolve_left starts
        obtain ⟨first, began, after, split, event, quiet, held⟩ := ih before
        have extended : actions ++ [action] = first ++ began :: (after ++ [action]) := by
          rw [split, List.append_assoc, List.cons_append]
        refine ⟨first, began, after ++ [action], extended, event, ?_, ?_⟩
        · intro earlier other later longer
          rcases split_concat longer with ⟨rfl, rfl, rfl⟩ | ⟨rest, rfl, shorter⟩
          · rw [← split]
            exact starts
          · exact quiet earlier other rest shorter
        · intro earlier later longer
          rcases List.eq_nil_or_concat' later with rfl | ⟨rest, other, rfl⟩
          · rw [List.append_nil] at longer
            rw [← longer, ← extended, run_concat]
            exact present
          · rw [← List.append_assoc] at longer
            exact held earlier rest (List.append_inj' longer rfl).1

end Transition

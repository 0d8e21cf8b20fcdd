import Mathlib.Data.List.Basic

/-
This file gives ordered forests of calls, their printed form and the stack that reads it back.
-/

namespace CallForest

/-- An ordered forest of labelled calls with leaves between them. -/
inductive Forest (Label Leaf : Type) where
  | empty
  | leaf (value : Leaf) (rest : Forest Label Leaf)
  | call (label : Label) (inner rest : Forest Label Leaf)
deriving DecidableEq, Repr

/-- An enter token carries its depth and an exit token carries its label. -/
inductive Token (Label Leaf : Type) where
  | enter (label : Label) (depth : Nat)
  | exit (label : Label)
  | leaf (value : Leaf)
deriving DecidableEq, Repr

variable {Label Leaf : Type}

def Token.isBracket : Token Label Leaf → Bool
  | .enter _ _ | .exit _ => true
  | .leaf _ => false

/-- An outermost token enters a call that no other call surrounds. -/
def Token.isOutermost : Token Label Leaf → Bool
  | .enter _ depth => depth == 1
  | .exit _ | .leaf _ => false

namespace Forest

/-- A call prints its enter before its inner forest and its exit after it. -/
def print (depth : Nat) : Forest Label Leaf → List (Token Label Leaf)
  | .empty => []
  | .leaf value rest => .leaf value :: rest.print depth
  | .call label inner rest =>
      .enter label depth :: (inner.print (depth + 1) ++ .exit label :: rest.print depth)

/-- The calls at the top of the forest with their inner forests. -/
def calls : Forest Label Leaf → List (Label × Forest Label Leaf)
  | .empty => []
  | .leaf _ rest => rest.calls
  | .call label inner rest => (label, inner) :: rest.calls

/-- The leaves whose nearest enclosing call has the target label. -/
def leavesOf [DecidableEq Label] (target enclosing : Label) : Forest Label Leaf → List Leaf
  | .empty => []
  | .leaf value rest =>
      if enclosing = target then value :: rest.leavesOf target enclosing
      else rest.leavesOf target enclosing
  | .call label inner rest => inner.leavesOf target label ++ rest.leavesOf target enclosing

/-- The forest that has leaves only. -/
def leaves (values : List Leaf) : Forest Label Leaf := values.foldr .leaf .empty

@[simp] theorem print_leaves (values : List Leaf) (depth : Nat) :
    (leaves values : Forest Label Leaf).print depth = values.map .leaf := by
  induction values with
  | nil => rfl
  | cons value rest ih => exact congrArg (.leaf value :: ·) ih

@[simp] theorem leavesOf_leaves [DecidableEq Label] (target enclosing : Label)
    (values : List Leaf) :
    (leaves values).leavesOf target enclosing = if enclosing = target then values else [] := by
  induction values with
  | nil => simp [leaves, leavesOf]
  | cons value rest ih =>
      change leavesOf target enclosing (.leaf value (leaves rest)) = _
      rw [leavesOf, ih]
      split <;> rfl

/-- A printed forest enters its calls at the depth of the print. -/
theorem countP_isOutermost_print (forest : Forest Label Leaf) {depth : Nat}
    (positive : 0 < depth) :
    (forest.print depth).countP Token.isOutermost =
      if depth = 1 then forest.calls.length else 0 := by
  induction forest generalizing depth with
  | empty => simp [print, calls]
  | leaf value rest ih => simpa [print, calls, Token.isOutermost] using ih positive
  | call label inner rest ihInner ihRest =>
      have inside := ihInner (Nat.succ_pos depth)
      rw [if_neg (by omega)] at inside
      simp only [print, calls, List.countP_cons, List.countP_append, inside, ihRest positive,
        Token.isOutermost, beq_iff_eq, List.length_cons]
      split_ifs <;> simp_all

end Forest

variable [DecidableEq Label]

/-- The stack accepts an enter one level deeper and an exit of its innermost label. -/
def step (stack : List Label) : Token Label Leaf → Option (List Label)
  | .enter label depth => if depth = stack.length + 1 then some (label :: stack) else none
  | .exit label =>
      match stack with
      | [] => none
      | innermost :: below => if innermost = label then some below else none
  | .leaf _ => some stack

/-- The labels that are open after the tokens, innermost first. -/
def openLabels (stack : List Label) : List (Token Label Leaf) → Option (List Label)
  | [] => some stack
  | token :: rest => (step stack token).bind fun next => openLabels next rest

theorem openLabels_append (stack : List Label) (front back : List (Token Label Leaf)) :
    openLabels stack (front ++ back) = (openLabels stack front).bind fun next =>
      openLabels next back := by
  induction front generalizing stack with
  | nil => rfl
  | cons token rest ih =>
      simp only [List.cons_append, openLabels]
      cases step stack token with
      | none => rfl
      | some next => exact ih next

/-- Leaves do not change the open labels. -/
theorem openLabels_filter (stack : List Label) (tokens : List (Token Label Leaf)) :
    openLabels stack (tokens.filter Token.isBracket) = openLabels stack tokens := by
  induction tokens generalizing stack with
  | nil => rfl
  | cons token rest ih =>
      cases token with
      | leaf value => exact ih stack
      | enter label depth =>
          simp only [List.filter_cons, Token.isBracket, if_true, openLabels, ih]
      | exit label =>
          simp only [List.filter_cons, Token.isBracket, if_true, openLabels, ih]

/-- A printed forest leaves the stack as it was. -/
theorem openLabels_print (forest : Forest Label Leaf) (stack : List Label) :
    openLabels stack (forest.print (stack.length + 1)) = some stack := by
  induction forest generalizing stack with
  | empty => rfl
  | leaf value rest ih => exact ih stack
  | call label inner rest ihInner ihRest =>
      have inside := ihInner (label :: stack)
      rw [List.length_cons] at inside
      simp only [Forest.print, openLabels, step, if_true, Option.bind_some, openLabels_append,
        inside]
      exact ihRest stack

/-- Tokens that close every open label start with a forest and the exit of the innermost label. -/
theorem exists_forest_of_openLabels (tokens : List (Token Label Leaf)) (stack : List Label)
    (closes : openLabels stack tokens = some []) :
    ∃ forest : Forest Label Leaf,
      (stack = [] ∧ tokens = forest.print 1) ∨
      ∃ label below rest, stack = label :: below ∧
        tokens = forest.print (stack.length + 1) ++ .exit label :: rest ∧
        openLabels below rest = some [] := by
  -- An enter uses the statement for the inner tokens and again for those after its exit.
  induction size : tokens.length using Nat.strongRecOn generalizing tokens stack with
  | _ size ih =>
      subst size
      cases tokens with
      | nil =>
          cases closes
          exact ⟨.empty, .inl ⟨rfl, rfl⟩⟩
      | cons token rest =>
          cases token with
          | leaf value =>
              obtain ⟨forest, outcome⟩ := ih _ (by simp) rest stack closes rfl
              refine ⟨.leaf value forest, outcome.imp ?_ ?_⟩
              · rintro ⟨rfl, rfl⟩
                exact ⟨rfl, rfl⟩
              · rintro ⟨label, below, after, rfl, rfl, closed⟩
                exact ⟨label, below, after, rfl, rfl, closed⟩
          | exit label =>
              cases stack with
              | nil => cases closes
              | cons innermost below =>
                  simp only [openLabels, step] at closes
                  split at closes
                  · rename_i same
                    subst same
                    exact ⟨.empty, .inr ⟨innermost, below, rest, rfl, rfl, closes⟩⟩
                  · cases closes
          | enter label depth =>
              simp only [openLabels, step] at closes
              split at closes
              · rename_i deeper
                subst deeper
                obtain ⟨inner, outcome⟩ := ih _ (by simp) rest (label :: stack) closes rfl
                rcases outcome with ⟨impossible, -⟩ | ⟨_, _, after, same, rfl, closed⟩
                · cases impossible
                cases same
                have shorter : after.length < (Token.enter label (stack.length + 1) ::
                    (inner.print ((label :: stack).length + 1) ++ .exit label :: after)).length := by
                  simp only [List.length_cons, List.length_append]
                  omega
                obtain ⟨forest, outcome⟩ := ih _ shorter after stack closed rfl
                refine ⟨.call label inner forest, outcome.imp ?_ ?_⟩
                · rintro ⟨rfl, rfl⟩
                  exact ⟨rfl, rfl⟩
                · rintro ⟨outer, below, last, rfl, rfl, closedOuter⟩
                  refine ⟨outer, below, last, rfl, ?_, closedOuter⟩
                  simp [Forest.print]
              · cases closes

/-- The stack accepts exactly the printed forests. -/
theorem openLabels_eq_nil_iff (tokens : List (Token Label Leaf)) :
    openLabels [] tokens = some [] ↔ ∃ forest : Forest Label Leaf, tokens = forest.print 1 := by
  constructor
  · intro closes
    obtain ⟨forest, outcome⟩ := exists_forest_of_openLabels tokens [] closes
    rcases outcome with ⟨-, printed⟩ | ⟨label, below, rest, impossible, -⟩
    · exact ⟨forest, printed⟩
    · cases impossible
  · rintro ⟨forest, rfl⟩
    exact openLabels_print forest []

/-- The brackets alone decide whether the tokens are a printed forest. -/
theorem exists_print_iff_filter (tokens : List (Token Label Leaf)) :
    (∃ forest : Forest Label Leaf, tokens = forest.print 1) ↔
      ∃ forest : Forest Label Leaf, tokens.filter Token.isBracket = forest.print 1 := by
  rw [← openLabels_eq_nil_iff, ← openLabels_eq_nil_iff, openLabels_filter]

end CallForest

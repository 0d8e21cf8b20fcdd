import Soldisco.Construction.Intake.Coverage
import Soldisco.Proof.Intake.LogScope

/-
This file gives the forest of invocations with their outcomes and the places in it.
-/

namespace Soldisco.Intake
open CallForest

/-- The lines and the invocations that follow each other in one invocation. -/
inductive Invocations where
  | done
  | line (log : String) (rest : Invocations)
  | invocation (program : String) (inner : Invocations) (succeeded : Bool) (rest : Invocations)
deriving DecidableEq, Repr

/-- A line enters an invocation, exits one with an outcome or stands between them. -/
inductive LogToken where
  | invoke (program : String) (depth : Nat)
  | exit (program : String) (succeeded : Bool)
  | line (log : String)
deriving DecidableEq, Repr

def logToken (log : String) : LogToken :=
  match parseInvoke log with
  | some (invokedProgram, depth) => .invoke invokedProgram depth
  | none =>
      match parseExit log with
      | some (exitedProgram, succeeded) => .exit exitedProgram succeeded
      | none => .line log

def LogToken.withoutOutcome : LogToken → Token String String
  | .invoke program depth => .enter program depth
  | .exit program _ => .exit program
  | .line log => .leaf log

theorem withoutOutcome_logToken (log : String) : (logToken log).withoutOutcome = tokenOf log := by
  unfold logToken tokenOf
  cases parseInvoke log with
  | some invoked => rfl
  | none =>
      cases parseExit log with
      | some exited => rfl
      | none => rfl

namespace Invocations

def print (depth : Nat) : Invocations → List LogToken
  | .done => []
  | .line log rest => .line log :: rest.print depth
  | .invocation program inner succeeded rest =>
      .invoke program depth ::
        (inner.print (depth + 1) ++ .exit program succeeded :: rest.print depth)

def withoutOutcomes : Invocations → Forest String String
  | .done => .empty
  | .line log rest => .leaf log rest.withoutOutcomes
  | .invocation program inner _ rest => .call program inner.withoutOutcomes rest.withoutOutcomes

theorem map_print (forest : Invocations) (depth : Nat) :
    (forest.print depth).map LogToken.withoutOutcome = forest.withoutOutcomes.print depth := by
  induction forest generalizing depth with
  | done => rfl
  | line log rest ih =>
      rw [print, List.map_cons, ih]
      rfl
  | invocation program inner succeeded rest ihInner ihRest =>
      rw [print, List.map_cons, List.map_append, List.map_cons, ihInner, ihRest]
      rfl

/-- Tokens whose brackets print a forest print one with outcomes. -/
theorem exists_print_of_map (forest : Forest String String) (depth : Nat)
    (tokens : List LogToken) (after : List (Token String String))
    (printed : tokens.map LogToken.withoutOutcome = forest.print depth ++ after) :
    ∃ (invocations : Invocations) (rest : List LogToken),
      tokens = invocations.print depth ++ rest ∧ rest.map LogToken.withoutOutcome = after := by
  induction forest generalizing depth tokens after with
  | empty => exact ⟨.done, tokens, rfl, printed⟩
  | leaf log rest ih =>
      obtain ⟨token, others, rfl, first, later⟩ := List.map_eq_cons_iff.mp printed
      obtain ⟨invocations, remaining, rfl, left⟩ := ih depth others after later
      cases token with
      | invoke _ _ => cases first
      | exit _ _ => cases first
      | line text =>
          cases first
          exact ⟨.line log invocations, remaining, rfl, left⟩
  | call label inner rest ihInner ihRest =>
      rw [Forest.print, List.cons_append, List.append_assoc, List.cons_append] at printed
      obtain ⟨token, others, rfl, first, later⟩ := List.map_eq_cons_iff.mp printed
      obtain ⟨inside, remaining, rfl, left⟩ := ihInner (depth + 1) others _ later
      obtain ⟨closing, following, rfl, last, outside⟩ := List.map_eq_cons_iff.mp left
      obtain ⟨next, final, rfl, ends⟩ := ihRest depth following after outside
      cases token with
      | exit _ _ => cases first
      | line _ => cases first
      | invoke program level =>
          cases first
          cases closing with
          | invoke _ _ => cases last
          | line _ => cases last
          | exit exited succeeded =>
              cases last
              refine ⟨.invocation label inside succeeded next, final, ?_, ends⟩
              rw [print, List.cons_append, List.append_assoc, List.cons_append]

theorem exists_print (logs : List String) (forest : Forest String String)
    (printed : logs.map tokenOf = forest.print 1) :
    ∃ invocations : Invocations, logs.map logToken = invocations.print 1 := by
  have mapped : (logs.map logToken).map LogToken.withoutOutcome = forest.print 1 ++ [] := by
    rw [List.map_map, List.append_nil, ← printed]
    apply List.map_congr_left
    intro log _
    exact withoutOutcome_logToken log
  obtain ⟨invocations, rest, whole, none⟩ := exists_print_of_map forest 1 _ _ mapped
  rw [List.map_eq_nil_iff] at none
  rw [none, List.append_nil] at whole
  exact ⟨invocations, whole⟩

theorem tokenOf_of_print {logs : List String} {invocations : Invocations}
    (printed : logs.map logToken = invocations.print 1) :
    logs.map tokenOf = invocations.withoutOutcomes.print 1 := by
  rw [← map_print, ← printed, List.map_map]
  apply List.map_congr_left
  intro log _
  exact (withoutOutcome_logToken log).symm

end Invocations

/-- A line or an invocation among its siblings. -/
inductive Sibling where
  | line (log : String)
  | invocation (program : String) (inner : Invocations) (succeeded : Bool)
deriving DecidableEq, Repr

/-- A place in the forest: the programs around it from the innermost outwards, the siblings before it
from the nearest backwards, what stands there and what follows it in the same invocation. -/
structure Place where
  ancestors : List String
  before : List Sibling
  sibling : Sibling
  after : Invocations
deriving DecidableEq, Repr

namespace Invocations

def places (ancestors : List String) (before : List Sibling) : Invocations → List Place
  | .done => []
  | .line log rest =>
      ⟨ancestors, before, .line log, rest⟩ :: rest.places ancestors (.line log :: before)
  | .invocation program inner succeeded rest =>
      ⟨ancestors, before, .invocation program inner succeeded, rest⟩ ::
        (inner.places (program :: ancestors) [] ++
          rest.places ancestors (.invocation program inner succeeded :: before))

end Invocations

section Corroboration

variable (programId : String)

/-- The line reports the compute units of the program; a line of program data is data. -/
def isOwnConsumedLine (log : String) : Bool :=
  !isProgramData log && isComputeConsumedLog programId log

/-- No invocation and no line but reports of compute units. -/
def Invocations.isSilent : Invocations → Bool
  | .done => true
  | .line log rest => isOwnConsumedLine programId log && rest.isSilent
  | .invocation _ _ _ _ => false

/-- The first thing after reports of compute units is a successful silent invocation. -/
def Invocations.startsWithSilentCall : Invocations → Bool
  | .done => false
  | .line log rest => isOwnConsumedLine programId log && rest.startsWithSilentCall
  | .invocation program inner succeeded _ =>
      program == programId && succeeded && inner.isSilent programId

/-- The lines of program data that are separated from here by reports of compute units only. -/
def dataLinesFollowed : List Sibling → List String
  | .line log :: before =>
      (if isProgramData log then [log] else []) ++
        (if isOwnConsumedLine programId log then dataLinesFollowed before else [])
  | .invocation _ _ _ :: _ | [] => []

namespace Place

/-- A line of program data whose innermost invocation is the program. -/
def IsEventLine (place : Place) : Prop :=
  (∃ log, place.sibling = .line log ∧ isProgramData log = true) ∧
    place.ancestors.head? = some programId

/-- A successful silent invocation of the program. -/
def IsSilentCall (place : Place) : Prop :=
  ∃ inner, place.sibling = .invocation programId inner true ∧ inner.isSilent programId = true

/-- The innermost invocation is the program and none around it is. -/
def IsDirect (place : Place) : Prop :=
  place.ancestors.head? = some programId ∧ programId ∉ place.ancestors.tail

end Place

/-- Every line of program data of the program stands in an invocation of it without a further one
around it and is followed by a successful silent self-invocation, and every such self-invocation
follows exactly one of these lines. -/
structure CorroboratedExactly (forest : Invocations) : Prop where
  direct : ∀ place ∈ forest.places [] [], place.IsEventLine programId →
    programId ∉ place.ancestors.tail
  followed : ∀ place ∈ forest.places [] [], place.IsEventLine programId →
    place.after.startsWithSilentCall programId = true
  paired : ∀ place ∈ forest.places [] [], place.IsSilentCall programId →
    programId ∈ place.ancestors →
    place.IsDirect programId ∧ (dataLinesFollowed programId place.before).length = 1

end Corroboration
end Soldisco.Intake

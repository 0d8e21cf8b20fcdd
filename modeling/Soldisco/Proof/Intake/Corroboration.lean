import Soldisco.Proof.Intake.Invocations

/-
This file computes the corroboration of one instruction on its forest and proves what it decides.
-/

namespace Soldisco.Intake

/-- A gap is never taken back. -/
def SelfCpiCoverage.noteGap (instruction : SelfCpiCoverage) (gap : Bool) : SelfCpiCoverage :=
  { instruction with pairingGap := instruction.pairingGap || gap }

@[simp]
theorem SelfCpiCoverage.noteGap_noteGap (instruction : SelfCpiCoverage) (first second : Bool) :
    (instruction.noteGap first).noteGap second = instruction.noteGap (first || second) := by
  simp [noteGap, Bool.or_assoc]

variable (programId : String)

namespace Invocations

/-- Some successful silent invocation of the program stands at any depth. -/
def hasSilentCall : Invocations → Bool
  | .done => false
  | .line _ rest => rest.hasSilentCall
  | .invocation program inner succeeded rest =>
      (program == programId && succeeded && inner.isSilent programId) || inner.hasSilentCall ||
        rest.hasSilentCall

/-- A silent call among what stands below a self-invocation is a gap. -/
def noteSilentCalls (inner : Invocations) (instruction : SelfCpiCoverage) : SelfCpiCoverage :=
  instruction.noteGap (inner.hasSilentCall programId)

/-- The self-invocation that a pending event waits for counts it or leaves a gap. -/
def settlePending (succeeded silent : Bool) (instruction : SelfCpiCoverage) : SelfCpiCoverage :=
  if succeeded && silent then
    { instruction with
      successfulEventCalls := instruction.successfulEventCalls + 1
      pendingDirectEvent := false }
  else { instruction with pairingGap := true, pendingDirectEvent := false }

/-- What an invocation of the program without a further one around it makes of the instruction. -/
def directCoverage : Invocations → SelfCpiCoverage → SelfCpiCoverage
  | .done, instruction => instruction
  | .line log rest, instruction =>
      rest.directCoverage
        (if isProgramData log then instruction.recordDirectEvent
        else if isComputeConsumedLog programId log then instruction
        else instruction.dropPending)
  | .invocation program inner succeeded rest, instruction =>
      let noted := inner.noteSilentCalls programId
      rest.directCoverage
        (if program = programId then
          if instruction.pendingDirectEvent then
            settlePending succeeded (inner.isSilent programId) (noted instruction)
          else (noted instruction).noteGap (succeeded && inner.isSilent programId)
        else noted instruction.dropPending)

/-- What lines and invocations outside the program make of the instruction. -/
def outerCoverage : Invocations → SelfCpiCoverage → SelfCpiCoverage
  | .done, instruction => instruction
  | .line _ rest, instruction => rest.outerCoverage instruction
  | .invocation program inner _ rest, instruction =>
      rest.outerCoverage
        (if program = programId then (inner.directCoverage programId instruction).dropPending
        else inner.outerCoverage instruction)

/-- Every pending event and every silent self-invocation find each other. -/
def IsPaired : Bool → Invocations → Prop
  | pending, .done => pending = false
  | pending, .line log rest =>
      if isProgramData log then pending = false ∧ rest.IsPaired true
      else if isComputeConsumedLog programId log then rest.IsPaired pending
      else pending = false ∧ rest.IsPaired false
  | pending, .invocation program inner succeeded rest =>
      (if program = programId then
        (succeeded && inner.isSilent programId) = pending
      else pending = false) ∧ inner.hasSilentCall programId = false ∧ rest.IsPaired false

/-- Every invocation of the program without a further one around it is paired. -/
def AllPaired : Invocations → Prop
  | .done => True
  | .line _ rest => rest.AllPaired
  | .invocation program inner _ rest =>
      (if program = programId then inner.IsPaired programId false else inner.AllPaired) ∧
        rest.AllPaired

/-- The lines of program data right in an invocation. -/
def dataLines : Invocations → Nat
  | .done => 0
  | .line log rest => (isProgramData log).toNat + rest.dataLines
  | .invocation _ _ _ rest => rest.dataLines

/-- The lines of program data right in the invocations of the program without a further one around
them. -/
def directDataLines : Invocations → Nat
  | .done => 0
  | .line _ rest => rest.directDataLines
  | .invocation program inner _ rest =>
      (if program = programId then inner.dataLines else inner.directDataLines) +
        rest.directDataLines

end Invocations

namespace SelfCpiCoverage

@[simp]
theorem dropPending_pending (instruction : SelfCpiCoverage) :
    instruction.dropPending.pendingDirectEvent = false := by
  unfold dropPending
  split
  · rfl
  · rename_i absent
    simpa using absent

@[simp]
theorem dropPending_calls (instruction : SelfCpiCoverage) :
    instruction.dropPending.successfulEventCalls = instruction.successfulEventCalls := by
  unfold dropPending
  split <;> rfl

@[simp]
theorem dropPending_gap (instruction : SelfCpiCoverage) :
    instruction.dropPending.pairingGap =
      (instruction.pairingGap || instruction.pendingDirectEvent) := by
  unfold dropPending
  cases pending : instruction.pendingDirectEvent <;> simp

end SelfCpiCoverage

namespace Invocations

/-- No gap is left exactly when there was none before and the events are paired. -/
theorem directCoverage_gap (forest : Invocations) (instruction : SelfCpiCoverage) :
    (forest.directCoverage programId instruction).dropPending.pairingGap = false ↔
      instruction.pairingGap = false ∧
        forest.IsPaired programId instruction.pendingDirectEvent := by
  induction forest generalizing instruction with
  | done => simp [directCoverage, IsPaired]
  | line log rest ih =>
      rw [directCoverage, ih, IsPaired]
      split_ifs
      · simp [SelfCpiCoverage.recordDirectEvent, and_assoc]
      · rfl
      · simp [and_assoc]
  | invocation program inner succeeded rest ihInner ihRest =>
      rw [directCoverage, ihRest, IsPaired]
      split_ifs with same pending
      · cases paired : succeeded && inner.isSilent programId <;>
          simp [settlePending, noteSilentCalls, SelfCpiCoverage.noteGap, paired, pending, and_assoc]
      · simp only [noteSilentCalls, SelfCpiCoverage.noteGap, Bool.not_eq_true] at pending ⊢
        simp only [pending, Bool.or_eq_false_iff, and_assoc]
        tauto
      · simp only [noteSilentCalls, SelfCpiCoverage.noteGap, SelfCpiCoverage.dropPending_gap,
          SelfCpiCoverage.dropPending_pending, Bool.or_eq_false_iff, and_assoc]

/-- Paired events are all counted. -/
theorem directCoverage_calls (forest : Invocations) (instruction : SelfCpiCoverage)
    (paired : forest.IsPaired programId instruction.pendingDirectEvent) :
    (forest.directCoverage programId instruction).successfulEventCalls =
      instruction.successfulEventCalls + instruction.pendingDirectEvent.toNat +
        forest.dataLines := by
  induction forest generalizing instruction with
  | done =>
      have none : instruction.pendingDirectEvent = false := paired
      simp [directCoverage, dataLines, none]
  | line log rest ih =>
      rw [IsPaired] at paired
      rw [directCoverage, dataLines]
      split_ifs at paired ⊢ with data consumed
      · obtain ⟨none, later⟩ := paired
        rw [ih _ later]
        simp only [SelfCpiCoverage.recordDirectEvent, none, data, Bool.toNat_true, Bool.toNat_false]
        omega
      · rw [ih _ paired]
        simp only [data, Bool.toNat_false]
        omega
      · obtain ⟨none, later⟩ := paired
        rw [ih _ (by simpa using later)]
        simp only [SelfCpiCoverage.dropPending_calls, SelfCpiCoverage.dropPending_pending, none,
          data, Bool.toNat_false]
        omega
  | invocation program inner succeeded rest ihInner ihRest =>
      rw [IsPaired] at paired
      rw [directCoverage, dataLines]
      obtain ⟨own, -, later⟩ := paired
      split_ifs at own ⊢ with same pending
      · rw [pending] at own
        rw [ihRest _ (by simpa [settlePending, own] using later)]
        simp only [settlePending, own, noteSilentCalls, SelfCpiCoverage.noteGap, pending,
          Bool.toNat_true, Bool.toNat_false,
          if_true]
      · rw [ihRest]
        · rfl
        · simp only [noteSilentCalls, SelfCpiCoverage.noteGap, Bool.not_eq_true] at pending ⊢
          rw [pending]
          exact later
      · rw [ihRest _ (by simpa [noteSilentCalls, SelfCpiCoverage.noteGap] using later)]
        simp only [noteSilentCalls, SelfCpiCoverage.noteGap, SelfCpiCoverage.dropPending_calls,
          SelfCpiCoverage.dropPending_pending, own]

theorem outerCoverage_pending (forest : Invocations) (instruction : SelfCpiCoverage)
    (none : instruction.pendingDirectEvent = false) :
    (forest.outerCoverage programId instruction).pendingDirectEvent = false := by
  induction forest generalizing instruction with
  | done => exact none
  | line log rest ih => exact ih instruction none
  | invocation program inner succeeded rest ihInner ihRest =>
      rw [outerCoverage]
      apply ihRest
      split_ifs
      · exact SelfCpiCoverage.dropPending_pending _
      · exact ihInner instruction none

theorem outerCoverage_gap (forest : Invocations) (instruction : SelfCpiCoverage)
    (none : instruction.pendingDirectEvent = false) :
    (forest.outerCoverage programId instruction).pairingGap = false ↔
      instruction.pairingGap = false ∧ forest.AllPaired programId := by
  induction forest generalizing instruction with
  | done => simp [outerCoverage, AllPaired]
  | line log rest ih => exact ih instruction none
  | invocation program inner succeeded rest ihInner ihRest =>
      rw [outerCoverage, AllPaired]
      split_ifs
      · rw [ihRest _ (SelfCpiCoverage.dropPending_pending _), directCoverage_gap, none, and_assoc]
      · rw [ihRest _ (outerCoverage_pending programId inner instruction none),
          ihInner instruction none, and_assoc]

theorem outerCoverage_calls (forest : Invocations) (instruction : SelfCpiCoverage)
    (none : instruction.pendingDirectEvent = false) (paired : forest.AllPaired programId) :
    (forest.outerCoverage programId instruction).successfulEventCalls =
      instruction.successfulEventCalls + forest.directDataLines programId := by
  induction forest generalizing instruction with
  | done => rfl
  | line log rest ih => exact ih instruction none paired
  | invocation program inner succeeded rest ihInner ihRest =>
      rw [AllPaired] at paired
      rw [outerCoverage, directDataLines]
      obtain ⟨own, later⟩ := paired
      split_ifs at own ⊢
      · rw [ihRest _ (SelfCpiCoverage.dropPending_pending _) later,
          SelfCpiCoverage.dropPending_calls,
          directCoverage_calls programId inner instruction (none ▸ own), none, Bool.toNat_false]
        omega
      · rw [ihRest _ (outerCoverage_pending programId inner instruction none) later,
          ihInner instruction none own]
        omega

/-- The lines of program data whose innermost invocation is the program; the flag tells whether the
forest stands right in the program. -/
def eventLines (inside : Bool) : Invocations → Nat
  | .done => 0
  | .line log rest => (inside && isProgramData log).toNat + rest.eventLines inside
  | .invocation program inner _ rest =>
      inner.eventLines (program == programId) + rest.eventLines inside

/-- The event lines that have a further invocation of the program around them. -/
def selfEventLines : Invocations → Nat
  | .done => 0
  | .line _ rest => rest.selfEventLines
  | .invocation program inner _ rest =>
      (if program = programId then inner.eventLines programId false else inner.selfEventLines) +
        rest.selfEventLines

theorem eventLines_direct (forest : Invocations) :
    forest.eventLines programId true = forest.dataLines + forest.eventLines programId false := by
  induction forest with
  | done => rfl
  | line log rest ih =>
      simp only [eventLines, dataLines, ih, Bool.true_and, Bool.false_and, Bool.toNat_false]
      omega
  | invocation program inner succeeded rest ihInner ihRest =>
      simp only [eventLines, dataLines, ihRest]
      omega

theorem eventLines_outer (forest : Invocations) :
    forest.eventLines programId false =
      forest.directDataLines programId + forest.selfEventLines programId := by
  induction forest with
  | done => rfl
  | line log rest ih =>
      simp only [eventLines, directDataLines, selfEventLines, ih, Bool.false_and, Bool.toNat_false]
      omega
  | invocation program inner succeeded rest ihInner ihRest =>
      simp only [eventLines, directDataLines, selfEventLines, ihRest]
      split_ifs with same
      · rw [beq_iff_eq.mpr same, eventLines_direct]
        omega
      · rw [beq_false_of_ne same, ihInner]
        omega

/-- What the forest must satisfy at each of its places. -/
def HoldsAt (ancestors : List String) (before : List Sibling) (forest : Invocations) : Prop :=
  ∀ place ∈ forest.places ancestors before,
    (place.IsEventLine programId → programId ∉ place.ancestors.tail ∧
      place.after.startsWithSilentCall programId = true) ∧
    (place.IsSilentCall programId → programId ∈ place.ancestors →
      place.IsDirect programId ∧ (dataLinesFollowed programId place.before).length = 1)

theorem corroboratedExactly_iff_holdsAt (forest : Invocations) :
    CorroboratedExactly programId forest ↔ forest.HoldsAt programId [] [] := by
  constructor
  · intro exactly place member
    exact ⟨fun event => ⟨exactly.direct place member event, exactly.followed place member event⟩,
      exactly.paired place member⟩
  · intro holds
    exact ⟨fun place member event => ((holds place member).1 event).1,
      fun place member event => ((holds place member).1 event).2,
      fun place member => (holds place member).2⟩

section Places

variable (ancestors : List String) (before : List Sibling)

theorem holdsAt_line (log : String) (rest : Invocations) :
    (line log rest).HoldsAt programId ancestors before ↔
      (isProgramData log = true → ancestors.head? = some programId →
        programId ∉ ancestors.tail ∧ rest.startsWithSilentCall programId = true) ∧
      rest.HoldsAt programId ancestors (.line log :: before) := by
  unfold HoldsAt
  rw [places, List.forall_mem_cons]
  apply and_congr_left'
  simp [Place.IsEventLine, Place.IsSilentCall]

theorem holdsAt_invocation (program : String) (inner : Invocations) (succeeded : Bool)
    (rest : Invocations) :
    (invocation program inner succeeded rest).HoldsAt programId ancestors before ↔
      (program = programId → (succeeded && inner.isSilent programId) = true →
        programId ∈ ancestors → (ancestors.head? = some programId ∧
          programId ∉ ancestors.tail) ∧ (dataLinesFollowed programId before).length = 1) ∧
      inner.HoldsAt programId (program :: ancestors) [] ∧
      rest.HoldsAt programId ancestors (.invocation program inner succeeded :: before) := by
  unfold HoldsAt
  rw [places, List.forall_mem_cons, List.forall_mem_append]
  apply and_congr_left'
  simp [Place.IsEventLine, Place.IsSilentCall, Place.IsDirect]

end Places

/-- Below a self-invocation nothing is silent and no line is an event. -/
theorem holdsAt_nested (forest : Invocations) (ancestors : List String) (before : List Sibling)
    (inside : programId ∈ ancestors)
    (nested : ancestors.head? = some programId → programId ∈ ancestors.tail) :
    forest.HoldsAt programId ancestors before ↔ forest.hasSilentCall programId = false ∧
      forest.eventLines programId (ancestors.head? == some programId) = 0 := by
  induction forest generalizing ancestors before with
  | done => simp [HoldsAt, places, hasSilentCall, eventLines]
  | line log rest ih =>
      rw [holdsAt_line, ih ancestors _ inside nested, hasSilentCall, eventLines]
      by_cases own : ancestors.head? = some programId
      · have further := nested own
        cases data : isProgramData log <;> simp [own, further]
      · simp [own]
  | invocation program inner succeeded rest ihInner ihRest =>
      have below : (program :: ancestors).head? = some programId →
          programId ∈ (program :: ancestors).tail := fun _ => inside
      rw [holdsAt_invocation, ihInner (program :: ancestors) [] (List.mem_cons_of_mem _ inside) below,
        ihRest ancestors _ inside nested, hasSilentCall, eventLines]
      have notDirect : ¬ (ancestors.head? = some programId ∧ programId ∉ ancestors.tail) :=
        fun direct => direct.2 (nested direct.1)
      simp only [inside, notDirect, false_and, List.head?_cons, Nat.add_eq_zero_iff,
        Bool.or_eq_false_iff]
      have head : (some program == some programId) = (program == programId) := rfl
      rw [head]
      cases silent : succeeded && inner.isSilent programId <;>
        by_cases same : program = programId <;> simp [same, silent] <;> tauto

/-- Right in the program the events before and the silent calls after find each other. -/
theorem holdsAt_direct (forest : Invocations) (ancestors : List String) (before : List Sibling)
    (own : ancestors.head? = some programId) (outermost : programId ∉ ancestors.tail)
    (pending : Bool) (waits : (dataLinesFollowed programId before).length = pending.toNat) :
    forest.HoldsAt programId ancestors before ∧
        (pending = true → forest.startsWithSilentCall programId = true) ↔
      forest.IsPaired programId pending ∧ forest.eventLines programId false = 0 := by
  induction forest generalizing before pending with
  | done => simp [HoldsAt, places, startsWithSilentCall, IsPaired, eventLines]
  | line log rest ih =>
      rw [holdsAt_line, IsPaired, eventLines, startsWithSilentCall]
      simp only [Bool.false_and, Bool.toNat_false, Nat.zero_add]
      split_ifs with data consumed
      · have later := ih (.line log :: before) true (by
          simp [dataLinesFollowed, data, isOwnConsumedLine])
        rw [@and_assoc (pending = false), ← later]
        cases pending <;> simp [data, isOwnConsumedLine, own, outermost, and_comm]
      · have later := ih (.line log :: before) pending (by
          simpa [dataLinesFollowed, data, consumed, isOwnConsumedLine] using waits)
        rw [← later]
        simp [data, consumed, isOwnConsumedLine]
      · have later := ih (.line log :: before) false (by
          simp [dataLinesFollowed, data, consumed, isOwnConsumedLine])
        rw [@and_assoc (pending = false), ← later]
        cases pending <;> simp [data, consumed, isOwnConsumedLine]
  | invocation program inner succeeded rest ihInner ihRest =>
      have inside : programId ∈ ancestors := List.mem_of_mem_head? own
      have later := ihRest (.invocation program inner succeeded :: before) false rfl
      have below := holdsAt_nested programId inner (program :: ancestors) []
        (List.mem_cons_of_mem _ inside) fun _ => inside
      simp only [Bool.false_eq_true, false_implies, and_true] at later
      rw [holdsAt_invocation, below, later, IsPaired, eventLines, startsWithSilentCall, waits]
      have head : (some program == some programId) = (program == programId) := rfl
      simp only [own, outermost, inside, List.head?_cons, head, Nat.add_eq_zero_iff]
      cases silent : succeeded && inner.isSilent programId <;> cases pending <;>
        by_cases same : program = programId <;> simp [same, silent] <;> tauto

/-- Outside the program the direct invocations of it are what counts. -/
theorem holdsAt_outer (forest : Invocations) (ancestors : List String) (before : List Sibling)
    (outside : programId ∉ ancestors) :
    forest.HoldsAt programId ancestors before ↔
      forest.AllPaired programId ∧ forest.selfEventLines programId = 0 := by
  induction forest generalizing ancestors before with
  | done => simp [HoldsAt, places, AllPaired, selfEventLines]
  | line log rest ih =>
      have other : ancestors.head? ≠ some programId := fun own =>
        outside (List.mem_of_mem_head? own)
      rw [holdsAt_line, ih ancestors _ outside, AllPaired, selfEventLines]
      simp [other]
  | invocation program inner succeeded rest ihInner ihRest =>
      rw [holdsAt_invocation, ihRest ancestors _ outside, AllPaired, selfEventLines]
      simp only [outside, false_implies, implies_true, true_and, Nat.add_eq_zero_iff]
      split_ifs with same
      · subst same
        have direct := holdsAt_direct program inner (program :: ancestors) [] rfl outside false rfl
        simp only [Bool.false_eq_true, false_implies, and_true] at direct
        rw [direct]
        tauto
      · rw [ihInner (program :: ancestors) [] (List.not_mem_cons_of_ne_of_not_mem
          (Ne.symm same) outside)]
        tauto

/-- The corroboration is exact when every direct invocation is paired and no event line stands in a
self-invocation. -/
theorem corroboratedExactly_iff (forest : Invocations) :
    CorroboratedExactly programId forest ↔
      forest.AllPaired programId ∧ forest.selfEventLines programId = 0 := by
  rw [corroboratedExactly_iff_holdsAt]
  exact holdsAt_outer programId forest [] [] List.not_mem_nil

end Invocations
end Soldisco.Intake

import Soldisco.Library.Accumulation
import Soldisco.Proof.Intake.Corroboration

/-
This file proves that the walk over the logs computes the corroboration of each instruction.
-/

namespace Soldisco.Intake
open Accumulation CallForest MachineInteger

variable (programId : String)

namespace CoverageWalk

/-- One pass of the loop over a token. -/
def visitToken (walk : CoverageWalk) : LogToken → Except LogScopeError CoverageWalk
  | .invoke invokedProgram depth => walk.invoke programId invokedProgram depth
  | .exit exitedProgram succeeded => walk.exit programId exitedProgram succeeded
  | .line log => .ok (walk.line programId log)

theorem visit_eq (walk : CoverageWalk) (log : String) :
    walk.visit programId log =
      if isLogTruncationMarker log then .error .truncatedLogs
      else walk.visitToken programId (logToken log) := by
  unfold visit logToken
  cases parseInvoke log with
  | some invoked => rfl
  | none =>
      cases parseExit log with
      | some exited => rfl
      | none => rfl

/-- The loop over the lines is the loop over the tokens unless a line marks a truncation. -/
theorem foldlM_visit_eq_ok (logs : List String) (walk final : CoverageWalk) :
    logs.foldlM (visit programId) walk = .ok final ↔
      (∀ log ∈ logs, isLogTruncationMarker log = false) ∧
        (logs.map logToken).foldlM (visitToken programId) walk = .ok final := by
  induction logs generalizing walk with
  | nil => simp
  | cons log rest ih =>
      rw [List.map_cons, foldlM_cons_eq_ok, foldlM_cons_eq_ok, List.forall_mem_cons, visit_eq]
      cases truncated : isLogTruncationMarker log with
      | true =>
          simp only [if_true, Bool.true_eq_false, false_and, iff_false]
          rintro ⟨_, impossible, -⟩
          cases impossible
      | false =>
          simp only [Bool.false_eq_true, if_false, true_and, ih]
          constructor
          · rintro ⟨next, visited, untruncated, later⟩
            exact ⟨untruncated, next, visited, later⟩
          · rintro ⟨untruncated, next, visited, later⟩
            exact ⟨next, visited, untruncated, later⟩

/-- Only the coverage of one instruction has changed. -/
structure Settles (walk final : CoverageWalk) (instructionIndex : Nat) (result : SelfCpiCoverage) :
    Prop where
  next : final.nextInstructionIndex = walk.nextInstructionIndex
  entry : final.entry instructionIndex = result
  others : ∀ other, other ≠ instructionIndex → final.coverage[other]? = walk.coverage[other]?

theorem Settles.refl (walk : CoverageWalk) (instructionIndex : Nat) :
    Settles walk walk instructionIndex (walk.entry instructionIndex) :=
  ⟨rfl, rfl, fun _ _ => rfl⟩

theorem Settles.trans {walk middle final : CoverageWalk} {instructionIndex : Nat}
    {first second : SelfCpiCoverage} (before : Settles walk middle instructionIndex first)
    (after : Settles middle final instructionIndex second) :
    Settles walk final instructionIndex second where
  next := after.next.trans before.next
  entry := after.entry
  others := fun other different => (after.others other different).trans (before.others other different)

/-- The open frames do not matter for what is settled. -/
theorem Settles.of_stack {walk final : CoverageWalk} {stack : List InvocationFrame}
    {instructionIndex : Nat} {result : SelfCpiCoverage}
    (settles : Settles { walk with stack } final instructionIndex result) :
    Settles walk final instructionIndex result :=
  ⟨settles.next, settles.entry, settles.others⟩

theorem entry_setEntry_eq_ite (walk : CoverageWalk) (instructionIndex other : Nat)
    (instruction : SelfCpiCoverage) : (walk.setEntry instructionIndex instruction).entry other =
      if instructionIndex = other then instruction else walk.entry other := by
  rw [entry, setEntry, Std.TreeMap.getElem?_insert]
  by_cases same : instructionIndex = other
  · simp [same]
  · simp [same, entry]

@[simp]
theorem entry_setEntry (walk : CoverageWalk) (instructionIndex : Nat)
    (instruction : SelfCpiCoverage) :
    (walk.setEntry instructionIndex instruction).entry instructionIndex = instruction := by
  rw [entry_setEntry_eq_ite, if_pos rfl]

/-- The walk after an instruction has been settled and the stack replaced. -/
def settle (walk : CoverageWalk) (instructionIndex : Nat) (instruction : SelfCpiCoverage)
    (stack : List InvocationFrame) : CoverageWalk :=
  { walk.setEntry instructionIndex instruction with stack }

@[simp]
theorem settle_stack (walk : CoverageWalk) (instructionIndex : Nat) (instruction : SelfCpiCoverage)
    (stack : List InvocationFrame) :
    (walk.settle instructionIndex instruction stack).stack = stack := rfl

@[simp]
theorem settle_entry (walk : CoverageWalk) (instructionIndex : Nat) (instruction : SelfCpiCoverage)
    (stack : List InvocationFrame) :
    (walk.settle instructionIndex instruction stack).entry instructionIndex = instruction :=
  entry_setEntry walk instructionIndex instruction

theorem settles_settle (walk : CoverageWalk) (instructionIndex : Nat)
    (instruction : SelfCpiCoverage) (stack : List InvocationFrame) :
    Settles walk (walk.settle instructionIndex instruction stack) instructionIndex instruction where
  next := rfl
  entry := settle_entry walk instructionIndex instruction stack
  others := fun other different => by
    simp [settle, setEntry, Std.TreeMap.getElem?_insert, Ne.symm different]

/-- A nested invocation inherits the instruction of its parent. -/
theorem invoke_nested {walk : CoverageWalk} {frame : InvocationFrame} {below : List InvocationFrame}
    (inside : walk.stack = frame :: below) (program : String) :
    walk.invoke programId program (walk.stack.length + 1) =
      .ok (walk.push programId program frame.instructionIndex) := by
  have nested : walk.stack.length + 1 ≠ 1 := by simp [inside]
  simp [invoke, inside] at nested ⊢

/-- The frame of an invocation that no pending event waits for. -/
def plainFrame (program : String) (instructionIndex : Nat) (isTarget : Bool) : InvocationFrame where
  programId := program
  instructionIndex := instructionIndex
  isTargetSelfCpi := isTarget
  silentCandidate := isTarget
  candidateForPendingEvent := false

theorem plainFrame_instruction (program : String) (instructionIndex : Nat) (isTarget : Bool) :
    (plainFrame program instructionIndex isTarget).instructionIndex = instructionIndex := rfl

theorem push_other {walk : CoverageWalk} {frame : InvocationFrame} {below : List InvocationFrame}
    (inside : walk.stack = frame :: below) (other : frame.isDirect programId = false)
    (program : String) (instructionIndex : Nat) :
    walk.push programId program instructionIndex = { walk with
      stack := plainFrame program instructionIndex (program == programId &&
        walk.stack.any fun frame => frame.programId == programId) ::
          frame.breakSilence :: below } := by
  have still : frame.breakSilence.isDirect programId = false := by
    unfold InvocationFrame.breakSilence
    split
    · exact other
    · exact other
  simp [push, breakSilence, inside, still, plainFrame]

/-- The pending flag of an instruction without coverage is not set. -/
theorem any_pending (walk : CoverageWalk) (instructionIndex : Nat) :
    (walk.coverage[instructionIndex]?.any fun instruction => instruction.pendingDirectEvent) =
      (walk.entry instructionIndex).pendingDirectEvent := by
  unfold entry
  cases walk.coverage[instructionIndex]? with
  | none => rfl
  | some instruction => rfl

/-- The frame of an invocation right in the program. -/
def calledFrame (program : String) (instructionIndex : Nat) (pending : Bool) : InvocationFrame where
  programId := program
  instructionIndex := instructionIndex
  isTargetSelfCpi := program == programId
  silentCandidate := program == programId
  candidateForPendingEvent := program == programId && pending

theorem calledFrame_instruction (program : String) (instructionIndex : Nat) (pending : Bool) :
    (calledFrame programId program instructionIndex pending).instructionIndex =
      instructionIndex := rfl

/-- Right in the program an invocation of another program drops a pending event and a
self-invocation becomes its candidate. -/
theorem push_direct {walk : CoverageWalk} {frame : InvocationFrame} {below : List InvocationFrame}
    (inside : walk.stack = frame :: below) (direct : frame.isDirect programId = true)
    (program : String) (instructionIndex : Nat) :
    walk.push programId program instructionIndex =
      walk.settle instructionIndex
        (if program = programId then walk.entry instructionIndex
        else (walk.entry instructionIndex).dropPending)
        (calledFrame programId program instructionIndex
          (walk.entry instructionIndex).pendingDirectEvent :: frame :: below) := by
  obtain ⟨own, plain⟩ : frame.programId = programId ∧ frame.isTargetSelfCpi = false := by
    simpa [InvocationFrame.isDirect] using direct
  have still : frame.breakSilence = frame := by simp [InvocationFrame.breakSilence, plain]
  have told : walk.breakSilence = walk := by
    simp only [breakSilence, inside, still]
    rw [← inside]
  simp only [push, told, inside, List.head?_cons, Option.any_some, direct, Bool.true_and,
    any_pending, List.any_cons, own, beq_self_eq_true, Bool.true_or, Bool.and_true]
  by_cases same : program = programId
  · cases pending : (walk.entry instructionIndex).pendingDirectEvent <;>
      simp [same, settle, setEntry, calledFrame, inside]
  · cases pending : (walk.entry instructionIndex).pendingDirectEvent <;>
      simp [same, pending, settle, setEntry, calledFrame, inside, SelfCpiCoverage.dropPending]

/-- The exit of the innermost invocation settles its instruction. -/
theorem exit_eq_ok {walk final : CoverageWalk} {frame : InvocationFrame}
    {below : List InvocationFrame} (inside : walk.stack = frame :: below) {program : String}
    {succeeded : Bool} (exited : walk.exit programId program succeeded = .ok final) :
    frame.programId = program ∧ ∃ instruction,
      (walk.entry frame.instructionIndex).exitFrame programId frame succeeded = .ok instruction ∧
      final = walk.settle frame.instructionIndex instruction below := by
  simp only [exit, inside] at exited
  split at exited
  · cases exited
  · rename_i same
    obtain ⟨instruction, settled, returned⟩ := bind_eq_ok.mp exited
    cases returned
    exact ⟨not_not.mp same, instruction, settled, rfl⟩

theorem line_other {walk : CoverageWalk} {frame : InvocationFrame} {below : List InvocationFrame}
    (inside : walk.stack = frame :: below) (other : frame.isDirect programId = false)
    (target : frame.isTargetSelfCpi = true → frame.programId = programId) (log : String) :
    walk.line programId log = { walk with
      stack := (if isOwnConsumedLine programId log then frame else frame.breakSilence) :: below } := by
  have same : { walk with stack := frame :: below } = walk := by rw [← inside]
  cases kind : frame.isTargetSelfCpi with
  | true =>
      rw [line, inside]
      simp only [kind, if_true, target kind, isOwnConsumedLine, breakSilence, inside]
      by_cases data : isProgramData log = true <;>
        by_cases consumed : isComputeConsumedLog programId log = true <;>
          simp [data, consumed, same]
  | false =>
      have foreign : frame.programId ≠ programId := by
        simpa [InvocationFrame.isDirect, kind] using other
      have still : frame.breakSilence = frame := by simp [InvocationFrame.breakSilence, kind]
      simp [line, inside, kind, foreign, still, same]

theorem breakSilence_idem (frame : InvocationFrame) :
    frame.breakSilence.breakSilence = frame.breakSilence := by
  unfold InvocationFrame.breakSilence
  cases kind : frame.isTargetSelfCpi <;> simp [kind]

@[simp]
theorem breakSilence_target (frame : InvocationFrame) :
    frame.breakSilence.isTargetSelfCpi = frame.isTargetSelfCpi := by
  unfold InvocationFrame.breakSilence
  split <;> rfl

@[simp]
theorem breakSilence_program (frame : InvocationFrame) :
    frame.breakSilence.programId = frame.programId := by
  unfold InvocationFrame.breakSilence
  split <;> rfl

@[simp]
theorem breakSilence_instruction (frame : InvocationFrame) :
    frame.breakSilence.instructionIndex = frame.instructionIndex := by
  unfold InvocationFrame.breakSilence
  split <;> rfl

/-- The frame of an invocation after it has been silent or not. -/
def heard (frame : InvocationFrame) (silent : Bool) : InvocationFrame :=
  if silent then frame else frame.breakSilence

@[simp]
theorem heard_instruction (frame : InvocationFrame) (silent : Bool) :
    (heard frame silent).instructionIndex = frame.instructionIndex := by
  cases silent with
  | true => rfl
  | false => exact breakSilence_instruction frame

theorem heard_breakSilence (frame : InvocationFrame) (silent : Bool) :
    heard frame.breakSilence silent = frame.breakSilence := by
  cases silent with
  | true => rfl
  | false => exact breakSilence_idem frame

/-- A silent self-invocation that no event waits for is a gap when it succeeds. -/
theorem exitFrame_plain (program : String) (instructionIndex : Nat) (silent succeeded : Bool)
    (instruction : SelfCpiCoverage) :
    instruction.exitFrame programId
        (heard (plainFrame program instructionIndex (program == programId)) silent) succeeded =
      .ok (instruction.noteGap (program == programId && succeeded && silent)) := by
  by_cases same : program = programId
  · cases silent <;> cases succeeded <;>
      simp [SelfCpiCoverage.exitFrame, SelfCpiCoverage.noteGap, heard, plainFrame,
        InvocationFrame.breakSilence, same]
  · have other : (program == programId) = false := beq_false_of_ne same
    cases silent <;>
      simp [SelfCpiCoverage.exitFrame, SelfCpiCoverage.noteGap, heard, plainFrame,
        InvocationFrame.breakSilence, other]

/-- Below a self-invocation the walk notes silent calls and breaks the silence around them. -/
theorem foldlM_print_nested (forest : Invocations) {walk final : CoverageWalk}
    {frame : InvocationFrame} {below : List InvocationFrame} {depth : Nat}
    (inside : walk.stack = frame :: below) (deeper : depth = below.length + 2)
    (path : (walk.stack.any fun frame => frame.programId == programId) = true)
    (other : frame.isDirect programId = false)
    (target : frame.isTargetSelfCpi = true → frame.programId = programId)
    (visited : (forest.print depth).foldlM (visitToken programId) walk = .ok final) :
    final.stack = heard frame (forest.isSilent programId) :: below ∧
      Settles walk final frame.instructionIndex
        (forest.noteSilentCalls programId (walk.entry frame.instructionIndex)) := by
  induction forest generalizing walk final frame below depth with
  | done =>
      cases visited
      refine ⟨inside, ?_⟩
      have same : Invocations.done.noteSilentCalls programId (walk.entry frame.instructionIndex) =
          walk.entry frame.instructionIndex := by
        simp [Invocations.noteSilentCalls, SelfCpiCoverage.noteGap, Invocations.hasSilentCall]
      rw [same]
      exact Settles.refl walk _
  | line log rest ih =>
      rw [Invocations.print, foldlM_cons_eq_ok] at visited
      obtain ⟨next, first, later⟩ := visited
      cases first
      rw [line_other programId inside other target] at later
      cases own : isOwnConsumedLine programId log with
      | true =>
          have same : { walk with stack := frame :: below } = walk := by rw [← inside]
          simp only [own, if_true, same] at later
          obtain ⟨stack, settled⟩ := ih inside deeper path other target later
          rw [Invocations.isSilent, own]
          exact ⟨stack, settled⟩
      | false =>
          simp only [own, Bool.false_eq_true, if_false] at later
          obtain ⟨stack, settled⟩ := @ih { walk with stack := frame.breakSilence :: below } final
            frame.breakSilence below depth rfl deeper (by simpa [inside] using path)
            (by simpa [InvocationFrame.isDirect] using other) (by simpa using target) later
          rw [heard_breakSilence] at stack
          rw [breakSilence_instruction] at settled
          rw [Invocations.isSilent, own]
          exact ⟨stack, settled.of_stack⟩
  | invocation program inner succeeded rest ihInner ihRest =>
      rw [Invocations.print, foldlM_cons_eq_ok] at visited
      obtain ⟨entered, first, later⟩ := visited
      obtain ⟨left, second, later⟩ := foldlM_append_eq_ok.mp later
      obtain ⟨exited, third, later⟩ := foldlM_cons_eq_ok.mp later
      have enters : walk.stack.length + 1 = depth := by
        rw [inside, List.length_cons, deeper]
      change walk.invoke programId program depth = .ok entered at first
      rw [← enters, invoke_nested programId inside, push_other programId inside other, path,
        Bool.and_true] at first
      cases first
      -- The inner frame is a self-invocation exactly when it is the program.
      have pathInner : ((plainFrame program frame.instructionIndex (program == programId) ::
          frame.breakSilence :: below).any fun frame => frame.programId == programId) = true := by
        rw [inside, List.any_cons] at path
        rw [List.any_cons, List.any_cons, breakSilence_program, path, Bool.or_true]
      have otherInner : (plainFrame program frame.instructionIndex
          (program == programId)).isDirect programId = false := by
        simp [plainFrame, InvocationFrame.isDirect]
      obtain ⟨innerStack, innerSettled⟩ := ihInner rfl (by rw [List.length_cons, deeper]) pathInner
        otherInner (by simp [plainFrame]) second
      obtain ⟨-, instruction, settles, rfl⟩ := exit_eq_ok programId innerStack third
      rw [heard_instruction, plainFrame_instruction] at settles later
      rw [plainFrame_instruction] at innerSettled
      rw [exitFrame_plain] at settles
      cases settles
      obtain ⟨stack, restSettled⟩ := @ihRest _ final frame.breakSilence below depth rfl deeper
        (by simpa [inside] using path) (by simpa [InvocationFrame.isDirect] using other)
        (by simpa using target) later
      rw [heard_breakSilence] at stack
      refine ⟨stack, ?_⟩
      rw [breakSilence_instruction] at restSettled
      have noted : rest.noteSilentCalls programId ((left.entry frame.instructionIndex).noteGap
            (program == programId && succeeded && inner.isSilent programId)) =
          (Invocations.invocation program inner succeeded rest).noteSilentCalls programId
            (walk.entry frame.instructionIndex) := by
        have innerEntry : left.entry frame.instructionIndex =
            inner.noteSilentCalls programId (walk.entry frame.instructionIndex) :=
          innerSettled.entry
        simp only [innerEntry, Invocations.noteSilentCalls, Invocations.hasSilentCall,
          SelfCpiCoverage.noteGap_noteGap, Bool.or_assoc, Bool.or_left_comm]
      rw [settle_entry, noted] at restSettled
      exact (innerSettled.of_stack.trans (settles_settle left _ _ _)).trans restSettled

theorem line_direct {walk : CoverageWalk} {frame : InvocationFrame} {below : List InvocationFrame}
    (inside : walk.stack = frame :: below) (direct : frame.isDirect programId = true)
    (log : String) :
    walk.line programId log = walk.setEntry frame.instructionIndex
      (if isProgramData log then (walk.entry frame.instructionIndex).recordDirectEvent
      else if isComputeConsumedLog programId log then walk.entry frame.instructionIndex
      else (walk.entry frame.instructionIndex).dropPending) := by
  obtain ⟨own, plain⟩ : frame.programId = programId ∧ frame.isTargetSelfCpi = false := by
    simpa [InvocationFrame.isDirect] using direct
  simp only [line, inside, plain, own, beq_self_eq_true, Bool.false_eq_true, if_false, if_true]
  split_ifs <;> rfl

/-- The exit of an invocation right in the program settles the event that waits for it. -/
theorem exitFrame_called {program : String} {instructionIndex : Nat}
    {silent succeeded pending : Bool} {instruction result : SelfCpiCoverage}
    (settles : instruction.exitFrame programId
      (heard (calledFrame programId program instructionIndex pending) silent) succeeded =
        .ok result)
    (waits : program = programId → instruction.pendingDirectEvent = pending) :
    result = if program = programId then
        if pending then Invocations.settlePending succeeded silent instruction
        else instruction.noteGap (succeeded && silent)
      else instruction := by
  by_cases same : program = programId
  · subst same
    have target : heard (calledFrame program program instructionIndex pending) silent =
        { calledFrame program program instructionIndex pending with
          silentCandidate := silent } := by
      cases silent <;> simp [calledFrame, heard, InvocationFrame.breakSilence]
    have waiting := waits rfl
    rw [target] at settles
    cases pending with
    | true =>
        simp only [SelfCpiCoverage.exitFrame, calledFrame, waiting, beq_self_eq_true, if_true,
          SelfCpiCoverage.exitCandidate, Bool.and_true] at settles
        simp only [if_true, Invocations.settlePending]
        split_ifs at settles ⊢
        · split at settles
          · cases settles
          · rename_i counted
            obtain ⟨rfl, -⟩ := checkedAdd_eq_some.mp counted
            cases settles
            rfl
        · cases settles
          rfl
    | false =>
        simp only [SelfCpiCoverage.exitFrame, calledFrame, beq_self_eq_true, if_true,
          Bool.and_false, Bool.false_eq_true, if_false] at settles ⊢
        split_ifs at settles with counted
        · cases settles
          simp [SelfCpiCoverage.noteGap, counted]
        · cases settles
          rw [Bool.not_eq_true] at counted
          simp [SelfCpiCoverage.noteGap, counted]
  · have other : (program == programId) = false := beq_false_of_ne same
    cases silent <;>
      simp [SelfCpiCoverage.exitFrame, calledFrame, heard, InvocationFrame.breakSilence, other]
        at settles <;>
      simp [same, settles]

/-- Right in the program the walk pairs events with silent self-invocations. -/
theorem foldlM_print_direct (forest : Invocations) {walk final : CoverageWalk}
    {frame : InvocationFrame} {below : List InvocationFrame} {depth : Nat}
    (inside : walk.stack = frame :: below) (deeper : depth = below.length + 2)
    (direct : frame.isDirect programId = true)
    (visited : (forest.print depth).foldlM (visitToken programId) walk = .ok final) :
    final.stack = frame :: below ∧ Settles walk final frame.instructionIndex
      (forest.directCoverage programId (walk.entry frame.instructionIndex)) := by
  have own : frame.programId = programId := by
    simp only [InvocationFrame.isDirect, Bool.and_eq_true, beq_iff_eq] at direct
    exact direct.1
  induction forest generalizing walk final with
  | done =>
      cases visited
      exact ⟨inside, Settles.refl walk _⟩
  | line log rest ih =>
      rw [Invocations.print, foldlM_cons_eq_ok] at visited
      obtain ⟨next, first, later⟩ := visited
      cases first
      rw [line_direct programId inside direct] at later
      obtain ⟨stack, settled⟩ := ih (by exact inside) later
      refine ⟨stack, ?_⟩
      rw [entry_setEntry] at settled
      exact (settles_settle walk frame.instructionIndex _ walk.stack).trans settled
  | invocation program inner succeeded rest ihInner ihRest =>
      rw [Invocations.print, foldlM_cons_eq_ok] at visited
      obtain ⟨entered, first, later⟩ := visited
      obtain ⟨left, second, later⟩ := foldlM_append_eq_ok.mp later
      obtain ⟨exited, third, later⟩ := foldlM_cons_eq_ok.mp later
      have enters : walk.stack.length + 1 = depth := by
        rw [inside, List.length_cons, deeper]
      change walk.invoke programId program depth = .ok entered at first
      rw [← enters, invoke_nested programId inside, push_direct programId inside direct] at first
      cases first
      have path : ((calledFrame programId program frame.instructionIndex
          (walk.entry frame.instructionIndex).pendingDirectEvent :: frame :: below).any
            fun frame => frame.programId == programId) = true := by
        simp [own]
      obtain ⟨innerStack, innerSettled⟩ := foldlM_print_nested programId inner rfl
        (by rw [List.length_cons, deeper]) path (by simp [calledFrame, InvocationFrame.isDirect])
        (by simp [calledFrame]) second
      obtain ⟨-, instruction, settles, rfl⟩ := exit_eq_ok programId innerStack third
      rw [heard_instruction, calledFrame_instruction] at settles later
      rw [calledFrame_instruction, settle_entry] at innerSettled
      obtain ⟨stack, restSettled⟩ := ihRest rfl later
      refine ⟨stack, ?_⟩
      rw [settle_entry] at restSettled
      have result : instruction = if program = programId then
          if (walk.entry frame.instructionIndex).pendingDirectEvent then
            Invocations.settlePending succeeded (inner.isSilent programId)
              (inner.noteSilentCalls programId (walk.entry frame.instructionIndex))
          else (inner.noteSilentCalls programId (walk.entry frame.instructionIndex)).noteGap
            (succeeded && inner.isSilent programId)
        else inner.noteSilentCalls programId (walk.entry frame.instructionIndex).dropPending := by
        rw [innerSettled.entry] at settles
        by_cases same : program = programId
        · rw [if_pos same] at settles ⊢
          rw [exitFrame_called programId settles fun _ => rfl, if_pos same]
        · rw [if_neg same] at settles ⊢
          rw [exitFrame_called programId settles fun own => absurd own same, if_neg same]
      rw [result] at restSettled
      exact (((settles_settle walk _ _ _).trans innerSettled).trans
        (settles_settle left _ _ _)).trans restSettled

/-- What one invocation outside the program makes of the instruction. -/
def callCoverage (program : String) (inner : Invocations) (instruction : SelfCpiCoverage) :
    SelfCpiCoverage :=
  if program = programId then (inner.directCoverage programId instruction).dropPending
  else inner.outerCoverage programId instruction

/-- The frame of an invocation outside the program is left as it was entered. -/
theorem exitFrame_outer {program : String} {instructionIndex : Nat} {succeeded : Bool}
    {instruction result : SelfCpiCoverage}
    (settles : instruction.exitFrame programId (plainFrame program instructionIndex false)
      succeeded = .ok result) :
    result = if program = programId then instruction.dropPending else instruction := by
  simp only [SelfCpiCoverage.exitFrame, plainFrame, Bool.false_eq_true, if_false, beq_iff_eq]
    at settles
  split_ifs at settles ⊢
  · cases settles
    rfl
  · cases settles
    rfl

/-- Entering, walking and leaving an invocation outside the program. -/
theorem foldlM_call {inner : Invocations} {program : String} {succeeded : Bool}
    {walk left final : CoverageWalk} {below : List InvocationFrame} {instructionIndex : Nat}
    (entered : walk.stack = plainFrame program instructionIndex false :: below)
    (outer : program ≠ programId → left.stack = walk.stack ∧ Settles walk left instructionIndex
      (inner.outerCoverage programId (walk.entry instructionIndex)))
    (visited : (inner.print (below.length + 2)).foldlM (visitToken programId) walk = .ok left)
    (exited : left.exit programId program succeeded = .ok final) :
    final = left.settle instructionIndex
        (callCoverage programId program inner (walk.entry instructionIndex)) below ∧
      Settles walk final instructionIndex
        (callCoverage programId program inner (walk.entry instructionIndex)) := by
  have walked : left.stack = plainFrame program instructionIndex false :: below ∧
      Settles walk left instructionIndex (if program = programId then
          inner.directCoverage programId (walk.entry instructionIndex)
        else inner.outerCoverage programId (walk.entry instructionIndex)) := by
    by_cases same : program = programId
    · rw [if_pos same]
      exact foldlM_print_direct programId inner entered rfl
        (by simp [InvocationFrame.isDirect, plainFrame, same]) visited
    · rw [if_neg same, ← entered]
      exact outer same
  obtain ⟨stack, settled⟩ := walked
  obtain ⟨-, instruction, settles, rfl⟩ := exit_eq_ok programId stack exited
  rw [plainFrame_instruction] at settles ⊢
  have result : instruction =
      callCoverage programId program inner (walk.entry instructionIndex) := by
    rw [exitFrame_outer programId settles, settled.entry, callCoverage]
    split_ifs <;> rfl
  rw [result]
  exact ⟨rfl, settled.trans (settles_settle left _ _ _)⟩

theorem breakSilence_plain {frame : InvocationFrame} (plain : frame.isTargetSelfCpi = false) :
    frame.breakSilence = frame := by
  simp [InvocationFrame.breakSilence, plain]

theorem isDirect_of_path {walk : CoverageWalk} {frame : InvocationFrame}
    {below : List InvocationFrame} (inside : walk.stack = frame :: below)
    (path : (walk.stack.any fun frame => frame.programId == programId) = false) :
    frame.isDirect programId = false := by
  rw [inside, List.any_cons, Bool.or_eq_false_iff] at path
  rw [InvocationFrame.isDirect, path.1, Bool.false_and]

/-- Outside the program the walk settles the invocations of the program one after the other. -/
theorem foldlM_print_outer (forest : Invocations) {walk final : CoverageWalk}
    {frame : InvocationFrame} {below : List InvocationFrame} {depth : Nat}
    (inside : walk.stack = frame :: below) (deeper : depth = below.length + 2)
    (path : (walk.stack.any fun frame => frame.programId == programId) = false)
    (plain : frame.isTargetSelfCpi = false)
    (visited : (forest.print depth).foldlM (visitToken programId) walk = .ok final) :
    final.stack = walk.stack ∧ Settles walk final frame.instructionIndex
      (forest.outerCoverage programId (walk.entry frame.instructionIndex)) := by
  induction forest generalizing walk final frame below depth with
  | done =>
      cases visited
      exact ⟨rfl, Settles.refl walk _⟩
  | line log rest ih =>
      rw [Invocations.print, foldlM_cons_eq_ok] at visited
      obtain ⟨next, first, later⟩ := visited
      cases first
      have same : { walk with stack := frame :: below } = walk := by rw [← inside]
      rw [line_other programId inside (isDirect_of_path programId inside path)
        (fun target => absurd target (by simp [plain])), breakSilence_plain plain, ite_self,
        same] at later
      exact ih inside deeper path plain later
  | invocation program inner succeeded rest ihInner ihRest =>
      rw [Invocations.print, foldlM_cons_eq_ok] at visited
      obtain ⟨entered, first, later⟩ := visited
      obtain ⟨left, second, later⟩ := foldlM_append_eq_ok.mp later
      obtain ⟨exited, third, later⟩ := foldlM_cons_eq_ok.mp later
      have enters : walk.stack.length + 1 = depth := by
        rw [inside, List.length_cons, deeper]
      change walk.invoke programId program depth = .ok entered at first
      rw [← enters, invoke_nested programId inside,
        push_other programId inside (isDirect_of_path programId inside path), path, Bool.and_false,
        breakSilence_plain plain, ← inside] at first
      cases first
      rw [← enters] at second
      have outer : program ≠ programId → _ := fun foreign =>
        @ihInner { walk with stack := plainFrame program frame.instructionIndex false :: walk.stack }
          left (plainFrame program frame.instructionIndex false) walk.stack _ rfl rfl
          (by rw [List.any_cons, path, Bool.or_false]; exact beq_false_of_ne foreign) rfl second
      rw [plainFrame_instruction] at outer
      obtain ⟨rfl, callSettled⟩ := foldlM_call programId rfl outer second third
      have rested := @ihRest (left.settle _ _ walk.stack) final frame below depth inside deeper path
        plain later
      rw [settle_entry] at rested
      exact ⟨rested.1, callSettled.of_stack.trans rested.2⟩

/-- The invocations at the top of the forest. -/
def topCalls : Invocations → List (String × Invocations)
  | .done => []
  | .line _ rest => topCalls rest
  | .invocation program inner _ rest => (program, inner) :: topCalls rest

/-- No instruction from the next one on has any coverage yet. -/
structure Between (walk : CoverageWalk) : Prop where
  stack : walk.stack = []
  unused : ∀ index, walk.nextInstructionIndex ≤ index → walk.coverage[index]? = none

/-- The walk right after the entry of a top-level invocation. -/
def opened (walk : CoverageWalk) (program : String) : CoverageWalk :=
  { walk with
    nextInstructionIndex := walk.nextInstructionIndex + 1
    stack := [plainFrame program walk.nextInstructionIndex false] }

theorem invoke_top_eq_ok {walk entered : CoverageWalk} (between : Between walk) {program : String}
    (invoked : walk.invoke programId program 1 = .ok entered) :
    entered = walk.opened program := by
  rw [invoke, between.stack] at invoked
  cases counted : checkedAdd u16Size walk.nextInstructionIndex 1 with
  | none =>
      rw [counted] at invoked
      cases invoked
  | some next =>
      rw [counted] at invoked
      obtain ⟨rfl, -⟩ := checkedAdd_eq_some.mp counted
      cases invoked
      simp [push, breakSilence, plainFrame, opened]

/-- Each top-level invocation settles the coverage of its own instruction. -/
theorem foldlM_print_top (forest : Invocations) {walk final : CoverageWalk} (between : Between walk)
    (visited : (forest.print 1).foldlM (visitToken programId) walk = .ok final) :
    ∀ index, final.coverage[index]? =
      if index < walk.nextInstructionIndex then walk.coverage[index]?
      else ((topCalls forest).map fun call => callCoverage programId call.1 call.2
        default)[index - walk.nextInstructionIndex]? := by
  induction forest generalizing walk final with
  | done =>
      cases visited
      intro index
      split_ifs with before
      · rfl
      · simpa [topCalls] using between.unused index (by omega)
  | line log rest ih =>
      rw [Invocations.print, foldlM_cons_eq_ok] at visited
      obtain ⟨next, first, later⟩ := visited
      cases first
      have still : walk.line programId log = walk := by simp [line, between.stack]
      rw [still] at later
      exact ih between later
  | invocation program inner succeeded rest ihInner ihRest =>
      rw [Invocations.print, foldlM_cons_eq_ok] at visited
      obtain ⟨entered, first, later⟩ := visited
      obtain ⟨left, second, later⟩ := foldlM_append_eq_ok.mp later
      obtain ⟨exited, third, later⟩ := foldlM_cons_eq_ok.mp later
      have opens := invoke_top_eq_ok programId between first
      subst opens
      have outer : program ≠ programId → _ := fun foreign =>
        @foldlM_print_outer programId inner (walk.opened program) left
          (plainFrame program walk.nextInstructionIndex false) [] _ rfl rfl
          (by simpa [opened, plainFrame] using foreign) rfl second
      rw [plainFrame_instruction] at outer
      have entered : (walk.opened program).stack =
          plainFrame program walk.nextInstructionIndex false :: [] := rfl
      obtain ⟨rfl, settled⟩ := foldlM_call programId entered outer second third
      have unset : (walk.opened program).entry walk.nextInstructionIndex = default := by
        rw [entry, opened, between.unused _ le_rfl]
        rfl
      rw [unset] at settled later
      have next : Between (left.settle walk.nextInstructionIndex
          (callCoverage programId program inner default) []) := by
        refine ⟨rfl, fun index later => ?_⟩
        rw [settled.next] at later
        change walk.nextInstructionIndex + 1 ≤ index at later
        rw [settled.others index (by omega)]
        exact between.unused index (by omega)
      intro index
      rw [ihRest next later index, settled.next, topCalls, List.map_cons]
      change (if index < walk.nextInstructionIndex + 1 then _ else _) = _
      by_cases before : index < walk.nextInstructionIndex
      · rw [if_pos (by omega), if_pos before]
        exact settled.others index (by omega)
      · rw [if_neg before]
        by_cases here : index = walk.nextInstructionIndex
        · subst here
          rw [if_pos (by omega), Nat.sub_self]
          simp [settle, setEntry]
        · rw [if_neg (by omega)]
          have shifted : index - walk.nextInstructionIndex =
              (index - (walk.nextInstructionIndex + 1)) + 1 := by omega
          rw [shifted, List.getElem?_cons_succ]
          rfl

end CoverageWalk
end Soldisco.Intake

import Soldisco.Proof.Intake.Coverage

/-
This file proves that a log whose program data can be scoped has a coverage.
-/

namespace Soldisco.Intake
open Accumulation CallForest MachineInteger

/-- The direct events that the coverage has counted or still waits for. -/
def SelfCpiCoverage.outstanding (instruction : SelfCpiCoverage) : Nat :=
  instruction.successfulEventCalls + if instruction.pendingDirectEvent then 1 else 0

namespace SelfCpiCoverage

theorem outstanding_dropPending (instruction : SelfCpiCoverage) :
    instruction.dropPending.outstanding ≤ instruction.outstanding := by
  unfold dropPending outstanding
  split_ifs <;> simp_all

theorem outstanding_recordDirectEvent (instruction : SelfCpiCoverage) :
    instruction.recordDirectEvent.outstanding ≤ instruction.outstanding + 1 := by
  unfold recordDirectEvent outstanding
  split_ifs <;> simp_all

/-- The exit of a frame counts what was waited for, so that it cannot overflow. -/
theorem exitFrame_outstanding (programId : String) (frame : InvocationFrame) (succeeded : Bool)
    {instruction : SelfCpiCoverage} (fits : instruction.outstanding < u16Size) :
    ∃ after, instruction.exitFrame programId frame succeeded = .ok after ∧
      after.outstanding ≤ instruction.outstanding := by
  unfold exitFrame exitCandidate
  split_ifs with target candidate counted silent own
  · have pending : instruction.pendingDirectEvent = true := by simp_all
    have below : instruction.successfulEventCalls + 1 < u16Size := by
      simpa [outstanding, pending] using fits
    rw [checkedAdd_of_lt below]
    exact ⟨_, rfl, by simp [outstanding, pending]⟩
  · exact ⟨_, rfl, by simp [outstanding]⟩
  · exact ⟨_, rfl, le_refl _⟩
  · exact ⟨_, rfl, le_refl _⟩
  · exact ⟨_, rfl, outstanding_dropPending instruction⟩
  · exact ⟨_, rfl, le_refl _⟩

end SelfCpiCoverage

namespace CoverageWalk

variable (programId : String)

/-- What the scoping also keeps of the open frames. -/
def labels (walk : CoverageWalk) : List (String × Nat) :=
  walk.stack.map fun frame => (frame.programId, frame.instructionIndex)

/-- Putting back no more than before leaves no more than before. -/
theorem outstanding_setEntry (walk : CoverageWalk) {instructionIndex : Nat}
    {instruction : SelfCpiCoverage}
    (bound : instruction.outstanding ≤ (walk.entry instructionIndex).outstanding) (other : Nat) :
    ((walk.setEntry instructionIndex instruction).entry other).outstanding ≤
      (walk.entry other).outstanding := by
  rw [entry_setEntry_eq_ite]
  split_ifs with same
  · exact same ▸ bound
  · exact le_refl _

theorem breakSilence_labels (walk : CoverageWalk) : walk.breakSilence.labels = walk.labels := by
  unfold breakSilence
  cases shape : walk.stack with
  | nil => rfl
  | cons frame below => simp [labels, shape]

theorem breakSilence_coverage (walk : CoverageWalk) :
    walk.breakSilence.coverage = walk.coverage := by
  unfold breakSilence
  split <;> rfl

theorem breakSilence_next (walk : CoverageWalk) :
    walk.breakSilence.nextInstructionIndex = walk.nextInstructionIndex := by
  unfold breakSilence
  split <;> rfl

theorem push_labels (walk : CoverageWalk) (invokedProgram : String) (instructionIndex : Nat) :
    (walk.push programId invokedProgram instructionIndex).labels =
      (invokedProgram, instructionIndex) :: walk.labels := by
  rw [← breakSilence_labels walk]
  unfold push
  dsimp only
  split_ifs <;> rfl

theorem push_next (walk : CoverageWalk) (invokedProgram : String) (instructionIndex : Nat) :
    (walk.push programId invokedProgram instructionIndex).nextInstructionIndex =
      walk.nextInstructionIndex := by
  rw [← breakSilence_next walk]
  unfold push
  dsimp only
  split_ifs <;> rfl

theorem push_outstanding (walk : CoverageWalk) (invokedProgram : String)
    (instructionIndex other : Nat) :
    ((walk.push programId invokedProgram instructionIndex).entry other).outstanding ≤
      (walk.entry other).outstanding := by
  have same : walk.entry other = walk.breakSilence.entry other := by
    rw [entry, entry, breakSilence_coverage]
  rw [same]
  unfold push
  dsimp only
  split_ifs
  · exact outstanding_setEntry _ (SelfCpiCoverage.outstanding_dropPending _) other
  · exact outstanding_setEntry _ (le_refl _) other
  · exact le_refl _

end CoverageWalk

/-- The walk over the log has seen what the scoping has seen, and counts no event that is not
scoped. -/
structure Follows (scope : LogScope) (walk : CoverageWalk) : Prop where
  stack : scope.stack = walk.labels
  next : scope.nextInstructionIndex = walk.nextInstructionIndex
  counted : ∀ index : Nat, (walk.entry index).outstanding ≤ scope.eventIndexes[index]?.getD 0
  limited : ∀ index : Nat, scope.eventIndexes[index]?.getD 0 < u16Size

namespace Follows

variable {programId : String} {scope next : LogScope} {walk : CoverageWalk}

theorem start : Follows .start .start where
  stack := rfl
  next := rfl
  counted index := by simp [CoverageWalk.start, CoverageWalk.entry, LogScope.start]; rfl
  limited index := by simp [LogScope.start, u16Size]

theorem length_stack (follows : Follows scope walk) : scope.stack.length = walk.stack.length := by
  rw [follows.stack, CoverageWalk.labels, List.length_map]

/-- The invocation of a frame is followed under the same instruction. -/
theorem push (follows : Follows scope walk) (invokedProgram : String) (instructionIndex : Nat) :
    Follows { scope with stack := (invokedProgram, instructionIndex) :: scope.stack }
      (walk.push programId invokedProgram instructionIndex) where
  stack := by rw [CoverageWalk.push_labels, ← follows.stack]
  next := by rw [CoverageWalk.push_next, ← follows.next]
  counted index := le_trans (CoverageWalk.push_outstanding _ _ _ _ _) (follows.counted index)
  limited := follows.limited

theorem invoke (follows : Follows scope walk) {invokedProgram : String} {depth : Nat}
    (entered : scope.invoke invokedProgram depth = .ok next) :
    ∃ after, walk.invoke programId invokedProgram depth = .ok after ∧ Follows next after := by
  unfold LogScope.invoke at entered
  unfold CoverageWalk.invoke
  rw [← follows.length_stack, ← follows.next]
  split_ifs at entered ⊢ with wrong top
  · cases counts : checkedAdd u16Size scope.nextInstructionIndex 1 with
    | none =>
        rw [counts] at entered
        cases entered
    | some following =>
        rw [counts] at entered
        cases entered
        have advanced : Follows { scope with nextInstructionIndex := following }
            { walk with nextInstructionIndex := following } :=
          ⟨follows.stack, rfl, follows.counted, follows.limited⟩
        exact ⟨_, rfl, advanced.push invokedProgram scope.nextInstructionIndex⟩
  · cases shape : walk.stack with
    | nil => simp [follows.stack, CoverageWalk.labels, shape] at entered
    | cons frame below =>
        simp only [follows.stack, CoverageWalk.labels, shape, List.map_cons, List.head?_cons]
          at entered
        cases entered
        have pushed : Follows { scope with
              stack := (invokedProgram, frame.instructionIndex) :: scope.stack }
            (walk.push programId invokedProgram frame.instructionIndex) :=
          follows.push invokedProgram frame.instructionIndex
        rw [follows.stack, CoverageWalk.labels, shape] at pushed
        exact ⟨_, rfl, pushed⟩

theorem exit (follows : Follows scope walk) {exitedProgram : String} {succeeded : Bool}
    (left : scope.exit exitedProgram = .ok next) :
    ∃ after, walk.exit programId exitedProgram succeeded = .ok after ∧ Follows next after := by
  unfold LogScope.exit at left
  unfold CoverageWalk.exit
  split_ifs at left with wrong
  cases left
  cases shape : walk.stack with
  | nil => simp [follows.stack, CoverageWalk.labels, shape] at wrong
  | cons frame below =>
      have active : frame.programId = exitedProgram := by
        simpa [follows.stack, CoverageWalk.labels, shape] using wrong
      have fits := lt_of_le_of_lt (follows.counted frame.instructionIndex)
        (follows.limited frame.instructionIndex)
      obtain ⟨settled, exits, bound⟩ :=
        SelfCpiCoverage.exitFrame_outstanding programId frame succeeded fits
      simp only [active, ne_eq, not_true_eq_false, if_false, exits]
      refine ⟨_, rfl, ?_, follows.next, ?_, follows.limited⟩
      · simp [follows.stack, CoverageWalk.labels, shape]
      · intro index
        exact le_trans (CoverageWalk.outstanding_setEntry walk bound index) (follows.counted index)

section Line

variable {slot : Nat} {transactionIndex : Option Nat} {signature : String}

theorem breakSilence (follows : Follows scope walk) : Follows scope walk.breakSilence where
  stack := by rw [CoverageWalk.breakSilence_labels, ← follows.stack]
  next := by rw [CoverageWalk.breakSilence_next, ← follows.next]
  counted index := by
    rw [CoverageWalk.entry, CoverageWalk.breakSilence_coverage]
    exact follows.counted index
  limited := follows.limited

theorem setEntry (follows : Follows scope walk) {instructionIndex : Nat}
    {instruction : SelfCpiCoverage}
    (bound : instruction.outstanding ≤ (walk.entry instructionIndex).outstanding) :
    Follows scope (walk.setEntry instructionIndex instruction) where
  stack := follows.stack
  next := follows.next
  counted index :=
    le_trans (CoverageWalk.outstanding_setEntry walk bound index) (follows.counted index)
  limited := follows.limited

/-- A scoped event is outstanding or stands in a self-invocation. -/
theorem record (follows : Follows scope walk) {instructionIndex : Nat} {log : String}
    (recorded : scope.record slot transactionIndex signature instructionIndex log = .ok next) :
    Follows next walk ∧
      Follows next (walk.setEntry instructionIndex
        (walk.entry instructionIndex).recordDirectEvent) := by
  unfold LogScope.record at recorded
  dsimp only at recorded
  cases counts : checkedAdd u16Size (scope.eventIndexes[instructionIndex]?.getD 0) 1 with
  | none =>
      rw [counts] at recorded
      cases recorded
  | some following =>
      rw [counts] at recorded
      cases recorded
      obtain ⟨rfl, below⟩ := checkedAdd_eq_some.mp counts
      have entries : ∀ index : Nat, (scope.eventIndexes.insert instructionIndex
          (scope.eventIndexes[instructionIndex]?.getD 0 + 1))[index]?.getD 0 =
          scope.eventIndexes[index]?.getD 0 + if instructionIndex = index then 1 else 0 := by
        intro index
        rw [Std.TreeMap.getElem?_insert]
        by_cases same : instructionIndex = index
        · simp [same]
        · simp [same]
      have limited : ∀ index : Nat, scope.eventIndexes[index]?.getD 0 +
          (if instructionIndex = index then 1 else 0) < u16Size := by
        intro index
        split_ifs with same
        · exact same ▸ below
        · exact follows.limited index
      refine ⟨⟨follows.stack, follows.next, ?_, ?_⟩, ⟨follows.stack, follows.next, ?_, ?_⟩⟩
      · intro index
        rw [entries]
        exact le_trans (follows.counted index) (Nat.le_add_right _ _)
      · intro index
        rw [entries]
        exact limited index
      · intro index
        rw [entries, CoverageWalk.entry_setEntry_eq_ite]
        split_ifs with same
        · subst same
          exact le_trans (SelfCpiCoverage.outstanding_recordDirectEvent _)
            (Nat.add_le_add_right (follows.counted instructionIndex) 1)
        · exact follows.counted index
      · intro index
        rw [entries]
        exact limited index

theorem line (follows : Follows scope walk) {log : String}
    (visited : LogScope.visitToken programId slot transactionIndex signature scope (.leaf log) =
      .ok next) : Follows next (walk.line programId log) := by
  unfold LogScope.visitToken at visited
  unfold CoverageWalk.line
  cases shape : walk.stack with
  | nil =>
      have empty : scope.stack = [] := by rw [follows.stack, CoverageWalk.labels, shape]; rfl
      rw [empty] at visited
      dsimp only [List.head?_nil] at visited
      split_ifs at visited <;> exact Except.ok.inj visited ▸ follows
  | cons frame below =>
      have top : scope.stack.head? = some (frame.programId, frame.instructionIndex) := by
        rw [follows.stack, CoverageWalk.labels, shape]
        rfl
      rw [top] at visited
      dsimp only at visited ⊢
      cases data : isProgramData log with
      | false =>
          have same : scope = next := by simpa [data] using visited
          subst same
          simp only [Bool.false_eq_true, if_false]
          split_ifs
          · exact follows
          · exact follows.breakSilence
          · exact follows.setEntry (le_refl _)
          · exact follows.setEntry (SelfCpiCoverage.outstanding_dropPending _)
          · exact follows
      | true =>
          simp only [if_true]
          by_cases own : frame.programId = programId
          · have recorded : scope.record slot transactionIndex signature frame.instructionIndex log =
                .ok next := by simpa [data, own] using visited
            split_ifs
            · exact (follows.record recorded).1.breakSilence
            · exact (follows.record recorded).2
            · exact (follows.record recorded).1
          · have same : scope = next := by simpa [data, own] using visited
            subst same
            split_ifs
            · exact follows.breakSilence
            · exact absurd (by simp_all) own
            · exact follows

theorem visitToken (follows : Follows scope walk) {token : LogToken}
    (visited : LogScope.visitToken programId slot transactionIndex signature scope
      token.withoutOutcome = .ok next) :
    ∃ after, walk.visitToken programId token = .ok after ∧ Follows next after := by
  cases token with
  | invoke invokedProgram depth => exact follows.invoke visited
  | exit exitedProgram succeeded => exact follows.exit visited
  | line log => exact ⟨_, rfl, follows.line visited⟩

theorem foldlM_visitToken (tokens : List LogToken) (follows : Follows scope walk) {final : LogScope}
    (visited : (tokens.map LogToken.withoutOutcome).foldlM
      (LogScope.visitToken programId slot transactionIndex signature) scope = .ok final) :
    ∃ after, tokens.foldlM (CoverageWalk.visitToken programId) walk = .ok after ∧
      Follows final after := by
  induction tokens generalizing scope walk with
  | nil =>
      cases visited
      exact ⟨walk, rfl, follows⟩
  | cons token rest ih =>
      obtain ⟨middle, first, later⟩ := foldlM_cons_eq_ok.mp visited
      obtain ⟨between, stepped, related⟩ := follows.visitToken first
      obtain ⟨after, folded, ends⟩ := ih related later
      exact ⟨after, foldlM_cons_eq_ok.mpr ⟨between, stepped, folded⟩, ends⟩

end Line

end Follows

/-- The walk follows the scoping over the lines it scopes. -/
theorem Follows.foldlM_visit {programId : String} {slot : Nat} {transactionIndex : Option Nat}
    {signature : String} {logs : List String} {scope final : LogScope} {walk : CoverageWalk}
    (follows : Follows scope walk)
    (visited : logs.foldlM (LogScope.visit programId slot transactionIndex signature) scope =
      .ok final) :
    ∃ after, logs.foldlM (CoverageWalk.visit programId) walk = .ok after ∧
      Follows final after := by
  obtain ⟨untruncated, tokens⟩ := (LogScope.foldlM_visit_eq_ok programId slot transactionIndex
    signature logs scope final).mp visited
  have same : logs.map tokenOf = (logs.map logToken).map LogToken.withoutOutcome := by
    rw [List.map_map]
    exact List.map_congr_left fun log _ => (withoutOutcome_logToken log).symm
  rw [same] at tokens
  obtain ⟨after, walked, later⟩ := follows.foldlM_visitToken (logs.map logToken) tokens
  exact ⟨after, (CoverageWalk.foldlM_visit_eq_ok programId logs walk after).mpr
    ⟨untruncated, walked⟩, later⟩

/-- Whatever can be scoped has a coverage. -/
theorem successfulSelfCpiCoverage_of_scoped {programId : String} {slot : Nat}
    {transactionIndex : Option Nat} {signature : String} {logs : List String}
    {records : List ScopedProgramData}
    (scopes : scopeProgramDataLogs programId slot transactionIndex signature logs = .ok records) :
    ∃ coverage, successfulSelfCpiCoverage programId logs = .ok coverage := by
  unfold scopeProgramDataLogs at scopes
  split_ifs at scopes
  obtain ⟨final, folded, returned⟩ := bind_eq_ok.mp scopes
  obtain ⟨after, read, follows⟩ := Follows.start.foldlM_visit folded
  have closed : after.stack.isEmpty = true := by
    split_ifs at returned with leftOpen
    rw [List.isEmpty_iff_length_eq_zero, ← follows.length_stack]
    simpa using leftOpen
  refine ⟨after.coverage, ?_⟩
  rw [successfulSelfCpiCoverage, read]
  change (if !after.stack.isEmpty then _ else _) = _
  rw [closed]
  rfl

end Soldisco.Intake

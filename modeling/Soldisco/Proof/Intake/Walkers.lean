import Soldisco.Proof.Intake.Agreement

/-
This file proves that the scoping and the coverage read the same logs and assign a line to the same
top-level instruction.
-/

namespace Soldisco.Intake
open Accumulation CallForest MachineInteger

/-- The top-level instruction that the scoping assigns the line to. -/
def LogScope.lineInstruction (scope : LogScope) (log : String) : Option Nat :=
  match parseInvoke log with
  | some (_, 1) => some scope.nextInstructionIndex
  | _ => scope.stack.head?.map Prod.snd

/-- The top-level instruction that the coverage assigns the line to. -/
def CoverageWalk.lineInstruction (walk : CoverageWalk) (log : String) : Option Nat :=
  match parseInvoke log with
  | some (_, 1) => some walk.nextInstructionIndex
  | _ => walk.stack.head?.map InvocationFrame.instructionIndex

/-- Walks that follow each other assign the next line alike. -/
theorem Follows.lineInstruction {scope : LogScope} {walk : CoverageWalk}
    (follows : Follows scope walk) (log : String) :
    scope.lineInstruction log = walk.lineInstruction log := by
  have innermost : scope.stack.head?.map Prod.snd =
      walk.stack.head?.map InvocationFrame.instructionIndex := by
    rw [follows.stack, CoverageWalk.labels, List.head?_map, Option.map_map]
    rfl
  unfold LogScope.lineInstruction CoverageWalk.lineInstruction
  rw [follows.next, innermost]

section Scope

variable {programId : String} {slot : Nat} {transactionIndex : Option Nat} {signature : String}

/-- What the scoping takes from the line stands under the instruction. -/
def LogScope.RecordsUnder (scope next : LogScope) (log : String) (instruction : Option Nat) :
    Prop :=
  next.scopedData = scope.scopedData ∨ ∃ record : ScopedProgramData, record.log = log ∧
    instruction = some record.coordinate.instructionIndex ∧
    next.scopedData = scope.scopedData ++ [record]

theorem LogScope.record_recordsUnder {scope next : LogScope} {instructionIndex : Nat}
    {log : String}
    (recorded : scope.record slot transactionIndex signature instructionIndex log = .ok next) :
    scope.RecordsUnder next log (some instructionIndex) := by
  unfold LogScope.record at recorded
  dsimp only at recorded
  split at recorded
  · cases recorded
  · cases recorded
    exact .inr ⟨_, rfl, rfl, rfl⟩

theorem LogScope.invoke_scopedData {scope next : LogScope} {program : String} {depth : Nat}
    (entered : scope.invoke program depth = .ok next) : next.scopedData = scope.scopedData := by
  unfold LogScope.invoke at entered
  split at entered
  · cases entered
  · split at entered
    · split at entered
      · cases entered
      · cases entered
        rfl
    · split at entered
      · cases entered
      · cases entered
        rfl

theorem LogScope.exit_scopedData {scope next : LogScope} {program : String}
    (left : scope.exit program = .ok next) : next.scopedData = scope.scopedData := by
  unfold LogScope.exit at left
  split at left
  · cases left
  · cases left
    rfl

/-- One pass of the scoping writes under the instruction of its line. -/
theorem LogScope.visit_recordsUnder {scope next : LogScope} {log : String}
    (visited : scope.visit programId slot transactionIndex signature log = .ok next) :
    scope.RecordsUnder next log (scope.lineInstruction log) := by
  unfold LogScope.visit at visited
  split at visited
  · cases visited
  · split at visited
    · exact .inl (invoke_scopedData visited)
    · rename_i line
      split at visited
      · exact .inl (exit_scopedData visited)
      · split at visited
        · cases visited
          exact .inl rfl
        · split at visited
          · cases visited
            exact .inl rfl
          · rename_i innermost
            split at visited
            · cases visited
              exact .inl rfl
            · have assigned : scope.lineInstruction log = scope.stack.head?.map Prod.snd := by
                rw [lineInstruction, line]
              rw [assigned, innermost]
              exact record_recordsUnder visited

end Scope

namespace CoverageWalk

variable {programId : String}

/-- Only the coverage of the instruction may change. -/
def SettlesUnder (walk next : CoverageWalk) (instruction : Option Nat) : Prop :=
  ∀ other, instruction ≠ some other → next.coverage[other]? = walk.coverage[other]?

theorem setEntry_settlesUnder (walk : CoverageWalk) (instructionIndex : Nat)
    (instruction : SelfCpiCoverage) :
    walk.SettlesUnder (walk.setEntry instructionIndex instruction) (some instructionIndex) := by
  intro other different
  have apart : instructionIndex ≠ other := fun same => different (congrArg some same)
  simp [setEntry, Std.TreeMap.getElem?_insert, apart]

theorem push_settlesUnder (walk : CoverageWalk) (program : String) (instructionIndex : Nat) :
    walk.SettlesUnder (walk.push programId program instructionIndex) (some instructionIndex) := by
  intro other different
  rw [← breakSilence_coverage walk]
  unfold push
  dsimp only
  split
  · exact setEntry_settlesUnder _ _ _ other different
  · rfl

theorem line_settlesUnder (walk : CoverageWalk) (log : String) :
    walk.SettlesUnder (walk.line programId log)
      (walk.stack.head?.map InvocationFrame.instructionIndex) := by
  unfold line
  cases shape : walk.stack with
  | nil =>
      intro other _
      rfl
  | cons frame below =>
      intro other different
      rw [List.head?_cons, Option.map_some] at different
      have silent := congrArg (fun coverage => coverage[other]?) (breakSilence_coverage walk)
      dsimp only
      split_ifs
      · exact silent
      · exact setEntry_settlesUnder _ _ _ other different
      · rfl
      · rfl
      · exact silent
      · exact setEntry_settlesUnder _ _ _ other different
      · exact setEntry_settlesUnder _ _ _ other different
      · rfl

/-- One pass of the coverage settles the instruction of its line. -/
theorem visit_settlesUnder {walk next : CoverageWalk} {log : String}
    (visited : walk.visit programId log = .ok next) :
    walk.SettlesUnder next (walk.lineInstruction log) := by
  unfold visit at visited
  split at visited
  · cases visited
  · split at visited
    · rename_i program depth line
      unfold invoke at visited
      split_ifs at visited with wrong top
      · have assigned : walk.lineInstruction log = some walk.nextInstructionIndex := by
          rw [lineInstruction, line, top]
          rfl
        rw [assigned]
        split at visited
        · cases visited
        · cases visited
          exact push_settlesUnder _ _ _
      · have assigned : walk.lineInstruction log =
            walk.stack.head?.map InvocationFrame.instructionIndex := by
          unfold lineInstruction
          rw [line]
          split
          · rename_i outermost
            cases outermost
            exact absurd rfl top
          · rfl
        rw [assigned]
        split at visited
        · cases visited
        · rename_i innermost
          cases visited
          rw [innermost]
          exact push_settlesUnder _ _ _
    · rename_i line
      have assigned : walk.lineInstruction log =
          walk.stack.head?.map InvocationFrame.instructionIndex := by
        rw [lineInstruction, line]
      rw [assigned]
      split at visited
      · cases shape : walk.stack with
        | nil =>
            unfold exit at visited
            rw [shape] at visited
            cases visited
        | cons frame below =>
            obtain ⟨-, instruction, -, rfl⟩ := exit_eq_ok programId shape visited
            exact setEntry_settlesUnder _ _ _
      · cases visited
        exact line_settlesUnder walk log

theorem line_frames (walk : CoverageWalk) (log : String) :
    (walk.line programId log).labels = walk.labels ∧
      (walk.line programId log).nextInstructionIndex = walk.nextInstructionIndex := by
  have silent := And.intro (breakSilence_labels walk) (breakSilence_next walk)
  unfold line
  cases walk.stack with
  | nil => exact ⟨rfl, rfl⟩
  | cons frame below =>
      dsimp only
      split_ifs
      · exact silent
      · exact ⟨rfl, rfl⟩
      · exact ⟨rfl, rfl⟩
      · exact ⟨rfl, rfl⟩
      · exact silent
      · exact ⟨rfl, rfl⟩
      · exact ⟨rfl, rfl⟩
      · exact ⟨rfl, rfl⟩

/-- The programs of the open frames. -/
def programs (walk : CoverageWalk) : List String := walk.labels.map Prod.fst

/-- A token moves the programs as the stack of the forest, and an outermost token takes the next
instruction while there is one. -/
structure TokenRead (walk next : CoverageWalk) (token : Token String String) : Prop where
  programs : step walk.programs token = some next.programs
  counted : next.nextInstructionIndex =
    walk.nextInstructionIndex + if token.isOutermost then 1 else 0
  fits : walk.nextInstructionIndex < u16Size → next.nextInstructionIndex < u16Size

theorem push_programs (walk : CoverageWalk) (program : String) (instructionIndex : Nat) :
    step walk.programs (.enter program (walk.stack.length + 1) : Token String String) =
      some (walk.push programId program instructionIndex).programs := by
  have length : walk.programs.length = walk.stack.length := by simp [programs, labels]
  rw [step, length, if_pos rfl]
  unfold programs
  rw [push_labels]
  rfl

theorem invoke_tokenRead {walk next : CoverageWalk} {program : String} {depth : Nat}
    (entered : walk.invoke programId program depth = .ok next) :
    TokenRead walk next (.enter program depth) := by
  unfold invoke at entered
  split_ifs at entered with wrong top
  · obtain rfl : depth = walk.stack.length + 1 := by simp_all
    split at entered
    · cases entered
    · rename_i following counts
      obtain ⟨rfl, room⟩ := checkedAdd_eq_some.mp counts
      cases entered
      refine ⟨?_, ?_, ?_⟩
      · exact push_programs
          { walk with nextInstructionIndex := walk.nextInstructionIndex + 1 } program _
      · rw [push_next, top]
        rfl
      · intro _
        rw [push_next]
        exact room
  · obtain rfl : depth = walk.stack.length + 1 := by simp_all
    split at entered
    · cases entered
    · cases entered
      refine ⟨push_programs walk program _, ?_, ?_⟩
      · rw [push_next, Token.isOutermost, beq_eq_false_iff_ne.mpr top]
        rfl
      · rw [push_next]
        exact id

theorem exit_tokenRead {walk next : CoverageWalk} {program : String} {succeeded : Bool}
    (left : walk.exit programId program succeeded = .ok next) :
    TokenRead walk next (.exit program) := by
  cases shape : walk.stack with
  | nil =>
      unfold exit at left
      rw [shape] at left
      cases left
  | cons frame below =>
      obtain ⟨same, instruction, -, rfl⟩ := exit_eq_ok programId shape left
      refine ⟨?_, rfl, id⟩
      simp [programs, labels, shape, step, same]

theorem visitToken_tokenRead {walk next : CoverageWalk} {token : LogToken}
    (visited : walk.visitToken programId token = .ok next) :
    TokenRead walk next token.withoutOutcome := by
  cases token with
  | invoke program depth => exact invoke_tokenRead visited
  | exit program succeeded => exact exit_tokenRead visited
  | line log =>
      cases visited
      obtain ⟨labels, next⟩ := @line_frames programId walk log
      refine ⟨?_, next, ?_⟩
      · rw [programs, programs, labels]
        rfl
      · rw [next]
        exact id

/-- The loop over the tokens opens the forest and takes one instruction for each of its calls. -/
theorem foldlM_visitToken_read (tokens : List LogToken) {walk final : CoverageWalk}
    (visited : tokens.foldlM (visitToken programId) walk = .ok final) :
    openLabels walk.programs (tokens.map LogToken.withoutOutcome) = some final.programs ∧
      final.nextInstructionIndex = walk.nextInstructionIndex +
        (tokens.map LogToken.withoutOutcome).countP Token.isOutermost ∧
      (walk.nextInstructionIndex < u16Size → final.nextInstructionIndex < u16Size) := by
  induction tokens generalizing walk with
  | nil =>
      cases visited
      exact ⟨rfl, rfl, id⟩
  | cons token rest ih =>
      obtain ⟨middle, first, later⟩ := foldlM_cons_eq_ok.mp visited
      have read := visitToken_tokenRead first
      obtain ⟨opened, counted, fits⟩ := ih later
      refine ⟨?_, ?_, fun room => fits (read.fits room)⟩
      · rw [List.map_cons, openLabels, read.programs]
        exact opened
      · rw [counted, read.counted, List.map_cons, List.countP_cons]
        omega

end CoverageWalk

/-- A log with a coverage prints a forest whose calls the instruction index can count. -/
theorem exists_forest_of_coverage {programId : String} {logs : List String}
    {coverage : Std.TreeMap Nat SelfCpiCoverage}
    (covered : successfulSelfCpiCoverage programId logs = .ok coverage) :
    (∀ log ∈ logs, isLogTruncationMarker log = false) ∧
      (∃ forest : Forest String String, logs.map tokenOf = forest.print 1) ∧
      ∀ forest : Forest String String, logs.map tokenOf = forest.print 1 →
        forest.calls.length ≤ 65535 := by
  obtain ⟨walk, folded, returned⟩ := bind_eq_ok.mp covered
  obtain ⟨untruncated, visited⟩ := (CoverageWalk.foldlM_visit_eq_ok programId logs _ _).mp folded
  obtain ⟨opened, counted, fits⟩ := CoverageWalk.foldlM_visitToken_read _ visited
  have tokens : (logs.map logToken).map LogToken.withoutOutcome = logs.map tokenOf := by
    rw [List.map_map]
    exact List.map_congr_left fun log _ => withoutOutcome_logToken log
  rw [tokens] at opened counted
  have closed : walk.programs = [] := by
    split at returned
    · cases returned
    · rename_i empty
      simp only [Bool.not_eq_true', Bool.not_eq_false, List.isEmpty_iff] at empty
      rw [CoverageWalk.programs, CoverageWalk.labels, empty]
      rfl
  rw [closed] at opened
  refine ⟨untruncated, (openLabels_eq_nil_iff _).mp opened, ?_⟩
  intro forest printed
  rw [printed, Forest.countP_isOutermost_print forest Nat.one_pos, if_pos rfl] at counted
  have room := fits (by decide)
  rw [counted] at room
  change 0 + _ < 65536 at room
  omega

section Agreement

variable (programId : String) (slot : Nat) (transactionIndex : Option Nat) (signature : String)

/-- Both loops reach the line, assign it to one instruction and write under that instruction. -/
def AssignedAlike (front : List String) (log : String) : Prop :=
  ∃ scope scopeNext walk walkNext instruction,
    front.foldlM (LogScope.visit programId slot transactionIndex signature) .start = .ok scope ∧
    scope.visit programId slot transactionIndex signature log = .ok scopeNext ∧
    front.foldlM (CoverageWalk.visit programId) .start = .ok walk ∧
    walk.visit programId log = .ok walkNext ∧
    scope.lineInstruction log = instruction ∧ walk.lineInstruction log = instruction ∧
    scope.RecordsUnder scopeNext log instruction ∧ walk.SettlesUnder walkNext instruction

/-- The scoping and the coverage accept the same logs up to the number of records that one
instruction may have, and they assign every line alike. -/
theorem log_walkers_agree (logs : List String) (present : Text.isBlank signature = false) :
    ((∃ records, scopeProgramDataLogs programId slot transactionIndex signature logs =
        .ok records) →
      ∃ coverage, successfulSelfCpiCoverage programId logs = .ok coverage) ∧
    ((∃ coverage, successfulSelfCpiCoverage programId logs = .ok coverage) →
      (∀ forest : Forest String String, logs.map tokenOf = forest.print 1 →
        ∀ call ∈ forest.calls, (programDataOf programId call).length ≤ 65535) →
      ∃ records, scopeProgramDataLogs programId slot transactionIndex signature logs =
        .ok records) ∧
    ∀ records coverage,
      scopeProgramDataLogs programId slot transactionIndex signature logs = .ok records →
      successfulSelfCpiCoverage programId logs = .ok coverage →
      ∀ front log back, logs = front ++ log :: back →
        AssignedAlike programId slot transactionIndex signature front log := by
  refine ⟨?_, ?_, ?_⟩
  · rintro ⟨records, scopes⟩
    exact successfulSelfCpiCoverage_of_scoped scopes
  · rintro ⟨coverage, covered⟩ limited
    obtain ⟨untruncated, printed, counted⟩ := exists_forest_of_coverage covered
    apply (scopeProgramDataLogs_forest programId slot transactionIndex present logs).1.mpr
    exact ⟨untruncated, (exists_print_iff_filter _).mp printed,
      fun forest same => ⟨counted forest same, limited forest same⟩⟩
  · intro records coverage scopes _ front log back split
    unfold scopeProgramDataLogs at scopes
    rw [present] at scopes
    obtain ⟨final, folded, -⟩ := bind_eq_ok.mp scopes
    rw [split] at folded
    obtain ⟨scope, before, later⟩ := foldlM_append_eq_ok.mp folded
    obtain ⟨scopeNext, visited, -⟩ := foldlM_cons_eq_ok.mp later
    obtain ⟨walk, walked, follows⟩ := Follows.start.foldlM_visit before
    have single : [log].foldlM (LogScope.visit programId slot transactionIndex signature) scope =
        .ok scopeNext := foldlM_cons_eq_ok.mpr ⟨scopeNext, visited, rfl⟩
    obtain ⟨walkNext, stepped, -⟩ := follows.foldlM_visit single
    obtain ⟨_, passed, ends⟩ := foldlM_cons_eq_ok.mp stepped
    cases ends
    exact ⟨scope, scopeNext, walk, walkNext, walk.lineInstruction log, before, visited, walked,
      passed, follows.lineInstruction log, rfl,
      follows.lineInstruction log ▸ LogScope.visit_recordsUnder visited,
      CoverageWalk.visit_settlesUnder passed⟩

end Agreement

/-- Both loops read the logs of the nested program and agree on its record. -/
theorem log_walkers_agree_nested :
    (∃ coverage, successfulSelfCpiCoverage "P" nestedLogs = .ok coverage) ∧
      AssignedAlike "P" 42 none "s" ["Program O invoke [1]", "Program P invoke [2]"]
        "Program data: x" := by
  have scopes : scopeProgramDataLogs "P" 42 none "s" nestedLogs =
      .ok [scopedAt 42 none "s" 0 0 "Program data: x"] := by decide +kernel
  obtain ⟨covers, -, assigns⟩ := log_walkers_agree "P" 42 none "s" nestedLogs (by decide)
  obtain ⟨coverage, covered⟩ := covers ⟨_, scopes⟩
  exact ⟨⟨coverage, covered⟩, assigns _ coverage scopes covered _ _
    ["Program P success", "Program O success"] rfl⟩

end Soldisco.Intake

import Soldisco.Library.Accumulation
import Soldisco.Proof.Intake.LogScope

/-
This file proves which errors the scoping of logs returns and which logs its records come from.
-/

namespace Soldisco.Intake
open Accumulation Domain MachineInteger

/-- The numbers of the error fit their width. -/
def LogScopeError.IsBounded : LogScopeError → Prop
  | .invalidInvocationDepth depth => depth < u64Size
  | .unclosedInvocations depth => depth < u64Size
  | .tooManyInstructions limit => limit < u64Size
  | .tooManyEvents limit => limit < u64Size
  | .emptySignature | .truncatedLogs | .unexpectedProgramExit _ => True

/-- The depth of an invocation fits its width. -/
theorem depth_of_parseInvoke {log invokedProgram : String} {depth : Nat}
    (parsed : parseInvoke log = some (invokedProgram, depth)) : depth < u64Size := by
  unfold parseInvoke at parsed
  simp only [Option.bind_eq_bind, Option.bind_eq_some_iff] at parsed
  obtain ⟨suffix, -, ⟨programId, digits⟩, -, parsed⟩ := parsed
  dsimp only at parsed
  split_ifs at parsed
  obtain ⟨text, -, parsed⟩ := Option.bind_eq_some_iff.mp parsed
  obtain ⟨number, read, done⟩ := Option.bind_eq_some_iff.mp parsed
  cases done
  exact Text.parseUnsigned_lt read

/-- A log is the exit of a program that is not the active invocation. -/
structure LogScope.IsUnexpectedExit (scope : LogScope) (log exitedProgram : String) : Prop where
  complete : isLogTruncationMarker log = false
  noInvocation : parseInvoke log = none
  exits : ∃ success, parseExit log = some (exitedProgram, success)
  inactive : (scope.stack.head?.all fun active => active.1 ≠ exitedProgram) = true

/-- The line of a successful exit. -/
def successLine (exitedProgram : String) : String := "Program " ++ (exitedProgram ++ " success")

theorem isLogTruncationMarker_successLine (exitedProgram : String) :
    isLogTruncationMarker (successLine exitedProgram) = false := by
  have longer : successLine exitedProgram ≠ "Log truncated" := by
    intro same
    have characters := congrArg String.toList same
    rw [successLine, String.toList_append] at characters
    cases characters
  have start : Text.startsWith (successLine exitedProgram) "Log truncated: " = false := by
    rw [Text.startsWith, successLine, String.toList_append]
    rfl
  rw [isLogTruncationMarker, start, Bool.or_false]
  exact beq_false_of_ne longer

section Success

variable {exitedProgram : String} (named : isPlausibleProgramId exitedProgram = true)
include named

/-- The line of a successful exit is no invocation. -/
theorem parseInvoke_successLine : parseInvoke (successLine exitedProgram) = none := by
  have unspaced : ' ' ∉ exitedProgram.toList := by
    intro space
    have marked : exitedProgram.toList.any Text.isAsciiWhitespace = true :=
      List.any_eq_true.mpr ⟨' ', space, rfl⟩
    rw [isPlausibleProgramId, marked] at named
    simp at named
  have unsplit : Text.splitOnce (exitedProgram ++ " success") " invoke [" = none := by
    have characters : (exitedProgram ++ " success").toList =
        exitedProgram.toList ++ ' ' :: "success".toList := by simp
    have separator : " invoke [".toList = ' ' :: "invoke [".toList := by simp
    rw [Text.splitOnce, characters, separator, Text.splitAtFirst_append ' ' _ _ _ unspaced]
    rfl
  rw [parseInvoke, successLine, Text.stripPrefix_append]
  change (Text.splitOnce (exitedProgram ++ " success") " invoke [").bind _ = none
  rw [unsplit]
  rfl

theorem parseExit_successLine :
    parseExit (successLine exitedProgram) = some (exitedProgram, true) := by
  have stripped := Text.stripSuffix_append exitedProgram " success"
  simp only [parseExit, successLine, Text.stripPrefix_append, stripped, Option.bind_eq_bind,
    Option.bind_some, named, if_true]

theorem tokenOf_successLine : tokenOf (successLine exitedProgram) = .exit exitedProgram := by
  rw [tokenOf, parseInvoke_successLine named, parseExit_successLine named]

/-- No exit is expected before the first invocation. -/
theorem start_isUnexpectedExit :
    LogScope.start.IsUnexpectedExit (successLine exitedProgram) exitedProgram where
  complete := isLogTruncationMarker_successLine exitedProgram
  noInvocation := parseInvoke_successLine named
  exits := ⟨true, parseExit_successLine named⟩
  inactive := rfl

end Success

section Scope

variable (programId : String) (slot : Nat) (transactionIndex : Option Nat) (signature : String)

namespace LogScope

/-- A log opens at most one invocation and is recorded at most once. -/
theorem visit_grows {scope next : LogScope} {log : String}
    (visited : scope.visit programId slot transactionIndex signature log = .ok next) :
    next.stack.length ≤ scope.stack.length + 1 ∧ (next.scopedData = scope.scopedData ∨
      ∃ instructionIndex eventIndex, next.scopedData = scope.scopedData ++
        [scopedAt slot transactionIndex signature instructionIndex eventIndex log]) := by
  unfold visit at visited
  split at visited
  · cases visited
  split at visited
  · unfold invoke at visited
    split_ifs at visited
    · split at visited
      · cases visited
      · cases visited
        exact ⟨le_rfl, .inl rfl⟩
    · split at visited
      · cases visited
      · cases visited
        exact ⟨le_rfl, .inl rfl⟩
  split at visited
  · unfold exit at visited
    split_ifs at visited
    cases visited
    refine ⟨?_, .inl rfl⟩
    rw [List.length_tail]
    omega
  split_ifs at visited
  · cases visited
    exact ⟨Nat.le_succ _, .inl rfl⟩
  split at visited
  · cases visited
    exact ⟨Nat.le_succ _, .inl rfl⟩
  split_ifs at visited
  · cases visited
    exact ⟨Nat.le_succ _, .inl rfl⟩
  unfold record at visited
  dsimp only at visited
  split at visited
  · cases visited
  · cases visited
    exact ⟨Nat.le_succ _, .inr ⟨_, _, rfl⟩⟩

/-- The numbers that an error reports fit their width. -/
theorem visit_isBounded {scope : LogScope} {log : String} {error : LogScopeError}
    (failed : scope.visit programId slot transactionIndex signature log = .error error) :
    error.IsBounded := by
  unfold visit at failed
  split at failed
  · cases failed
    trivial
  split at failed
  · rename_i invokedProgram depth invoked
    have fits : depth < u64Size := depth_of_parseInvoke invoked
    unfold invoke at failed
    split_ifs at failed
    · cases failed
      exact fits
    · split at failed
      · cases failed
        exact Nat.lt_of_le_of_lt (Nat.sub_le _ _) (by decide)
      · cases failed
    · split at failed
      · cases failed
        exact fits
      · cases failed
  split at failed
  · unfold exit at failed
    split_ifs at failed
    cases failed
    trivial
  split_ifs at failed
  split at failed
  · cases failed
  split_ifs at failed
  unfold record at failed
  dsimp only at failed
  split at failed
  · cases failed
    exact Nat.lt_of_le_of_lt (Nat.sub_le _ _) (by decide)
  · cases failed

theorem visit_eq_unexpectedExit {scope : LogScope} {log exitedProgram : String} :
    scope.visit programId slot transactionIndex signature log =
        .error (.unexpectedProgramExit exitedProgram) ↔
      scope.IsUnexpectedExit log exitedProgram := by
  constructor
  · intro failed
    unfold visit at failed
    split at failed
    · cases failed
    rename_i complete
    split at failed
    · unfold invoke at failed
      split_ifs at failed
      · cases failed
      · split at failed <;> cases failed
      · split at failed <;> cases failed
    rename_i noInvocation
    split at failed
    · rename_i reported success exits
      unfold exit at failed
      split_ifs at failed with inactive
      cases failed
      exact ⟨Bool.eq_false_iff.mpr complete, noInvocation, ⟨success, exits⟩, inactive⟩
    split_ifs at failed
    split at failed
    · cases failed
    split_ifs at failed
    unfold record at failed
    dsimp only at failed
    split at failed <;> cases failed
  · intro ⟨complete, noInvocation, ⟨success, exits⟩, inactive⟩
    rw [visit, complete, noInvocation, exits]
    exact if_pos inactive

end LogScope

variable {programId slot transactionIndex signature}

theorem foldlM_visit_grows {logs : List String} {final : LogScope}
    (folded : logs.foldlM (LogScope.visit programId slot transactionIndex signature) .start =
      .ok final) :
    final.stack.length ≤ logs.length ∧ ∀ record ∈ final.scopedData, record.log ∈ logs ∧
      ∃ instructionIndex eventIndex, record = scopedAt slot transactionIndex signature
        instructionIndex eventIndex record.log := by
  refine foldlM_describes (fun seen scope => scope.stack.length ≤ seen.length ∧
    ∀ record ∈ scope.scopedData, record.log ∈ seen ∧ ∃ instructionIndex eventIndex,
      record = scopedAt slot transactionIndex signature instructionIndex eventIndex record.log)
    ?_ ⟨le_rfl, by simp [LogScope.start]⟩ folded
  intro seen log scope next described visited
  obtain ⟨stack, data⟩ := described
  obtain ⟨grown, recorded⟩ :=
    LogScope.visit_grows programId slot transactionIndex signature visited
  refine ⟨by rw [List.length_append, List.length_singleton]; omega, ?_⟩
  intro record member
  rcases recorded with same | ⟨instructionIndex, eventIndex, extended⟩
  · rw [same] at member
    exact ⟨List.mem_append_left _ (data record member).1, (data record member).2⟩
  · rw [extended, List.mem_append, List.mem_singleton] at member
    rcases member with earlier | rfl
    · exact ⟨List.mem_append_left _ (data record earlier).1, (data record earlier).2⟩
    · exact ⟨List.mem_append_right _ List.mem_cons_self, instructionIndex, eventIndex, rfl⟩

/-- The records of a log are lines of it. -/
theorem scopeProgramDataLogs_lines {logs : List String} {records : List ScopedProgramData}
    (scopes : scopeProgramDataLogs programId slot transactionIndex signature logs = .ok records)
    {record : ScopedProgramData} (member : record ∈ records) :
    record.log ∈ logs ∧ ∃ instructionIndex eventIndex, record =
      scopedAt slot transactionIndex signature instructionIndex eventIndex record.log := by
  unfold scopeProgramDataLogs at scopes
  split_ifs at scopes
  obtain ⟨final, folded, closed⟩ := bind_eq_ok.mp scopes
  split_ifs at closed
  cases closed
  exact (foldlM_visit_grows folded).2 record member

/-- The numbers that an error reports fit their width. -/
theorem scopeProgramDataLogs_isBounded {logs : List String} {error : LogScopeError}
    (fits : logs.length < u64Size)
    (failed : scopeProgramDataLogs programId slot transactionIndex signature logs =
      .error error) : error.IsBounded := by
  unfold scopeProgramDataLogs at failed
  split_ifs at failed
  · cases failed
    trivial
  rcases bind_eq_error.mp failed with early | ⟨final, folded, unclosed⟩
  · obtain ⟨front, log, back, scope, -, -, visited⟩ := foldlM_eq_error_iff.mp early
    exact LogScope.visit_isBounded programId slot transactionIndex signature visited
  · split_ifs at unclosed
    · cases unclosed
      exact lt_of_le_of_lt (foldlM_visit_grows folded).1 fits
    · cases unclosed

/-- The scoping reports an unexpected exit exactly at the log that is one. -/
theorem scopeProgramDataLogs_unexpectedExit (present : Text.isBlank signature = false)
    {logs : List String} {exitedProgram : String} :
    scopeProgramDataLogs programId slot transactionIndex signature logs =
        .error (.unexpectedProgramExit exitedProgram) ↔
      ∃ front log back scope, logs = front ++ log :: back ∧
        front.foldlM (LogScope.visit programId slot transactionIndex signature) .start =
          .ok scope ∧ scope.IsUnexpectedExit log exitedProgram := by
  have visits : ∀ scope log, LogScope.visit programId slot transactionIndex signature scope log =
      .error (.unexpectedProgramExit exitedProgram) ↔ scope.IsUnexpectedExit log exitedProgram :=
    fun scope log => LogScope.visit_eq_unexpectedExit programId slot transactionIndex signature
  simp only [← visits]
  rw [← foldlM_eq_error_iff]
  unfold scopeProgramDataLogs
  rw [present, if_neg Bool.false_ne_true, bind_eq_error]
  constructor
  · intro failed
    rcases failed with early | ⟨final, folded, unclosed⟩
    · exact early
    · split_ifs at unclosed
      · cases unclosed
      · cases unclosed
  · exact .inl

end Scope
end Soldisco.Intake

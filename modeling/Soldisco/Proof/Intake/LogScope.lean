import Mathlib.Data.List.Sort
import Soldisco.Construction.Intake.LogScope
import Soldisco.Library.CallForest

/-
This file proves that the scoped program data is read off the forest of invocations.
-/

namespace Soldisco.Intake
open CallForest Domain MachineInteger

/-- A line enters an invocation, exits one or stands between them. -/
def tokenOf (log : String) : Token String String :=
  match parseInvoke log with
  | some (invokedProgram, depth) => .enter invokedProgram depth
  | none =>
      match parseExit log with
      | some (exitedProgram, _) => .exit exitedProgram
      | none => .leaf log

/-- The program data of one call whose innermost invocation is the program. -/
def programDataOf (programId : String) (call : String × Forest String String) : List String :=
  (call.2.leavesOf programId call.1).filter isProgramData

/-- Both indexes are unsigned 16-bit and their last value is never given. -/
structure WithinLimits (programId : String) (forest : Forest String String) : Prop where
  instructions : forest.calls.length ≤ 65535
  events : ∀ call ∈ forest.calls, (programDataOf programId call).length ≤ 65535

section Scope

variable (programId : String) (slot : Nat) (transactionIndex : Option Nat) (signature : String)

def scopedAt (instructionIndex eventIndex : Nat) (log : String) : ScopedProgramData where
  coordinate := { slot, transactionIndex, signature, instructionIndex, eventIndex }
  log

/-- The data of one call carries its ordinal and the position among the data of the call. -/
def callData (instructionIndex : Nat) (call : String × Forest String String) :
    List ScopedProgramData :=
  (programDataOf programId call).zipIdx.map fun entry =>
    scopedAt slot transactionIndex signature instructionIndex entry.2 entry.1

/-- The data of consecutive calls in log order. -/
def callsData (first : Nat) (calls : List (String × Forest String String)) :
    List ScopedProgramData :=
  (calls.zipIdx first).flatMap fun entry =>
    callData programId slot transactionIndex signature entry.2 entry.1

namespace LogScope

/-- One pass of the loop over a token. -/
def visitToken (scope : LogScope) : Token String String → Except LogScopeError LogScope
  | .enter invokedProgram depth => scope.invoke invokedProgram depth
  | .exit exitedProgram => scope.exit exitedProgram
  | .leaf log =>
      if !isProgramData log then .ok scope
      else
        match scope.stack.head? with
        | none => .ok scope
        | some (activeProgram, instructionIndex) =>
            if activeProgram ≠ programId then .ok scope
            else scope.record slot transactionIndex signature instructionIndex log

theorem visit_eq (scope : LogScope) (log : String) :
    visit programId slot transactionIndex signature scope log =
      if isLogTruncationMarker log then .error .truncatedLogs
      else visitToken programId slot transactionIndex signature scope (tokenOf log) := by
  unfold visit tokenOf
  cases parseInvoke log with
  | some invoked => rfl
  | none =>
      cases parseExit log with
      | some exited => rfl
      | none => rfl

/-- The loop over the lines is the loop over the tokens unless a line marks a truncation. -/
theorem foldlM_visit_eq_ok (logs : List String) (scope final : LogScope) :
    logs.foldlM (visit programId slot transactionIndex signature) scope = .ok final ↔
      (∀ log ∈ logs, isLogTruncationMarker log = false) ∧
        (logs.map tokenOf).foldlM (visitToken programId slot transactionIndex signature) scope =
          .ok final := by
  induction logs generalizing scope with
  | nil => simp
  | cons log rest ih =>
      simp only [List.foldlM_cons, visit_eq, List.map_cons, List.forall_mem_cons]
      cases truncated : isLogTruncationMarker log with
      | true =>
          simp only [if_true, Bool.true_eq_false, false_and, iff_false]
          intro impossible
          cases impossible
      | false =>
          simp only [Bool.false_eq_true, if_false, true_and]
          cases visitToken programId slot transactionIndex signature scope (tokenOf log) with
          | error error =>
              constructor
              · intro impossible
                cases impossible
              · rintro ⟨-, impossible⟩
                cases impossible
          | ok next => exact ih next

/-- The programs of the open invocations. -/
def labels (scope : LogScope) : List String := scope.stack.map Prod.fst

/-- The number of data records of one instruction so far. -/
def eventCount (scope : LogScope) (instructionIndex : Nat) : Nat :=
  scope.eventIndexes[instructionIndex]?.getD 0

/-- The scope with one more line under the instruction. -/
def noted (instructionIndex : Nat) (log : String) (scope : LogScope) : LogScope :=
  { scope with
    eventIndexes := scope.eventIndexes.insert instructionIndex (scope.eventCount instructionIndex + 1)
    scopedData := scope.scopedData ++ [scopedAt slot transactionIndex signature instructionIndex
      (scope.eventCount instructionIndex) log] }

theorem record_ok {scope : LogScope} {instructionIndex : Nat} (log : String)
    (room : scope.eventCount instructionIndex + 1 < u16Size) :
    scope.record slot transactionIndex signature instructionIndex log =
      .ok (scope.noted slot transactionIndex signature instructionIndex log) := by
  unfold eventCount at room
  simp only [record, checkedAdd_of_lt room]
  rfl

theorem record_full {scope : LogScope} {instructionIndex : Nat} (log : String)
    (full : ¬ scope.eventCount instructionIndex + 1 < u16Size) :
    scope.record slot transactionIndex signature instructionIndex log =
      .error (.tooManyEvents (u16Size - 1)) := by
  unfold eventCount at full
  simp only [record, checkedAdd_of_not_lt full]

theorem record_stack {scope next : LogScope} {instructionIndex : Nat} {log : String}
    (recorded : scope.record slot transactionIndex signature instructionIndex log = .ok next) :
    next.stack = scope.stack := by
  by_cases room : scope.eventCount instructionIndex + 1 < u16Size
  · rw [record_ok slot transactionIndex signature log room] at recorded
    cases recorded
    rfl
  · rw [record_full slot transactionIndex signature log room] at recorded
    cases recorded

/-- The loop opens and closes invocations as the stack of the forest does. -/
theorem visitToken_step {scope next : LogScope} {token : Token String String}
    (visited : visitToken programId slot transactionIndex signature scope token = .ok next) :
    step scope.labels token = some next.labels := by
  cases token with
  | enter invokedProgram depth =>
      change scope.invoke invokedProgram depth = .ok next at visited
      unfold invoke at visited
      split at visited
      · cases visited
      · rename_i valid
        simp only [ne_eq, Bool.or_eq_true, decide_eq_true_eq, not_or, not_not] at valid
        rw [step, labels, List.length_map, if_pos valid.2]
        split at visited
        · split at visited
          · cases visited
          · cases visited
            rfl
        · split at visited
          · cases visited
          · cases visited
            rfl
  | exit exitedProgram =>
      change scope.exit exitedProgram = .ok next at visited
      unfold exit at visited
      split at visited
      · cases visited
      · rename_i valid
        cases visited
        cases stack : scope.stack with
        | nil => simp [stack] at valid
        | cons active below =>
            simp only [stack, List.head?_cons, Option.all_some, ne_eq, decide_not, Bool.not_eq_true',
              decide_eq_false_iff_not, not_not] at valid
            simp [step, labels, stack, valid]
  | leaf log =>
      simp only [visitToken] at visited
      rw [step, labels, labels]
      suffices same : next.stack = scope.stack by rw [same]
      split at visited
      · cases visited
        rfl
      · split at visited
        · cases visited
          rfl
        · split at visited
          · cases visited
            rfl
          · exact record_stack slot transactionIndex signature visited

theorem foldlM_visitToken_openLabels {tokens : List (Token String String)} {scope final : LogScope}
    (visited : tokens.foldlM (visitToken programId slot transactionIndex signature) scope =
      .ok final) : openLabels scope.labels tokens = some final.labels := by
  induction tokens generalizing scope with
  | nil =>
      cases visited
      rfl
  | cons token rest ih =>
      rw [List.foldlM_cons] at visited
      cases stepped : visitToken programId slot transactionIndex signature scope token with
      | error error =>
          rw [stepped] at visited
          cases visited
      | ok next =>
          rw [stepped] at visited
          rw [openLabels, visitToken_step programId slot transactionIndex signature stepped]
          exact ih visited

/-- The recording of several lines under one instruction. -/
def recordAll (instructionIndex : Nat) (lines : List String) (scope : LogScope) :
    Except LogScopeError LogScope :=
  lines.foldlM (fun scope log => scope.record slot transactionIndex signature instructionIndex log)
    scope

/-- The lines are recorded one after the other under the next event indexes. -/
structure Recorded (instructionIndex : Nat) (lines : List String) (scope final : LogScope) :
    Prop where
  stack : final.stack = scope.stack
  nextInstructionIndex : final.nextInstructionIndex = scope.nextInstructionIndex
  others : ∀ other, other ≠ instructionIndex → final.eventCount other = scope.eventCount other
  scopedData : final.scopedData = scope.scopedData ++
    (lines.zipIdx (scope.eventCount instructionIndex)).map fun entry =>
      scopedAt slot transactionIndex signature instructionIndex entry.2 entry.1

theorem noted_eventCount (instructionIndex other : Nat) (log : String) (scope : LogScope) :
    (scope.noted slot transactionIndex signature instructionIndex log).eventCount other =
      if other = instructionIndex then scope.eventCount instructionIndex + 1
      else scope.eventCount other := by
  simp only [noted, eventCount, Std.TreeMap.getElem?_insert, Std.LawfulEqCmp.compare_eq_iff_eq]
  by_cases same : other = instructionIndex
  · simp [same]
  · simp [same, Ne.symm same]

/-- The recording succeeds when the event index has room for all the lines. -/
theorem recordAll_ok {instructionIndex : Nat} {lines : List String} {scope : LogScope}
    (room : scope.eventCount instructionIndex + lines.length < u16Size) :
    ∃ final, recordAll slot transactionIndex signature instructionIndex lines scope = .ok final ∧
      Recorded slot transactionIndex signature instructionIndex lines scope final := by
  induction lines generalizing scope with
  | nil => exact ⟨scope, rfl, rfl, rfl, fun _ _ => rfl, by simp⟩
  | cons log rest ih =>
      rw [List.length_cons] at room
      have fits : scope.eventCount instructionIndex + 1 < u16Size := by omega
      have counted := noted_eventCount slot transactionIndex signature instructionIndex
        instructionIndex log scope
      rw [if_pos rfl] at counted
      obtain ⟨final, ok, recorded⟩ :=
        @ih (scope.noted slot transactionIndex signature instructionIndex log) (by omega)
      refine ⟨final, ?_, recorded.stack, recorded.nextInstructionIndex, ?_, ?_⟩
      · rw [recordAll, List.foldlM_cons, record_ok slot transactionIndex signature log fits]
        exact ok
      · intro other different
        rw [recorded.others other different, noted_eventCount, if_neg different]
      · rw [recorded.scopedData, counted]
        simp [noted]

/-- The recording fails when it runs out of event indexes. -/
theorem recordAll_full {instructionIndex : Nat} {lines : List String} {scope : LogScope}
    (small : scope.eventCount instructionIndex < u16Size)
    (full : ¬ scope.eventCount instructionIndex + lines.length < u16Size) :
    ∃ error, recordAll slot transactionIndex signature instructionIndex lines scope =
      .error error := by
  induction lines generalizing scope with
  | nil => exact absurd small full
  | cons log rest ih =>
      rw [List.length_cons] at full
      by_cases fits : scope.eventCount instructionIndex + 1 < u16Size
      · have counted := noted_eventCount slot transactionIndex signature instructionIndex
          instructionIndex log scope
        rw [if_pos rfl] at counted
        obtain ⟨error, failed⟩ := @ih
          (scope.noted slot transactionIndex signature instructionIndex log) (by omega) (by omega)
        refine ⟨error, ?_⟩
        rw [recordAll, List.foldlM_cons, record_ok slot transactionIndex signature log fits]
        exact failed
      · refine ⟨.tooManyEvents (u16Size - 1), ?_⟩
        rw [recordAll, List.foldlM_cons, record_full slot transactionIndex signature log fits]
        rfl

theorem recordAll_push (instructionIndex : Nat) (lines : List String) (scope : LogScope)
    (stack : List (String × Nat)) :
    recordAll slot transactionIndex signature instructionIndex lines { scope with stack } =
      (recordAll slot transactionIndex signature instructionIndex lines scope).map
        fun final => { final with stack } := by
  induction lines generalizing scope with
  | nil => rfl
  | cons log rest ih =>
      simp only [recordAll, List.foldlM_cons] at ih ⊢
      by_cases room : scope.eventCount instructionIndex + 1 < u16Size
      · rw [record_ok slot transactionIndex signature log room,
          @record_ok slot transactionIndex signature { scope with stack } _ log room]
        exact ih (scope.noted slot transactionIndex signature instructionIndex log)
      · rw [record_full slot transactionIndex signature log room,
          @record_full slot transactionIndex signature { scope with stack } _ log room]
        rfl

theorem recordAll_cons (instructionIndex : Nat) (log : String) (rest : List String)
    (scope : LogScope) :
    recordAll slot transactionIndex signature instructionIndex (log :: rest) scope =
      scope.record slot transactionIndex signature instructionIndex log >>=
        recordAll slot transactionIndex signature instructionIndex rest := rfl

theorem recordAll_append (instructionIndex : Nat) (front back : List String) (scope : LogScope) :
    recordAll slot transactionIndex signature instructionIndex (front ++ back) scope =
      recordAll slot transactionIndex signature instructionIndex front scope >>=
        recordAll slot transactionIndex signature instructionIndex back := by
  rw [recordAll, List.foldlM_append]
  rfl

theorem recordAll_stack {instructionIndex : Nat} {lines : List String} {scope final : LogScope}
    (recorded : recordAll slot transactionIndex signature instructionIndex lines scope = .ok final) :
    final.stack = scope.stack := by
  induction lines generalizing scope with
  | nil =>
      cases recorded
      rfl
  | cons log rest ih =>
      rw [recordAll_cons] at recorded
      cases first : scope.record slot transactionIndex signature instructionIndex log with
      | error error =>
          rw [first] at recorded
          cases recorded
      | ok next =>
          rw [first] at recorded
          exact (ih recorded).trans (record_stack slot transactionIndex signature first)

/-- A nested invocation inherits the instruction of its parent. -/
theorem invoke_nested {scope : LogScope} {program : String} {instructionIndex : Nat}
    {below : List (String × Nat)} (inside : scope.stack = (program, instructionIndex) :: below)
    (label : String) : scope.invoke label (scope.stack.length + 1) =
      .ok { scope with stack := (label, instructionIndex) :: scope.stack } := by
  have nested : scope.stack.length + 1 ≠ 1 := by simp [inside]
  simp [invoke, inside] at nested ⊢

theorem exit_innermost (scope : LogScope) (label : String) (instructionIndex : Nat)
    (below : List (String × Nat)) :
    ({ scope with stack := (label, instructionIndex) :: below }).exit label =
      .ok { scope with stack := below } := by
  simp [exit]

/-- Inside a top-level invocation the loop records the data of the program and nothing else. -/
theorem foldlM_print_inside (forest : Forest String String) (scope : LogScope) (program : String)
    (instructionIndex : Nat) (below : List (String × Nat))
    (inside : scope.stack = (program, instructionIndex) :: below) :
    (forest.print (scope.stack.length + 1)).foldlM
        (visitToken programId slot transactionIndex signature) scope =
      recordAll slot transactionIndex signature instructionIndex
        (programDataOf programId (program, forest)) scope := by
  induction forest generalizing scope program below with
  | empty => rfl
  | leaf log rest ih =>
      have skipped := ih scope program below inside
      simp only [Forest.print, List.foldlM_cons, visitToken]
      by_cases chosen : isProgramData log = true ∧ program = programId
      · obtain ⟨data, rfl⟩ := chosen
        have first : programDataOf program (program, .leaf log rest) =
            log :: programDataOf program (program, rest) := by
          simp [programDataOf, Forest.leavesOf, data]
        rw [first, recordAll_cons]
        simp only [data, inside, List.head?_cons, Bool.not_true, Bool.false_eq_true, if_false, ne_eq,
          not_true_eq_false]
        cases recorded : scope.record slot transactionIndex signature instructionIndex log with
        | error error => rfl
        | ok next =>
            have same := record_stack slot transactionIndex signature recorded
            rw [← inside, ← same]
            exact ih next program below (same.trans inside)
      · have none : programDataOf programId (program, .leaf log rest) =
            programDataOf programId (program, rest) := by
          by_cases same : program = programId
          · have other : isProgramData log = false := by simpa [same] using chosen
            simp [programDataOf, Forest.leavesOf, same, other]
          · simp [programDataOf, Forest.leavesOf, same]
        rw [none, ← skipped]
        by_cases data : isProgramData log = true
        · have other : program ≠ programId := fun same => chosen ⟨data, same⟩
          simp only [data, inside, other, List.head?_cons, Bool.not_true, Bool.false_eq_true,
            if_false, ne_eq, not_false_eq_true, if_true]
          rfl
        · simp only [data, Bool.not_false, if_true]
          rfl
  | call label inner rest ihInner ihRest =>
      have split : programDataOf programId (program, .call label inner rest) =
          programDataOf programId (label, inner) ++ programDataOf programId (program, rest) := by
        simp [programDataOf, Forest.leavesOf]
      have entered := ihInner { scope with stack := (label, instructionIndex) :: scope.stack } label
        scope.stack rfl
      rw [recordAll_push, List.length_cons] at entered
      rw [split, recordAll_append, Forest.print, List.foldlM_cons, visitToken,
        invoke_nested inside]
      change List.foldlM _ { scope with stack := _ } _ = _
      rw [List.foldlM_append, entered]
      cases recorded : recordAll slot transactionIndex signature instructionIndex
          (programDataOf programId (label, inner)) scope with
      | error error => rfl
      | ok next =>
          have same := recordAll_stack slot transactionIndex signature recorded
          change List.foldlM _ { next with stack := _ } _ = _
          rw [List.foldlM_cons, visitToken, exit_innermost, ← same]
          exact ihRest next program below (same.trans inside)

/-- The loop stands between two top-level invocations and no later index is in use. -/
structure Between (scope : LogScope) : Prop where
  stack : scope.stack = []
  next : scope.nextInstructionIndex < u16Size
  unused : ∀ index, scope.nextInstructionIndex ≤ index → scope.eventCount index = 0

theorem start_between : Between start where
  stack := rfl
  next := by decide
  unused := fun index _ => by simp [start, eventCount]

theorem invoke_top {scope : LogScope} (between : Between scope) (label : String) :
    scope.invoke label 1 =
      if scope.nextInstructionIndex + 1 < u16Size then
        .ok { scope with
          nextInstructionIndex := scope.nextInstructionIndex + 1
          stack := [(label, scope.nextInstructionIndex)] }
      else .error (.tooManyInstructions (u16Size - 1)) := by
  by_cases room : scope.nextInstructionIndex + 1 < u16Size
  · simp [invoke, between.stack, checkedAdd_of_lt room, room]
  · simp [invoke, between.stack, checkedAdd_of_not_lt room, room]

/-- The scope right after the entry of a top-level invocation. -/
def entered (scope : LogScope) (label : String) : LogScope :=
  { scope with
    nextInstructionIndex := scope.nextInstructionIndex + 1
    stack := [(label, scope.nextInstructionIndex)] }

/-- The tokens of a top-level call record its data and then exit. -/
theorem foldlM_call {scope : LogScope} (between : Between scope)
    (room : scope.nextInstructionIndex + 1 < u16Size) (call : String × Forest String String)
    (tail : List (Token String String)) :
    (.enter call.1 1 :: (call.2.print 2 ++ .exit call.1 :: tail)).foldlM
        (visitToken programId slot transactionIndex signature) scope =
      recordAll slot transactionIndex signature scope.nextInstructionIndex
          (programDataOf programId call) (scope.entered call.1) >>= fun left =>
        left.exit call.1 >>= fun next =>
          tail.foldlM (visitToken programId slot transactionIndex signature) next := by
  have inside := foldlM_print_inside programId slot transactionIndex signature call.2
    (scope.entered call.1) call.1 scope.nextInstructionIndex [] rfl
  change List.foldlM _ _ (call.2.print 2) = _ at inside
  rw [List.foldlM_cons, visitToken, invoke_top between, if_pos room]
  change List.foldlM _ (scope.entered call.1) _ = _
  rw [List.foldlM_append, inside]
  rfl

/-- A top-level call whose data fits is scoped under the next index. -/
theorem foldlM_call_ok {scope : LogScope} (between : Between scope)
    (room : scope.nextInstructionIndex + 1 < u16Size) {call : String × Forest String String}
    (fits : (programDataOf programId call).length < u16Size) :
    ∃ next, Between next ∧ next.nextInstructionIndex = scope.nextInstructionIndex + 1 ∧
      next.scopedData = scope.scopedData ++ callData programId slot transactionIndex signature
        scope.nextInstructionIndex call ∧
      ∀ tail, (.enter call.1 1 :: (call.2.print 2 ++ .exit call.1 :: tail)).foldlM
          (visitToken programId slot transactionIndex signature) scope =
        tail.foldlM (visitToken programId slot transactionIndex signature) next := by
  have zero : (scope.entered call.1).eventCount scope.nextInstructionIndex = 0 :=
    between.unused _ le_rfl
  obtain ⟨left, ok, recorded⟩ := @recordAll_ok slot transactionIndex signature
    scope.nextInstructionIndex (programDataOf programId call) (scope.entered call.1) (by omega)
  have innermost : left.stack = [(call.1, scope.nextInstructionIndex)] := recorded.stack
  have next : left.nextInstructionIndex = scope.nextInstructionIndex + 1 :=
    recorded.nextInstructionIndex
  have exited : left.exit call.1 = .ok { left with stack := [] } := by simp [exit, innermost]
  refine ⟨{ left with stack := [] }, ⟨rfl, ?_, ?_⟩, next, ?_, fun tail => ?_⟩
  · exact next.trans_lt room
  · intro index later
    have different : index ≠ scope.nextInstructionIndex := by
      change left.nextInstructionIndex ≤ index at later
      omega
    exact (recorded.others index different).trans (between.unused index (by
      change left.nextInstructionIndex ≤ index at later
      omega))
  · change left.scopedData = _
    rw [recorded.scopedData, zero]
    rfl
  · rw [foldlM_call programId slot transactionIndex signature between room, ok]
    change (left.exit call.1 >>= _) = _
    rw [exited]
    rfl

/-- A top-level call without room for its data fails. -/
theorem foldlM_call_full {scope : LogScope} (between : Between scope)
    (room : scope.nextInstructionIndex + 1 < u16Size) {call : String × Forest String String}
    (full : ¬ (programDataOf programId call).length < u16Size) (tail : List (Token String String)) :
    ∃ error, (.enter call.1 1 :: (call.2.print 2 ++ .exit call.1 :: tail)).foldlM
      (visitToken programId slot transactionIndex signature) scope = .error error := by
  have zero : (scope.entered call.1).eventCount scope.nextInstructionIndex = 0 :=
    between.unused _ le_rfl
  obtain ⟨error, failed⟩ := @recordAll_full slot transactionIndex signature
    scope.nextInstructionIndex (programDataOf programId call) (scope.entered call.1)
    (by rw [zero]; decide) (by omega)
  refine ⟨error, ?_⟩
  rw [foldlM_call programId slot transactionIndex signature between room, failed]
  rfl

/-- The limits that are left for the calls of a forest. -/
def Fits (first : Nat) (calls : List (String × Forest String String)) : Prop :=
  first + calls.length < u16Size ∧
    ∀ call ∈ calls, (programDataOf programId call).length < u16Size

theorem Fits.cons_iff {first : Nat} {call : String × Forest String String}
    {calls : List (String × Forest String String)} :
    Fits programId first (call :: calls) ↔ first + 1 < u16Size ∧
      (programDataOf programId call).length < u16Size ∧ Fits programId (first + 1) calls := by
  simp only [Fits, List.length_cons, List.forall_mem_cons]
  constructor
  · rintro ⟨instructions, own, others⟩
    exact ⟨by omega, own, by omega, others⟩
  · rintro ⟨-, own, instructions, others⟩
    exact ⟨by omega, own, others⟩

/-- The loop over a printed forest succeeds exactly when the forest fits, call by call. -/
theorem foldlM_print (forest : Forest String String) (scope : LogScope) (between : Between scope) :
    (∃ final, (forest.print 1).foldlM (visitToken programId slot transactionIndex signature) scope =
        .ok final ∧ Fits programId scope.nextInstructionIndex forest.calls ∧ final.stack = [] ∧
      final.scopedData = scope.scopedData ++ callsData programId slot transactionIndex signature
        scope.nextInstructionIndex forest.calls) ∨
    (∃ error, (forest.print 1).foldlM (visitToken programId slot transactionIndex signature) scope =
        .error error) ∧ ¬ Fits programId scope.nextInstructionIndex forest.calls := by
  induction forest generalizing scope with
  | empty =>
      refine .inl ⟨scope, rfl, ⟨between.next, ?_⟩, between.stack, ?_⟩
      · simp [Forest.calls]
      · simp [Forest.calls, callsData]
  | leaf log rest ih =>
      have skipped : visitToken programId slot transactionIndex signature scope (.leaf log) =
          .ok scope := by
        simp [visitToken, between.stack]
      rw [Forest.print, List.foldlM_cons, skipped]
      exact ih scope between
  | call label inner rest ihInner ihRest =>
      rw [Forest.calls, Fits.cons_iff]
      change (∃ final, List.foldlM _ _ (.enter label 1 :: (inner.print 2 ++ _)) = _ ∧ _) ∨
        (∃ error, List.foldlM _ _ (.enter label 1 :: (inner.print 2 ++ _)) = _) ∧ _
      by_cases room : scope.nextInstructionIndex + 1 < u16Size
      · by_cases own : (programDataOf programId (label, inner)).length < u16Size
        · obtain ⟨next, nextBetween, nextIndex, nextData, continues⟩ :=
            foldlM_call_ok programId slot transactionIndex signature between room own
          rw [continues]
          have later := ihRest next nextBetween
          rw [nextIndex, nextData] at later
          refine later.imp ?_ ?_
          · rintro ⟨final, ok, fits, closed, data⟩
            refine ⟨final, ok, ⟨room, own, fits⟩, closed, data.trans ?_⟩
            simp [callsData, List.zipIdx_cons]
          · rintro ⟨failed, full⟩
            exact ⟨failed, fun fits => full fits.2.2⟩
        · exact .inr ⟨foldlM_call_full programId slot transactionIndex signature between room own _,
            fun fits => own fits.2.1⟩
      · refine .inr ⟨⟨.tooManyInstructions (u16Size - 1), ?_⟩, fun fits => room fits.1⟩
        rw [List.foldlM_cons, visitToken, invoke_top between, if_neg room]
        rfl

end LogScope

/-- The scoped data of the forest in log order. -/
def forestData (forest : Forest String String) : List ScopedProgramData :=
  callsData programId slot transactionIndex signature 0 forest.calls

theorem zipIdx_increasing {Item : Type} (items : List Item) (first : Nat) :
    (items.zipIdx first).Pairwise fun left right => left.2 < right.2 := by
  have indexes : ((items.zipIdx first).map Prod.snd).Pairwise (· < ·) := by
    rw [List.zipIdx_map_snd]
    exact List.pairwise_lt_range'
  exact List.pairwise_map.mp indexes

/-- Coordinates are ordered by the instruction and then by the event. -/
def CoordinateBefore (left right : ScopedProgramData) : Prop :=
  left.coordinate.instructionIndex < right.coordinate.instructionIndex ∨
    left.coordinate.instructionIndex = right.coordinate.instructionIndex ∧
      left.coordinate.eventIndex < right.coordinate.eventIndex

theorem forestData_increasing (forest : Forest String String) :
    (forestData programId slot transactionIndex signature forest).Pairwise CoordinateBefore := by
  rw [forestData, callsData, List.pairwise_flatMap]
  constructor
  · intro entry _
    rw [callData, List.pairwise_map]
    refine (zipIdx_increasing _ 0).imp fun {left right} before => ?_
    exact .inr ⟨rfl, before⟩
  · refine (zipIdx_increasing forest.calls 0).imp fun {left right} before => ?_
    intro first firstMember second secondMember
    obtain ⟨_, -, rfl⟩ := List.mem_map.mp firstMember
    obtain ⟨_, -, rfl⟩ := List.mem_map.mp secondMember
    exact .inl before

theorem withinLimits_iff (forest : Forest String String) :
    WithinLimits programId forest ↔ LogScope.Fits programId 0 forest.calls := by
  have bound : ∀ count, count ≤ 65535 ↔ count < u16Size := fun count => Nat.lt_succ_iff.symm
  constructor
  · intro limits
    refine ⟨?_, fun call member => (bound _).mp (limits.events call member)⟩
    rw [Nat.zero_add]
    exact (bound _).mp limits.instructions
  · rintro ⟨instructions, events⟩
    rw [Nat.zero_add] at instructions
    exact ⟨(bound _).mpr instructions, fun call member => (bound _).mpr (events call member)⟩

/-- The scoping reads the tokens of untruncated logs and asks for a closed stack. -/
theorem scopeProgramDataLogs_eq_ok {signature : String} (present : Text.isBlank signature = false)
    (logs : List String) (result : List ScopedProgramData) :
    scopeProgramDataLogs programId slot transactionIndex signature logs = .ok result ↔
      (∀ log ∈ logs, isLogTruncationMarker log = false) ∧
        ∃ final : LogScope, (logs.map tokenOf).foldlM
            (LogScope.visitToken programId slot transactionIndex signature) .start = .ok final ∧
          final.stack = [] ∧ final.scopedData = result := by
  have lines := LogScope.foldlM_visit_eq_ok programId slot transactionIndex signature logs .start
  rw [scopeProgramDataLogs, present]
  constructor
  · intro ok
    cases folded : logs.foldlM (LogScope.visit programId slot transactionIndex signature) .start with
    | error error =>
        rw [folded] at ok
        cases ok
    | ok final =>
        rw [folded] at ok
        obtain ⟨untruncated, tokens⟩ := (lines final).mp folded
        refine ⟨untruncated, final, tokens, ?_⟩
        change (if !final.stack.isEmpty then _ else _) = _ at ok
        cases closed : final.stack with
        | nil =>
            rw [closed] at ok
            cases ok
            exact ⟨rfl, rfl⟩
        | cons active below =>
            rw [closed] at ok
            cases ok
  · rintro ⟨untruncated, final, tokens, closed, rfl⟩
    rw [(lines final).mpr ⟨untruncated, tokens⟩]
    change (if !final.stack.isEmpty then _ else _) = _
    rw [closed]
    rfl

/-- The scoped records of a log follow from its tokens. -/
theorem scopeProgramDataLogs_of_tokens {signature : String}
    (present : Text.isBlank signature = false) {logs : List String}
    {tokens : List (Token String String)} {result : List ScopedProgramData}
    (untruncated : ∀ log ∈ logs, isLogTruncationMarker log = false)
    (read : logs.map tokenOf = tokens)
    (visited : (tokens.foldlM (LogScope.visitToken programId slot transactionIndex signature)
      .start).map (fun scope => (scope.stack, scope.scopedData)) = .ok ([], result)) :
    scopeProgramDataLogs programId slot transactionIndex signature logs = .ok result := by
  cases folded : tokens.foldlM (LogScope.visitToken programId slot transactionIndex signature)
    .start with
  | error error =>
      rw [folded] at visited
      cases visited
  | ok scope =>
      rw [folded] at visited
      have ends := Except.ok.inj visited
      rw [Prod.mk.injEq] at ends
      refine (scopeProgramDataLogs_eq_ok programId slot transactionIndex present logs result).mpr
        ⟨untruncated, scope, ?_, ends.1, ends.2⟩
      rw [read]
      exact folded

/-- Scoped logs print a forest, and their records are the program data of each such forest. -/
theorem scopeProgramDataLogs_reads {signature : String} (present : Text.isBlank signature = false)
    {logs : List String} {result : List ScopedProgramData}
    (ok : scopeProgramDataLogs programId slot transactionIndex signature logs = .ok result) :
    (∃ forest : Forest String String, logs.map tokenOf = forest.print 1) ∧
      ∀ forest : Forest String String, logs.map tokenOf = forest.print 1 →
        result = forestData programId slot transactionIndex signature forest := by
  obtain ⟨-, final, folded, closed, data⟩ :=
    (scopeProgramDataLogs_eq_ok programId slot transactionIndex present logs result).mp ok
  constructor
  · have stack := LogScope.foldlM_visitToken_openLabels programId slot transactionIndex signature
      folded
    rw [LogScope.labels, LogScope.labels, closed] at stack
    exact (openLabels_eq_nil_iff _).mp stack
  · intro forest same
    rw [same] at folded
    rcases LogScope.foldlM_print programId slot transactionIndex signature forest .start
      LogScope.start_between with ⟨other, again, -, -, read⟩ | ⟨⟨error, failed⟩, -⟩
    · rw [folded] at again
      cases again
      rw [← data, read]
      rfl
    · rw [folded] at failed
      cases failed

theorem scopeProgramDataLogs_increasing {signature : String}
    (present : Text.isBlank signature = false) {logs : List String}
    {result : List ScopedProgramData}
    (ok : scopeProgramDataLogs programId slot transactionIndex signature logs = .ok result) :
    result.Pairwise CoordinateBefore := by
  obtain ⟨⟨forest, same⟩, reads⟩ :=
    scopeProgramDataLogs_reads programId slot transactionIndex present ok
  rw [reads forest same]
  exact forestData_increasing programId slot transactionIndex signature forest

/-- The logs are scoped exactly when they are not truncated, their invocations and exits print a
forest and both indexes suffice. The result is the program data that the forest holds directly under
the program, and its coordinates increase. -/
theorem scopeProgramDataLogs_forest {signature : String} (present : Text.isBlank signature = false)
    (logs : List String) :
    ((∃ result, scopeProgramDataLogs programId slot transactionIndex signature logs = .ok result) ↔
      (∀ log ∈ logs, isLogTruncationMarker log = false) ∧
      (∃ calls : Forest String String,
        (logs.map tokenOf).filter Token.isBracket = calls.print 1) ∧
      ∀ forest : Forest String String, logs.map tokenOf = forest.print 1 →
        WithinLimits programId forest) ∧
    ∀ result, scopeProgramDataLogs programId slot transactionIndex signature logs = .ok result →
      (∃ forest : Forest String String, logs.map tokenOf = forest.print 1) ∧
      (∀ forest : Forest String String, logs.map tokenOf = forest.print 1 →
        result = forestData programId slot transactionIndex signature forest) ∧
      result.Pairwise CoordinateBefore := by
  have scopes : ∀ forest : Forest String String, logs.map tokenOf = forest.print 1 → _ :=
    fun forest same => same ▸ LogScope.foldlM_print programId slot transactionIndex signature forest
      .start LogScope.start_between
  refine ⟨⟨?_, ?_⟩, ?_⟩
  · rintro ⟨result, ok⟩
    obtain ⟨printed, -⟩ := scopeProgramDataLogs_reads programId slot transactionIndex present ok
    obtain ⟨untruncated, final, folded, closed, -⟩ :=
      (scopeProgramDataLogs_eq_ok programId slot transactionIndex present logs result).mp ok
    refine ⟨untruncated, (exists_print_iff_filter _).mp printed, ?_⟩
    intro forest same
    rcases scopes forest same with ⟨_, -, fits, -⟩ | ⟨⟨error, failed⟩, -⟩
    · exact (withinLimits_iff programId forest).mpr fits
    · rw [folded] at failed
      cases failed
  · rintro ⟨untruncated, calls, limits⟩
    obtain ⟨forest, same⟩ := (exists_print_iff_filter _).mpr calls
    rcases scopes forest same with ⟨final, folded, -, closed, -⟩ | ⟨-, full⟩
    · exact ⟨final.scopedData,
        (scopeProgramDataLogs_eq_ok programId slot transactionIndex present logs _).mpr
          ⟨untruncated, final, folded, closed, rfl⟩⟩
    · exact absurd ((withinLimits_iff programId forest).mp (limits forest same)) full
  · intro result ok
    obtain ⟨printed, reads⟩ := scopeProgramDataLogs_reads programId slot transactionIndex present ok
    exact ⟨printed, reads, scopeProgramDataLogs_increasing programId slot transactionIndex present ok⟩

end Scope

/-- The logs of a program that another program invokes. -/
def nestedLogs : List String :=
  ["Program O invoke [1]", "Program P invoke [2]", "Program data: x", "Program P success",
    "Program O success"]

/-- The record of the nested program stands under the first top-level invocation. -/
theorem scopeProgramDataLogs_forest_nested :
    ∃ result, scopeProgramDataLogs "P" 42 none "s" nestedLogs = .ok result ∧
      result = forestData "P" 42 none "s"
        (.call "O" (.call "P" (.leaf "Program data: x" .empty) .empty) .empty) ∧
      result.Pairwise CoordinateBefore := by
  have ok : scopeProgramDataLogs "P" 42 none "s" nestedLogs =
      .ok [scopedAt 42 none "s" 0 0 "Program data: x"] := by decide +kernel
  obtain ⟨-, reads, increases⟩ := (scopeProgramDataLogs_forest "P" 42 none
    (by decide : Text.isBlank "s" = false) nestedLogs).2 _ ok
  exact ⟨_, ok, reads _ (by decide +kernel), increases⟩

/-- A line that starts like program data and reads as an invocation is not scoped. -/
theorem invocation_line_not_scoped : ¬ ∀ (programId line : String) (front back : List String)
    (result : List ScopedProgramData),
    scopeProgramDataLogs programId 42 none "s" (front ++ line :: back) = .ok result →
    isProgramData line = true →
    (∃ outer, openLabels [] (front.map tokenOf) = some (programId :: outer)) →
    line ∈ result.map ScopedProgramData.log := by
  intro scopes
  have member := scopes "P" "Program data: invoke [2]" ["Program P invoke [1]"]
    ["Program data: success", "Program P success"] [] (by decide +kernel) (by decide)
    ⟨[], by decide +kernel⟩
  exact absurd member (by decide)
end Soldisco.Intake

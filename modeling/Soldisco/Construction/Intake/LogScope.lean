import Soldisco.Construction.Domain
import Soldisco.Library.MachineInteger
import Soldisco.Library.Text

/-
This file embeds the scoping of program data to its invocation in the execution logs.
-/

namespace Soldisco.Intake
open Domain MachineInteger

/-- Program data attributed to one top-level instruction. -/
structure ScopedProgramData where
  coordinate : ChainCoordinate
  log : String
deriving DecidableEq, Repr

inductive LogScopeError where
  | emptySignature
  | truncatedLogs
  | invalidInvocationDepth (depth : Nat)
  | unexpectedProgramExit (programId : String)
  | unclosedInvocations (depth : Nat)
  | tooManyInstructions (limit : Nat)
  | tooManyEvents (limit : Nat)
deriving DecidableEq, Repr

def isLogTruncationMarker (log : String) : Bool :=
  log == "Log truncated" || Text.startsWith log "Log truncated: "

def isPlausibleProgramId (programId : String) : Bool :=
  !programId.isEmpty && !programId.toList.any Text.isAsciiWhitespace

def parseInvoke (log : String) : Option (String × Nat) := do
  let suffix ← Text.stripPrefix log "Program "
  let (programId, depth) ← Text.splitOnce suffix " invoke ["
  if !isPlausibleProgramId programId then none
  else
    let depth ← Text.parseUnsigned u64Size (← Text.stripSuffix depth "]")
    return (programId, depth)

/-- The flag tells a successful exit from a failed one. -/
def parseExit (log : String) : Option (String × Bool) := do
  let suffix ← Text.stripPrefix log "Program "
  let exit ← match Text.stripSuffix suffix " success" with
    | some programId => some (programId, true)
    | none => (Text.splitOnce suffix " failed:").map fun parts => (parts.1, false)
  if isPlausibleProgramId exit.1 then some exit else none

def isProgramData (log : String) : Bool := Text.startsWith log "Program data: "

/-- The loop keeps the open invocations with the innermost first. -/
structure LogScope where
  stack : List (String × Nat)
  nextInstructionIndex : Nat
  eventIndexes : Std.TreeMap Nat Nat
  scopedData : List ScopedProgramData

namespace LogScope

def start : LogScope where
  stack := []
  nextInstructionIndex := 0
  eventIndexes := ∅
  scopedData := []

/-- A top-level invocation takes the next index; nested invocations inherit it. -/
def invoke (scope : LogScope) (invokedProgram : String) (depth : Nat) :
    Except LogScopeError LogScope :=
  if depth = 0 || depth ≠ scope.stack.length + 1 then .error (.invalidInvocationDepth depth)
  else if depth = 1 then
    match checkedAdd u16Size scope.nextInstructionIndex 1 with
    | none => .error (.tooManyInstructions (u16Size - 1))
    | some next => .ok { scope with
        nextInstructionIndex := next
        stack := (invokedProgram, scope.nextInstructionIndex) :: scope.stack }
  else
    match scope.stack.head? with
    | none => .error (.invalidInvocationDepth depth)
    | some (_, instructionIndex) =>
        .ok { scope with stack := (invokedProgram, instructionIndex) :: scope.stack }

def exit (scope : LogScope) (exitedProgram : String) : Except LogScopeError LogScope :=
  if scope.stack.head?.all fun active => active.1 ≠ exitedProgram then
    .error (.unexpectedProgramExit exitedProgram)
  else .ok { scope with stack := scope.stack.tail }

/-- The event index counts the recorded data of one top-level instruction. -/
def record (scope : LogScope) (slot : Nat) (transactionIndex : Option Nat) (signature : String)
    (instructionIndex : Nat) (log : String) : Except LogScopeError LogScope :=
  let eventIndex := scope.eventIndexes[instructionIndex]?.getD 0
  match checkedAdd u16Size eventIndex 1 with
  | none => .error (.tooManyEvents (u16Size - 1))
  | some next => .ok { scope with
      eventIndexes := scope.eventIndexes.insert instructionIndex next
      scopedData := scope.scopedData ++ [{
        coordinate := { slot, transactionIndex, signature, instructionIndex, eventIndex }
        log }] }

/-- One pass of the loop over the logs. -/
def visit (programId : String) (slot : Nat) (transactionIndex : Option Nat) (signature : String)
    (scope : LogScope) (log : String) : Except LogScopeError LogScope :=
  if isLogTruncationMarker log then .error .truncatedLogs
  else
    match parseInvoke log with
    | some (invokedProgram, depth) => scope.invoke invokedProgram depth
    | none =>
        match parseExit log with
        | some (exitedProgram, _) => scope.exit exitedProgram
        | none =>
            if !isProgramData log then .ok scope
            else
              match scope.stack.head? with
              | none => .ok scope
              | some (activeProgram, instructionIndex) =>
                  if activeProgram ≠ programId then .ok scope
                  else scope.record slot transactionIndex signature instructionIndex log

end LogScope

def scopeProgramDataLogs (programId : String) (slot : Nat) (transactionIndex : Option Nat)
    (signature : String) (logs : List String) : Except LogScopeError (List ScopedProgramData) :=
  if Text.isBlank signature then .error .emptySignature
  else do
    let scope ← logs.foldlM (LogScope.visit programId slot transactionIndex signature) .start
    if !scope.stack.isEmpty then .error (.unclosedInvocations scope.stack.length)
    else return scope.scopedData

end Soldisco.Intake

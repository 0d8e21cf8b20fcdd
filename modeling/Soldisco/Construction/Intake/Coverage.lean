import Soldisco.Construction.Intake.Classification
import Soldisco.Construction.Intake.LogScope
import Soldisco.Construction.SourcePump.Decoder

/-
This file embeds the corroboration of direct events with silent self-invocations and the records that
the classification reads of the logs of one program.
-/

namespace Soldisco.Intake
open Domain MachineInteger SourcePump

/-- The direct records of one instruction. -/
structure DirectEventCoverage where
  eligibleEvents : Nat
  invalidEvent : Bool
deriving DecidableEq, Repr, Inhabited

/-- The self-invocations of one instruction. -/
structure SelfCpiCoverage where
  successfulEventCalls : Nat
  pendingDirectEvent : Bool
  pairingGap : Bool
deriving DecidableEq, Repr, Inhabited

structure InvocationFrame where
  programId : String
  instructionIndex : Nat
  isTargetSelfCpi : Bool
  silentCandidate : Bool
  candidateForPendingEvent : Bool
deriving DecidableEq, Repr

def isComputeConsumedLog (programId log : String) : Bool :=
  match (Text.stripPrefix log "Program ").bind fun suffix => Text.stripPrefix suffix programId with
  | none => false
  | some suffix =>
      Text.startsWith suffix " consumed " && (Text.stripSuffix suffix " compute units").isSome

namespace SelfCpiCoverage

/-- A direct event that is still pending when something else happens is a gap. -/
def dropPending (instruction : SelfCpiCoverage) : SelfCpiCoverage :=
  if instruction.pendingDirectEvent then
    { instruction with pairingGap := true, pendingDirectEvent := false }
  else instruction

def recordDirectEvent (instruction : SelfCpiCoverage) : SelfCpiCoverage :=
  { instruction with
    pairingGap := instruction.pairingGap || instruction.pendingDirectEvent
    pendingDirectEvent := true }

/-- The exit of the candidate of a pending event counts it or leaves a gap. -/
def exitCandidate (instruction : SelfCpiCoverage) (succeeded silent : Bool) :
    Except LogScopeError SelfCpiCoverage :=
  if succeeded && silent && instruction.pendingDirectEvent then
    match checkedAdd u16Size instruction.successfulEventCalls 1 with
    | none => .error (.tooManyEvents (u16Size - 1))
    | some calls =>
        .ok { instruction with successfulEventCalls := calls, pendingDirectEvent := false }
  else .ok { instruction with pairingGap := true, pendingDirectEvent := false }

/-- The exit of an invocation settles its part of the instruction. -/
def exitFrame (programId : String) (frame : InvocationFrame) (succeeded : Bool)
    (instruction : SelfCpiCoverage) : Except LogScopeError SelfCpiCoverage :=
  if frame.isTargetSelfCpi then
    if frame.candidateForPendingEvent then
      instruction.exitCandidate succeeded frame.silentCandidate
    else if succeeded && frame.silentCandidate then .ok { instruction with pairingGap := true }
    else .ok instruction
  else if frame.programId == programId then .ok instruction.dropPending
  else .ok instruction

end SelfCpiCoverage

namespace InvocationFrame

/-- The frame is the program and no self-invocation. -/
def isDirect (programId : String) (frame : InvocationFrame) : Bool :=
  frame.programId == programId && !frame.isTargetSelfCpi

/-- A self-invocation that does anything is not silent. -/
def breakSilence (frame : InvocationFrame) : InvocationFrame :=
  if frame.isTargetSelfCpi then { frame with silentCandidate := false } else frame

end InvocationFrame

/-- The loop keeps the open frames with the innermost first. -/
structure CoverageWalk where
  stack : List InvocationFrame
  nextInstructionIndex : Nat
  coverage : Std.TreeMap Nat SelfCpiCoverage

namespace CoverageWalk

def start : CoverageWalk where
  stack := []
  nextInstructionIndex := 0
  coverage := ∅

/-- The coverage of an instruction is created when it is first asked for. -/
def entry (walk : CoverageWalk) (instructionIndex : Nat) : SelfCpiCoverage :=
  walk.coverage[instructionIndex]?.getD default

def setEntry (walk : CoverageWalk) (instructionIndex : Nat) (instruction : SelfCpiCoverage) :
    CoverageWalk :=
  { walk with coverage := walk.coverage.insert instructionIndex instruction }

def breakSilence (walk : CoverageWalk) : CoverageWalk :=
  match walk.stack with
  | [] => walk
  | frame :: below => { walk with stack := frame.breakSilence :: below }

section Walk

variable (programId : String)

/-- The push of a frame under an instruction, after the parent has been told. -/
def push (walk : CoverageWalk) (invokedProgram : String) (instructionIndex : Nat) : CoverageWalk :=
  let isTarget := invokedProgram == programId &&
    walk.stack.any fun frame => frame.programId == programId
  let told := walk.breakSilence
  let direct := told.stack.head?.any fun parent => parent.isDirect programId
  let candidate := direct && isTarget &&
    (told.coverage[instructionIndex]?.any fun instruction => instruction.pendingDirectEvent)
  let settled :=
    if direct then
      let instruction := told.entry instructionIndex
      told.setEntry instructionIndex
        (if instruction.pendingDirectEvent && !candidate then instruction.dropPending
        else instruction)
    else told
  { settled with
    stack := {
      programId := invokedProgram
      instructionIndex
      isTargetSelfCpi := isTarget
      silentCandidate := isTarget
      candidateForPendingEvent := candidate } :: settled.stack }

def invoke (walk : CoverageWalk) (invokedProgram : String) (depth : Nat) :
    Except LogScopeError CoverageWalk :=
  if depth = 0 || depth ≠ walk.stack.length + 1 then .error (.invalidInvocationDepth depth)
  else if depth = 1 then
    match checkedAdd u16Size walk.nextInstructionIndex 1 with
    | none => .error (.tooManyInstructions (u16Size - 1))
    | some next =>
        .ok (({ walk with nextInstructionIndex := next }).push programId invokedProgram
          walk.nextInstructionIndex)
  else
    match walk.stack.head? with
    | none => .error (.invalidInvocationDepth depth)
    | some frame => .ok (walk.push programId invokedProgram frame.instructionIndex)

def exit (walk : CoverageWalk) (exitedProgram : String) (succeeded : Bool) :
    Except LogScopeError CoverageWalk :=
  match walk.stack with
  | [] => .error (.unexpectedProgramExit exitedProgram)
  | frame :: below =>
      if frame.programId ≠ exitedProgram then .error (.unexpectedProgramExit exitedProgram)
      else do
        let instruction ← (walk.entry frame.instructionIndex).exitFrame programId frame succeeded
        return { walk.setEntry frame.instructionIndex instruction with stack := below }

/-- A line that neither enters nor leaves an invocation. -/
def line (walk : CoverageWalk) (log : String) : CoverageWalk :=
  match walk.stack with
  | [] => walk
  | frame :: _ =>
      if isProgramData log then
        if frame.isTargetSelfCpi then walk.breakSilence
        else if frame.programId == programId then
          walk.setEntry frame.instructionIndex (walk.entry frame.instructionIndex).recordDirectEvent
        else walk
      else if frame.isTargetSelfCpi then
        if isComputeConsumedLog frame.programId log then walk else walk.breakSilence
      else if frame.programId == programId then
        let instruction := walk.entry frame.instructionIndex
        walk.setEntry frame.instructionIndex
          (if isComputeConsumedLog frame.programId log then instruction else instruction.dropPending)
      else walk

/-- One pass of the loop over the logs. -/
def visit (walk : CoverageWalk) (log : String) : Except LogScopeError CoverageWalk :=
  if isLogTruncationMarker log then .error .truncatedLogs
  else
    match parseInvoke log with
    | some (invokedProgram, depth) => walk.invoke programId invokedProgram depth
    | none =>
        match parseExit log with
        | some (exitedProgram, succeeded) => walk.exit programId exitedProgram succeeded
        | none => .ok (walk.line programId log)

end Walk
end CoverageWalk

def successfulSelfCpiCoverage (programId : String) (logs : List String) :
    Except LogScopeError (Std.TreeMap Nat SelfCpiCoverage) := do
  let walk ← logs.foldlM (CoverageWalk.visit programId) .start
  if !walk.stack.isEmpty then .error (.unclosedInvocations walk.stack.length)
  else return walk.coverage

def eventCpiCoverageIsIncomplete (selfCpi : Std.TreeMap Nat SelfCpiCoverage)
    (direct : Std.TreeMap Nat DirectEventCoverage) : Bool :=
  (selfCpi.toList.any fun entry =>
    let own := direct[entry.1]?.getD default
    entry.2.pairingGap || entry.2.pendingDirectEvent || own.invalidEvent ||
      entry.2.successfulEventCalls != own.eligibleEvents) ||
  direct.toList.any fun entry =>
    !selfCpi.contains entry.1 && (entry.2.invalidEvent || entry.2.eligibleEvents > 0)

def notificationMentionsProgram (programId : String) (logs : List String) : Bool :=
  logs.any fun log => (parseInvoke log).any fun invoked => invoked.1 == programId

/-- The values that the loop over the scoped records fills. -/
structure DirectRecords where
  coverage : Std.TreeMap Nat DirectEventCoverage
  decodedEvents : List DecodedPumpEvent
  hasDecodeGap : Bool

section Records

variable (decodeBase64 : String → Option (List UInt8))

/-- A record is decoded, known but not consumed, or invalid. -/
def recordDirect (programId : String) (direct : DirectRecords) (record : ScopedProgramData) :
    DirectRecords :=
  let index := record.coordinate.instructionIndex
  let coverage := direct.coverage[index]?.getD default
  let eligible := { coverage with eligibleEvents := coverage.eligibleEvents + 1 }
  match decodeProgramDataLog decodeBase64 programId record.coordinate record.log with
  | .ok decoded => { direct with
      coverage := direct.coverage.insert index eligible
      decodedEvents := direct.decodedEvents ++ [decoded] }
  | .error (.unknownDiscriminator program discriminator) =>
      if isPinnedEventDiscriminator program discriminator then
        { direct with coverage := direct.coverage.insert index eligible }
      else { direct with
        coverage := direct.coverage.insert index { coverage with invalidEvent := true }
        hasDecodeGap := true }
  | .error _ => { direct with
      coverage := direct.coverage.insert index { coverage with invalidEvent := true }
      hasDecodeGap := true }

def directRecords (programId : String) (records : List ScopedProgramData) : DirectRecords :=
  records.foldl (recordDirect decodeBase64 programId) ⟨∅, [], false⟩

end Records
end Soldisco.Intake

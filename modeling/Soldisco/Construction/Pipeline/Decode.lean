import Soldisco.Construction.Intake.Notification
import Soldisco.Construction.Pipeline.Batch

/-
This file embeds how the processor decodes the logs and the instructions of a batch.
-/

namespace Soldisco.Pipeline
open Domain MachineInteger Intake SourcePump

structure TransactionInstructionRecord where
  outerInstructionIndex : Nat
  innerInstructionIndex : Option Nat
  stackHeight : Option Nat
  programId : String
  data : List UInt8
deriving DecidableEq, Repr

def TransactionInstructionRecord.isInner (instruction : TransactionInstructionRecord) : Bool :=
  instruction.innerInstructionIndex.isSome

/-- The evidence that a batch carries. -/
structure BatchEvidence where
  slot : Nat
  transactionIndex : Option Nat
  signature : String
  instructions : List TransactionInstructionRecord
  logMessages : List String
deriving DecidableEq, Repr

/-- The evidence of a notification has no instructions and no position in its block. -/
def notificationEvidence (notification : LogNotification) : BatchEvidence where
  slot := notification.slot
  transactionIndex := none
  signature := notification.signature
  instructions := []
  logMessages := notification.logMessages

inductive PipelineError where
  | logScope (error : LogScopeError)
deriving DecidableEq, Repr

structure DecodedEvidence where
  decoded : DecodedPumpEvent
  rawEvidence : List UInt8
deriving DecidableEq, Repr

structure QuarantinedEvidence where
  coordinate : ChainCoordinate
  reasonCode : String
  reasonDetail : String
  rawEvidence : List UInt8
deriving DecidableEq, Repr

/-- The decoded events and the quarantined evidence of one program. -/
structure DecodedEvidenceBatch where
  events : List DecodedEvidence
  quarantines : List QuarantinedEvidence
deriving DecidableEq, Repr

section Display

def debugProgram : PumpProgram → String
  | .pump => "Pump"
  | .pumpSwap => "PumpSwap"

def debugBytes (bytes : List UInt8) : String :=
  "[" ++ ", ".intercalate (bytes.map fun byte => toString byte.toNat) ++ "]"

def displayDecodeError : DecodeError → String
  | .unsupportedProgram programId => "unsupported Pump source program: " ++ programId
  | .emptySignature => "transaction signature cannot be empty"
  | .missingDiscriminator => "event payload is shorter than the 8-byte Anchor discriminator"
  | .missingCpiDiscriminator => "inner instruction is not an Anchor event CPI"
  | .unknownDiscriminator program discriminator =>
      "unknown event discriminator " ++ debugBytes discriminator ++ " for " ++ debugProgram program
  | .truncated field needed remaining =>
      "event field `" ++ field ++ "` is truncated: needs " ++ toString needed ++ " bytes, has " ++
        toString remaining
  | .invalidUtf8 field => "event field `" ++ field ++ "` contains invalid UTF-8"
  | .invalidBoolean field value =>
      "event field `" ++ field ++ "` has invalid boolean byte " ++ toString value.toNat
  | .limitExceeded field limit actual =>
      "event field `" ++ field ++ "` length " ++ toString actual ++ " exceeds limit " ++
        toString limit
  | .trailingBytes remaining => "event has " ++ toString remaining ++ " unexpected trailing bytes"
  | .invalidProgramDataLog => "expected an Anchor `Program data:` log"
  | .invalidBase64 => "invalid base64 in `Program data:` log"

def displayLogScopeError : LogScopeError → String
  | .emptySignature => "transaction signature cannot be empty"
  | .truncatedLogs => "Solana explicitly reported truncated transaction logs"
  | .invalidInvocationDepth depth =>
      "program invocation depth " ++ toString depth ++ " is inconsistent with the log stack"
  | .unexpectedProgramExit programId =>
      "program " ++ programId ++ " exited without being the active invocation"
  | .unclosedInvocations depth =>
      "transaction logs ended with " ++ toString depth ++ " unclosed program invocations"
  | .tooManyInstructions limit =>
      "top-level transaction contains more than " ++ toString limit ++ " instructions"
  | .tooManyEvents limit =>
      "one transaction instruction contains more than " ++ toString limit ++ " program-data events"

end Display

def utf8Bytes (text : String) : List UInt8 := text.toUTF8.data.toList

/-- Evidence that is neither an event nor known as ignored is quarantined. -/
def quarantineOf (coordinate : ChainCoordinate) (rawEvidence : List UInt8) :
    DecodeError → Option QuarantinedEvidence
  | .unknownDiscriminator program discriminator =>
      if isPinnedEventDiscriminator program discriminator then none
      else some {
        coordinate
        reasonCode := "UNKNOWN_PUMP_EVENT_DISCRIMINATOR"
        reasonDetail := displayDecodeError (.unknownDiscriminator program discriminator)
        rawEvidence }
  | error => some {
      coordinate
      reasonCode := "MALFORMED_PUMP_EVENT"
      reasonDetail := displayDecodeError error
      rawEvidence }

/-- What a decoder returned is an event, a quarantine or neither. -/
def DecodedEvidenceBatch.add (batch : DecodedEvidenceBatch) (coordinate : ChainCoordinate)
    (rawEvidence : List UInt8) : Except DecodeError DecodedPumpEvent → DecodedEvidenceBatch
  | .ok decoded => { batch with events := batch.events ++ [{ decoded, rawEvidence }] }
  | .error error => { batch with
      quarantines := batch.quarantines ++ (quarantineOf coordinate rawEvidence error).toList }

/-- The loop over the instructions keeps the next index of each top-level instruction. -/
structure CpiDecoding where
  eventIndexes : Std.TreeMap Nat Nat
  found : DecodedEvidenceBatch

section Decode

variable (program : PumpProgram) (batch : BatchEvidence)

def isEventInstruction (instruction : TransactionInstructionRecord) : Bool :=
  instruction.isInner && instruction.programId == program.programId &&
    isAnchorEventCpi instruction.data

/-- One pass of the loop over the instructions. -/
def decodeInstruction (decoding : CpiDecoding) (instruction : TransactionInstructionRecord) :
    Except PipelineError CpiDecoding :=
  let eventIndex := decoding.eventIndexes[instruction.outerInstructionIndex]?.getD 0
  let coordinate : ChainCoordinate := {
    slot := batch.slot
    transactionIndex := batch.transactionIndex
    signature := batch.signature
    instructionIndex := instruction.outerInstructionIndex
    eventIndex }
  match checkedAdd u16Size eventIndex 1 with
  | none => .error (.logScope (.tooManyEvents (u16Size - 1)))
  | some next => .ok {
      eventIndexes := decoding.eventIndexes.insert instruction.outerInstructionIndex next
      found := decoding.found.add coordinate instruction.data
        (decodeCpiEvent program.programId coordinate instruction.data) }

def decodeInstructions : Except PipelineError CpiDecoding :=
  (batch.instructions.filter (isEventInstruction program)).foldlM (decodeInstruction program batch)
    { eventIndexes := ∅, found := { events := [], quarantines := [] } }

/-- The whole log is quarantined under the first coordinate. -/
def malformedLogScope (error : LogScopeError) : QuarantinedEvidence where
  coordinate := {
    slot := batch.slot
    transactionIndex := batch.transactionIndex
    signature := batch.signature
    instructionIndex := 0
    eventIndex := 0 }
  reasonCode := "MALFORMED_LOG_SCOPE"
  reasonDetail := displayLogScopeError error
  rawEvidence := utf8Bytes ("\n".intercalate batch.logMessages)

/-- One pass of the loop over the scoped logs. -/
def decodeRecord (decodeBase64 : String → Option (List UInt8)) (decoded : DecodedEvidenceBatch)
    (record : ScopedProgramData) : DecodedEvidenceBatch :=
  match decodeProgramDataBytes decodeBase64 record.log with
  | .error error => { decoded with
      quarantines := decoded.quarantines ++ [{
        coordinate := record.coordinate
        reasonCode := "MALFORMED_PROGRAM_DATA"
        reasonDetail := displayDecodeError error
        rawEvidence := utf8Bytes record.log }] }
  | .ok rawEvidence => decoded.add record.coordinate rawEvidence
      (decodeAnchorEvent program.programId record.coordinate rawEvidence)

end Decode

section Corroborate

def cpiEventWithoutCanonicalLog : String := "CPI_EVENT_WITHOUT_CANONICAL_LOG"

/-- The loop over the events of self-invocations keeps which direct events are taken. -/
structure CpiMatching where
  matchedDirectEvents : List Bool
  quarantines : List QuarantinedEvidence
deriving DecidableEq, Repr

def isMatchFor (cpi direct : DecodedEvidence) (taken : Bool) : Bool :=
  !taken && direct.decoded.coordinate.instructionIndex == cpi.decoded.coordinate.instructionIndex &&
    direct.decoded.event == cpi.decoded.event

def unmatchedQuarantine (cpi : DecodedEvidence) : QuarantinedEvidence where
  coordinate := cpi.decoded.coordinate
  reasonCode := cpiEventWithoutCanonicalLog
  reasonDetail := "decoded Anchor event CPI had no matching direct program-data event"
  rawEvidence := cpi.rawEvidence

/-- The first direct event that is not taken and equals the event is taken. -/
def matchCpiEvent (decoded : List DecodedEvidence) (matching : CpiMatching) (cpi : DecodedEvidence) :
    CpiMatching :=
  match (decoded.zip matching.matchedDirectEvents).findIdx? fun entry =>
    isMatchFor cpi entry.1 entry.2 with
  | some index => { matching with matchedDirectEvents := matching.matchedDirectEvents.set index true }
  | none => { matching with quarantines := matching.quarantines ++ [unmatchedQuarantine cpi] }

end Corroborate

section Batch

variable (decodeBase64 : String → Option (List UInt8))

/-- Self-invocations only corroborate the events of the logs. -/
def decodeBatchEvents (batch : BatchEvidence) (program : PumpProgram) :
    Except PipelineError DecodedEvidenceBatch := do
  let cpi ← decodeInstructions program batch
  match scopeProgramDataLogs program.programId batch.slot batch.transactionIndex batch.signature
    batch.logMessages with
  | .error error => return {
      events := []
      quarantines := cpi.found.quarantines ++ [malformedLogScope batch error] }
  | .ok scopedLogs =>
      let direct := scopedLogs.foldl (decodeRecord program decodeBase64)
        { events := [], quarantines := cpi.found.quarantines }
      let matching := cpi.found.events.foldl (matchCpiEvent direct.events)
        { matchedDirectEvents := List.replicate direct.events.length false
          quarantines := direct.quarantines }
      return { events := direct.events, quarantines := matching.quarantines }

/-- A decoded event with what orders it. -/
def decodedEvent (decoded : DecodedPumpEvent) : DecodedEvent where
  program := decoded.program.sourceProgram
  instructionIndex := decoded.coordinate.instructionIndex
  eventIndex := decoded.coordinate.eventIndex
  event := intakeEvent decoded.event

/-- The decoded form of the evidence of both programs, which the processing starts from. -/
def BatchEvidence.decode (batch : BatchEvidence) : Option DecodedBatch :=
  match decodeBatchEvents decodeBase64 batch .pump, decodeBatchEvents decodeBase64 batch .pumpSwap with
  | .ok pump, .ok pumpSwap => some {
      events := (pump.events ++ pumpSwap.events).map fun evidence => decodedEvent evidence.decoded
      quarantined := !(pump.quarantines ++ pumpSwap.quarantines).isEmpty }
  | _, _ => none

end Batch
end Soldisco.Pipeline

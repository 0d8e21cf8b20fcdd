import Soldisco.Construction.Intake.Classification
import Soldisco.Construction.Intake.Coverage

/-
This file embeds how a notification is read: the records of each program are made from its logs.
-/

namespace Soldisco.Intake
open Domain Window

/-- The part of a decoded event that the intake reads. -/
def intakeEvent : SourcePump.PumpEvent → PumpEvent
  | .create event => .create event.mint event.timestamp.toInt
  | .trade event => .trade event.mint
  | .complete event => .complete event.mint
  | .completePumpAmmMigration event => .completePumpAmmMigration event.mint
  | .pumpSwapCreatePool event =>
      .pumpSwapCreatePool event.pool event.baseMint event.quoteMint event.timestamp.toInt
  | .pumpSwapBuy event => .pumpSwapBuy event.pool
  | .pumpSwapSell event => .pumpSwapSell event.pool
  | .pumpSwapDeposit event => .pumpSwapDeposit event.pool
  | .pumpSwapWithdraw event => .pumpSwapWithdraw event.pool

/-- A notification as the subscription delivers it. -/
structure LogNotification where
  slot : Nat
  signature : String
  logMessages : List String
  transactionError : Option String
deriving DecidableEq, Repr

def LogNotification.succeeded (notification : LogNotification) : Bool :=
  notification.transactionError.isNone

/-- What the loop over the programs makes of one program before it reads the events. -/
structure ProgramInspection where
  malformed : Bool
  coverageGap : Option WindowIncompleteReason
  decodedEvents : List SourcePump.DecodedPumpEvent
deriving DecidableEq, Repr

namespace ProgramInspection

/-- The program is not mentioned or nothing is read. -/
def skipped : ProgramInspection := ⟨false, none, []⟩

/-- The logs cannot be walked. -/
def unreadable : ProgramInspection := ⟨true, some .decodeGap, []⟩

def records (inspection : ProgramInspection) : ProgramRecords where
  malformed := inspection.malformed
  coverageGap := inspection.coverageGap
  events := inspection.decodedEvents.map fun decoded => intakeEvent decoded.event

end ProgramInspection

section Inspect

variable (decodeBase64 : String → Option (List UInt8))

/-- A record that does not decode is a gap before missing corroboration is one. -/
def inspectRecords (programId : String) (selfCpiCoverage : Std.TreeMap Nat SelfCpiCoverage)
    (scopedData : List ScopedProgramData) : ProgramInspection :=
  let direct := directRecords decodeBase64 programId scopedData
  { malformed := direct.hasDecodeGap
    coverageGap :=
      if direct.hasDecodeGap then some .decodeGap
      else if eventCpiCoverageIsIncomplete selfCpiCoverage direct.coverage then
        some .cpiInstructionDataUnavailable
      else none
    decodedEvents := direct.decodedEvents }

/-- One pass of the loop over the programs up to the decoded events. -/
def inspectProgram (program : SourcePump.PumpProgram) (notification : LogNotification) :
    ProgramInspection :=
  if !notificationMentionsProgram program.programId notification.logMessages then .skipped
  else
    match successfulSelfCpiCoverage program.programId notification.logMessages with
    | .error _ => .unreadable
    | .ok selfCpiCoverage =>
        match scopeProgramDataLogs program.programId notification.slot none notification.signature
          notification.logMessages with
        | .error _ => .unreadable
        | .ok scopedData => inspectRecords decodeBase64 program.programId selfCpiCoverage scopedData

/-- The notification with the records of both programs. -/
def LogNotification.inspected (notification : LogNotification) : ProgramLogNotification where
  signature := notification.signature
  slot := notification.slot
  succeeded := notification.succeeded
  pump := (inspectProgram decodeBase64 .pump notification).records
  pumpSwap := (inspectProgram decodeBase64 .pumpSwap notification).records

/-- The gaps that the classification records in the registry, in the order of the programs. -/
def coverageGaps (notification : LogNotification) :
    List (SourcePump.PumpProgram × WindowIncompleteReason) :=
  if !notification.succeeded then []
  else [SourcePump.PumpProgram.pump, .pumpSwap].filterMap fun program =>
    (inspectProgram decodeBase64 program notification).coverageGap.map fun reason => (program, reason)

end Inspect
end Soldisco.Intake

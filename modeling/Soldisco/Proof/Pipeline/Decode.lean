import Soldisco.Construction.Pipeline.Decode
import Soldisco.Proof.Intake.Agreement
import Soldisco.Proof.Intake.Completeness

/-
This file proves that the intake and the processor agree on what decodes.
-/

namespace Soldisco.Pipeline
open Accumulation Domain MachineInteger Intake SourcePump

section Records

variable (decodeBase64 : String → Option (List UInt8)) (program : PumpProgram)

theorem decodeProgramDataLog_of_bytes {programId : String} {coordinate : ChainCoordinate}
    {log : String} {rawEvidence : List UInt8}
    (bytes : decodeProgramDataBytes decodeBase64 log = .ok rawEvidence) :
    decodeProgramDataLog decodeBase64 programId coordinate log =
      decodeAnchorEvent programId coordinate rawEvidence := by
  rw [decodeProgramDataLog, bytes]
  rfl

theorem decodeProgramDataBytes_error {log : String} {error : DecodeError}
    (fails : decodeProgramDataBytes decodeBase64 log = .error error) :
    error = .invalidProgramDataLog ∨ error = .invalidBase64 := by
  unfold decodeProgramDataBytes at fails
  split at fails
  · exact .inl (Except.error.inj fails).symm
  · split at fails
    · exact .inr (Except.error.inj fails).symm
    · cases fails

/-- The records that the intake and the processor have read agree so far. -/
structure Agrees (direct : DirectRecords) (decoded : DecodedEvidenceBatch) : Prop where
  events : direct.decodedEvents = decoded.events.map DecodedEvidence.decoded
  gap : direct.hasDecodeGap = !decoded.quarantines.isEmpty

theorem Agrees.record {direct : DirectRecords} {decoded : DecodedEvidenceBatch}
    (agrees : Agrees direct decoded) (record : ScopedProgramData) :
    Agrees (recordDirect decodeBase64 program.programId direct record)
      (decodeRecord program decodeBase64 decoded record) := by
  unfold decodeRecord
  cases bytes : decodeProgramDataBytes decodeBase64 record.log with
  | error error =>
      have fails : decodeProgramDataLog decodeBase64 program.programId record.coordinate record.log =
          .error error := by
        rw [decodeProgramDataLog, bytes]
        rfl
      rcases decodeProgramDataBytes_error decodeBase64 bytes with rfl | rfl
      · exact ⟨by simp [recordDirect, fails, agrees.events], by simp [recordDirect, fails]⟩
      · exact ⟨by simp [recordDirect, fails, agrees.events], by simp [recordDirect, fails]⟩
  | ok rawEvidence =>
      have same : decodeProgramDataLog decodeBase64 program.programId record.coordinate record.log =
          decodeAnchorEvent program.programId record.coordinate rawEvidence :=
        decodeProgramDataLog_of_bytes decodeBase64 bytes
      cases reads : decodeAnchorEvent program.programId record.coordinate rawEvidence with
      | ok event =>
          rw [reads] at same
          constructor
          · simp [recordDirect, same, DecodedEvidenceBatch.add, reads, agrees.events]
          · simp [recordDirect, same, DecodedEvidenceBatch.add, reads, agrees.gap]
      | error error =>
          rw [reads] at same
          cases error with
          | unknownDiscriminator known discriminator =>
              by_cases pinned : isPinnedEventDiscriminator known discriminator = true
              · constructor
                · simp [recordDirect, same, DecodedEvidenceBatch.add, reads, pinned, agrees.events]
                · simp [recordDirect, same, DecodedEvidenceBatch.add, reads, quarantineOf, pinned,
                    agrees.gap]
              · constructor
                · simp [recordDirect, same, DecodedEvidenceBatch.add, reads, pinned, agrees.events]
                · simp [recordDirect, same, DecodedEvidenceBatch.add, reads, quarantineOf, pinned]
          | _ =>
              constructor
              · simp [recordDirect, same, DecodedEvidenceBatch.add, reads, agrees.events]
              · simp [recordDirect, same, DecodedEvidenceBatch.add, reads, quarantineOf]

theorem Agrees.records {direct : DirectRecords} {decoded : DecodedEvidenceBatch}
    (agrees : Agrees direct decoded) (records : List ScopedProgramData) :
    Agrees (records.foldl (recordDirect decodeBase64 program.programId) direct)
      (records.foldl (decodeRecord program decodeBase64) decoded) := by
  induction records generalizing direct decoded with
  | nil => exact agrees
  | cons record rest ih => exact ih (agrees.record decodeBase64 program record)

/-- Evidence without instructions decodes to the events of its log. -/
theorem decodeBatchEvents_of_records (batch : BatchEvidence)
    {records : List ScopedProgramData} (silent : batch.instructions = [])
    (read : scopeProgramDataLogs program.programId batch.slot batch.transactionIndex batch.signature
      batch.logMessages = .ok records) :
    decodeBatchEvents decodeBase64 batch program =
      .ok (records.foldl (decodeRecord program decodeBase64) ⟨[], []⟩) := by
  rw [decodeBatchEvents, decodeInstructions, silent, read]
  rfl

end Records

section Notification

variable (decodeBase64 : String → Option (List UInt8)) (program : PumpProgram)

/-- Without instructions the processor reads the logs alone. -/
theorem decodeBatchEvents_notificationEvidence (notification : LogNotification) :
    decodeBatchEvents decodeBase64 (notificationEvidence notification) program =
      match scopeProgramDataLogs program.programId notification.slot none notification.signature
        notification.logMessages with
      | .error error => .ok ⟨[], [malformedLogScope (notificationEvidence notification) error]⟩
      | .ok records => .ok (records.foldl (decodeRecord program decodeBase64) ⟨[], []⟩) := by
  change (match scopeProgramDataLogs program.programId notification.slot none
    notification.signature notification.logMessages with | .error _ => _ | .ok _ => _) = _
  cases scopeProgramDataLogs program.programId notification.slot none notification.signature
      notification.logMessages with
  | error error => rfl
  | ok records => rfl

/-- The walk that comes first fails only where the scoping fails as well. -/
theorem inspectProgram_mentioned {notification : LogNotification}
    (mentioned : notificationMentionsProgram program.programId notification.logMessages = true) :
    (∃ error, scopeProgramDataLogs program.programId notification.slot none notification.signature
        notification.logMessages = .error error ∧
      inspectProgram decodeBase64 program notification = .unreadable) ∨
    ∃ records coverage, scopeProgramDataLogs program.programId notification.slot none
        notification.signature notification.logMessages = .ok records ∧
      inspectProgram decodeBase64 program notification =
        inspectRecords decodeBase64 program.programId coverage records := by
  unfold inspectProgram
  rw [mentioned]
  simp only [Bool.not_true, Bool.false_eq_true, if_false]
  cases scopes : scopeProgramDataLogs program.programId notification.slot none
      notification.signature notification.logMessages with
  | error error =>
      refine .inl ⟨error, rfl, ?_⟩
      cases successfulSelfCpiCoverage program.programId notification.logMessages with
      | error _ => rfl
      | ok _ => rfl
  | ok records =>
      obtain ⟨coverage, covered⟩ := successfulSelfCpiCoverage_of_scoped scopes
      rw [covered]
      exact .inr ⟨records, coverage, rfl, rfl⟩

theorem inspectRecords_decodeGap (programId : String)
    (coverage : Std.TreeMap Nat SelfCpiCoverage) (records : List ScopedProgramData) :
    (inspectRecords decodeBase64 programId coverage records).coverageGap = some .decodeGap ↔
      (directRecords decodeBase64 programId records).hasDecodeGap = true := by
  unfold inspectRecords
  dsimp only
  split_ifs with gap incomplete
  · simp [gap]
  · simp [gap]
  · simp [gap]

/-- A gap of one program is recorded exactly when its inspection finds it. -/
theorem mem_coverageGaps {notification : LogNotification} (succeeded : notification.succeeded = true)
    (reason : Window.WindowIncompleteReason) :
    (program, reason) ∈ coverageGaps decodeBase64 notification ↔
      (inspectProgram decodeBase64 program notification).coverageGap = some reason := by
  unfold coverageGaps
  rw [succeeded]
  cases program with
  | pump => simp
  | pumpSwap => simp

/-- The intake records an undecodable program exactly when the processor quarantines evidence of it,
and otherwise both read the same events. -/
theorem inspectProgram_agrees_decodeBatchEvents (notification : LogNotification)
    (succeeded : notification.succeeded = true)
    (mentioned : notificationMentionsProgram program.programId notification.logMessages = true) :
    ((program, .decodeGap) ∈ coverageGaps decodeBase64 notification ↔
      ∃ decoded, decodeBatchEvents decodeBase64 (notificationEvidence notification) program =
        .ok decoded ∧ decoded.quarantines ≠ []) ∧
    ((program, .decodeGap) ∉ coverageGaps decodeBase64 notification →
      ∃ decoded, decodeBatchEvents decodeBase64 (notificationEvidence notification) program =
        .ok decoded ∧ decoded.quarantines = [] ∧
        (inspectProgram decodeBase64 program notification).decodedEvents =
          decoded.events.map DecodedEvidence.decoded) := by
  rw [mem_coverageGaps decodeBase64 program succeeded,
    decodeBatchEvents_notificationEvidence decodeBase64 program]
  rcases inspectProgram_mentioned decodeBase64 program mentioned with
    ⟨error, scopes, unreadable⟩ | ⟨records, coverage, scopes, read⟩
  · rw [scopes, unreadable]
    refine ⟨⟨fun _ => ⟨_, rfl, by simp⟩, fun _ => rfl⟩, ?_⟩
    intro readable
    exact absurd rfl readable
  · rw [scopes, read, inspectRecords_decodeGap]
    have unread : Agrees ⟨∅, [], false⟩ ⟨[], []⟩ := ⟨rfl, rfl⟩
    have agrees : Agrees (directRecords decodeBase64 program.programId records)
        (records.foldl (decodeRecord program decodeBase64) ⟨[], []⟩) :=
      Agrees.records decodeBase64 program unread records
    rw [agrees.gap]
    constructor
    · constructor
      · intro found
        exact ⟨_, rfl, by simpa using found⟩
      · rintro ⟨decoded, same, found⟩
        rw [Except.ok.inj same]
        simpa using found
    · intro complete
      exact ⟨_, rfl, by simpa using complete, agrees.events⟩

/-- A log that does not close its invocation. -/
def unclosedNotification : LogNotification where
  slot := 42
  signature := "s"
  logMessages := ["Program 6EF8rrecthR5Dkzon8Nwu78hRvfCKubJ14M5uBEwF6P invoke [1]"]
  transactionError := none

/-- The unclosed log is quarantined because the intake records it. -/
theorem decodeBatchEvents_unclosedNotification :
    ∃ decoded, decodeBatchEvents pinnedPayload (notificationEvidence unclosedNotification) .pump =
      .ok decoded ∧ decoded.quarantines ≠ [] := by
  have mentioned : notificationMentionsProgram PumpProgram.pump.programId
      unclosedNotification.logMessages = true := by decide +kernel
  have gap : (PumpProgram.pump, Window.WindowIncompleteReason.decodeGap) ∈
      coverageGaps pinnedPayload unclosedNotification := by decide +kernel
  exact (inspectProgram_agrees_decodeBatchEvents pinnedPayload .pump unclosedNotification rfl
    mentioned).1.mp gap

end Notification
end Soldisco.Pipeline

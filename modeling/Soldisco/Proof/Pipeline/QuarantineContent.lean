import Soldisco.Library.Base64
import Soldisco.Proof.Intake.ScopeErrors
import Soldisco.Proof.Pipeline.Quarantine
import Soldisco.Proof.SourcePump.Limits

/-
This file proves which contents of a batch the quarantine accepts.
-/

namespace Soldisco.Pipeline
open Accumulation Domain MachineInteger SourcePump
open Intake hiding PumpEvent
open Persistence (require_eq_ok requireNonEmpty_eq_ok)
open Text (IsShort)

section Display

theorem isShort_u64 {number : Nat} (fits : number < u64Size) : IsShort 20 (toString number) :=
  .number (by decide) (lt_trans fits (by decide))

theorem isShort_u8 (byte : UInt8) : IsShort 3 (toString byte.toNat) :=
  .number (by decide) (lt_trans byte.toNat_lt (by decide))

theorem isShort_debugBytes {bytes : List UInt8} (eight : bytes.length = 8) :
    IsShort 42 (debugBytes bytes) := by
  have short : ∀ text ∈ bytes.map fun byte => toString byte.toNat, IsShort 3 text := by
    intro text member
    obtain ⟨byte, -, rfl⟩ := List.mem_map.mp member
    exact isShort_u8 byte
  have inner : IsShort _ (", ".intercalate (bytes.map fun byte => toString byte.toNat)) :=
    .intercalate (by decide) short
  rw [List.length_map, eight] at inner
  exact (((IsShort.self (by decide)).append inner).append (.self (by decide))).mono (by decide)

/-- A brief error is reported in a text that the store accepts. -/
theorem displayDecodeError_isShort {error : DecodeError} (brief : error.IsBrief) :
    IsShort maxReasonDetailBytes (displayDecodeError error) := by
  cases error with
  | unsupportedProgram programId =>
      have front : IsShort 33 "unsupported Pump source program: " := by decide
      exact (front.append brief).mono (by decide)
  | emptySignature => decide
  | missingDiscriminator => decide
  | missingCpiDiscriminator => decide
  | unknownDiscriminator program discriminator =>
      have name : IsShort 8 (debugProgram program) := by
        cases program <;> decide
      have front : IsShort 28 "unknown event discriminator " := by decide
      have between : IsShort 5 " for " := by decide
      exact (((front.append (isShort_debugBytes brief)).append between).append name).mono
        (by decide)
  | truncated field needed remaining =>
      obtain ⟨name, neededFits, remainingFits⟩ := brief
      have front : IsShort 13 "event field `" := by decide
      have needs : IsShort 22 "` is truncated: needs " := by decide
      have has : IsShort 12 " bytes, has " := by decide
      exact (((((front.append name).append needs).append (isShort_u64 neededFits)).append
        has).append (isShort_u64 remainingFits)).mono (by decide)
  | invalidUtf8 field =>
      have front : IsShort 13 "event field `" := by decide
      have back : IsShort 24 "` contains invalid UTF-8" := by decide
      exact ((front.append brief).append back).mono (by decide)
  | invalidBoolean field value =>
      have front : IsShort 13 "event field `" := by decide
      have back : IsShort 27 "` has invalid boolean byte " := by decide
      exact (((front.append brief).append back).append (isShort_u8 value)).mono (by decide)
  | limitExceeded field limit actual =>
      obtain ⟨name, limitFits, actualFits⟩ := brief
      have front : IsShort 13 "event field `" := by decide
      have length : IsShort 9 "` length " := by decide
      have exceeds : IsShort 15 " exceeds limit " := by decide
      exact (((((front.append name).append length).append (isShort_u64 actualFits)).append
        exceeds).append (isShort_u64 limitFits)).mono (by decide)
  | trailingBytes remaining =>
      have front : IsShort 10 "event has " := by decide
      have back : IsShort 26 " unexpected trailing bytes" := by decide
      exact ((front.append (isShort_u64 brief)).append back).mono (by decide)
  | invalidProgramDataLog => decide
  | invalidBase64 => decide

/-- The longest program whose unexpected exit is reported in a text that the store accepts. -/
def maxExitedProgramBytes : Nat := 1997

/-- The text of an unexpected exit is accepted up to a size of the program and without a null
character in it. -/
theorem displayUnexpectedExit_isShort (exitedProgram : String) :
    IsShort maxReasonDetailBytes (displayLogScopeError (.unexpectedProgramExit exitedProgram)) ↔
      IsShort maxExitedProgramBytes exitedProgram := by
  have front : IsShort 8 "program " := by decide
  have back : IsShort 43 " exited without being the active invocation" := by decide
  constructor
  · intro ⟨size, nullFree⟩
    have frontSize : "program ".utf8ByteSize = 8 := by decide
    have backSize : " exited without being the active invocation".utf8ByteSize = 43 := by decide
    unfold displayLogScopeError maxReasonDetailBytes at size
    unfold displayLogScopeError at nullFree
    rw [String.utf8ByteSize_append, String.utf8ByteSize_append, frontSize, backSize] at size
    rw [Text.isNullFree_append, Text.isNullFree_append, Bool.and_eq_true, Bool.and_eq_true]
      at nullFree
    exact ⟨by unfold maxExitedProgramBytes; omega, nullFree.1.2⟩
  · intro short
    exact ((front.append short).append back).mono (by decide)

/-- Every other error of the scoping is reported in a text that the store accepts. -/
theorem displayLogScopeError_isShort {error : LogScopeError} (bounded : error.IsBounded)
    (short : ∀ exitedProgram, error = .unexpectedProgramExit exitedProgram →
      IsShort maxExitedProgramBytes exitedProgram) :
    IsShort maxReasonDetailBytes (displayLogScopeError error) := by
  have numbered : ∀ {front back : String} {number : Nat}, IsShort 1000 front →
      IsShort 1000 back → number < u64Size →
        IsShort maxReasonDetailBytes (front ++ toString number ++ back) := by
    intro front back number frontShort backShort fits
    exact ((frontShort.append (isShort_u64 fits)).append backShort).mono (by decide)
  cases error with
  | emptySignature => decide
  | truncatedLogs => decide
  | invalidInvocationDepth depth => exact numbered (by decide) (by decide) bounded
  | unexpectedProgramExit exitedProgram =>
      exact (displayUnexpectedExit_isShort exitedProgram).mpr (short exitedProgram rfl)
  | unclosedInvocations depth => exact numbered (by decide) (by decide) bounded
  | tooManyInstructions limit => exact numbered (by decide) (by decide) bounded
  | tooManyEvents limit => exact numbered (by decide) (by decide) bounded

end Display

section Encoding

/-- What standard base64 with padding promises in both directions. -/
structure EvidenceEncoding.IsStandardBase64 (encoding : EvidenceEncoding) : Prop where
  decodes : ∀ bytes, encoding.decodeBase64 (encoding.encodeBase64 bytes) = some bytes
  size : ∀ bytes, (encoding.encodeBase64 bytes).utf8ByteSize = (bytes.length + 2) / 3 * 4
  letters : ∀ bytes, ∀ letter ∈ (encoding.encodeBase64 bytes).toList,
    letter ∈ Base64.alphabet ∨ letter = Base64.padding
  shorter : ∀ text bytes, encoding.decodeBase64 text = some bytes →
    bytes.length ≤ text.utf8ByteSize

theorem letter_visible {letter : Char} (member : letter ∈ Base64.alphabet ∨ letter = Base64.padding) :
    Text.isWhitespace letter = false ∧ letter ≠ '\x00' := by
  have all : ((Base64.padding :: Base64.alphabet).all fun letter =>
      !Text.isWhitespace letter && letter != '\x00') = true := by decide
  simpa using List.all_eq_true.mp all letter (List.mem_cons.mpr member.symm)

/-- The column of the evidence takes every encoding. -/
theorem EvidenceEncoding.IsStandardBase64.column {encoding : EvidenceEncoding}
    (standard : encoding.IsStandardBase64) (bytes : List UInt8) :
    Text.isNullFree (encoding.encodeBase64 bytes) = true ∧
      isEvidenceColumn (encoding.encodeBase64 bytes) = true := by
  refine ⟨List.all_eq_true.mpr fun letter member => ?_, ?_⟩
  · exact decide_eq_true (letter_visible (standard.letters bytes letter member)).2
  · unfold isEvidenceColumn
    rw [Bool.and_eq_true, standard.size, Nat.mul_mod_left]
    refine ⟨List.all_eq_true.mpr fun letter member => ?_, rfl⟩
    simpa using standard.letters bytes letter member

/-- The encoding of bytes within the limit of the store is accepted. -/
theorem EvidenceEncoding.IsStandardBase64.accepted {config : ProcessingConfig}
    (standard : config.encoding.IsStandardBase64) {bytes : List UInt8} (present : bytes ≠ [])
    (few : bytes.length ≤ maxQuarantineRawBytes) :
    Text.isBlank (config.encoding.encodeBase64 bytes) = false ∧
      (config.encoding.encodeBase64 bytes).utf8ByteSize ≤
        Persistence.maxQuarantineEvidenceBase64Bytes ∧
      config.isBase64 (config.encoding.encodeBase64 bytes) = true := by
  have size := standard.size bytes
  have positive : 0 < bytes.length := List.length_pos_iff.mpr present
  refine ⟨?_, ?_, ?_⟩
  · rw [Bool.eq_false_iff, ne_eq, Text.isBlank_iff]
    intro blank
    cases letters : (config.encoding.encodeBase64 bytes).toList with
    | nil =>
        have none : (config.encoding.encodeBase64 bytes).utf8ByteSize = 0 := by
          rw [String.toList_eq_nil_iff.mp letters]
          rfl
        omega
    | cons letter rest =>
        have member : letter ∈ (config.encoding.encodeBase64 bytes).toList := by
          rw [letters]
          exact List.mem_cons_self
        have white := blank letter member
        rw [(letter_visible (standard.letters bytes letter member)).1] at white
        cases white
  · rw [size]
    unfold maxQuarantineRawBytes Persistence.maxQuarantineEvidenceBase64Bytes at *
    omega
  · unfold ProcessingConfig.isBase64
    rw [standard.decodes]
    rfl

theorem validateEvidenceBase64_encoded {config : ProcessingConfig}
    (standard : config.encoding.IsStandardBase64) {bytes : List UInt8} (present : bytes ≠ [])
    (few : bytes.length ≤ maxQuarantineRawBytes) (field : String) :
    Persistence.validateEvidenceBase64 config.isBase64 (config.encoding.encodeBase64 bytes) field =
      .ok () := by
  obtain ⟨visible, short, decodes⟩ := standard.accepted present few
  unfold Persistence.validateEvidenceBase64
  simp only [bind_eq_ok, requireNonEmpty_eq_ok, require_eq_ok, exists_const]
  exact ⟨visible, short, decodes⟩

/-- The evidence of a record is never empty and cut to the limit of the store. -/
theorem encodeQuarantineEvidence_eq (encoding : EvidenceEncoding) (rawEvidence : List UInt8) :
    ∃ bytes, bytes ≠ [] ∧ bytes.length ≤ maxQuarantineRawBytes ∧
      encodeQuarantineEvidence encoding rawEvidence = encoding.encodeBase64 bytes := by
  unfold encodeQuarantineEvidence
  split
  · refine ⟨utf8Bytes "<empty-evidence>", ?_, ?_, rfl⟩
    · decide
    · decide
  · rename_i present
    refine ⟨rawEvidence.take maxQuarantineRawBytes, ?_, List.length_take_le _ _, rfl⟩
    intro none
    rw [List.take_eq_nil_iff] at none
    rcases none with zero | empty
    · cases zero
    · rw [empty] at present
      exact present rfl

/-- A record of the pipeline is accepted exactly when its detail is within the limit. -/
theorem validateRecord_iff {config : ProcessingConfig}
    (standard : config.encoding.IsStandardBase64) {rejected : RejectedEvidence}
    (signed : Text.isBlank rejected.evidence.coordinate.signature = false)
    (coded : Text.isBlank rejected.evidence.reasonCode = false ∧
      rejected.evidence.reasonCode.utf8ByteSize ≤ maxReasonCodeBytes) :
    validateRecord config.isBase64 (rejected.record config) = .ok () ↔
      rejected.evidence.reasonDetail.utf8ByteSize ≤ maxReasonDetailBytes := by
  obtain ⟨bytes, present, few, encoded⟩ :=
    encodeQuarantineEvidence_eq config.encoding rejected.evidence.rawEvidence
  obtain ⟨visible, short, decodes⟩ := standard.accepted present few
  have version : Text.isBlank decoderVersion = false ∧
      decoderVersion.utf8ByteSize ≤ maxDecoderVersionBytes := by decide
  unfold validateRecord RejectedEvidence.record validateLength Persistence.validateEvidenceBase64
  simp only [bind_eq_ok, requireNonEmpty_eq_ok, require_eq_ok, exists_const, encoded]
  constructor
  · intro ⟨_, _, _, _, _, _, detail, _⟩
    exact detail
  · intro detail
    exact ⟨signed, version.1, coded.1, visible, version.2, coded.2, detail, short, visible, short,
      decodes⟩

/-- The columns take a record of the pipeline exactly when its detail has no null character. -/
theorem bindContent_iff {config : ProcessingConfig} (standard : config.encoding.IsStandardBase64)
    {rejected : RejectedEvidence} (coded : Text.isNullFree rejected.evidence.reasonCode = true) :
    (rejected.record config).bindContent = .ok () ↔
      Text.isNullFree rejected.evidence.reasonDetail = true := by
  obtain ⟨bytes, -, -, encoded⟩ :=
    encodeQuarantineEvidence_eq config.encoding rejected.evidence.rawEvidence
  obtain ⟨nullFree, column⟩ := standard.column bytes
  have version : Text.isNullFree decoderVersion = true := by decide
  unfold IntakeQuarantineRecord.bindContent RejectedEvidence.record bindText
  simp only [bind_eq_ok, require_eq_ok, exists_const, encoded]
  constructor
  · intro ⟨_, _, detail, _⟩
    exact detail
  · intro detail
    exact ⟨version, coded, detail, nullFree, column⟩

end Encoding

section Content

/-- The reasons for which the decoding of a batch rejects evidence. -/
def decodeReasonCodes : List String :=
  ["UNKNOWN_PUMP_EVENT_DISCRIMINATOR", "MALFORMED_PUMP_EVENT", "MALFORMED_PROGRAM_DATA",
    "MALFORMED_LOG_SCOPE", cpiEventWithoutCanonicalLog]

/-- The evidence belongs to the transaction of the batch and has a reason of the decoding. -/
structure BatchEvidence.Rejects (batch : BatchEvidence) (evidence : QuarantinedEvidence) :
    Prop where
  slot : evidence.coordinate.slot = batch.slot
  transactionIndex : evidence.coordinate.transactionIndex = batch.transactionIndex
  signature : evidence.coordinate.signature = batch.signature
  reasonCode : evidence.reasonCode ∈ decodeReasonCodes

/-- The sizes of the batch are numbers of the machine. -/
structure BatchEvidence.FitsMemory (batch : BatchEvidence) : Prop where
  instructions : ∀ instruction ∈ batch.instructions, instruction.data.length < u64Size
  logs : ∀ log ∈ batch.logMessages, log.utf8ByteSize < u64Size
  logCount : batch.logMessages.length < u64Size

theorem rejectionOf_fits {coordinate : ChainCoordinate} {rawEvidence : List UInt8}
    {result : Except DecodeError DecodedPumpEvent} {evidence : QuarantinedEvidence}
    (brief : ∀ error, result = .error error → error.IsBrief)
    (rejected : rejectionOf coordinate rawEvidence result = some evidence) :
    evidence.reasonCode ∈ decodeReasonCodes ∧
      IsShort maxReasonDetailBytes evidence.reasonDetail := by
  cases result with
  | ok decoded => cases rejected
  | error error =>
      have short := displayDecodeError_isShort (brief error rfl)
      change quarantineOf coordinate rawEvidence error = some evidence at rejected
      unfold quarantineOf at rejected
      split at rejected
      · split_ifs at rejected
        cases rejected
        exact ⟨by simp [decodeReasonCodes], short⟩
      · cases rejected
        exact ⟨by simp [decodeReasonCodes], short⟩

/-- A self-invocation has the transaction of the batch and the data of an instruction. -/
theorem mem_numberInstructions {batch : BatchEvidence}
    {instructions seen : List TransactionInstructionRecord} {invocation : SelfInvocation}
    (member : invocation ∈ numberInstructions batch seen instructions) :
    (∃ instruction ∈ instructions, instruction.data = invocation.data) ∧
      ∃ instructionIndex eventIndex, invocation.coordinate = {
        slot := batch.slot
        transactionIndex := batch.transactionIndex
        signature := batch.signature
        instructionIndex
        eventIndex } := by
  induction instructions generalizing seen with
  | nil => cases member
  | cons instruction rest ih =>
      rcases List.mem_cons.mp member with rfl | later
      · exact ⟨⟨instruction, List.mem_cons_self, rfl⟩, _, _, rfl⟩
      · obtain ⟨⟨other, inside, same⟩, coordinate⟩ := ih later
        exact ⟨⟨other, List.mem_cons_of_mem _ inside, same⟩, coordinate⟩

variable {program : PumpProgram} {batch : BatchEvidence}

theorem selfInvocation_fits (fits : batch.FitsMemory) {invocation : SelfInvocation}
    (member : invocation ∈ selfInvocations program batch) {evidence : QuarantinedEvidence}
    (rejected : invocation.rejection program = some evidence) :
    batch.Rejects evidence ∧ IsShort maxReasonDetailBytes evidence.reasonDetail := by
  obtain ⟨⟨instruction, inside, data⟩, instructionIndex, eventIndex, coordinate⟩ :=
    mem_numberInstructions member
  have small : invocation.data.length < u64Size := by
    rw [← data]
    exact fits.instructions instruction (List.mem_filter.mp inside).1
  obtain ⟨code, detail⟩ := rejectionOf_fits
    (fun error failed => decodeCpiEvent_isBrief small failed) rejected
  have same := (rejectionOf_coordinate rejected).trans coordinate
  exact ⟨⟨by rw [same], by rw [same], by rw [same], code⟩, detail⟩

variable {decodeBase64 : String → Option (List UInt8)}

theorem decodeProgramDataBytes_isBrief {log : String} {error : DecodeError}
    (failed : decodeProgramDataBytes decodeBase64 log = .error error) : error.IsBrief := by
  unfold decodeProgramDataBytes at failed
  split at failed
  · cases failed
    trivial
  · split at failed
    · cases failed
      trivial
    · cases failed

/-- The bytes of a record are fewer than those of its line. -/
theorem length_decodeProgramDataBytes
    (shorter : ∀ text bytes, decodeBase64 text = some bytes → bytes.length ≤ text.utf8ByteSize)
    {log : String} {bytes : List UInt8}
    (decodes : decodeProgramDataBytes decodeBase64 log = .ok bytes) :
    bytes.length ≤ log.utf8ByteSize := by
  unfold decodeProgramDataBytes at decodes
  split at decodes
  · cases decodes
  rename_i encoded stripped
  split at decodes
  · cases decodes
  rename_i read decoded
  cases decodes
  have within := shorter encoded bytes decoded
  have whole := Text.eq_append_of_stripPrefix stripped
  rw [whole, String.utf8ByteSize_append]
  omega

theorem record_fits
    (shorter : ∀ text bytes, decodeBase64 text = some bytes → bytes.length ≤ text.utf8ByteSize)
    (fits : batch.FitsMemory) {records : List ScopedProgramData}
    (scopes : batch.scopedLogs program = .ok records) {record : ScopedProgramData}
    (member : record ∈ records) {evidence : QuarantinedEvidence}
    (rejected : recordRejection program decodeBase64 record = some evidence) :
    batch.Rejects evidence ∧ IsShort maxReasonDetailBytes evidence.reasonDetail := by
  obtain ⟨line, instructionIndex, eventIndex, placed⟩ := scopeProgramDataLogs_lines scopes member
  have coordinate := recordRejection_coordinate program decodeBase64 rejected
  have same : evidence.coordinate = (scopedAt batch.slot batch.transactionIndex batch.signature
      instructionIndex eventIndex record.log).coordinate := by
    rw [coordinate, ← placed]
  have reported : evidence.reasonCode ∈ decodeReasonCodes ∧
      IsShort maxReasonDetailBytes evidence.reasonDetail := by
    unfold recordRejection at rejected
    split at rejected
    · rename_i error failed
      cases rejected
      exact ⟨by simp [decodeReasonCodes],
        displayDecodeError_isShort (decodeProgramDataBytes_isBrief failed)⟩
    · rename_i rawEvidence decodes
      have small := lt_of_le_of_lt (length_decodeProgramDataBytes shorter decodes)
        (fits.logs record.log line)
      exact rejectionOf_fits (fun error failed => decodeAnchorEvent_isBrief small failed) rejected
  exact ⟨⟨by rw [same]; rfl, by rw [same]; rfl, by rw [same]; rfl, reported.1⟩, reported.2⟩

/-- Every rejected piece of a batch has a short detail, except for logs that cannot be scoped. -/
theorem quarantines_fit
    (shorter : ∀ text bytes, decodeBase64 text = some bytes → bytes.length ≤ text.utf8ByteSize)
    (fits : batch.FitsMemory) {decoded : DecodedEvidenceBatch}
    (decodes : decodeBatchEvents decodeBase64 batch program = .ok decoded)
    {evidence : QuarantinedEvidence} (member : evidence ∈ decoded.quarantines) :
    batch.Rejects evidence ∧ (IsShort maxReasonDetailBytes evidence.reasonDetail ∨
      ∃ error, batch.scopedLogs program = .error error ∧
        evidence = malformedLogScope batch error) := by
  cases scopes : batch.scopedLogs program with
  | error error =>
      rw [decodeBatchEvents_unscoped_eq scopes decodes, List.mem_append,
        List.mem_singleton] at member
      rcases member with sent | rfl
      · obtain ⟨invocation, inside, rejected⟩ := List.mem_filterMap.mp sent
        obtain ⟨attributed, short⟩ := selfInvocation_fits fits inside rejected
        exact ⟨attributed, .inl short⟩
      · exact ⟨⟨rfl, rfl, rfl, by simp [malformedLogScope, decodeReasonCodes]⟩,
          .inr ⟨error, rfl, rfl⟩⟩
  | ok records =>
      rw [decodeBatchEvents_scoped scopes decodes, List.mem_append, List.mem_append] at member
      rcases member with (sent | logged) | surplus
      · obtain ⟨invocation, inside, rejected⟩ := List.mem_filterMap.mp sent
        obtain ⟨attributed, short⟩ := selfInvocation_fits fits inside rejected
        exact ⟨attributed, .inl short⟩
      · obtain ⟨record, inside, rejected⟩ := List.mem_filterMap.mp logged
        obtain ⟨attributed, short⟩ := record_fits shorter fits scopes inside rejected
        exact ⟨attributed, .inl short⟩
      · obtain ⟨cpi, repeated, rfl⟩ := List.mem_map.mp surplus
        obtain ⟨front, invocation, back, split, sent, -⟩ := mem_surplusInvocations.mp repeated
        have inside : invocation ∈ selfInvocations program batch := by
          rw [split]
          exact List.mem_append_right _ List.mem_cons_self
        obtain ⟨-, instructionIndex, eventIndex, coordinate⟩ := mem_numberInstructions inside
        have same : (unmatchedQuarantine cpi).coordinate = _ :=
          (SelfInvocation.evidence_coordinate program sent).trans coordinate
        have short : IsShort maxReasonDetailBytes (unmatchedQuarantine cpi).reasonDetail := by
          unfold unmatchedQuarantine
          dsimp only
          decide
        refine ⟨⟨by rw [same], by rw [same], by rw [same], ?_⟩, .inl short⟩
        simp [unmatchedQuarantine, decodeReasonCodes]

/-- The evidence of an event is within the limit of the store. -/
theorem events_fit {decoded : DecodedEvidenceBatch}
    (decodes : decodeBatchEvents decodeBase64 batch program = .ok decoded)
    {event : DecodedEvidence} (member : event ∈ decoded.events) :
    event.rawEvidence ≠ [] ∧ event.rawEvidence.length ≤ maxQuarantineRawBytes := by
  cases scopes : batch.scopedLogs program with
  | error error =>
      rw [decodeBatchEvents_unscoped_eq scopes decodes] at member
      cases member
  | ok records =>
      rw [decodeBatchEvents_scoped scopes decodes] at member
      obtain ⟨record, -, found⟩ := List.mem_filterMap.mp member
      have read := (recordEvidence_decodes program decodeBase64 found).2
      obtain ⟨long, short⟩ := length_of_decodeAnchorEvent read
      have room : 16 + maxBodyBytes ≤ maxQuarantineRawBytes := by decide
      exact ⟨List.ne_nil_of_length_pos (by omega), by omega⟩

/-- Some log is the exit of a program that is not the active invocation, and the text of the
program is longer than the store has room for or has a null character. -/
def ReportsUnstorableExit (program : PumpProgram) (batch : BatchEvidence) : Prop :=
  ∃ front log back scope exitedProgram, batch.logMessages = front ++ log :: back ∧
    front.foldlM (LogScope.visit program.programId batch.slot batch.transactionIndex
      batch.signature) .start = .ok scope ∧
    scope.IsUnexpectedExit log exitedProgram ∧ ¬ IsShort maxExitedProgramBytes exitedProgram

theorem reportsUnstorableExit_iff (signed : Text.isBlank batch.signature = false) :
    ReportsUnstorableExit program batch ↔ ∃ exitedProgram,
      batch.scopedLogs program = .error (.unexpectedProgramExit exitedProgram) ∧
        ¬ IsShort maxExitedProgramBytes exitedProgram := by
  unfold ReportsUnstorableExit BatchEvidence.scopedLogs
  simp only [scopeProgramDataLogs_unexpectedExit signed]
  constructor
  · intro ⟨front, log, back, scope, exitedProgram, whole, reached, exits, unstorable⟩
    exact ⟨exitedProgram, ⟨front, log, back, scope, whole, reached, exits⟩, unstorable⟩
  · intro ⟨exitedProgram, ⟨front, log, back, scope, whole, reached, exits⟩, unstorable⟩
    exact ⟨front, log, back, scope, exitedProgram, whole, reached, exits, unstorable⟩

end Content

section Recording

variable {config : ProcessingConfig} {program : PumpProgram} {batch : BatchEvidence}

theorem decodeReasonCodes_accepted {reasonCode : String} (member : reasonCode ∈ decodeReasonCodes) :
    Text.isBlank reasonCode = false ∧ IsShort maxReasonCodeBytes reasonCode := by
  have all : ∀ reasonCode ∈ decodeReasonCodes, Text.isBlank reasonCode = false ∧
      IsShort maxReasonCodeBytes reasonCode := by decide
  exact all reasonCode member

/-- The database takes records under the key: it is bound to the network of the pipeline, the
signature has no null character and the row of the key, if any, can count another occurrence. -/
structure ProcessorState.TakesKey (config : ProcessingConfig) (program : PumpProgram)
    (state : ProcessorState) (coordinate : ChainCoordinate) : Prop where
  network : state.database.enforceBoundNetwork config.network = .ok ()
  signature : bindText coordinate.signature = .ok ()
  occurrences : ∀ row ∈ state.quarantine.lookup (quarantineKey {
    network := config.network, program := program.sourceProgram, coordinate }),
      (row.occurrences : Int) < i64Max

/-- An accepted record of the batch is written where its key is taken. -/
theorem recordPipelineQuarantine_ok {evidence : QuarantinedEvidence}
    (attributed : batch.Rejects evidence) (slotFits : (batch.slot : Int) ≤ i64Max)
    (indexFits : ∀ index ∈ batch.transactionIndex, (index : Int) ≤ i64Max)
    (valid : validateRecord config.isBase64
      (RejectedEvidence.record config { program, evidence }) = .ok ())
    (content : (RejectedEvidence.record config { program, evidence }).bindContent = .ok ())
    {state : ProcessorState} (takes : state.TakesKey config program evidence.coordinate) :
    ∃ next, recordPipelineQuarantine config program.sourceProgram state evidence = .ok next := by
  have slot : Persistence.toI64 evidence.coordinate.slot "quarantine slot" =
      .ok (evidence.coordinate.slot : Int) := by
    rw [attributed.slot]
    exact if_pos slotFits
  have index : Persistence.toI64 (evidence.coordinate.transactionIndex.getD 0)
      "quarantine transaction_index" =
        .ok ((evidence.coordinate.transactionIndex.getD 0 : Nat) : Int) := by
    rw [attributed.transactionIndex]
    refine if_pos ?_
    cases known : batch.transactionIndex with
    | none => decide
    | some index => exact indexFits index known
  have counted : ((RejectedEvidence.row config { program, evidence } (state.quarantine.lookup
      (RejectedEvidence.key config { program, evidence }))).occurrences : Int) ≤ i64Max := by
    have room := takes.occurrences
    change ∀ row ∈ state.quarantine.lookup (RejectedEvidence.key config { program, evidence }), _
      at room
    cases stored : state.quarantine.lookup (RejectedEvidence.key config { program, evidence }) with
    | none =>
        change (1 : Int) ≤ i64Max
        decide
    | some row =>
        have less := room row stored
        change ((row.occurrences + 1 : Nat) : Int) ≤ i64Max
        omega
  refine ⟨_, bind_eq_ok.mpr ⟨_, mapError_eq_ok.mpr (bind_eq_ok.mpr ⟨(), valid, bind_eq_ok.mpr
    ⟨_, slot, bind_eq_ok.mpr ⟨_, index, bind_eq_ok.mpr ⟨(), takes.signature, bind_eq_ok.mpr
      ⟨(), content, bind_eq_ok.mpr ⟨(), takes.network, bind_eq_ok.mpr
        ⟨(), require_eq_ok.mpr ?_, rfl⟩⟩⟩⟩⟩⟩⟩), rfl⟩⟩
  exact counted

/-- Everything that the decoding of a batch returns can be stored. -/
structure IsStorable (config : ProcessingConfig) (program : PumpProgram)
    (decoded : DecodedEvidenceBatch) : Prop where
  quarantines : ∀ evidence ∈ decoded.quarantines,
    validateRecord config.isBase64 (RejectedEvidence.record config { program, evidence }) = .ok ()
  columns : ∀ evidence ∈ decoded.quarantines,
    (RejectedEvidence.record config { program, evidence }).bindContent = .ok ()
  written : ∀ evidence ∈ decoded.quarantines, ∀ state : ProcessorState,
    state.TakesKey config program evidence.coordinate →
      ∃ next, recordPipelineQuarantine config program.sourceProgram state evidence = .ok next
  events : ∀ event ∈ decoded.events,
    Persistence.validateEvidenceBase64 config.isBase64
      (config.encoding.encodeBase64 event.rawEvidence) "source_evidence_base64" = .ok ()

/-- The text of an unexpected exit that can be stored is short. -/
theorem IsStorable.exit_isShort {decoded : DecodedEvidenceBatch}
    (storable : IsStorable config program decoded) (standard : config.encoding.IsStandardBase64)
    (signed : Text.isBlank batch.signature = false) {exitedProgram : String}
    (fails : batch.scopedLogs program = .error (.unexpectedProgramExit exitedProgram))
    (decodes : decodeBatchEvents config.encoding.decodeBase64 batch program = .ok decoded) :
    IsShort maxExitedProgramBytes exitedProgram := by
  have member : malformedLogScope batch (.unexpectedProgramExit exitedProgram) ∈
      decoded.quarantines := by
    rw [decodeBatchEvents_unscoped_eq fails decodes]
    exact List.mem_append_right _ List.mem_cons_self
  have coded : "MALFORMED_LOG_SCOPE" ∈ decodeReasonCodes := by simp [decodeReasonCodes]
  obtain ⟨visible, brief⟩ := decodeReasonCodes_accepted coded
  have accepted := @validateRecord_iff config standard
    { program, evidence := malformedLogScope batch (.unexpectedProgramExit exitedProgram) }
    signed ⟨visible, brief.size⟩
  have taken := @bindContent_iff config standard
    { program, evidence := malformedLogScope batch (.unexpectedProgramExit exitedProgram) }
    brief.nullFree
  exact (displayUnexpectedExit_isShort exitedProgram).mp
    ⟨accepted.mp (storable.quarantines _ member), taken.mp (storable.columns _ member)⟩

/-- What the decoding of a batch returns can be stored exactly when no log is the unexpected exit of
a program with an overlong text or a null character. -/
theorem quarantines_storable_iff (config : ProcessingConfig)
    (standard : config.encoding.IsStandardBase64) (batch : BatchEvidence) (fits : batch.FitsMemory)
    (signed : Text.isBlank batch.signature = false) (slotFits : (batch.slot : Int) ≤ i64Max)
    (indexFits : ∀ index ∈ batch.transactionIndex, (index : Int) ≤ i64Max)
    (program : PumpProgram) (decoded : DecodedEvidenceBatch)
    (decodes : decodeBatchEvents config.encoding.decodeBase64 batch program = .ok decoded) :
    IsStorable config program decoded ↔ ¬ ReportsUnstorableExit program batch := by
  have rejects : ∀ evidence ∈ decoded.quarantines, batch.Rejects evidence := fun evidence member =>
    (quarantines_fit standard.shorter fits decodes member).1
  have accepted : ∀ evidence ∈ decoded.quarantines, (validateRecord config.isBase64
      (RejectedEvidence.record config { program, evidence }) = .ok () ↔
        evidence.reasonDetail.utf8ByteSize ≤ maxReasonDetailBytes) := by
    intro evidence member
    obtain ⟨visible, short⟩ := decodeReasonCodes_accepted (rejects evidence member).reasonCode
    refine validateRecord_iff standard ?_ ⟨visible, short.size⟩
    exact (congrArg Text.isBlank (rejects evidence member).signature).trans signed
  have taken : ∀ evidence ∈ decoded.quarantines,
      ((RejectedEvidence.record config { program, evidence }).bindContent = .ok () ↔
        Text.isNullFree evidence.reasonDetail = true) := by
    intro evidence member
    have coded := (decodeReasonCodes_accepted (rejects evidence member).reasonCode).2
    exact bindContent_iff standard coded.nullFree
  rw [reportsUnstorableExit_iff signed]
  constructor
  · intro storable ⟨exitedProgram, fails, unstorable⟩
    exact unstorable (storable.exit_isShort standard signed fails decodes)
  · intro storable
    have short : ∀ evidence ∈ decoded.quarantines,
        IsShort maxReasonDetailBytes evidence.reasonDetail := by
      intro evidence member
      rcases (quarantines_fit standard.shorter fits decodes member).2 with detail | unscoped
      · exact detail
      · obtain ⟨error, fails, rfl⟩ := unscoped
        refine displayLogScopeError_isShort
          (scopeProgramDataLogs_isBounded fits.logCount fails) ?_
        intro exitedProgram same
        subst same
        by_contra unstorable
        exact storable ⟨exitedProgram, fails, unstorable⟩
    have valid := fun evidence member => (accepted evidence member).mpr (short evidence member).size
    have content := fun evidence member => (taken evidence member).mpr (short evidence member).nullFree
    refine ⟨valid, content, ?_, ?_⟩
    · intro evidence member state takes
      exact recordPipelineQuarantine_ok (rejects evidence member) slotFits indexFits
        (valid evidence member) (content evidence member) takes
    · intro event member
      obtain ⟨present, few⟩ := events_fit decodes member
      exact validateEvidenceBase64_encoded standard present few _

end Recording

/-- The encodings of the pipeline with base64 in full. -/
def standardEncoding : EvidenceEncoding := { emptyEncoding with
  decodeBase64 := Base64.decodeText
  encodeBase64 := Base64.encodeText }

theorem standardEncoding_isStandardBase64 : standardEncoding.IsStandardBase64 where
  decodes := Base64.decodeText_encodeText
  size := by
    intro bytes
    change (String.ofList (Base64.encode bytes)).utf8ByteSize = _
    have single : ∀ letter ∈ (String.ofList (Base64.encode bytes)).toList,
        letter.utf8Size = 1 := by
      rw [String.toList_ofList]
      intro letter member
      rcases Base64.mem_encode member with rfl | ⟨value, small, rfl⟩
      · rfl
      · exact (Base64.character_digit value small).2.2
    rw [Text.utf8ByteSize_of_ascii single, String.toList_ofList, Base64.length_encode]
  letters := by
    intro bytes letter member
    change letter ∈ (String.ofList (Base64.encode bytes)).toList at member
    rw [String.toList_ofList] at member
    have all : ∀ value < 64, Base64.character value ∈ Base64.alphabet := by decide
    rcases Base64.mem_encode member with rfl | ⟨value, small, rfl⟩
    · exact .inr rfl
    · exact .inl (all value small)
  shorter := by
    intro text bytes decodes
    exact (Base64.length_decode decodes).trans (Text.length_toList_le text)

/-- The name of a program that has the given number of characters. -/
def exitedProgram (size : Nat) : String := String.ofList (List.replicate size 'x')

/-- A batch whose only log is the exit of a program that was never invoked. -/
def exitBatch (size : Nat) : BatchEvidence where
  slot := 7
  transactionIndex := none
  signature := "signature"
  instructions := []
  logMessages := [successLine (exitedProgram size)]

theorem utf8ByteSize_exitedProgram (size : Nat) : (exitedProgram size).utf8ByteSize = size := by
  have single : ∀ letter ∈ (exitedProgram size).toList, letter.utf8Size = 1 := by
    intro letter member
    rw [exitedProgram, String.toList_ofList] at member
    rw [List.eq_of_mem_replicate member]
    rfl
  rw [Text.utf8ByteSize_of_ascii single, exitedProgram, String.toList_ofList,
    List.length_replicate]

theorem exitedProgram_isPlausible {size : Nat} (positive : 0 < size) :
    isPlausibleProgramId (exitedProgram size) = true := by
  have named : exitedProgram size ≠ "" := by
    intro empty
    have none := utf8ByteSize_exitedProgram size
    rw [empty] at none
    exact absurd none (by simpa using positive.ne)
  have unspaced : (exitedProgram size).toList.any Text.isAsciiWhitespace = false := by
    rw [exitedProgram, String.toList_ofList, List.any_replicate]
    simp [Text.isAsciiWhitespace]
  rw [isPlausibleProgramId, unspaced]
  simpa using named

theorem exitBatch_signed (size : Nat) : Text.isBlank (exitBatch size).signature = false := by
  change Text.isBlank "signature" = false
  decide

theorem exitBatch_unscoped {size : Nat} (positive : 0 < size) (program : PumpProgram) :
    (exitBatch size).scopedLogs program =
      .error (.unexpectedProgramExit (exitedProgram size)) :=
  (scopeProgramDataLogs_unexpectedExit (exitBatch_signed size)).mpr ⟨[], _, [], .start, rfl, rfl,
    start_isUnexpectedExit (exitedProgram_isPlausible positive)⟩

/-- The batch is quarantined for its logs, with the name of the program in the detail. -/
theorem exitBatch_decodes {size : Nat} (positive : 0 < size)
    (decodeBase64 : String → Option (List UInt8)) (program : PumpProgram) :
    decodeBatchEvents decodeBase64 (exitBatch size) program = .ok {
      events := []
      quarantines := [malformedLogScope (exitBatch size)
        (.unexpectedProgramExit (exitedProgram size))] } := by
  have fails := exitBatch_unscoped positive program
  unfold BatchEvidence.scopedLogs at fails
  refine bind_eq_ok.mpr ⟨_, rfl, ?_⟩
  rw [fails]
  rfl

theorem exitBatch_fitsMemory {size : Nat} (small : size < 2 ^ 32) :
    (exitBatch size).FitsMemory where
  instructions := by simp [exitBatch]
  logs := by
    intro log member
    rw [List.mem_singleton.mp member, successLine, String.utf8ByteSize_append,
      String.utf8ByteSize_append, utf8ByteSize_exitedProgram]
    have front : "Program ".utf8ByteSize = 8 := by decide
    have back : " success".utf8ByteSize = 8 := by decide
    rw [front, back, u64Size]
    omega
  logCount := by
    change 1 < u64Size
    decide

/-- The unexpected exit of a program with an ordinary name can be stored. -/
theorem quarantines_storable_exit :
    IsStorable (launchConfig standardEncoding) .pump {
      events := []
      quarantines := [malformedLogScope (exitBatch 44)
        (.unexpectedProgramExit (exitedProgram 44))] } := by
  refine (quarantines_storable_iff (launchConfig standardEncoding)
    standardEncoding_isStandardBase64 (exitBatch 44) (exitBatch_fitsMemory (by decide))
    (exitBatch_signed 44) (by decide) (by simp [exitBatch]) .pump _
    (exitBatch_decodes (by decide) _ _)).mpr ?_
  rw [reportsUnstorableExit_iff (exitBatch_signed 44), exitBatch_unscoped (by decide)]
  intro ⟨name, same, unstorable⟩
  cases same
  exact unstorable (by decide)

/-- The name of an exited program can be too long for the detail of its error. -/
theorem exit_not_storable : ¬ ∀ (config : ProcessingConfig), config.encoding.IsStandardBase64 →
    ∀ (batch : BatchEvidence), batch.FitsMemory → Text.isBlank batch.signature = false →
    (batch.slot : Int) ≤ i64Max → (∀ index ∈ batch.transactionIndex, (index : Int) ≤ i64Max) →
    ∀ (program : PumpProgram) (decoded : DecodedEvidenceBatch),
      decodeBatchEvents config.encoding.decodeBase64 batch program = .ok decoded →
        IsStorable config program decoded := by
  intro always
  have storable := always (launchConfig standardEncoding) standardEncoding_isStandardBase64
    (exitBatch 2000) (exitBatch_fitsMemory (by decide)) (exitBatch_signed 2000) (by decide)
    (by simp [exitBatch]) .pump _ (exitBatch_decodes (by decide) _ _)
  have within := (storable.exit_isShort standardEncoding_isStandardBase64 (exitBatch_signed 2000)
    (exitBatch_unscoped (by decide) .pump) (exitBatch_decodes (by decide) _ _)).size
  rw [utf8ByteSize_exitedProgram] at within
  exact absurd within (by decide)

end Soldisco.Pipeline

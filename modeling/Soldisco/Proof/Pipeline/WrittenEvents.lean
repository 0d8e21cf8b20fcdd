import Soldisco.Library.Base64
import Soldisco.Proof.Intake.LogText
import Soldisco.Proof.Intake.ScopeErrors
import Soldisco.Proof.Pipeline.Decode
import Soldisco.Proof.SourcePump.Decoder

/-
This file proves that the events which an invocation writes to its log are decoded from it.
-/

namespace Soldisco.Intake
open CallForest MachineInteger

theorem tokenOf_dataLine {payload : String} (valid : IsPayload payload) :
    tokenOf (dataLine payload) = .leaf (dataLine payload) := by
  rw [tokenOf, parseInvoke_dataLine valid, parseExit_dataLine valid]

/-- The line of an outermost invocation. -/
def invokeLine (program : String) : String := "Program " ++ (program ++ " invoke [1]")

/-- The log of one invocation that writes the payloads. -/
def invocationLogs (program : String) (payloads : List String) : List String :=
  invokeLine program :: (payloads.map dataLine ++ [successLine program])

/-- The payloads of one invocation are scoped to its program and to no other one. -/
theorem scopeProgramDataLogs_invocation (programId : String) (slot : Nat)
    (transactionIndex : Option Nat) {signature program : String}
    (present : Text.isBlank signature = false)
    (enters : tokenOf (invokeLine program) = .enter program 1)
    (untruncated : isLogTruncationMarker (invokeLine program) = false)
    (exits : tokenOf (successLine program) = .exit program) {payloads : List String}
    (valid : ∀ payload ∈ payloads, IsPayload payload) (few : payloads.length < u16Size) :
    scopeProgramDataLogs programId slot transactionIndex signature
        (invocationLogs program payloads) =
      .ok (if program = programId then (payloads.map dataLine).zipIdx.map fun entry =>
        scopedAt slot transactionIndex signature 0 entry.2 entry.1 else []) := by
  have data : programDataOf programId (program, .leaves (payloads.map dataLine)) =
      if program = programId then payloads.map dataLine else [] := by
    rw [programDataOf, Forest.leavesOf_leaves]
    split
    · rw [List.filter_eq_self]
      intro line member
      obtain ⟨payload, -, rfl⟩ := List.mem_map.mp member
      exact isProgramData_dataLine payload
    · rfl
  have fits : (programDataOf programId (program, .leaves (payloads.map dataLine))).length <
      u16Size := by
    rw [data]
    split
    · rw [List.length_map]
      exact few
    · decide
  obtain ⟨final, between, -, recorded, run⟩ := LogScope.foldlM_call_ok programId slot
    transactionIndex signature LogScope.start_between (by decide) fits
  refine (scopeProgramDataLogs_eq_ok programId slot transactionIndex present _ _).mpr
    ⟨?_, final, ?_, between.stack, ?_⟩
  · intro line member
    rcases List.mem_cons.mp member with rfl | member
    · exact untruncated
    rcases List.mem_append.mp member with written | last
    · obtain ⟨payload, -, rfl⟩ := List.mem_map.mp written
      exact isLogTruncationMarker_dataLine payload
    · rw [List.mem_singleton.mp last]
      exact isLogTruncationMarker_successLine program
  · have tokens : (invocationLogs program payloads).map tokenOf = .enter program 1 ::
        ((Forest.leaves (payloads.map dataLine)).print 2 ++ [.exit program]) := by
      rw [invocationLogs, List.map_cons, List.map_append, enters, Forest.print_leaves,
        List.map_map, List.map_map, List.map_singleton, exits]
      congr 2
      apply List.map_congr_left
      intro payload member
      exact tokenOf_dataLine (valid payload member)
    rw [tokens]
    exact run []
  · rw [recorded, callData, data]
    split <;> rfl

end Soldisco.Intake

namespace Soldisco.Pipeline
open Domain MachineInteger SourcePump
open Intake hiding PumpEvent

theorem encodeText_isPayload (bytes : List UInt8) :
    IsPayload (Base64.encodeText bytes) := by
  have letters : (Base64.encodeText bytes).toList = Base64.encode bytes :=
    String.toList_ofList
  have absent : ∀ character ∉ '=' :: (List.range 64).map Base64.character,
      character ∉ (Base64.encodeText bytes).toList := by
    intro character other member
    rw [letters] at member
    rcases Base64.mem_encode member with rfl | ⟨value, small, rfl⟩
    · exact other List.mem_cons_self
    · exact other (List.mem_cons_of_mem _ (List.mem_map_of_mem (List.mem_range.mpr small)))
  refine ⟨absent _ (by decide), absent _ (by decide),
    absent _ (by decide), ?_⟩
  intro same
  have length := congrArg List.length (congrArg String.toList same)
  rw [letters, Base64.length_encode, show "success".toList.length = 7 from by decide] at length
  omega

/-- The data line that carries an event. -/
def eventLine (event : PumpEvent) : String :=
  dataLine (Base64.encodeText event.encode)

/-- The evidence of an event that the first invocation writes at the given position. -/
def writtenEvidence (batch : BatchEvidence) (entry : PumpEvent × Nat) : DecodedEvidence where
  decoded := {
    program := entry.1.program
    coordinate := {
      slot := batch.slot
      transactionIndex := batch.transactionIndex
      signature := batch.signature
      instructionIndex := 0
      eventIndex := entry.2 }
    event := entry.1 }
  rawEvidence := entry.1.encode

theorem decodeProgramDataBytes_eventLine (event : PumpEvent) :
    decodeProgramDataBytes Base64.decodeText (eventLine event) = .ok event.encode := by
  have payload : Text.stripPrefix (eventLine event) programDataPrefix =
      some (Base64.encodeText event.encode) := Text.stripPrefix_append _ _
  rw [decodeProgramDataBytes, payload]
  dsimp only
  rw [Base64.decodeText_encodeText]

/-- A record with a valid event of the program adds its evidence. -/
theorem decodeRecord_eventLine {program : PumpProgram} {batch : BatchEvidence}
    (present : Text.isBlank batch.signature = false) {entry : PumpEvent × Nat}
    (valid : entry.1.Valid) (own : entry.1.program = program) (decoded : DecodedEvidenceBatch) :
    decodeRecord program Base64.decodeText decoded
        (scopedAt batch.slot batch.transactionIndex batch.signature 0 entry.2
          (eventLine entry.1)) =
      { decoded with events := decoded.events ++ [writtenEvidence batch entry] } := by
  have signed : batch.signature ≠ "" := by
    intro empty
    rw [empty] at present
    revert present
    decide
  have accepted := (@decodeAnchorEvent_eq_ok program.programId
    (writtenEvidence batch entry).decoded.coordinate entry.1.encode
    (writtenEvidence batch entry).decoded).mpr ⟨by rw [supportedProgram_programId, ← own]; rfl,
      signed, rfl, valid, eventData_of_direct (isAnchorEventCpi_encode _)⟩
  unfold decodeRecord scopedAt
  dsimp only
  rw [decodeProgramDataBytes_eventLine]
  change decoded.add (writtenEvidence batch entry).decoded.coordinate entry.1.encode
    (decodeAnchorEvent program.programId (writtenEvidence batch entry).decoded.coordinate
      entry.1.encode) = _
  rw [accepted]
  rfl

theorem foldl_decodeRecord_eventLine {program : PumpProgram} {batch : BatchEvidence}
    (present : Text.isBlank batch.signature = false) (entries : List (PumpEvent × Nat))
    (valid : ∀ entry ∈ entries, entry.1.Valid ∧ entry.1.program = program)
    (decoded : DecodedEvidenceBatch) :
    (entries.map fun entry => scopedAt batch.slot batch.transactionIndex batch.signature 0 entry.2
      (eventLine entry.1)).foldl (decodeRecord program Base64.decodeText) decoded =
      { decoded with events := decoded.events ++ entries.map (writtenEvidence batch) } := by
  induction entries generalizing decoded with
  | nil => simp
  | cons entry rest ih =>
      obtain ⟨first, others⟩ := List.forall_mem_cons.mp valid
      rw [List.map_cons, List.foldl_cons, decodeRecord_eventLine present first.1 first.2,
        ih others]
      simp

theorem tokenOf_programLines (program : PumpProgram) :
    tokenOf (invokeLine program.programId) = .enter program.programId 1 ∧
      isLogTruncationMarker (invokeLine program.programId) = false ∧
      tokenOf (successLine program.programId) = .exit program.programId := by
  have named : isPlausibleProgramId program.programId = true := by
    cases program <;> decide
  refine ⟨?_, ?_, tokenOf_successLine named⟩
  · cases program <;> decide +kernel
  · cases program <;> decide +kernel

/-- The payloads of the events are scoped to the program that writes them. -/
theorem scopeProgramDataLogs_written {writer : PumpProgram} {events : List PumpEvent}
    {batch : BatchEvidence} (present : Text.isBlank batch.signature = false)
    (logs : batch.logMessages = invocationLogs writer.programId (events.map fun event =>
      Base64.encodeText event.encode))
    (few : events.length < u16Size) (program : PumpProgram) :
    scopeProgramDataLogs program.programId batch.slot batch.transactionIndex batch.signature
        batch.logMessages =
      .ok (if writer = program then events.zipIdx.map fun entry =>
        scopedAt batch.slot batch.transactionIndex batch.signature 0 entry.2 (eventLine entry.1)
          else []) := by
  obtain ⟨enters, untruncated, exits⟩ := tokenOf_programLines writer
  have payloads : ∀ payload ∈ events.map (fun event => Base64.encodeText event.encode),
      IsPayload payload := by
    intro payload member
    obtain ⟨event, -, rfl⟩ := List.mem_map.mp member
    exact encodeText_isPayload _
  rw [logs, scopeProgramDataLogs_invocation program.programId batch.slot batch.transactionIndex
    present enters untruncated exits payloads (by rw [List.length_map]; exact few)]
  congr 1
  by_cases same : writer = program
  · subst same
    rw [if_pos rfl, if_pos rfl, List.map_map, List.zipIdx_map, List.map_map]
    rfl
  · have other : writer.programId ≠ program.programId := by
      revert same
      cases writer <;> cases program <;> decide
    rw [if_neg other, if_neg same]

/-- One invocation of a program that writes valid events is decoded to these events. -/
theorem decodeBatchEvents_written {writer : PumpProgram} {events : List PumpEvent}
    {batch : BatchEvidence} (silent : batch.instructions = [])
    (present : Text.isBlank batch.signature = false)
    (logs : batch.logMessages = invocationLogs writer.programId (events.map fun event =>
      Base64.encodeText event.encode))
    (few : events.length < u16Size)
    (valid : ∀ event ∈ events, event.Valid ∧ event.program = writer) (program : PumpProgram) :
    decodeBatchEvents Base64.decodeText batch program = .ok {
      events := if writer = program then events.zipIdx.map (writtenEvidence batch) else []
      quarantines := [] } := by
  rw [decodeBatchEvents_of_records Base64.decodeText program batch silent
    (scopeProgramDataLogs_written present logs few program)]
  congr 1
  by_cases same : writer = program
  · subst same
    rw [if_pos rfl, if_pos rfl]
    exact foldl_decodeRecord_eventLine present events.zipIdx (fun entry member =>
      valid entry.1 (List.fst_mem_of_mem_zipIdx member)) ⟨[], []⟩
  · rw [if_neg same, if_neg same]
    rfl

end Soldisco.Pipeline

import Soldisco.Library.Cancellation
import Soldisco.Proof.Pipeline.WrittenEvents

/-
This file proves that self-invocations corroborate the events of a batch and change none of them.
-/

namespace Soldisco.Pipeline
open Accumulation Cancellation Domain MachineInteger SourcePump
open Intake hiding PumpEvent

variable (program : PumpProgram)

/-- The event that the data of a self-invocation decodes to. -/
def cpiEventOf (coordinate : ChainCoordinate) (data : List UInt8) : Option PumpEvent :=
  match decodeCpiEvent program.programId coordinate data with
  | .ok decoded => some decoded.event
  | .error _ => none

/-- The decoded events of the self-invocations of one instruction. -/
def cpiEventsAt (batch : BatchEvidence) (instructionIndex : Nat) : List PumpEvent :=
  ((batch.instructions.filter (isEventInstruction program)).filter fun instruction =>
    instruction.outerInstructionIndex == instructionIndex).filterMap fun instruction =>
      cpiEventOf program
        ⟨batch.slot, batch.transactionIndex, batch.signature, instructionIndex, 0⟩ instruction.data

/-- The decoded direct events of one instruction. -/
def directEventsAt (decoded : DecodedEvidenceBatch) (instructionIndex : Nat) : List PumpEvent :=
  (decoded.events.filter fun evidence =>
    evidence.decoded.coordinate.instructionIndex == instructionIndex).map fun evidence =>
      evidence.decoded.event

/-- The self-invocations of one instruction that are quarantined for want of a direct event. -/
def uncorroboratedAt (decoded : DecodedEvidenceBatch) (instructionIndex : Nat) :
    List QuarantinedEvidence :=
  decoded.quarantines.filter fun quarantine =>
    quarantine.reasonCode == cpiEventWithoutCanonicalLog &&
      quarantine.coordinate.instructionIndex == instructionIndex

section Decoding

theorem decodeCpiEvent_coordinate {coordinate : ChainCoordinate} {data : List UInt8}
    {decoded : DecodedPumpEvent}
    (decodes : decodeCpiEvent program.programId coordinate data = .ok decoded) :
    decoded.coordinate = coordinate := by
  unfold decodeCpiEvent at decodes
  split_ifs at decodes
  obtain ⟨-, -, same, -⟩ := decodeAnchorEvent_eq_ok.mp decodes
  rw [same]

/-- Only the signature of the coordinate matters for the event. -/
theorem cpiEventOf_congr {left right : ChainCoordinate} (same : left.signature = right.signature)
    (data : List UInt8) : cpiEventOf program left data = cpiEventOf program right data := by
  unfold cpiEventOf decodeCpiEvent decodeAnchorEvent
  rw [same]
  cases supportedProgram program.programId with
  | none => rfl
  | some known =>
      dsimp only
      split_ifs
      · rfl
      · rfl
      · rfl
      · cases readEvent known ((eventData data).take 8) ((eventData data).drop 8) with
        | error error => rfl
        | ok result => rfl

/-- Each event of a self-invocation keeps the data that it decodes from. -/
def IsEvidence (evidence : DecodedEvidence) : Prop :=
  decodeCpiEvent program.programId evidence.decoded.coordinate evidence.rawEvidence =
    .ok evidence.decoded

/-- What cancels: the instruction and the event. -/
def corroborationKey (evidence : DecodedEvidence) : Nat × PumpEvent :=
  (evidence.decoded.coordinate.instructionIndex, evidence.decoded.event)

theorem quarantineOf_reasonCode {coordinate : ChainCoordinate} {rawEvidence : List UInt8}
    {error : DecodeError} {quarantine : QuarantinedEvidence}
    (quarantined : quarantineOf coordinate rawEvidence error = some quarantine) :
    quarantine.reasonCode ≠ cpiEventWithoutCanonicalLog := by
  unfold quarantineOf at quarantined
  split at quarantined
  · split_ifs at quarantined
    cases quarantined
    simp [cpiEventWithoutCanonicalLog]
  · cases quarantined
    simp [cpiEventWithoutCanonicalLog]

/-- No quarantine so far is about a missing direct event. -/
def FreeOfCorroboration (quarantines : List QuarantinedEvidence) : Prop :=
  ∀ quarantine ∈ quarantines, quarantine.reasonCode ≠ cpiEventWithoutCanonicalLog

theorem FreeOfCorroboration.append {front back : List QuarantinedEvidence}
    (first : FreeOfCorroboration front) (second : FreeOfCorroboration back) :
    FreeOfCorroboration (front ++ back) := by
  intro quarantine member
  rcases List.mem_append.mp member with before | after
  · exact first quarantine before
  · exact second quarantine after

theorem FreeOfCorroboration.add {batch : DecodedEvidenceBatch}
    (free : FreeOfCorroboration batch.quarantines) (coordinate : ChainCoordinate)
    (rawEvidence : List UInt8) (result : Except DecodeError DecodedPumpEvent) :
    FreeOfCorroboration (batch.add coordinate rawEvidence result).quarantines := by
  cases result with
  | ok decoded => exact free
  | error error =>
      refine free.append ?_
      intro quarantine member
      exact quarantineOf_reasonCode (Option.mem_toList.mp member)

end Decoding

section Instructions

variable (batch : BatchEvidence)

/-- The key of an instruction whose data decodes. -/
def instructionKey (instruction : TransactionInstructionRecord) : Option (Nat × PumpEvent) :=
  (cpiEventOf program ⟨batch.slot, batch.transactionIndex, batch.signature,
    instruction.outerInstructionIndex, 0⟩ instruction.data).map fun event =>
      (instruction.outerInstructionIndex, event)

/-- What the loop over the instructions has found. -/
structure FoundInstructions (instructions : List TransactionInstructionRecord)
    (found : DecodedEvidenceBatch) : Prop where
  keys : found.events.map corroborationKey = instructions.filterMap (instructionKey program batch)
  evidence : ∀ evidence ∈ found.events, IsEvidence program evidence
  free : FreeOfCorroboration found.quarantines

theorem FoundInstructions.add {instructions : List TransactionInstructionRecord}
    {found : DecodedEvidenceBatch} (finds : FoundInstructions program batch instructions found)
    (instruction : TransactionInstructionRecord) (eventIndex : Nat) :
    FoundInstructions program batch (instructions ++ [instruction])
      (found.add ⟨batch.slot, batch.transactionIndex, batch.signature,
          instruction.outerInstructionIndex, eventIndex⟩ instruction.data
        (decodeCpiEvent program.programId ⟨batch.slot, batch.transactionIndex, batch.signature,
          instruction.outerInstructionIndex, eventIndex⟩ instruction.data)) := by
  have same : cpiEventOf program ⟨batch.slot, batch.transactionIndex, batch.signature,
      instruction.outerInstructionIndex, 0⟩ instruction.data = cpiEventOf program ⟨batch.slot,
        batch.transactionIndex, batch.signature, instruction.outerInstructionIndex, eventIndex⟩
        instruction.data :=
    cpiEventOf_congr program (by rfl) instruction.data
  cases decodes : decodeCpiEvent program.programId ⟨batch.slot, batch.transactionIndex,
      batch.signature, instruction.outerInstructionIndex, eventIndex⟩ instruction.data with
  | error error =>
      have none : instructionKey program batch instruction = none := by
        rw [instructionKey, same, cpiEventOf, decodes]
        rfl
      exact ⟨by simp [DecodedEvidenceBatch.add, finds.keys, none], finds.evidence,
        finds.free.add _ _ (.error error)⟩
  | ok decoded =>
      have coordinate := decodeCpiEvent_coordinate program decodes
      have key : instructionKey program batch instruction =
          some (instruction.outerInstructionIndex, decoded.event) := by
        rw [instructionKey, same, cpiEventOf, decodes]
        rfl
      refine ⟨?_, ?_, finds.free⟩
      · simp [DecodedEvidenceBatch.add, finds.keys, key, corroborationKey, coordinate]
      · intro evidence member
        rcases List.mem_append.mp member with before | last
        · exact finds.evidence evidence before
        · rw [List.mem_singleton.mp last, IsEvidence, coordinate]
          exact decodes

theorem foundInstructions_foldlM (instructions seen : List TransactionInstructionRecord)
    {decoding final : CpiDecoding} (finds : FoundInstructions program batch seen decoding.found)
    (folded : instructions.foldlM (decodeInstruction program batch) decoding = .ok final) :
    FoundInstructions program batch (seen ++ instructions) final.found := by
  induction instructions generalizing decoding seen with
  | nil =>
      cases folded
      rw [List.append_nil]
      exact finds
  | cons instruction rest ih =>
      obtain ⟨next, stepped, later⟩ := foldlM_cons_eq_ok.mp folded
      unfold decodeInstruction at stepped
      dsimp only at stepped
      split at stepped
      · cases stepped
      · cases stepped
        rw [List.append_cons]
        exact ih (seen ++ [instruction]) (finds.add program batch instruction _) later

theorem foundInstructions {final : CpiDecoding}
    (decodes : decodeInstructions program batch = .ok final) :
    FoundInstructions program batch (batch.instructions.filter (isEventInstruction program))
      final.found := by
  have start : FoundInstructions program batch [] ⟨[], []⟩ :=
    ⟨rfl, by simp, by simp [FreeOfCorroboration]⟩
  exact foundInstructions_foldlM program batch _ [] start decodes

end Instructions

section Records

variable (decodeBase64 : String → Option (List UInt8))

theorem FreeOfCorroboration.record {decoded : DecodedEvidenceBatch}
    (free : FreeOfCorroboration decoded.quarantines) (record : ScopedProgramData) :
    FreeOfCorroboration (decodeRecord program decodeBase64 decoded record).quarantines := by
  unfold decodeRecord
  split
  · refine free.append ?_
    intro quarantine member
    rw [List.mem_singleton.mp member]
    simp [cpiEventWithoutCanonicalLog]
  · exact free.add _ _ _

theorem FreeOfCorroboration.records (records : List ScopedProgramData)
    {decoded : DecodedEvidenceBatch} (free : FreeOfCorroboration decoded.quarantines) :
    FreeOfCorroboration (records.foldl (decodeRecord program decodeBase64) decoded).quarantines := by
  induction records generalizing decoded with
  | nil => exact free
  | cons record rest ih => exact ih (free.record program decodeBase64 record)

/-- The events do not depend on what is already quarantined. -/
theorem decodeRecord_events {left right : DecodedEvidenceBatch} (same : left.events = right.events)
    (record : ScopedProgramData) :
    (decodeRecord program decodeBase64 left record).events =
      (decodeRecord program decodeBase64 right record).events := by
  unfold decodeRecord
  split
  · exact same
  · unfold DecodedEvidenceBatch.add
    split
    · exact congrArg (· ++ _) same
    · exact same

theorem foldl_decodeRecord_events (records : List ScopedProgramData)
    {left right : DecodedEvidenceBatch} (same : left.events = right.events) :
    (records.foldl (decodeRecord program decodeBase64) left).events =
      (records.foldl (decodeRecord program decodeBase64) right).events := by
  induction records generalizing left right with
  | nil => exact same
  | cons record rest ih => exact ih (decodeRecord_events program decodeBase64 same record)

end Records

section Matching

theorem isMatchFor_eq (cpi direct : DecodedEvidence) (taken : Bool) :
    isMatchFor cpi direct taken =
      (!taken && decide (corroborationKey direct = corroborationKey cpi)) := by
  rw [Bool.eq_iff_iff]
  simp [isMatchFor, corroborationKey, and_assoc]

theorem matchCpiEvent_eq (decoded : List DecodedEvidence) (matching : CpiMatching)
    (cpi : DecodedEvidence) : matchCpiEvent decoded matching cpi =
      match firstFree corroborationKey (corroborationKey cpi) decoded
        matching.matchedDirectEvents with
      | some index => ⟨matching.matchedDirectEvents.set index true, matching.quarantines⟩
      | none => ⟨matching.matchedDirectEvents, matching.quarantines ++ [unmatchedQuarantine cpi]⟩ := by
  have same : (decoded.zip matching.matchedDirectEvents).findIdx?
      (fun entry => isMatchFor cpi entry.1 entry.2) = firstFree corroborationKey
        (corroborationKey cpi) decoded matching.matchedDirectEvents := by
    unfold firstFree
    simp only [isMatchFor_eq]
  cases found : firstFree corroborationKey (corroborationKey cpi) decoded
      matching.matchedDirectEvents with
  | some index => simp only [matchCpiEvent, same, found]
  | none => simp only [matchCpiEvent, same, found]

/-- The self-invocations without a direct event of their own are quarantined in order. -/
theorem foldl_matchCpiEvent_quarantines (decoded cpis : List DecodedEvidence)
    (matching : CpiMatching) : (cpis.foldl (matchCpiEvent decoded) matching).quarantines =
      matching.quarantines ++ (uncancelled corroborationKey
        (free corroborationKey decoded matching.matchedDirectEvents) cpis).map
          unmatchedQuarantine := by
  induction cpis generalizing matching with
  | nil => simp [uncancelled]
  | cons cpi rest ih =>
      rw [List.foldl_cons, matchCpiEvent_eq, uncancelled]
      cases found : firstFree corroborationKey (corroborationKey cpi) decoded
          matching.matchedDirectEvents with
      | some index =>
          have taken := free_set_of_firstFree_eq_some corroborationKey found
          rw [ih, taken, if_pos (Multiset.mem_cons_self _ _), Multiset.erase_cons_head]
      | none =>
          rw [ih, if_neg (not_mem_free_of_firstFree_eq_none _ found), List.map_cons,
            List.append_assoc, List.singleton_append]

/-- The quarantined self-invocations are those that no direct event cancels. -/
theorem foldl_matchCpiEvent (decoded cpis : List DecodedEvidence) (matching : CpiMatching) :
    ∃ unmatched : List DecodedEvidence, unmatched.Sublist cpis ∧
      (cpis.foldl (matchCpiEvent decoded) matching).quarantines =
        matching.quarantines ++ unmatched.map unmatchedQuarantine ∧
      (unmatched.map corroborationKey : Multiset (Nat × PumpEvent)) =
        (cpis.map corroborationKey : Multiset (Nat × PumpEvent)) -
          free corroborationKey decoded matching.matchedDirectEvents :=
  ⟨_, uncancelled_sublist _ _ _, foldl_matchCpiEvent_quarantines decoded cpis matching,
    map_uncancelled _ _ _⟩

end Matching

section Batch

variable (decodeBase64 : String → Option (List UInt8))

/-- Whatever the log is, a batch decodes when its instructions do. -/
theorem exists_decodeBatchEvents {batch : BatchEvidence} {cpi : CpiDecoding}
    (found : decodeInstructions program batch = .ok cpi) :
    ∃ decoded, decodeBatchEvents decodeBase64 batch program = .ok decoded := by
  unfold decodeBatchEvents
  rw [found]
  cases scopes : scopeProgramDataLogs program.programId batch.slot batch.transactionIndex
      batch.signature batch.logMessages with
  | error error => exact ⟨_, rfl⟩
  | ok records => exact ⟨_, rfl⟩

/-- The stages of a batch whose log can be scoped. -/
theorem decodeBatchEvents_eq_ok {batch : BatchEvidence} {decoded : DecodedEvidenceBatch}
    {records : List ScopedProgramData}
    (scopes : scopeProgramDataLogs program.programId batch.slot batch.transactionIndex
      batch.signature batch.logMessages = .ok records)
    (decodes : decodeBatchEvents decodeBase64 batch program = .ok decoded) :
    ∃ cpi, decodeInstructions program batch = .ok cpi ∧
      decoded.events =
        (records.foldl (decodeRecord program decodeBase64) ⟨[], cpi.found.quarantines⟩).events ∧
      decoded.quarantines = (cpi.found.events.foldl (matchCpiEvent decoded.events)
        ⟨List.replicate decoded.events.length false,
          (records.foldl (decodeRecord program decodeBase64)
            ⟨[], cpi.found.quarantines⟩).quarantines⟩).quarantines := by
  obtain ⟨cpi, found, returned⟩ := bind_eq_ok.mp decodes
  rw [scopes] at returned
  cases returned
  exact ⟨cpi, found, rfl, rfl⟩

theorem decodeBatchEvents_unscoped {batch : BatchEvidence} {decoded : DecodedEvidenceBatch}
    {error : LogScopeError}
    (fails : scopeProgramDataLogs program.programId batch.slot batch.transactionIndex
      batch.signature batch.logMessages = .error error)
    (decodes : decodeBatchEvents decodeBase64 batch program = .ok decoded) :
    decoded.events = [] := by
  obtain ⟨cpi, -, returned⟩ := bind_eq_ok.mp decodes
  rw [fails] at returned
  cases returned
  rfl

theorem valuesOf_keys (instructionIndex : Nat) (items : List DecodedEvidence) :
    valuesOf instructionIndex (items.map corroborationKey : Multiset (Nat × PumpEvent)) =
      ((items.filter fun evidence =>
        evidence.decoded.coordinate.instructionIndex == instructionIndex).map fun evidence =>
          evidence.decoded.event : List PumpEvent) := by
  rw [valuesOf, Multiset.filter_coe, Multiset.map_coe, List.filter_map, List.map_map]
  rfl

theorem valuesOf_instructionKeys (batch : BatchEvidence) (instructionIndex : Nat) :
    valuesOf instructionIndex (((batch.instructions.filter (isEventInstruction program)).filterMap
      (instructionKey program batch) : List (Nat × PumpEvent)) : Multiset (Nat × PumpEvent)) =
        (cpiEventsAt program batch instructionIndex : Multiset PumpEvent) := by
  rw [valuesOf, Multiset.filter_coe, Multiset.map_coe, cpiEventsAt]
  congr 1
  induction batch.instructions.filter (isEventInstruction program) with
  | nil => rfl
  | cons instruction rest ih =>
      rw [List.filterMap_cons, List.filter_cons]
      by_cases same : instruction.outerInstructionIndex = instructionIndex
      · subst same
        cases event : cpiEventOf program ⟨batch.slot, batch.transactionIndex, batch.signature,
            instruction.outerInstructionIndex, 0⟩ instruction.data with
        | none => simp [instructionKey, event, ih]
        | some value => simp [instructionKey, event, ih]
      · cases event : cpiEventOf program ⟨batch.slot, batch.transactionIndex, batch.signature,
            instruction.outerInstructionIndex, 0⟩ instruction.data with
        | none => simp [instructionKey, event, ih, same]
        | some value => simp [instructionKey, event, ih, same]

/-- The quarantines for want of a direct event are those of the unmatched self-invocations. -/
theorem uncorroboratedAt_append {free : List QuarantinedEvidence}
    (others : FreeOfCorroboration free) (events unmatched : List DecodedEvidence)
    (instructionIndex : Nat) :
    uncorroboratedAt ⟨events, free ++ unmatched.map unmatchedQuarantine⟩ instructionIndex =
      (unmatched.filter fun evidence =>
        evidence.decoded.coordinate.instructionIndex == instructionIndex).map
          unmatchedQuarantine := by
  have none : (free.filter fun quarantine =>
      quarantine.reasonCode == cpiEventWithoutCanonicalLog &&
        quarantine.coordinate.instructionIndex == instructionIndex) = [] := by
    rw [List.filter_eq_nil_iff]
    intro quarantine member
    simp [others quarantine member]
  rw [uncorroboratedAt, List.filter_append, none, List.nil_append, List.filter_map]
  rfl

/-- The decoded events do not depend on the instructions, and in each instruction the self-invocations
that no direct event cancels are quarantined. -/
theorem decodeBatchEvents_corroborates :
    (∀ (left right : BatchEvidence) (leftDecoded rightDecoded : DecodedEvidenceBatch),
      left.logMessages = right.logMessages → left.slot = right.slot →
      left.transactionIndex = right.transactionIndex → left.signature = right.signature →
      decodeBatchEvents decodeBase64 left program = .ok leftDecoded →
      decodeBatchEvents decodeBase64 right program = .ok rightDecoded →
      leftDecoded.events = rightDecoded.events) ∧
    ∀ (batch : BatchEvidence) (decoded : DecodedEvidenceBatch) (records : List ScopedProgramData),
      decodeBatchEvents decodeBase64 batch program = .ok decoded →
      scopeProgramDataLogs program.programId batch.slot batch.transactionIndex batch.signature
        batch.logMessages = .ok records →
      ∀ instructionIndex : Nat,
        ((uncorroboratedAt decoded instructionIndex).map fun quarantine =>
            cpiEventOf program quarantine.coordinate quarantine.rawEvidence :
          Multiset (Option PumpEvent)) =
          ((cpiEventsAt program batch instructionIndex : Multiset PumpEvent) -
            (directEventsAt decoded instructionIndex : Multiset PumpEvent)).map some := by
  constructor
  · intro left right leftDecoded rightDecoded logs slot transactionIndex signature first second
    cases scopes : scopeProgramDataLogs program.programId right.slot right.transactionIndex
        right.signature right.logMessages with
    | error error =>
        rw [decodeBatchEvents_unscoped program decodeBase64 scopes second]
        rw [← logs, ← slot, ← transactionIndex, ← signature] at scopes
        exact decodeBatchEvents_unscoped program decodeBase64 scopes first
    | ok records =>
        obtain ⟨_, -, events, -⟩ := decodeBatchEvents_eq_ok program decodeBase64 scopes second
        rw [← logs, ← slot, ← transactionIndex, ← signature] at scopes
        obtain ⟨_, -, same, -⟩ := decodeBatchEvents_eq_ok program decodeBase64 scopes first
        rw [events, same]
        exact foldl_decodeRecord_events program decodeBase64 records rfl
  · intro batch decoded records decodes scopes instructionIndex
    obtain ⟨cpi, found, -, quarantines⟩ :=
      decodeBatchEvents_eq_ok program decodeBase64 scopes decodes
    have finds := foundInstructions program batch found
    have others : FreeOfCorroboration (records.foldl (decodeRecord program decodeBase64)
        ⟨[], cpi.found.quarantines⟩).quarantines :=
      FreeOfCorroboration.records program decodeBase64 records finds.free
    obtain ⟨unmatched, sublist, quarantined, cancelled⟩ := foldl_matchCpiEvent decoded.events
      cpi.found.events ⟨List.replicate decoded.events.length false, _⟩
    rw [← quarantines] at quarantined
    have shape : decoded = ⟨decoded.events, _⟩ := congrArg (DecodedEvidenceBatch.mk decoded.events)
      quarantined
    have events : ((uncorroboratedAt decoded instructionIndex).map fun quarantine =>
        cpiEventOf program quarantine.coordinate quarantine.rawEvidence) =
          ((unmatched.filter fun evidence =>
            evidence.decoded.coordinate.instructionIndex == instructionIndex).map fun evidence =>
              evidence.decoded.event).map some := by
      rw [shape, uncorroboratedAt_append others, List.map_map, List.map_map]
      apply List.map_congr_left
      intro evidence member
      have decodesAs := finds.evidence evidence (sublist.subset (List.mem_filter.mp member).1)
      rw [IsEvidence] at decodesAs
      simp [unmatchedQuarantine, cpiEventOf, decodesAs]
    rw [events, ← Multiset.map_coe, ← valuesOf_keys, cancelled, valuesOf_sub, finds.keys,
      valuesOf_instructionKeys, free_replicate, valuesOf_keys]
    rfl

/-- The completion of the curve a second later. -/
def lateCompleteEvent : PumpEvent := .complete {
  user := zeroAddress
  mint := zeroAddress
  bondingCurve := zeroAddress
  timestamp := 1
  quoteMint := zeroAddress }

/-- A batch whose log carries one completion. -/
def completeBatch (instructions : List TransactionInstructionRecord) : BatchEvidence where
  slot := 42
  transactionIndex := none
  signature := "s"
  instructions := instructions
  logMessages := invocationLogs pumpProgramId [Base64.encodeText zeroCompleteEvent.encode]

def selfInvocation (event : PumpEvent) : TransactionInstructionRecord where
  outerInstructionIndex := 0
  innerInstructionIndex := some 0
  stackHeight := some 2
  programId := pumpProgramId
  data := anchorEventCpiDiscriminator ++ event.encode

/-- Of two self-invocations of one instruction, one pairs with the event of the log and the other
is quarantined. -/
theorem decodeBatchEvents_completeInstruction : ∃ decoded,
    decodeBatchEvents Base64.decodeText (completeBatch [selfInvocation zeroCompleteEvent,
      selfInvocation lateCompleteEvent]) .pump = .ok decoded ∧
    (decoded.events.map fun evidence => evidence.decoded.event) = [zeroCompleteEvent] ∧
    ((uncorroboratedAt decoded 0).map fun quarantine =>
      cpiEventOf .pump quarantine.coordinate quarantine.rawEvidence) =
        [some lateCompleteEvent] := by
  have valid : zeroCompleteEvent.Valid := ⟨zeroAddress_isAddress, zeroAddress_isAddress,
    zeroAddress_isAddress, zeroAddress_isAddress⟩
  have present : Text.isBlank (completeBatch []).signature = false := by decide
  have scopes := @scopeProgramDataLogs_written .pump [zeroCompleteEvent] (completeBatch []) present
    rfl (by decide) .pump
  have silent := @decodeBatchEvents_written .pump [zeroCompleteEvent] (completeBatch []) rfl present
    rfl (by decide) (by simpa using ⟨valid, rfl⟩) .pump
  set batch := completeBatch [selfInvocation zeroCompleteEvent, selfInvocation lateCompleteEvent]
  have read : (decodeInstructions .pump batch).isOk = true ∧
      cpiEventsAt .pump batch 0 = [zeroCompleteEvent, lateCompleteEvent] := by decide +kernel
  obtain ⟨accepted, selfInvoked⟩ := read
  obtain ⟨cpi, found⟩ := eq_ok_of_isOk accepted
  obtain ⟨decoded, decodes⟩ := exists_decodeBatchEvents .pump Base64.decodeText found
  obtain ⟨independent, cancels⟩ := decodeBatchEvents_corroborates .pump Base64.decodeText
  have direct := independent batch (completeBatch []) decoded _ rfl rfl rfl rfl decodes silent
  have left := cancels batch decoded _ decodes scopes 0
  rw [selfInvoked, directEventsAt, direct] at left
  refine ⟨decoded, decodes, by rw [direct]; rfl, Multiset.coe_eq_singleton.mp ?_⟩
  rw [left]
  decide +kernel

end Batch
end Soldisco.Pipeline

import Soldisco.Proof.Pipeline.Corroboration

/-
This file lists the rejected evidence of a batch by the place that each piece has in the batch.
-/

namespace Soldisco.Pipeline
open Accumulation Cancellation Domain MachineInteger SourcePump
open Intake hiding PumpEvent

/-- The part of a coordinate that tells the evidence of one transaction apart. -/
def place (coordinate : ChainCoordinate) : Nat × Nat :=
  (coordinate.instructionIndex, coordinate.eventIndex)

/-- The data of an event that a program sends to itself. -/
structure SelfInvocation where
  coordinate : ChainCoordinate
  data : List UInt8
deriving DecidableEq, Repr

/-- A self-invocation is numbered by the earlier ones of its top-level instruction. -/
def numberInstructions (batch : BatchEvidence) (seen : List TransactionInstructionRecord) :
    List TransactionInstructionRecord → List SelfInvocation
  | [] => []
  | instruction :: rest => {
      coordinate := {
        slot := batch.slot
        transactionIndex := batch.transactionIndex
        signature := batch.signature
        instructionIndex := instruction.outerInstructionIndex
        eventIndex := seen.countP fun earlier =>
          earlier.outerInstructionIndex == instruction.outerInstructionIndex }
      data := instruction.data } :: numberInstructions batch (seen ++ [instruction]) rest

/-- The events that the program sends to itself. -/
def selfInvocations (program : PumpProgram) (batch : BatchEvidence) : List SelfInvocation :=
  numberInstructions batch [] (batch.instructions.filter (isEventInstruction program))

/-- What a decoder returned is rejected evidence or not. -/
def rejectionOf (coordinate : ChainCoordinate) (rawEvidence : List UInt8) :
    Except DecodeError DecodedPumpEvent → Option QuarantinedEvidence
  | .ok _ => none
  | .error error => quarantineOf coordinate rawEvidence error

def evidenceOf (rawEvidence : List UInt8) :
    Except DecodeError DecodedPumpEvent → Option DecodedEvidence
  | .ok decoded => some { decoded, rawEvidence }
  | .error _ => none

theorem DecodedEvidenceBatch.add_eq (batch : DecodedEvidenceBatch) (coordinate : ChainCoordinate)
    (rawEvidence : List UInt8) (result : Except DecodeError DecodedPumpEvent) :
    batch.add coordinate rawEvidence result = {
      events := batch.events ++ (evidenceOf rawEvidence result).toList
      quarantines := batch.quarantines ++ (rejectionOf coordinate rawEvidence result).toList } := by
  cases result with
  | ok decoded => simp [add, evidenceOf, rejectionOf]
  | error error => simp [add, evidenceOf, rejectionOf]

section Decoders

variable (program : PumpProgram)

/-- What the decoder makes of a self-invocation. -/
def SelfInvocation.decode (invocation : SelfInvocation) : Except DecodeError DecodedPumpEvent :=
  decodeCpiEvent program.programId invocation.coordinate invocation.data

/-- The quarantine of a self-invocation that does not decode. -/
def SelfInvocation.rejection (invocation : SelfInvocation) : Option QuarantinedEvidence :=
  rejectionOf invocation.coordinate invocation.data (invocation.decode program)

def SelfInvocation.evidence (invocation : SelfInvocation) : Option DecodedEvidence :=
  evidenceOf invocation.data (invocation.decode program)

variable (decodeBase64 : String → Option (List UInt8))

/-- The quarantine of a record that does not decode. -/
def recordRejection (record : ScopedProgramData) : Option QuarantinedEvidence :=
  match decodeProgramDataBytes decodeBase64 record.log with
  | .error error => some {
      coordinate := record.coordinate
      reasonCode := "MALFORMED_PROGRAM_DATA"
      reasonDetail := displayDecodeError error
      rawEvidence := utf8Bytes record.log }
  | .ok rawEvidence => rejectionOf record.coordinate rawEvidence
      (decodeAnchorEvent program.programId record.coordinate rawEvidence)

/-- The event of a record that decodes. -/
def recordEvidence (record : ScopedProgramData) : Option DecodedEvidence :=
  match decodeProgramDataBytes decodeBase64 record.log with
  | .error _ => none
  | .ok rawEvidence => evidenceOf rawEvidence
      (decodeAnchorEvent program.programId record.coordinate rawEvidence)

theorem decodeRecord_eq (decoded : DecodedEvidenceBatch) (record : ScopedProgramData) :
    decodeRecord program decodeBase64 decoded record = {
      events := decoded.events ++ (recordEvidence program decodeBase64 record).toList
      quarantines := decoded.quarantines ++
        (recordRejection program decodeBase64 record).toList } := by
  unfold decodeRecord recordEvidence recordRejection
  cases decodeProgramDataBytes decodeBase64 record.log with
  | error error => simp
  | ok rawEvidence => exact DecodedEvidenceBatch.add_eq _ _ _ _

theorem foldl_decodeRecord (records : List ScopedProgramData) (decoded : DecodedEvidenceBatch) :
    records.foldl (decodeRecord program decodeBase64) decoded = {
      events := decoded.events ++ records.filterMap (recordEvidence program decodeBase64)
      quarantines := decoded.quarantines ++
        records.filterMap (recordRejection program decodeBase64) } := by
  induction records generalizing decoded with
  | nil => simp
  | cons record rest ih =>
      rw [List.foldl_cons, ih, decodeRecord_eq, List.filterMap_cons, List.filterMap_cons]
      cases recordEvidence program decodeBase64 record <;>
        cases recordRejection program decodeBase64 record <;> simp

end Decoders

section Instructions

variable (program : PumpProgram) (batch : BatchEvidence)

/-- The loop has counted the self-invocations it has seen. -/
def CountsSeen (seen : List TransactionInstructionRecord) (decoding : CpiDecoding) : Prop :=
  ∀ index, decoding.eventIndexes[index]?.getD 0 =
    seen.countP fun earlier => earlier.outerInstructionIndex == index

theorem CountsSeen.insert {seen : List TransactionInstructionRecord} {decoding : CpiDecoding}
    (counts : CountsSeen seen decoding) (instruction : TransactionInstructionRecord)
    (found : DecodedEvidenceBatch) :
    CountsSeen (seen ++ [instruction]) {
      eventIndexes := decoding.eventIndexes.insert instruction.outerInstructionIndex
        (decoding.eventIndexes[instruction.outerInstructionIndex]?.getD 0 + 1)
      found } := by
  intro index
  rw [List.countP_append, List.countP_singleton, ← counts index]
  change ((decoding.eventIndexes.insert instruction.outerInstructionIndex
    (decoding.eventIndexes[instruction.outerInstructionIndex]?.getD 0 + 1))[index]?).getD 0 = _
  rw [Std.TreeMap.getElem?_insert]
  by_cases same : instruction.outerInstructionIndex = index
  · subst same
    simp
  · have other : compare instruction.outerInstructionIndex index ≠ .eq := by
      rw [ne_eq, Nat.compare_eq_eq]
      exact same
    simp [other, same]

theorem foldlM_decodeInstruction (instructions seen : List TransactionInstructionRecord)
    {decoding final : CpiDecoding} (counts : CountsSeen seen decoding)
    (folded : instructions.foldlM (decodeInstruction program batch) decoding = .ok final) :
    final.found = {
      events := decoding.found.events ++
        (numberInstructions batch seen instructions).filterMap (SelfInvocation.evidence program)
      quarantines := decoding.found.quarantines ++
        (numberInstructions batch seen instructions).filterMap
          (SelfInvocation.rejection program) } := by
  induction instructions generalizing decoding seen with
  | nil =>
      cases folded
      simp [numberInstructions]
  | cons instruction rest ih =>
      obtain ⟨next, stepped, later⟩ := foldlM_cons_eq_ok.mp folded
      unfold decodeInstruction at stepped
      dsimp only at stepped
      split at stepped
      · cases stepped
      · rename_i following incremented
        cases stepped
        have plusOne : following =
            decoding.eventIndexes[instruction.outerInstructionIndex]?.getD 0 + 1 := by
          unfold checkedAdd at incremented
          split at incremented
          · cases incremented
            rfl
          · cases incremented
        subst plusOne
        rw [ih (seen ++ [instruction]) (counts.insert instruction _) later, numberInstructions,
          ← counts instruction.outerInstructionIndex, DecodedEvidenceBatch.add_eq,
          List.filterMap_cons, List.filterMap_cons]
        simp only [SelfInvocation.evidence, SelfInvocation.rejection, SelfInvocation.decode]
        generalize decodeCpiEvent program.programId _ instruction.data = result
        cases evidenceOf instruction.data result <;>
          cases rejectionOf _ instruction.data result <;> simp

theorem decodeInstructions_found {final : CpiDecoding}
    (decodes : decodeInstructions program batch = .ok final) :
    final.found = {
      events := (selfInvocations program batch).filterMap (SelfInvocation.evidence program)
      quarantines :=
        (selfInvocations program batch).filterMap (SelfInvocation.rejection program) } := by
  have counts : CountsSeen [] { eventIndexes := ∅, found := { events := [], quarantines := [] } } := by
    intro index
    simp
  exact foldlM_decodeInstruction program batch _ [] counts decodes

end Instructions

section Places

/-- The places of what a selection keeps are the places of the selected items. -/
theorem places_filterMap {Item Result : Type} {itemPlace : Item → Nat × Nat}
    {resultPlace : Result → Nat × Nat} {select : Item → Option Result}
    (kept : ∀ item result, select item = some result → resultPlace result = itemPlace item)
    (items : List Item) : (items.filterMap select).map resultPlace =
      (items.filter fun item => (select item).isSome).map itemPlace := by
  induction items with
  | nil => rfl
  | cons item rest ih =>
      rw [List.filterMap_cons, List.filter_cons]
      cases selected : select item with
      | none => simpa using ih
      | some result => simp [ih, kept item result selected]

/-- Two selections that exclude each other keep distinct places distinct. -/
theorem nodup_places {Item First Second : Type} {itemPlace : Item → Nat × Nat}
    {firstPlace : First → Nat × Nat} {secondPlace : Second → Nat × Nat}
    {first : Item → Option First} {second : Item → Option Second} {items : List Item}
    (distinct : (items.map itemPlace).Nodup)
    (firstKept : ∀ item result, first item = some result → firstPlace result = itemPlace item)
    (secondKept : ∀ item result, second item = some result → secondPlace result = itemPlace item)
    (exclusive : ∀ item, first item = none ∨ second item = none) {chosen : List (Nat × Nat)}
    (once : chosen.Nodup) (among : chosen ⊆ (items.filterMap second).map secondPlace) :
    ((items.filterMap first).map firstPlace ++ chosen).Nodup := by
  rw [List.nodup_append]
  rw [places_filterMap firstKept]
  refine ⟨distinct.sublist (List.filter_sublist.map _), once, ?_⟩
  intro left leftMember right rightMember same
  obtain ⟨item, selected, rfl⟩ := List.mem_map.mp leftMember
  have other := among rightMember
  rw [places_filterMap secondKept] at other
  obtain ⟨otherItem, otherSelected, equal⟩ := List.mem_map.mp other
  obtain ⟨member, isFirst⟩ := List.mem_filter.mp selected
  obtain ⟨otherMember, isSecond⟩ := List.mem_filter.mp otherSelected
  have identical : item = otherItem :=
    List.inj_on_of_nodup_map distinct member otherMember (same.trans equal.symm)
  subst identical
  rcases exclusive item with none | none
  · rw [none] at isFirst
    cases isFirst
  · rw [none] at isSecond
    cases isSecond

theorem quarantineOf_coordinate {coordinate : ChainCoordinate} {rawEvidence : List UInt8}
    {error : DecodeError} {quarantine : QuarantinedEvidence}
    (quarantined : quarantineOf coordinate rawEvidence error = some quarantine) :
    quarantine.coordinate = coordinate := by
  unfold quarantineOf at quarantined
  split at quarantined
  · split_ifs at quarantined
    cases quarantined
    rfl
  · cases quarantined
    rfl

theorem rejectionOf_coordinate {coordinate : ChainCoordinate} {rawEvidence : List UInt8}
    {result : Except DecodeError DecodedPumpEvent} {quarantine : QuarantinedEvidence}
    (rejected : rejectionOf coordinate rawEvidence result = some quarantine) :
    quarantine.coordinate = coordinate := by
  cases result with
  | ok decoded => cases rejected
  | error error => exact quarantineOf_coordinate rejected

/-- Evidence is rejected or decoded. -/
theorem rejectionOf_exclusive (coordinate : ChainCoordinate) (rawEvidence : List UInt8)
    (result : Except DecodeError DecodedPumpEvent) :
    rejectionOf coordinate rawEvidence result = none ∨ evidenceOf rawEvidence result = none := by
  cases result with
  | ok decoded => exact .inl rfl
  | error error => exact .inr rfl

variable (program : PumpProgram)

theorem SelfInvocation.evidence_coordinate {invocation : SelfInvocation}
    {evidence : DecodedEvidence} (decodes : invocation.evidence program = some evidence) :
    evidence.decoded.coordinate = invocation.coordinate := by
  unfold SelfInvocation.evidence SelfInvocation.decode at decodes
  cases result : decodeCpiEvent program.programId invocation.coordinate invocation.data with
  | error error =>
      rw [result] at decodes
      cases decodes
  | ok decoded =>
      rw [result] at decodes
      cases decodes
      exact decodeCpiEvent_coordinate program result

variable (decodeBase64 : String → Option (List UInt8))

theorem recordRejection_coordinate {record : ScopedProgramData} {quarantine : QuarantinedEvidence}
    (rejected : recordRejection program decodeBase64 record = some quarantine) :
    quarantine.coordinate = record.coordinate := by
  unfold recordRejection at rejected
  split at rejected
  · cases rejected
    rfl
  · exact rejectionOf_coordinate rejected

theorem recordEvidence_decodes {record : ScopedProgramData} {evidence : DecodedEvidence}
    (decodes : recordEvidence program decodeBase64 record = some evidence) :
    decodeProgramDataBytes decodeBase64 record.log = .ok evidence.rawEvidence ∧
      decodeAnchorEvent program.programId record.coordinate evidence.rawEvidence =
        .ok evidence.decoded := by
  unfold recordEvidence at decodes
  split at decodes
  · cases decodes
  · rename_i rawEvidence bytes
    cases result : decodeAnchorEvent program.programId record.coordinate rawEvidence with
    | error error =>
        rw [result] at decodes
        cases decodes
    | ok decoded =>
        rw [result] at decodes
        cases decodes
        exact ⟨bytes, result⟩

theorem recordEvidence_coordinate {record : ScopedProgramData} {evidence : DecodedEvidence}
    (decodes : recordEvidence program decodeBase64 record = some evidence) :
    evidence.decoded.coordinate = record.coordinate := by
  obtain ⟨-, -, same, -⟩ :=
    decodeAnchorEvent_eq_ok.mp (recordEvidence_decodes program decodeBase64 decodes).2
  rw [same]

theorem recordRejection_exclusive (record : ScopedProgramData) :
    recordRejection program decodeBase64 record = none ∨
      recordEvidence program decodeBase64 record = none := by
  unfold recordRejection recordEvidence
  split
  · exact .inr rfl
  · exact rejectionOf_exclusive _ _ _

/-- The numbers of the self-invocations of an instruction start after those that were seen. -/
theorem numberInstructions_after (batch : BatchEvidence)
    (instructions seen : List TransactionInstructionRecord) {invocation : SelfInvocation}
    (member : invocation ∈ numberInstructions batch seen instructions) :
    (seen.countP fun earlier =>
      earlier.outerInstructionIndex == invocation.coordinate.instructionIndex) ≤
        invocation.coordinate.eventIndex := by
  induction instructions generalizing seen with
  | nil => cases member
  | cons instruction rest ih =>
      rcases List.mem_cons.mp member with rfl | later
      · exact le_refl _
      · have after := ih (seen ++ [instruction]) later
        rw [List.countP_append] at after
        omega

theorem numberInstructions_distinct (batch : BatchEvidence)
    (instructions seen : List TransactionInstructionRecord) :
    ((numberInstructions batch seen instructions).map fun invocation =>
      place invocation.coordinate).Nodup := by
  induction instructions generalizing seen with
  | nil => exact List.nodup_nil
  | cons instruction rest ih =>
      rw [numberInstructions, List.map_cons, List.nodup_cons]
      refine ⟨?_, ih _⟩
      intro member
      obtain ⟨invocation, later, same⟩ := List.mem_map.mp member
      have after := numberInstructions_after batch rest _ later
      obtain ⟨instructionIndex, eventIndex⟩ := Prod.mk.inj same
      rw [List.countP_append, instructionIndex, eventIndex] at after
      simp at after

/-- The records of a log have distinct places. -/
theorem scopedRecords_distinct {programId : String} {batch : BatchEvidence}
    {records : List ScopedProgramData}
    (scopes : scopeProgramDataLogs programId batch.slot batch.transactionIndex batch.signature
      batch.logMessages = .ok records) :
    (records.map fun record => place record.coordinate).Nodup := by
  have present : Text.isBlank batch.signature = false := by
    by_contra blank
    rw [Bool.not_eq_false] at blank
    unfold scopeProgramDataLogs at scopes
    rw [blank] at scopes
    cases scopes
  have increasing := scopeProgramDataLogs_increasing programId batch.slot batch.transactionIndex
    present scopes
  unfold List.Nodup
  rw [List.pairwise_map]
  refine increasing.imp ?_
  intro left right before same
  obtain ⟨instructionIndex, eventIndex⟩ := Prod.mk.inj same
  rcases before with lower | ⟨-, lower⟩ <;> omega

end Places

section Batch

variable (program : PumpProgram) (decodeBase64 : String → Option (List UInt8))
  (batch : BatchEvidence)

/-- The logs of the batch in the scope of the program. -/
def BatchEvidence.scopedLogs : Except LogScopeError (List ScopedProgramData) :=
  scopeProgramDataLogs program.programId batch.slot batch.transactionIndex batch.signature
    batch.logMessages

/-- The self-invocation repeats an event that the logs hold less often. -/
def SelfInvocation.IsSurplus (direct : List DecodedEvidence) (front : List SelfInvocation)
    (invocation : SelfInvocation) : Prop :=
  ∃ evidence, invocation.evidence program = some evidence ∧
    (direct.countP fun copy => corroborationKey copy = corroborationKey evidence) ≤
      (front.filterMap (SelfInvocation.evidence program)).countP fun copy =>
        corroborationKey copy = corroborationKey evidence

/-- The self-invocations that repeat an event too often. -/
def surplusInvocations (records : List ScopedProgramData) : List DecodedEvidence :=
  uncancelled corroborationKey
    ((records.filterMap (recordEvidence program decodeBase64)).map corroborationKey :
      Multiset (Nat × PumpEvent))
    ((selfInvocations program batch).filterMap (SelfInvocation.evidence program))

variable {program decodeBase64 batch}

/-- A batch with scoped logs keeps the events of the records and quarantines the rest. -/
theorem decodeBatchEvents_scoped {records : List ScopedProgramData} {decoded : DecodedEvidenceBatch}
    (scopes : batch.scopedLogs program = .ok records)
    (decodes : decodeBatchEvents decodeBase64 batch program = .ok decoded) : decoded = {
      events := records.filterMap (recordEvidence program decodeBase64)
      quarantines := (selfInvocations program batch).filterMap (SelfInvocation.rejection program) ++
        records.filterMap (recordRejection program decodeBase64) ++
        (surplusInvocations program decodeBase64 batch records).map unmatchedQuarantine } := by
  obtain ⟨cpi, found, events, quarantines⟩ :=
    decodeBatchEvents_eq_ok program decodeBase64 scopes decodes
  rw [decodeInstructions_found program batch found, foldl_decodeRecord, List.nil_append] at events
  rw [foldl_matchCpiEvent_quarantines, decodeInstructions_found program batch found,
    foldl_decodeRecord, free_replicate, events] at quarantines
  exact congrArg₂ DecodedEvidenceBatch.mk events quarantines

/-- A batch without scoped logs quarantines all of its logs as one. -/
theorem decodeBatchEvents_unscoped_eq {error : LogScopeError} {decoded : DecodedEvidenceBatch}
    (fails : batch.scopedLogs program = .error error)
    (decodes : decodeBatchEvents decodeBase64 batch program = .ok decoded) : decoded = {
      events := []
      quarantines := (selfInvocations program batch).filterMap (SelfInvocation.rejection program) ++
        [malformedLogScope batch error] } := by
  unfold BatchEvidence.scopedLogs at fails
  obtain ⟨cpi, found, returned⟩ := bind_eq_ok.mp decodes
  rw [fails] at returned
  cases returned
  rw [decodeInstructions_found program batch found]

/-- The surplus of self-invocations, read off the instructions. -/
theorem mem_surplusInvocations {records : List ScopedProgramData} {evidence : DecodedEvidence} :
    evidence ∈ surplusInvocations program decodeBase64 batch records ↔
      ∃ front invocation back, selfInvocations program batch = front ++ invocation :: back ∧
        invocation.evidence program = some evidence ∧
        invocation.IsSurplus program (records.filterMap (recordEvidence program decodeBase64))
          front := by
  unfold surplusInvocations
  rw [mem_uncancelled]
  constructor
  · intro ⟨front, back, split, counted⟩
    obtain ⟨before, rest, whole, same, tail⟩ := List.filterMap_eq_append_iff.mp split
    obtain ⟨skipped, invocation, after, shape, dropped, decodes, -⟩ :=
      List.filterMap_eq_cons_iff.mp tail
    refine ⟨before ++ skipped, invocation, after, ?_, decodes, evidence, decodes, ?_⟩
    · rw [whole, shape, List.append_assoc]
    · have none : skipped.filterMap (SelfInvocation.evidence program) = [] :=
        List.filterMap_eq_nil_iff.mpr dropped
      rw [List.filterMap_append, same, none, List.append_nil]
      rw [count_map_key] at counted
      exact counted
  · intro ⟨front, invocation, back, whole, decodes, other, otherDecodes, counted⟩
    rw [decodes] at otherDecodes
    cases otherDecodes
    refine ⟨front.filterMap (SelfInvocation.evidence program),
      back.filterMap (SelfInvocation.evidence program), ?_, ?_⟩
    · rw [whole, List.filterMap_append, List.filterMap_cons, decodes]
    · rw [count_map_key]
      exact counted

variable (program decodeBase64 batch)

/-- No place is taken both by a self-invocation that is rejected and by rejected evidence of the
logs. The given places are those of the events that cannot be normalized. -/
def PlacesApart (failed : List (Nat × Nat)) : Prop :=
  match batch.scopedLogs program with
  | .error _ => ∀ invocation ∈ selfInvocations program batch,
      (invocation.rejection program).isSome = true → place invocation.coordinate ≠ (0, 0)
  | .ok records => ∀ front invocation back,
      selfInvocations program batch = front ++ invocation :: back →
      (invocation.rejection program).isSome = true ∨ invocation.IsSurplus program
        (records.filterMap (recordEvidence program decodeBase64)) front →
      ∀ record ∈ records, (recordRejection program decodeBase64 record).isSome = true ∨
        place record.coordinate ∈ failed →
      place record.coordinate ≠ place invocation.coordinate

/-- The places of the rejected self-invocations are distinct. -/
theorem invocations_distinct (records : List ScopedProgramData) :
    ((((selfInvocations program batch).filterMap (SelfInvocation.rejection program)).map
        fun quarantine => place quarantine.coordinate) ++
      (surplusInvocations program decodeBase64 batch records).map fun evidence =>
        place evidence.decoded.coordinate).Nodup := by
  have distinct := numberInstructions_distinct batch
    (batch.instructions.filter (isEventInstruction program)) []
  have kept : ∀ (invocation : SelfInvocation) (evidence : DecodedEvidence),
      invocation.evidence program = some evidence →
        place evidence.decoded.coordinate = place invocation.coordinate :=
    fun _ _ decodes => congrArg place (SelfInvocation.evidence_coordinate program decodes)
  have sublist : ((surplusInvocations program decodeBase64 batch records).map fun evidence =>
      place evidence.decoded.coordinate).Sublist (((selfInvocations program batch).filterMap
        (SelfInvocation.evidence program)).map fun evidence => place evidence.decoded.coordinate) :=
    (uncancelled_sublist _ _ _).map _
  refine nodup_places distinct ?_ kept ?_ ?_ sublist.subset
  · exact fun _ _ rejected => congrArg place (rejectionOf_coordinate rejected)
  · exact fun _ => rejectionOf_exclusive _ _ _
  · refine List.Nodup.sublist sublist ?_
    rw [places_filterMap kept]
    exact distinct.sublist (List.filter_sublist.map _)

variable {program decodeBase64 batch}

/-- The place of a rejected self-invocation, read off the instructions. -/
theorem mem_invocationPlaces {records : List ScopedProgramData} {taken : Nat × Nat} :
    taken ∈ (((selfInvocations program batch).filterMap (SelfInvocation.rejection program)).map
        fun quarantine => place quarantine.coordinate) ++
      ((surplusInvocations program decodeBase64 batch records).map fun evidence =>
        place evidence.decoded.coordinate) ↔
    ∃ front invocation back, selfInvocations program batch = front ++ invocation :: back ∧
      ((invocation.rejection program).isSome = true ∨ invocation.IsSurplus program
        (records.filterMap (recordEvidence program decodeBase64)) front) ∧
      place invocation.coordinate = taken := by
  rw [List.mem_append, List.mem_map, List.mem_map]
  constructor
  · intro member
    rcases member with ⟨quarantine, member, rfl⟩ | ⟨evidence, member, rfl⟩
    · obtain ⟨invocation, inside, rejected⟩ := List.mem_filterMap.mp member
      obtain ⟨front, back, split⟩ := List.append_of_mem inside
      refine ⟨front, invocation, back, split, .inl (Option.isSome_of_mem rejected), ?_⟩
      rw [rejectionOf_coordinate rejected]
    · obtain ⟨front, invocation, back, split, decodes, surplus⟩ :=
        mem_surplusInvocations.mp member
      refine ⟨front, invocation, back, split, .inr surplus, ?_⟩
      rw [SelfInvocation.evidence_coordinate program decodes]
  · intro ⟨front, invocation, back, split, rejected, same⟩
    rcases rejected with undecoded | surplus
    · obtain ⟨quarantine, rejected⟩ := Option.isSome_iff_exists.mp undecoded
      refine .inl ⟨quarantine, List.mem_filterMap.mpr ⟨invocation, ?_, rejected⟩, ?_⟩
      · rw [split]
        exact List.mem_append_right _ List.mem_cons_self
      · rw [rejectionOf_coordinate rejected]
        exact same
    · have repeated := surplus
      obtain ⟨evidence, decodes, -⟩ := surplus
      refine .inr ⟨evidence, mem_surplusInvocations.mpr
        ⟨front, invocation, back, split, decodes, repeated⟩, ?_⟩
      rw [SelfInvocation.evidence_coordinate program decodes]
      exact same

/-- The places of the rejected records and of the events that cannot be normalized are distinct. -/
theorem recordPlaces_distinct {records : List ScopedProgramData} {failed : List (Nat × Nat)}
    (scopes : batch.scopedLogs program = .ok records) (once : failed.Nodup)
    (among : failed ⊆ (records.filterMap (recordEvidence program decodeBase64)).map fun event =>
      place event.decoded.coordinate) :
    ((records.filterMap (recordRejection program decodeBase64)).map (fun quarantine =>
      place quarantine.coordinate) ++ failed).Nodup := by
  refine nodup_places (scopedRecords_distinct scopes) ?_ ?_ ?_ once among
  · exact fun _ _ rejected =>
      congrArg place (recordRejection_coordinate program decodeBase64 rejected)
  · exact fun _ _ decodes => congrArg place (recordEvidence_coordinate program decodeBase64 decodes)
  · exact recordRejection_exclusive program decodeBase64

/-- The place of rejected evidence of the logs, read off the records. -/
theorem mem_recordPlaces {records : List ScopedProgramData} {failed : List (Nat × Nat)}
    (among : failed ⊆ (records.filterMap (recordEvidence program decodeBase64)).map fun event =>
      place event.decoded.coordinate) {taken : Nat × Nat} :
    taken ∈ (records.filterMap (recordRejection program decodeBase64)).map (fun quarantine =>
      place quarantine.coordinate) ++ failed ↔
    ∃ record ∈ records, ((recordRejection program decodeBase64 record).isSome = true ∨
      place record.coordinate ∈ failed) ∧ place record.coordinate = taken := by
  rw [List.mem_append, List.mem_map]
  constructor
  · intro member
    rcases member with ⟨quarantine, member, rfl⟩ | member
    · obtain ⟨record, inside, rejected⟩ := List.mem_filterMap.mp member
      refine ⟨record, inside, .inl (Option.isSome_of_mem rejected), ?_⟩
      rw [recordRejection_coordinate program decodeBase64 rejected]
    · obtain ⟨event, decoded, rfl⟩ := List.mem_map.mp (among member)
      obtain ⟨record, inside, decodes⟩ := List.mem_filterMap.mp decoded
      rw [recordEvidence_coordinate program decodeBase64 decodes] at member ⊢
      exact ⟨record, inside, .inr member, rfl⟩
  · intro ⟨record, inside, refused, same⟩
    rcases refused with undecoded | member
    · obtain ⟨quarantine, rejected⟩ := Option.isSome_iff_exists.mp undecoded
      refine .inl ⟨quarantine, List.mem_filterMap.mpr ⟨record, inside, rejected⟩, ?_⟩
      rw [recordRejection_coordinate program decodeBase64 rejected]
      exact same
    · rw [same] at member
      exact .inr member

/-- The places of the quarantines and of the events that cannot be normalized are distinct exactly
when the two counters stay apart. -/
theorem places_nodup_iff {decoded : DecodedEvidenceBatch} {failed : List (Nat × Nat)}
    (decodes : decodeBatchEvents decodeBase64 batch program = .ok decoded)
    (once : failed.Nodup)
    (among : failed ⊆ decoded.events.map fun event => place event.decoded.coordinate) :
    (decoded.quarantines.map (fun quarantine => place quarantine.coordinate) ++ failed).Nodup ↔
      PlacesApart program decodeBase64 batch failed := by
  unfold PlacesApart
  cases scopes : batch.scopedLogs program with
  | error error =>
      rw [decodeBatchEvents_unscoped_eq scopes decodes] at among ⊢
      rw [List.subset_nil.mp among, List.append_nil, List.map_append, List.nodup_append]
      have rejected := (List.nodup_append.mp
        (invocations_distinct program decodeBase64 batch [])).1
      constructor
      · intro ⟨_, _, apart⟩ invocation member undecoded
        obtain ⟨quarantine, rejection⟩ := Option.isSome_iff_exists.mp undecoded
        refine apart _ (List.mem_map.mpr ⟨quarantine, List.mem_filterMap.mpr
          ⟨invocation, member, rejection⟩, ?_⟩) _ List.mem_cons_self
        rw [rejectionOf_coordinate rejection]
      · intro apart
        refine ⟨rejected, List.nodup_singleton _, ?_⟩
        intro taken member other last
        obtain ⟨quarantine, inside, rfl⟩ := List.mem_map.mp member
        obtain ⟨invocation, present, rejection⟩ := List.mem_filterMap.mp inside
        rw [List.mem_singleton.mp last, rejectionOf_coordinate rejection]
        exact apart invocation present (Option.isSome_of_mem rejection)
  | ok records =>
      rw [decodeBatchEvents_scoped scopes decodes] at among ⊢
      have invocations := invocations_distinct program decodeBase64 batch records
      have logs := recordPlaces_distinct scopes once among
      have grouped : ∀ first second third fourth : List (Nat × Nat),
          (first ++ second ++ third ++ fourth).Nodup ↔
            ((first ++ third) ++ (second ++ fourth)).Nodup := by
        intro first second third fourth
        refine List.Perm.nodup_iff ?_
        have right : (first ++ third) ++ (second ++ fourth) =
            first ++ (third ++ second) ++ fourth := by
          simp only [List.append_assoc]
        rw [List.append_assoc first second third, right]
        exact (List.perm_append_comm.append_left first).append_right fourth
      have unmatched : (surplusInvocations program decodeBase64 batch records).map
          ((fun quarantine => place quarantine.coordinate) ∘ unmatchedQuarantine) =
            (surplusInvocations program decodeBase64 batch records).map fun evidence =>
              place evidence.decoded.coordinate := rfl
      rw [List.map_append, List.map_append, List.map_map, unmatched, grouped, List.nodup_append]
      constructor
      · intro ⟨_, _, apart⟩ front invocation back split rejected record member refused
        refine Ne.symm (apart _ (mem_invocationPlaces.mpr ⟨front, invocation, back, split, rejected,
          rfl⟩) _ ((mem_recordPlaces among).mpr ⟨record, member, refused, rfl⟩))
      · intro apart
        refine ⟨invocations, logs, ?_⟩
        intro taken member other refused
        obtain ⟨front, invocation, back, split, rejected, rfl⟩ := mem_invocationPlaces.mp member
        obtain ⟨record, present, reason, rfl⟩ := (mem_recordPlaces among).mp refused
        exact Ne.symm (apart front invocation back split rejected record present reason)

end Batch

end Soldisco.Pipeline

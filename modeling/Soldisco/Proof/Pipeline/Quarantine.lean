import Soldisco.Proof.Persistence.Token
import Soldisco.Proof.Pipeline.Rejections
import Soldisco.Proof.Pipeline.Targets

/-
This file proves when the rejected evidence of one batch can be read back piece by piece.
-/

namespace Soldisco.Pipeline
open Accumulation Domain MachineInteger SourcePump Window
open Intake hiding PumpEvent
open Persistence (Database Observation PersistenceError require_eq_ok)

/-- A piece of rejected evidence with the program that it comes from. -/
structure RejectedEvidence where
  program : PumpProgram
  evidence : QuarantinedEvidence
deriving DecidableEq, Repr

section Table

variable (config : ProcessingConfig)

/-- The record that is written for rejected evidence. -/
def RejectedEvidence.record (rejected : RejectedEvidence) : IntakeQuarantineRecord where
  key := {
    network := config.network
    program := rejected.program.sourceProgram
    coordinate := rejected.evidence.coordinate }
  decoderVersion
  reasonCode := rejected.evidence.reasonCode
  reasonDetail := rejected.evidence.reasonDetail
  evidenceBase64 := encodeQuarantineEvidence config.encoding rejected.evidence.rawEvidence

/-- The row of the evidence, given the row that was there before. -/
def RejectedEvidence.row (rejected : RejectedEvidence) : Option QuarantineRow → QuarantineRow
  | some before => before.replay (rejected.record config)
  | none => { record := rejected.record config, occurrences := 1 }

def RejectedEvidence.key (rejected : RejectedEvidence) : QuarantineKey :=
  quarantineKey (rejected.record config).key

/-- Rejected evidence is written under its key. -/
def writeRejected (quarantine : Table QuarantineKey QuarantineRow) (rejected : RejectedEvidence) :
    Table QuarantineKey QuarantineRow :=
  quarantine.insert (rejected.key config) (rejected.row config (quarantine.lookup
    (rejected.key config)))

theorem lookup_writeRejected (quarantine : Table QuarantineKey QuarantineRow)
    (rejected : RejectedEvidence) (key : QuarantineKey) :
    (writeRejected config quarantine rejected).lookup key =
      if rejected.key config = key then some (rejected.row config (quarantine.lookup key))
      else quarantine.lookup key := by
  unfold writeRejected
  split
  · rename_i same
    rw [same, AList.lookup_insert]
  · rename_i other
    rw [AList.lookup_insert_ne (Ne.symm other)]

/-- The row of a key depends on the evidence of that key alone. -/
theorem lookup_foldl_writeRejected (rejections : List RejectedEvidence)
    (quarantine : Table QuarantineKey QuarantineRow) (key : QuarantineKey) :
    (rejections.foldl (writeRejected config) quarantine).lookup key =
      (rejections.filter fun rejected => rejected.key config = key).foldl
        (fun row rejected => some (rejected.row config row)) (quarantine.lookup key) := by
  induction rejections generalizing quarantine with
  | nil => rfl
  | cons rejected rest ih =>
      rw [List.foldl_cons, ih, lookup_writeRejected, List.filter_cons]
      by_cases same : rejected.key config = key
      · rw [if_pos same, if_pos (decide_eq_true same), List.foldl_cons]
      · rw [if_neg same, if_neg (by simpa using same)]

/-- The coordinate of the evidence can be asked for. -/
structure IsLoadable (evidence : QuarantinedEvidence) : Prop where
  signature : Text.isBlank evidence.coordinate.signature = false
  slot : ∃ slot, Persistence.toI64 evidence.coordinate.slot "quarantine slot" = .ok slot
  text : bindText evidence.coordinate.signature = .ok ()

theorem recordPipelineQuarantine_eq_ok {program : PumpProgram} {state next : ProcessorState}
    {evidence : QuarantinedEvidence}
    (accepted : recordPipelineQuarantine config program.sourceProgram state evidence = .ok next) :
    next = { state with
        quarantine := writeRejected config state.quarantine { program, evidence } } ∧
      IsLoadable evidence := by
  unfold recordPipelineQuarantine recordIntakeQuarantine validateRecord at accepted
  simp only [bind_eq_ok, mapError_eq_ok, Persistence.requireNonEmpty_eq_ok, exists_const] at accepted
  obtain ⟨⟨_, quarantine⟩, ⟨_, ⟨signature, _⟩, slot, fits, _, _, _, text, _, _, _, _, _, _,
    written⟩, done⟩ := accepted
  cases written
  cases done
  exact ⟨rfl, signature, ⟨slot, fits⟩, text⟩

/-- Recorded evidence is written in order. -/
theorem foldlM_recordPipelineQuarantine {program : PumpProgram}
    {evidence : List QuarantinedEvidence} {state final : ProcessorState}
    (folded : evidence.foldlM (recordPipelineQuarantine config program.sourceProgram) state =
      .ok final) :
    final = { state with quarantine := (evidence.map fun evidence =>
        RejectedEvidence.mk program evidence).foldl (writeRejected config) state.quarantine } ∧
      ∀ piece ∈ evidence, IsLoadable piece := by
  induction evidence generalizing state with
  | nil =>
      cases folded
      exact ⟨rfl, by simp⟩
  | cons piece rest ih =>
      obtain ⟨next, recorded, later⟩ := foldlM_cons_eq_ok.mp folded
      obtain ⟨rfl, loadable⟩ := recordPipelineQuarantine_eq_ok config recorded
      obtain ⟨written, others⟩ := ih later
      refine ⟨written, ?_⟩
      intro other member
      rcases List.mem_cons.mp member with rfl | inside
      · exact loadable
      · exact others other inside

end Table

section Processing

variable {config : ProcessingConfig} {batch : LoggedBatch}

/-- Storing a normalized event quarantines nothing. -/
theorem storeObservation_quarantine {state next : ProcessorState} {event : DecodedEvidence}
    {normalized : NormalizedPumpEvent} {matching : Option ObservationWindowToken}
    {stored : Option Bool}
    (accepted : storeObservation config state event normalized matching = .ok (stored, next)) :
    next.quarantine = state.quarantine := by
  unfold storeObservation at accepted
  split at accepted
  · unfold storeDiscovery at accepted
    split at accepted
    · cases accepted
    · simp only [bind_eq_ok] at accepted
      obtain ⟨qualification, -, ⟨opened, database⟩, -, accepted⟩ := accepted
      dsimp only at accepted
      split at accepted
      · cases accepted
        rfl
      · split at accepted
        · cases accepted
        · split at accepted
          · cases accepted
          · cases accepted
            rfl
  · unfold storeActivityEvent at accepted
    simp only [bind_eq_ok] at accepted
    obtain ⟨⟨_, _⟩, ⟨⟨isNew, database⟩, -, inner⟩, done⟩ := accepted
    cases inner
    cases done
    rfl

theorem registerPool_quarantine {state next : ProcessorState} {coordinate : ChainCoordinate}
    {discovered : Option MarketIdentity} {event : PumpEvent}
    (accepted : registerPool config state coordinate discovered event = .ok next) :
    next.quarantine = state.quarantine := by
  unfold registerPool at accepted
  split at accepted
  · simp only [bind_eq_ok] at accepted
    obtain ⟨⟨_, pools⟩, -, accepted⟩ := accepted
    split at accepted
    · cases accepted
    · cases accepted
      rfl
  · cases accepted
    rfl

theorem registerDiscovered_quarantine {state next : ProcessorState}
    {discovered : Option MarketIdentity}
    (accepted : registerDiscovered state discovered = .ok next) :
    next.quarantine = state.quarantine := by
  unfold registerDiscovered at accepted
  split at accepted
  · cases accepted
    rfl
  · simp only [bind_eq_ok] at accepted
    obtain ⟨markets, -, done⟩ := accepted
    cases done
    rfl

theorem storeNormalized_quarantine {processing next : BatchProcessing} {event : DecodedEvidence}
    {normalized : NormalizedPumpEvent}
    (accepted : storeNormalized config batch processing event normalized = .ok next) :
    next.state.quarantine = processing.state.quarantine := by
  unfold storeNormalized at accepted
  simp only [bind_eq_ok] at accepted
  obtain ⟨⟨stored, state⟩, storing, accepted⟩ := accepted
  have kept := storeObservation_quarantine storing
  split at accepted
  · cases accepted
    exact kept
  · simp only [bind_eq_ok] at accepted
    obtain ⟨pooled, pooling, registered, registering, done⟩ := accepted
    cases done
    have retired : (retireMarket registered event.decoded.event).quarantine =
        registered.quarantine := by
      unfold retireMarket
      split <;> rfl
    exact retired.trans ((registerDiscovered_quarantine registering).trans
      ((registerPool_quarantine pooling).trans kept))

/-- The quarantine of a selected event that cannot be normalized. -/
def eventRejection (config : ProcessingConfig) (batch : LoggedBatch)
    (processing : BatchProcessing) (event : DecodedEvidence) : Option QuarantinedEvidence :=
  if !batch.selects config processing.state.windows event.decoded.event then none
  else
    match normalizePumpEvent config.encoding event.decoded config.network config.commitment
      batch.receivedTimeUnixMs event.rawEvidence processing.state.markets with
    | .ok _ => none
    | .error error => (quarantineReason error).map fun reasonCode => {
        coordinate := event.decoded.coordinate
        reasonCode
        reasonDetail := displayNormalizationError error
        rawEvidence := event.rawEvidence }

/-- The rejected events of a run of the loop, up to its first error. -/
def normalizationFailures (config : ProcessingConfig) (batch : LoggedBatch) :
    BatchProcessing → List DecodedEvidence → List RejectedEvidence
  | _, [] => []
  | processing, event :: rest =>
      match processEvent config batch processing event with
      | .error _ => []
      | .ok next => ((eventRejection config batch processing event).toList.map fun evidence =>
            RejectedEvidence.mk event.decoded.program evidence) ++
          normalizationFailures config batch next rest

theorem processEvent_quarantine {processing next : BatchProcessing} {event : DecodedEvidence}
    (accepted : processEvent config batch processing event = .ok next) :
    next.state.quarantine = ((eventRejection config batch processing event).toList.map fun evidence =>
        RejectedEvidence.mk event.decoded.program evidence).foldl (writeRejected config)
          processing.state.quarantine ∧
      ∀ piece ∈ eventRejection config batch processing event, IsLoadable piece := by
  unfold processEvent at accepted
  unfold eventRejection
  split at accepted
  · rename_i unselected
    cases accepted
    rw [if_pos unselected]
    exact ⟨rfl, by simp⟩
  · rename_i selected
    rw [if_neg selected]
    dsimp only at accepted
    cases normalizes : normalizePumpEvent config.encoding event.decoded config.network
        config.commitment batch.receivedTimeUnixMs event.rawEvidence processing.state.markets with
    | ok normalized =>
        rw [normalizes] at accepted
        dsimp only at accepted
        have kept := storeNormalized_quarantine accepted
        exact ⟨kept, by simp⟩
    | error error =>
        rw [normalizes] at accepted
        dsimp only at accepted
        split at accepted
        · cases accepted
        · rename_i reasonCode reason
          rw [bind_eq_ok] at accepted
          obtain ⟨state, recorded, done⟩ := accepted
          cases done
          obtain ⟨rfl, loadable⟩ := recordPipelineQuarantine_eq_ok config recorded
          simp only [reason, Option.map_some]
          refine ⟨rfl, ?_⟩
          intro piece same
          cases same
          exact loadable

theorem foldlM_processEvent_quarantine {events : List DecodedEvidence}
    {processing final : BatchProcessing}
    (folded : events.foldlM (processEvent config batch) processing = .ok final) :
    final.state.quarantine = (normalizationFailures config batch processing events).foldl
        (writeRejected config) processing.state.quarantine ∧
      ∀ rejected ∈ normalizationFailures config batch processing events,
        IsLoadable rejected.evidence := by
  induction events generalizing processing with
  | nil =>
      cases folded
      exact ⟨rfl, by simp [normalizationFailures]⟩
  | cons event rest ih =>
      obtain ⟨next, stepped, later⟩ := foldlM_cons_eq_ok.mp folded
      obtain ⟨written, loadable⟩ := processEvent_quarantine stepped
      obtain ⟨rewritten, others⟩ := ih later
      rw [normalizationFailures, stepped]
      dsimp only
      rw [List.foldl_append, ← written]
      refine ⟨rewritten, ?_⟩
      intro rejected member
      rcases List.mem_append.mp member with here | after
      · obtain ⟨piece, inside, rfl⟩ := List.mem_map.mp here
        exact loadable piece (Option.mem_toList.mp inside)
      · exact others rejected after

end Processing

section Batch

/-- The loop state before the first program is decoded. -/
def initialProcessing (state : ProcessorState) (batch : LoggedBatch) : BatchProcessing :=
  { state, inserted := 0, complete := !batch.transactionError, selectedEvents := 0 }

/-- The events that the processing of a batch records as rejected. -/
def batchFailures (config : ProcessingConfig) (state : ProcessorState) (batch : LoggedBatch) :
    List RejectedEvidence :=
  if batch.transactionError then []
  else
    match [PumpProgram.pump, .pumpSwap].foldlM (decodeProgram config batch)
      (initialProcessing state batch, []) with
    | .ok (processing, events) =>
        normalizationFailures config batch processing (orderedEvidence events)
    | .error _ => []

/-- The rejected events of one program. -/
def failuresOf (config : ProcessingConfig) (state : ProcessorState) (batch : LoggedBatch)
    (program : PumpProgram) : List QuarantinedEvidence :=
  ((batchFailures config state batch).filter fun rejected => rejected.program = program).map
    RejectedEvidence.evidence

/-- All rejected evidence of one program: what does not decode and what cannot be normalized. -/
def rejectionsOf (config : ProcessingConfig) (state : ProcessorState) (batch : LoggedBatch)
    (program : PumpProgram) (decoded : DecodedEvidenceBatch) : List QuarantinedEvidence :=
  decoded.quarantines ++ failuresOf config state batch program

variable {config : ProcessingConfig} {state : ProcessorState} {batch : LoggedBatch}

/-- Both programs decode, and their quarantines are written. -/
theorem decodePrograms_eq_ok {processing final : BatchProcessing} {events : List DecodedEvidence}
    (decodes : [PumpProgram.pump, .pumpSwap].foldlM (decodeProgram config batch) (processing, []) =
      .ok (final, events)) :
    ∃ pump pumpSwap,
      decodeBatchEvents config.encoding.decodeBase64 batch.evidence .pump = .ok pump ∧
      decodeBatchEvents config.encoding.decodeBase64 batch.evidence .pumpSwap = .ok pumpSwap ∧
      events = pump.events ++ pumpSwap.events ∧
      final.state.quarantine = ((pump.quarantines.map fun evidence =>
          RejectedEvidence.mk .pump evidence) ++ pumpSwap.quarantines.map fun evidence =>
          RejectedEvidence.mk .pumpSwap evidence).foldl (writeRejected config)
            processing.state.quarantine ∧
      ∀ piece ∈ pump.quarantines ++ pumpSwap.quarantines, IsLoadable piece := by
  obtain ⟨middle, first, rest⟩ := foldlM_cons_eq_ok.mp decodes
  obtain ⟨last, second, done⟩ := foldlM_cons_eq_ok.mp rest
  cases done
  unfold decodeProgram at first second
  simp only [bind_eq_ok, mapError_eq_ok] at first second
  obtain ⟨pump, pumpDecodes, pumpState, pumpRecorded, pumpDone⟩ := first
  cases pumpDone
  obtain ⟨pumpSwap, swapDecodes, swapState, swapRecorded, swapDone⟩ := second
  cases swapDone
  obtain ⟨rfl, pumpLoadable⟩ := foldlM_recordPipelineQuarantine config pumpRecorded
  obtain ⟨rfl, swapLoadable⟩ := foldlM_recordPipelineQuarantine config swapRecorded
  refine ⟨pump, pumpSwap, pumpDecodes, swapDecodes, rfl, ?_, ?_⟩
  · rw [List.foldl_append]
  · intro piece member
    rcases List.mem_append.mp member with before | after
    · exact pumpLoadable piece before
    · exact swapLoadable piece after

/-- The events of a program carry the program. -/
theorem decodeBatchEvents_program {decodeBase64 : String → Option (List UInt8)}
    {evidence : BatchEvidence} {program : PumpProgram} {decoded : DecodedEvidenceBatch}
    (decodes : decodeBatchEvents decodeBase64 evidence program = .ok decoded)
    {event : DecodedEvidence} (member : event ∈ decoded.events) :
    event.decoded.program = program := by
  cases scopes : evidence.scopedLogs program with
  | error error =>
      rw [decodeBatchEvents_unscoped_eq scopes decodes] at member
      cases member
  | ok records =>
      rw [decodeBatchEvents_scoped scopes decodes] at member
      obtain ⟨record, -, reads⟩ := List.mem_filterMap.mp member
      obtain ⟨-, accepted⟩ := recordEvidence_decodes program decodeBase64 reads
      obtain ⟨supported, -, same, -⟩ := decodeAnchorEvent_eq_ok.mp accepted
      rw [supportedProgram_programId] at supported
      rw [same]
      exact (Option.some.inj supported).symm

/-- The events of a program have distinct places. -/
theorem decodeBatchEvents_distinct {decodeBase64 : String → Option (List UInt8)}
    {evidence : BatchEvidence} {program : PumpProgram} {decoded : DecodedEvidenceBatch}
    (decodes : decodeBatchEvents decodeBase64 evidence program = .ok decoded) :
    (decoded.events.map fun event => place event.decoded.coordinate).Nodup := by
  cases scopes : evidence.scopedLogs program with
  | error error =>
      rw [decodeBatchEvents_unscoped_eq scopes decodes]
      exact List.nodup_nil
  | ok records =>
      rw [decodeBatchEvents_scoped scopes decodes]
      dsimp only
      rw [places_filterMap fun _ _ reads =>
        congrArg place (recordEvidence_coordinate program decodeBase64 reads)]
      exact (scopedRecords_distinct scopes).sublist (List.filter_sublist.map _)

/-- The rejected events are some of the events, in their order. -/
theorem normalizationFailures_sublist (config : ProcessingConfig) (batch : LoggedBatch)
    (processing : BatchProcessing) (events : List DecodedEvidence) :
    ((normalizationFailures config batch processing events).map fun rejected =>
      (rejected.program, place rejected.evidence.coordinate)).Sublist
      (events.map fun event => (event.decoded.program, place event.decoded.coordinate)) := by
  induction events generalizing processing with
  | nil => exact .slnil
  | cons event rest ih =>
      rw [normalizationFailures, List.map_cons]
      cases processEvent config batch processing event with
      | error error => exact List.nil_sublist _
      | ok next =>
          dsimp only
          rw [List.map_append]
          cases rejected : eventRejection config batch processing event with
          | none => exact (ih next).cons _
          | some evidence =>
              have same : evidence.coordinate = event.decoded.coordinate := by
                unfold eventRejection at rejected
                split at rejected
                · cases rejected
                · split at rejected
                  · cases rejected
                  · obtain ⟨reasonCode, -, rfl⟩ := Option.map_eq_some_iff.mp rejected
                    rfl
              simp only [Option.toList_some, List.map_cons, List.map_nil, List.cons_append,
                List.nil_append, same]
              exact (ih next).cons_cons _

/-- The events of both programs, taken apart again. -/
theorem filter_events {decodeBase64 : String → Option (List UInt8)} {evidence : BatchEvidence}
    {pump pumpSwap decoded : DecodedEvidenceBatch} {program : PumpProgram}
    (pumpDecodes : decodeBatchEvents decodeBase64 evidence .pump = .ok pump)
    (swapDecodes : decodeBatchEvents decodeBase64 evidence .pumpSwap = .ok pumpSwap)
    (decodes : decodeBatchEvents decodeBase64 evidence program = .ok decoded) :
    ((pump.events ++ pumpSwap.events).filter fun event => event.decoded.program = program) =
      decoded.events := by
  rw [List.filter_append]
  cases program with
  | pump =>
      rw [pumpDecodes] at decodes
      cases decodes
      have own : (pump.events.filter fun event => event.decoded.program = .pump) = pump.events :=
        List.filter_eq_self.mpr fun event member =>
          decide_eq_true (decodeBatchEvents_program pumpDecodes member)
      have other : (pumpSwap.events.filter fun event => event.decoded.program = .pump) = [] := by
        apply List.filter_eq_nil_iff.mpr
        intro event member
        rw [decodeBatchEvents_program swapDecodes member]
        decide
      rw [own, other, List.append_nil]
  | pumpSwap =>
      rw [swapDecodes] at decodes
      cases decodes
      have own : (pumpSwap.events.filter fun event => event.decoded.program = .pumpSwap) =
          pumpSwap.events :=
        List.filter_eq_self.mpr fun event member =>
          decide_eq_true (decodeBatchEvents_program swapDecodes member)
      have other : (pump.events.filter fun event => event.decoded.program = .pumpSwap) = [] := by
        apply List.filter_eq_nil_iff.mpr
        intro event member
        rw [decodeBatchEvents_program pumpDecodes member]
        decide
      rw [own, other, List.nil_append]

/-- The places of the rejected events of a program are distinct places of its events. -/
theorem failuresOf_places (config : ProcessingConfig) (state : ProcessorState)
    (batch : LoggedBatch) {program : PumpProgram} {decoded : DecodedEvidenceBatch}
    (decodes : decodeBatchEvents config.encoding.decodeBase64 batch.evidence program =
      .ok decoded) :
    ((failuresOf config state batch program).map fun rejected =>
        place rejected.coordinate).Nodup ∧
      ((failuresOf config state batch program).map fun rejected => place rejected.coordinate) ⊆
        decoded.events.map fun event => place event.decoded.coordinate := by
  unfold failuresOf batchFailures
  split
  · exact ⟨List.nodup_nil, List.nil_subset _⟩
  · cases decoding : [PumpProgram.pump, .pumpSwap].foldlM (decodeProgram config batch)
        (initialProcessing state batch, []) with
    | error error => exact ⟨List.nodup_nil, List.nil_subset _⟩
    | ok result =>
        obtain ⟨processing, events⟩ := result
        obtain ⟨pump, pumpSwap, pumpDecodes, swapDecodes, rfl, -⟩ := decodePrograms_eq_ok decoding
        dsimp only
        -- The rejected events of the program are some of its events, and sorting moves these only.
        have kept := ((normalizationFailures_sublist config batch processing
          (orderedEvidence (pump.events ++ pumpSwap.events))).filter fun pair =>
            pair.1 = program).map Prod.snd
        simp only [List.filter_map, List.map_map, Function.comp_def] at kept
        have ordered : ((orderedEvidence (pump.events ++ pumpSwap.events)).filter fun event =>
            event.decoded.program = program).Perm decoded.events := by
          rw [← filter_events pumpDecodes swapDecodes decodes]
          exact (List.perm_insertionSort _ _).filter _
        have places := ordered.map fun event => place event.decoded.coordinate
        rw [List.map_map]
        constructor
        · exact (places.nodup_iff.mpr (decodeBatchEvents_distinct decodes)).sublist kept
        · exact List.Subset.trans kept.subset places.subset

/-- The rejected evidence of both programs in the order in which it is written. -/
def writtenRejections (config : ProcessingConfig) (state : ProcessorState) (batch : LoggedBatch)
    (pump pumpSwap : DecodedEvidenceBatch) : List RejectedEvidence :=
  ((pump.quarantines.map fun evidence => RejectedEvidence.mk .pump evidence) ++
    pumpSwap.quarantines.map fun evidence => RejectedEvidence.mk .pumpSwap evidence) ++
      batchFailures config state batch

theorem processBatch_quarantine {outcome : BatchProcessingOutcome} {after : ProcessorState}
    (unfailed : batch.transactionError = false)
    (processed : processBatch config state batch = .ok (outcome, after)) :
    ∃ pump pumpSwap,
      decodeBatchEvents config.encoding.decodeBase64 batch.evidence .pump = .ok pump ∧
      decodeBatchEvents config.encoding.decodeBase64 batch.evidence .pumpSwap = .ok pumpSwap ∧
      after.quarantine = (writtenRejections config state batch pump pumpSwap).foldl
        (writeRejected config) state.quarantine ∧
      ∀ rejected ∈ writtenRejections config state batch pump pumpSwap,
        IsLoadable rejected.evidence := by
  have failures : batchFailures config state batch =
      match [PumpProgram.pump, .pumpSwap].foldlM (decodeProgram config batch)
        (initialProcessing state batch, []) with
      | .ok (processing, events) =>
          normalizationFailures config batch processing (orderedEvidence events)
      | .error _ => [] := by
    rw [batchFailures, unfailed, if_neg Bool.false_ne_true]
  unfold processBatch at processed
  rw [unfailed] at processed
  dsimp only at processed
  rw [if_neg Bool.false_ne_true] at processed
  simp only [bind_eq_ok] at processed
  obtain ⟨⟨processing, events⟩, decoding, final, folded, done⟩ := processed
  cases done
  have decoded : [PumpProgram.pump, .pumpSwap].foldlM (decodeProgram config batch)
      (initialProcessing state batch, []) = .ok (processing, events) := by
    rw [initialProcessing, unfailed]
    exact decoding
  rw [decoded] at failures
  dsimp only at failures
  obtain ⟨pump, pumpSwap, pumpDecodes, swapDecodes, -, written, loadable⟩ :=
    decodePrograms_eq_ok decoded
  obtain ⟨rewritten, others⟩ := foldlM_processEvent_quarantine folded
  refine ⟨pump, pumpSwap, pumpDecodes, swapDecodes, ?_, ?_⟩
  · change final.state.quarantine = _
    rw [rewritten, written, writtenRejections, failures]
    exact List.foldl_append.symm
  · intro rejected member
    rw [writtenRejections, failures, List.mem_append, List.mem_append] at member
    rcases member with (first | second) | third
    · obtain ⟨piece, inside, rfl⟩ := List.mem_map.mp first
      exact loadable piece (List.mem_append_left _ inside)
    · obtain ⟨piece, inside, rfl⟩ := List.mem_map.mp second
      exact loadable piece (List.mem_append_right _ inside)
    · exact others rejected third

/-- The written evidence of one program are its rejections. -/
theorem filter_writtenRejections (state : ProcessorState)
    {pump pumpSwap decoded : DecodedEvidenceBatch} {program : PumpProgram}
    (pumpDecodes : decodeBatchEvents config.encoding.decodeBase64 batch.evidence .pump = .ok pump)
    (swapDecodes : decodeBatchEvents config.encoding.decodeBase64 batch.evidence .pumpSwap =
      .ok pumpSwap)
    (decodes : decodeBatchEvents config.encoding.decodeBase64 batch.evidence program =
      .ok decoded) :
    ((writtenRejections config state batch pump pumpSwap).filter fun rejected =>
      rejected.program = program) = (rejectionsOf config state batch program decoded).map
        fun evidence => RejectedEvidence.mk program evidence := by
  have failures : ((batchFailures config state batch).filter fun rejected =>
      rejected.program = program) = (failuresOf config state batch program).map fun evidence =>
        RejectedEvidence.mk program evidence := by
    unfold failuresOf
    rw [List.map_map]
    refine (List.map_id _).symm.trans (List.map_congr_left ?_)
    intro rejected member
    obtain ⟨-, same⟩ := List.mem_filter.mp member
    obtain ⟨own, evidence⟩ := rejected
    cases of_decide_eq_true same
    rfl
  rw [writtenRejections, List.filter_append, List.filter_append, failures, rejectionsOf,
    List.map_append]
  cases program with
  | pump =>
      rw [pumpDecodes] at decodes
      cases decodes
      simp [List.filter_map, Function.comp_def]
  | pumpSwap =>
      rw [swapDecodes] at decodes
      cases decodes
      simp [List.filter_map, Function.comp_def]

/-- The only item that has the property of a distinct item is that item. -/
theorem filter_eq_singleton {Item Value : Type} {items : List Item} {value : Item → Value}
    {property : Item → Bool} (distinct : (items.map value).Nodup) {item : Item}
    (member : item ∈ items) (holds : property item = true)
    (only : ∀ other ∈ items, property other = true → value other = value item) :
    items.filter property = [item] := by
  obtain ⟨front, back, rfl⟩ := List.append_of_mem member
  rw [List.map_append, List.map_cons, List.nodup_append, List.nodup_cons] at distinct
  obtain ⟨-, ⟨later, -⟩, apart⟩ := distinct
  have before : front.filter property = [] := by
    apply List.filter_eq_nil_iff.mpr
    intro other inside has
    exact apart _ (List.mem_map_of_mem inside) _ List.mem_cons_self
      (only other (List.mem_append_left _ inside) has)
  have after : back.filter property = [] := by
    apply List.filter_eq_nil_iff.mpr
    intro other inside has
    apply later
    rw [← only other (List.mem_append_right _ (List.mem_cons_of_mem _ inside)) has]
    exact List.mem_map_of_mem inside
  rw [List.filter_append, List.filter_cons, if_pos holds, before, after, List.nil_append]

theorem sourceProgram_injective {left right : PumpProgram}
    (same : left.sourceProgram = right.sourceProgram) : left = right := by
  cases left <;> cases right <;> first | rfl | cases same

/-- The evidence can be read back as it was rejected, and it was counted once. -/
def IsRetrievable (config : ProcessingConfig) (before after : ProcessorState)
    (rejected : RejectedEvidence) : Prop :=
  ∃ row, loadIntakeQuarantine after.quarantine (rejected.record config).key = .ok (some row) ∧
    row.record.reasonCode = rejected.evidence.reasonCode ∧
    row.record.reasonDetail = rejected.evidence.reasonDetail ∧
    row.record.evidenceBase64 =
      encodeQuarantineEvidence config.encoding rejected.evidence.rawEvidence ∧
    row.occurrences = ((before.quarantine.lookup (rejected.key config)).elim 0
      QuarantineRow.occurrences) + 1

/-- Rejected evidence at distinct places is kept piece by piece. -/
theorem rejections_retrievable {program : PumpProgram} {decoded : DecodedEvidenceBatch}
    (decodes : decodeBatchEvents config.encoding.decodeBase64 batch.evidence program = .ok decoded)
    (distinct : ((rejectionsOf config state batch program decoded).map fun rejected =>
      place rejected.coordinate).Nodup)
    {outcome : BatchProcessingOutcome} {after : ProcessorState}
    (unfailed : batch.transactionError = false)
    (processed : processBatch config state batch = .ok (outcome, after))
    {rejected : QuarantinedEvidence}
    (member : rejected ∈ rejectionsOf config state batch program decoded) :
    IsRetrievable config state after { program, evidence := rejected } := by
  obtain ⟨pump, pumpSwap, pumpDecodes, swapDecodes, written, loadable⟩ :=
    processBatch_quarantine unfailed processed
  have own := filter_writtenRejections state pumpDecodes swapDecodes decodes
  -- Evidence with the same key has the same program and the same place.
  have alone : ((writtenRejections config state batch pump pumpSwap).filter fun other =>
      other.key config = RejectedEvidence.key config { program, evidence := rejected }) =
        [{ program, evidence := rejected }] := by
    have narrowed : ((writtenRejections config state batch pump pumpSwap).filter fun other =>
        other.key config = RejectedEvidence.key config { program, evidence := rejected }) =
        ((writtenRejections config state batch pump pumpSwap).filter fun other =>
          other.program = program).filter fun other =>
            other.key config = RejectedEvidence.key config { program, evidence := rejected } := by
      rw [List.filter_filter]
      apply List.filter_congr
      intro other _
      rw [Bool.eq_iff_iff, Bool.and_eq_true, decide_eq_true_iff, decide_eq_true_iff]
      refine ⟨fun same => ⟨same, ?_⟩, And.left⟩
      exact sourceProgram_injective (congrArg QuarantineKey.program same)
    rw [narrowed, own]
    have singled : (rejectionsOf config state batch program decoded).filter (fun evidence =>
        RejectedEvidence.key config { program, evidence } =
          RejectedEvidence.key config { program, evidence := rejected }) = [rejected] := by
      apply filter_eq_singleton distinct member (decide_eq_true rfl)
      intro other _ same
      have keys := of_decide_eq_true same
      exact Prod.ext (congrArg QuarantineKey.instructionIndex keys)
        (congrArg QuarantineKey.eventIndex keys)
    rw [List.filter_map]
    exact congrArg (List.map _) singled
  have inside : RejectedEvidence.mk program rejected ∈
      writtenRejections config state batch pump pumpSwap := by
    have listed : RejectedEvidence.mk program rejected ∈
        (rejectionsOf config state batch program decoded).map fun evidence =>
          RejectedEvidence.mk program evidence := List.mem_map_of_mem member
    rw [← own] at listed
    exact (List.mem_filter.mp listed).1
  obtain ⟨signature, ⟨slot, fits⟩, text⟩ := loadable _ inside
  have row := lookup_foldl_writeRejected config (writtenRejections config state batch pump pumpSwap)
    state.quarantine (RejectedEvidence.key config { program, evidence := rejected })
  rw [alone, ← written] at row
  refine ⟨RejectedEvidence.row config { program, evidence := rejected } (state.quarantine.lookup
    (RejectedEvidence.key config { program, evidence := rejected })), ?_, ?_⟩
  · unfold loadIntakeQuarantine
    rw [bind_eq_ok]
    refine ⟨(), Persistence.requireNonEmpty_eq_ok.mpr signature, ?_⟩
    rw [bind_eq_ok]
    refine ⟨slot, fits, ?_⟩
    rw [bind_eq_ok]
    exact ⟨(), text, congrArg Except.ok row⟩
  · cases state.quarantine.lookup (RejectedEvidence.key config { program, evidence := rejected })
    <;> exact ⟨rfl, rfl, rfl, rfl⟩

end Batch

/-- The rejected evidence of a program is kept piece by piece exactly when no rejected
self-invocation has the place of rejected evidence of the logs. -/
theorem rejections_kept_iff (config : ProcessingConfig) (state : ProcessorState)
    (batch : LoggedBatch) (program : PumpProgram) (decoded : DecodedEvidenceBatch)
    (decodes : decodeBatchEvents config.encoding.decodeBase64 batch.evidence program =
      .ok decoded) :
    (((rejectionsOf config state batch program decoded).map fun rejected =>
        place rejected.coordinate).Nodup ∧
      ∀ outcome after, batch.transactionError = false →
        processBatch config state batch = .ok (outcome, after) →
          ∀ rejected ∈ rejectionsOf config state batch program decoded,
            IsRetrievable config state after { program, evidence := rejected }) ↔
      PlacesApart program config.encoding.decodeBase64 batch.evidence
        ((failuresOf config state batch program).map fun rejected => place rejected.coordinate) := by
  obtain ⟨once, among⟩ := failuresOf_places config state batch decodes
  have places := places_nodup_iff decodes once among
  rw [← List.map_append] at places
  rw [← places]
  constructor
  · exact And.left
  · intro distinct
    refine ⟨distinct, ?_⟩
    intro outcome after unfailed processed rejected member
    exact rejections_retrievable decodes distinct unfailed processed member

/-- A delivery with truncated logs and an unknown event that the program sends to itself. -/
def truncatedDelivery (instructionIndex : Nat) : LoggedBatch := { launchDelivery with
  evidence := { launchDelivery.evidence with
    instructions := [{
      outerInstructionIndex := instructionIndex
      innerInstructionIndex := some 0
      stackHeight := some 2
      programId := pumpProgramId
      data := anchorEventCpiDiscriminator ++ List.replicate 8 0 }]
    logMessages := ["Log truncated"] } }

theorem truncatedDelivery_unscoped (instructionIndex : Nat) :
    (truncatedDelivery instructionIndex).evidence.scopedLogs .pump = .error .truncatedLogs := by
  change scopeProgramDataLogs PumpProgram.pump.programId 7 none "signature" ["Log truncated"] = _
  decide

theorem truncatedDelivery_decodes (instructionIndex : Nat) : ∃ decoded,
    decodeBatchEvents emptyEncoding.decodeBase64 (truncatedDelivery instructionIndex).evidence
      .pump = .ok decoded := by
  obtain ⟨cpi, found⟩ : ∃ cpi, decodeInstructions .pump
      (truncatedDelivery instructionIndex).evidence = .ok cpi := ⟨_, rfl⟩
  exact exists_decodeBatchEvents .pump _ found

/-- The counters of the delivery meet in the first place of the first instruction alone. -/
theorem truncatedDelivery_apart (instructionIndex : Nat) (failed : List (Nat × Nat)) :
    PlacesApart .pump emptyEncoding.decodeBase64 (truncatedDelivery instructionIndex).evidence
      failed ↔ instructionIndex ≠ 0 := by
  have rejected : ((SelfInvocation.mk ⟨7, none, "signature", instructionIndex, 0⟩
    (anchorEventCpiDiscriminator ++ List.replicate 8 0)).rejection .pump).isSome = true := rfl
  have sent : selfInvocations .pump (truncatedDelivery instructionIndex).evidence =
      [SelfInvocation.mk ⟨7, none, "signature", instructionIndex, 0⟩
        (anchorEventCpiDiscriminator ++ List.replicate 8 0)] := rfl
  unfold PlacesApart
  rw [truncatedDelivery_unscoped]
  dsimp only
  rw [sent, List.forall_mem_singleton]
  constructor
  · intro apart first
    exact apart rejected (Prod.ext first rfl)
  · intro later _ same
    exact later (congrArg Prod.fst same)

/-- An unknown event of a later instruction is kept beside the truncated logs. -/
theorem rejections_kept_truncated : ∃ decoded,
    decodeBatchEvents emptyEncoding.decodeBase64 (truncatedDelivery 3).evidence .pump =
      .ok decoded ∧
    ((rejectionsOf (launchConfig emptyEncoding) launchState (truncatedDelivery 3) .pump
      decoded).map fun rejected => place rejected.coordinate).Nodup := by
  obtain ⟨decoded, decodes⟩ := truncatedDelivery_decodes 3
  refine ⟨decoded, decodes, ?_⟩
  exact ((rejections_kept_iff (launchConfig emptyEncoding) launchState (truncatedDelivery 3) .pump
    decoded decodes).mpr ((truncatedDelivery_apart 3 _).mpr (by decide))).1

/-- An unknown event of the first instruction takes the place of the truncated logs. -/
theorem rejections_overwritten : ¬ ∀ (config : ProcessingConfig) (state : ProcessorState)
    (batch : LoggedBatch) (program : PumpProgram) (decoded : DecodedEvidenceBatch),
    decodeBatchEvents config.encoding.decodeBase64 batch.evidence program = .ok decoded →
      ((rejectionsOf config state batch program decoded).map fun rejected =>
        place rejected.coordinate).Nodup := by
  intro distinct
  obtain ⟨decoded, decodes⟩ := truncatedDelivery_decodes 0
  have collides := distinct (launchConfig emptyEncoding) launchState (truncatedDelivery 0) .pump
    decoded decodes
  obtain ⟨once, among⟩ := failuresOf_places (launchConfig emptyEncoding) launchState
    (truncatedDelivery 0) decodes
  rw [rejectionsOf, List.map_append, places_nodup_iff decodes once among] at collides
  exact (truncatedDelivery_apart 0 _).mp collides rfl

end Soldisco.Pipeline

import Soldisco.Construction.Persistence.Windows
import Soldisco.Construction.Pipeline.Decode
import Soldisco.Construction.Pipeline.Normalization
import Soldisco.Construction.Pipeline.Processor
import Soldisco.Library.Base64

/-
This file embeds the processing of one batch together with the database, the registry of markets
and the tokens that it reads and writes. A failed processing ends the attempt of the pipeline.
-/

namespace Soldisco.Pipeline
open Domain MachineInteger Window Intake
open Persistence (Database Observation PersistenceError NewDiscoveryWindow WindowTargetKind
  StoredQualificationDefaults PrefilterDefaults require requireNonEmpty toI64)

inductive ProcessError where
  | persistence (error : PersistenceError)
  | identicalPoolMints
  | pumpSwapPoolIdentityConflict (poolAddress : String)
  | logScope (error : PipelineError)
  | normalization (error : NormalizationError)
  | windowLifecycle (detail : String)
deriving DecidableEq, Repr

structure IntakeQuarantineRecord where
  key : ObservationKey
  decoderVersion : String
  reasonCode : String
  reasonDetail : String
  evidenceBase64 : String
deriving DecidableEq, Repr

/-- A replay of the exact coordinate counts another occurrence. -/
structure QuarantineKey where
  network : Network
  program : SourceProgram
  slot : Nat
  signature : String
  instructionIndex : Nat
  eventIndex : Nat
deriving DecidableEq, Repr

structure QuarantineRow where
  record : IntakeQuarantineRecord
  occurrences : Nat
deriving DecidableEq, Repr

def maxDecoderVersionBytes : Nat := 128

def maxReasonCodeBytes : Nat := 128

def maxReasonDetailBytes : Nat := 2048

def validateLength (value field : String) (maximum : Nat) : Except PersistenceError Unit :=
  require (value.utf8ByteSize ≤ maximum) (.fieldTooLong field maximum)

def validateRecord (isBase64 : String → Bool) (record : IntakeQuarantineRecord) :
    Except PersistenceError Unit := do
  requireNonEmpty record.key.coordinate.signature "quarantine signature"
  requireNonEmpty record.decoderVersion "decoder_version"
  requireNonEmpty record.reasonCode "reason_code"
  requireNonEmpty record.evidenceBase64 "evidence_base64"
  validateLength record.decoderVersion "decoder_version" maxDecoderVersionBytes
  validateLength record.reasonCode "reason_code" maxReasonCodeBytes
  validateLength record.reasonDetail "reason_detail" maxReasonDetailBytes
  validateLength record.evidenceBase64 "evidence_base64"
    Persistence.maxQuarantineEvidenceBase64Bytes
  Persistence.validateEvidenceBase64 isBase64 record.evidenceBase64 "evidence_base64"

def quarantineKey (key : ObservationKey) : QuarantineKey where
  network := key.network
  program := key.program
  slot := key.coordinate.slot
  signature := key.coordinate.signature
  instructionIndex := key.coordinate.instructionIndex
  eventIndex := key.coordinate.eventIndex

/-- A new occurrence keeps a known transaction index and replaces the rest of the record. -/
def QuarantineRow.replay (row : QuarantineRow) (record : IntakeQuarantineRecord) :
    QuarantineRow where
  record := { record with key := { record.key with coordinate := { record.key.coordinate with
    transactionIndex := record.key.coordinate.transactionIndex <|>
      row.record.key.coordinate.transactionIndex } } }
  occurrences := row.occurrences + 1

/-- The database refuses the null character in a text parameter of a statement. -/
def bindText (value : String) : Except PersistenceError Unit :=
  require (Text.isNullFree value = true) .database

/-- The column of the evidence takes whole groups of the base64 alphabet. -/
def isEvidenceColumn (value : String) : Bool :=
  (value.toList.all fun letter => Base64.alphabet.contains letter || letter == Base64.padding) &&
    value.utf8ByteSize % 4 == 0

/-- The columns beside the key; their length checks are those of the validation. -/
def IntakeQuarantineRecord.bindContent (record : IntakeQuarantineRecord) :
    Except PersistenceError Unit := do
  bindText record.decoderVersion
  bindText record.reasonCode
  bindText record.reasonDetail
  bindText record.evidenceBase64
  require (isEvidenceColumn record.evidenceBase64 = true) .database

def recordIntakeQuarantine (isBase64 : String → Bool) (db : Database)
    (quarantine : Table QuarantineKey QuarantineRow) (record : IntakeQuarantineRecord) :
    Except PersistenceError (Nat × Table QuarantineKey QuarantineRow) := do
  validateRecord isBase64 record
  let _ ← toI64 record.key.coordinate.slot "quarantine slot"
  let _ ← toI64 (record.key.coordinate.transactionIndex.getD 0) "quarantine transaction_index"
  bindText record.key.coordinate.signature
  record.bindContent
  db.enforceBoundNetwork record.key.network
  let row := match quarantine.lookup (quarantineKey record.key) with
    | some row => row.replay record
    | none => { record, occurrences := 1 }
  require ((row.occurrences : Int) ≤ i64Max) .database
  return (row.occurrences, quarantine.insert (quarantineKey record.key) row)

/-- Quarantined evidence is read back by its exact coordinate. -/
def loadIntakeQuarantine (quarantine : Table QuarantineKey QuarantineRow) (key : ObservationKey) :
    Except PersistenceError (Option QuarantineRow) := do
  requireNonEmpty key.coordinate.signature "quarantine signature"
  let _ ← toI64 key.coordinate.slot "quarantine slot"
  bindText key.coordinate.signature
  return quarantine.lookup (quarantineKey key)

def validatePool (pool : PumpSwapPool) : Except ProcessError Unit := do
  (do
    requireNonEmpty pool.poolAddress "PumpSwap pool_address"
    requireNonEmpty pool.baseMint "PumpSwap base_mint"
    requireNonEmpty pool.quoteMint "PumpSwap quote_mint"
    requireNonEmpty pool.observedSignature "PumpSwap observed_signature").mapError .persistence
  if pool.baseMint = pool.quoteMint then .error .identicalPoolMints else .ok ()

/-- A stored pool keeps its mints and moves to later observations only. -/
def upsertPumpSwapPool (db : Database) (pools : Table (Network × String) PumpSwapPool)
    (pool : PumpSwapPool) :
    Except ProcessError (Bool × Table (Network × String) PumpSwapPool) := do
  validatePool pool
  let _ ← (toI64 pool.observedSlot "PumpSwap observed_slot").mapError .persistence
  (db.enforceBoundNetwork pool.network).mapError .persistence
  match pools.lookup (pool.network, pool.poolAddress) with
  | none => return (true, pools.insert (pool.network, pool.poolAddress) pool)
  | some existing =>
      if existing.baseMint ≠ pool.baseMint ∨ existing.quoteMint ≠ pool.quoteMint then
        .error (.pumpSwapPoolIdentityConflict pool.poolAddress)
      else if existing.observedSlot ≤ pool.observedSlot then
        return (true, pools.insert (pool.network, pool.poolAddress) pool)
      else return (false, pools)

/-- The processor reads and writes the database, the markets and the cells of the tokens. -/
structure ProcessorState where
  database : Database
  quarantine : Table QuarantineKey QuarantineRow
  pumpSwapPools : Table (Network × String) PumpSwapPool
  markets : MarketRegistry
  windows : ObservationWindowRegistry

/-- The configuration of the pipeline, the external encodings, the stored qualification settings
and the time at which the database stores an event. -/
structure ProcessingConfig where
  network : Network
  commitment : Persistence.Commitment
  maximumDiscoveryAgeMillis : Nat
  collectorRunId : String
  prefilterRevision : Nat
  prefilterValues : PrefilterDefaults
  encoding : EvidenceEncoding
  qualification : Except PersistenceError StoredQualificationDefaults
  now : DecodedEvidence → Int

def ProcessingConfig.isBase64 (config : ProcessingConfig) (value : String) : Bool :=
  (config.encoding.decodeBase64 value).isSome

/-- A batch with its logs and instructions. -/
structure LoggedBatch where
  purpose : BatchPurpose
  evidence : BatchEvidence
  receivedTimeUnixMs : Int
  transactionError : Bool
  windowTokens : List ObservationWindowToken
deriving DecidableEq, Repr

/-- The batch with the decoded form of its logs. -/
def LoggedBatch.decoded (config : ProcessingConfig) (batch : LoggedBatch) : ProgramLogBatch where
  purpose := batch.purpose
  slot := batch.evidence.slot
  signature := batch.evidence.signature
  receivedTimeUnixMs := batch.receivedTimeUnixMs
  decoded := batch.evidence.decode config.encoding.decodeBase64
  transactionError := batch.transactionError
  windowTokens := batch.windowTokens
  processingSucceeded := false

def LoggedBatch.selects (config : ProcessingConfig) (windows : ObservationWindowRegistry)
    (batch : LoggedBatch) (event : SourcePump.PumpEvent) : Bool :=
  batchSelectsEvent config.network config.maximumDiscoveryAgeMillis windows (batch.decoded config)
    (intakeEvent event)

/-- The loop state of one batch. -/
structure BatchProcessing where
  state : ProcessorState
  inserted : Nat
  complete : Bool
  selectedEvents : Nat

structure BatchProcessingOutcome where
  inserted : Nat
  complete : Bool
deriving DecidableEq, Repr

def maxQuarantineRawBytes : Nat := Persistence.maxQuarantineEvidenceBase64Bytes / 4 * 3

def encodeQuarantineEvidence (encoding : EvidenceEncoding) (rawEvidence : List UInt8) : String :=
  encoding.encodeBase64
    (if rawEvidence.isEmpty then utf8Bytes "<empty-evidence>"
      else rawEvidence.take maxQuarantineRawBytes)

def recordPipelineQuarantine (config : ProcessingConfig) (sourceProgram : SourceProgram)
    (state : ProcessorState) (evidence : QuarantinedEvidence) : Except ProcessError ProcessorState := do
  let (_, quarantine) ← (recordIntakeQuarantine config.isBase64 state.database state.quarantine {
    key := {
      network := config.network
      program := sourceProgram
      coordinate := evidence.coordinate }
    decoderVersion
    reasonCode := evidence.reasonCode
    reasonDetail := evidence.reasonDetail
    evidenceBase64 := encodeQuarantineEvidence config.encoding evidence.rawEvidence }).mapError
      .persistence
  return { state with quarantine }

/-- The events of one program are decoded and its quarantines are recorded. -/
def decodeProgram (config : ProcessingConfig) (batch : LoggedBatch)
    (processing : BatchProcessing × List DecodedEvidence) (program : SourcePump.PumpProgram) :
    Except ProcessError (BatchProcessing × List DecodedEvidence) := do
  let decoded ← (decodeBatchEvents config.encoding.decodeBase64 batch.evidence program).mapError
    .logScope
  let state ← decoded.quarantines.foldlM (recordPipelineQuarantine config program.sourceProgram)
    processing.1.state
  return ({ processing.1 with
    state
    complete := processing.1.complete && decoded.quarantines.isEmpty },
    processing.2 ++ decoded.events)

/-- Discoveries come first, then the programs, instructions and events in their order. -/
def orderedEvidence (events : List DecodedEvidence) : List DecodedEvidence :=
  events.insertionSort fun left right =>
    eventOrder (decodedEvent left.decoded) (decodedEvent right.decoded) ≠ .gt

/-- The normalization errors that are recorded; the other ones end the processing. -/
def quarantineReason : NormalizationError → Option String
  | .pumpMarketUnresolved _ => some "UNRESOLVED_PUMP_MARKET"
  | .pumpSwapMarketUnresolved _ => some "UNRESOLVED_PUMP_SWAP_MARKET"
  | .quoteMintMismatch _ => some "PUMP_QUOTE_MINT_MISMATCH"
  | .unsupportedPumpSwapPair _ _ => some "UNSUPPORTED_PUMP_SWAP_PAIR"
  | .zeroTradeAmount => some "ZERO_TRADE_AMOUNT"
  | .pumpSwapSourceOrientationRequired => none

def windowTargetParts : ObservationTarget → WindowTargetKind × String
  | .pumpMint mint => (.pumpMint, mint)
  | .pumpSwapPool pool => (.pumpSwapPool, pool)

/-- The token of the normalized market that is open at the receipt. -/
def LoggedBatch.matchingWindowToken (batch : LoggedBatch) (windows : ObservationWindowRegistry)
    (market : MarketIdentity) : Option ObservationWindowToken :=
  (ObservationTarget.forMarket market).bind fun target =>
    batch.windowTokens.find? fun token =>
      token.target == target && windows.isOpenAt token batch.receivedTimeUnixMs

def noMatchingToken : String := "normalized discovery had no matching provisional token"

def unconfirmedToken : String :=
  "durable discovery window could not confirm its provisional token"

def rejectedWindowId : String := "confirmed token rejected its durable window id"

def disagreedOrientation : String :=
  "PumpSwap source orientation disagreed with normalized discovery"

/-- A discovery opens its durable window; the result is absent for a replay. -/
def storeDiscovery (config : ProcessingConfig) (state : ProcessorState) (event : DecodedEvidence)
    (observation : Observation) (matching : Option ObservationWindowToken) :
    Except ProcessError (Option Bool × ProcessorState) :=
  match matching with
  | none => .error (.windowLifecycle noMatchingToken)
  | some token => do
      let qualification ← config.qualification.mapError .persistence
      let (targetKind, targetAddress) := windowTargetParts token.target
      let (opened, database) ← (Persistence.openDiscoveryWindow config.isBase64 (config.now event)
        state.database observation {
          targetKind
          targetAddress
          openedAtUnixMs := token.window.openedAtUnixMs
          closesAtUnixMs := token.window.closesAtUnixMs
          collectorRunId := config.collectorRunId
          prefilterRevision := config.prefilterRevision
          prefilterValues := config.prefilterValues
          qualification }).mapError .persistence
      if opened.replayed then
        return (none, { state with
          database
          windows := state.windows.setCell token (state.windows.cell token).cancelIfPending })
      else
        let (isConfirmed, confirmed) := (state.windows.cell token).confirm
        if !isConfirmed then .error (.windowLifecycle unconfirmedToken)
        else
          let (isSet, cell) := confirmed.setDurableWindowId opened.windowId
          if !isSet then .error (.windowLifecycle rejectedWindowId)
          else return (some opened.observationInserted, { state with
            database
            windows := state.windows.setCell token cell })

/-- Activity joins the durable window of its token. -/
def storeActivityEvent (config : ProcessingConfig) (state : ProcessorState) (event : DecodedEvidence)
    (observation : Observation) (matching : Option ObservationWindowToken) :
    Except ProcessError (Bool × ProcessorState) := do
  let (isNew, database) ←
    (match matching.bind fun token => (state.windows.cell token).durableWindowId with
      | some windowId => Persistence.insertWindowObservation config.isBase64 (config.now event)
          state.database windowId observation
      | none => Persistence.insertObservation config.isBase64 (config.now event) state.database
          observation).mapError .persistence
  return (isNew, { state with database })

/-- A created pool is stored and registered in the order of its source. -/
def registerPool (config : ProcessingConfig) (state : ProcessorState)
    (coordinate : ChainCoordinate) (discovered : Option MarketIdentity) :
    SourcePump.PumpEvent → Except ProcessError ProcessorState
  | .pumpSwapCreatePool event => do
      let pool : PumpSwapPool := {
        network := config.network
        poolAddress := event.pool
        baseMint := event.baseMint
        quoteMint := event.quoteMint
        observedSlot := coordinate.slot
        observedSignature := coordinate.signature }
      let (_, pumpSwapPools) ← upsertPumpSwapPool state.database state.pumpSwapPools pool
      let (registered, markets) := state.markets.registerPumpSwapPool pool.network
        pool.poolAddress pool.baseMint pool.quoteMint
      if registered ≠ discovered then .error (.windowLifecycle disagreedOrientation)
      else return { state with pumpSwapPools, markets }
  | _ => .ok state

/-- A discovered Pump market is registered. -/
def registerDiscovered (state : ProcessorState) (discovered : Option MarketIdentity) :
    Except ProcessError ProcessorState :=
  match discovered.filter fun market => market.venue = .pumpBondingCurve with
  | none => .ok state
  | some market => do
      let markets ← (state.markets.register market).mapError .normalization
      return { state with markets }

/-- The mint whose curve the event ends. -/
def retiredPumpMint : SourcePump.PumpEvent → Option String
  | .complete event => some event.mint
  | .completePumpAmmMigration event => some event.mint
  | _ => none

def retireMarket (state : ProcessorState) (event : SourcePump.PumpEvent) : ProcessorState :=
  match retiredPumpMint event with
  | some mint => { state with markets := state.markets.retirePumpMarket mint }
  | none => state

/-- A discovery is stored with its window and another event as activity. -/
def storeObservation (config : ProcessingConfig) (state : ProcessorState) (event : DecodedEvidence)
    (normalized : NormalizedPumpEvent) (matching : Option ObservationWindowToken) :
    Except ProcessError (Option Bool × ProcessorState) :=
  match normalized.discoveredMarket with
  | some _ => storeDiscovery config state event normalized.observation matching
  | none => do
      let (isNew, stored) ← storeActivityEvent config state event normalized.observation matching
      return (some isNew, stored)

/-- A normalized event is stored and then changes the registry; a replayed discovery ends here. -/
def storeNormalized (config : ProcessingConfig) (batch : LoggedBatch) (processing : BatchProcessing)
    (event : DecodedEvidence) (normalized : NormalizedPumpEvent) :
    Except ProcessError BatchProcessing := do
  let matching := batch.matchingWindowToken processing.state.windows normalized.observation.market
  let (stored, state) ← storeObservation config processing.state event normalized matching
  match stored with
  | none => return { processing with state }
  | some isNew => do
      let pooled ← registerPool config state event.decoded.coordinate normalized.discoveredMarket
        event.decoded.event
      let registered ← registerDiscovered pooled normalized.discoveredMarket
      return { processing with
        inserted := processing.inserted + (if isNew then 1 else 0)
        state := retireMarket registered event.decoded.event }

/-- One pass of the loop over the decoded events. -/
def processEvent (config : ProcessingConfig) (batch : LoggedBatch) (processing : BatchProcessing)
    (event : DecodedEvidence) : Except ProcessError BatchProcessing :=
  if !batch.selects config processing.state.windows event.decoded.event then .ok processing
  else
    let selected := { processing with selectedEvents := processing.selectedEvents + 1 }
    match normalizePumpEvent config.encoding event.decoded config.network config.commitment
      batch.receivedTimeUnixMs event.rawEvidence processing.state.markets with
    | .ok normalized => storeNormalized config batch selected event normalized
    | .error error =>
        match quarantineReason error with
        | none => .error (.normalization error)
        | some reasonCode => do
            let state ← recordPipelineQuarantine config event.decoded.program.sourceProgram
              processing.state {
                coordinate := event.decoded.coordinate
                reasonCode
                reasonDetail := displayNormalizationError error
                rawEvidence := event.rawEvidence }
            return { selected with state, complete := false }

/-- A discovery batch leaves no token pending. -/
def cancelPending (batch : LoggedBatch) (windows : ObservationWindowRegistry) :
    ObservationWindowRegistry :=
  if batch.purpose = .discovery then
    batch.windowTokens.foldl (fun windows token =>
      windows.setCell token (windows.cell token).cancelIfPending) windows
  else windows

/-- A batch with tokens of which no event was selected is not complete. -/
def finishBatch (batch : LoggedBatch) (processing : BatchProcessing) :
    BatchProcessingOutcome × ProcessorState :=
  ({ inserted := processing.inserted
     complete := processing.complete &&
      (batch.windowTokens.isEmpty || processing.selectedEvents ≠ 0) },
    { processing.state with windows := cancelPending batch processing.state.windows })

def processBatch (config : ProcessingConfig) (state : ProcessorState) (batch : LoggedBatch) :
    Except ProcessError (BatchProcessingOutcome × ProcessorState) :=
  let initial : BatchProcessing :=
    { state, inserted := 0, complete := !batch.transactionError, selectedEvents := 0 }
  if batch.transactionError then .ok (finishBatch batch initial)
  else do
    let (decoded, events) ← [SourcePump.PumpProgram.pump, .pumpSwap].foldlM
      (decodeProgram config batch) (initial, [])
    let processed ← (orderedEvidence events).foldlM (processEvent config batch) decoded
    return finishBatch batch processed

end Soldisco.Pipeline

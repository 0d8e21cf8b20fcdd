import Soldisco.Construction.Pipeline.Storage
import Soldisco.Construction.Window.Atomics

/-
This file embeds the processing of one batch next to the other tasks that use the registry of windows. A
step is one operation on a token or one transaction, with the code up to the next one.
-/

namespace Soldisco.Pipeline
open Domain Window Intake
open Persistence (NewDiscoveryWindow OpenedDiscoveryWindow StoredQualificationDefaults)

/-- The operation or transaction that comes next. A list has the tokens that a loop still reads. -/
inductive ProcessingPhase where
  | selecting (event : DecodedEvidence) (tokens : List ObservationWindowToken)
  | quarantining (event : DecodedEvidence) (error : NormalizationError) (reasonCode : String)
  | matching (event : DecodedEvidence) (normalized : NormalizedPumpEvent)
      (tokens : List ObservationWindowToken)
  | loadingDefaults (event : DecodedEvidence) (normalized : NormalizedPumpEvent)
      (token : ObservationWindowToken)
  | opening (event : DecodedEvidence) (normalized : NormalizedPumpEvent)
      (token : ObservationWindowToken) (qualification : StoredQualificationDefaults)
  | replaying (token : ObservationWindowToken)
  | confirming (event : DecodedEvidence) (normalized : NormalizedPumpEvent)
      (token : ObservationWindowToken) (opened : OpenedDiscoveryWindow)
  | identifying (event : DecodedEvidence) (normalized : NormalizedPumpEvent)
      (token : ObservationWindowToken) (opened : OpenedDiscoveryWindow) (call : TokenCall)
  | storing (event : DecodedEvidence) (normalized : NormalizedPumpEvent)
      (matching : Option ObservationWindowToken)
  | registering (event : DecodedEvidence) (normalized : NormalizedPumpEvent) (isNew : Bool)
  | cancelling (tokens : List ObservationWindowToken)
  | returned (outcome : Except ProcessError BatchProcessingOutcome)

structure InterleavedProcessing where
  processing : BatchProcessing
  remaining : List DecodedEvidence
  phase : ProcessingPhase

/-- The test of one token in the selection of an event. -/
def LoggedBatch.watches (config : ProcessingConfig) (windows : ObservationWindowRegistry)
    (batch : LoggedBatch) (event : SourcePump.PumpEvent) (token : ObservationWindowToken) : Bool :=
  match eventTrackingTarget (intakeEvent event) with
  | some target => token.target == target &&
      (windows.cell token).isConfirmedAt token.window batch.receivedTimeUnixMs
  | none => batch.purpose == .discovery &&
      (discoverySeed (intakeEvent event) config.network).any fun seed =>
        token.target == seed.target && windows.isOpenAt token batch.receivedTimeUnixMs

/-- A discovery has to be fresh as well. -/
def LoggedBatch.isTimely (config : ProcessingConfig) (batch : LoggedBatch)
    (event : SourcePump.PumpEvent) : Bool :=
  (eventTrackingTarget (intakeEvent event)).isSome ||
    discoveryEventIsFresh (intakeEvent event) batch.receivedTimeUnixMs
      config.maximumDiscoveryAgeMillis

def newDiscoveryWindow (config : ProcessingConfig) (token : ObservationWindowToken)
    (qualification : StoredQualificationDefaults) : NewDiscoveryWindow where
  targetKind := (windowTargetParts token.target).1
  targetAddress := (windowTargetParts token.target).2
  openedAtUnixMs := token.window.openedAtUnixMs
  closesAtUnixMs := token.window.closesAtUnixMs
  collectorRunId := config.collectorRunId
  prefilterRevision := config.prefilterRevision
  prefilterValues := config.prefilterValues
  qualification

namespace InterleavedProcessing

variable (config : ProcessingConfig) (batch : LoggedBatch)

def windows (current : InterleavedProcessing) : ObservationWindowRegistry :=
  current.processing.state.windows

def setCell (current : InterleavedProcessing) (token : ObservationWindowToken) (cell : TokenCell) :
    InterleavedProcessing :=
  { current with processing := { current.processing with state := { current.processing.state with
    windows := current.windows.setCell token cell } } }

def setState (current : InterleavedProcessing) (state : ProcessorState) : InterleavedProcessing :=
  { current with processing := { current.processing with state } }

def fail (current : InterleavedProcessing) (error : ProcessError) : InterleavedProcessing :=
  { current with phase := .returned (.error error) }

/-- The head of the loop over the events and the start of the loop over the pending tokens. -/
def nextEvent (current : InterleavedProcessing) : InterleavedProcessing :=
  match current.remaining with
  | event :: rest =>
      { current with remaining := rest, phase := .selecting event batch.windowTokens }
  | [] => { current with
      phase := .cancelling (if batch.purpose = .discovery then batch.windowTokens else []) }

/-- A selected event is counted and normalized. -/
def select (current : InterleavedProcessing) (event : DecodedEvidence) : InterleavedProcessing :=
  let selected := { current with
    processing := { current.processing with
      selectedEvents := current.processing.selectedEvents + 1 } }
  match normalizePumpEvent config.encoding event.decoded config.network config.commitment
    batch.receivedTimeUnixMs event.rawEvidence current.processing.state.markets with
  | .ok normalized => { selected with phase := .matching event normalized batch.windowTokens }
  | .error error =>
      match quarantineReason error with
      | none => selected.fail (.normalization error)
      | some reasonCode => { selected with phase := .quarantining event error reasonCode }

/-- One load of the selection. -/
def selectToken (current : InterleavedProcessing) (event : DecodedEvidence) :
    List ObservationWindowToken → InterleavedProcessing
  | [] => current.nextEvent batch
  | token :: rest =>
      if batch.watches config current.windows event.decoded.event token then
        if batch.isTimely config event.decoded.event then current.select config batch event
        else current.nextEvent batch
      else { current with phase := .selecting event rest }

def quarantine (current : InterleavedProcessing) (event : DecodedEvidence)
    (error : NormalizationError) (reasonCode : String) : InterleavedProcessing :=
  match recordPipelineQuarantine config event.decoded.program.sourceProgram
    current.processing.state {
      coordinate := event.decoded.coordinate
      reasonCode
      reasonDetail := displayNormalizationError error
      rawEvidence := event.rawEvidence } with
  | .ok state => { current with
      processing := { current.processing with state, complete := false } }.nextEvent batch
  | .error error => current.fail error

/-- A discovery needs its token; another event is activity. -/
def choose (current : InterleavedProcessing) (event : DecodedEvidence)
    (normalized : NormalizedPumpEvent) (matching : Option ObservationWindowToken) :
    InterleavedProcessing :=
  match normalized.discoveredMarket, matching with
  | some _, some token => { current with phase := .loadingDefaults event normalized token }
  | some _, none => current.fail (.windowLifecycle noMatchingToken)
  | none, _ => { current with phase := .storing event normalized matching }

/-- The token is open under the target of the market. -/
def matchesMarket (current : InterleavedProcessing) (normalized : NormalizedPumpEvent)
    (token : ObservationWindowToken) : Bool :=
  ObservationTarget.forMarket normalized.observation.market == some token.target &&
    current.windows.isOpenAt token batch.receivedTimeUnixMs

/-- One load of the search for the token of the market. -/
def matchToken (current : InterleavedProcessing) (event : DecodedEvidence)
    (normalized : NormalizedPumpEvent) : List ObservationWindowToken → InterleavedProcessing
  | [] => current.choose event normalized none
  | token :: rest =>
      if current.matchesMarket batch normalized token then
        current.choose event normalized (some token)
      else { current with phase := .matching event normalized rest }

def loadDefaults (current : InterleavedProcessing) (event : DecodedEvidence)
    (normalized : NormalizedPumpEvent) (token : ObservationWindowToken) : InterleavedProcessing :=
  match config.qualification with
  | .ok qualification => { current with phase := .opening event normalized token qualification }
  | .error error => current.fail (.persistence error)

def openWindow (current : InterleavedProcessing) (event : DecodedEvidence)
    (normalized : NormalizedPumpEvent) (token : ObservationWindowToken)
    (qualification : StoredQualificationDefaults) : InterleavedProcessing :=
  match Persistence.openDiscoveryWindow config.isBase64 (config.now event)
    current.processing.state.database normalized.observation
    (newDiscoveryWindow config token qualification) with
  | .ok (opened, database) =>
      let stored := current.setState { current.processing.state with database }
      if opened.replayed then { stored with phase := .replaying token }
      else { stored with phase := .confirming event normalized token opened }
  | .error error => current.fail (.persistence error)

def replay (current : InterleavedProcessing) (token : ObservationWindowToken) :
    InterleavedProcessing :=
  (current.setCell token (current.windows.cell token).cancelIfPending).nextEvent batch

def confirm (current : InterleavedProcessing) (event : DecodedEvidence)
    (normalized : NormalizedPumpEvent) (token : ObservationWindowToken)
    (opened : OpenedDiscoveryWindow) : InterleavedProcessing :=
  let outcome := (current.windows.cell token).confirm
  let confirmed := current.setCell token outcome.2
  if outcome.1 then { confirmed with
    phase := .identifying event normalized token opened (.setDurableWindowId opened.windowId) }
  else confirmed.fail (.windowLifecycle unconfirmedToken)

/-- One operation of the call that sets the identifier. -/
def identify (current : InterleavedProcessing) (event : DecodedEvidence)
    (normalized : NormalizedPumpEvent) (token : ObservationWindowToken)
    (opened : OpenedDiscoveryWindow) (call : TokenCall) : InterleavedProcessing :=
  let outcome := call.advance false (current.windows.cell token)
  let called := current.setCell token outcome.2
  match outcome.1 with
  | .running next => { called with phase := .identifying event normalized token opened next }
  | .returned true => { called with
      phase := .registering event normalized opened.observationInserted }
  | .returned false => called.fail (.windowLifecycle rejectedWindowId)

/-- No other task sets the identifier that this transaction reads. -/
def storeActivity (current : InterleavedProcessing) (event : DecodedEvidence)
    (normalized : NormalizedPumpEvent) (matching : Option ObservationWindowToken) :
    InterleavedProcessing :=
  match storeActivityEvent config current.processing.state event normalized.observation matching with
  | .ok (isNew, state) =>
      { current.setState state with phase := .registering event normalized isNew }
  | .error error => current.fail error

/-- The end of a pass counts the observation and registers its markets. -/
def register (current : InterleavedProcessing) (event : DecodedEvidence)
    (normalized : NormalizedPumpEvent) (isNew : Bool) : InterleavedProcessing :=
  match (do
    let pooled ← registerPool config current.processing.state event.decoded.coordinate
      normalized.discoveredMarket event.decoded.event
    registerDiscovered pooled normalized.discoveredMarket : Except ProcessError ProcessorState) with
  | .ok registered => { current with
      processing := { current.processing with
        inserted := current.processing.inserted + (if isNew then 1 else 0)
        state := retireMarket registered event.decoded.event } }.nextEvent batch
  | .error error => current.fail error

/-- One cancellation of a token that is still pending. -/
def cancelToken (current : InterleavedProcessing) :
    List ObservationWindowToken → InterleavedProcessing
  | [] => { current with phase := .returned (.ok (finishBatch batch current.processing).1) }
  | token :: rest =>
      { current.setCell token (current.windows.cell token).cancelIfPending with
        phase := .cancelling rest }

def proceed (current : InterleavedProcessing) : InterleavedProcessing :=
  match current.phase with
  | .selecting event tokens => current.selectToken config batch event tokens
  | .quarantining event error reasonCode => current.quarantine config batch event error reasonCode
  | .matching event normalized tokens => current.matchToken batch event normalized tokens
  | .loadingDefaults event normalized token => current.loadDefaults config event normalized token
  | .opening event normalized token qualification =>
      current.openWindow config event normalized token qualification
  | .replaying token => current.replay batch token
  | .confirming event normalized token opened => current.confirm event normalized token opened
  | .identifying event normalized token opened call =>
      current.identify event normalized token opened call
  | .storing event normalized matching => current.storeActivity config event normalized matching
  | .registering event normalized isNew => current.register config batch event normalized isNew
  | .cancelling tokens => current.cancelToken batch tokens
  | .returned _ => current

/-- The decoding uses no token, so it is part of the first step. -/
def start (state : ProcessorState) : InterleavedProcessing :=
  let initial : BatchProcessing :=
    { state, inserted := 0, complete := !batch.transactionError, selectedEvents := 0 }
  let entered (processing : BatchProcessing) (remaining : List DecodedEvidence) :
      InterleavedProcessing := { processing, remaining, phase := .cancelling [] }
  if batch.transactionError then (entered initial []).nextEvent batch
  else
    match [SourcePump.PumpProgram.pump, .pumpSwap].foldlM (decodeProgram config batch)
      (initial, []) with
    | .ok (decoded, events) => (entered decoded (orderedEvidence events)).nextEvent batch
    | .error error => (entered initial []).fail error

end InterleavedProcessing

/-- The other tasks provision and cancel under the lock of the registry. The last constructor is one
operation on a token inside such a cancellation. -/
inductive WindowTask where
  | provisionTarget (target : ObservationTarget) (mint : String) (openedAtUnixMs : Int)
      (durationMillis : Nat)
  | cancelSourceConfirmed (sourceProgram : SourceProgram) (reason : WindowIncompleteReason)
  | cancelAllConfirmed (reason : WindowIncompleteReason)
  | operation (token : ObservationWindowToken) (call : TokenCall)

def isCancellation : TokenCall → Bool
  | .cancelIfPending | .cancelWithReason _ | .cancelPending _ | .cancelMark _
  | .cancelConfirmed _ => true
  | _ => false

def WindowTask.perform (windows : ObservationWindowRegistry) : WindowTask → ObservationWindowRegistry
  | .provisionTarget target mint openedAtUnixMs durationMillis =>
      (windows.provisionTarget target mint openedAtUnixMs durationMillis).2
  | .cancelSourceConfirmed sourceProgram reason =>
      (windows.cancelSourceConfirmed sourceProgram reason).2
  | .cancelAllConfirmed reason => (windows.cancelAllConfirmed reason).2
  | .operation token call =>
      if isCancellation call then windows.setCell token (call.advance false (windows.cell token)).2
      else windows

inductive InterleavedAction where
  | proceed
  | task (task : WindowTask)

namespace InterleavedProcessing

def step (config : ProcessingConfig) (batch : LoggedBatch) (current : InterleavedProcessing) :
    InterleavedAction → Unit × InterleavedProcessing
  | .proceed => ((), current.proceed config batch)
  | .task task => ((), current.setState { current.processing.state with
      windows := task.perform current.windows })

end InterleavedProcessing
end Soldisco.Pipeline

import Soldisco.Construction.Pipeline.Batch

/-
This file embeds the processing of one batch. Each function is one pass of its event loop up to the
await of the database; the replies of the normalization and the database are its inputs.
-/

namespace Soldisco.Pipeline
open Domain Window Intake

/-- Discoveries come first, then the programs, instructions and events in their order. -/
def eventOrder (left right : DecodedEvent) : Ordering :=
  (compare (!isDiscoveryEvent left.event) (!isDiscoveryEvent right.event)).then <|
  (compare (Snapshot.sourceProgramRank left.program)
    (Snapshot.sourceProgramRank right.program)).then <|
  (compare left.instructionIndex right.instructionIndex).then <|
  compare left.eventIndex right.eventIndex

/-- The loop state of one batch, with the events that it has handed to the database. -/
structure Processing where
  batch : ProgramLogBatch
  remaining : List DecodedEvent
  selected : Option DecodedEvent
  selectedEvents : Nat
  complete : Bool
  handed : List DecodedEvent
deriving DecidableEq, Repr

/-- The reply to a selected event: a quarantined normalization error, or the target of the
normalized market and the durable window of a discovery. -/
inductive StoreReply where
  | quarantined
  | normalized (marketTarget : Option ObservationTarget) (windowId : Int) (replayed : Bool)
deriving DecidableEq, Repr

/-- The events of the batch in the order of the loop. -/
def ProgramLogBatch.orderedEvents (batch : ProgramLogBatch) : List DecodedEvent :=
  match batch.decoded with
  | some decoded => decoded.events.insertionSort fun left right => eventOrder left right ≠ .gt
  | none => []

/-- A failed transaction has no events; a decoding error ends the processing. -/
def ProgramLogBatch.process (batch : ProgramLogBatch) : Option Processing :=
  if batch.transactionError then
    some { batch, remaining := [], selected := none, selectedEvents := 0, complete := false,
           handed := [] }
  else
    batch.decoded.map fun decoded =>
      { batch, remaining := batch.orderedEvents, selected := none, selectedEvents := 0,
        complete := !decoded.quarantined, handed := [] }

def batchSelectsEvent (network : Network) (maximumDiscoveryAgeMillis : Nat)
    (registry : ObservationWindowRegistry) (batch : ProgramLogBatch) (event : PumpEvent) : Bool :=
  let tracked := eventMatchesConfirmedWindow registry event batch.windowTokens
    batch.receivedTimeUnixMs
  match batch.purpose with
  | .discovery =>
      let selectedDiscovery := match discoverySeed event network with
        | none => false
        | some seed => (batch.windowTokens.any fun token => token.target == seed.target &&
            registry.isOpenAt token batch.receivedTimeUnixMs) &&
            discoveryEventIsFresh event batch.receivedTimeUnixMs maximumDiscoveryAgeMillis
      selectedDiscovery || tracked
  | .trackedActivity => tracked

namespace Processing

/-- One pass of the loop up to the selection of an event. -/
def select (processing : Processing) (network : Network) (maximumDiscoveryAgeMillis : Nat)
    (registry : ObservationWindowRegistry) : Processing :=
  match processing.selected, processing.remaining with
  | none, event :: rest =>
      if batchSelectsEvent network maximumDiscoveryAgeMillis registry processing.batch event.event then
        { processing with
          remaining := rest
          selected := some event
          selectedEvents := processing.selectedEvents + 1 }
      else { processing with remaining := rest }
  | _, _ => processing

/-- The token of the normalized market that is still open. -/
def matchingWindowToken (processing : Processing) (registry : ObservationWindowRegistry)
    (marketTarget : Option ObservationTarget) : Option ObservationWindowToken :=
  marketTarget.bind fun target => processing.batch.windowTokens.find? fun token =>
    token.target == target && registry.isOpenAt token processing.batch.receivedTimeUnixMs

/-- A discovery confirms its token unless the durable window is replayed. -/
def openDiscovery (registry : ObservationWindowRegistry) (token : ObservationWindowToken)
    (windowId : Int) (replayed : Bool) : Bool × ObservationWindowRegistry :=
  if replayed then (true, registry.setCell token (registry.cell token).cancelIfPending)
  else
    match (registry.cell token).confirm with
    | (false, unchanged) => (false, registry.setCell token unchanged)
    | (true, confirmed) =>
        let outcome := confirmed.setDurableWindowId windowId
        (outcome.1, registry.setCell token outcome.2)

/-- The rest of the pass after a selection; an error ends the processing. -/
def store (processing : Processing) (registry : ObservationWindowRegistry) (reply : StoreReply) :
    Option Processing × ObservationWindowRegistry :=
  match processing.selected with
  | none => (some processing, registry)
  | some event =>
      match reply with
      | .quarantined => (some { processing with selected := none, complete := false }, registry)
      | .normalized marketTarget windowId replayed =>
          let stored := { processing with selected := none, handed := processing.handed ++ [event] }
          if isDiscoveryEvent event.event then
            match processing.matchingWindowToken registry marketTarget with
            | none => (none, registry)
            | some token =>
                let outcome := openDiscovery registry token windowId replayed
                (if outcome.1 then some stored else none, outcome.2)
          else (some stored, registry)

/-- A batch with tokens of which no event was selected is not complete. -/
def outcomeComplete (processing : Processing) : Bool :=
  if !processing.batch.windowTokens.isEmpty && processing.selectedEvents == 0 then false
  else processing.complete

/-- The token calls from the end of the loop to the drop of the batch. -/
def finish (processing : Processing) : TokenCalls :=
  let tokens := processing.batch.windowTokens
  let cancels := if processing.batch.purpose = .discovery then
      tokens.map fun token => (token, .cancelIfPending)
    else []
  let marks := if !processing.outcomeComplete then
      tokens.map fun token => (token, .markIncomplete .decodeGap)
    else []
  cancels ++ marks ++ { processing.batch with processingSucceeded := true }.drop

end Processing
end Soldisco.Pipeline

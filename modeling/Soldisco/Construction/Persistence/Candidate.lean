import Soldisco.Construction.Persistence.System

/-
This file embeds the candidate that the discovery worker builds from one claimed observation.
-/

namespace Soldisco.Persistence
open Domain MachineInteger

def validationSource : String := "PUMP_STRUCTURAL_DECODER"

def nonEmpty (value : String) : Option String :=
  let trimmed := Text.trim value.toList
  if trimmed.isEmpty then none else some (String.ofList trimmed)

/-- Only a creation names its token. -/
def candidateNames : ObservationPayload → Option String × Option String
  | .tokenCreated name symbol _ _ _ => (nonEmpty name, nonEmpty symbol)
  | _ => (none, none)

/-- A candidate without a decision and without activity. -/
def discoveryToken (observation : Observation) : DiscoveryToken :=
  let observedAt := observation.sourceEventTimeUnixMs.getD observation.receivedTimeUnixMs
  { mint := observation.market.mint
    name := (candidateNames observation.payload).1
    symbol := (candidateNames observation.payload).2
    primaryVenue := observation.market.venue
    marketAddress := observation.market.marketAddress
    quoteMint := observation.market.quoteMint
    sourceProgram := observation.key.program
    stage := .observed
    lastEventKind := observation.eventKind
    observedSlot := observation.key.coordinate.slot
    firstObservedUnixMs := observedAt
    lastObservedUnixMs := observedAt
    latestSignature := observation.key.coordinate.signature
    activity := {
      trades := 0
      buys := 0
      sells := 0
      uniqueTraders := 0
      baseVolumeUnits := "0"
      quoteVolumeUnits := "0" }
    qualification := none
    riskScore := none
    opportunityScore := none }

def discoveryCandidate (observation : Observation) : DiscoveryObservation where
  token := discoveryToken observation
  validationSource := validationSource
  validationVersion := observation.decoderVersion

end Soldisco.Persistence

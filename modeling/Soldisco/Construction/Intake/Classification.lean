import Soldisco.Construction.Qualification
import Soldisco.Construction.Window.System

/-
This file embeds the classification of a program-log notification. The log scoping and the decoder
enter through the records that they make of the logs of each program.
-/

namespace Soldisco.Intake
open Domain MachineInteger Window

/-- An event carries the accounts and the time that the intake reads. -/
inductive PumpEvent where
  | create (mint : String) (timestamp : Int)
  | trade (mint : String)
  | complete (mint : String)
  | completePumpAmmMigration (mint : String)
  | pumpSwapCreatePool (pool baseMint quoteMint : String) (timestamp : Int)
  | pumpSwapBuy (pool : String)
  | pumpSwapSell (pool : String)
  | pumpSwapDeposit (pool : String)
  | pumpSwapWithdraw (pool : String)
deriving DecidableEq, Repr

inductive BatchPurpose where
  | discovery
  | trackedActivity
deriving DecidableEq, Repr

inductive IntakeDropReason where
  | failedTransaction
  | irrelevant
  | malformedLogs
  | staleDiscovery
deriving DecidableEq, Repr

structure DiscoverySeed where
  target : ObservationTarget
  mint : String
  sourceEventTimeUnixMs : Int
deriving DecidableEq, Repr

inductive NotificationDisposition where
  | fetchDiscovery (seeds : List DiscoverySeed) (trackedWindows : List ObservationWindowToken)
  | collectTrackedActivity (windowTokens : List ObservationWindowToken)
  | drop (reason : IntakeDropReason)
deriving DecidableEq, Repr

def maxSourceClockSkewMillis : Nat := 10000

def isSupportedQuoteMint (network : Network) (mint : String) : Bool :=
  mint == Qualification.nativeSolMint || mint == Qualification.wrappedSolMint ||
    (network == .solanaMainnet && mint == Qualification.canonicalUsdcMint)

inductive PumpSwapSourceOrientation where
  | baseIsToken
  | quoteIsToken
deriving DecidableEq, Repr

structure PumpSwapPair where
  tokenMint : String
  quoteMint : String
  sourceOrientation : PumpSwapSourceOrientation
deriving DecidableEq, Repr

/-- A pair is eligible when exactly one of its mints is a supported quote asset. -/
def normalizePumpSwapPair (network : Network) (sourceBaseMint sourceQuoteMint : String) :
    Option PumpSwapPair :=
  match isSupportedQuoteMint network sourceBaseMint, isSupportedQuoteMint network sourceQuoteMint with
  | false, true => some ⟨sourceBaseMint, sourceQuoteMint, .baseIsToken⟩
  | true, false => some ⟨sourceQuoteMint, sourceBaseMint, .quoteIsToken⟩
  | false, false | true, true => none

def isDiscoveryEvent : PumpEvent → Bool
  | .create _ _ | .pumpSwapCreatePool _ _ _ _ => true
  | _ => false

def discoverySeed (event : PumpEvent) (network : Network) : Option DiscoverySeed :=
  match event with
  | .create mint timestamp =>
      some { target := .pumpMint mint, mint, sourceEventTimeUnixMs := saturatingMul timestamp 1000 }
  | .pumpSwapCreatePool pool baseMint quoteMint timestamp =>
      (normalizePumpSwapPair network baseMint quoteMint).map fun pair =>
        { target := .pumpSwapPool pool, mint := pair.tokenMint,
          sourceEventTimeUnixMs := saturatingMul timestamp 1000 }
  | _ => none

/-- The time of a discovery event lies between its maximum age and the clock skew. -/
def discoveryEventIsFresh (event : PumpEvent) (nowUnixMs : Int) (maximumAgeMillis : Nat) : Bool :=
  match event with
  | .create _ timestamp | .pumpSwapCreatePool _ _ _ timestamp =>
      match checkedI64 (timestamp * 1000) with
      | none => false
      | some eventUnixMs =>
          eventUnixMs ≥ saturatingSub nowUnixMs (i64FromOrMax maximumAgeMillis) &&
            eventUnixMs ≤ saturatingAdd nowUnixMs (i64FromOrMax maxSourceClockSkewMillis)
  | _ => false

def eventTrackingTarget : PumpEvent → Option ObservationTarget
  | .trade mint | .complete mint | .completePumpAmmMigration mint => some (.pumpMint mint)
  | .pumpSwapBuy pool | .pumpSwapSell pool | .pumpSwapDeposit pool | .pumpSwapWithdraw pool =>
      some (.pumpSwapPool pool)
  | .create _ _ | .pumpSwapCreatePool _ _ _ _ => none

def eventMatchesConfirmedWindow (registry : ObservationWindowRegistry) (event : PumpEvent)
    (tokens : List ObservationWindowToken) (observedAtUnixMs : Int) : Bool :=
  match eventTrackingTarget event with
  | none => false
  | some target => tokens.any fun token => token.target == target &&
      (registry.cell token).isConfirmedAt token.window observedAtUnixMs

/-- What the scoping and the decoder make of the logs of one program. -/
structure ProgramRecords where
  malformed : Bool
  coverageGap : Option WindowIncompleteReason
  events : List PumpEvent
deriving DecidableEq, Repr

/-- A notification with the records of both programs. -/
structure ProgramLogNotification where
  signature : String
  slot : Nat
  succeeded : Bool
  pump : ProgramRecords
  pumpSwap : ProgramRecords
deriving DecidableEq, Repr

/-- The values that the loop over the programs fills. -/
structure Classification where
  windows : System
  discoveries : List DiscoverySeed
  trackedWindows : List ObservationWindowToken
  staleDiscovery : Bool
  malformed : Bool

section Classify

variable (network : Network) (maximumDiscoveryAgeMillis : Nat) (observedAtUnixMs nowUnixMs : Int)

/-- A tracked target that no earlier event of the notification has admitted is admitted once. -/
def admitTracked (state : Classification) (target : ObservationTarget) : Classification :=
  if state.trackedWindows.any fun existing => existing.target == target then state
  else
    let outcome := state.windows.registry.admitMatchingToken target observedAtUnixMs
    { state with
      windows := { state.windows with registry := outcome.2 }
      trackedWindows := state.trackedWindows ++ outcome.1.toList }

/-- One pass of the loop over the decoded events. -/
def classifyEvent (state : Classification) (event : PumpEvent) : Classification :=
  match discoverySeed event network with
  | some seed =>
      if discoveryEventIsFresh event nowUnixMs maximumDiscoveryAgeMillis then
        if state.discoveries.any fun existing => existing.target == seed.target then state
        else { state with discoveries := state.discoveries ++ [seed] }
      else { state with staleDiscovery := true }
  | none =>
      match eventTrackingTarget event with
      | some target => admitTracked observedAtUnixMs state target
      | none => state

/-- A coverage gap is recorded before the events of the program are read. -/
def classifyProgram (state : Classification) (program : SourceProgram) (records : ProgramRecords) :
    Classification :=
  let recorded := match records.coverageGap with
    | some reason => (state.windows.registry.recordSourceCoverageGap program observedAtUnixMs reason).2
    | none => state.windows.registry
  records.events.foldl (classifyEvent network maximumDiscoveryAgeMillis observedAtUnixMs nowUnixMs)
    { state with
      windows := { state.windows with registry := recorded }
      malformed := state.malformed || records.malformed }

def classifyNotification (notification : ProgramLogNotification) (windows : System) :
    NotificationDisposition × System :=
  if !notification.succeeded then (.drop .failedTransaction, windows)
  else
    let classify := classifyProgram network maximumDiscoveryAgeMillis observedAtUnixMs nowUnixMs
    let state := classify (classify ⟨windows, [], [], false, false⟩ .pump notification.pump)
      .pumpSwap notification.pumpSwap
    let disposition :=
      if !state.discoveries.isEmpty then .fetchDiscovery state.discoveries state.trackedWindows
      else if !state.trackedWindows.isEmpty then .collectTrackedActivity state.trackedWindows
      else if state.staleDiscovery then .drop .staleDiscovery
      else if state.malformed then .drop .malformedLogs
      else .drop .irrelevant
    (disposition, state.windows)

end Classify
end Soldisco.Intake

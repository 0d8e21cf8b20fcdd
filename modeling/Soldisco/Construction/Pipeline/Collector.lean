import Soldisco.Construction.Pipeline.Batch

/-
This file embeds the collection of one live notification. Each function is the code between two
awaits; the replies of the signature gate, the permit and the node are its inputs.
-/

namespace Soldisco.Pipeline
open Domain MachineInteger Window Intake

structure CollectorRuntimeConfig where
  network : Network
  requestTimeoutMillis : Nat
  maximumDiscoveryAgeMillis : Nat
  observationWindowDurationMillis : Nat
deriving DecidableEq, Repr

structure ReceivedProgramLogNotification where
  subscriptionProgram : SourceProgram
  notification : ProgramLogNotification
  receivedTimeUnixMs : Int
  decoded : Option DecodedBatch
deriving DecidableEq, Repr

structure TransactionRecord where
  slot : Nat
  signature : String
  transactionError : Bool
  decoded : Option DecodedBatch
deriving DecidableEq, Repr

/-- The reply of the node to the one-shot transaction read. -/
inductive TransactionReply where
  | found (transaction : TransactionRecord)
  | unavailable
  | rateLimited
  | failed
  | timedOut
deriving DecidableEq, Repr

inductive CollectorAwait where
  | permit
  | transaction
  | rateLimit
deriving DecidableEq, Repr

/-- A suspended collection owns its tracked admissions and its provisional windows. -/
structure Collector where
  received : ReceivedProgramLogNotification
  trackedWindows : TrackedAdmissionGuard
  guard : ProvisionalWindowGuard
  awaiting : CollectorAwait
deriving DecidableEq, Repr

/-- A collection goes on to its next await or returns its batches and drops its guard. -/
inductive Collected where
  | suspended (collector : Collector)
  | returned (batches : List ProgramLogBatch) (dropped : TokenCalls)
deriving DecidableEq, Repr

def transactionBatch (transaction : TransactionRecord) (receivedTimeUnixMs : Int)
    (purpose : BatchPurpose) (windowTokens : List ObservationWindowToken) : ProgramLogBatch where
  purpose
  slot := transaction.slot
  signature := transaction.signature
  receivedTimeUnixMs
  decoded := transaction.decoded
  transactionError := transaction.transactionError
  windowTokens
  processingSucceeded := false

def notificationBatch (received : ReceivedProgramLogNotification) (purpose : BatchPurpose)
    (windowTokens : List ObservationWindowToken) : ProgramLogBatch where
  purpose
  slot := received.notification.slot
  signature := received.notification.signature
  receivedTimeUnixMs := received.receivedTimeUnixMs
  decoded := received.decoded
  transactionError := !received.notification.succeeded
  windowTokens
  processingSucceeded := false

def trackedActivityOrSkip (received : ReceivedProgramLogNotification)
    (trackedWindows : TrackedAdmissionGuard) : List ProgramLogBatch :=
  if trackedWindows.tokens.isEmpty then []
  else [notificationBatch received .trackedActivity trackedWindows.tokens]

/-- The permit must be granted before the latest source event and the receipt are too old. -/
def discoveryAdmissionTimeout (seeds : List DiscoverySeed) (maximumDiscoveryAgeMillis : Nat)
    (receivedTimeUnixMs nowUnixMs : Int) : Option Int :=
  let maximumAgeMs := i64FromOrMax maximumDiscoveryAgeMillis
  let deadlines := seeds.map fun seed => saturatingAdd seed.sourceEventTimeUnixMs maximumAgeMs
  match deadlines with
  | [] => none
  | first :: rest =>
      let sourceDeadline := rest.foldl (fun latest deadline => if latest ≤ deadline then deadline
        else latest) first
      let receiptDeadline := saturatingAdd receivedTimeUnixMs maximumAgeMs
      let deadline := if sourceDeadline ≤ receiptDeadline then sourceDeadline else receiptDeadline
      (checkedI64 (deadline - nowUnixMs)).filter fun remaining => 0 < remaining

/-- Each seed provisions its window and a newly opened one issues its token. -/
def provisionSeeds (config : CollectorRuntimeConfig) (receivedTimeUnixMs : Int)
    (state : List ObservationWindowProvision × System) (seed : DiscoverySeed) :
    List ObservationWindowProvision × System :=
  let outcome := state.2.registry.provisionTarget seed.target seed.mint receivedTimeUnixMs
    config.observationWindowDurationMillis
  (state.1 ++ [outcome.1], { state.2 with
    registry := outcome.2
    issued := if outcome.1.newlyOpened then state.2.issued ++ [outcome.1.token]
      else state.2.issued })

/-- The early return of a discovery keeps the tracked activity and drops the provisional windows. -/
def Collector.giveUp (collector : Collector) : Collected :=
  .returned (trackedActivityOrSkip collector.received collector.trackedWindows)
    collector.guard.drop

/-- The code from the receipt of a notification to its first await. -/
def collectLiveNotification (config : CollectorRuntimeConfig)
    (received : ReceivedProgramLogNotification) (classifyNow timeoutNow : Int)
    (signatureClaimed : Bool) (windows : System) : Collected × System :=
  let progressed := { windows with
    registry := windows.registry.recordSourceProgress received.subscriptionProgram
      received.receivedTimeUnixMs }
  let classified := classifyNotification config.network config.maximumDiscoveryAgeMillis
    received.receivedTimeUnixMs classifyNow received.notification progressed
  match classified with
  | (.drop _, windows) => (.returned [] [], windows)
  | (.collectTrackedActivity windowTokens, windows) =>
      (.returned (trackedActivityOrSkip received ⟨windowTokens⟩) [], windows)
  | (.fetchDiscovery seeds trackedWindows, windows) =>
      if !signatureClaimed then
        (.returned (trackedActivityOrSkip received ⟨trackedWindows⟩) [], windows)
      else
        let admissionTimeout := discoveryAdmissionTimeout seeds config.maximumDiscoveryAgeMillis
          received.receivedTimeUnixMs timeoutNow
        let provisioned := seeds.foldl (provisionSeeds config received.receivedTimeUnixMs)
          ([], windows)
        let guarded := ProvisionalWindowGuard.new provisioned.1 provisioned.2.registry
        let collector : Collector :=
          { received, trackedWindows := ⟨trackedWindows⟩, guard := guarded.1, awaiting := .permit }
        let opened := { provisioned.2 with registry := guarded.2 }
        if admissionTimeout.isNone ||
            !guarded.1.hasNewOpenTokenAt guarded.2 received.receivedTimeUnixMs then
          (collector.giveUp, opened)
        else (.suspended collector, opened)

/-- The code after the wait for the permit. -/
def Collector.resumePermit (collector : Collector) (acquired : Bool)
    (registry : ObservationWindowRegistry) : Collected :=
  if !acquired then collector.giveUp
  else if !collector.guard.hasNewOpenTokenAt registry collector.received.receivedTimeUnixMs then
    collector.giveUp
  else .suspended { collector with awaiting := .transaction }

/-- A transaction that matches the notification hands the new tokens to the discovery batch. -/
def Collector.discovered (collector : Collector) (transaction : TransactionRecord) : Collected :=
  let received := collector.received
  let discovery := transactionBatch transaction received.receivedTimeUnixMs .discovery
    collector.guard.newTokens
  let tracked := if collector.trackedWindows.tokens.isEmpty then []
    else [transactionBatch transaction received.receivedTimeUnixMs .trackedActivity
      collector.trackedWindows.tokens]
  .returned (discovery :: tracked) []

/-- The code after the wait for the transaction. -/
def Collector.resumeTransaction (collector : Collector) (reply : TransactionReply) : Collected :=
  match reply with
  | .unavailable | .failed | .timedOut => collector.giveUp
  | .rateLimited => .suspended { collector with awaiting := .rateLimit }
  | .found transaction =>
      let notification := collector.received.notification
      if transaction.slot ≠ notification.slot || transaction.signature ≠ notification.signature ||
          transaction.transactionError then collector.giveUp
      else collector.discovered transaction

end Soldisco.Pipeline

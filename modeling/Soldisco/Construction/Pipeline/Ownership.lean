import Soldisco.Construction.Pipeline.System

/-
This file counts the admissions that the live owners hold and states when a token is exposed:
between the two loads of a settlement, and when the event loop passes over an event of its window.
-/

namespace Soldisco.Pipeline
open Domain Window Intake

/-- A live owner of admissions. -/
inductive Owner where
  | collector (collector : Collector)
  | batch (batch : ProgramLogBatch)
  | processing (processing : Processing)
  | release (release : Release)
deriving DecidableEq, Repr

/-- The settlements of the token that the calls still have to perform. -/
def TokenCalls.settlements (calls : TokenCalls) (token : ObservationWindowToken) : Nat :=
  calls.countP fun entry => entry.1 == token && isSettlement entry.2

/-- The entries of one token that an owner holds. A drop holds the entries it has not settled. -/
def Owner.holds (token : ObservationWindowToken) : Owner → Nat
  | .collector current => current.trackedWindows.tokens.count token +
      if current.guard.armed then current.guard.newTokens.count token else 0
  | .batch current => current.windowTokens.count token
  | .processing current => current.batch.windowTokens.count token
  | .release current => TokenCalls.settlements current.calls token

namespace State

/-- The batches between the collectors and the processor. -/
def waiting (state : State) : List ProgramLogBatch :=
  state.outgoing ++ state.queue ++ state.pendingActivity.batches.map PendingActivityBatch.batch ++
    state.ready

def owners (state : State) : List Owner :=
  state.collectors.map .collector ++ state.waiting.map .batch ++
    state.processing.toList.map .processing ++ state.releases.map .release

def held (state : State) (token : ObservationWindowToken) : Nat :=
  (state.owners.map (Owner.holds token)).sum

/-- The admitted counts that settlements of the token have loaded and not yet compared with the
settled count. -/
def loadedCounts (state : State) (token : ObservationWindowToken) : List Nat :=
  state.releases.flatMap fun release => release.calls.filterMap fun entry =>
    match entry.2 with
    | .settledLoad loaded => if entry.1 = token then some loaded else none
    | _ => none

/-- The token of which the step settles an admission: its exchange finds the count that it loaded. -/
def settling (state : State) : Action → Option ObservationWindowToken
  | .release index spuriousFailure =>
      (state.releases[index]?.bind fun release => release.calls.head?).bind fun entry =>
        match entry.2 with
        | .settledExchange _ settled =>
            if (state.windows.registry.cell entry.1).settled = settled ∧ !spuriousFailure then
              some entry.1
            else none
        | _ => none
  | _ => none

end State

/-- No settlement brings the settled count of a token up to an admitted count that another settlement
of the token has loaded and not yet compared. -/
def LoadsUnreached (state : State) (action : Action) : Prop :=
  ∀ token ∈ state.settling action, ∀ loaded ∈ state.loadedCounts token,
    (state.windows.registry.cell token).settled + 1 < loaded

instance (state : State) (action : Action) : Decidable (LoadsUnreached state action) :=
  inferInstanceAs (Decidable (∀ token ∈ state.settling action, ∀ loaded ∈ state.loadedCounts token,
    (state.windows.registry.cell token).settled + 1 < loaded))

/-- The event names the target of the token. -/
def tracksToken (token : ObservationWindowToken) (event : DecodedEvent) : Bool :=
  eventTrackingTarget event.event == some token.target

/-- The events that the loop has gone over so far. -/
def Processing.passed (processing : Processing) : List DecodedEvent :=
  processing.batch.orderedEvents.take
    (processing.batch.orderedEvents.length - processing.remaining.length)

/-- After a selection, the next pass of a complete tracked batch passes over no event of a pending
window. The first selection comes when no earlier event belongs to a window that is pending or was
confirmed since. A window that is marked incomplete is excused. -/
def Processing.Resolved (processing : Processing) (network : Network)
    (maximumDiscoveryAgeMillis : Nat) (registry : ObservationWindowRegistry) : Prop :=
  processing.batch.purpose = .trackedActivity → processing.complete = true →
    processing.selected = none → ∀ event ∈ processing.remaining.head?,
    if batchSelectsEvent network maximumDiscoveryAgeMillis registry processing.batch event.event then
      processing.selectedEvents = 0 → ∀ earlier ∈ processing.passed,
        ∀ token ∈ processing.batch.windowTokens, tracksToken token earlier = true →
        (registry.cell token).status = .cancelled ∨ (registry.cell token).incompleteReason ≠ none
    else
      processing.selectedEvents ≠ 0 →
        ∀ token ∈ processing.batch.windowTokens, tracksToken token event = true →
        (registry.cell token).status ≠ .pending ∨ (registry.cell token).incompleteReason ≠ none

instance (processing : Processing) (network : Network) (maximumDiscoveryAgeMillis : Nat)
    (registry : ObservationWindowRegistry) :
    Decidable (processing.Resolved network maximumDiscoveryAgeMillis registry) :=
  inferInstanceAs (Decidable (processing.batch.purpose = .trackedActivity →
    processing.complete = true → processing.selected = none → ∀ event ∈ processing.remaining.head?,
    if batchSelectsEvent network maximumDiscoveryAgeMillis registry processing.batch event.event then
      processing.selectedEvents = 0 → ∀ earlier ∈ processing.passed,
        ∀ token ∈ processing.batch.windowTokens, tracksToken token earlier = true →
        (registry.cell token).status = .cancelled ∨ (registry.cell token).incompleteReason ≠ none
    else
      processing.selectedEvents ≠ 0 →
        ∀ token ∈ processing.batch.windowTokens, tracksToken token event = true →
        (registry.cell token).status ≠ .pending ∨ (registry.cell token).incompleteReason ≠ none))

/-- The event loop leaves no event of a tracked batch behind whose window can still end complete. -/
def WindowsResolved (config : PipelineConfig) (state : State) (action : Action) : Prop :=
  action = .select → ∀ processing ∈ state.processing, processing.Resolved config.collector.network
    config.collector.maximumDiscoveryAgeMillis state.windows.registry

instance (config : PipelineConfig) (state : State) (action : Action) :
    Decidable (WindowsResolved config state action) :=
  inferInstanceAs (Decidable (action = .select → ∀ processing ∈ state.processing,
    processing.Resolved config.collector.network config.collector.maximumDiscoveryAgeMillis
      state.windows.registry))

/-- Every event of the batch on the target of the token was handed to the database. -/
def Delivered (batch : ProgramLogBatch) (handed : List DecodedEvent)
    (token : ObservationWindowToken) : Prop :=
  handed.filter (tracksToken token) = batch.orderedEvents.filter (tracksToken token)

instance (batch : ProgramLogBatch) (handed : List DecodedEvent) (token : ObservationWindowToken) :
    Decidable (Delivered batch handed token) :=
  inferInstanceAs (Decidable (handed.filter (tracksToken token) =
    batch.orderedEvents.filter (tracksToken token)))

end Soldisco.Pipeline

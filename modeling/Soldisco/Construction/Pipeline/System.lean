import Soldisco.Construction.Pipeline.Collector
import Soldisco.Construction.Pipeline.Processor

/-
This file composes the collectors, the queue and the processor over one registry. The code between
two awaits is one step and any future can be dropped at its await. A drop runs in its own thread,
so each of its atomic operations is one step.
-/

namespace Soldisco.Pipeline
open Domain Window Intake

structure PipelineConfig where
  collector : CollectorRuntimeConfig
  queueCapacity : Nat
  queueCapacityPositive : 0 < queueCapacity
  maximumActive : Nat
  maximumActivePositive : 0 < maximumActive

/-- A drop in progress remembers what the processing of its batch has returned. -/
structure Release where
  batch : Option ProgramLogBatch
  handed : List DecodedEvent
  completed : Bool
  calls : TokenCalls
deriving DecidableEq, Repr

/-- The return of one settlement with the cell that it started from. -/
structure Settlement where
  token : ObservationWindowToken
  batch : Option ProgramLogBatch
  handed : List DecodedEvent
  completed : Bool
  cell : TokenCell
  returned : Bool
deriving DecidableEq, Repr

structure State where
  windows : System
  collectors : List Collector
  outgoing : List ProgramLogBatch
  queue : List ProgramLogBatch
  pendingActivity : PendingActivityQueue
  ready : List ProgramLogBatch
  processing : Option Processing
  releases : List Release
  settlements : List Settlement

/-- The actions are the code between two awaits, the drops and the atomic operations of a drop. -/
inductive Action where
  | window (action : Window.Action)
  | notify (received : ReceivedProgramLogNotification) (classifyNow timeoutNow : Int)
      (signatureClaimed : Bool)
  | permit (index : Nat) (acquired : Bool)
  | transaction (index : Nat) (reply : TransactionReply)
  | rateLimitRecorded (index : Nat)
  | dropCollector (index : Nat)
  | send (index : Nat)
  | dropOutgoing (index : Nat)
  | receive (nowUnixMs : Int)
  | dropQueued (index : Nat)
  | drain (nowUnixMs : Int)
  | dropPending (index : Nat)
  | dropReady (index : Nat)
  | process
  | select
  | store (reply : StoreReply)
  | finish
  | abandon
  | release (index : Nat) (spuriousFailure : Bool)
deriving DecidableEq, Repr

/-- The finalizer and the supervisor use the registry without admitting or confirming. -/
def isForeign : Window.Action → Bool
  | .activeCount _ | .finalizationCandidates _ | .claimFinalization _ | .cleanupFinalized
  | .cancelAllConfirmed _ | .cancelSourceConfirmed _ _ | .commitClaim _ | .dropClaim _ => true
  | _ => false

def isSettlement : TokenCall → Bool
  | .markSettled | .settledLoad _ | .settledExchange _ _ => true
  | _ => false

namespace State

def new (config : PipelineConfig) : State where
  windows := .new config.maximumActive config.maximumActivePositive
  collectors := []
  outgoing := []
  queue := []
  pendingActivity := {
    capacity := config.queueCapacity
    maximumHoldMillis := config.collector.maximumDiscoveryAgeMillis +
      config.collector.requestTimeoutMillis
    batches := [] }
  ready := []
  processing := none
  releases := []
  settlements := []

def dropped (state : State) (batch : Option ProgramLogBatch) (calls : TokenCalls) : State :=
  { state with
    releases := state.releases ++ [{ batch, handed := [], completed := false, calls }] }

/-- A batch that is dropped was not processed. -/
def dropBatch (state : State) (batch : ProgramLogBatch) : State :=
  state.dropped (some batch) batch.drop

/-- The outcome of a collection leaves its batches for the source task. -/
def collect (state : State) : Collected → State
  | .suspended collector => { state with collectors := state.collectors ++ [collector] }
  | .returned batches calls =>
      { state with outgoing := state.outgoing ++ batches }.dropped none calls

/-- A suspended collection that awaits the given reply goes on with it. -/
def resume (state : State) (index : Nat) (awaiting : CollectorAwait)
    (next : Collector → Collected) : State :=
  match state.collectors[index]? with
  | none => state
  | some collector =>
      if collector.awaiting = awaiting then
        { state with collectors := state.collectors.eraseIdx index }.collect (next collector)
      else state

def receive (state : State) (nowUnixMs : Int) : State :=
  match state.queue with
  | [] => state
  | batch :: rest =>
      let outcome := state.pendingActivity.admitBatch state.windows.registry batch nowUnixMs
      let received := { state with queue := rest, pendingActivity := outcome.2 }
      match outcome.1 with
      | .ready batch => { received with ready := received.ready ++ [batch] }
      | .deferred => received
      | .dropped calls => received.dropped (some batch) calls

def drain (state : State) (nowUnixMs : Int) : State :=
  let outcome := state.pendingActivity.drainResolved state.windows.registry nowUnixMs
  { state with pendingActivity := outcome.2, ready := state.ready ++ outcome.1 }

/-- The processor takes one batch at a time. -/
def process (state : State) : State :=
  match state.processing, state.ready with
  | none, batch :: rest =>
      match batch.process with
      | some processing => { state with ready := rest, processing := some processing }
      | none => { state with ready := rest }.dropBatch batch
  | _, _ => state

def store (state : State) (reply : StoreReply) : State :=
  match state.processing with
  | none => state
  | some processing =>
      let outcome := processing.store state.windows.registry reply
      let stored := { state with
        windows := { state.windows with registry := outcome.2 }
        processing := outcome.1 }
      if outcome.1.isSome then stored else stored.dropBatch processing.batch

def finish (state : State) : State :=
  match state.processing with
  | none => state
  | some processing =>
      if processing.selected.isNone && processing.remaining.isEmpty then
        { state with
          processing := none
          releases := state.releases ++ [{
            batch := some processing.batch
            handed := processing.handed
            completed := processing.outcomeComplete
            calls := processing.finish }] }
      else state

/-- One drop performs its next atomic operation. -/
def release (state : State) (index : Nat) (spuriousFailure : Bool) : State :=
  match state.releases[index]? with
  | none => state
  | some current =>
      match current.calls with
      | [] => { state with releases := state.releases.eraseIdx index }
      | (token, call) :: rest =>
          let cell := state.windows.registry.cell token
          let outcome := call.advance spuriousFailure cell
          let moved := { state with
            windows := { state.windows with
              registry := state.windows.registry.setCell token outcome.2 } }
          match outcome.1 with
          | .running next => { moved with
              releases := state.releases.set index { current with calls := (token, next) :: rest } }
          | .returned returned => { moved with
              releases := state.releases.set index { current with calls := rest }
              settlements := if isSettlement call then state.settlements ++ [{
                  token, batch := current.batch, handed := current.handed,
                  completed := current.completed, cell, returned }]
                else state.settlements }

def next (config : PipelineConfig) (state : State) : Action → State
  | .window action =>
      if isForeign action then { state with windows := (state.windows.step action).2 } else state
  | .notify received classifyNow timeoutNow signatureClaimed =>
      let outcome := collectLiveNotification config.collector received classifyNow timeoutNow
        signatureClaimed state.windows
      { state with windows := outcome.2 }.collect outcome.1
  | .permit index acquired => state.resume index .permit fun collector =>
      collector.resumePermit acquired state.windows.registry
  | .transaction index reply => state.resume index .transaction fun collector =>
      collector.resumeTransaction reply
  | .rateLimitRecorded index => state.resume index .rateLimit Collector.giveUp
  | .dropCollector index =>
      match state.collectors[index]? with
      | none => state
      | some collector =>
          { state with collectors := state.collectors.eraseIdx index }.dropped none
            (collector.guard.drop ++ collector.trackedWindows.drop)
  | .send index =>
      match state.outgoing[index]? with
      | none => state
      | some batch =>
          if state.queue.length < config.queueCapacity then
            { state with
              outgoing := state.outgoing.eraseIdx index
              queue := state.queue ++ [batch] }
          else state
  | .dropOutgoing index =>
      match state.outgoing[index]? with
      | none => state
      | some batch => { state with outgoing := state.outgoing.eraseIdx index }.dropBatch batch
  | .receive nowUnixMs => state.receive nowUnixMs
  | .dropQueued index =>
      match state.queue[index]? with
      | none => state
      | some batch => { state with queue := state.queue.eraseIdx index }.dropBatch batch
  | .drain nowUnixMs => state.drain nowUnixMs
  | .dropPending index =>
      match state.pendingActivity.batches[index]? with
      | none => state
      | some pending =>
          { state with pendingActivity := { state.pendingActivity with
              batches := state.pendingActivity.batches.eraseIdx index } }.dropBatch pending.batch
  | .dropReady index =>
      match state.ready[index]? with
      | none => state
      | some batch => { state with ready := state.ready.eraseIdx index }.dropBatch batch
  | .process => state.process
  | .select =>
      { state with
        processing := state.processing.map fun processing =>
          processing.select config.collector.network config.collector.maximumDiscoveryAgeMillis
            state.windows.registry }
  | .store reply => state.store reply
  | .finish => state.finish
  | .abandon =>
      match state.processing with
      | none => state
      | some processing => { state with processing := none }.dropBatch processing.batch
  | .release index spuriousFailure => state.release index spuriousFailure

def step (config : PipelineConfig) (state : State) (action : Action) : Unit × State :=
  ((), state.next config action)

def execute (config : PipelineConfig) (actions : List Action) : State :=
  Transition.run (step config) (new config) actions

end State
end Soldisco.Pipeline

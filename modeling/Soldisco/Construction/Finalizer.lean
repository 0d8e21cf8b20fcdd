import Soldisco.Construction.Persistence.System
import Soldisco.Construction.Window.System

/-
This file interleaves the qualification finalizer with the registry, the database and the other
tasks. A step of the worker is its code around one registry call or one database request.
-/

namespace Soldisco.Finalizer
open Domain Window Persistence

/-- The durations are milliseconds of the monotonic clock. -/
def finalizerRetryDelay : Nat := 1000

def shutdownDrainLimit : Nat := 2000

/-- The schedule holds the earliest next attempt of each deferred window. -/
structure FinalizationRetrySchedule where
  retryAt : Table Int Nat

namespace FinalizationRetrySchedule

def default : FinalizationRetrySchedule := ⟨∅⟩

def isDue (schedule : FinalizationRetrySchedule) (windowId : Int) (now : Nat) : Bool :=
  (schedule.retryAt.lookup windowId).all (· ≤ now)

def defer (schedule : FinalizationRetrySchedule) (windowId : Int) (now delay : Nat) :
    FinalizationRetrySchedule := ⟨schedule.retryAt.insert windowId (now + delay)⟩

def clear (schedule : FinalizationRetrySchedule) (windowId : Int) : FinalizationRetrySchedule :=
  ⟨schedule.retryAt.erase windowId⟩

end FinalizationRetrySchedule

inductive QualificationWorkerError where
  | persistence (error : PersistenceError)
  | windowIdOutOfRange
deriving DecidableEq, Repr

/-- The sweeps over stored windows, which no claim protects. -/
inductive Recovery where
  | abandoned
  | shutdown
deriving DecidableEq, Repr

def Recovery.reason : Recovery → WindowIncompleteReason
  | .abandoned => .pipelineRestarted
  | .shutdown => .streamStopped

/-- The loop that waits for an attempt and what is left of it. -/
inductive Caller where
  | readyTokens (rest : List ObservationWindowToken)
  | recovery (kind : Recovery) (rest : List Int)
deriving DecidableEq, Repr

/-- The database request that an attempt waits for. -/
inductive Request where
  | readiness
  | windowRow (incompleteReason : Option WindowIncompleteReason)
  | windowObservations (incompleteReason : Option WindowIncompleteReason) (row : WindowIdentityRow)
  | finalization (finalized : FinalizeDiscoveryWindow)
deriving DecidableEq, Repr

structure Attempt where
  caller : Caller
  windowId : Int
  incompleteReason : Option WindowIncompleteReason
  request : Request
deriving DecidableEq, Repr

/-- The worker returns, or its future is dropped. -/
inductive Ending where
  | returned (result : Except QualificationWorkerError Unit)
  | aborted

/-- The next step of the worker. An ending with a live claim drops the claim first. -/
inductive Point where
  | polling
  | readyTokens (rest : List ObservationWindowToken)
  | attempting (attempt : Attempt)
  | committing (rest : List ObservationWindowToken)
  | releasing (rest : List ObservationWindowToken)
  | failing (ending : Ending)
  | loadingWindows (kind : Recovery)
  | draining
  | checkingActive
  | stopped (ending : Ending)

/-- The deadline is set once the shutdown drain has begun. -/
structure Worker where
  collectorRunId : String
  retries : FinalizationRetrySchedule
  drainDeadline : Option Nat
  point : Point

/-- A request is answered, fails, or commits without an answer. -/
inductive Reply where
  | delivered
  | failed
  | lost
deriving DecidableEq, Repr

/-- The branch that the worker selects among those that are ready. -/
inductive Branch where
  | cancelled
  | tick
  | abandonedTick
deriving DecidableEq, Repr

/-- The surroundings of a worker step: the branch, the two wall clocks and the database reply. -/
structure WorkerInput where
  branch : Branch
  nowUnixMs : Int
  databaseNowUnixMs : Int
  reply : Reply
deriving DecidableEq, Repr

def Reply.answer {Result : Type} (reply : Reply) (result : Except PersistenceError Result) :
    Except PersistenceError Result :=
  if reply = .delivered then result else .error .database

def terminalIncompleteReason (readiness : DiscoveryWindowProjectionReadiness)
    (incompleteReason : Option WindowIncompleteReason) : Option WindowIncompleteReason :=
  if readiness = .openingProjectionUnavailable then some .processingFailed else incompleteReason

/-- Evidence that has yet to settle defers the window; every other error ends the worker. -/
def attemptOutcome : Except PersistenceError Bool → Except PersistenceError (Option Bool)
  | .ok committed => .ok (some committed)
  | .error (.discoveryWindowProjectionMissing _) => .ok none
  | .error (.discoveryWindowEvidenceChanged _) => .ok none
  | .error error => .error error

namespace Worker

def goTo (worker : Worker) (point : Point) : Worker := { worker with point }

def returned (worker : Worker) (result : Except QualificationWorkerError Unit) : Worker :=
  worker.goTo (.stopped (.returned result))

/-- The drain retries without a delay. -/
def retryDelay (worker : Worker) : Nat :=
  if worker.drainDeadline.isSome then 0 else finalizerRetryDelay

/-- A recovery sweep attempts its next window or ends. -/
def recoverNext (worker : Worker) (kind : Recovery) : List Int → Worker
  | windowId :: rest => worker.goTo (.attempting {
      caller := .recovery kind rest
      windowId
      incompleteReason := some kind.reason
      request := .readiness })
  | [] => match kind with
    | .abandoned => worker.goTo .polling
    | .shutdown => worker.returned (.ok ())

/-- The loop goes on with the outcome of its attempt. -/
def attemptReturned (worker : Worker) (instant : Nat) (attempt : Attempt)
    (outcome : Except PersistenceError (Option Bool)) : Worker :=
  match attempt.caller, outcome with
  | .readyTokens rest, .ok none => { worker with
      retries := worker.retries.defer attempt.windowId instant worker.retryDelay
      point := .releasing rest }
  | .readyTokens rest, .ok (some _) => { worker with
      retries := worker.retries.clear attempt.windowId
      point := .committing rest }
  | .readyTokens _, .error error =>
      worker.goTo (.failing (.returned (.error (.persistence error))))
  | .recovery kind rest, .ok _ => worker.recoverNext kind rest
  | .recovery _ _, .error error => worker.returned (.error (.persistence error))

end Worker

structure State where
  windows : Window.System
  database : Database
  instant : Nat
  cancelled : Bool
  worker : Worker

namespace State

/-- The finalizer starts over a fresh registry and the database of earlier runs. -/
def start (maximumActive : Nat) (capacityPositive : 0 < maximumActive) (database : Database)
    (collectorRunId : String) : State where
  windows := .new maximumActive capacityPositive
  database
  instant := 0
  cancelled := false
  worker := { collectorRunId, retries := .default, drainDeadline := none, point := .polling }

def registryCall (state : State) (action : Window.Action) : State :=
  { state with windows := (state.windows.step action).2 }

def goTo (state : State) (point : Point) : State :=
  { state with worker := state.worker.goTo point }

def resume (state : State) (worker : Worker) : State := { state with worker }

/-- The sweep over the ready tokens starts with the candidates of the registry. -/
def findReadyTokens (state : State) (nowUnixMs : Int) : State :=
  (state.registryCall (.finalizationCandidates nowUnixMs)).goTo
    (.readyTokens (state.windows.registry.finalizationCandidates nowUnixMs).1)

/-- The identifier of a candidate never changes, so it is read in the step of the claim. -/
def claimToken (state : State) (token : ObservationWindowToken)
    (rest : List ObservationWindowToken) : State :=
  match (state.windows.registry.cell token).durableWindowId with
  | none => state.resume (state.worker.returned (.error .windowIdOutOfRange))
  | some windowId =>
      if state.worker.retries.isDue windowId state.instant then
        match (state.windows.registry.claimFinalization token).1 with
        | none => state.goTo (.readyTokens rest)
        | some claim => (state.registryCall (.claimFinalization token)).goTo (.attempting {
            caller := .readyTokens rest
            windowId
            incompleteReason := claim.incompleteReason
            request := .readiness })
      else state.goTo (.readyTokens rest)

def attemptReturned (state : State) (attempt : Attempt)
    (outcome : Except PersistenceError (Option Bool)) : State :=
  state.resume (state.worker.attemptReturned state.instant attempt outcome)

def attemptRequests (state : State) (attempt : Attempt) (request : Request) : State :=
  state.goTo (.attempting { attempt with request })

/-- An attempt asks for the readiness, the window and its members, and then finalizes the window.
A window that this attempt has changed is published. -/
def attemptStep (state : State) (input : WorkerInput) (attempt : Attempt) : Option Int × State :=
  match attempt.request with
  | .readiness =>
      match input.reply.answer
          (loadDiscoveryWindowProjectionReadiness state.database attempt.windowId) with
      | .error error => (none, state.attemptReturned attempt (.error error))
      | .ok readiness =>
          if readiness = .pending then (none, state.attemptReturned attempt (.ok none))
          else (none, state.attemptRequests attempt
            (.windowRow (terminalIncompleteReason readiness attempt.incompleteReason)))
  | .windowRow incompleteReason =>
      match input.reply.answer (match state.database.windows.lookup attempt.windowId with
          | some row => .ok row.toWindowIdentityRow
          | none => .error .database) with
      | .error error => (none, state.attemptReturned attempt (attemptOutcome (.error error)))
      | .ok row => (none, state.attemptRequests attempt (.windowObservations incompleteReason row))
  | .windowObservations incompleteReason row =>
      match (do
          let window ← input.reply.answer
            (row.intoRecord (loadWindowObservations state.database attempt.windowId))
          buildDiscoveryWindowFinalization window input.nowUnixMs
            (incompleteReason.map WindowIncompleteReason.asStr)) with
      | .error error => (none, state.attemptReturned attempt (attemptOutcome (.error error)))
      | .ok finalized => (none, state.attemptRequests attempt (.finalization finalized))
  | .finalization finalized =>
      if input.reply = .failed then (none, state.attemptReturned attempt (.error .database))
      else
        match finalizeDiscoveryWindow greatestZero input.databaseNowUnixMs state.database
            finalized with
        | .error error => (none, state.attemptReturned attempt (attemptOutcome (.error error)))
        | .ok (committed, database) =>
            let committedState : State := { state with database }
            if input.reply = .lost then
              (none, committedState.attemptReturned attempt (.error .database))
            else (if committed then some attempt.windowId else none,
              committedState.attemptReturned attempt (.ok (some committed)))

/-- The stored windows of a recovery sweep. -/
def recoveryWindows (state : State) : Recovery → Except PersistenceError (List Int)
  | .abandoned =>
      loadInterruptedDiscoveryWindowIds state.database state.worker.collectorRunId
  | .shutdown =>
      loadActiveDiscoveryWindowIds state.database (some state.worker.collectorRunId)

/-- The select branches of the polling loop. -/
def poll (state : State) (input : WorkerInput) : State :=
  match input.branch with
  | .cancelled =>
      if state.cancelled then
        (state.registryCall (.cancelAllConfirmed .streamStopped)).resume { state.worker with
          retries := .default
          drainDeadline := some (state.instant + shutdownDrainLimit)
          point := .draining }
      else state
  | .tick => state.findReadyTokens input.nowUnixMs
  | .abandonedTick => state.goTo (.loadingWindows .abandoned)

def workerStep (state : State) (input : WorkerInput) : Option Int × State :=
  match state.worker.point with
  | .polling => (none, state.poll input)
  | .readyTokens (token :: rest) => (none, state.claimToken token rest)
  | .readyTokens [] =>
      (none, (state.registryCall .cleanupFinalized).goTo
        (if state.worker.drainDeadline.isSome then .checkingActive else .polling))
  | .attempting attempt => state.attemptStep input attempt
  -- The claim is the only one that is live.
  | .committing rest => (none, (state.registryCall (.commitClaim 0)).goTo (.releasing rest))
  | .releasing rest => (none, (state.registryCall (.dropClaim 0)).goTo (.readyTokens rest))
  | .failing ending => (none, (state.registryCall (.dropClaim 0)).goTo (.stopped ending))
  | .loadingWindows kind =>
      match input.reply.answer (state.recoveryWindows kind) with
      | .error error => (none, state.resume (state.worker.returned (.error (.persistence error))))
      | .ok windowIds => (none, state.resume (state.worker.recoverNext kind windowIds))
  | .draining =>
      if state.worker.drainDeadline.any (state.instant < ·) then
        (none, state.findReadyTokens input.nowUnixMs)
      else (none, state.goTo (.loadingWindows .shutdown))
  | .checkingActive =>
      match input.reply.answer (state.recoveryWindows .shutdown) with
      | .error error => (none, state.resume (state.worker.returned (.error (.persistence error))))
      | .ok [] => (none, state.resume (state.worker.returned (.ok ())))
      -- The next pass of the drain loop follows a short sleep.
      | .ok (_ :: _) => (none, state.goTo .draining)
  | .stopped _ => (none, state)

/-- A dropped future ends at an await and drops the claim that it holds. -/
def abort (state : State) : State :=
  match state.worker.point with
  | .attempting attempt =>
      match attempt.caller with
      | .readyTokens _ => state.goTo (.failing .aborted)
      | .recovery _ _ => state.goTo (.stopped .aborted)
  | .polling | .loadingWindows _ | .draining | .checkingActive => state.goTo (.stopped .aborted)
  | .readyTokens _ | .committing _ | .releasing _ | .failing _ | .stopped _ => state

end State

/-- The claims and the final mark belong to the finalizer. -/
def isShared : Window.Action → Bool
  | .claimFinalization _ | .commitClaim _ | .dropClaim _ | .invoke _ .markFinalized => false
  | _ => true

/-- The finalization of a window belongs to the finalizer. -/
def isForeign : DatabaseAction → Bool
  | .finalizeDiscoveryWindow _ _ => false
  | _ => true

/-- The other tasks use the registry and the database at any time. -/
inductive Action where
  | registry (action : Window.Action)
  | database (action : DatabaseAction)
  | elapse (duration : Nat)
  | cancel
  | abort
  | work (input : WorkerInput)

/-- The output is the window whose finalization the step publishes. -/
def step (isBase64 : String → Bool) (state : State) : Action → Option Int × State
  | .registry action => (none, if isShared action then state.registryCall action else state)
  | .database action => (none, if isForeign action then
      { state with database := (Persistence.step isBase64 state.database action).2 } else state)
  | .elapse duration => (none, { state with instant := state.instant + duration })
  | .cancel => (none, { state with cancelled := true })
  | .abort => (none, state.abort)
  | .work input => state.workerStep input

end Soldisco.Finalizer

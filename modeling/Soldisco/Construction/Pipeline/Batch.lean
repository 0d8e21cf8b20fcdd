import Mathlib.Data.List.Sort
import Soldisco.Construction.Intake.Classification

/-
This file embeds the owners of admissions: the two collector guards, the batch and the pending queue.
The drop of an owner is the list of token calls that it performs in order.
-/

namespace Soldisco.Pipeline
open Domain MachineInteger Window Intake

/-- The token calls that a thread still has to perform. -/
abbrev TokenCalls := List (ObservationWindowToken × TokenCall)

/-- A decoded event with the coordinate that orders it. -/
structure DecodedEvent where
  program : SourceProgram
  instructionIndex : Nat
  eventIndex : Nat
  event : PumpEvent
deriving DecidableEq, Repr

/-- What the decoder makes of a batch. -/
structure DecodedBatch where
  events : List DecodedEvent
  quarantined : Bool
deriving DecidableEq, Repr

/-- The logs and instructions enter as their decoded form, which is absent when decoding fails. -/
structure ProgramLogBatch where
  purpose : BatchPurpose
  slot : Nat
  signature : String
  receivedTimeUnixMs : Int
  decoded : Option DecodedBatch
  transactionError : Bool
  windowTokens : List ObservationWindowToken
  processingSucceeded : Bool
deriving DecidableEq, Repr

/-- The drop of an owner marks each token before it settles it. -/
def settleMarked (tokens : List ObservationWindowToken) (marks : List TokenCall) : TokenCalls :=
  tokens.flatMap fun token => (marks ++ [TokenCall.markSettled]).map fun call => (token, call)

def ProgramLogBatch.drop (batch : ProgramLogBatch) : TokenCalls :=
  settleMarked batch.windowTokens
    (if batch.processingSucceeded then [] else [.markIncomplete .processingFailed])

structure TrackedAdmissionGuard where
  tokens : List ObservationWindowToken
deriving DecidableEq, Repr

def TrackedAdmissionGuard.drop (guard : TrackedAdmissionGuard) : TokenCalls :=
  settleMarked guard.tokens [.markIncomplete .processingFailed]

structure ProvisionalWindowGuard where
  provisions : List ObservationWindowProvision
  armed : Bool
deriving DecidableEq, Repr

namespace ProvisionalWindowGuard

/-- A new token that cannot be admitted is cancelled. -/
def admitProvision (registry : ObservationWindowRegistry) (provision : ObservationWindowProvision) :
    ObservationWindowRegistry :=
  if provision.newlyOpened then
    match (registry.cell provision.token).markAdmitted with
    | (true, admitted) => registry.setCell provision.token admitted
    | (false, rejected) =>
        registry.setCell provision.token (rejected.cancelWithReason .queueOverflow)
  else registry

def new (provisions : List ObservationWindowProvision) (registry : ObservationWindowRegistry) :
    ProvisionalWindowGuard × ObservationWindowRegistry :=
  ({ provisions, armed := true }, provisions.foldl admitProvision registry)

def newTokens (guard : ProvisionalWindowGuard) : List ObservationWindowToken :=
  (guard.provisions.filter ObservationWindowProvision.newlyOpened).map
    ObservationWindowProvision.token

def hasNewOpenTokenAt (guard : ProvisionalWindowGuard) (registry : ObservationWindowRegistry)
    (observedAtUnixMs : Int) : Bool :=
  guard.provisions.any fun provision =>
    provision.newlyOpened && registry.isOpenAt provision.token observedAtUnixMs

/-- The armed guard cancels all its new tokens before it settles the first. -/
def drop (guard : ProvisionalWindowGuard) : TokenCalls :=
  if guard.armed then
    (guard.newTokens.map fun token => (token, .cancelIfPending)) ++ settleMarked guard.newTokens []
  else []

end ProvisionalWindowGuard

structure PendingActivityBatch where
  batch : ProgramLogBatch
  releaseAtUnixMs : Int
deriving DecidableEq, Repr

/-- The queue holds activity whose discovery is not resolved yet. -/
structure PendingActivityQueue where
  capacity : Nat
  maximumHoldMillis : Nat
  batches : List PendingActivityBatch
deriving DecidableEq, Repr

inductive PendingActivityAdmission where
  | ready (batch : ProgramLogBatch)
  | deferred
  | dropped (calls : TokenCalls)
deriving DecidableEq, Repr

def hasPendingToken (registry : ObservationWindowRegistry) (batch : ProgramLogBatch) : Bool :=
  batch.windowTokens.any fun token => (registry.cell token).status == .pending

namespace PendingActivityQueue

/-- A full queue cancels the tokens of the batch and drops it. -/
def admitBatch (queue : PendingActivityQueue) (registry : ObservationWindowRegistry)
    (batch : ProgramLogBatch) (nowUnixMs : Int) : PendingActivityAdmission × PendingActivityQueue :=
  if batch.purpose ≠ .trackedActivity || !hasPendingToken registry batch then (.ready batch, queue)
  else if queue.batches.length ≥ queue.capacity then
    (.dropped ((batch.windowTokens.map fun token => (token, .cancelWithReason .queueOverflow)) ++
      batch.drop), queue)
  else
    let releaseAtUnixMs := saturatingAdd nowUnixMs (i64FromOrMax queue.maximumHoldMillis)
    (.deferred, { queue with batches := queue.batches ++ [{ batch, releaseAtUnixMs }] })

/-- One pass of the drain loop moves the front batch to the ready list or to the back. -/
def drainLoop (registry : ObservationWindowRegistry) (nowUnixMs : Int) :
    Nat → List ProgramLogBatch → List PendingActivityBatch →
      List ProgramLogBatch × List PendingActivityBatch
  | 0, ready, batches => (ready, batches)
  | _ + 1, ready, [] => (ready, [])
  | count + 1, ready, pending :: rest =>
      if hasPendingToken registry pending.batch && nowUnixMs < pending.releaseAtUnixMs then
        drainLoop registry nowUnixMs count ready (rest ++ [pending])
      else drainLoop registry nowUnixMs count (ready ++ [pending.batch]) rest

def drainResolved (queue : PendingActivityQueue) (registry : ObservationWindowRegistry)
    (nowUnixMs : Int) : List ProgramLogBatch × PendingActivityQueue :=
  let outcome := drainLoop registry nowUnixMs queue.batches.length [] queue.batches
  (outcome.1, { queue with batches := outcome.2 })

end PendingActivityQueue
end Soldisco.Pipeline

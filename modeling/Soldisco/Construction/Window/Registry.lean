import Mathlib.Data.List.AList
import Mathlib.Data.List.MinMax
import Mathlib.Data.List.Sort
import Mathlib.Logic.Function.Basic
import Soldisco.Construction.Window.Token

/-
This file embeds the observation-window registry. Each method holds the registry lock
from its first read to its last write.
-/

namespace Soldisco.Window
open Domain MachineInteger

structure SourceCoverageGap where
  observedAtUnixMs : Int
  reason : WindowIncompleteReason
deriving DecidableEq, Repr

/-- The registry holds the locked state and the cells of every token it has issued.
The next unused address is the number of issued tokens. -/
structure ObservationWindowRegistry where
  maximumActive : Nat
  capacityPositive : 0 < maximumActive
  nextGeneration : Nat
  windows : AList fun _ : ObservationTarget => ObservationWindowToken
  retained : List ObservationWindowToken
  latestSourceCoverageGap : SourceProgram → Option SourceCoverageGap
  latestSourceProgress : SourceProgram → Option Int
  cells : Nat → TokenCell
  allocated : Nat

structure ObservationWindowProvision where
  token : ObservationWindowToken
  newlyOpened : Bool
deriving DecidableEq, Repr

structure ObservationWindowFinalizationClaim where
  token : ObservationWindowToken
  incompleteReason : Option WindowIncompleteReason
deriving DecidableEq, Repr

/-- The close order compares close times first and targets next. -/
def CloseOrder := Int ×ₗ ObservationTarget

instance : LinearOrder CloseOrder :=
  @Prod.Lex.instLinearOrder Int ObservationTarget Int.instLinearOrder _

def closeKey (closesAtUnixMs : Int) (target : ObservationTarget) : CloseOrder :=
  toLex (closesAtUnixMs, target)

namespace ObservationWindowRegistry

def new (maximumActive : Nat) (capacityPositive : 0 < maximumActive) :
    ObservationWindowRegistry where
  maximumActive
  capacityPositive
  nextGeneration := 0
  windows := ∅
  retained := []
  latestSourceCoverageGap := fun _ => none
  latestSourceProgress := fun _ => none
  cells := fun _ => .fresh
  allocated := 0

def cell (registry : ObservationWindowRegistry) (token : ObservationWindowToken) : TokenCell :=
  registry.cells token.address

def setCell (registry : ObservationWindowRegistry) (token : ObservationWindowToken)
    (cell : TokenCell) : ObservationWindowRegistry :=
  { registry with cells := Function.update registry.cells token.address cell }

def isOpenAt (registry : ObservationWindowRegistry) (token : ObservationWindowToken)
    (observedAtUnixMs : Int) : Bool :=
  (registry.cell token).isOpenAt token.window observedAtUnixMs

/-- A token that was never confirmed is dropped here. -/
def retainIfDurable (registry : ObservationWindowRegistry) (token : ObservationWindowToken) :
    ObservationWindowRegistry :=
  if (registry.cell token).wasConfirmed && !(registry.cell token).finalized then
    { registry with retained := registry.retained ++ [token] }
  else registry

/-- The rotation test holds for each window that is not open at the given time. -/
def isClosedAt (registry : ObservationWindowRegistry) (token : ObservationWindowToken)
    (nowUnixMs : Int) : Bool :=
  !registry.isOpenAt token nowUnixMs || token.window.closesAtUnixMs ≤ nowUnixMs

/-- One pass of the rotation loop removes one target. -/
def rotateTarget (registry : ObservationWindowRegistry) (target : ObservationTarget) :
    ObservationWindowRegistry :=
  match registry.windows.lookup target with
  | some token =>
      { registry with windows := registry.windows.erase target }.retainIfDurable token
  | none => registry

def rotateClosedWindows (registry : ObservationWindowRegistry) (nowUnixMs : Int) :
    ObservationWindowRegistry :=
  let closedTargets := (registry.windows.entries.filter fun entry =>
    registry.isClosedAt entry.2 nowUnixMs).map Sigma.fst
  closedTargets.foldl rotateTarget registry

/-- The eviction picks the window that closes first and breaks ties by target. -/
def evictionTarget (registry : ObservationWindowRegistry) : Option ObservationTarget :=
  (registry.windows.entries.argmin fun entry =>
    closeKey entry.2.window.closesAtUnixMs entry.1).map Sigma.fst

/-- A full map gives up one window and records why. -/
def evictAtCapacity (registry : ObservationWindowRegistry) : ObservationWindowRegistry :=
  if registry.windows.entries.length ≥ registry.maximumActive then
    match registry.evictionTarget with
    | some evicted =>
        match registry.windows.lookup evicted with
        | some token =>
            ({ registry with windows := registry.windows.erase evicted }.setCell token
              ((registry.cell token).cancelWithReason .capacityEvicted)).retainIfDurable token
        | none => registry
    | none => registry
  else registry

/-- The new token takes the next generation and the next unused cell. -/
def newToken (registry : ObservationWindowRegistry) (target : ObservationTarget) (mint : String)
    (openedAtUnixMs closesAtUnixMs : Int) : ObservationWindowToken where
  generation := registry.nextGeneration
  window := { target, mint, openedAtUnixMs, closesAtUnixMs }
  address := registry.allocated

/-- A new window inherits the latest gap of its source when the gap lies inside it. -/
def newCell (registry : ObservationWindowRegistry) (window : ObservationWindow) : TokenCell :=
  match (registry.latestSourceCoverageGap (targetSourceProgram window.target)).filter
      fun gap => window.contains gap.observedAtUnixMs with
  | some gap => (TokenCell.fresh.markIncomplete gap.reason).2
  | none => .fresh

/-- Opening a window allocates its token and inserts it under its target. -/
def openWindow (registry : ObservationWindowRegistry) (target : ObservationTarget) (mint : String)
    (openedAtUnixMs closesAtUnixMs : Int) : ObservationWindowRegistry :=
  let token := registry.newToken target mint openedAtUnixMs closesAtUnixMs
  { registry with
    nextGeneration := wrappingAdd u64Size registry.nextGeneration 1
    windows := registry.windows.insert target token
    cells := Function.update registry.cells token.address (registry.newCell token.window)
    allocated := registry.allocated + 1 }

/-- The duration enters as its number of milliseconds. -/
def closeTime (openedAtUnixMs : Int) (durationMillis : Nat) : Int :=
  saturatingAdd openedAtUnixMs (i64FromOrMax durationMillis)

def provisionTarget (registry : ObservationWindowRegistry) (target : ObservationTarget)
    (mint : String) (openedAtUnixMs : Int) (durationMillis : Nat) :
    ObservationWindowProvision × ObservationWindowRegistry :=
  let closesAtUnixMs := closeTime openedAtUnixMs durationMillis
  let rotated := registry.rotateClosedWindows openedAtUnixMs
  match (rotated.windows.lookup target).filter fun token => rotated.isOpenAt token openedAtUnixMs with
  | some existing => ({ token := existing, newlyOpened := false }, rotated)
  | none =>
      let evicted := rotated.evictAtCapacity
      ({ token := evicted.newToken target mint openedAtUnixMs closesAtUnixMs, newlyOpened := true },
        evicted.openWindow target mint openedAtUnixMs closesAtUnixMs)

def matchingToken (registry : ObservationWindowRegistry) (target : ObservationTarget)
    (observedAtUnixMs : Int) : Option ObservationWindowToken :=
  (registry.windows.lookup target).filter fun token => registry.isOpenAt token observedAtUnixMs

/-- A match that cannot be counted makes the window incomplete instead. -/
def admitMatchingToken (registry : ObservationWindowRegistry) (target : ObservationTarget)
    (observedAtUnixMs : Int) : Option ObservationWindowToken × ObservationWindowRegistry :=
  match registry.matchingToken target observedAtUnixMs with
  | none => (none, registry)
  | some token =>
      match (registry.cell token).markAdmitted with
      | (true, admitted) => (some token, registry.setCell token admitted)
      | (false, rejected) =>
          (none, registry.setCell token (rejected.markIncomplete .queueOverflow).2)

def activeCount (registry : ObservationWindowRegistry) (nowUnixMs : Int) :
    Nat × ObservationWindowRegistry :=
  let rotated := registry.rotateClosedWindows nowUnixMs
  (rotated.windows.entries.length, rotated)

/-- The watermark of a source never moves back. -/
def latestProgress (stored : Option Int) (observedAtUnixMs : Int) : Int :=
  match stored with
  | some latest => max latest observedAtUnixMs
  | none => observedAtUnixMs

def recordSourceProgress (registry : ObservationWindowRegistry) (sourceProgram : SourceProgram)
    (observedAtUnixMs : Int) : ObservationWindowRegistry :=
  let latest := latestProgress (registry.latestSourceProgress sourceProgram) observedAtUnixMs
  { registry with
    latestSourceProgress :=
      Function.update registry.latestSourceProgress sourceProgram (some latest) }

/-- A later gap replaces the stored one; an equal time keeps the first reason. -/
def latestGap (stored : Option SourceCoverageGap) (gap : SourceCoverageGap) : SourceCoverageGap :=
  match stored with
  | some latest => if gap.observedAtUnixMs > latest.observedAtUnixMs then gap else latest
  | none => gap

/-- The gap touches the unfinalized windows of its source that contain its time. -/
def gapApplies (sourceProgram : SourceProgram) (observedAtUnixMs : Int)
    (registry : ObservationWindowRegistry) (token : ObservationWindowToken) : Bool :=
  targetSourceProgram token.target == sourceProgram && !(registry.cell token).finalized &&
    token.window.contains observedAtUnixMs

/-- One pass of the gap loop marks one token and counts a first mark. -/
def recordGapOn (sourceProgram : SourceProgram) (gap : SourceCoverageGap)
    (accumulator : Nat × ObservationWindowRegistry) (token : ObservationWindowToken) :
    Nat × ObservationWindowRegistry :=
  if gapApplies sourceProgram gap.observedAtUnixMs accumulator.2 token then
    match (accumulator.2.cell token).markIncomplete gap.reason with
    | (true, marked) => (accumulator.1 + 1, accumulator.2.setCell token marked)
    | (false, unchanged) => (accumulator.1, accumulator.2.setCell token unchanged)
  else accumulator

/-- The active tokens come first and the retained tokens next. -/
def tokens (registry : ObservationWindowRegistry) : List ObservationWindowToken :=
  registry.windows.entries.map Sigma.snd ++ registry.retained

def recordSourceCoverageGap (registry : ObservationWindowRegistry) (sourceProgram : SourceProgram)
    (observedAtUnixMs : Int) (reason : WindowIncompleteReason) : Nat × ObservationWindowRegistry :=
  let gap : SourceCoverageGap := { observedAtUnixMs, reason }
  let latest := latestGap (registry.latestSourceCoverageGap sourceProgram) gap
  let stored := { registry with
    latestSourceCoverageGap :=
      Function.update registry.latestSourceCoverageGap sourceProgram (some latest) }
  registry.tokens.foldl (recordGapOn sourceProgram gap) (0, stored)

/-- A candidate is durable, settled and neither claimed nor finalized. -/
def isCandidate (registry : ObservationWindowRegistry) (token : ObservationWindowToken) : Bool :=
  let cell := registry.cell token
  cell.wasConfirmed && cell.durableWindowId.isSome && cell.isSettled &&
    !cell.finalizationClaimed && !cell.finalized

/-- The candidates are sorted by close time, target and generation. -/
def candidateKey (token : ObservationWindowToken) : CloseOrder ×ₗ ℕ :=
  toLex (closeKey token.window.closesAtUnixMs token.target, token.generation)

def finalizationCandidates (registry : ObservationWindowRegistry) (nowUnixMs : Int) :
    List ObservationWindowToken × ObservationWindowRegistry :=
  let rotated := registry.rotateClosedWindows nowUnixMs
  ((rotated.retained.filter rotated.isCandidate).insertionSort
    fun left right => candidateKey left ≤ candidateKey right, rotated)

/-- A retained token can be claimed when it is durable, settled and unfinalized. -/
def isClaimable (registry : ObservationWindowRegistry) (token : ObservationWindowToken) : Bool :=
  let cell := registry.cell token
  cell.wasConfirmed && cell.durableWindowId.isSome && cell.isSettled && !cell.finalized

/-- The source has not yet delivered a notification at the close boundary. -/
def awaitsProgress (registry : ObservationWindowRegistry) (token : ObservationWindowToken) : Bool :=
  match registry.latestSourceProgress (targetSourceProgram token.target) with
  | none => true
  | some watermark => watermark < token.window.closesAtUnixMs

/-- The claim freezes the reason under the lock. -/
def claimFinalization (registry : ObservationWindowRegistry) (candidate : ObservationWindowToken) :
    Option ObservationWindowFinalizationClaim × ObservationWindowRegistry :=
  match registry.retained.find? fun token => token == candidate && registry.isClaimable token with
  | none => (none, registry)
  | some token =>
      if (registry.cell token).incompleteReason.isNone && registry.awaitsProgress token then
        (none, registry)
      else
        match (registry.cell token).tryClaimFinalization with
        | (false, _) => (none, registry)
        | (true, claimed) =>
            (some { token, incompleteReason := claimed.incompleteReason },
              registry.setCell token claimed)

def cleanupFinalized (registry : ObservationWindowRegistry) : Nat × ObservationWindowRegistry :=
  let kept := registry.retained.filter fun token => !(registry.cell token).finalized
  (registry.retained.length - kept.length, { registry with retained := kept })

/-- One pass of the first cancellation loop takes one target out of the map. -/
def cancelActive (reason : WindowIncompleteReason) (accumulator : Nat × ObservationWindowRegistry)
    (target : ObservationTarget) : Nat × ObservationWindowRegistry :=
  let registry := accumulator.2
  match registry.windows.lookup target with
  | none => accumulator
  | some token =>
      let removed := { registry with windows := registry.windows.erase target }
      if (registry.cell token).wasConfirmed then
        (accumulator.1 + 1, (removed.setCell token
          ((registry.cell token).cancelWithReason reason)).retainIfDurable token)
      else (accumulator.1, removed.setCell token (registry.cell token).cancelIfPending)

/-- One pass of the second cancellation loop leaves claimed and finalized tokens unchanged. -/
def cancelRetained (reason : WindowIncompleteReason) (matchesTarget : ObservationTarget → Bool)
    (accumulator : Nat × ObservationWindowRegistry) (token : ObservationWindowToken) :
    Nat × ObservationWindowRegistry :=
  let cell := accumulator.2.cell token
  if matchesTarget token.target && !cell.finalized && !cell.finalizationClaimed &&
      cell.status == .confirmed then
    (accumulator.1 + 1, accumulator.2.setCell token (cell.cancelWithReason reason))
  else accumulator

def cancelConfirmedMatching (registry : ObservationWindowRegistry) (reason : WindowIncompleteReason)
    (matchesTarget : ObservationTarget → Bool) : Nat × ObservationWindowRegistry :=
  let targets := registry.windows.keys.filter matchesTarget
  let active := targets.foldl (cancelActive reason) (0, registry)
  active.2.retained.foldl (cancelRetained reason matchesTarget) active

def cancelAllConfirmed (registry : ObservationWindowRegistry) (reason : WindowIncompleteReason) :
    Nat × ObservationWindowRegistry :=
  registry.cancelConfirmedMatching reason fun _ => true

def cancelSourceConfirmed (registry : ObservationWindowRegistry) (sourceProgram : SourceProgram)
    (reason : WindowIncompleteReason) : Nat × ObservationWindowRegistry :=
  registry.cancelConfirmedMatching reason fun target => targetSourceProgram target == sourceProgram

end ObservationWindowRegistry
end Soldisco.Window

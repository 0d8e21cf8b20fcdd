import Mathlib.Data.Prod.Lex
import Mathlib.Order.Lattice
import Mathlib.Data.String.Basic
import Soldisco.Construction.Domain
import Soldisco.Library.MachineInteger

/-
This file embeds the observation-window token and its methods.
A token is a handle; clones of one token share the atomics of one cell.
-/

namespace Soldisco.Window
open Domain MachineInteger

/-- The registry keys each window by the account that its events name. -/
inductive ObservationTarget where
  | pumpMint (mint : String)
  | pumpSwapPool (pool : String)
deriving DecidableEq, Repr

/-- A market without a tracked venue has no target. -/
def ObservationTarget.forMarket (market : MarketIdentity) : Option ObservationTarget :=
  match market.venue with
  | .pumpBondingCurve => some (.pumpMint market.mint)
  | .pumpSwap => some (.pumpSwapPool market.marketAddress)
  | .raydiumCpmm | .raydiumClmm | .raydiumAmmV4 => none

/-- The derived order compares the variants first and the addresses next. -/
def ObservationTarget.orderKey : ObservationTarget → ℕ ×ₗ String
  | .pumpMint mint => toLex (0, mint)
  | .pumpSwapPool pool => toLex (1, pool)

theorem ObservationTarget.orderKey_injective : Function.Injective ObservationTarget.orderKey := by
  intro first second equal
  cases first <;> cases second <;> simp_all [orderKey]

instance : LinearOrder ObservationTarget :=
  LinearOrder.lift' ObservationTarget.orderKey ObservationTarget.orderKey_injective

def targetSourceProgram : ObservationTarget → SourceProgram
  | .pumpMint _ => .pump
  | .pumpSwapPool _ => .pumpSwap

structure ObservationWindow where
  target : ObservationTarget
  mint : String
  openedAtUnixMs : Int
  closesAtUnixMs : Int
deriving DecidableEq, Repr

/-- The four values of the state atomic. -/
inductive WindowState where
  | pending
  | confirmed
  | cancelledPending
  | cancelledConfirmed
deriving DecidableEq, Repr

inductive WindowIncompleteReason where
  | capacityEvicted
  | queueOverflow
  | sourceDisconnected
  | streamStopped
  | pipelineRestarted
  | decodeGap
  | processingFailed
  | cpiInstructionDataUnavailable
deriving DecidableEq, Repr

def WindowIncompleteReason.asStr : WindowIncompleteReason → String
  | .capacityEvicted => "CAPACITY_EVICTED"
  | .queueOverflow => "QUEUE_OVERFLOW"
  | .sourceDisconnected => "SOURCE_DISCONNECTED"
  | .streamStopped => "STREAM_STOPPED"
  | .pipelineRestarted => "PIPELINE_RESTARTED"
  | .decodeGap => "DECODE_GAP"
  | .processingFailed => "PROCESSING_FAILED"
  | .cpiInstructionDataUnavailable => "CPI_INSTRUCTION_DATA_UNAVAILABLE"

inductive ObservationWindowStatus where
  | pending
  | confirmed
  | cancelled
deriving DecidableEq, Repr

/-- The cell holds the atomics that all clones of one token share.
The absent reason is the code of a complete window. -/
structure TokenCell where
  state : WindowState
  durableWindowId : Option Int
  admitted : Nat
  settled : Nat
  incompleteReason : Option WindowIncompleteReason
  finalizationClaimed : Bool
  finalized : Bool
deriving DecidableEq, Repr

/-- A new token is pending and has counted nothing. -/
def TokenCell.fresh : TokenCell where
  state := .pending
  durableWindowId := none
  admitted := 0
  settled := 0
  incompleteReason := none
  finalizationClaimed := false
  finalized := false

/-- The address names the shared cell, so equal addresses are equal pointers. -/
structure ObservationWindowToken where
  generation : Nat
  window : ObservationWindow
  address : Nat
deriving DecidableEq, Repr

def ObservationWindowToken.target (token : ObservationWindowToken) : ObservationTarget :=
  token.window.target

/-- The receipt time lies in the half-open interval of the window. -/
def ObservationWindow.contains (window : ObservationWindow) (observedAtUnixMs : Int) : Bool :=
  window.openedAtUnixMs ≤ observedAtUnixMs && observedAtUnixMs < window.closesAtUnixMs

namespace TokenCell

/-- A pending or confirmed state still accepts events. -/
def isLive (cell : TokenCell) : Bool :=
  match cell.state with
  | .pending | .confirmed => true
  | .cancelledPending | .cancelledConfirmed => false

def isOpenAt (cell : TokenCell) (window : ObservationWindow) (observedAtUnixMs : Int) : Bool :=
  cell.isLive && window.contains observedAtUnixMs

def isConfirmedAt (cell : TokenCell) (window : ObservationWindow) (observedAtUnixMs : Int) : Bool :=
  cell.state == .confirmed && window.contains observedAtUnixMs

def status (cell : TokenCell) : ObservationWindowStatus :=
  match cell.state with
  | .pending => .pending
  | .confirmed => .confirmed
  | .cancelledPending | .cancelledConfirmed => .cancelled

/-- Confirmation also succeeds on a token that is confirmed already. -/
def confirm (cell : TokenCell) : Bool × TokenCell :=
  match cell.state with
  | .pending => (true, { cell with state := .confirmed })
  | .confirmed => (true, cell)
  | .cancelledPending | .cancelledConfirmed => (false, cell)

def cancelIfPending (cell : TokenCell) : TokenCell :=
  if cell.state = .pending then { cell with state := .cancelledPending } else cell

/-- Only the first reason is recorded. -/
def markIncomplete (cell : TokenCell) (reason : WindowIncompleteReason) : Bool × TokenCell :=
  match cell.incompleteReason with
  | none => (true, { cell with incompleteReason := some reason })
  | some _ => (false, cell)

/-- The uncontended cancellation takes its first compare-exchange. -/
def cancelWithReason (cell : TokenCell) (reason : WindowIncompleteReason) : TokenCell :=
  match cell.state with
  | .pending => { cell with state := .cancelledPending }
  | .confirmed => { (cell.markIncomplete reason).2 with state := .cancelledConfirmed }
  | .cancelledPending | .cancelledConfirmed => cell

def wasConfirmed (cell : TokenCell) : Bool :=
  match cell.state with
  | .confirmed | .cancelledConfirmed => true
  | .pending | .cancelledPending => false

/-- The identifier is positive, needs a confirmed token and is set once. -/
def setDurableWindowId (cell : TokenCell) (durableWindowId : Int) : Bool × TokenCell :=
  if durableWindowId ≤ 0 || !cell.wasConfirmed then (false, cell)
  else match cell.durableWindowId with
    | some existing => (existing == durableWindowId, cell)
    | none => (true, { cell with durableWindowId := some durableWindowId })

/-- Admission fails after finalization and on counter overflow. -/
def markAdmitted (cell : TokenCell) : Bool × TokenCell :=
  if cell.finalized then (false, cell)
  else match checkedAdd u64Size cell.admitted 1 with
    | some admitted => (true, { cell with admitted })
    | none => (false, cell)

/-- Settlement never exceeds the admitted count. -/
def markSettled (cell : TokenCell) : Bool × TokenCell :=
  if cell.settled ≥ cell.admitted then (false, cell)
  else (true, { cell with settled := cell.settled + 1 })

def isSettled (cell : TokenCell) : Bool := cell.admitted == cell.settled

def tryClaimFinalization (cell : TokenCell) : Bool × TokenCell :=
  if cell.finalizationClaimed then (false, cell)
  else (true, { cell with finalizationClaimed := true })

def releaseFinalization (cell : TokenCell) : TokenCell :=
  { cell with finalizationClaimed := false }

/-- The first caller finalizes the token. -/
def markFinalized (cell : TokenCell) : Bool × TokenCell :=
  if cell.finalized then (false, cell) else (true, { cell with finalized := true })

end TokenCell
end Soldisco.Window

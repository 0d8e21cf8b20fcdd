import Soldisco.Construction.Window.Token

/-
This file splits the token methods into their atomic operations.
A call in flight keeps the local values that its method has loaded.
-/

namespace Soldisco.Window

/-- Each constructor names the next atomic operation of one method call. -/
inductive TokenCall where
  | confirm
  | cancelIfPending
  | markIncomplete (reason : WindowIncompleteReason)
  | cancelWithReason (reason : WindowIncompleteReason)
  | cancelPending (reason : WindowIncompleteReason)
  | cancelMark (reason : WindowIncompleteReason)
  | cancelConfirmed (reason : WindowIncompleteReason)
  | setDurableWindowId (durableWindowId : Int)
  | durableGet (durableWindowId : Int)
  | durableSet (durableWindowId : Int)
  | durableRecheck (durableWindowId : Int)
  | markAdmitted
  | admittedAdd
  | markSettled
  | settledLoad (admitted : Nat)
  | settledExchange (admitted settled : Nat)
  | markFinalized
deriving DecidableEq, Repr

/-- A method call starts at the first atomic operation of its body. -/
def TokenCall.isEntry : TokenCall → Bool
  | .confirm | .cancelIfPending | .markIncomplete _ | .cancelWithReason _
  | .setDurableWindowId _ | .markAdmitted | .markSettled | .markFinalized => true
  | _ => false

/-- A call goes on with its next operation or returns. The methods without a result return true. -/
inductive CallProgress where
  | running (call : TokenCall)
  | returned (result : Bool)
deriving DecidableEq, Repr

/-- Each step performs one atomic operation on the shared cell.
The weak compare-exchange may fail although the value matches. -/
def TokenCall.advance (call : TokenCall) (spuriousFailure : Bool) (cell : TokenCell) :
    CallProgress × TokenCell :=
  match call with
  | .confirm =>
      let outcome := cell.confirm
      (.returned outcome.1, outcome.2)
  | .cancelIfPending => (.returned true, cell.cancelIfPending)
  | .markIncomplete reason =>
      let outcome := cell.markIncomplete reason
      (.returned outcome.1, outcome.2)
  | .cancelWithReason reason =>
      match cell.state with
      | .pending => (.running (.cancelPending reason), cell)
      | .confirmed => (.running (.cancelMark reason), cell)
      | .cancelledPending | .cancelledConfirmed => (.returned true, cell)
  | .cancelPending reason =>
      if cell.state = .pending then (.returned true, { cell with state := .cancelledPending })
      else (.running (.cancelWithReason reason), cell)
  | .cancelMark reason => (.running (.cancelConfirmed reason), (cell.markIncomplete reason).2)
  | .cancelConfirmed reason =>
      if cell.state = .confirmed then (.returned true, { cell with state := .cancelledConfirmed })
      else (.running (.cancelWithReason reason), cell)
  | .setDurableWindowId durableWindowId =>
      if durableWindowId ≤ 0 || !cell.wasConfirmed then (.returned false, cell)
      else (.running (.durableGet durableWindowId), cell)
  | .durableGet durableWindowId =>
      match cell.durableWindowId with
      | some existing => (.returned (existing == durableWindowId), cell)
      | none => (.running (.durableSet durableWindowId), cell)
  | .durableSet durableWindowId =>
      match cell.durableWindowId with
      | some _ => (.running (.durableRecheck durableWindowId), cell)
      | none => (.returned true, { cell with durableWindowId := some durableWindowId })
  | .durableRecheck durableWindowId =>
      (.returned (cell.durableWindowId == some durableWindowId), cell)
  | .markAdmitted =>
      if cell.finalized then (.returned false, cell) else (.running .admittedAdd, cell)
  | .admittedAdd =>
      match MachineInteger.checkedAdd MachineInteger.u64Size cell.admitted 1 with
      | some admitted => (.returned true, { cell with admitted })
      | none => (.returned false, cell)
  | .markSettled => (.running (.settledLoad cell.admitted), cell)
  | .settledLoad admitted =>
      if cell.settled ≥ admitted then (.returned false, cell)
      else (.running (.settledExchange admitted cell.settled), cell)
  | .settledExchange _ settled =>
      if cell.settled = settled ∧ !spuriousFailure then
        (.returned true, { cell with settled := settled + 1 })
      else (.running .markSettled, cell)
  | .markFinalized =>
      let outcome := cell.markFinalized
      (.returned outcome.1, outcome.2)

/-- One token and the calls of its holders in flight. -/
structure SharedToken where
  cell : TokenCell
  calls : List TokenCall
deriving DecidableEq, Repr

/-- A holder calls a method, or a call in flight performs its next atomic operation. -/
inductive HolderAction where
  | invoke (call : TokenCall)
  | advance (index : Nat) (spuriousFailure : Bool)
deriving DecidableEq, Repr

namespace SharedToken

def fresh : SharedToken where
  cell := .fresh
  calls := []

/-- A step gives the operation that was performed and its progress. -/
def step (token : SharedToken) : HolderAction → Option (TokenCall × CallProgress) × SharedToken
  | .invoke call =>
      (none, if call.isEntry then { token with calls := token.calls ++ [call] } else token)
  | .advance index spuriousFailure =>
      match token.calls[index]? with
      | none => (none, token)
      | some call =>
          let outcome := call.advance spuriousFailure token.cell
          (some (call, outcome.1), {
            cell := outcome.2
            calls := match outcome.1 with
              | .running next => token.calls.set index next
              | .returned _ => token.calls.eraseIdx index })

end SharedToken

end Soldisco.Window

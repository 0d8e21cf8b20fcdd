import Mathlib.Data.Int.Order.Basic
import Soldisco.Library.Transition

/-
This file embeds the refresh coordinator of the browser with the microtask queue of its engine. A
continuation runs as one microtask up to its next await.
-/

namespace Soldisco.Web

/-- The sequence number of a snapshot, or a rejection. -/
inductive ReadResult where
  | resolved (sequence : Nat)
  | rejected
deriving DecidableEq, Repr

/-- What the page calls synchronously. The promise of a started read may be settled at once. -/
inductive PageCode where
  | done
  | refresh (settled : Option ReadResult) (rest : PageCode)
  | dispose (rest : PageCode)
  | queueMicrotask (code rest : PageCode)
deriving DecidableEq, Repr

/-- The continuation of the awaited read, the callback of `finally` and the microtasks of the page. -/
inductive Microtask where
  | resume (result : ReadResult)
  | clearInFlight
  | page (code : PageCode)
deriving DecidableEq, Repr

inductive RunResult where
  | snapshot (sequence : Nat)
  | failed
  | stoppedBeforeSnapshot
deriving DecidableEq, Repr

/-- The variables of the coordinator and of its run, the unsettled promises and the queue. The history
has the reads that were started before each call, the accepted sequences and the results of the runs. -/
structure RefreshCoordinator where
  disposed : Bool
  highestAcceptedSequence : Int
  queued : Bool
  inFlight : Bool
  latestSnapshot : Option Nat
  latestError : Bool
  unsettled : Nat
  microtasks : List Microtask
  reads : Nat
  calls : List Nat
  accepted : List Nat
  results : List RunResult
deriving DecidableEq, Repr

namespace RefreshCoordinator

def create : RefreshCoordinator where
  disposed := false
  highestAcceptedSequence := -1
  queued := false
  inFlight := false
  latestSnapshot := none
  latestError := false
  unsettled := 0
  microtasks := []
  reads := 0
  calls := []
  accepted := []
  results := []

/-- The loop of a run starts a read and awaits it. -/
def startRead (coordinator : RefreshCoordinator) (settled : Option ReadResult) :
    RefreshCoordinator :=
  let started := { coordinator with queued := false, reads := coordinator.reads + 1 }
  match settled with
  | some result => { started with microtasks := started.microtasks ++ [.resume result] }
  | none => { started with unsettled := started.unsettled + 1 }

def refresh (coordinator : RefreshCoordinator) (settled : Option ReadResult) : RefreshCoordinator :=
  let called := { coordinator with calls := coordinator.calls ++ [coordinator.reads] }
  if called.inFlight then { called with queued := true }
  else { called with
    inFlight := true
    latestSnapshot := none
    latestError := false }.startRead settled

def dispose (coordinator : RefreshCoordinator) : RefreshCoordinator :=
  { coordinator with disposed := true, queued := false }

def execute (coordinator : RefreshCoordinator) : PageCode → RefreshCoordinator
  | .done => coordinator
  | .refresh settled rest => (coordinator.refresh settled).execute rest
  | .dispose rest => coordinator.dispose.execute rest
  | .queueMicrotask code rest =>
      { coordinator with microtasks := coordinator.microtasks ++ [Microtask.page code] }.execute rest

/-- A snapshot that does not regress is accepted; the page may throw while it accepts. -/
def accept (coordinator : RefreshCoordinator) (sequence : Nat) (accepts : PageCode)
    (throws : Bool) : RefreshCoordinator :=
  if !coordinator.disposed && coordinator.highestAcceptedSequence ≤ sequence then
    let executed := { coordinator with
      highestAcceptedSequence := sequence
      accepted := coordinator.accepted ++ [sequence] }.execute accepts
    { executed with latestError := throws }
  else coordinator

def runResult (coordinator : RefreshCoordinator) : RunResult :=
  if coordinator.latestError then .failed
  else match coordinator.latestSnapshot with
    | some sequence => .snapshot sequence
    | none => .stoppedBeforeSnapshot

/-- The body of the loop after its await, up to the next await or the end of the run. -/
def resume (coordinator : RefreshCoordinator) (result : ReadResult) (accepts : PageCode)
    (throws : Bool) (settled : Option ReadResult) : RefreshCoordinator :=
  let read := match result with
    | .resolved sequence =>
        { coordinator with latestSnapshot := some sequence, latestError := false }.accept sequence
          accepts throws
    | .rejected => { coordinator with latestError := true }
  if read.queued && !read.disposed then read.startRead settled
  else { read with
    results := read.results ++ [read.runResult]
    microtasks := read.microtasks ++ [.clearInFlight] }

/-- The engine runs a task of the page when no microtask is left, settles a promise or runs the next
microtask. The last action says what the page and the next read do inside it. -/
inductive Action where
  | task (code : PageCode)
  | settle (result : ReadResult)
  | microtask (accepts : PageCode) (throws : Bool) (settled : Option ReadResult)
deriving DecidableEq, Repr

def runMicrotask (coordinator : RefreshCoordinator) (accepts : PageCode) (throws : Bool)
    (settled : Option ReadResult) : RefreshCoordinator :=
  match coordinator.microtasks with
  | [] => coordinator
  | .resume result :: rest =>
      { coordinator with microtasks := rest }.resume result accepts throws settled
  | .clearInFlight :: rest => { coordinator with microtasks := rest, inFlight := false }
  | .page code :: rest => { coordinator with microtasks := rest }.execute code

def settle (coordinator : RefreshCoordinator) (result : ReadResult) : RefreshCoordinator :=
  if coordinator.unsettled = 0 then coordinator
  else { coordinator with
    unsettled := coordinator.unsettled - 1
    microtasks := coordinator.microtasks ++ [.resume result] }

def step (coordinator : RefreshCoordinator) : Action → Unit × RefreshCoordinator
  | .task code => ((), if coordinator.microtasks = [] then coordinator.execute code
      else coordinator)
  | .settle result => ((), coordinator.settle result)
  | .microtask accepts throws settled => ((), coordinator.runMicrotask accepts throws settled)

end RefreshCoordinator
end Soldisco.Web

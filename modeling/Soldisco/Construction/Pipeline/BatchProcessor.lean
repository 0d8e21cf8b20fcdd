import Soldisco.Construction.Pipeline.Batch
import Soldisco.Library.Mask
import Soldisco.Library.Transition

/-
This file embeds the loop of the batch processor over its holding queue. The branch of the channel is a
receive and a drain; the branch of the timer is a drain. Each batch is known by its receipt.
-/

namespace Soldisco.Pipeline
open Window

/-- The receipts of the held, the handed over and the dropped batches stand beside the code's own
queue and the batches that it hands to `process_and_record_batch`. -/
structure BatchProcessor where
  pendingActivity : PendingActivityQueue
  processed : List ProgramLogBatch
  received : List ProgramLogBatch
  held : List Nat
  handed : List Nat
  dropped : List Nat
deriving DecidableEq

/-- The registry gives the statuses of the tokens at the receipt, and a registry of its own gives them
at each examination of a drain. -/
inductive BatchProcessorAction where
  | receive (batch : ProgramLogBatch) (registry : ObservationWindowRegistry) (nowUnixMs : Int)
  | drain (registries : Nat → ObservationWindowRegistry) (nowUnixMs : Int)

namespace BatchProcessor

def new (capacity maximumHoldMillis : Nat) : BatchProcessor where
  pendingActivity := { capacity, maximumHoldMillis, batches := [] }
  processed := []
  received := []
  held := []
  handed := []
  dropped := []

/-- The batch waits for a token, and its deadline has not passed. -/
def waits (registry : ObservationWindowRegistry) (nowUnixMs : Int)
    (pending : PendingActivityBatch) : Bool :=
  hasPendingToken registry pending.batch && nowUnixMs < pending.releaseAtUnixMs

/-- The places of the batches that wait at their examination. -/
def waitingAt (registries : Nat → ObservationWindowRegistry) (nowUnixMs : Int) :
    List PendingActivityBatch → List Bool
  | [] => []
  | pending :: rest => waits (registries 0) nowUnixMs pending ::
      waitingAt (fun examination => registries (examination + 1)) nowUnixMs rest

/-- The drain loop, where each examination meets the tokens of its time. -/
def drainAt (registries : Nat → ObservationWindowRegistry) (nowUnixMs : Int) :
    Nat → List ProgramLogBatch → List PendingActivityBatch →
      List ProgramLogBatch × List PendingActivityBatch
  | 0, ready, batches => (ready, batches)
  | count + 1, ready, batches =>
      let examined := PendingActivityQueue.drainLoop (registries 0) nowUnixMs 1 ready batches
      drainAt (fun examination => registries (examination + 1)) nowUnixMs count examined.1 examined.2

/-- The receipts of the held batches that the drain finds waiting. -/
def keeps (processor : BatchProcessor) (registries : Nat → ObservationWindowRegistry)
    (nowUnixMs : Int) : List Nat :=
  Mask.select (waitingAt registries nowUnixMs processor.pendingActivity.batches) processor.held

/-- The receipts of the held batches that the drain releases. -/
def releases (processor : BatchProcessor) (registries : Nat → ObservationWindowRegistry)
    (nowUnixMs : Int) : List Nat :=
  Mask.select ((waitingAt registries nowUnixMs processor.pendingActivity.batches).map not)
    processor.held

def receive (processor : BatchProcessor) (batch : ProgramLogBatch)
    (registry : ObservationWindowRegistry) (nowUnixMs : Int) : BatchProcessor :=
  let outcome := processor.pendingActivity.admitBatch registry batch nowUnixMs
  let receipt := processor.received.length
  let admitted := { processor with
    pendingActivity := outcome.2
    received := processor.received ++ [batch] }
  match outcome.1 with
  | .ready batch => { admitted with
      processed := processor.processed ++ [batch]
      handed := processor.handed ++ [receipt] }
  | .deferred => { admitted with held := processor.held ++ [receipt] }
  | .dropped _ => { admitted with dropped := processor.dropped ++ [receipt] }

def drain (processor : BatchProcessor) (registries : Nat → ObservationWindowRegistry)
    (nowUnixMs : Int) : BatchProcessor :=
  let batches := processor.pendingActivity.batches
  let outcome := drainAt registries nowUnixMs batches.length [] batches
  { processor with
    pendingActivity := { processor.pendingActivity with batches := outcome.2 }
    processed := processor.processed ++ outcome.1
    held := processor.keeps registries nowUnixMs
    handed := processor.handed ++ processor.releases registries nowUnixMs }

def step (processor : BatchProcessor) : BatchProcessorAction → Unit × BatchProcessor
  | .receive batch registry nowUnixMs => ((), processor.receive batch registry nowUnixMs)
  | .drain registries nowUnixMs => ((), processor.drain registries nowUnixMs)

end BatchProcessor
end Soldisco.Pipeline

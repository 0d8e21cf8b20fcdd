import Soldisco.Construction.Projections

/-
This file embeds the reading of the discovery snapshot in one transaction.
-/

namespace Soldisco.Persistence
open Projections (DiscoverySnapshot RejectionSummary)

def stateField (name : String) : String := "discovery_projection_state." ++ name

/-- The counter that a mode shows as the total of its candidates. -/
def visibleCount (counters : ProjectionCounters) : DiscoveryMode → Int
  | .observeAll => counters.observed
  | .qualifiedOnly => counters.qualified
  | .approvedOnly => counters.approved

/-- The reasons with the highest counts stand first. -/
def orderedRejections (db : Database) : List (Sigma fun _ : String => SummaryRow) :=
  db.rejectionSummaries.entries.insertionSort fun left right =>
    right.2.count < left.2.count ∨ left.2.count = right.2.count ∧ left.1 ≤ right.1

def loadRejections (db : Database) : Except PersistenceError (List RejectionSummary) :=
  (orderedRejections db).mapM fun row => do
    let count ← toU64 row.2.count "qualification_rejection_summaries.count"
    return { reasonCode := row.1, count, lastSeenUnixMs := row.2.lastSeenUnixMs }

/-- The mode and the flow are columns of the projection state that no counter depends on. -/
def loadDiscoverySnapshotBounded (db : Database) (mode : DiscoveryMode)
    (flowPerMinute : Option Int) (limit : Nat) : Except PersistenceError DiscoverySnapshot := do
  let counters := db.projection.counters
  let tokens ← loadDiscoveryTokens db mode limit
  let rejectionReasons ← loadRejections db
  let tokensTotal ← toU64 (visibleCount counters mode) "discovery_tokens.visible_count"
  let sequence ← toU64 db.projection.sequence (stateField "sequence")
  let observed ← toU64 counters.observed (stateField "observed")
  let pending ← toU64 counters.queuedFacts (stateField "queued_facts")
  let qualified ← toU64 counters.qualified (stateField "qualified")
  let qualificationPending ← toU64 counters.qualificationPending
    (stateField "qualification_pending")
  let qualificationRejected ← toU64 counters.qualificationRejected
    (stateField "qualification_rejected")
  let qualificationUnknown ← toU64 counters.qualificationUnknown
    (stateField "qualification_unknown")
  let processingFailures ← toU64 counters.processingFailures (stateField "processing_failures")
  let approved ← toU64 counters.approved (stateField "approved")
  let rejected ← toU64 counters.qualificationRejected (stateField "qualification_rejected")
  let flowPerMinute ← flowPerMinute.mapM (toU64 · (stateField "flow_per_minute"))
  return {
    sequence, mode, tokens, tokensTotal
    tokensTruncated := tokens.length < tokensTotal
    counters := { observed, pending, qualified, qualificationPending, qualificationRejected,
                  qualificationUnknown, processingFailures, approved, rejected, flowPerMinute }
    rejectionReasons }

end Soldisco.Persistence

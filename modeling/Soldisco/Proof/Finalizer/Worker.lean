import Soldisco.Proof.Finalizer.Marks
import Soldisco.Proof.Persistence.FrozenWindows

/-
This file proves what the finalizer knows at each of its steps, whatever the other tasks did since.
-/

namespace Soldisco.Finalizer
open Domain Window Persistence Accumulation

section Requested

open Snapshot

/-- The loop keeps a completeness that is already incomplete. -/
theorem visit_completeness {loop next : SnapshotLoop} {observation : NormalizedObservation}
    (visited : loop.visit observation = .ok next)
    (incomplete : loop.completeness.isComplete = false) :
    next.completeness = loop.completeness := by
  have marked (reasonCode : String) :
      markIncompleteIfComplete loop.completeness reasonCode = loop.completeness := by
    unfold markIncompleteIfComplete
    rw [incomplete]
    rfl
  unfold SnapshotLoop.visit at visited
  dsimp only at visited
  split at visited
  · unfold SnapshotLoop.recordTrade at visited
    split at visited
    · cases visited
      exact marked _
    split at visited
    · cases visited
      exact marked _
    obtain ⟨ratio, -, visited⟩ := bind_eq_ok.mp visited
    obtain ⟨accumulator, -, visited⟩ := bind_eq_ok.mp visited
    cases visited
    rfl
  all_goals
    cases visited
    rfl

/-- A finalization that is requested as incomplete is incomplete for the requested reason. -/
theorem buildDiscoveryWindowFinalization_incomplete {window : DiscoveryWindowRecord}
    {finalizedAtUnixMs : Int} {reason : String} {finalized : FinalizeDiscoveryWindow}
    (built : buildDiscoveryWindowFinalization window finalizedAtUnixMs (some reason) =
      .ok finalized) :
    finalized.completeness = .incomplete ∧ finalized.completenessReason = some reason := by
  obtain ⟨snapshot, assessment, summary, snapshotBuilt, -, -, rfl⟩ :=
    buildDiscoveryWindowFinalization_eq_ok built
  obtain ⟨matching, loop, _, _, _, _, -, folded, -, -, same⟩ :=
    buildMarketWindowSnapshot_eq_ok snapshotBuilt
  have kept : loop.completeness = .incomplete reason := by
    refine foldlM_keeps (fun loop : SnapshotLoop => loop.completeness = .incomplete reason) ?_ rfl
      folded
    intro _ loop next _ incomplete visited
    rw [visit_completeness visited (by rw [incomplete]; rfl), incomplete]
  have incomplete := same.trans kept
  constructor
  · change windowCompleteness snapshot = _
    unfold windowCompleteness
    rw [incomplete]
    rfl
  · change snapshot.completeness.reasonCode = _
    rw [incomplete]
    rfl

end Requested

/-- What every later state keeps of the tokens, of the stored windows and of the clocks. -/
structure Later (before after : State) : Prop where
  issued : ∀ token ∈ before.windows.issued, token ∈ after.windows.issued
  durable : ∀ token ∈ before.windows.issued, ∀ windowId,
    (before.windows.registry.cell token).durableWindowId = some windowId →
    (after.windows.registry.cell token).durableWindowId = some windowId
  progressed : ∀ token, before.windows.registry.awaitsProgress token = false →
    after.windows.registry.awaitsProgress token = false
  rows : ∀ id row, before.database.windows.lookup id = some row →
    ∃ later, after.database.windows.lookup id = some later ∧
      later.collectorRunId = row.collectorRunId ∧
      (row.status = .finalized → later.status = .finalized)
  instant : before.instant ≤ after.instant
  cancelled : before.cancelled = true → after.cancelled = true

/-- A change of nothing but the worker, the clocks and the cancellation is later. -/
theorem Later.ofSame {before after : State} (windows : after.windows = before.windows)
    (database : after.database = before.database) (instant : before.instant ≤ after.instant)
    (cancelled : before.cancelled = true → after.cancelled = true) : Later before after where
  issued := fun _ issued => windows ▸ issued
  durable := fun _ _ _ durable => windows ▸ durable
  progressed := fun _ progressed => windows ▸ progressed
  rows := fun id row present => ⟨row, by rw [database, present], rfl, fun same => same⟩
  instant
  cancelled

/-- A step of the registry is later. -/
theorem Later.registryCall {state : State} (valid : SystemValid state.windows)
    (action : Window.Action) : Later state (state.registryCall action) := by
  have evolution := (step_change valid action).evolution valid.registry
  exact {
    issued := fun _ issued => evolution.issued.subset issued
    durable := fun token issued windowId durable =>
      (evolution.cells token issued).durable windowId durable
    progressed := fun _ progressed => evolution.awaitsProgress progressed
    rows := fun id row present => ⟨row, present, rfl, fun same => same⟩
    instant := le_refl _
    cancelled := id }

/-- A transaction of the database is later. -/
theorem Later.transaction {state : State} (isBase64 : String → Bool)
    (well : StoredWell state.database) (action : DatabaseAction) :
    Later state { state with database := (Persistence.step isBase64 state.database action).2 } where
  issued := fun _ issued => issued
  durable := fun _ _ _ durable => durable
  progressed := fun _ progressed => progressed
  instant := le_refl _
  cancelled := id
  rows := by
    intro id row present
    refine @stepWith_keeps isBase64 greatestZero state.database action
      (fun next => ∃ later, next.windows.lookup id = some later ∧
        later.collectorRunId = row.collectorRunId ∧
        (row.status = .finalized → later.status = .finalized)) ⟨row, present, rfl, fun same => same⟩ ?_
    intro next committed
    have change := committed.decisionChange well.counters.tokens
    obtain ⟨later, found, same⟩ := change.sameWindow present
    refine ⟨later, found, by rw [same], fun finalized => ?_⟩
    obtain ⟨opening, kept⟩ := change.finalized_window present finalized
    rw [found] at kept
    cases kept
    exact finalized

theorem Later.trans {first second third : State} (left : Later first second)
    (right : Later second third) : Later first third where
  issued := fun token issued => right.issued token (left.issued token issued)
  durable := fun token issued windowId durable =>
    right.durable token (left.issued token issued) windowId
      (left.durable token issued windowId durable)
  progressed := fun token progressed => right.progressed token (left.progressed token progressed)
  rows := by
    intro id row present
    obtain ⟨middle, found, middleRun, middleStatus⟩ := left.rows id row present
    obtain ⟨later, kept, laterRun, laterStatus⟩ := right.rows id middle found
    exact ⟨later, kept, laterRun.trans middleRun, fun finalized =>
      laterStatus (middleStatus finalized)⟩
  instant := left.instant.trans right.instant
  cancelled := fun cancelled => right.cancelled (left.cancelled cancelled)

/-- The token has the identifier of its stored window. -/
def HoldsDurable (state : State) (token : ObservationWindowToken) (windowId : Int) : Prop :=
  token ∈ state.windows.issued ∧
    (state.windows.registry.cell token).durableWindowId = some windowId

/-- The database holds the window as finalized. -/
def FinalizedRow (state : State) (windowId : Int) : Prop :=
  ∃ row, state.database.windows.lookup windowId = some row ∧ row.status = .finalized

/-- The tokens that a sweep has found are durable. -/
def Candidates (state : State) (tokens : List ObservationWindowToken) : Prop :=
  ∀ token ∈ tokens, ∃ windowId, HoldsDurable state token windowId

/-- The worker holds the one live claim. A claim without a reason was made on a token whose source
has progressed to its close. -/
def HoldsClaim (state : State) (windowId : Int) (reason : Option WindowIncompleteReason) : Prop :=
  ∃ claim, state.windows.claims = [⟨claim, false⟩] ∧ HoldsDurable state claim.token windowId ∧
    claim.incompleteReason = reason ∧
    (reason = none → state.windows.registry.awaitsProgress claim.token = false)

/-- The limit of the shutdown drain is over. -/
def DrainOver (state : State) : Prop :=
  state.cancelled = true ∧
    ∃ deadline, state.worker.drainDeadline = some deadline ∧ deadline ≤ state.instant

/-- The stored windows that a recovery sweep is about. -/
def Recoverable (state : State) (kind : Recovery) (windowId : Int) : Prop :=
  ∃ row, state.database.windows.lookup windowId = some row ∧ match kind with
    | .abandoned => row.collectorRunId ≠ state.worker.collectorRunId
    | .shutdown => row.collectorRunId = state.worker.collectorRunId ∧ DrainOver state

/-- An attempt is made under a claim or by a recovery sweep. -/
inductive CallerValid (state : State) (attempt : Attempt) : Prop
  | readyTokens {rest : List ObservationWindowToken} (caller : attempt.caller = .readyTokens rest)
      (candidates : Candidates state rest)
      (holds : HoldsClaim state attempt.windowId attempt.incompleteReason)
  | recovery {kind : Recovery} {rest : List Int} (caller : attempt.caller = .recovery kind rest)
      (free : state.windows.claims = [])
      (reason : attempt.incompleteReason = some kind.reason)
      (windows : ∀ windowId ∈ attempt.windowId :: rest, Recoverable state kind windowId)

/-- The reason that an attempt finalizes its window with. -/
def Attempt.Reason (attempt : Attempt) (reason : Option WindowIncompleteReason) : Prop :=
  reason = attempt.incompleteReason ∨ reason = some .processingFailed

/-- A payload that was built for a reason is incomplete for this reason. -/
def RequestedFor (reason : Option WindowIncompleteReason) (finalized : FinalizeDiscoveryWindow) :
    Prop :=
  ∀ code, reason = some code →
    finalized.completeness = .incomplete ∧ finalized.completenessReason = some code.asStr

/-- What an attempt has learned before its next request. -/
def RequestValid (attempt : Attempt) : Request → Prop
  | .readiness => True
  | .windowRow reason => attempt.Reason reason
  | .windowObservations reason row => attempt.Reason reason ∧ row.id = attempt.windowId
  | .finalization finalized => finalized.windowId = attempt.windowId ∧
      ∃ reason, attempt.Reason reason ∧ RequestedFor reason finalized

/-- The worker ends without an error only after the cancellation and never for a lost identifier. -/
def EndingValid (state : State) : Ending → Prop
  | .returned (.ok ()) => state.cancelled = true
  | .returned (.error error) => error ≠ .windowIdOutOfRange
  | .aborted => True

/-- The live claims and the tokens at each point of the worker. -/
def PointValid (state : State) : Point → Prop
  | .polling => state.windows.claims = []
  | .readyTokens rest => state.windows.claims = [] ∧ Candidates state rest
  | .attempting attempt => CallerValid state attempt ∧ RequestValid attempt attempt.request
  | .committing rest => Candidates state rest ∧ ∃ claim windowId,
      state.windows.claims = [⟨claim, false⟩] ∧ HoldsDurable state claim.token windowId ∧
        FinalizedRow state windowId
  | .releasing rest => Candidates state rest ∧ ∃ live, state.windows.claims = [live]
  | .failing ending => EndingValid state ending ∧ ∃ live, state.windows.claims = [live]
  | .loadingWindows .abandoned => state.windows.claims = []
  | .loadingWindows .shutdown => state.windows.claims = [] ∧ DrainOver state
  | .draining | .checkingActive => state.windows.claims = [] ∧
      state.worker.drainDeadline.isSome = true
  | .stopped ending => state.windows.claims = [] ∧ EndingValid state ending

section Stable

variable {before after : State}

theorem HoldsDurable.later {token : ObservationWindowToken} {windowId : Int}
    (holds : HoldsDurable before token windowId) (later : Later before after) :
    HoldsDurable after token windowId :=
  ⟨later.issued token holds.1, later.durable token holds.1 windowId holds.2⟩

theorem FinalizedRow.later {windowId : Int} (finalized : FinalizedRow before windowId)
    (later : Later before after) : FinalizedRow after windowId := by
  obtain ⟨row, present, status⟩ := finalized
  obtain ⟨kept, found, -, still⟩ := later.rows windowId row present
  exact ⟨kept, found, still status⟩

theorem Candidates.later {tokens : List ObservationWindowToken}
    (candidates : Candidates before tokens) (later : Later before after) :
    Candidates after tokens := by
  intro token member
  obtain ⟨windowId, holds⟩ := candidates token member
  exact ⟨windowId, holds.later later⟩

theorem HoldsClaim.later {windowId : Int} {reason : Option WindowIncompleteReason}
    (holds : HoldsClaim before windowId reason) (later : Later before after)
    (claims : after.windows.claims = before.windows.claims) : HoldsClaim after windowId reason := by
  obtain ⟨claim, live, durable, frozen, progressed⟩ := holds
  exact ⟨claim, claims.trans live, durable.later later, frozen, fun complete =>
    later.progressed _ (progressed complete)⟩

theorem DrainOver.later (drained : DrainOver before) (later : Later before after)
    (deadline : after.worker.drainDeadline = before.worker.drainDeadline) : DrainOver after := by
  obtain ⟨cancelled, limit, set, passed⟩ := drained
  exact ⟨later.cancelled cancelled, limit, deadline.trans set, passed.trans later.instant⟩

theorem Recoverable.later {kind : Recovery} {windowId : Int}
    (recoverable : Recoverable before kind windowId) (later : Later before after)
    (deadline : after.worker.drainDeadline = before.worker.drainDeadline)
    (run : after.worker.collectorRunId = before.worker.collectorRunId) :
    Recoverable after kind windowId := by
  obtain ⟨row, present, own⟩ := recoverable
  obtain ⟨kept, found, same, -⟩ := later.rows windowId row present
  refine ⟨kept, found, ?_⟩
  cases kind with
  | abandoned =>
      dsimp only at own ⊢
      rwa [same, run]
  | shutdown =>
      dsimp only at own ⊢
      rw [same, run]
      exact ⟨own.1, own.2.later later deadline⟩

theorem CallerValid.later {attempt : Attempt} (valid : CallerValid before attempt)
    (later : Later before after) (claims : after.windows.claims = before.windows.claims)
    (deadline : after.worker.drainDeadline = before.worker.drainDeadline)
    (run : after.worker.collectorRunId = before.worker.collectorRunId) :
    CallerValid after attempt := by
  cases valid with
  | readyTokens caller candidates holds =>
      exact .readyTokens caller (candidates.later later) (holds.later later claims)
  | recovery caller free reason windows =>
      exact .recovery caller (claims.trans free) reason fun windowId member =>
        (windows windowId member).later later deadline run

theorem EndingValid.later {ending : Ending} (valid : EndingValid before ending)
    (later : Later before after) : EndingValid after ending := by
  cases ending with
  | aborted => exact trivial
  | returned result =>
      cases result with
      | ok => exact later.cancelled valid
      | error error => exact valid

/-- The other tasks keep what the worker knows. -/
theorem PointValid.later {point : Point} (valid : PointValid before point)
    (later : Later before after) (claims : after.windows.claims = before.windows.claims)
    (worker : after.worker = before.worker) : PointValid after point := by
  have deadline := congrArg Worker.drainDeadline worker
  cases point with
  | polling => exact claims.trans valid
  | readyTokens rest => exact ⟨claims.trans valid.1, valid.2.later later⟩
  | attempting attempt =>
      exact ⟨valid.1.later later claims deadline (congrArg Worker.collectorRunId worker), valid.2⟩
  | committing rest =>
      obtain ⟨candidates, claim, windowId, live, durable, finalized⟩ := valid
      exact ⟨candidates.later later, claim, windowId, claims.trans live, durable.later later,
        finalized.later later⟩
  | releasing rest =>
      obtain ⟨candidates, live, held⟩ := valid
      exact ⟨candidates.later later, live, claims.trans held⟩
  | failing ending =>
      obtain ⟨ends, live, held⟩ := valid
      exact ⟨ends.later later, live, claims.trans held⟩
  | loadingWindows kind =>
      cases kind with
      | abandoned => exact claims.trans valid
      | shutdown => exact ⟨claims.trans valid.1, valid.2.later later deadline⟩
  | draining => exact ⟨claims.trans valid.1, worker ▸ valid.2⟩
  | checkingActive => exact ⟨claims.trans valid.1, worker ▸ valid.2⟩
  | stopped ending => exact ⟨claims.trans valid.1, valid.2.later later⟩

end Stable

end Soldisco.Finalizer

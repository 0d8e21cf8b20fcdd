import Soldisco.Proof.Finalizer.Worker

/-
This file proves that the finalizer marks a token only after its window is stored as finalized.
-/

namespace Soldisco.Finalizer
open Domain Window Persistence Accumulation ObservationWindowRegistry

/-- The worker keeps its collector run, and only a cancellation starts its drain. -/
structure KeepsRun (state : State) (worker : Worker) : Prop where
  run : worker.collectorRunId = state.worker.collectorRunId
  drain : worker.drainDeadline = state.worker.drainDeadline ∨ state.cancelled = true

/-- A step of the worker changes the worker alone, calls the registry once or finalizes one window
and publishes it unless the reply is lost. -/
inductive WorkerMove (state : State) (reply : Reply) : Option Int × State → Prop
  | worker {worker : Worker} (keeps : KeepsRun state worker) :
      WorkerMove state reply (none, state.resume worker)
  | registry {action : Window.Action} {worker : Worker} (quiet : action.marks = false)
      (commits : ∀ index, action = .commitClaim index →
        ∃ rest, state.worker.point = .committing rest)
      (keeps : KeepsRun state worker) :
      WorkerMove state reply (none, (state.registryCall action).resume worker)
  | finalization {attempt : Attempt} {finalized : FinalizeDiscoveryWindow} {now : Int}
      {committed : Bool} {database : Database} {worker : Worker}
      (point : state.worker.point = .attempting attempt)
      (request : attempt.request = .finalization finalized)
      (accepted : finalizeDiscoveryWindow greatestZero now state.database finalized =
        .ok (committed, database))
      (keeps : KeepsRun state worker) :
      WorkerMove state reply (if committed ∧ reply ≠ .lost then some attempt.windowId else none,
        { state with database }.resume worker)

variable {state : State} {reply : Reply}

theorem KeepsRun.goTo (point : Point) : KeepsRun state (state.worker.goTo point) :=
  ⟨rfl, .inl rfl⟩

theorem recoverNext_keeps (kind : Recovery) (windowIds : List Int) :
    KeepsRun state (state.worker.recoverNext kind windowIds) := by
  unfold Worker.recoverNext
  cases windowIds with
  | nil => cases kind <;> exact .goTo _
  | cons windowId rest => exact .goTo _

theorem attemptReturned_keeps (attempt : Attempt)
    (outcome : Except PersistenceError (Option Bool)) :
    KeepsRun state (state.worker.attemptReturned state.instant attempt outcome) := by
  unfold Worker.attemptReturned
  split
  · exact ⟨rfl, .inl rfl⟩
  · exact ⟨rfl, .inl rfl⟩
  · exact .goTo _
  · exact recoverNext_keeps _ _
  · exact .goTo _

theorem WorkerMove.goTo (point : Point) : WorkerMove state reply (none, state.goTo point) :=
  .worker (.goTo _)

theorem WorkerMove.call (action : Window.Action) (point : Point) (quiet : action.marks = false)
    (commits : ∀ index, action = .commitClaim index →
      ∃ rest, state.worker.point = .committing rest) :
    WorkerMove state reply (none, (state.registryCall action).goTo point) :=
  .registry quiet commits (.goTo _)

theorem WorkerMove.attemptReturned (attempt : Attempt)
    (outcome : Except PersistenceError (Option Bool)) :
    WorkerMove state reply (none, state.attemptReturned attempt outcome) :=
  .worker (attemptReturned_keeps attempt outcome)

theorem attemptStep_move (input : WorkerInput) {attempt : Attempt}
    (point : state.worker.point = .attempting attempt) :
    WorkerMove state input.reply (state.attemptStep input attempt) := by
  unfold State.attemptStep
  split
  · split
    · exact .attemptReturned attempt _
    · split
      · exact .attemptReturned attempt _
      · exact .goTo _
  · split
    · exact .attemptReturned attempt _
    · exact .goTo _
  · split
    · exact .attemptReturned attempt _
    · exact .goTo _
  · rename_i finalized request
    split
    · exact .attemptReturned attempt _
    · split
      · exact .attemptReturned attempt _
      · rename_i committed database accepted
        have move (outcome : Except PersistenceError (Option Bool)) :
            WorkerMove state input.reply (_, { state with database }.attemptReturned attempt outcome) :=
          .finalization point request accepted (attemptReturned_keeps attempt outcome)
        split
        · rename_i lost
          rw [if_neg fun kept => kept.2 lost] at move
          exact move (.error .database)
        · rename_i kept
          simp only [ne_eq, kept, not_false_iff, and_true] at move
          exact move (.ok (some committed))

theorem workerStep_move (state : State) (input : WorkerInput) :
    WorkerMove state input.reply (state.workerStep input) := by
  have find (now : Int) : WorkerMove state input.reply (none, state.findReadyTokens now) :=
    .call _ _ rfl fun index same => by cases same
  unfold State.workerStep
  split
  · unfold State.poll
    split
    · split
      · rename_i cancelled
        exact .registry rfl (fun index same => by cases same) ⟨rfl, .inr cancelled⟩
      · exact .worker ⟨rfl, .inl rfl⟩
    · exact find _
    · exact .goTo _
  · unfold State.claimToken
    split
    · exact .worker (.goTo _)
    · split
      · split
        · exact .goTo _
        · exact .call _ _ rfl fun index same => by cases same
      · exact .goTo _
  · exact .call _ _ rfl fun index same => by cases same
  · rename_i attempt point
    exact attemptStep_move input point
  · rename_i rest point
    exact .call _ _ rfl fun _ _ => ⟨rest, point⟩
  · exact .call _ _ rfl fun index same => by cases same
  · exact .call _ _ rfl fun index same => by cases same
  · split
    · exact .worker (.goTo _)
    · exact .worker (recoverNext_keeps _ _)
  · split
    · exact find _
    · exact .goTo _
  · split
    · exact .worker (.goTo _)
    · exact .worker (.goTo _)
    · exact .goTo _
  · exact .worker ⟨rfl, .inl rfl⟩

theorem abort_move (state : State) (reply : Reply) : WorkerMove state reply (none, state.abort) := by
  unfold State.abort
  split
  · split <;> exact .goTo _
  all_goals exact .goTo _

/-- An accepted finalization is a step of the database. -/
theorem step_finalizeDiscoveryWindow (isBase64 : String → Bool) {now : Int}
    {db next : Database} {finalized : FinalizeDiscoveryWindow} {committed : Bool}
    (accepted : finalizeDiscoveryWindow greatestZero now db finalized = .ok (committed, next)) :
    (Persistence.step isBase64 db (.finalizeDiscoveryWindow now finalized)).2 = next := by
  have transacted : transact isBase64 greatestZero db (.finalizeDiscoveryWindow now finalized) =
      .ok (.finalized committed, next) := by
    unfold transact
    dsimp only
    rw [accepted]
    rfl
  unfold Persistence.step stepWith
  rw [transacted]

/-- The parts of the state that each step keeps valid. -/
structure PartsValid (state : State) : Prop where
  windows : SystemValid state.windows
  unmarked : state.windows.Unmarked
  stored : StoredWell state.database

theorem WorkerMove.parts {output : Option Int} {after : State}
    (move : WorkerMove state reply (output, after))
    (valid : PartsValid state) : PartsValid after := by
  cases move with
  | worker => exact ⟨valid.windows, valid.unmarked, valid.stored⟩
  | registry quiet =>
      exact ⟨step_valid valid.windows _, step_unmarked valid.unmarked quiet, valid.stored⟩
  | @finalization _ finalized now _ _ _ _ _ accepted =>
      refine ⟨valid.windows, valid.unmarked, ?_⟩
      have well := step_storedWell (fun _ => true) valid.stored
        (.finalizeDiscoveryWindow now finalized)
      rwa [step_finalizeDiscoveryWindow (fun _ => true) accepted] at well

theorem WorkerMove.later {output : Option Int} {after : State}
    (move : WorkerMove state reply (output, after))
    (valid : PartsValid state) : Later state after := by
  cases move with
  | worker => exact .ofSame rfl rfl (le_refl _) id
  | registry => exact (Later.registryCall valid.windows _).trans (.ofSame rfl rfl (le_refl _) id)
  | @finalization _ finalized now _ _ _ _ _ accepted =>
      have committed := Later.transaction (fun _ => true) valid.stored
        (.finalizeDiscoveryWindow now finalized)
      rw [step_finalizeDiscoveryWindow (fun _ => true) accepted] at committed
      exact committed.trans (.ofSame rfl rfl (le_refl _) id)

/-- A finalization that the database accepts leaves its window finalized. -/
theorem finalizeDiscoveryWindow_finalizedRow {now : Int} {database : Database} {committed : Bool}
    {finalized : FinalizeDiscoveryWindow}
    (accepted : finalizeDiscoveryWindow greatestZero now state.database finalized =
      .ok (committed, database)) :
    FinalizedRow { state with database } finalized.windowId := by
  cases committed with
  | true =>
      obtain ⟨row, -, -, stored⟩ := finalizeDiscoveryWindow_stores accepted
      exact ⟨_, stored.present, stored.status⟩
  | false =>
      obtain ⟨-, row, present, -, ⟨status, -, rfl, -⟩ | ⟨-, impossible, -⟩⟩ :=
        finalizeDiscoveryWindow_eq_ok accepted
      · exact ⟨row, present, status⟩
      · cases impossible

/-- The recovery sweeps are about the active windows that their runs select. -/
theorem mem_activeWindowIds {db : Database} {selects : String → Bool} {windowId : Int}
    (member : windowId ∈ activeWindowIds db selects) :
    ∃ row, db.windows.lookup windowId = some row ∧ row.status = .active ∧
      selects row.collectorRunId = true := by
  unfold activeWindowIds at member
  obtain ⟨⟨id, row⟩, sorted, rfl⟩ := List.mem_map.mp member
  obtain ⟨stored, selected⟩ := List.mem_filter.mp ((List.mem_insertionSort _).mp sorted)
  obtain ⟨active, owned⟩ := Bool.and_eq_true_iff.mp selected
  exact ⟨row, AList.mem_lookup_iff.mpr stored, of_decide_eq_true active, owned⟩

theorem recoveryWindows_recoverable {kind : Recovery} {windowIds : List Int}
    (loaded : state.recoveryWindows kind = .ok windowIds)
    (drained : kind = .shutdown → DrainOver state) :
    ∀ windowId ∈ windowIds, Recoverable state kind windowId := by
  intro windowId member
  cases kind with
  | abandoned =>
      unfold State.recoveryWindows loadInterruptedDiscoveryWindowIds at loaded
      obtain ⟨_, -, done⟩ := bind_eq_ok.mp loaded
      cases done
      obtain ⟨row, present, -, other⟩ := mem_activeWindowIds member
      exact ⟨row, present, of_decide_eq_true other⟩
  | shutdown =>
      cases loaded
      obtain ⟨row, present, -, own⟩ := mem_activeWindowIds member
      exact ⟨row, present, of_decide_eq_true own, drained rfl⟩

theorem answer_eq_ok {Result : Type} {reply : Reply} {result : Except PersistenceError Result}
    {value : Result} (answered : reply.answer result = .ok value) : result = .ok value := by
  unfold Reply.answer at answered
  split at answered
  · exact answered
  · cases answered

theorem EndingValid.aborted : EndingValid state .aborted := trivial

theorem EndingValid.failed (error : PersistenceError) :
    EndingValid state (.returned (.error (.persistence error))) := by
  intro lost
  cases lost

/-- A recovery sweep attempts a window that it may recover or ends as its worker may end. -/
theorem recoverNext_valid {kind : Recovery} {windowIds : List Int}
    (free : state.windows.claims = [])
    (windows : ∀ windowId ∈ windowIds, Recoverable state kind windowId)
    (drained : kind = .shutdown → DrainOver state) :
    PointValid (state.resume (state.worker.recoverNext kind windowIds))
      (state.worker.recoverNext kind windowIds).point := by
  cases windowIds with
  | nil =>
      cases kind with
      | abandoned => exact free
      | shutdown => exact ⟨free, (drained rfl).1⟩
  | cons windowId rest =>
      refine ⟨.recovery rfl free rfl fun other member => ?_, trivial⟩
      exact (windows other member).later (.ofSame rfl rfl (le_refl _) id) rfl rfl

/-- The caller goes on after an attempt; a committed attempt leaves its window finalized. -/
theorem attemptReturned_valid {attempt : Attempt} (caller : CallerValid state attempt)
    {outcome : Except PersistenceError (Option Bool)}
    (committed : ∀ changed, outcome = .ok (some changed) → FinalizedRow state attempt.windowId) :
    PointValid (state.attemptReturned attempt outcome)
      (state.attemptReturned attempt outcome).worker.point := by
  unfold State.attemptReturned
  have same : Later state
      (state.resume (state.worker.attemptReturned state.instant attempt outcome)) :=
    .ofSame rfl rfl (le_refl _) id
  cases caller with
  | @readyTokens rest calls candidates holds =>
      obtain ⟨claim, live, durable, -, -⟩ := holds
      cases outcome with
      | error error =>
          simp only [Worker.attemptReturned, calls] at same ⊢
          exact ⟨.failed _, _, live⟩
      | ok result =>
          cases result with
          | none =>
              simp only [Worker.attemptReturned, calls] at same ⊢
              exact ⟨candidates.later same, _, live⟩
          | some changed =>
              have finalized := committed changed rfl
              simp only [Worker.attemptReturned, calls] at same ⊢
              exact ⟨candidates.later same, claim, attempt.windowId, live, durable.later same,
                finalized.later same⟩
  | @recovery kind rest calls free _ windows =>
      cases outcome with
      | error error =>
          simp only [Worker.attemptReturned, calls]
          exact ⟨free, .failed _⟩
      | ok result =>
          simp only [Worker.attemptReturned, calls]
          refine recoverNext_valid free (fun windowId member => windows windowId
            (List.mem_cons_of_mem _ member)) ?_
          rintro rfl
          obtain ⟨_, -, -, drained⟩ := windows attempt.windowId List.mem_cons_self
          exact drained

theorem attemptOutcome_eq_some {result : Except PersistenceError Bool} {changed : Bool}
    (outcome : attemptOutcome result = .ok (some changed)) : result = .ok changed := by
  unfold attemptOutcome at outcome
  split at outcome <;> cases outcome
  rfl

/-- A payload is built for its window and for the reason of its attempt. -/
theorem windowObservations_requested {attempt : Attempt} {reason : Option WindowIncompleteReason}
    {row : WindowIdentityRow} {input : WorkerInput} {finalized : FinalizeDiscoveryWindow}
    (valid : RequestValid attempt (.windowObservations reason row))
    {observations : List Observation}
    (built : (do
      let window ← input.reply.answer (row.intoRecord observations)
      buildDiscoveryWindowFinalization window input.nowUnixMs
        (reason.map WindowIncompleteReason.asStr)) = .ok finalized) :
    RequestValid attempt (.finalization finalized) := by
  obtain ⟨window, answered, built⟩ := bind_eq_ok.mp built
  have record := answer_eq_ok answered
  have identity : window.windowId = row.id := by
    unfold WindowIdentityRow.intoRecord at record
    simp only [bind_eq_ok] at record
    obtain ⟨_, -, _, -, _, -, _, -, done⟩ := record
    cases done
    rfl
  refine ⟨?_, reason, valid.1, ?_⟩
  · obtain ⟨_, _, _, -, -, -, rfl⟩ := buildDiscoveryWindowFinalization_eq_ok built
    exact identity.trans valid.2
  · rintro code rfl
    exact buildDiscoveryWindowFinalization_incomplete built

theorem attemptStep_point (valid : PartsValid state) (input : WorkerInput) {attempt : Attempt}
    (point : state.worker.point = .attempting attempt) (caller : CallerValid state attempt)
    (request : RequestValid attempt attempt.request) :
    PointValid (state.attemptStep input attempt).2
      (state.attemptStep input attempt).2.worker.point := by
  have goesOn (next : Request) (learned : RequestValid attempt next) :
      PointValid (state.attemptRequests attempt next)
        (state.attemptRequests attempt next).worker.point := by
    have same : Later state (state.attemptRequests attempt next) :=
      .ofSame rfl rfl (le_refl _) id
    refine ⟨?_, learned⟩
    cases caller with
    | readyTokens calls candidates holds =>
        exact .readyTokens calls (candidates.later same) (holds.later same rfl)
    | recovery calls free reason windows =>
        exact .recovery calls free reason fun windowId member =>
          (windows windowId member).later same rfl rfl
  have fails (error : PersistenceError) :
      PointValid (state.attemptReturned attempt (attemptOutcome (.error error)))
        (state.attemptReturned attempt (attemptOutcome (.error error))).worker.point :=
    attemptReturned_valid caller fun changed committed => by
      cases attemptOutcome_eq_some committed
  unfold State.attemptStep
  split
  · split
    · exact attemptReturned_valid caller fun _ committed => by cases committed
    · rename_i readiness answered
      split
      · exact attemptReturned_valid caller fun _ committed => by cases committed
      · apply goesOn
        unfold terminalIncompleteReason
        split
        · exact .inr rfl
        · exact .inl rfl
  · rename_i reason known
    rw [known] at request
    split
    · exact fails _
    · rename_i row answered
      refine goesOn _ ⟨request, ?_⟩
      have loaded := answer_eq_ok answered
      split at loaded
      · rename_i window present
        cases loaded
        exact valid.stored.identified _ _ present
      · cases loaded
  · rename_i reason row known
    rw [known] at request
    split
    · exact fails _
    · rename_i finalized built
      exact goesOn _ (windowObservations_requested request built)
  · rename_i finalized known
    rw [known] at request
    split
    · exact attemptReturned_valid caller fun _ committed => by cases committed
    · split
      · exact fails _
      · rename_i committed database accepted
        have move : WorkerMove state .delivered (_, { state with database }.resume state.worker) :=
          .finalization point known accepted ⟨rfl, .inl rfl⟩
        have later := move.later valid
        have finalized := finalizeDiscoveryWindow_finalizedRow accepted
        rw [request.1] at finalized
        have kept := caller.later later rfl rfl rfl
        dsimp only
        split
        · exact attemptReturned_valid kept fun _ lost => by cases lost
        · exact attemptReturned_valid kept fun _ _ => finalized

/-- The candidates of the registry are durable. -/
theorem findReadyTokens_valid (valid : PartsValid state) (free : state.windows.claims = [])
    (nowUnixMs : Int) : PointValid (state.findReadyTokens nowUnixMs)
      (state.findReadyTokens nowUnixMs).worker.point := by
  refine ⟨free, fun token member => ?_⟩
  obtain ⟨retained, candidate⟩ := mem_finalizationCandidates.mp member
  have next := step_valid valid.windows (.finalizationCandidates nowUnixMs)
  have issued := next.registry.tracked token (mem_tokens.mpr (.inr retained))
  unfold isCandidate at candidate
  simp only [Bool.and_eq_true] at candidate
  obtain ⟨windowId, durable⟩ := Option.isSome_iff_exists.mp candidate.1.1.1.2
  refine ⟨windowId, issued, ?_⟩
  change ((state.windows.registry.rotateClosedWindows nowUnixMs).cells token.address).durableWindowId
    = _
  rw [rotateClosedWindows_cells]
  exact durable

/-- A claim is made on a durable token and freezes its reason. -/
theorem claimToken_valid (valid : PartsValid state) (free : state.windows.claims = [])
    {token : ObservationWindowToken} {rest : List ObservationWindowToken}
    (candidates : Candidates state (token :: rest)) :
    PointValid (state.claimToken token rest) (state.claimToken token rest).worker.point := by
  obtain ⟨windowId, holds⟩ := candidates token List.mem_cons_self
  have others : Candidates state rest := fun other member =>
    candidates other (List.mem_cons_of_mem _ member)
  have skips : PointValid (state.goTo (.readyTokens rest)) (.readyTokens rest) :=
    ⟨free, others.later (.ofSame rfl rfl (le_refl _) id)⟩
  unfold State.claimToken
  rw [holds.2]
  dsimp only
  split
  · split
    · exact skips
    · rename_i claim claimed
      have later := Later.registryCall valid.windows (.claimFinalization token)
      have resumed : Later (state.registryCall (.claimFinalization token))
          ((state.registryCall (.claimFinalization token)).goTo (.attempting {
            caller := .readyTokens rest
            windowId
            incompleteReason := claim.incompleteReason
            request := .readiness })) := .ofSame rfl rfl (le_refl _) id
      have made : (state.windows.step (.claimFinalization token)).1 = .claimed (some claim) := by
        simp only [System.step, System.claim, claimed]
      obtain ⟨-, -, ready, -, rfl⟩ := claim_checked made
      refine ⟨.readyTokens rfl (others.later (later.trans resumed)) ?_, trivial⟩
      refine ⟨⟨token, (state.windows.registry.cell token).incompleteReason⟩, ?_,
        holds.later (later.trans resumed), rfl, fun complete => ?_⟩
      · change (state.windows.step (.claimFinalization token)).2.claims = _
        simp only [System.step, System.claim, claimed, free, List.nil_append]
      · exact (later.trans resumed).progressed token
          (ready.resolve_left fun recorded => recorded complete)
  · exact skips

/-- What holds of the finalizer after every run. A marked token has a stored window that is
finalized. -/
structure FinalizerInvariant (state : State) : Prop where
  parts : PartsValid state
  drain : ∀ deadline, state.worker.drainDeadline = some deadline → state.cancelled = true
  point : PointValid state state.worker.point
  marks : ∀ token ∈ state.windows.issued,
    (state.windows.registry.cell token).finalized = true →
    ∃ windowId, HoldsDurable state token windowId ∧ FinalizedRow state windowId

theorem workerStep_point (invariant : FinalizerInvariant state) (input : WorkerInput) :
    PointValid (state.workerStep input).2 (state.workerStep input).2.worker.point := by
  have valid := invariant.parts
  have known := invariant.point
  have later := (workerStep_move state input).later valid
  unfold State.workerStep at later ⊢
  cases point : state.worker.point with
  | polling =>
      rw [point] at known
      dsimp only
      unfold State.poll
      split
      · split
        · exact ⟨known, rfl⟩
        · rw [point]
          exact known
      · exact findReadyTokens_valid valid known _
      · exact known
  | readyTokens tokens =>
      rw [point] at known
      cases tokens with
      | cons token rest => exact claimToken_valid valid known.1 known.2
      | nil =>
          dsimp only
          split
          · rename_i draining
            exact ⟨known.1, draining⟩
          · exact known.1
  | attempting attempt =>
      rw [point] at known
      exact attemptStep_point valid input point known.1 known.2
  | committing rest =>
      rw [point] at known later
      obtain ⟨candidates, claim, windowId, live, -⟩ := known
      refine ⟨candidates.later later, ⟨claim, true⟩, ?_⟩
      change (state.windows.step (.commitClaim 0)).2.claims = _
      simp [System.step, System.commitClaim, live]
  | releasing rest =>
      rw [point] at known later
      obtain ⟨candidates, live, held⟩ := known
      refine ⟨?_, candidates.later later⟩
      change (state.windows.step (.dropClaim 0)).2.claims = _
      simp [System.step, System.dropClaim, held]
  | failing ending =>
      rw [point] at known later
      obtain ⟨ends, live, held⟩ := known
      refine ⟨?_, ends.later later⟩
      change (state.windows.step (.dropClaim 0)).2.claims = _
      simp [System.step, System.dropClaim, held]
  | loadingWindows kind =>
      rw [point] at known
      have free : state.windows.claims = [] := by
        cases kind with
        | abandoned => exact known
        | shutdown => exact known.1
      have drained : kind = .shutdown → DrainOver state := by
        rintro rfl
        exact known.2
      dsimp only
      split
      · exact ⟨free, .failed _⟩
      · rename_i windowIds answered
        exact recoverNext_valid free
          (recoveryWindows_recoverable (answer_eq_ok answered) drained) drained
  | draining =>
      rw [point] at known
      obtain ⟨deadline, set⟩ := Option.isSome_iff_exists.mp known.2
      dsimp only
      split
      · exact findReadyTokens_valid valid known.1 _
      · rename_i drained
        rw [set, Option.any_some, decide_eq_true_eq, Nat.not_lt] at drained
        exact ⟨known.1, invariant.drain deadline set, deadline, set, drained⟩
  | checkingActive =>
      rw [point] at known
      obtain ⟨deadline, set⟩ := Option.isSome_iff_exists.mp known.2
      dsimp only
      split
      · exact ⟨known.1, .failed _⟩
      · exact ⟨known.1, invariant.drain deadline set⟩
      · exact known
  | stopped ending =>
      rw [point] at known
      dsimp only
      rw [point]
      exact known

/-- A dropped future leaves at most the claim that it drops next. -/
theorem abort_point (valid : PartsValid state) (known : PointValid state state.worker.point) :
    PointValid state.abort state.abort.worker.point := by
  have later := (abort_move state .delivered).later valid
  unfold State.abort at later ⊢
  cases point : state.worker.point with
  | attempting attempt =>
      rw [point] at known
      cases known.1 with
      | readyTokens caller _ holds =>
          obtain ⟨claim, live, -⟩ := holds
          dsimp only
          rw [caller]
          exact ⟨.aborted, _, live⟩
      | recovery caller free =>
          dsimp only
          rw [caller]
          exact ⟨free, .aborted⟩
  | polling =>
      rw [point] at known
      exact ⟨known, .aborted⟩
  | loadingWindows kind =>
      rw [point] at known
      cases kind with
      | abandoned => exact ⟨known, .aborted⟩
      | shutdown => exact ⟨known.1, .aborted⟩
  | draining | checkingActive =>
      rw [point] at known
      exact ⟨known.1, .aborted⟩
  | readyTokens | committing | releasing | failing | stopped =>
      dsimp only
      rw [point] at known ⊢
      exact known

/-- The registry marks the token that the worker commits, and no other one. -/
theorem WorkerMove.marks {output : Option Int} {after : State}
    (move : WorkerMove state reply (output, after))
    (invariant : FinalizerInvariant state) {token : ObservationWindowToken}
    (issued : token ∈ after.windows.issued)
    (finalized : (after.windows.registry.cell token).finalized = true) :
    ∃ windowId, HoldsDurable after token windowId ∧ FinalizedRow after windowId := by
  have later := move.later invariant.parts
  have before (earlier : token ∈ state.windows.issued)
      (marked : (state.windows.registry.cell token).finalized = true) :
      ∃ windowId, HoldsDurable after token windowId ∧ FinalizedRow after windowId := by
    obtain ⟨windowId, holds, row⟩ := invariant.marks token earlier marked
    exact ⟨windowId, holds.later later, row.later later⟩
  cases move with
  | worker => exact before issued finalized
  | finalization => exact before issued finalized
  | registry quiet commits =>
      rcases step_finalized invariant.parts.windows invariant.parts.unmarked issued finalized with
        ⟨earlier, marked⟩ | ⟨index, claim, rfl, found, rfl⟩
      · exact before earlier marked
      · obtain ⟨rest, point⟩ := commits index rfl
        have known := invariant.point
        rw [point] at known
        obtain ⟨-, held, windowId, live, holds, row⟩ := known
        rw [live] at found
        have same := List.mem_singleton.mp (List.mem_of_getElem? found)
        cases same
        exact ⟨windowId, holds.later later, row.later later⟩

theorem WorkerMove.drain {output : Option Int} {after : State}
    (move : WorkerMove state reply (output, after))
    (invariant : FinalizerInvariant state) {deadline : Nat}
    (set : after.worker.drainDeadline = some deadline) : after.cancelled = true := by
  have kept {worker : Worker} (keeps : KeepsRun state worker)
      (set : worker.drainDeadline = some deadline) : state.cancelled = true := by
    rcases keeps.drain with same | cancelled
    · exact invariant.drain deadline (same.symm.trans set)
    · exact cancelled
  cases move with
  | worker keeps => exact kept keeps set
  | registry _ _ keeps => exact kept keeps set
  | finalization _ _ _ keeps => exact kept keeps set

theorem WorkerMove.invariant {output : Option Int} {after : State}
    (move : WorkerMove state reply (output, after))
    (invariant : FinalizerInvariant state) (point : PointValid after after.worker.point) :
    FinalizerInvariant after where
  parts := move.parts invariant.parts
  drain := fun _ set => move.drain invariant set
  point
  marks := fun _ issued finalized => move.marks invariant issued finalized

/-- The calls of the other tasks keep the live claims. -/
theorem shared_claims {system : Window.System} {action : Window.Action}
    (shared : isShared action = true) : (system.step action).2.claims = system.claims := by
  cases action with
  | claimFinalization | commitClaim | dropClaim => cases shared
  | invoke token call =>
      simp only [System.step, System.invoke]
      split <;> rfl
  | advance index spuriousFailure =>
      simp only [System.step, System.advance]
      split
      · rfl
      · split <;> rfl
  | _ => rfl

theorem shared_marks {action : Window.Action} (shared : isShared action = true) :
    action.marks = false := by
  unfold Action.marks
  split
  · cases shared
  · rfl

/-- The other tasks keep the invariant. -/
theorem FinalizerInvariant.later {after : State} (invariant : FinalizerInvariant state)
    (parts : PartsValid after) (later : Later state after)
    (claims : after.windows.claims = state.windows.claims) (worker : after.worker = state.worker)
    (marks : ∀ token ∈ after.windows.issued,
      (after.windows.registry.cell token).finalized = true →
      token ∈ state.windows.issued ∧ (state.windows.registry.cell token).finalized = true) :
    FinalizerInvariant after where
  parts
  drain := fun deadline set => later.cancelled (invariant.drain deadline (worker ▸ set))
  point := by
    rw [worker]
    exact invariant.point.later later claims worker
  marks := by
    intro token issued finalized
    obtain ⟨earlier, marked⟩ := marks token issued finalized
    obtain ⟨windowId, holds, row⟩ := invariant.marks token earlier marked
    exact ⟨windowId, holds.later later, row.later later⟩

theorem step_later (isBase64 : String → Bool) (valid : PartsValid state) (action : Action) :
    Later state (step isBase64 state action).2 := by
  have same : Later state state := .ofSame rfl rfl (le_refl _) id
  cases action with
  | registry action =>
      dsimp only [step]
      split
      · exact .registryCall valid.windows action
      · exact same
  | database action =>
      dsimp only [step]
      split
      · exact .transaction isBase64 valid.stored action
      · exact same
  | elapse duration => exact .ofSame rfl rfl (Nat.le_add_right _ _) id
  | cancel => exact .ofSame rfl rfl (le_refl _) fun _ => rfl
  | abort => exact (abort_move state .delivered).later valid
  | work input => exact (workerStep_move state input).later valid

theorem step_finalizerInvariant (isBase64 : String → Bool) (invariant : FinalizerInvariant state)
    (action : Action) : FinalizerInvariant (step isBase64 state action).2 := by
  have valid := invariant.parts
  have later := step_later isBase64 valid action
  cases action with
  | registry action =>
      dsimp only [step] at later ⊢
      split
      · rename_i shared
        have parts : PartsValid (state.registryCall action) :=
          ⟨step_valid valid.windows action, step_unmarked valid.unmarked (shared_marks shared),
            valid.stored⟩
        rw [if_pos shared] at later
        refine invariant.later parts later (shared_claims shared) rfl ?_
        intro token issued finalized
        rcases step_finalized valid.windows valid.unmarked issued finalized with
          earlier | ⟨index, claim, rfl, -⟩
        · exact earlier
        · cases shared
      · exact invariant
  | database action =>
      dsimp only [step] at later ⊢
      split
      · rename_i foreign
        rw [if_pos foreign] at later
        exact invariant.later
          ⟨valid.windows, valid.unmarked, step_storedWell isBase64 valid.stored action⟩ later rfl rfl
          fun _ issued marked => ⟨issued, marked⟩
      · exact invariant
  | elapse duration =>
      exact invariant.later ⟨valid.windows, valid.unmarked, valid.stored⟩ later rfl rfl
        fun _ issued marked => ⟨issued, marked⟩
  | cancel =>
      exact invariant.later ⟨valid.windows, valid.unmarked, valid.stored⟩ later rfl rfl
        fun _ issued marked => ⟨issued, marked⟩
  | abort => exact (abort_move state .delivered).invariant invariant (abort_point valid invariant.point)
  | work input =>
      exact (workerStep_move state input).invariant invariant (workerStep_point invariant input)

theorem start_finalizerInvariant (maximumActive : Nat) (capacityPositive : 0 < maximumActive)
    {database : Database} (stored : StoredWell database) (collectorRunId : String) :
    FinalizerInvariant (.start maximumActive capacityPositive database collectorRunId) where
  parts := ⟨.new maximumActive capacityPositive, (fun _ member => nomatch member), stored⟩
  drain := fun _ set => nomatch set
  point := rfl
  marks := fun _ issued => nomatch issued

theorem run_finalizerInvariant (isBase64 : String → Bool) (invariant : FinalizerInvariant state)
    (actions : List Action) : FinalizerInvariant (Transition.run (step isBase64) state actions) :=
  Transition.invariant_run (step isBase64) FinalizerInvariant
    (fun _ action invariant => step_finalizerInvariant isBase64 invariant action) invariant actions

/-- The windows that a run publishes, in their order. -/
def published (isBase64 : String → Bool) (state : State) (actions : List Action) : List Int :=
  Transition.collect (step isBase64) (fun state action => ((step isBase64 state action).1).toList)
    state actions

/-- A step publishes a window that it finalizes itself. -/
theorem step_published {isBase64 : String → Bool} (invariant : FinalizerInvariant state)
    {action : Action} {windowId : Int} (publishes : (step isBase64 state action).1 = some windowId) :
    ¬ FinalizedRow state windowId ∧ FinalizedRow (step isBase64 state action).2 windowId := by
  cases action with
  | work input =>
      have known := invariant.point
      have move := workerStep_move state input
      change (state.workerStep input).1 = _ at publishes
      change ¬ _ ∧ FinalizedRow (state.workerStep input).2 windowId
      generalize state.workerStep input = outcome at move publishes
      cases move with
      | worker => cases publishes
      | registry => cases publishes
      | @finalization attempt finalized now committed database worker point request accepted =>
          dsimp only at publishes ⊢
          split at publishes
          · rename_i changed
            cases publishes
            rw [point] at known
            obtain ⟨-, asked⟩ := known
            rw [request] at asked
            have row := finalizeDiscoveryWindow_finalizedRow accepted
            rw [asked.1] at row
            refine ⟨?_, row⟩
            rintro ⟨before, present, status⟩
            rw [changed.1] at accepted
            obtain ⟨active, found, running, -⟩ := finalizeDiscoveryWindow_stores accepted
            rw [asked.1, present] at found
            cases found
            rw [status] at running
            cases running
          · cases publishes
  | _ => cases publishes

/-- A step extends the published windows by one that was not yet finalized. -/
theorem step_publishes_once {isBase64 : String → Bool} (invariant : FinalizerInvariant state)
    {items : List Int} (once : items.Nodup)
    (stored : ∀ windowId ∈ items, FinalizedRow state windowId) (action : Action) :
    (items ++ ((step isBase64 state action).1).toList).Nodup ∧
      ∀ windowId ∈ items ++ ((step isBase64 state action).1).toList,
        FinalizedRow (step isBase64 state action).2 windowId := by
  have later := step_later isBase64 invariant.parts action
  cases publishes : (step isBase64 state action).1 with
  | none =>
      rw [Option.toList_none, List.append_nil]
      exact ⟨once, fun windowId member => (stored windowId member).later later⟩
  | some windowId =>
      obtain ⟨fresh, row⟩ := step_published invariant publishes
      rw [Option.toList_some]
      constructor
      · refine List.nodup_append.mpr ⟨once, List.nodup_singleton _, ?_⟩
        rintro earlier member other last rfl
        rw [List.mem_singleton.mp last] at member
        exact fresh (stored windowId member)
      · intro other member
        rcases List.mem_append.mp member with earlier | last
        · exact (stored other earlier).later later
        · rw [List.mem_singleton.mp last]
          exact row

/-- What the runs of the finalizer guarantee. -/
structure FinalizerSafe (state : State) (published : List Int) : Prop where
  marks : ∀ token ∈ state.windows.issued,
    (state.windows.registry.cell token).finalized = true →
    ∃ windowId, HoldsDurable state token windowId ∧ FinalizedRow state windowId
  once : published.Nodup
  stored : ∀ windowId ∈ published, FinalizedRow state windowId
  stopped : ∀ ending, state.worker.point = .stopped ending →
    state.windows.claims = [] ∧ EndingValid state ending

/-- In every interleaving a token is marked as finalized only after the database holds its window
as finalized, no finalization is published twice, and the worker stops without a live claim. -/
theorem finalizer_safe (isBase64 : String → Bool) (maximumActive : Nat)
    (capacityPositive : 0 < maximumActive) (earlier : List DatabaseAction)
    (collectorRunId : String) (actions : List Action) :
    let start := State.start maximumActive capacityPositive (databaseAfter isBase64 earlier)
      collectorRunId
    FinalizerSafe (Transition.run (step isBase64) start actions)
      (published isBase64 start actions) := by
  intro start
  have initial : FinalizerInvariant start :=
    start_finalizerInvariant maximumActive capacityPositive
      (databaseAfter_storedWell isBase64 earlier) collectorRunId
  have along : Transition.Along (step isBase64) (fun _ _ => True) start actions :=
    Transition.along_of_forall start fun _ _ _ => trivial
  obtain ⟨invariant, once, stored⟩ := Transition.collect_invariant (step isBase64)
    (fun state items => FinalizerInvariant state ∧ items.Nodup ∧
      ∀ windowId ∈ items, FinalizedRow state windowId)
    (fun state items action ⟨invariant, once, stored⟩ _ =>
      ⟨step_finalizerInvariant isBase64 invariant action,
        step_publishes_once invariant once stored action⟩)
    ⟨initial, List.nodup_nil, fun _ member => nomatch member⟩ along
  refine ⟨invariant.marks, once, stored, fun ending point => ?_⟩
  have known := invariant.point
  rw [point] at known
  exact known

/-- The worker is answered at the given wall time. -/
def answered (branch : Branch) (nowUnixMs : Int) : Action :=
  .work { branch, nowUnixMs, databaseNowUnixMs := nowUnixMs, reply := .delivered }

/-- The token of the launch is confirmed, its source progresses to its close, and the worker claims
it and builds its payload. -/
def launchFinalizerRun : List Action :=
  .registry (.provisionTarget (.pumpMint "mint") "mint" 100 100) ::
    (durableActions (firstToken (.pumpMint "mint") "mint" 100 200) 1).map .registry ++
    .registry (.recordSourceProgress .pump 250) :: List.replicate 5 (answered .tick 300)

theorem launchCapacity_pos : 0 < 4 := by decide

/-- The window of the launch is published once it is finalized. -/
theorem finalizer_safe_launch :
    let start := State.start 4 launchCapacity_pos (databaseAfter (fun _ => true) launchActions) "run"
    let actions := launchFinalizerRun ++ List.replicate 4 (answered .tick 300)
    published (fun _ => true) start actions = [1] ∧
      FinalizedRow (Transition.run (step fun _ => true) start actions) 1 := by
  intro start actions
  have sent : published (fun _ => true) start actions = [1] := by decide +kernel
  refine ⟨sent, ?_⟩
  apply (finalizer_safe (fun _ => true) 4 launchCapacity_pos launchActions "run" actions).stored
  change 1 ∈ published (fun _ => true) start actions
  rw [sent]
  exact List.mem_singleton_self 1

end Soldisco.Finalizer

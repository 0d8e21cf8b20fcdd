import Soldisco.Proof.Persistence.MemberReceipts
import Soldisco.Proof.Persistence.PrunedDecisions

/-
This file proves that the pruning of retained history is invisible to the later work and decisions.
-/

namespace Soldisco.Persistence
open Domain MachineInteger Accumulation

/-- New rows take the next identifiers, and new work belongs to a new observation. -/
structure DrawnChange (db next : Database) : Prop where
  observations : db.nextObservationId ≤ next.nextObservationId
  work : db.nextWorkId ≤ next.nextWorkId
  stored : ∀ id row, next.observations.lookup id = some row → db.observations.lookup id = none →
    id < next.nextObservationId
  queued : ∀ id row, next.work.lookup id = some row → db.work.lookup id = none →
    id < next.nextWorkId ∧ row.observationId = db.nextObservationId

namespace DrawnChange

variable {db next : Database}

theorem of_same (observations : db.nextObservationId ≤ next.nextObservationId)
    (work : db.nextWorkId ≤ next.nextWorkId) (facts : next.observations = db.observations)
    (keys : ∀ id row, next.work.lookup id = some row → db.work.lookup id ≠ none) :
    DrawnChange db next where
  observations := observations
  work := work
  stored := by
    intro id row present absent
    rw [facts, absent] at present
    cases present
  queued := fun id row present absent => absurd absent (keys id row present)

/-- A change of rows of work draws no identifier. -/
theorem of_modify {workId : Int} {change : WorkRow → WorkRow}
    (observations : next.nextObservationId = db.nextObservationId)
    (work : next.nextWorkId = db.nextWorkId) (facts : next.observations = db.observations)
    (changed : next.work = db.work.modify workId change) : DrawnChange db next := by
  refine of_same observations.ge work.ge facts fun id row present absent => ?_
  rw [changed, Table.lookup_modify] at present
  split at present
  · rename_i same
    rw [← same, absent] at present
    cases present
  · rw [absent] at present
    cases present

end DrawnChange

section Intake

variable {now : Int} {db stored queued : Database} {observation : Observation}
  {inserted : ObservationInsert}

theorem ObservationStored.drawn (storage : ObservationStored now db observation inserted stored) :
    db.nextObservationId ≤ stored.nextObservationId ∧
      ∀ id row, stored.observations.lookup id = some row → db.observations.lookup id = none →
        id < stored.nextObservationId := by
  cases storage with
  | added =>
      refine ⟨Int.le_add_one (le_refl _), fun id row present absent => ?_⟩
      rw [Database.lookup_addObservation] at present
      split at present
      · rename_i same
        rw [same]
        exact Int.lt_add_one_of_le (le_refl _)
      · rw [absent] at present
        cases present
  | @lowered changed =>
      refine ⟨le_refl _, fun id row present absent => ?_⟩
      rw [Database.lookup_lowerReceipt] at present
      split at present
      · rename_i same
        rw [← same, absent] at present
        cases present
      · rw [absent] at present
        cases present
  | kept =>
      refine ⟨le_refl _, fun id row present absent => ?_⟩
      rw [absent] at present
      cases present

theorem WorkQueued.of_replay (old : inserted.isNew = false) :
    WorkQueued now db observation inserted db := by
  obtain ⟨id, isNew⟩ := inserted
  cases old
  exact .replayed

/-- A stored fact and its queued work draw the next identifiers. -/
theorem drawnChange_of_queued {next : Database}
    (storage : ObservationStored now db observation inserted stored)
    (work : WorkQueued now stored observation inserted queued)
    (observations : next.observations = queued.observations) (rows : next.work = queued.work)
    (observationIds : next.nextObservationId = queued.nextObservationId)
    (workIds : next.nextWorkId = queued.nextWorkId) : DrawnChange db next := by
  obtain ⟨drawn, fresh⟩ := storage.drawn
  have facts : queued.observations = stored.observations := by rw [work.frame]
  have ids : queued.nextObservationId = stored.nextObservationId := by rw [work.frame]
  have before : stored.work = db.work ∧ stored.nextWorkId = db.nextWorkId := by
    rw [storage.frame]
    exact ⟨rfl, rfl⟩
  refine ⟨?_, ?_, ?_, ?_⟩
  · rw [observationIds, ids]
    exact drawn
  · rw [workIds, ← before.2]
    cases work with
    | queued => exact Int.le_add_one (le_refl _)
    | replayed => exact le_refl _
  · intro id row present absent
    rw [observations, facts] at present
    rw [observationIds, ids]
    exact fresh id row present absent
  · intro id row present absent
    rw [rows] at present
    rw [workIds]
    rw [← before.1] at absent
    cases work with
    | @queued observationId =>
        change AList.lookup id (stored.work.insert stored.nextWorkId
          (pendingWork now observationId)) = some row at present
        by_cases same : id = stored.nextWorkId
        · subst same
          rw [AList.lookup_insert] at present
          cases present
          refine ⟨Int.lt_add_one_of_le (le_refl _), ?_⟩
          cases storage
          rfl
        · rw [AList.lookup_insert_ne same, absent] at present
          cases present
    | replayed =>
        rw [absent] at present
        cases present

end Intake

theorem Transacted.drawnChange {isBase64 : String → Bool} {clamp : Int → Int} {db next : Database}
    {action : DatabaseAction} (committed : Transacted isBase64 clamp db action next)
    (consistent : TokensConsistent db) (keeps : action.prunes = false) : DrawnChange db next := by
  have unchanged (next : Database) (observations : next.nextObservationId = db.nextObservationId)
      (work : next.nextWorkId = db.nextWorkId) (facts : next.observations = db.observations)
      (rows : next.work = db.work) : DrawnChange db next := by
    refine .of_same observations.ge work.ge facts fun id row present absent => ?_
    rw [rows, absent] at present
    cases present
  cases committed with
  | bound | boundBefore | addedRevision => exact unchanged _ rfl rfl rfl rfl
  | skippedSequences observations work windows =>
      refine .of_same ?_ ?_ rfl fun id row present absent => ?_
      · exact Int.le_add_of_nonneg_right (Int.natCast_nonneg observations)
      · exact Int.le_add_of_nonneg_right (Int.natCast_nonneg work)
      · change db.work.lookup id = some row at present
        rw [absent] at present
        cases present
  | insertedObservation accepted =>
      obtain ⟨-, inserted, stored, storage, work⟩ := insertObservation_eq_ok accepted
      exact drawnChange_of_queued storage work rfl rfl rfl rfl
  | openedWindow accepted =>
      rcases openDiscoveryWindow_eq_ok accepted with
        ⟨-, rfl⟩ | ⟨-, -, -, -, -, -, inserted, stored, queued, prefilterRevision,
          qualificationRevision, storage, work, -, rfl⟩
      · exact unchanged _ rfl rfl rfl rfl
      · unfold Database.openWindow
        rw [Database.insertMembership_frame]
        exact drawnChange_of_queued storage work rfl rfl rfl rfl
  | insertedMember accepted =>
      obtain ⟨-, window, inserted, stored, -, storage, branch⟩ :=
        insertWindowObservation_eq_ok accepted
      rcases branch with ⟨old, rfl⟩ | ⟨row, queued, -, -, work, rfl⟩
      · exact drawnChange_of_queued storage (.of_replay old) rfl rfl rfl rfl
      · rw [Database.insertMembership_frame]
        exact drawnChange_of_queued storage work rfl rfl rfl rfl
  | claimedWork accepted =>
      obtain ⟨leaseMillis, rfl⟩ := claimObservationWork_eq_ok accepted
      refine .of_same (le_refl _) (le_refl _) rfl fun id row present absent => ?_
      change AList.lookup id (db.work.modifyAll _) = some row at present
      rw [Table.lookup_modifyAll, absent] at present
      cases present
  | renewedLease accepted =>
      rw [renewObservationWorkLease_eq_ok accepted]
      exact .of_modify rfl rfl rfl rfl
  | committedObservation accepted =>
      obtain ⟨-, -, work, recorded, projected, tokens, activity, traders, -, -, -, -, -, -, rfl⟩ :=
        commitDiscoveryObservation_eq_ok consistent accepted
      exact .of_modify rfl rfl rfl rfl
  | committedApproval accepted =>
      obtain ⟨-, -, row, observedSlot, -, -, -, -, rfl⟩ := commitDiscoveryApproval_eq_ok accepted
      exact unchanged _ rfl rfl rfl rfl
  | committedRejection accepted =>
      obtain ⟨work, -, -, rfl⟩ := commitDiscoveryRejection_eq_ok accepted
      exact .of_modify rfl rfl rfl rfl
  | releasedWork accepted =>
      obtain ⟨work, retryMillis, -, branch⟩ := retryOrFailObservationWork_eq_ok accepted
      rcases branch with ⟨-, -, rfl⟩ | ⟨-, -, -, rfl⟩ | ⟨-, -, -, rfl⟩ <;>
        exact .of_modify rfl rfl rfl rfl
  | finalizedWindow accepted =>
      obtain ⟨-, window, -, -, branch⟩ := finalizeDiscoveryWindow_eq_ok accepted
      rcases branch with ⟨-, -, rfl, -⟩ | ⟨-, -, frozen, froze, publishing⟩
      · exact unchanged _ rfl rfl rfl rfl
      · obtain ⟨-, -, -, -, rfl⟩ := freezeEvidence_eq_ok froze
        obtain ⟨delta, applied, projectionApplied, decision, rfl⟩ :=
          publishDecision_eq_ok publishing
        unfold Database.finishWindow
        rw [summarizeDecision_frame, decision.frame]
        exact unchanged _ rfl rfl rfl rfl
  | prunedHistory => cases keeps
  | rebuiltProjection accepted =>
      unfold rebuildDiscoveryProjection at accepted
      simp only [bind_eq_ok] at accepted
      obtain ⟨_, _, done⟩ := accepted
      cases done
      exact unchanged _ rfl rfl rfl rfl

/-- The identifiers of stored rows have been drawn and the opening of a window is its member. -/
structure DrawnInvariant (db : Database) : Prop where
  references : ReferencesInvariant db
  observationIds : ∀ id row, db.observations.lookup id = some row → id < db.nextObservationId
  workIds : ∀ id row, db.work.lookup id = some row → id < db.nextWorkId
  openings : ∀ windowId window observationId, db.windows.lookup windowId = some window →
    window.openingObservationId = some observationId → (windowId, observationId) ∈ db.memberPairs

theorem drawnInvariant_migrated : DrawnInvariant Database.migrated where
  references := referencesInvariant_migrated
  observationIds := fun _ _ present => by cases present
  workIds := fun _ _ present => by cases present
  openings := fun _ _ _ present => by cases present

section Steps

variable {isBase64 : String → Bool} {clamp : Int → Int} {db next : Database}
  {action : DatabaseAction}

theorem Transacted.memberKept (committed : Transacted isBase64 clamp db action next)
    (invariant : ReferencesInvariant db) (keeps : action.prunes = false) {pair : Int × Int}
    (member : pair ∈ db.memberPairs) : pair ∈ next.memberPairs := by
  have windows : ∀ windowId observationId, (windowId, observationId) ∈ db.memberPairs →
      db.windows.lookup windowId ≠ none := by
    intro windowId observationId old absent
    obtain ⟨window, -, present, -⟩ := invariant.members _ _ old
    rw [absent] at present
    cases present
  cases committed.membersChanged invariant.counters.tokens windows keeps with
  | same pairs => rw [pairs]; exact member
  | joined _ pairs => rw [pairs]; exact List.mem_append_left _ member

/-- A window that is not new keeps its opening. -/
theorem DecisionChange.opening_kept (change : DecisionChange db action next)
    (keeps : action.prunes = false)
    (quiet : ∀ now observation window, action ≠ .openDiscoveryWindow now observation window)
    {id : Int} {window : WindowRow} (present : next.windows.lookup id = some window) :
    ∃ before, db.windows.lookup id = some before ∧
      before.openingObservationId = window.openingObservationId := by
  have kept : ∀ windows, windows = db.windows → AList.lookup id windows = some window →
      ∃ before, db.windows.lookup id = some before ∧
        before.openingObservationId = window.openingObservationId := by
    rintro _ rfl found
    exact ⟨window, found, rfl⟩
  cases change with
  | quiet same => exact kept _ same.windows present
  | bound => exact kept _ rfl present
  | opened => exact absurd rfl (quiet _ _ _)
  | observed _ _ _ _ _ _ same => exact kept _ same.windows present
  | approved _ _ _ _ _ _ same => exact kept _ same.windows present
  | @finalized _ payload running _ _ _ _ _ runningPresent _ _ _ _ _ _ _ windows =>
      rw [windows, Table.lookup_modify] at present
      split at present
      · rename_i same
        subst same
        rw [runningPresent] at present
        cases present
        exact ⟨running, runningPresent, rfl⟩
      · exact kept _ rfl present
  | pruned => cases keeps

/-- The opening of a new window is its member. -/
theorem openDiscoveryWindow_openings {now : Int} {observation : Observation}
    {new : NewDiscoveryWindow} {opened : OpenedDiscoveryWindow}
    (accepted : openDiscoveryWindow isBase64 now db observation new = .ok (opened, next))
    (openings : ∀ windowId window observationId, db.windows.lookup windowId = some window →
      window.openingObservationId = some observationId →
        (windowId, observationId) ∈ next.memberPairs)
    {windowId observationId : Int} {window : WindowRow}
    (present : next.windows.lookup windowId = some window)
    (opening : window.openingObservationId = some observationId) :
    (windowId, observationId) ∈ next.memberPairs := by
  rcases openDiscoveryWindow_eq_ok accepted with
    ⟨-, rfl⟩ | ⟨-, -, -, -, -, -, inserted, stored, queued, prefilterRevision,
      qualificationRevision, storage, work, -, rfl⟩
  · exact openings _ _ _ present opening
  · have windows : queued.windows = db.windows ∧ queued.nextWindowId = db.nextWindowId := by
      rw [work.frame]
      dsimp only
      rw [storage.frame]
      exact ⟨rfl, rfl⟩
    have found : AList.lookup windowId (queued.windows.insert queued.nextWindowId
        (newWindowRow db.nextWindowId inserted.id prefilterRevision qualificationRevision
          observation new)) = some window := by
      unfold Database.openWindow at present
      rw [Database.insertMembership_frame] at present
      exact present
    rw [windows.1, windows.2] at found
    by_cases created : windowId = db.nextWindowId
    · subst created
      rw [AList.lookup_insert] at found
      cases found
      cases opening
      change _ ∈ (Database.insertMembership _ db.nextWindowId inserted.id _).memberPairs
      rw [memberPairs_insertMembership]
      split
      · rename_i member
        exact member
      · exact List.mem_append_right _ (List.mem_singleton_self _)
    · rw [AList.lookup_insert_ne created] at found
      exact openings _ _ _ found opening

theorem Transacted.openings (committed : Transacted isBase64 clamp db action next)
    (invariant : DrawnInvariant db) (keeps : action.prunes = false) (windowId : Int)
    (window : WindowRow) (observationId : Int)
    (present : next.windows.lookup windowId = some window)
    (opening : window.openingObservationId = some observationId) :
    (windowId, observationId) ∈ next.memberPairs := by
  have before : ∀ windowId window observationId, db.windows.lookup windowId = some window →
      window.openingObservationId = some observationId →
        (windowId, observationId) ∈ next.memberPairs := fun windowId window observationId present
      opening => committed.memberKept invariant.references keeps
        (invariant.openings windowId window observationId present opening)
  by_cases opens : ∃ now observation new, action = .openDiscoveryWindow now observation new
  · obtain ⟨now, observation, new, rfl⟩ := opens
    cases committed with
    | openedWindow accepted => exact openDiscoveryWindow_openings accepted before present opening
  · have change := committed.decisionChange invariant.references.counters.tokens
    obtain ⟨row, found, same⟩ := change.opening_kept keeps
      (fun now observation new same => opens ⟨now, observation, new, same⟩) present
    exact before windowId row observationId found (same.trans opening)

theorem DrawnInvariant.kept (invariant : DrawnInvariant db) (references : ReferencesInvariant next)
    (committed : Transacted isBase64 clamp db action next) (keeps : action.prunes = false) :
    DrawnInvariant next := by
  have drawn := committed.drawnChange invariant.references.counters.tokens keeps
  refine ⟨references, fun id row present => ?_, fun id row present => ?_,
    committed.openings invariant keeps⟩
  · cases old : db.observations.lookup id with
    | none => exact drawn.stored id row present old
    | some before =>
        exact lt_of_lt_of_le (invariant.observationIds id before old) drawn.observations
  · cases old : db.work.lookup id with
    | none => exact (drawn.queued id row present old).1
    | some before => exact lt_of_lt_of_le (invariant.workIds id before old) drawn.work

theorem DrawnInvariant.pruned (invariant : DrawnInvariant db) {deleted : List Int}
    {events : List ProjectionEventRow}
    (references : ReferencesInvariant (db.withoutHistory deleted events)) :
    DrawnInvariant (db.withoutHistory deleted events) := by
  refine ⟨references, fun id row present => ?_, fun id row present => ?_,
    fun windowId window observationId present opening => ?_⟩
  · exact invariant.observationIds id row (Table.lookup_deleteWhere_eq_some.mp present).1
  · exact invariant.workIds id row (Table.lookup_deleteWhere_eq_some.mp present).1
  · rw [Database.lookup_windows_withoutHistory] at present
    obtain ⟨before, found, rfl⟩ := Option.map_eq_some_iff.mp present
    unfold WindowRow.clearOpening at opening
    split at opening
    · cases opening
    · rename_i kept
      rw [opening, Option.any_some, decide_eq_true_iff] at kept
      have member := invariant.openings windowId before observationId found opening
      unfold Database.memberPairs at member ⊢
      obtain ⟨row, stored, same⟩ := List.mem_map.mp member
      cases same
      exact List.mem_map.mpr ⟨row, List.mem_filter.mpr ⟨stored, by simpa using kept⟩, rfl⟩

end Steps

theorem step_drawnInvariant (isBase64 : String → Bool) (db : Database) (action : DatabaseAction)
    (invariant : DrawnInvariant db) : DrawnInvariant (step isBase64 db action).2 := by
  have references := step_referencesInvariant isBase64 db action invariant.references
  unfold step at references ⊢
  rcases stepWith_cases isBase64 greatestZero db action with
    ⟨_, next, moved, committed⟩ | ⟨_, same⟩
  · rw [moved] at references ⊢
    cases pruning : action.prunes with
    | false => exact invariant.kept references committed pruning
    | true =>
        cases committed with
        | prunedHistory accepted =>
            obtain ⟨events, rfl⟩ := pruneRetainedHistory_eq_ok accepted
            exact invariant.pruned references
        | _ => cases pruning
  · rw [same]
    exact invariant

theorem databaseAfter_drawn (isBase64 : String → Bool) (actions : List DatabaseAction) :
    DrawnInvariant (databaseAfter isBase64 actions) :=
  Transition.invariant_run (step isBase64) DrawnInvariant (step_drawnInvariant isBase64)
    drawnInvariant_migrated actions

section Pruned

variable {isBase64 : String → Bool} {clamp : Int → Int} {db next : Database}
  {action : DatabaseAction} {deleted : List Int} {events : List ProjectionEventRow}

theorem outcome_agrees {Result : Type} {operation other : Except PersistenceError (Result × Database)}
    (wrap : Result → DatabaseOutcome) (agrees : Agrees (Answers deleted) operation other) :
    Agrees (Answers deleted) (operation >>= fun result => .ok (wrap result.1, result.2))
      (other >>= fun result => .ok (wrap result.1, result.2)) :=
  .bind agrees fun _ _ _ answer => .ok ⟨congrArg wrap answer.1, answer.2⟩

/-- Each transaction on news answers alike without the history. -/
theorem transact_agrees (history : IsHistory db deleted) (keeps : action.prunes = false)
    (news : ∀ observation, action.delivered = some observation → IsNews db deleted observation) :
    Agrees (Answers deleted) (transact isBase64 clamp db action)
      (transact isBase64 clamp (db.withoutHistory deleted events) action) := by
  cases action with
  | bindNetwork network =>
      change Agrees _ (bindNetwork db network >>= fun _ => _)
        (bindNetwork (db.withoutHistory deleted events) network >>= fun _ => _)
      unfold bindNetwork
      have bound : (db.withoutHistory deleted events).boundNetwork = db.boundNetwork := rfl
      rw [bound]
      cases db.boundNetwork with
      | none => exact .ok ⟨rfl, events, rfl⟩
      | some other =>
          dsimp only
          split
          · exact .ok ⟨rfl, events, rfl⟩
          · exact .error _
  | addQualificationRevision => exact .ok ⟨rfl, events, rfl⟩
  | skipSequences => exact .ok ⟨rfl, events, rfl⟩
  | insertObservation now observation =>
      exact outcome_agrees .inserted (insertObservation_agrees history (news _ rfl))
  | openDiscoveryWindow now observation window =>
      exact outcome_agrees .opened (openDiscoveryWindow_agrees history (news _ rfl))
  | insertWindowObservation now windowId observation =>
      exact outcome_agrees .inserted (insertWindowObservation_agrees history (news _ rfl))
  | claimObservationWork => exact outcome_agrees .claimed (claimObservationWork_agrees history)
  | renewObservationWorkLease =>
      exact outcome_agrees .renewed (renewObservationWorkLease_agrees history)
  | commitDiscoveryObservation =>
      exact outcome_agrees .projected (commitDiscoveryObservation_agrees history)
  | commitDiscoveryApproval => exact outcome_agrees .projected commitDiscoveryApproval_agrees
  | commitDiscoveryRejection =>
      exact outcome_agrees (fun _ => .done) (commitDiscoveryRejection_agrees history)
  | retryOrFailObservationWork =>
      exact outcome_agrees .released (retryOrFailObservationWork_agrees history)
  | finalizeDiscoveryWindow =>
      exact outcome_agrees .finalized (finalizeDiscoveryWindow_agrees history)
  | pruneRetainedHistory => cases keeps
  | rebuildDiscoveryProjection =>
      exact outcome_agrees .rebuilt (rebuildDiscoveryProjection_agrees history)

/-- A deleted fact joins no window. -/
theorem Transacted.member_of_deleted (committed : Transacted isBase64 clamp db action next)
    (history : IsHistory db deleted) (consistent : TokensConsistent db)
    (keeps : action.prunes = false)
    (news : ∀ observation, action.delivered = some observation → IsNews db deleted observation)
    {windowId observationId : Int} (member : (windowId, observationId) ∈ next.memberPairs)
    (gone : observationId ∈ deleted) : (windowId, observationId) ∈ db.memberPairs := by
  cases joins : action.joins with
  | false =>
      rw [committed.memberPairs consistent keeps joins] at member
      exact member
  | true =>
      cases committed with
      | openedWindow accepted =>
          rcases openDiscoveryWindow_eq_ok accepted with
            ⟨-, rfl⟩ | ⟨-, -, -, -, -, -, inserted, stored, queued, prefilterRevision,
              qualificationRevision, storage, work, -, rfl⟩
          · exact member
          · have pairs : queued.memberPairs = db.memberPairs := by
              unfold Database.memberPairs
              rw [work.frame]
              exact storage.memberships
            rcases mem_memberPairs_insertMembership member with old | same
            · exact pairs ▸ old
            · cases same
              exact absurd gone (storage.spared history (news _ rfl))
      | insertedMember accepted =>
          obtain ⟨-, window, inserted, stored, -, storage, branch⟩ :=
            insertWindowObservation_eq_ok accepted
          rcases branch with ⟨-, rfl⟩ | ⟨row, queued, -, -, work, rfl⟩
          · have pairs : next.memberPairs = db.memberPairs := storage.memberships
            exact pairs ▸ member
          · have pairs : queued.memberPairs = db.memberPairs := by
              unfold Database.memberPairs
              rw [work.frame]
              exact storage.memberships
            rcases mem_memberPairs_insertMembership member with old | same
            · exact pairs ▸ old
            · cases same
              exact absurd gone (storage.spared history (news _ rfl))
      | _ => cases joins

/-- A transaction on news leaves the history finished. -/
theorem IsHistory.kept (history : IsHistory db deleted) (invariant : DrawnInvariant db)
    (after : DrawnInvariant next) (committed : Transacted isBase64 clamp db action next)
    (keeps : action.prunes = false)
    (news : ∀ observation, action.delivered = some observation → IsNews db deleted observation) :
    IsHistory next deleted := by
  have consistent := invariant.references.counters.tokens
  refine ⟨fun id gone => ?_, fun id row present gone => ?_, fun windowId observationId member gone
    window present => ?_, after.observationIds, after.workIds, after.openings⟩
  · obtain ⟨row, present⟩ := history.stored id gone
    obtain ⟨later, found, -⟩ := (committed.factsKept consistent keeps).observation id row present
    exact ⟨later, found⟩
  · cases old : db.work.lookup id with
    | none =>
        have fresh := ((committed.drawnChange consistent keeps).queued id row present old).2
        rw [fresh] at gone
        exact absurd gone history.fresh
    | some before =>
        obtain ⟨later, found, step⟩ := (committed.workChange consistent keeps).stepped id before old
        rw [present] at found
        cases found
        rw [step.origin.1] at gone
        have ended := history.ended id before old gone
        rw [step.of_ended ended]
        exact ended
  · have old := committed.member_of_deleted history consistent keeps news member gone
    obtain ⟨before, -, found, -, -⟩ := invariant.references.members _ _ old
    have final := history.final windowId observationId old gone before found
    obtain ⟨opening, later⟩ := (committed.decisionChange consistent).finalized_window found final
    rw [present] at later
    cases later
    exact final

/-- The candidates of a batch are finished history. -/
theorem pruneCandidates_history (invariant : DrawnInvariant db) (policy : RetentionPolicy) :
    IsHistory db (pruneCandidates db policy) := by
  refine ⟨fun id candidate => ?_, fun id row present candidate => ?_,
    fun windowId observationId member candidate window present => ?_, invariant.observationIds,
    invariant.workIds, invariant.openings⟩
  · unfold pruneCandidates at candidate
    obtain ⟨entry, taken, rfl⟩ := List.mem_map.mp candidate
    have sorted := List.mem_of_mem_take taken
    rw [List.mem_insertionSort, List.mem_filter] at sorted
    exact ⟨entry.2, AList.mem_lookup_iff.mpr sorted.1⟩
  · exact hasTerminalWork_status (pruneCandidates_selected candidate).1 present rfl
  · have inactive := (pruneCandidates_selected candidate).2
    unfold Database.memberPairs at member
    obtain ⟨row, stored, same⟩ := List.mem_map.mp member
    cases same
    by_contra running
    have active : window.status = .active := by
      cases status : window.status with
      | active => rfl
      | finalized => exact absurd status running
    have found : isActiveMember db row.observationId = true := by
      unfold isActiveMember
      exact List.any_eq_true.mpr ⟨row, stored, by simp [present, active]⟩
    rw [inactive] at found
    cases found

end Pruned

/-- The second database answers the readers of windows, candidates and counters as the first. -/
structure ReadsAlike (full pruned : Database) : Prop where
  windows : ∀ id window, full.windows.lookup id = some window → window.status = .active →
    pruned.windows.lookup id = some window ∧
      loadDiscoveryWindow pruned id = loadDiscoveryWindow full id ∧
      projectionReadiness pruned id window = projectionReadiness full id window
  candidates : ∀ mode limit, loadDiscoveryTokens pruned mode limit =
    loadDiscoveryTokens full mode limit
  claimable : ∀ now workKind limit, claimableWork now pruned workKind limit =
    claimableWork now full workKind limit
  finalizations : ∀ id, storedFinalization pruned id = storedFinalization full id
  projection : pruned.projection = full.projection
  activity : pruned.activity = full.activity ∧ pruned.traders = full.traders

theorem loadDiscoveryTokens_withoutHistory (db : Database) (deleted : List Int)
    (events : List ProjectionEventRow) (mode : DiscoveryMode) (limit : Nat) :
    loadDiscoveryTokens (db.withoutHistory deleted events) mode limit =
      loadDiscoveryTokens db mode limit := by
  let clear (entry : Sigma fun _ : String => TokenRow) : Sigma fun _ : String => TokenRow :=
    ⟨entry.1, entry.2.clearSource fun id => db.isGone deleted id⟩
  have cleared (entry : Sigma fun _ : String => TokenRow) : (clear entry).2.stage = entry.2.stage ∧
      (clear entry).2.observedSlot = entry.2.observedSlot ∧
      (clear entry).2.token = entry.2.token := by
    obtain ⟨source, same⟩ := entry.2.clearSource_withSource fun id => db.isGone deleted id
    change (entry.2.clearSource _).stage = _ ∧ (entry.2.clearSource _).observedSlot = _ ∧
      (entry.2.clearSource _).token = _
    rw [same]
    exact ⟨rfl, rfl, rfl⟩
  have entries : (db.withoutHistory deleted events).tokens.entries = db.tokens.entries.map clear :=
    rfl
  have visible : (db.tokens.entries.map clear).filter (fun entry => isVisible mode entry.2.stage) =
      (db.tokens.entries.filter fun entry => isVisible mode entry.2.stage).map clear := by
    rw [List.filter_map]
    congr 2
    funext entry
    rw [Function.comp_apply, (cleared entry).1]
  unfold loadDiscoveryTokens
  rw [entries, visible]
  dsimp only
  rw [← List.map_insertionSort (fun left right : Sigma fun _ : String => TokenRow =>
    right.2.observedSlot < left.2.observedSlot ∨
      left.2.observedSlot = right.2.observedSlot ∧ left.1 ≤ right.1), ← List.map_take,
    List.mapM_map]
  · have read : (fun entry : Sigma fun _ : String => TokenRow =>
        readDiscoveryToken mode entry.2.token) ∘ clear =
        fun entry => readDiscoveryToken mode entry.2.token := by
      funext entry
      rw [Function.comp_apply, (cleared entry).2.2]
    rw [read]
  · intro left _ right _
    rw [(cleared left).2.1, (cleared right).2.1]

theorem IsHistory.readsAlike {db : Database} {deleted : List Int} (history : IsHistory db deleted)
    (events : List ProjectionEventRow) : ReadsAlike db (db.withoutHistory deleted events) where
  windows := by
    intro id window present active
    refine ⟨?_, loadDiscoveryWindow_withoutHistory history present active,
      projectionReadiness_withoutHistory history present active⟩
    rw [Database.lookup_windows_withoutHistory, present, Option.map_some,
      history.openingKept present active]
  candidates := loadDiscoveryTokens_withoutHistory db deleted events
  claimable := fun _ workKind limit => claimableWork_withoutHistory history workKind limit
  finalizations := storedFinalization_withoutHistory
  projection := rfl
  activity := ⟨rfl, rfl⟩

/-- The second database lacks a finished history of the first one that is old since the start. -/
structure IsPruned (start : Database) (deleted : List Int) (full pruned : Database) : Prop where
  drawn : DrawnInvariant full
  history : IsHistory full deleted
  news : ∀ observation, IsNews start deleted observation → IsNews full deleted observation
  lacks : Lacks deleted full pruned

/-- The action prunes nothing and delivers no fact of the history. -/
def DatabaseAction.AddsNews (start : Database) (deleted : List Int) (action : DatabaseAction) :
    Prop :=
  action.prunes = false ∧
    ∀ observation, action.delivered = some observation → IsNews start deleted observation

/-- A step on news answers alike and keeps the history apart. -/
theorem step_isPruned (isBase64 : String → Bool) {start full pruned : Database}
    {deleted : List Int} {action : DatabaseAction} (related : IsPruned start deleted full pruned)
    (adds : action.AddsNews start deleted) :
    (step isBase64 pruned action).1 = (step isBase64 full action).1 ∧
      IsPruned start deleted (step isBase64 full action).2 (step isBase64 pruned action).2 := by
  obtain ⟨keeps, news⟩ := adds
  have after := step_drawnInvariant isBase64 full action related.drawn
  have current : ∀ observation, action.delivered = some observation →
      IsNews full deleted observation := fun observation delivered =>
    related.news observation (news observation delivered)
  obtain ⟨events, lacks⟩ := related.lacks
  have agrees := @transact_agrees isBase64 greatestZero full action deleted events related.history
    keeps current
  rw [← lacks] at agrees
  unfold step stepWith at after ⊢
  generalize answered : transact isBase64 greatestZero full action = answer at agrees after ⊢
  generalize transact isBase64 greatestZero pruned action = other at agrees ⊢
  cases agrees with
  | error => exact ⟨rfl, related⟩
  | @ok result another holds =>
      obtain ⟨outcome, next⟩ := result
      obtain ⟨same, prunedNext⟩ := another
      obtain ⟨rfl, lacking⟩ := holds
      have committed := transact_eq_ok answered
      refine ⟨rfl, after, related.history.kept related.drawn after committed keeps current, ?_,
        lacking⟩
      intro observation fresh id gone row present
      obtain ⟨before, stored⟩ := related.history.stored id gone
      obtain ⟨later, found, fact⟩ := (committed.factsKept
        related.drawn.references.counters.tokens keeps).observation id before stored
      rw [present] at found
      cases found
      rw [fact.key]
      exact related.news observation fresh id gone before stored

/-- After the history of observations and projection events has been pruned every later run answers as
if it were kept, as long as no pruned fact is delivered again. Quarantine rows are not part of it. -/
theorem pruning_invisible (isBase64 : String → Bool) {earlier later : List DatabaseAction}
    {policy : RetentionPolicy} {result : RetentionPruneResult} {pruned : Database}
    (accepted : pruneRetainedHistory (databaseAfter isBase64 earlier) policy = .ok (result, pruned))
    (keeps : ∀ action ∈ later, action.prunes = false)
    (news : ∀ action ∈ later, ∀ observation, action.delivered = some observation →
      ∀ id row, (databaseAfter isBase64 earlier).observations.lookup id = some row →
        pruned.observations.lookup id = none →
          sameIdentity row.normalized.key observation.key = false) :
    Transition.outputs (step isBase64) pruned later =
        Transition.outputs (step isBase64) (databaseAfter isBase64 earlier) later ∧
      ReadsAlike (Transition.run (step isBase64) (databaseAfter isBase64 earlier) later)
        (Transition.run (step isBase64) pruned later) := by
  have drawn := databaseAfter_drawn isBase64 earlier
  generalize databaseAfter isBase64 earlier = start at accepted news drawn ⊢
  have history := pruneCandidates_history drawn policy
  obtain ⟨events, rfl⟩ := pruneRetainedHistory_eq_ok accepted
  have initial : IsPruned start (pruneCandidates start policy) start
      (start.withoutHistory (pruneCandidates start policy) events) :=
    ⟨drawn, history, fun _ news => news, events, rfl⟩
  have guarded : Transition.Along (step isBase64) (fun _ action =>
      action.AddsNews start (pruneCandidates start policy)) start later := by
    refine Transition.along_of_forall start fun _ action member => ⟨keeps action member, ?_⟩
    intro observation delivered id gone row present
    refine news action member observation delivered id row present ?_
    cases kept : (start.withoutHistory (pruneCandidates start policy) events).observations.lookup id
      with
    | none => exact kept
    | some other =>
        have spared := (Table.lookup_deleteWhere_eq_some.mp kept).2
        exact absurd gone (of_decide_eq_false spared)
  obtain ⟨answers, final⟩ := @Transition.outputs_eq _ _ _ _ (step isBase64) (step isBase64)
    (IsPruned start (pruneCandidates start policy)) _
    (fun _ _ _ related adds => step_isPruned isBase64 related adds) _ _ _ initial guarded
  refine ⟨answers, ?_⟩
  obtain ⟨later, lacks⟩ := final.lacks
  have reads := final.history.readsAlike later
  rw [← lacks] at reads
  exact reads

/-- The launch that has passed without its observations. -/
def prunedLaunch : Database :=
  (databaseAfter (fun _ => true) launchPassed).withoutHistory
    (pruneCandidates (databaseAfter (fun _ => true) launchPassed) ⟨1000, 0, 10⟩)
    (pruneEvents (databaseAfter (fun _ => true) launchPassed).projectionEvents 0 10).1

def laterTrade : Observation :=
  launchFact "later" "TRADE" 9 500 (.trade .buy "other" 5 6 none none)

/-- A later trade is stored and claimed. -/
def laterActions : List DatabaseAction := [
  .insertObservation 500 laterTrade,
  .claimObservationWork 600 "DISCOVERY" "worker" 10 1000000000]

/-- The history of a passed launch is pruned and a later trade is worked on as before. -/
theorem pruning_invisible_launch :
    prunedLaunch.observations.lookup 1 = none ∧ prunedLaunch.observations.lookup 2 = none ∧
      Transition.outputs (step fun _ => true) prunedLaunch laterActions =
        Transition.outputs (step fun _ => true) (databaseAfter (fun _ => true) launchPassed)
          laterActions := by
  have checked : prunedLaunch.observations.lookup 1 = none ∧
      prunedLaunch.observations.lookup 2 = none ∧
      ((databaseAfter (fun _ => true) launchPassed).observations.any fun _ row =>
        sameIdentity row.normalized.key laterTrade.key) = false := by
    decide +kernel
  obtain ⟨first, second, unknown⟩ := checked
  refine ⟨first, second, ?_⟩
  refine (@pruning_invisible (fun _ => true) launchPassed laterActions ⟨1000, 0, 10⟩ _
    prunedLaunch rfl ?_ ?_).1
  · intro action member
    simp only [laterActions, List.mem_cons, List.not_mem_nil, or_false] at member
    rcases member with rfl | rfl <;> rfl
  · intro action member observation delivered id row present _
    simp only [laterActions, List.mem_cons, List.not_mem_nil, or_false] at member
    rcases member with rfl | rfl
    · cases delivered
      by_contra same
      have found : ((databaseAfter (fun _ => true) launchPassed).observations.any fun _ row =>
          sameIdentity row.normalized.key laterTrade.key) = true :=
        Table.any_iff.mpr ⟨id, row, present, by simpa using same⟩
      rw [unknown] at found
      cases found
    · cases delivered

end Soldisco.Persistence

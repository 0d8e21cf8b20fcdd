import Soldisco.Proof.Persistence.Pruning

/-
This file compares the decisions about candidates and windows with and without finished history.
-/

namespace Soldisco.Persistence
open Domain MachineInteger Accumulation

section Candidates

variable {now : Int} {db : Database} {deleted : List Int} {events : List ProjectionEventRow}
  {workId : Int} {workerId : String} {clamp : Int → Int}

/-- A change of a candidate that keeps its source is made before or after the deletion. -/
theorem Database.withoutHistory_modifyToken {mint : String} {change : TokenRow → TokenRow}
    (commutes : ∀ row, (change row).clearSource (fun id => db.isGone deleted id) =
      change (row.clearSource fun id => db.isGone deleted id)) :
    { db.withoutHistory deleted events with
      tokens := (db.withoutHistory deleted events).tokens.modify mint change } =
      Database.withoutHistory { db with tokens := db.tokens.modify mint change } deleted events := by
  have tokens : Table.modifyAll (db.tokens.modify mint change)
      (fun _ row => row.clearSource fun id => db.isGone deleted id) =
      (db.tokens.modifyAll fun _ row => row.clearSource fun id => db.isGone deleted id).modify mint
        change :=
    Table.modifyAll_modify fun row _ => commutes row
  change { db.withoutHistory deleted events with
    tokens := (db.tokens.modifyAll fun _ row =>
      row.clearSource fun id => db.isGone deleted id).modify mint change } = _
  rw [← tokens]
  rfl

/-- A candidate of kept work is written before or after the deletion. -/
theorem Database.withoutHistory_insertToken {mint : String} {row : TokenRow}
    (kept : (row.clearSource fun id => db.isGone deleted id) = row) :
    { db.withoutHistory deleted events with
      tokens := (db.withoutHistory deleted events).tokens.insert mint row } =
      Database.withoutHistory { db with tokens := db.tokens.insert mint row } deleted events := by
  have tokens : Table.modifyAll (db.tokens.insert mint row)
      (fun _ row => row.clearSource fun id => db.isGone deleted id) =
      (db.tokens.modifyAll fun _ row => row.clearSource fun id => db.isGone deleted id).insert mint
        row := by
    rw [Table.modifyAll_insert, kept]
  change { db.withoutHistory deleted events with
    tokens := (db.tokens.modifyAll fun _ row =>
      row.clearSource fun id => db.isGone deleted id).insert mint row } = _
  rw [← tokens]
  rfl

theorem discoveryTokenRow_clearSource {gone : Int → Bool} {observation : Observation}
    {token : DiscoveryToken} {observedSlot : Int} {source version : String}
    (spared : gone workId = false) :
    (discoveryTokenRow observation token observedSlot workId source version).clearSource gone =
      discoveryTokenRow observation token observedSlot workId source version := by
  unfold TokenRow.clearSource
  rw [if_neg]
  change ¬ (some workId).any gone = true
  rw [Option.any_some, spared]
  exact Bool.false_ne_true

theorem projectToken_withoutHistory (gone : Int → Bool) (existing : Option TokenRow)
    (candidate : DiscoveryToken) (observation : Observation) :
    projectToken (existing.map (TokenRow.clearSource gone)) candidate observation =
      projectToken existing candidate observation := by
  cases existing with
  | none => rfl
  | some row =>
      obtain ⟨source, cleared⟩ := row.clearSource_withSource gone
      rw [Option.map_some, cleared]
      rfl

theorem lookup_tokens_isSome_withoutHistory (mint : String) :
    ((db.withoutHistory deleted events).tokens.lookup mint).isSome =
      (db.tokens.lookup mint).isSome := by
  rw [Database.lookup_tokens_withoutHistory, Option.isSome_map]

theorem storeProjectedToken_agrees {projected : ProjectedToken} {observation : Observation}
    {candidate : DiscoveryObservation} (spared : db.isGone deleted workId = false) :
    Agrees (Lacks deleted) (storeProjectedToken db projected observation workId candidate)
      (storeProjectedToken (db.withoutHistory deleted events) projected observation workId
        candidate) := by
  unfold storeProjectedToken
  cases projected.mutation with
  | inserted =>
      refine .same fun _ _ => .same fun _ _ => ?_
      have absent : (db.withoutHistory deleted events).tokens.lookup projected.token.mint = none ↔
          db.tokens.lookup projected.token.mint = none := by
        rw [Database.lookup_tokens_withoutHistory, Option.map_eq_none_iff]
      rw [require_congr absent]
      exact .same fun _ _ => .ok ⟨events, Database.withoutHistory_insertToken
        (discoveryTokenRow_clearSource spared)⟩
  | updated =>
      exact .same fun _ _ => .same fun _ _ => .ok ⟨events, Database.withoutHistory_modifyToken
        fun _ => discoveryTokenRow_clearSource spared⟩
  | demotedByMarketChange =>
      exact .same fun _ _ => .same fun _ _ => .ok ⟨events, Database.withoutHistory_modifyToken
        fun _ => discoveryTokenRow_clearSource spared⟩
  | metadataEnrichedFromStaleCreation =>
      exact .ok ⟨events, Database.withoutHistory_modifyToken
        (TokenRow.clearSource_change (fun _ => rfl) fun _ => rfl)⟩
  | staleObservationIgnored => exact .ok ⟨events, rfl⟩
  | promoted => exact .ok ⟨events, rfl⟩
  | alreadyApproved => exact .ok ⟨events, rfl⟩

theorem recordPayload_agrees {key : ActivityKey} {payload : ObservationPayload} :
    Agrees (Lacks deleted) (db.recordPayload key payload)
      ((db.withoutHistory deleted events).recordPayload key payload) := by
  cases payload with
  | trade => exact .same fun _ _ => .same fun _ _ => .ok ⟨events, rfl⟩
  | _ => exact .ok ⟨events, rfl⟩

theorem applyObservationActivity_agrees {observation : Observation} :
    Agrees (Answers deleted) (applyObservationActivity db observation)
      (applyObservationActivity (db.withoutHistory deleted events) observation) := by
  unfold applyObservationActivity
  dsimp only
  rw [lookup_tokens_isSome_withoutHistory]
  refine .same fun _ _ => .same fun _ _ => .same fun _ _ => .bind
    (@recordPayload_agrees (db.ensureActivity (activityKey observation)) deleted events _ _) ?_
  rintro recorded _ - ⟨later, rfl⟩
  have activity : (recorded.withoutHistory deleted later).activity = recorded.activity := rfl
  rw [activity]
  cases recorded.activity.lookup (activityKey observation) with
  | none => exact .error _
  | some row => exact .ok ⟨rfl, later, rfl⟩

theorem storeActivity_withoutHistory (token : DiscoveryToken) (observation : Observation)
    (activity : DiscoveryActivity) :
    storeActivity (db.withoutHistory deleted events) token observation activity =
      (storeActivity db token observation activity).withoutHistory deleted events := by
  unfold storeActivity
  split
  · exact Database.withoutHistory_modifyToken
      (TokenRow.clearSource_change (fun _ => rfl) fun _ => rfl)
  · rfl

theorem commitDiscoveryObservation_agrees {candidate : DiscoveryObservation}
    (history : IsHistory db deleted) :
    Agrees (Answers deleted) (commitDiscoveryObservation clamp now db workId workerId candidate)
      (commitDiscoveryObservation clamp now (db.withoutHistory deleted events) workId workerId
        candidate) := by
  unfold commitDiscoveryObservation
  rw [lockOwnedWork_withoutHistory history]
  refine .same fun _ _ => .same fun _ _ => .same fun _ _ => .same fun _ _ => .same fun _ _ =>
    .same fun work locked => .same fun _ _ => .same fun _ _ => ?_
  rw [Database.lookup_tokens_withoutHistory, projectToken_withoutHistory]
  refine .same fun projected _ => .bind (storeProjectedToken_agrees (history.lockedKept locked)) ?_
  rintro stored _ storing ⟨later, rfl⟩
  refine .bind applyObservationActivity_agrees ?_
  rintro ⟨_, active⟩ ⟨activity, _⟩ recorded answer
  obtain ⟨rfl, final, rfl⟩ := answers_iff.mp answer
  dsimp only
  rw [storeActivity_withoutHistory]
  have kept : (storeActivity active projected.token work.observation activity).work = db.work := by
    rw [storeActivity_frame, (applyObservationActivity_eq_ok recorded).2.1,
      storeProjectedToken_eq_ok storing]
  generalize storeActivity active projected.token work.observation activity = tracked at kept ⊢
  have completed := @Database.withoutHistory_modifyWork tracked deleted final workId
    (completeRow now) (fun _ => rfl) (by rw [kept]; exact history.lockedSpared locked)
  have observed := congrArg (fun completed : Database =>
    (completed.updateProjection fun counters =>
      { counters with
        observed := counters.observed + boolToInt projected.isNew
        queuedFacts := clamp (counters.queuedFacts - 1)
        approved := clamp (counters.approved - boolToInt projected.approvalRemoved)
        qualified := clamp (counters.qualified - boolToInt projected.qualificationRemoved)
        }).appendProjectionEvent now fun sequence =>
      .tokenObserved sequence workId candidate.token.mint (mutationName projected.mutation))
    completed
  exact .ok ⟨rfl, _, observed⟩

theorem commitDiscoveryApproval_agrees {token : DiscoveryToken}
    {decisionSource decisionVersion : String} :
    Agrees (Answers deleted) (commitDiscoveryApproval now db token decisionSource decisionVersion)
      (commitDiscoveryApproval now (db.withoutHistory deleted events) token decisionSource
        decisionVersion) := by
  unfold commitDiscoveryApproval
  rw [Database.lookup_tokens_withoutHistory]
  refine .same fun _ _ => .same fun _ _ => .same fun _ _ => .same fun _ _ => .same fun _ _ => ?_
  cases db.tokens.lookup token.mint with
  | none => exact .error _
  | some row =>
      obtain ⟨source, cleared⟩ := row.clearSource_withSource fun id => db.isGone deleted id
      rw [Option.map_some, cleared]
      refine .same fun _ _ => .same fun _ _ => .same fun _ _ => .same fun observedSlot _ => ?_
      have updated := @Database.withoutHistory_modifyToken db deleted events
        (mergeApproval row.token token).mint
        (approveRow (mergeApproval row.token token) observedSlot decisionSource decisionVersion)
        (TokenRow.clearSource_change (fun _ => rfl) fun _ => rfl)
      have approved := congrArg (fun updated : Database =>
        (updated.updateProjection fun counters =>
          { counters with
            approved := counters.approved + boolToInt !decide (row.token.stage = .approved)
            }).appendProjectionEvent now fun sequence =>
          .tokenApproved sequence (mergeApproval row.token token).mint
            (mutationName (if decide (row.token.stage = .approved) then .alreadyApproved
              else .promoted)) decisionSource decisionVersion) updated
      exact .ok ⟨rfl, _, approved⟩

end Candidates

section Windows

variable {now : Int} {db : Database} {deleted : List Int} {events : List ProjectionEventRow}
  {clamp : Int → Int} {finalized : FinalizeDiscoveryWindow}

/-- The members of a window outside of the history are kept. -/
theorem IsHistory.memberSpared (history : IsHistory db deleted) {windowId observationId : Int}
    {window : WindowRow} (present : db.windows.lookup windowId = some window)
    (active : window.status = .active) (member : (windowId, observationId) ∈ db.memberPairs) :
    observationId ∉ deleted := by
  intro gone
  have final := history.final windowId observationId member gone window present
  rw [active] at final
  cases final

/-- An active window keeps its opening. -/
theorem IsHistory.openingKept (history : IsHistory db deleted) {windowId : Int}
    {window : WindowRow} (present : db.windows.lookup windowId = some window)
    (active : window.status = .active) : window.clearOpening deleted = window :=
  WindowRow.clearOpening_of_spared fun observationId opening =>
    history.memberSpared present active (history.openings windowId window observationId present
      opening)

theorem memberships_of_active (history : IsHistory db deleted) {windowId : Int}
    {window : WindowRow} (present : db.windows.lookup windowId = some window)
    (active : window.status = .active) :
    ((db.withoutHistory deleted events).memberships.filter fun member =>
      member.windowId = windowId) = db.memberships.filter fun member =>
        member.windowId = windowId := by
  change ((db.memberships.filter fun member => decide (member.observationId ∉ deleted)).filter
    fun member => decide (member.windowId = windowId)) = _
  rw [List.filter_filter]
  apply List.filter_congr
  intro member stored
  by_cases same : member.windowId = windowId
  · have pair : (windowId, member.observationId) ∈ db.memberPairs :=
      List.mem_map.mpr ⟨member, stored, by rw [same]⟩
    simp [same, history.memberSpared present active pair]
  · simp [same]

theorem loadWindowObservations_withoutHistory (history : IsHistory db deleted) {windowId : Int}
    {window : WindowRow} (present : db.windows.lookup windowId = some window)
    (active : window.status = .active) :
    loadWindowObservations (db.withoutHistory deleted events) windowId =
      loadWindowObservations db windowId := by
  unfold loadWindowObservations
  rw [memberships_of_active history present active]
  congr 1
  apply List.filterMap_congr
  intro member selected
  obtain ⟨stored, same⟩ := List.mem_filter.mp selected
  have pair : (windowId, member.observationId) ∈ db.memberPairs :=
    List.mem_map.mpr ⟨member, stored, by rw [of_decide_eq_true same]⟩
  rw [Database.lookup_observations_withoutHistory (history.memberSpared present active pair)]

theorem loadDiscoveryWindow_withoutHistory (history : IsHistory db deleted) {windowId : Int}
    {window : WindowRow} (present : db.windows.lookup windowId = some window)
    (active : window.status = .active) :
    loadDiscoveryWindow (db.withoutHistory deleted events) windowId =
      loadDiscoveryWindow db windowId := by
  unfold loadDiscoveryWindow
  rw [Database.lookup_windows_withoutHistory, present, Option.map_some]
  dsimp only
  rw [WindowRow.clearOpening_identity, loadWindowObservations_withoutHistory history present active]

/-- Work of other observations is found without the history. -/
theorem any_work_withoutHistory {property : WorkRow → Bool}
    (spared : ∀ row, property row = true → row.observationId ∉ deleted) :
    ((db.withoutHistory deleted events).work.any fun _ row => property row) =
      db.work.any fun _ row => property row := by
  change (db.work.deleteWhere fun _ row => decide (row.observationId ∈ deleted)).any _ = _
  refine Table.any_deleteWhere fun _ row _ gone => ?_
  by_contra holds
  exact spared row (by simpa using holds) (of_decide_eq_true gone)

theorem projectionReadiness_withoutHistory (history : IsHistory db deleted) {windowId : Int}
    {window : WindowRow} (present : db.windows.lookup windowId = some window)
    (active : window.status = .active) :
    projectionReadiness (db.withoutHistory deleted events) windowId window =
      projectionReadiness db windowId window := by
  have pending : ((db.withoutHistory deleted events).memberships.any fun member =>
      decide (member.windowId = windowId) &&
        (db.withoutHistory deleted events).work.any fun _ work =>
          decide (work.observationId = member.observationId) &&
            decide (work.workKind = "DISCOVERY") &&
              (decide (work.status = .pending) || decide (work.status = .processing))) =
      db.memberships.any fun member => decide (member.windowId = windowId) &&
        db.work.any fun _ work => decide (work.observationId = member.observationId) &&
          decide (work.workKind = "DISCOVERY") &&
            (decide (work.status = .pending) || decide (work.status = .processing)) := by
    rw [← List.any_filter, memberships_of_active history present active, ← List.any_filter,
      Bool.eq_iff_iff, List.any_eq_true, List.any_eq_true]
    refine exists_congr fun member => and_congr_right fun selected => ?_
    obtain ⟨stored, same⟩ := List.mem_filter.mp selected
    have pair : (windowId, member.observationId) ∈ db.memberPairs :=
      List.mem_map.mpr ⟨member, stored, by rw [of_decide_eq_true same]⟩
    rw [any_work_withoutHistory fun row holds => ?_]
    simp only [Bool.and_eq_true, decide_eq_true_iff] at holds
    rw [holds.1.1]
    exact history.memberSpared present active pair
  have opening : ((db.withoutHistory deleted events).work.any fun _ work =>
      decide (window.openingObservationId = some work.observationId) &&
        decide (work.workKind = "DISCOVERY") && decide (work.status = .complete)) =
      db.work.any fun _ work =>
        decide (window.openingObservationId = some work.observationId) &&
          decide (work.workKind = "DISCOVERY") && decide (work.status = .complete) := by
    refine any_work_withoutHistory fun row holds => ?_
    simp only [Bool.and_eq_true, decide_eq_true_iff] at holds
    exact history.memberSpared present active
      (history.openings windowId window row.observationId present holds.1.1)
  unfold projectionReadiness
  rw [lookup_tokens_isSome_withoutHistory]
  dsimp only
  rw [pending, opening]

theorem freezeEvidence_agrees (history : IsHistory db deleted) {window : WindowRow}
    (present : db.windows.lookup finalized.windowId = some window)
    (active : window.status = .active) :
    Agrees (Lacks deleted) (freezeEvidence db window finalized)
      (freezeEvidence (db.withoutHistory deleted events) window finalized) := by
  have members : (db.withoutHistory deleted events).countMemberships finalized.windowId =
      db.countMemberships finalized.windowId := by
    unfold Database.countMemberships
    rw [List.countP_eq_length_filter, memberships_of_active history present active,
      ← List.countP_eq_length_filter]
  unfold freezeEvidence
  rw [projectionReadiness_withoutHistory history present active, members,
    loadWindowObservations_withoutHistory history present active]
  exact .same fun _ _ => .same fun _ _ => .same fun _ _ => .same fun _ _ => .same fun _ _ =>
    .same fun _ _ => .same fun _ _ => .same fun _ _ => .same fun _ _ => .same fun _ _ =>
    .ok ⟨events, rfl⟩

/-- The source of a candidate is in an active window with or without the history. -/
theorem belongsToWindow_withoutHistory (history : IsHistory db deleted) {windowId : Int}
    {window : WindowRow} (present : db.windows.lookup windowId = some window)
    (active : window.status = .active) (row : TokenRow) :
    belongsToWindow (db.withoutHistory deleted events) windowId
      (row.clearSource fun id => db.isGone deleted id) = belongsToWindow db windowId row := by
  unfold belongsToWindow TokenRow.clearSource
  cases source : row.sourceWorkId with
  | none => simp [source]
  | some workId =>
      cases gone : db.isGone deleted workId with
      | true =>
          obtain ⟨work, found, selected⟩ := (Option.any_eq_true _ _).mp gone
          have outside : (db.memberships.any fun member => decide (member.windowId = windowId) &&
              decide (member.observationId = work.observationId)) = false := by
            by_contra inside
            have pair : (windowId, work.observationId) ∈ db.memberPairs := by
              simpa [Database.memberPairs] using inside
            exact history.memberSpared present active pair (of_decide_eq_true selected)
          rw [Option.any_some, gone, if_pos rfl, Option.any_some, found, Option.any_some, outside]
          rfl
      | false =>
          rw [Option.any_some, gone, if_neg Bool.false_ne_true, source, Option.any_some,
            Option.any_some, lookup_work_withoutHistory gone]
          cases found : db.work.lookup workId with
          | none => rfl
          | some work =>
              unfold Database.isGone at gone
              rw [found, Option.any_some] at gone
              rw [Option.any_some, Option.any_some,
                memberships_withoutHistory_any (of_decide_eq_false gone)]

theorem newerWindowExists_withoutHistory (window : WindowIdentityRow) :
    newerWindowExists (db.withoutHistory deleted events) window = newerWindowExists db window := by
  change (db.windows.modifyAll fun _ row => row.clearOpening deleted).any _ = _
  refine Table.any_modifyAll fun id row => ?_
  rw [WindowRow.clearOpening_identity]

theorem currentProjection_withoutHistory (history : IsHistory db deleted) {windowId : Int}
    {window : WindowRow} (present : db.windows.lookup windowId = some window)
    (active : window.status = .active) :
    currentProjection (db.withoutHistory deleted events) windowId window.toWindowIdentityRow =
      (currentProjection db windowId window.toWindowIdentityRow).map
        (TokenRow.clearSource fun id => db.isGone deleted id) := by
  unfold currentProjection
  rw [Database.lookup_tokens_withoutHistory, newerWindowExists_withoutHistory]
  cases db.tokens.lookup window.mint with
  | none => rfl
  | some row =>
      rw [Option.map_some, Option.filter_some, Option.filter_some,
        belongsToWindow_withoutHistory history present active]
      split <;> rfl

theorem projectDecision_agrees {window : WindowIdentityRow} {existing : Option TokenRow} :
    Agrees (Answers deleted) (projectDecision db window finalized existing)
      (projectDecision (db.withoutHistory deleted events) window finalized
        (existing.map (TokenRow.clearSource fun id => db.isGone deleted id))) := by
  cases existing with
  | none => exact .ok ⟨rfl, events, rfl⟩
  | some row =>
      obtain ⟨source, cleared⟩ := row.clearSource_withSource fun id => db.isGone deleted id
      rw [Option.map_some, cleared]
      change Agrees _ (applyToProjection db window finalized row)
        (applyToProjection (db.withoutHistory deleted events) window finalized
          (row.withSource source))
      unfold applyToProjection
      exact .same fun _ _ => .same fun _ _ => .same fun _ _ => .ok ⟨rfl, events,
        Database.withoutHistory_modifyToken
          (TokenRow.clearSource_change (fun _ => rfl) fun _ => rfl)⟩

/-- The final row of a window is written before or after the deletion. -/
theorem Database.withoutHistory_finalizeRow (db : Database) (deleted : List Int)
    (events : List ProjectionEventRow) (id : Int) (finalized : FinalizeDiscoveryWindow) :
    { db.withoutHistory deleted events with
      windows := (db.withoutHistory deleted events).windows.modify id (finalizeRow finalized) } =
      Database.withoutHistory { db with windows := db.windows.modify id (finalizeRow finalized) }
        deleted events := by
  have windows : Table.modifyAll (db.windows.modify id (finalizeRow finalized))
      (fun _ row => row.clearOpening deleted) =
      (db.windows.modifyAll fun _ row => row.clearOpening deleted).modify id
        (finalizeRow finalized) := by
    refine Table.modifyAll_modify fun row _ => ?_
    have opening : (finalizeRow finalized row).openingObservationId = row.openingObservationId :=
      rfl
    unfold WindowRow.clearOpening
    rw [opening]
    split <;> rfl
  change { db.withoutHistory deleted events with
    windows := (db.windows.modifyAll fun _ row => row.clearOpening deleted).modify id
      (finalizeRow finalized) } = _
  rw [← windows]
  rfl

theorem summarizeDecision_withoutHistory :
    summarizeDecision (db.withoutHistory deleted events) finalized =
      (summarizeDecision db finalized).withoutHistory deleted events := by
  unfold summarizeDecision
  cases finalized.decision <;> rfl

/-- The counters, the summaries and the event of a decision do not read the history. -/
theorem Lacks.published {full pruned : Database} (lacks : Lacks deleted full pruned)
    (change : ProjectionCounters → ProjectionCounters) (event : Int → ProjectionEvent) :
    Lacks deleted
      ((summarizeDecision (full.updateProjection change) finalized).appendProjectionEvent now event)
      ((summarizeDecision (pruned.updateProjection change) finalized).appendProjectionEvent now
        event) := by
  obtain ⟨later, rfl⟩ := lacks
  have summarized := @summarizeDecision_withoutHistory (full.updateProjection change) deleted later
    finalized
  have published := congrArg (Database.appendProjectionEvent · now event) summarized
  exact ⟨_, published⟩

theorem publishDecision_agrees (history : IsHistory db deleted) {window : WindowRow}
    (present : db.windows.lookup finalized.windowId = some window)
    (active : window.status = .active) :
    Agrees (Lacks deleted) (publishDecision clamp now db window finalized)
      (publishDecision clamp now (db.withoutHistory deleted events) window finalized) := by
  unfold publishDecision
  rw [currentProjection_withoutHistory history present active]
  refine .bind projectDecision_agrees ?_
  rintro ⟨_, applied⟩ ⟨⟨qualifiedDelta, approvalRemoved⟩, _⟩ - answer
  obtain ⟨rfl, final, rfl⟩ := answers_iff.mp answer
  rw [Option.isSome_map]
  exact .ok (Lacks.published ⟨final, Database.withoutHistory_finalizeRow applied deleted final
    finalized.windowId finalized⟩ _ _)

theorem storedFinalization_withoutHistory (windowId : Int) :
    storedFinalization (db.withoutHistory deleted events) windowId =
      storedFinalization db windowId := by
  unfold storedFinalization
  rw [Database.lookup_windows_withoutHistory]
  cases db.windows.lookup windowId with
  | none => rfl
  | some window =>
      rw [Option.map_some]
      unfold WindowRow.clearOpening
      split <;> rfl

theorem finalizeDiscoveryWindow_agrees (history : IsHistory db deleted) :
    Agrees (Answers deleted) (finalizeDiscoveryWindow clamp now db finalized)
      (finalizeDiscoveryWindow clamp now (db.withoutHistory deleted events) finalized) := by
  unfold finalizeDiscoveryWindow
  rw [Database.lookup_windows_withoutHistory]
  refine .same fun _ _ => ?_
  cases present : db.windows.lookup finalized.windowId with
  | none => exact .error _
  | some window =>
      rw [Option.map_some]
      dsimp only
      rw [WindowRow.clearOpening_identity, storedFinalization_withoutHistory]
      refine .same fun _ _ => .ite (fun _ => .ite (fun _ => .ok ⟨rfl, events, rfl⟩)
        fun _ => .error _) fun running => ?_
      have active : window.status = .active := by
        cases status : window.status with
        | active => rfl
        | finalized => exact absurd status running
      rw [history.openingKept present active]
      refine .bind (freezeEvidence_agrees history present active) ?_
      rintro frozen _ froze ⟨later, rfl⟩
      obtain ⟨-, -, -, -, rfl⟩ := freezeEvidence_eq_ok froze
      have frozenHistory : IsHistory (db.storeEvidence window.qualificationRevision finalized)
          deleted :=
        ⟨history.stored, history.ended, history.final, history.observationIds, history.workIds,
          history.openings⟩
      refine .bind (publishDecision_agrees frozenHistory present active) ?_
      rintro published _ - lacks
      exact .ok ⟨rfl, lacks⟩

/-- The counts are about kept rows. -/
theorem countTables_withoutHistory (history : IsHistory db deleted) :
    countTables (db.withoutHistory deleted events) = countTables db := by
  have tokens (property : TokenRow → Bool)
      (same : ∀ row source, property (row.withSource source) = property row) :
      (db.withoutHistory deleted events).tokens.count property = db.tokens.count property := by
    refine Table.total_modifyAll fun _ row _ => ?_
    obtain ⟨source, cleared⟩ := row.clearSource_withSource fun id => db.isGone deleted id
    change Table.one property (row.clearSource fun id => db.isGone deleted id) = _
    rw [cleared, Table.one, same]
    rfl
  have windows : ((db.withoutHistory deleted events).windows.count fun row =>
      decide (row.status = .active)) = db.windows.count fun row => decide (row.status = .active) := by
    refine Table.total_modifyAll fun _ row _ => ?_
    have status : (row.clearOpening deleted).status = row.status :=
      congrArg WindowIdentityRow.status (row.clearOpening_identity deleted)
    change (if decide ((row.clearOpening deleted).status = .active) = true then 1 else 0) = _
    simp only [status]
    rfl
  have work : (db.withoutHistory deleted events).work.count isQueuedFact =
      db.work.count isQueuedFact := by
    refine Table.total_deleteWhere fun id row present gone => ?_
    unfold Table.one isQueuedFact
    rcases history.ended id row present (of_decide_eq_true gone) with complete | failed
    · simp [complete]
    · simp [failed]
  unfold countTables
  rw [tokens _ fun _ _ => rfl, tokens _ fun _ _ => rfl, tokens _ fun _ _ => rfl, windows, work]
  rfl

theorem rebuildDiscoveryProjection_agrees (history : IsHistory db deleted) :
    Agrees (Answers deleted) (rebuildDiscoveryProjection now db)
      (rebuildDiscoveryProjection now (db.withoutHistory deleted events)) := by
  unfold rebuildDiscoveryProjection
  rw [countTables_withoutHistory history]
  exact .same fun _ _ => .ok ⟨rfl, _, rfl⟩

end Windows

end Soldisco.Persistence

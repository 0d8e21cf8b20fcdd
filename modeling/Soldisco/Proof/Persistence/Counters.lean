import Soldisco.Proof.Persistence.Transactions

/-
This file proves that the incremental counters equal the values that the tables give.
-/

namespace Soldisco.Persistence
open Domain MachineInteger Accumulation

section Counts

variable {Key Row : Type} [DecidableEq Key] {table : Table Key Row} (property : Row → Bool)

theorem cast_one (row : Row) :
    (Table.one property row : Int) = boolToInt (property row) := by
  unfold Table.one boolToInt
  split <;> rfl

/-- A new row counts when it has the property. -/
theorem count_insert_new {key : Key} (absent : table.lookup key = none) (row : Row) :
    (Table.count (table.insert key row) property : Int) =
      table.count property + boolToInt (property row) := by
  unfold Table.count
  rw [Table.total_insert_new absent, Nat.cast_add, cast_one]

/-- A replaced row counts no longer. -/
theorem count_insert_old {key : Key} {old : Row} (present : table.lookup key = some old)
    (row : Row) :
    (Table.count (table.insert key row) property : Int) =
      table.count property - boolToInt (property old) + boolToInt (property row) := by
  have replaced := Table.total_insert_old present row (Table.one property)
  have counts := congrArg (fun count : Nat => (count : Int)) replaced
  simp only [Nat.cast_add, cast_one] at counts
  unfold Table.count
  omega

theorem count_modify {key : Key} {old : Row} (present : table.lookup key = some old)
    (change : Row → Row) :
    ((table.modify key change).count property : Int) =
      table.count property - boolToInt (property old) + boolToInt (property (change old)) := by
  rw [Table.modify_of_lookup present]
  exact count_insert_old property present (change old)

/-- A stored row with the property is one of the counted rows. -/
theorem count_pos {key : Key} {row : Row} (present : table.lookup key = some row)
    (holds : property row = true) : 1 ≤ table.count property := by
  unfold Table.count Table.total
  have member := AList.mem_lookup_iff.mp (Option.mem_def.mpr present)
  have counted := List.single_le_sum (fun _ _ => Nat.zero_le _) _
    (List.mem_map_of_mem (f := fun entry : Sigma fun _ : Key => Row =>
      Table.one property entry.2) member)
  simpa [Table.one, holds] using counted

end Counts

/-- A new observation leaves the counted tables alone. -/
theorem ObservationStored.counted {now : Int} {db next : Database} {observation : Observation}
    {inserted : ObservationInsert} (stored : ObservationStored now db observation inserted next) :
    countTables next = countTables db := by
  rw [stored.frame]
  rfl

/-- Queued discovery work counts as one queued fact. -/
theorem countTables_queueWork {db : Database} (free : db.work.lookup db.nextWorkId = none)
    (now : Int) (mint : String) (observationId : Int) :
    countTables (db.queueWork now mint observationId) =
      { countTables db with queuedFacts := (countTables db).queuedFacts + 1 } := by
  have queued := count_insert_new isQueuedFact free (pendingWork now observationId)
  exact congrArg (fun queuedFacts => { countTables db with queuedFacts }) queued

/-- The pairs of windows and members are kept in their own table. -/
theorem Database.insertMembership_frame (db : Database)
    (windowId observationId admittedAtUnixMs : Int) :
    db.insertMembership windowId observationId admittedAtUnixMs =
      { db with memberships :=
          (db.insertMembership windowId observationId admittedAtUnixMs).memberships } := by
  unfold Database.insertMembership
  split <;> rfl

theorem countTables_openWindow {db : Database} (free : db.windows.lookup db.nextWindowId = none)
    (now : Int) {row : WindowRow} (active : row.status = .active) (observationId : Int)
    (qualificationRevision : Nat) :
    countTables (db.openWindow now row observationId qualificationRevision) =
      { countTables db with
        qualificationPending := (countTables db).qualificationPending + 1 } := by
  have pending := count_insert_new (fun row : WindowRow => row.status = .active) free row
  rw [decide_eq_true active] at pending
  unfold Database.openWindow
  rw [Database.insertMembership_frame]
  exact congrArg (fun qualificationPending => { countTables db with qualificationPending }) pending

theorem countTables_insertMembership (db : Database)
    (windowId observationId admittedAtUnixMs : Int) :
    countTables (db.insertMembership windowId observationId admittedAtUnixMs) = countTables db := by
  rw [Database.insertMembership_frame]
  rfl

/-- Claimed work stays queued. -/
theorem countTables_claimWork (db : Database) (now : Int) (workKind workerId : String) (limit : Nat)
    (leaseMillis : Int) :
    countTables (db.claimWork now (claimableWork now db workKind limit) workerId leaseMillis) =
      countTables db := by
  have queued : (db.work.modifyAll fun id row =>
      if id ∈ claimableWork now db workKind limit then claimRow now workerId leaseMillis row
      else row).count isQueuedFact = db.work.count isQueuedFact := by
    apply Table.total_modifyAll
    intro id row present
    split
    · rename_i claimed
      obtain ⟨claimedRow, found, claimable⟩ := claimableWork_lookup claimed
      rw [present] at found
      cases found
      have same : isQueuedFact (claimRow now workerId leaseMillis row) = isQueuedFact row := by
        unfold isQueuedFact
        rcases isClaimable_status claimable with status | status <;> rw [status] <;> rfl
      unfold Table.one
      rw [same]
    · rfl
  exact congrArg (fun count : Nat => { countTables db with queuedFacts := count }) queued

/-- A change that keeps the kind and the status of work keeps the counts. -/
theorem countTables_modifyWork (db : Database) (workId : Int) {change : WorkRow → WorkRow}
    (same : ∀ row, db.work.lookup workId = some row →
      isQueuedFact (change row) = isQueuedFact row) :
    countTables { db with work := db.work.modify workId change } = countTables db := by
  have queued : (db.work.modify workId change).count isQueuedFact =
      db.work.count isQueuedFact := by
    apply Table.total_modify_of_same
    intro row present
    unfold Table.one
    rw [same row present]
  exact congrArg (fun count : Nat => { countTables db with queuedFacts := count }) queued

/-- Finished work is queued no longer. -/
theorem countTables_finishWork {db : Database} {workId : Int} {row : WorkRow}
    (present : db.work.lookup workId = some row) (queued : isQueuedFact row = true)
    (change : WorkRow → WorkRow) (finished : isQueuedFact (change row) = false) :
    countTables { db with work := db.work.modify workId change } =
      { countTables db with queuedFacts := (countTables db).queuedFacts - 1 } := by
  have counts := count_modify isQueuedFact present change
  rw [queued, finished] at counts
  have counts : ((db.work.modify workId change).count isQueuedFact : Int) =
      db.work.count isQueuedFact - 1 := by
    simpa [boolToInt] using counts
  exact congrArg (fun queuedFacts => { countTables db with queuedFacts }) counts

theorem queuedFacts_pos {db : Database} {workId : Int} {row : WorkRow}
    (present : db.work.lookup workId = some row) (queued : isQueuedFact row = true) :
    1 ≤ (countTables db).queuedFacts :=
  Int.ofNat_le.mpr (count_pos isQueuedFact present queued)

/-- Owned discovery work is queued. -/
theorem isQueuedFact_of_owned {now : Int} {db : Database} {workId : Int} {workerId : String}
    {work : OwnedWork} (owned : lockOwnedWork now db workId workerId = .ok work)
    (discovery : work.row.workKind = "DISCOVERY") : isQueuedFact work.row = true := by
  have status := isOwned_status (lockOwnedWork_eq_ok owned).2.2.2
  simp [isQueuedFact, discovery, status]

theorem total_upsertSummary (table : Table String SummaryRow) (reasonCode : String)
    (seenAtUnixMs : Int) : (upsertSummary table reasonCode seenAtUnixMs).total SummaryRow.count =
      table.total SummaryRow.count + 1 := by
  unfold upsertSummary
  split
  · rename_i row present
    have replaced := Table.total_insert_old present
      { count := row.count + 1, lastSeenUnixMs := max row.lastSeenUnixMs seenAtUnixMs }
      SummaryRow.count
    dsimp only at replaced
    omega
  · rename_i absent
    exact Table.total_insert_new absent _ SummaryRow.count

/-- Each summarized failure counts once. -/
theorem countTables_upsertFailure (db : Database) (reasonCode : String) (seenAtUnixMs : Int) :
    countTables { db with
      processingFailureSummaries :=
        upsertSummary db.processingFailureSummaries reasonCode seenAtUnixMs } =
      { countTables db with processingFailures := (countTables db).processingFailures + 1 } := by
  have failures := total_upsertSummary db.processingFailureSummaries reasonCode seenAtUnixMs
  exact congrArg (fun total : Nat => { countTables db with processingFailures := total }) failures

/-- Work that ends in a failure leaves the queue and is summarized. -/
theorem countTables_failWork {db : Database} {workId : Int} {row : WorkRow}
    (present : db.work.lookup workId = some row) (queued : isQueuedFact row = true)
    (change : WorkRow → WorkRow) (finished : isQueuedFact (change row) = false)
    (reasonCode : String) (seenAtUnixMs : Int) :
    countTables { db with
      work := db.work.modify workId change
      processingFailureSummaries :=
        upsertSummary db.processingFailureSummaries reasonCode seenAtUnixMs } =
      { countTables db with
        queuedFacts := (countTables db).queuedFacts - 1
        processingFailures := (countTables db).processingFailures + 1 } := by
  let summarized : Database := { db with
    processingFailureSummaries :=
      upsertSummary db.processingFailureSummaries reasonCode seenAtUnixMs }
  have counted := @countTables_finishWork summarized workId row present queued change finished
  have failures : countTables summarized =
      { countTables db with processingFailures := (countTables db).processingFailures + 1 } :=
    countTables_upsertFailure db reasonCode seenAtUnixMs
  rw [failures] at counted
  exact counted

/-- A row that counts as approved. -/
def isApprovedRow (row : TokenRow) : Bool := row.stage = .approved

/-- A row that counts as qualified. -/
def isQualifiedRow (row : TokenRow) : Bool := row.stage = .qualified || row.stage = .approved

theorem isQualifiedRow_eq (row : TokenRow) : isQualifiedRow row = row.stage.isQualified := by
  unfold isQualifiedRow
  cases row.stage <;> rfl

/-- The counts of the candidates follow a change of the number and of the two stages. -/
theorem countTables_tokens {db : Database} {tokens : Table String TokenRow}
    {observed approved qualified : Int}
    (all : (tokens.count (fun _ => true) : Int) = (countTables db).observed + observed)
    (approvals : (tokens.count isApprovedRow : Int) = (countTables db).approved + approved)
    (qualifications : (tokens.count isQualifiedRow : Int) =
      (countTables db).qualified + qualified) :
    countTables { db with tokens } = { countTables db with
      observed := (countTables db).observed + observed
      approved := (countTables db).approved + approved
      qualified := (countTables db).qualified + qualified } := by
  change ({ countTables db with
      observed := (tokens.count (fun _ => true) : Int)
      approved := (tokens.count isApprovedRow : Int)
      qualified := (tokens.count isQualifiedRow : Int) } : ProjectionCounters) = _
  rw [all, approvals, qualifications]

/-- A replaced row changes the counts of the two stages by its own stages. -/
theorem countTables_replaceToken {db : Database} {mint : String} {row : TokenRow}
    (present : db.tokens.lookup mint = some row) (next : TokenRow) :
    countTables { db with tokens := db.tokens.insert mint next } = { countTables db with
      approved := (countTables db).approved +
        (boolToInt (next.stage = .approved) - boolToInt (row.stage = .approved))
      qualified := (countTables db).qualified +
        (boolToInt next.stage.isQualified - boolToInt row.stage.isQualified) } := by
  have all := count_insert_old (fun _ => true) present next
  have approvals := count_insert_old isApprovedRow present next
  have qualifications := count_insert_old isQualifiedRow present next
  rw [isQualifiedRow_eq, isQualifiedRow_eq] at qualifications
  have counted := @countTables_tokens db _ 0
    (boolToInt (next.stage = .approved) - boolToInt (row.stage = .approved))
    (boolToInt next.stage.isQualified - boolToInt row.stage.isQualified)
    (all.trans (by
      rw [sub_add_cancel, add_zero]
      rfl))
    (approvals.trans (by
      rw [sub_add_eq_add_sub, add_sub_assoc]
      rfl))
    (qualifications.trans (by
      rw [sub_add_eq_add_sub, add_sub_assoc]
      rfl))
  rw [counted, add_zero]

/-- A merged candidate keeps its stage or falls back to an observation. -/
theorem mergeObservation_stage {existing observed : DiscoveryToken}
    (stage : observed.stage = .observed) :
    (mergeObservation existing observed).stage = existing.stage ∨
      (mergeObservation existing observed).stage = .observed := by
  unfold mergeObservation
  dsimp only
  split
  · exact .inl rfl
  · exact .inr stage

/-- The counts of the candidates follow the reported changes of one observation. -/
theorem CandidateStored.counted {db : Database} {workId : Int}
    {candidate : DiscoveryObservation} {observation : Observation} {recorded : DiscoveryActivity}
    {projected : ProjectedToken} {tokens : Table String TokenRow}
    (consistent : TokensConsistent db) (observed : candidate.token.stage = .observed)
    (stored : CandidateStored db.tokens workId candidate observation recorded projected tokens) :
    countTables { db with tokens } = { countTables db with
      observed := (countTables db).observed + boolToInt projected.isNew
      approved := (countTables db).approved - boolToInt projected.approvalRemoved
      qualified := (countTables db).qualified - boolToInt projected.qualificationRemoved } := by
  cases stored with
  | inserted absent observedSlot =>
      have all := count_insert_new (fun _ => true) absent
      have approvals := count_insert_new isApprovedRow absent
      have qualifications := count_insert_new isQualifiedRow absent
      refine (@countTables_tokens db _ 1 0 0 (all _) ((approvals _).trans ?_)
        ((qualifications _).trans ?_)).trans ?_
      · simp only [isApprovedRow, discoveryTokenRow, observed]
        rfl
      · simp only [isQualifiedRow, discoveryTokenRow, observed]
        rfl
      · simp [boolToInt]
  | @replaced row present newer mutation observedSlot activity =>
      have stage := (consistent _ _ present).2
      rw [countTables_replaceToken present, stage]
      change ({ countTables db with
        approved := (countTables db).approved +
          (boolToInt ((mergeObservation row.token candidate.token).stage = .approved) -
            boolToInt (row.token.stage = .approved))
        qualified := (countTables db).qualified +
          (boolToInt (mergeObservation row.token candidate.token).stage.isQualified -
            boolToInt row.token.stage.isQualified) } : ProjectionCounters) = _
      rcases @mergeObservation_stage row.token candidate.token observed with kept | fallen
      · rw [kept]
        cases row.token.stage <;> simp [boolToInt, DiscoveryStage.isQualified]
      · rw [fallen]
        cases row.token.stage <;> simp [boolToInt, DiscoveryStage.isQualified, sub_eq_add_neg]
  | @enriched row present stale mutation name symbol activity =>
      rw [countTables_replaceToken present]
      simp [boolToInt]
  | ignored present => simp [boolToInt]

/-- Fresh evidence counts by its decision. -/
theorem countTables_storeEvidence {db : Database} {finalized : FinalizeDiscoveryWindow}
    (free : db.assessments.lookup finalized.windowId = none) (qualificationRevision : Int) :
    countTables (db.storeEvidence qualificationRevision finalized) = { countTables db with
      qualificationRejected :=
        (countTables db).qualificationRejected + boolToInt (finalized.decision = .reject)
      qualificationUnknown :=
        (countTables db).qualificationUnknown + boolToInt (finalized.decision = .unknown) } := by
  have rejected := count_insert_new (fun row : AssessmentRow => row.decision = .reject)
    free (AssessmentRow.mk qualificationRevision finalized.decision finalized.assessment
      finalized.summary finalized.rules)
  have unknown := count_insert_new (fun row : AssessmentRow => row.decision = .unknown)
    free (AssessmentRow.mk qualificationRevision finalized.decision finalized.assessment
      finalized.summary finalized.rules)
  unfold countTables
  rw [ProjectionCounters.mk.injEq]
  exact ⟨rfl, rfl, rfl, rfl, rfl, rejected, unknown, rfl⟩

/-- The counts of the candidates follow the reported changes of one decision. -/
theorem DecisionApplied.counted {db next : Database} {window : WindowIdentityRow}
    {finalized : FinalizeDiscoveryWindow} {delta : Int × Int} (consistent : TokensConsistent db)
    (applied : DecisionApplied db window finalized delta next) :
    countTables next = { countTables db with
      approved := (countTables db).approved - delta.2
      qualified := (countTables db).qualified + delta.1 } := by
  cases applied with
  | withheld => simp
  | @applied row baseVolumeUnits quoteVolumeUnits present identity =>
      have stage := (consistent _ _ present).2
      rw [Table.modify_of_lookup present, countTables_replaceToken present, stage]
      have next : (qualifyRow window.qualificationRevision
          (qualifyToken finalized baseVolumeUnits quoteVolumeUnits row.token) row).stage =
          if finalized.decision = .pass then
            (if row.token.stage = .approved then .approved else .qualified)
          else .observed := rfl
      rw [next]
      by_cases pass : finalized.decision = .pass
      · cases row.token.stage <;> simp [pass, boolToInt, DiscoveryStage.isQualified]
      · cases row.token.stage <;>
          simp [pass, boolToInt, DiscoveryStage.isQualified, sub_eq_add_neg]

theorem summarizeDecision_frame (db : Database) (finalized : FinalizeDiscoveryWindow) :
    summarizeDecision db finalized = { db with
      rejectionSummaries := (summarizeDecision db finalized).rejectionSummaries
      unknownSummaries := (summarizeDecision db finalized).unknownSummaries } := by
  unfold summarizeDecision
  cases finalized.decision <;> rfl

/-- A finished window is pending no longer. -/
theorem countTables_finishWindow {db : Database} {finalized : FinalizeDiscoveryWindow}
    {window : WindowRow} (present : db.windows.lookup finalized.windowId = some window)
    (active : window.status = .active) (clamp : Int → Int) (now : Int) (mint : String)
    (qualificationRevision : Int) (delta : Int × Int) (projectionApplied : Bool) :
    countTables (db.finishWindow clamp now mint qualificationRevision finalized delta
      projectionApplied) =
      { countTables db with
        qualificationPending := (countTables db).qualificationPending - 1 } := by
  have counts := count_modify (fun row : WindowRow => row.status = .active) present
    (finalizeRow finalized)
  have pending : ((db.windows.modify finalized.windowId (finalizeRow finalized)).count
      (fun row => row.status = .active) : Int) =
        db.windows.count (fun row => row.status = .active) - 1 := by
    simpa [active, boolToInt, finalizeRow] using counts
  unfold Database.finishWindow
  rw [summarizeDecision_frame]
  exact congrArg (fun qualificationPending => { countTables db with qualificationPending }) pending

/-- A change of every row that keeps a property keeps its count. -/
theorem count_modifyAll {Key Row : Type} [DecidableEq Key] {table : Table Key Row}
    {change : Key → Row → Row} {property : Row → Bool}
    (same : ∀ key row, property (change key row) = property row) :
    (table.modifyAll change).count property = table.count property := by
  apply Table.total_modifyAll
  intro key row _
  unfold Table.one
  rw [same]

/-- Pruned history is not counted. -/
theorem countTables_deleteObservations (db : Database) (policy : RetentionPolicy) :
    countTables (deleteObservations db (pruneCandidates db policy)) = countTables db := by
  have queued : (db.work.deleteWhere fun _ row =>
      row.observationId ∈ pruneCandidates db policy).count isQueuedFact =
        db.work.count isQueuedFact := by
    apply Table.total_deleteWhere
    intro id row present deleted
    rw [decide_eq_true_iff] at deleted
    have terminal := hasTerminalWork_status (pruneCandidates_selected deleted).1 present rfl
    rcases terminal with status | status <;> simp [Table.one, isQueuedFact, status]
  unfold countTables deleteObservations
  rw [ProjectionCounters.mk.injEq]
  refine ⟨?_, ?_, congrArg Nat.cast queued, ?_, ?_, rfl, rfl, rfl⟩
  · exact congrArg Nat.cast (count_modifyAll fun _ _ => rfl)
  · exact congrArg Nat.cast (count_modifyAll fun _ row => by split <;> rfl)
  · exact congrArg Nat.cast (count_modifyAll fun _ row => by split <;> rfl)
  · exact congrArg Nat.cast (count_modifyAll fun _ row => by split <;> rfl)

/-- A clamp changes no count. -/
def FixesNaturals (clamp : Int → Int) : Prop := ∀ count : Nat, clamp count = count

/-- The counters agree with the tables, the candidates with their documents, and the sequence has
not fallen below zero. -/
structure CountersInvariant (db : Database) : Prop where
  counters : db.projection.counters = countTables db
  tokens : TokensConsistent db
  sequence : 0 ≤ db.projection.sequence

theorem countersInvariant_migrated : CountersInvariant Database.migrated where
  counters := rfl
  tokens := by
    intro mint row present
    cases present
  sequence := by decide

/-- The invariant is about the projection state and the tables that the counts read. -/
theorem CountersInvariant.of_same {db next : Database} (invariant : CountersInvariant db)
    (projection : next.projection = db.projection) (counted : countTables next = countTables db)
    (tokens : next.tokens = db.tokens) : CountersInvariant next where
  counters := by rw [projection, counted, invariant.counters]
  tokens := by
    intro mint row present
    rw [tokens] at present
    exact invariant.tokens mint row present
  sequence := by
    rw [projection]
    exact invariant.sequence

/-- An update of the counters that follows the tables keeps the invariant. -/
theorem CountersInvariant.of_update {db next : Database} (invariant : CountersInvariant db)
    (change : ProjectionCounters → ProjectionCounters)
    (projection : next.projection =
      { sequence := db.projection.sequence + 1, counters := change db.projection.counters })
    (counted : countTables next = change (countTables db)) (tokens : TokensConsistent next) :
    CountersInvariant next where
  counters := by rw [projection, counted, invariant.counters]
  tokens := tokens
  sequence := by
    have positive := invariant.sequence
    rw [projection]
    dsimp only
    omega

theorem TokensConsistent.of_tokens {db next : Database} (consistent : TokensConsistent db)
    (tokens : next.tokens = db.tokens) : TokensConsistent next := by
  intro mint row present
  rw [tokens] at present
  exact consistent mint row present

/-- A stored row that passes the checks keeps the table consistent. -/
theorem TokensConsistent.of_insert {db next : Database} {mint : String} {row : TokenRow}
    (consistent : TokensConsistent db) (tokens : next.tokens = db.tokens.insert mint row)
    (same : row.token.mint = mint) (stage : row.stage = row.token.stage) :
    TokensConsistent next := by
  intro other stored present
  rw [tokens] at present
  by_cases key : other = mint
  · subst key
    rw [AList.lookup_insert] at present
    cases present
    exact ⟨same, stage⟩
  · rw [AList.lookup_insert_ne key] at present
    exact consistent other stored present

theorem CandidateStored.consistent {db next : Database} {workId : Int}
    {candidate : DiscoveryObservation} {observation : Observation} {recorded : DiscoveryActivity}
    {projected : ProjectedToken} {tokens : Table String TokenRow} (consistent : TokensConsistent db)
    (stored : CandidateStored db.tokens workId candidate observation recorded projected tokens)
    (same : next.tokens = tokens) : TokensConsistent next := by
  cases stored with
  | inserted => exact consistent.of_insert same rfl rfl
  | replaced => exact consistent.of_insert same rfl rfl
  | enriched present =>
      obtain ⟨mint, stage⟩ := consistent _ _ present
      exact consistent.of_insert same mint stage
  | ignored => exact consistent.of_tokens same

theorem DecisionApplied.consistent {db next : Database} {window : WindowIdentityRow}
    {finalized : FinalizeDiscoveryWindow} {delta : Int × Int} (consistent : TokensConsistent db)
    (applied : DecisionApplied db window finalized delta next) : TokensConsistent next := by
  cases applied with
  | withheld => exact consistent
  | applied baseVolumeUnits quoteVolumeUnits present identity =>
      exact consistent.of_insert (Table.modify_of_lookup present _)
        (consistent _ _ present).1 rfl

theorem ObservationStored.countersInvariant {now : Int} {db next : Database}
    {observation : Observation} {inserted : ObservationInsert}
    (stored : ObservationStored now db observation inserted next)
    (invariant : CountersInvariant db) : CountersInvariant next := by
  have frame := stored.frame
  exact invariant.of_same (by rw [frame]) stored.counted (by rw [frame])

theorem WorkQueued.countersInvariant {now : Int} {db next : Database} {observation : Observation}
    {inserted : ObservationInsert} (queued : WorkQueued now db observation inserted next)
    (invariant : CountersInvariant db) : CountersInvariant next := by
  cases queued with
  | queued free =>
      exact invariant.of_update
        (fun counters => { counters with queuedFacts := counters.queuedFacts + 1 }) rfl
        (countTables_queueWork free _ _ _) (invariant.tokens.of_tokens rfl)
  | replayed => exact invariant

theorem insertObservation_counters {isBase64 : String → Bool} {now : Int} {db next : Database}
    {observation : Observation} {isNew : Bool} (invariant : CountersInvariant db)
    (accepted : insertObservation isBase64 now db observation = .ok (isNew, next)) :
    CountersInvariant next := by
  obtain ⟨-, inserted, stored, storage, work⟩ := insertObservation_eq_ok accepted
  exact work.countersInvariant (storage.countersInvariant invariant)

theorem newWindowRow_active (id observationId prefilterRevision qualificationRevision : Int)
    (observation : Observation) (window : NewDiscoveryWindow) :
    (newWindowRow id observationId prefilterRevision qualificationRevision observation
      window).status = .active := rfl

theorem openDiscoveryWindow_counters {isBase64 : String → Bool} {now : Int} {db next : Database}
    {observation : Observation} {window : NewDiscoveryWindow} {opened : OpenedDiscoveryWindow}
    (invariant : CountersInvariant db)
    (accepted : openDiscoveryWindow isBase64 now db observation window = .ok (opened, next)) :
    CountersInvariant next := by
  rcases openDiscoveryWindow_eq_ok accepted with
    ⟨-, rfl⟩ | ⟨-, -, -, -, -, free, inserted, stored, queued, prefilterRevision, qualificationRevision,
      storage, work, -, rfl⟩
  · exact invariant
  · have queuedInvariant := work.countersInvariant (storage.countersInvariant invariant)
    have windows : queued.windows.lookup queued.nextWindowId = none := by
      rw [work.frame]
      dsimp only
      rw [storage.frame]
      exact free
    have counted := countTables_openWindow windows now
      (newWindowRow_active db.nextWindowId inserted.id prefilterRevision qualificationRevision
        observation window) inserted.id window.qualification.revision
    refine queuedInvariant.of_update (fun counters =>
      { counters with qualificationPending := counters.qualificationPending + 1 }) ?_ counted ?_
    · unfold Database.openWindow
      rw [Database.insertMembership_frame]
      rfl
    · apply queuedInvariant.tokens.of_tokens
      unfold Database.openWindow
      rw [Database.insertMembership_frame]
      rfl

theorem insertWindowObservation_counters {isBase64 : String → Bool} {now : Int}
    {db next : Database} {windowId : Int} {observation : Observation} {isNew : Bool}
    (invariant : CountersInvariant db)
    (accepted : insertWindowObservation isBase64 now db windowId observation =
      .ok (isNew, next)) : CountersInvariant next := by
  obtain ⟨-, window, inserted, stored, -, storage, branch⟩ := insertWindowObservation_eq_ok accepted
  have storedInvariant := storage.countersInvariant invariant
  rcases branch with ⟨-, rfl⟩ | ⟨row, queued, -, -, work, rfl⟩
  · exact storedInvariant
  · have frame := queued.insertMembership_frame windowId inserted.id
      row.normalized.receivedTimeUnixMs
    exact (work.countersInvariant storedInvariant).of_same (by rw [frame])
      (countTables_insertMembership _ _ _ _) (by rw [frame])

theorem claimObservationWork_counters {now : Int} {db next : Database} {workKind workerId : String}
    {limit leaseDuration : Nat} {rows : List ClaimedObservationWork}
    (invariant : CountersInvariant db)
    (accepted : claimObservationWork now db workKind workerId limit leaseDuration =
      .ok (rows, next)) : CountersInvariant next := by
  obtain ⟨leaseMillis, rfl⟩ := claimObservationWork_eq_ok accepted
  exact invariant.of_same rfl (countTables_claimWork db now workKind workerId limit leaseMillis) rfl

theorem renewObservationWorkLease_counters {now : Int} {db next : Database} {workId : Int}
    {workerId : String} {leaseDuration : Nat} {expiresAt : Int} (invariant : CountersInvariant db)
    (accepted : renewObservationWorkLease now db workId workerId leaseDuration =
      .ok (expiresAt, next)) : CountersInvariant next := by
  rw [renewObservationWorkLease_eq_ok accepted]
  exact invariant.of_same rfl (countTables_modifyWork db workId fun _ _ => rfl) rfl

theorem commitDiscoveryObservation_counters {now : Int} {db next : Database}
    {workId : Int} {workerId : String} {candidate : DiscoveryObservation}
    {mutation : DiscoveryProjectionMutation} (invariant : CountersInvariant db)
    (accepted : commitDiscoveryObservation id now db workId workerId candidate =
      .ok (mutation, next)) : CountersInvariant next := by
  obtain ⟨-, observed, work, recorded, projected, tokens, activity, traders, owned, kind, -, -,
    stored, -, rfl⟩ := commitDiscoveryObservation_eq_ok invariant.tokens accepted
  have present := (lockOwnedWork_eq_ok owned).2.1
  have candidates := stored.counted invariant.tokens observed
  have finished := @countTables_finishWork { db with tokens } workId work.row present
    (isQueuedFact_of_owned owned kind) (completeRow now) (by simp [isQueuedFact, completeRow])
  rw [candidates] at finished
  exact invariant.of_update (fun counters => { counters with
      observed := counters.observed + boolToInt projected.isNew
      queuedFacts := counters.queuedFacts - 1
      approved := counters.approved - boolToInt projected.approvalRemoved
      qualified := counters.qualified - boolToInt projected.qualificationRemoved })
    rfl finished (stored.consistent invariant.tokens rfl)

theorem commitDiscoveryApproval_counters {now : Int} {db next : Database} {token : DiscoveryToken}
    {decisionSource decisionVersion : String} {mutation : DiscoveryProjectionMutation}
    (invariant : CountersInvariant db)
    (accepted : commitDiscoveryApproval now db token decisionSource decisionVersion =
      .ok (mutation, next)) : CountersInvariant next := by
  obtain ⟨-, -, row, observedSlot, present, stage, qualified, identity, rfl⟩ :=
    commitDiscoveryApproval_eq_ok accepted
  have mint := mergeApproval_mint (validatePromotionIdentity_eq_ok.mp identity).1
  have counted := countTables_replaceToken present
    (approveRow (mergeApproval row.token token) observedSlot decisionSource decisionVersion row)
  refine invariant.of_update (fun counters => { counters with
    approved := counters.approved + boolToInt !decide (row.token.stage = .approved) }) rfl ?_ ?_
  · refine counted.trans ?_
    rw [stage]
    change ({ countTables db with
      approved := (countTables db).approved + (1 - boolToInt (row.token.stage = .approved))
      qualified := (countTables db).qualified + (1 - boolToInt row.token.stage.isQualified) } :
        ProjectionCounters) = _
    rw [qualified]
    cases row.token.stage <;> simp [boolToInt]
  · exact invariant.tokens.of_insert rfl mint (mergeApproval_stage row.token token).symm

theorem commitDiscoveryRejection_counters {now : Int} {db next : Database} {workId : Int}
    {workerId : String} {rejection : DiscoveryRejection} {done : Unit}
    (invariant : CountersInvariant db)
    (accepted : commitDiscoveryRejection id now db workId workerId rejection = .ok (done, next)) :
    CountersInvariant next := by
  obtain ⟨work, owned, kind, rfl⟩ := commitDiscoveryRejection_eq_ok accepted
  have present := (lockOwnedWork_eq_ok owned).2.1
  exact invariant.of_update (fun counters => { counters with
      queuedFacts := counters.queuedFacts - 1
      processingFailures := counters.processingFailures + 1 })
    rfl (countTables_failWork present (isQueuedFact_of_owned owned kind) (completeRow now)
      (by simp [isQueuedFact, completeRow]) rejection.reasonCode rejection.seenAtUnixMs)
    (invariant.tokens.of_tokens rfl)

theorem retryOrFailObservationWork_counters {now : Int} {db next : Database}
    {workId : Int} {workerId errorCode : String} {retryAfter attemptBudget : Nat}
    {disposition : WorkFailureDisposition} (invariant : CountersInvariant db)
    (accepted : retryOrFailObservationWork id now db workId workerId errorCode retryAfter
      attemptBudget = .ok (disposition, next)) : CountersInvariant next := by
  obtain ⟨work, retryMillis, owned, branch⟩ := retryOrFailObservationWork_eq_ok accepted
  obtain ⟨-, present, -, live⟩ := lockOwnedWork_eq_ok owned
  have status := isOwned_status live
  rcases branch with ⟨-, -, rfl⟩ | ⟨-, -, kind, rfl⟩ | ⟨-, -, kind, rfl⟩
  · refine invariant.of_same rfl (countTables_modifyWork db workId ?_) rfl
    intro row found
    rw [present] at found
    cases found
    simp [isQueuedFact, releaseRow, status]
  · exact invariant.of_update (fun counters => { counters with
        queuedFacts := counters.queuedFacts - 1
        processingFailures := counters.processingFailures + 1 })
      rfl (countTables_failWork present (isQueuedFact_of_owned owned kind)
        (releaseRow now errorCode retryMillis true) (by simp [isQueuedFact, releaseRow]) errorCode
        work.observation.receivedTimeUnixMs)
      (invariant.tokens.of_tokens rfl)
  · refine invariant.of_same rfl (countTables_modifyWork db workId ?_) rfl
    intro row found
    rw [present] at found
    cases found
    simp [isQueuedFact, releaseRow, kind]

theorem finalizeDiscoveryWindow_counters {now : Int} {db next : Database}
    {finalized : FinalizeDiscoveryWindow} {changed : Bool} (invariant : CountersInvariant db)
    (accepted : finalizeDiscoveryWindow id now db finalized = .ok (changed, next)) :
    CountersInvariant next := by
  obtain ⟨-, window, present, -, branch⟩ := finalizeDiscoveryWindow_eq_ok accepted
  rcases branch with ⟨-, -, rfl, -⟩ | ⟨active, -, frozen, froze, publishing⟩
  · exact invariant
  · obtain ⟨-, -, -, free, rfl⟩ := freezeEvidence_eq_ok froze
    obtain ⟨delta, applied, projectionApplied, decision, rfl⟩ := publishDecision_eq_ok publishing
    have evidence := countTables_storeEvidence free window.qualificationRevision
    have tokens : TokensConsistent (db.storeEvidence window.qualificationRevision finalized) :=
      invariant.tokens.of_tokens rfl
    have candidates := decision.counted tokens
    have frame := decision.frame
    have found : applied.windows.lookup finalized.windowId = some window := by
      rw [frame]
      exact present
    have counted := countTables_finishWindow found active id now window.mint
      window.qualificationRevision delta projectionApplied
    rw [candidates, evidence] at counted
    refine invariant.of_update (fun counters => { counters with
      qualificationPending := counters.qualificationPending - 1
      qualified := counters.qualified + delta.1
      qualificationRejected :=
        counters.qualificationRejected + boolToInt (finalized.decision = .reject)
      qualificationUnknown :=
        counters.qualificationUnknown + boolToInt (finalized.decision = .unknown)
      approved := counters.approved - delta.2 }) ?_ counted ?_
    · unfold Database.finishWindow
      rw [summarizeDecision_frame, frame]
      rfl
    · apply (decision.consistent tokens).of_tokens
      unfold Database.finishWindow
      rw [summarizeDecision_frame]
      rfl

theorem pruneRetainedHistory_counters {db next : Database} {policy : RetentionPolicy}
    {result : RetentionPruneResult} (invariant : CountersInvariant db)
    (accepted : pruneRetainedHistory db policy = .ok (result, next)) :
    CountersInvariant next := by
  obtain ⟨events, rfl⟩ := pruneRetainedHistory_eq_ok accepted
  have counted := countTables_deleteObservations db policy
  refine ⟨invariant.counters.trans counted.symm, ?_, invariant.sequence⟩
  intro mint row present
  change (Table.modifyAll db.tokens _).lookup mint = some row at present
  rw [Table.lookup_modifyAll] at present
  obtain ⟨stored, found, rfl⟩ := Option.map_eq_some_iff.mp present
  have same := invariant.tokens mint stored found
  split
  · exact same
  · exact same

theorem rebuildDiscoveryProjection_counters {now : Int} {db : Database}
    (invariant : CountersInvariant db) :
    rebuildDiscoveryProjection now db = .ok ((db.projection.sequence + 1).toNat,
      { db with
        projection := { db.projection with sequence := db.projection.sequence + 1 }
        projectionEvents := db.projectionEvents ++
          [{ createdAt := now, event := .rebuilt (db.projection.sequence + 1) }] }) := by
  have positive := invariant.sequence
  have sequence : toU64 (db.projection.sequence + 1) "discovery_projection_state.sequence" =
      .ok (db.projection.sequence + 1).toNat := by
    unfold toU64
    rw [if_pos (by omega)]
  unfold rebuildDiscoveryProjection Database.updateProjection
  dsimp only
  rw [sequence, ← invariant.counters]
  rfl

/-- Each transaction without clamps keeps the counters equal to the tables. -/
theorem Transacted.countersInvariant {isBase64 : String → Bool} {db next : Database}
    {action : DatabaseAction} (committed : Transacted isBase64 id db action next)
    (invariant : CountersInvariant db) : CountersInvariant next := by
  cases committed with
  | bound | addedRevision | skippedSequences => exact invariant.of_same rfl rfl rfl
  | boundBefore => exact invariant
  | insertedObservation accepted => exact insertObservation_counters invariant accepted
  | openedWindow accepted => exact openDiscoveryWindow_counters invariant accepted
  | insertedMember accepted => exact insertWindowObservation_counters invariant accepted
  | claimedWork accepted => exact claimObservationWork_counters invariant accepted
  | renewedLease accepted => exact renewObservationWorkLease_counters invariant accepted
  | committedObservation accepted => exact commitDiscoveryObservation_counters invariant accepted
  | committedApproval accepted => exact commitDiscoveryApproval_counters invariant accepted
  | committedRejection accepted => exact commitDiscoveryRejection_counters invariant accepted
  | releasedWork accepted => exact retryOrFailObservationWork_counters invariant accepted
  | finalizedWindow accepted => exact finalizeDiscoveryWindow_counters invariant accepted
  | prunedHistory accepted => exact pruneRetainedHistory_counters invariant accepted
  | rebuiltProjection accepted =>
      rw [rebuildDiscoveryProjection_counters invariant] at accepted
      cases accepted
      have positive := invariant.sequence
      exact ⟨invariant.counters, invariant.tokens.of_tokens rfl, by
        change 0 ≤ db.projection.sequence + 1
        omega⟩

section Clamps

variable {clamp : Int → Int}

theorem FixesNaturals.of_nonneg (natural : FixesNaturals clamp) {value : Int} (positive : 0 ≤ value) :
    clamp value = id value := by
  obtain ⟨count, rfl⟩ := Int.eq_ofNat_of_zero_le positive
  exact natural count

theorem updateProjection_congr {db : Database} {change other : ProjectionCounters → ProjectionCounters}
    (same : change db.projection.counters = other db.projection.counters) :
    db.updateProjection change = db.updateProjection other := by
  unfold Database.updateProjection
  rw [same]

theorem commitDiscoveryObservation_clamp (natural : FixesNaturals clamp) {db : Database}
    (invariant : CountersInvariant db) (now workId : Int) (workerId : String)
    (candidate : DiscoveryObservation) :
    commitDiscoveryObservation clamp now db workId workerId candidate =
      commitDiscoveryObservation id now db workId workerId candidate := by
  unfold commitDiscoveryObservation
  refine bind_congr_ok fun _ _ => bind_congr_ok fun _ _ => bind_congr_ok fun _ _ =>
    bind_congr_ok fun _ _ => bind_congr_ok fun _ observed => bind_congr_ok fun work owned =>
    bind_congr_ok fun _ kind => bind_congr_ok fun _ _ => bind_congr_ok fun projected projecting =>
    bind_congr_ok fun stored storing => bind_congr_ok fun recorded recording => ?_
  rw [require_eq_ok] at observed
  rw [ensureDiscoveryWork_eq_ok] at kind
  obtain ⟨activity, active⟩ := recorded
  have storage := storeProjectedToken_eq_ok storing
  have frame := (applyObservationActivity_eq_ok recording).2.1
  have tokens : active.tokens = stored.tokens := by rw [frame]
  have candidates := (@candidateStored db stored active workId candidate work.observation projected
    activity invariant.tokens projecting storing tokens).counted invariant.tokens observed
  have projection : (storeActivity active projected.token work.observation activity).projection =
      db.projection := by
    rw [storeActivity_frame, frame, storage]
  have queued := queuedFacts_pos (lockOwnedWork_eq_ok owned).2.1 (isQueuedFact_of_owned owned kind)
  have approvals : 0 ≤ (countTables db).approved - boolToInt projected.approvalRemoved := by
    have approved := congrArg ProjectionCounters.approved candidates
    dsimp only at approved
    rw [← approved]
    exact Int.natCast_nonneg _
  have qualifications : 0 ≤ (countTables db).qualified - boolToInt projected.qualificationRemoved := by
    have qualified := congrArg ProjectionCounters.qualified candidates
    dsimp only at qualified
    rw [← qualified]
    exact Int.natCast_nonneg _
  dsimp only
  rw [updateProjection_congr]
  rw [projection, invariant.counters, natural.of_nonneg approvals, natural.of_nonneg qualifications,
    natural.of_nonneg (by omega)]

theorem commitDiscoveryRejection_clamp (natural : FixesNaturals clamp) {db : Database}
    (invariant : CountersInvariant db) (now workId : Int) (workerId : String)
    (rejection : DiscoveryRejection) :
    commitDiscoveryRejection clamp now db workId workerId rejection =
      commitDiscoveryRejection id now db workId workerId rejection := by
  unfold commitDiscoveryRejection
  refine bind_congr_ok fun _ _ => bind_congr_ok fun _ _ => bind_congr_ok fun _ _ =>
    bind_congr_ok fun _ _ => bind_congr_ok fun _ _ => bind_congr_ok fun work owned =>
    bind_congr_ok fun _ kind => bind_congr_ok fun _ _ => ?_
  rw [ensureDiscoveryWork_eq_ok] at kind
  have queued := queuedFacts_pos (lockOwnedWork_eq_ok owned).2.1 (isQueuedFact_of_owned owned kind)
  dsimp only
  rw [updateProjection_congr]
  rw [invariant.counters, natural.of_nonneg (by omega)]

theorem retryOrFailObservationWork_clamp (natural : FixesNaturals clamp) {db : Database}
    (invariant : CountersInvariant db) (now workId : Int) (workerId errorCode : String)
    (retryAfter attemptBudget : Nat) :
    retryOrFailObservationWork clamp now db workId workerId errorCode retryAfter attemptBudget =
      retryOrFailObservationWork id now db workId workerId errorCode retryAfter attemptBudget := by
  unfold retryOrFailObservationWork
  refine bind_congr_ok fun _ _ => bind_congr_ok fun _ _ => bind_congr_ok fun _ _ =>
    bind_congr_ok fun _ _ => bind_congr_ok fun _ _ => bind_congr_ok fun work owned => ?_
  dsimp only
  split
  · split
    · rename_i discovery
      have queued := queuedFacts_pos (lockOwnedWork_eq_ok owned).2.1
        (isQueuedFact_of_owned owned discovery)
      unfold recordTerminalDiscoveryFailure
      dsimp only
      rw [updateProjection_congr]
      dsimp only
      rw [invariant.counters, natural.of_nonneg (by omega)]
    · rfl
  · rfl

theorem publishDecision_clamp (natural : FixesNaturals clamp) {frozen : Database}
    {window : WindowRow} {finalized : FinalizeDiscoveryWindow} (now : Int)
    (consistent : TokensConsistent frozen) (pending : 1 ≤ (countTables frozen).qualificationPending)
    (approved : frozen.projection.counters.approved = (countTables frozen).approved)
    (qualified : frozen.projection.counters.qualified = (countTables frozen).qualified)
    (waiting : frozen.projection.counters.qualificationPending =
      (countTables frozen).qualificationPending) :
    publishDecision clamp now frozen window finalized =
      publishDecision id now frozen window finalized := by
  unfold publishDecision
  refine bind_congr_ok fun projected projecting => ?_
  obtain ⟨delta, applied⟩ := projected
  have decision := projectDecision_eq_ok projecting
  have candidates := decision.counted consistent
  have projection : applied.projection = frozen.projection := by rw [decision.frame]
  have approvals : 0 ≤ (countTables frozen).approved - delta.2 := by
    have counted := congrArg ProjectionCounters.approved candidates
    dsimp only at counted
    rw [← counted]
    exact Int.natCast_nonneg _
  have qualifications : 0 ≤ (countTables frozen).qualified + delta.1 := by
    have counted := congrArg ProjectionCounters.qualified candidates
    dsimp only at counted
    rw [← counted]
    exact Int.natCast_nonneg _
  dsimp only
  rw [updateProjection_congr]
  dsimp only
  rw [projection, approved, qualified, waiting, natural.of_nonneg approvals,
    natural.of_nonneg qualifications, natural.of_nonneg (by omega)]

theorem finalizeDiscoveryWindow_clamp (natural : FixesNaturals clamp) {db : Database}
    (invariant : CountersInvariant db) (now : Int) (finalized : FinalizeDiscoveryWindow) :
    finalizeDiscoveryWindow clamp now db finalized =
      finalizeDiscoveryWindow id now db finalized := by
  unfold finalizeDiscoveryWindow
  refine bind_congr_ok fun _ _ => ?_
  cases present : db.windows.lookup finalized.windowId with
  | none => rfl
  | some window =>
      refine bind_congr_ok fun _ _ => ?_
      split
      · rfl
      · rename_i running
        refine bind_congr_ok fun frozen froze => ?_
        have active : window.status = .active := by
          cases status : window.status with
          | active => rfl
          | finalized => exact absurd status running
        obtain ⟨-, -, -, -, rfl⟩ := freezeEvidence_eq_ok froze
        have approved := congrArg ProjectionCounters.approved invariant.counters
        have qualified := congrArg ProjectionCounters.qualified invariant.counters
        have waiting := congrArg ProjectionCounters.qualificationPending invariant.counters
        rw [publishDecision_clamp natural]
        · exact invariant.tokens.of_tokens rfl
        · exact Int.ofNat_le.mpr (count_pos (fun row : WindowRow => row.status = .active) present
            (decide_eq_true active))
        · exact approved
        · exact qualified
        · exact waiting

/-- On consistent counters no clamp is ever the binding one. -/
theorem stepWith_clamp (natural : FixesNaturals clamp) (isBase64 : String → Bool) {db : Database}
    (invariant : CountersInvariant db) (action : DatabaseAction) :
    stepWith isBase64 clamp db action = stepWith isBase64 id db action := by
  have same : transact isBase64 clamp db action = transact isBase64 id db action := by
    cases action with
    | commitDiscoveryObservation now workId workerId candidate =>
        simp only [transact]
        rw [commitDiscoveryObservation_clamp natural invariant]
    | commitDiscoveryRejection now workId workerId rejection =>
        simp only [transact]
        rw [commitDiscoveryRejection_clamp natural invariant]
    | retryOrFailObservationWork now workId workerId errorCode retryAfter attemptBudget =>
        simp only [transact]
        rw [retryOrFailObservationWork_clamp natural invariant]
    | finalizeDiscoveryWindow now finalized =>
        simp only [transact]
        rw [finalizeDiscoveryWindow_clamp natural invariant]
    | _ => rfl
  unfold stepWith
  rw [same]

end Clamps

theorem greatestZero_fixesNaturals : FixesNaturals greatestZero :=
  fun count => max_eq_left (Int.natCast_nonneg count)

theorem step_countersInvariant (isBase64 : String → Bool) (db : Database) (action : DatabaseAction)
    (invariant : CountersInvariant db) : CountersInvariant (step isBase64 db action).2 := by
  unfold step
  rw [stepWith_clamp greatestZero_fixesNaturals isBase64 invariant]
  exact stepWith_keeps invariant fun next committed => committed.countersInvariant invariant

/-- In each reachable state the eight counters equal the values that a rebuild computes, no clamp
binds in any next transaction, and a rebuild advances the sequence and appends its event. -/
theorem databaseAfter_counters (isBase64 : String → Bool) (actions : List DatabaseAction) :
    (databaseAfter isBase64 actions).projection.counters =
        countTables (databaseAfter isBase64 actions) ∧
      (∀ action, step isBase64 (databaseAfter isBase64 actions) action =
        stepWith isBase64 id (databaseAfter isBase64 actions) action) ∧
      ∀ now, rebuildDiscoveryProjection now (databaseAfter isBase64 actions) =
        .ok (((databaseAfter isBase64 actions).projection.sequence + 1).toNat,
          { databaseAfter isBase64 actions with
            projection := { (databaseAfter isBase64 actions).projection with
              sequence := (databaseAfter isBase64 actions).projection.sequence + 1 }
            projectionEvents := (databaseAfter isBase64 actions).projectionEvents ++
              [{ createdAt := now,
                 event := .rebuilt
                   ((databaseAfter isBase64 actions).projection.sequence + 1) }] }) := by
  have invariant : CountersInvariant (databaseAfter isBase64 actions) :=
    Transition.invariant_run (step isBase64) CountersInvariant (step_countersInvariant isBase64)
      countersInvariant_migrated actions
  exact ⟨invariant.counters,
    fun action => stepWith_clamp greatestZero_fixesNaturals isBase64 invariant action,
    fun _ => rebuildDiscoveryProjection_counters invariant⟩

end Soldisco.Persistence

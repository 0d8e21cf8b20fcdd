import Soldisco.Proof.Persistence.Work

/-
This file states what the opening, the memberships and the finalization of windows change.
-/

namespace Soldisco.Persistence
open Domain MachineInteger Accumulation

/-- The database after a window, its opening membership and its event are committed. -/
def Database.openWindow (db : Database) (now : Int) (row : WindowRow) (observationId : Int)
    (qualificationRevision : Nat) : Database :=
  (Database.updateProjection
    (Database.insertMembership
      { db with
        windows := db.windows.insert db.nextWindowId row
        nextWindowId := db.nextWindowId + 1 }
      row.id observationId row.openedAtUnixMs)
    fun counters => { counters with
      qualificationPending := counters.qualificationPending + 1 }).appendProjectionEvent now
    fun sequence => .windowOpened sequence row.id row.mint qualificationRevision

theorem validateNewWindow_eq_ok {observation : Observation} {window : NewDiscoveryWindow}
    {done : Unit} (valid : validateNewWindow observation window = .ok done) :
    window.openedAtUnixMs < window.closesAtUnixMs ∧
      observation.receivedTimeUnixMs = window.openedAtUnixMs := by
  unfold validateNewWindow at valid
  simp only [bind_eq_ok, require_eq_ok, exists_const] at valid
  obtain ⟨bounds, _, _, _, _, _, opened⟩ := valid
  exact ⟨bounds, opened⟩

/-- A window is created with its opening or found again by its opening. -/
theorem openDiscoveryWindow_eq_ok {isBase64 : String → Bool} {now : Int} {db next : Database}
    {observation : Observation} {window : NewDiscoveryWindow} {opened : OpenedDiscoveryWindow}
    (accepted : openDiscoveryWindow isBase64 now db observation window = .ok (opened, next)) :
    opened.replayed = true ∧ next = db ∨
      opened.replayed = false ∧ db.boundNetwork = some observation.key.network ∧
        observation.key.network = observation.market.network ∧
        validateNewWindow observation window = .ok () ∧
        db.findWindowByOpening observation window.targetKind window.targetAddress = none ∧
        db.windows.lookup db.nextWindowId = none ∧
        ∃ inserted stored queued prefilterRevision qualificationRevision,
          ObservationStored now db observation inserted stored ∧
          WorkQueued now stored observation inserted queued ∧
          db.opensWindow inserted.id = false ∧
          next = queued.openWindow now (newWindowRow db.nextWindowId inserted.id prefilterRevision
            qualificationRevision observation window) inserted.id window.qualification.revision := by
  unfold openDiscoveryWindow at accepted
  simp only [bind_eq_ok] at accepted
  obtain ⟨_, valid, ⟨inserted, stored⟩, chain, queued, enqueued, prefilterRevision, _,
    qualificationRevision, _, _, _, branch⟩ := accepted
  obtain ⟨bound, network, storage⟩ := insertChainObservation_eq_ok chain
  have work := enqueueInserted_eq_ok enqueued
  have windows : queued.windows = db.windows := by
    rw [work.frame]
    dsimp only
    rw [storage.frame]
  have nextWindowId : queued.nextWindowId = db.nextWindowId := by
    rw [work.frame]
    dsimp only
    rw [storage.frame]
  have opening : queued.findWindowByOpening observation window.targetKind window.targetAddress =
      db.findWindowByOpening observation window.targetKind window.targetAddress := by
    unfold Database.findWindowByOpening
    rw [windows]
  have opens : queued.opensWindow inserted.id = db.opensWindow inserted.id := by
    unfold Database.opensWindow
    rw [windows]
  rw [opening] at branch
  split at branch
  · simp only [bind_eq_ok] at branch
    obtain ⟨_, _, replayed⟩ := branch
    cases replayed
    exact .inl ⟨rfl, rfl⟩
  · rename_i absent
    simp only [bind_eq_ok, require_eq_ok, exists_const, insertRow_eq_ok, opens] at branch
    obtain ⟨opensNone, _, _, ⟨_, free, rfl⟩, created⟩ := branch
    rw [windows, nextWindowId] at free
    cases created
    refine .inr ⟨rfl, bound, network, valid, absent, free, inserted, stored, queued,
      prefilterRevision, qualificationRevision, storage, work, opensNone, ?_⟩
    rw [← nextWindowId, (validateNewWindow_eq_ok valid).2]
    rfl

/-- A member is new to the window and its stored facts belong to the window, or it was a member
before. -/
theorem insertWindowObservation_eq_ok {isBase64 : String → Bool} {now : Int} {db next : Database}
    {windowId : Int} {observation : Observation} {isNew : Bool}
    (accepted : insertWindowObservation isBase64 now db windowId observation =
      .ok (isNew, next)) :
    db.boundNetwork = some observation.key.network ∧
      ∃ window inserted stored, db.windows.lookup windowId = some window ∧
        ObservationStored now db observation inserted stored ∧
        (inserted.isNew = false ∧ next = stored ∨
          ∃ row queued, stored.observations.lookup inserted.id = some row ∧
            validateWindowMembership window.toWindowIdentityRow row.normalized = .ok () ∧
            WorkQueued now stored observation inserted queued ∧
            next = queued.insertMembership windowId inserted.id
              row.normalized.receivedTimeUnixMs) := by
  unfold insertWindowObservation at accepted
  split at accepted
  · cases accepted
  · rename_i window present
    simp only [bind_eq_ok] at accepted
    obtain ⟨⟨inserted, stored⟩, chain, branch⟩ := accepted
    obtain ⟨bound, network, storage⟩ := insertChainObservation_eq_ok chain
    refine ⟨bound, window, inserted, stored, present, storage, ?_⟩
    split at branch
    · rename_i member
      cases branch
      exact .inl ⟨member.1, rfl⟩
    · split at branch
      · cases branch
      · rename_i row found
        simp only [bind_eq_ok] at branch
        obtain ⟨_, inside, queued, enqueued, done⟩ := branch
        have admitted : (if inserted.isNew = true then observation else row.normalized) =
            row.normalized := by
          cases storage with
          | added =>
              dsimp only at found ⊢
              rw [Database.lookup_addObservation, if_pos rfl] at found
              cases found
              rfl
          | lowered | kept => rfl
        rw [admitted] at inside done
        cases done
        exact .inr ⟨row, queued, found, inside, enqueueInserted_eq_ok enqueued, rfl⟩

theorem requireMatches_eq_ok {mismatch : String → PersistenceError} {done : Unit}
    (checks : List (Bool × String)) :
    requireMatches mismatch checks = .ok done ↔ ∀ check ∈ checks, check.1 = true := by
  induction checks with
  | nil => simp [requireMatches]
  | cons check rest ih =>
      obtain ⟨holds, field⟩ := check
      cases holds with
      | true => simp [requireMatches, ih]
      | false => simp [requireMatches]

/-- The members of a window are active and have its market and a receipt inside its bounds. -/
theorem validateWindowMembership_eq_ok {window : WindowIdentityRow} {observation : Observation}
    {done : Unit} (valid : validateWindowMembership window observation = .ok done) :
    window.status = .active ∧ window.network = observation.key.network ∧
      window.sourceProgram = observation.key.program ∧
      window.venue = observation.market.venue ∧
      window.marketAddress = observation.market.marketAddress ∧
      window.mint = observation.market.mint ∧
      window.quoteMint = quoteMintColumn observation.market ∧
      window.openedAtUnixMs ≤ observation.receivedTimeUnixMs ∧
      observation.receivedTimeUnixMs < window.closesAtUnixMs := by
  unfold validateWindowMembership at valid
  simp only [bind_eq_ok, require_eq_ok, exists_const, requireMatches_eq_ok, List.forall_mem_cons,
    decide_eq_true_iff, Bool.and_eq_true] at valid
  obtain ⟨active, network, program, venue, address, mint, quote, ⟨opened, closes⟩, -⟩ := valid
  exact ⟨active, network, program, venue, address, mint, quote, opened, closes⟩

/-- The database after the evidence of a window is stored. -/
def Database.storeEvidence (db : Database) (qualificationRevision : Int)
    (finalized : FinalizeDiscoveryWindow) : Database :=
  { db with
    snapshots := db.snapshots.insert finalized.windowId {
      featureVersion := finalized.featureVersion
      observationCount := finalized.observationCount
      snapshot := finalized.snapshot }
    assessments := db.assessments.insert finalized.windowId {
      rulesetRevision := qualificationRevision
      decision := finalized.decision
      assessment := finalized.assessment
      summary := finalized.summary
      ruleResults := finalized.rules } }

theorem toI64_eq_ok {value : Nat} {field : String} {column : Int} :
    toI64 value field = .ok column ↔ (value : Int) ≤ i64Max ∧ column = value := by
  unfold toI64
  split
  · rename_i fits
    constructor
    · intro same
      cases same
      exact ⟨fits, rfl⟩
    · rintro ⟨-, rfl⟩
      rfl
  · rename_i exceeds
    constructor
    · intro impossible
      cases impossible
    · rintro ⟨fits, -⟩
      exact absurd fits exceeds

/-- Frozen evidence counts the memberships and is the canonical payload of the stored window. -/
theorem freezeEvidence_eq_ok {db next : Database} {window : WindowRow}
    {finalized : FinalizeDiscoveryWindow}
    (frozen : freezeEvidence db window finalized = .ok next) :
    (db.countMemberships finalized.windowId : Int) = finalized.observationCount ∧
      (∃ canonicalWindow,
        window.intoRecord (loadWindowObservations db finalized.windowId) = .ok canonicalWindow ∧
        buildDiscoveryWindowFinalization canonicalWindow finalized.finalizedAtUnixMs
          finalized.completenessReason = .ok finalized) ∧
      db.snapshots.lookup finalized.windowId = none ∧
      db.assessments.lookup finalized.windowId = none ∧
      next = db.storeEvidence window.qualificationRevision finalized := by
  unfold freezeEvidence at frozen
  simp only [bind_eq_ok, require_eq_ok, exists_const, insertRow_eq_ok, toI64_eq_ok] at frozen
  obtain ⟨_, _, _, ⟨-, rfl⟩, counted, canonicalWindow, record, _, built, rfl, _,
    ⟨-, snapshotFree, rfl⟩, _, ⟨-, assessmentFree, rfl⟩, _, -, done⟩ := frozen
  cases done
  exact ⟨counted, ⟨canonicalWindow, record, built⟩, snapshotFree, assessmentFree, rfl⟩

theorem validateProjectionMatchesWindow_eq_ok {token : DiscoveryToken} {window : WindowIdentityRow}
    {done : Unit} : validateProjectionMatchesWindow token window = .ok done ↔
      token.mint = window.mint ∧ token.sourceProgram = window.sourceProgram ∧
        token.primaryVenue = window.venue ∧ token.marketAddress = window.marketAddress ∧
        token.quoteMint.getD "" = window.quoteMint :=
  require_eq_ok

/-- The row of a candidate after the decision of its window. -/
def qualifyRow (qualificationRevision : Int) (token : DiscoveryToken) (row : TokenRow) :
    TokenRow :=
  { row with
    stage := token.stage
    decisionSource := "WINDOW_QUALIFICATION"
    decisionVersion := toString qualificationRevision
    token }

/-- A decision changes the current candidate of the window or no candidate. -/
inductive DecisionApplied (db : Database) (window : WindowIdentityRow)
    (finalized : FinalizeDiscoveryWindow) : Int × Int → Database → Prop
  | withheld : DecisionApplied db window finalized (0, 0) db
  | applied {row : TokenRow} (baseVolumeUnits quoteVolumeUnits : String)
      (present : db.tokens.lookup window.mint = some row)
      (identity : validateProjectionMatchesWindow row.token window = .ok ()) :
      DecisionApplied db window finalized
        (boolToInt (finalized.decision = .pass) - boolToInt row.token.stage.isQualified,
          boolToInt (row.token.stage = .approved && !decide (finalized.decision = .pass)))
        { db with
          tokens := db.tokens.modify window.mint
            (qualifyRow window.qualificationRevision
              (qualifyToken finalized baseVolumeUnits quoteVolumeUnits row.token)) }

/-- A decision changes the candidates only. -/
theorem DecisionApplied.frame {db next : Database} {window : WindowIdentityRow}
    {finalized : FinalizeDiscoveryWindow} {delta : Int × Int}
    (applied : DecisionApplied db window finalized delta next) :
    next = { db with tokens := next.tokens } := by
  cases applied <;> rfl

/-- The database after the window row, the counters, the summaries and the event of a decision. -/
def Database.finishWindow (db : Database) (clamp : Int → Int) (now : Int) (mint : String)
    (qualificationRevision : Int) (finalized : FinalizeDiscoveryWindow) (delta : Int × Int)
    (projectionApplied : Bool) : Database :=
  (summarizeDecision
    (Database.updateProjection
      { db with windows := db.windows.modify finalized.windowId (finalizeRow finalized) }
      fun counters =>
        { counters with
          qualificationPending := clamp (counters.qualificationPending - 1)
          qualified := clamp (counters.qualified + delta.1)
          qualificationRejected :=
            counters.qualificationRejected + boolToInt (finalized.decision = .reject)
          qualificationUnknown :=
            counters.qualificationUnknown + boolToInt (finalized.decision = .unknown)
          approved := clamp (counters.approved - delta.2) })
    finalized).appendProjectionEvent now fun sequence =>
      .windowFinalized sequence finalized.windowId mint finalized.decision qualificationRevision
        projectionApplied

theorem applyToProjection_eq_ok {db next : Database} {window : WindowIdentityRow}
    {finalized : FinalizeDiscoveryWindow} {row : TokenRow} {delta : Int × Int}
    (present : db.tokens.lookup window.mint = some row)
    (accepted : applyToProjection db window finalized row = .ok (delta, next)) :
    DecisionApplied db window finalized delta next := by
  unfold applyToProjection at accepted
  simp only [bind_eq_ok] at accepted
  obtain ⟨_, identity, baseVolumeUnits, _, quoteVolumeUnits, _, done⟩ := accepted
  have mint : row.token.mint = window.mint :=
    (validateProjectionMatchesWindow_eq_ok.mp identity).1
  have applied := @DecisionApplied.applied db window finalized row baseVolumeUnits
    quoteVolumeUnits present identity
  rw [← mint] at applied
  cases done
  exact applied

theorem projectDecision_eq_ok {db next : Database} {windowId : Int} {window : WindowIdentityRow}
    {finalized : FinalizeDiscoveryWindow} {delta : Int × Int}
    (projected : projectDecision db window finalized (currentProjection db windowId window) =
      .ok (delta, next)) : DecisionApplied db window finalized delta next := by
  cases current : currentProjection db windowId window with
  | some row =>
      rw [current] at projected
      unfold currentProjection at current
      exact applyToProjection_eq_ok (Option.filter_eq_some_iff.mp current).1 projected
  | none =>
      rw [current] at projected
      cases projected
      exact .withheld

theorem publishDecision_eq_ok {clamp : Int → Int} {now : Int} {db next : Database}
    {window : WindowRow} {finalized : FinalizeDiscoveryWindow}
    (published : publishDecision clamp now db window finalized = .ok next) :
    ∃ delta applied projectionApplied,
      DecisionApplied db window.toWindowIdentityRow finalized delta applied ∧
      next = applied.finishWindow clamp now window.mint window.qualificationRevision finalized
        delta projectionApplied := by
  unfold publishDecision at published
  simp only [bind_eq_ok] at published
  obtain ⟨⟨delta, applied⟩, projected, done⟩ := published
  refine ⟨delta, applied,
    (currentProjection db finalized.windowId window.toWindowIdentityRow).isSome,
    projectDecision_eq_ok projected, ?_⟩
  cases done
  rfl

/-- A finalization repeats what is stored or freezes the evidence of an active window and
publishes its decision. -/
theorem finalizeDiscoveryWindow_eq_ok {clamp : Int → Int} {now : Int} {db next : Database}
    {finalized : FinalizeDiscoveryWindow} {changed : Bool}
    (accepted : finalizeDiscoveryWindow clamp now db finalized = .ok (changed, next)) :
    validateFinalization finalized = .ok () ∧
      ∃ window, db.windows.lookup finalized.windowId = some window ∧
        validateFinalizationForWindow window.toWindowIdentityRow finalized = .ok () ∧
        (window.status = .finalized ∧ changed = false ∧ next = db ∧
            (∃ stored, storedFinalization db finalized.windowId = some stored ∧
              finalizationMatches stored finalized = true) ∨
          window.status = .active ∧ changed = true ∧
            ∃ frozen, freezeEvidence db window finalized = .ok frozen ∧
              publishDecision clamp now frozen window finalized = .ok next) := by
  unfold finalizeDiscoveryWindow at accepted
  simp only [bind_eq_ok] at accepted
  obtain ⟨_, valid, branch⟩ := accepted
  refine ⟨valid, ?_⟩
  split at branch
  · cases branch
  · rename_i window present
    simp only [bind_eq_ok] at branch
    obtain ⟨_, identity, branch⟩ := branch
    refine ⟨window, present, identity, ?_⟩
    split at branch
    · rename_i finalizedBefore
      split at branch
      · rename_i repeated
        cases branch
        exact .inl ⟨finalizedBefore, rfl, rfl, Option.any_eq_true _ _ |>.mp repeated⟩
      · cases branch
    · rename_i running
      have active : window.status = .active := by
        cases status : window.status with
        | active => rfl
        | finalized => exact absurd status running
      simp only [bind_eq_ok] at branch
      obtain ⟨frozen, froze, published, publishing, done⟩ := branch
      cases done
      exact .inr ⟨active, rfl, frozen, froze, publishing⟩

end Soldisco.Persistence

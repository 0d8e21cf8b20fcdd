import Soldisco.Construction.DiscoverySnapshot
import Soldisco.Proof.Persistence.Feed
import Soldisco.Proof.Web.Contracts

/-
This file proves what the snapshot of a reachable database shows and that the browser reads it.
-/

namespace Soldisco.Persistence
open Accumulation
open Projections (DiscoverySnapshot DiscoveryCounters RejectionSummary)

variable {db : Database} {mode : DiscoveryMode} {limit : Nat}

/-- The visible candidates stand from the newest to the oldest. -/
def visibleRows (db : Database) (mode : DiscoveryMode) : List (Sigma fun _ : String => TokenRow) :=
  (db.tokens.entries.filter fun entry => isVisible mode entry.2.stage).insertionSort
    fun left right => right.2.observedSlot < left.2.observedSlot ∨
      left.2.observedSlot = right.2.observedSlot ∧ left.1 ≤ right.1

/-- Each stored candidate is read as it stands. -/
theorem loadDiscoveryTokens_eq (consistent : TokensConsistent db)
    (shapes : ∀ mint row, db.tokens.lookup mint = some row → TokenShape row.token)
    (positive : limit ≠ 0) (bounded : limit ≤ maxDiscoverySnapshotLimit) :
    loadDiscoveryTokens db mode limit =
      .ok (((visibleRows db mode).take limit).map fun entry => entry.2.token) := by
  have read : ∀ entry ∈ (visibleRows db mode).take limit,
      readDiscoveryToken mode entry.2.token = .ok entry.2.token := by
    intro entry listed
    have sorted := List.mem_of_mem_take listed
    unfold visibleRows at sorted
    rw [List.mem_insertionSort] at sorted
    obtain ⟨stored, shown⟩ := List.mem_filter.mp sorted
    have present := AList.mem_lookup_iff.mpr stored
    rw [(consistent _ _ present).2] at shown
    unfold readDiscoveryToken
    simp only [bind_eq_ok, require_eq_ok, exists_const]
    exact ⟨(), validateTokenShape_eq_ok.mpr (shapes _ _ present), shown, rfl⟩
  unfold loadDiscoveryTokens
  simp only [bind_eq_ok, require_eq_ok, exists_const]
  exact ⟨positive, bounded, mapM_eq_ok_map read⟩

theorem toU64_natCast (count : Nat) (field : String) : toU64 count field = .ok count := by
  unfold toU64
  rw [if_pos (Int.natCast_nonneg count), Int.toNat_natCast]

theorem toU64_of_nonneg {value : Int} (nonneg : 0 ≤ value) (field : String) :
    toU64 value field = .ok value.toNat := if_pos nonneg

/-- The counter of a mode counts the candidates that the mode shows. -/
theorem visibleCount_countTables (db : Database) (mode : DiscoveryMode) :
    visibleCount (countTables db) mode =
      (db.tokens.count fun row => isVisible mode row.stage : Nat) := by
  cases mode with
  | observeAll => rfl
  | approvedOnly => rfl
  | qualifiedOnly =>
      have same : (fun row : TokenRow => row.stage = .qualified || row.stage = .approved) =
          fun row => isVisible .qualifiedOnly row.stage := by
        funext row
        cases stage : row.stage <;> rfl
      change ((db.tokens.count fun row => row.stage = .qualified || row.stage = .approved : Nat) :
        Int) = _
      rw [same]

/-- The snapshot that the tables give. -/
def snapshotOf (db : Database) (mode : DiscoveryMode) (flowPerMinute : Option Int) (limit : Nat) :
    DiscoverySnapshot where
  sequence := db.projection.sequence.toNat
  mode
  tokens := ((visibleRows db mode).take limit).map fun entry => entry.2.token
  tokensTotal := db.tokens.count fun row => isVisible mode row.stage
  tokensTruncated := limit < db.tokens.count fun row => isVisible mode row.stage
  counters := {
    observed := db.tokens.count fun _ => true
    pending := db.work.count isQueuedFact
    qualified := db.tokens.count fun row => row.stage = .qualified || row.stage = .approved
    qualificationPending := db.windows.count fun row => row.status = .active
    qualificationRejected := db.assessments.count fun row => row.decision = .reject
    qualificationUnknown := db.assessments.count fun row => row.decision = .unknown
    processingFailures := db.processingFailureSummaries.total SummaryRow.count
    approved := db.tokens.count fun row => row.stage = .approved
    rejected := db.assessments.count fun row => row.decision = .reject
    flowPerMinute := flowPerMinute.map Int.toNat }
  rejectionReasons := (orderedRejections db).map fun row =>
    { reasonCode := row.1, count := row.2.count, lastSeenUnixMs := row.2.lastSeenUnixMs }

theorem loadRejections_eq (db : Database) : loadRejections db =
    .ok ((orderedRejections db).map fun row =>
      { reasonCode := row.1, count := row.2.count, lastSeenUnixMs := row.2.lastSeenUnixMs }) := by
  apply mapM_eq_ok_map
  intro row _
  rw [toU64_natCast]
  rfl

theorem length_visibleRows (db : Database) (mode : DiscoveryMode) :
    (visibleRows db mode).length = db.tokens.count fun row => isVisible mode row.stage := by
  unfold visibleRows
  rw [List.length_insertionSort, Table.count_eq_length_filter]

theorem truncated_iff (db : Database) (mode : DiscoveryMode) (limit : Nat) :
    (((visibleRows db mode).take limit).map fun entry => entry.2.token).length <
      (db.tokens.count fun row => isVisible mode row.stage) ↔
    limit < db.tokens.count fun row => isVisible mode row.stage := by
  rw [List.length_map, List.length_take, length_visibleRows]
  omega

/-- The reader gives the snapshot of the tables. -/
theorem loadDiscoverySnapshotBounded_eq (invariant : FeedInvariant db)
    {flowPerMinute : Option Int} (flow : ∀ value ∈ flowPerMinute, 0 ≤ value)
    (positive : limit ≠ 0) (bounded : limit ≤ maxDiscoverySnapshotLimit) :
    loadDiscoverySnapshotBounded db mode flowPerMinute limit =
      .ok (snapshotOf db mode flowPerMinute limit) := by
  have tokens : loadDiscoveryTokens db mode limit = _ :=
    loadDiscoveryTokens_eq invariant.counters.tokens invariant.tokens positive bounded
  have counters := invariant.counters.counters
  have sequence := toU64_of_nonneg invariant.counters.sequence (stateField "sequence")
  have flowRead : flowPerMinute.mapM (toU64 · (stateField "flow_per_minute")) =
      .ok (flowPerMinute.map Int.toNat) := by
    cases flowPerMinute with
    | none => rfl
    | some value =>
        change (some <$> toU64 value (stateField "flow_per_minute")) = _
        rw [toU64_of_nonneg (flow value rfl)]
        rfl
  have truncated := truncated_iff db mode limit
  unfold loadDiscoverySnapshotBounded
  simp only [counters, tokens, loadRejections_eq, visibleCount_countTables, Snapshot.ok_bind,
    toU64_natCast, sequence, flowRead]
  simp only [countTables, toU64_natCast, Snapshot.ok_bind, truncated]
  rfl

end Soldisco.Persistence

namespace Soldisco.Web
open Persistence

/-- The stored shape of a token holds the evidence that the browser asks for. -/
theorem tokenEvident_of_shape {token : Persistence.DiscoveryToken} (shape : TokenShape token) :
    TokenEvident token where
  share := by
    intro summary present value claimed
    have bounded := (shape.qualification summary present).share
    rw [Option.mem_def.mp claimed, Option.any_some] at bounded
    exact not_lt.mp (of_decide_eq_false bounded)
  stage := shape.stage

/-- The order of the visible candidates. -/
def IsNewer (left right : Sigma fun _ : String => TokenRow) : Prop :=
  right.2.observedSlot < left.2.observedSlot ∨
    left.2.observedSlot = right.2.observedSlot ∧ left.1 ≤ right.1

instance : DecidableRel IsNewer := fun left right =>
  inferInstanceAs (Decidable (right.2.observedSlot < left.2.observedSlot ∨
    left.2.observedSlot = right.2.observedSlot ∧ left.1 ≤ right.1))

instance : Std.Total IsNewer where
  total left right := by
    unfold IsNewer
    rcases lt_trichotomy left.2.observedSlot right.2.observedSlot with older | same | newer
    · exact .inr (.inl older)
    · rcases le_total left.1 right.1 with first | second
      · exact .inl (.inr ⟨same, first⟩)
      · exact .inr (.inr ⟨same.symm, second⟩)
    · exact .inl (.inl newer)

instance : IsTrans (Sigma fun _ : String => TokenRow) IsNewer where
  trans left middle right first second := by
    unfold IsNewer at *
    rcases first with newer | ⟨same, before⟩
    · rcases second with later | ⟨equal, -⟩
      · exact .inl (later.trans newer)
      · exact .inl (equal ▸ newer)
    · rcases second with later | ⟨equal, after⟩
      · exact .inl (same ▸ later)
      · exact .inr ⟨same.trans equal, before.trans after⟩

/-- A candidate behind the limit is not newer than one before it. -/
theorem shown_newest {db : Database} {mode : DiscoveryMode} {limit : Nat}
    {shown hidden : Sigma fun _ : String => TokenRow}
    (before : shown ∈ (visibleRows db mode).take limit) (stored : hidden ∈ db.tokens.entries)
    (visible : isVisible mode hidden.2.stage = true)
    (behind : hidden ∉ (visibleRows db mode).take limit) :
    hidden.2.observedSlot ≤ shown.2.observedSlot := by
  have listed : hidden ∈ visibleRows db mode :=
    (List.mem_insertionSort _).mpr (List.mem_filter.mpr ⟨stored, visible⟩)
  have ordered : (visibleRows db mode).Pairwise IsNewer := List.pairwise_insertionSort IsNewer _
  rw [← List.take_append_drop limit (visibleRows db mode)] at ordered listed
  have dropped := (List.mem_append.mp listed).resolve_left behind
  rcases (List.pairwise_append.mp ordered).2.2 shown before hidden dropped with newer | ⟨same, -⟩
  · exact newer.le
  · exact same.ge

/-- What the browser reads of the snapshots of a database. -/
structure SnapshotServed (db : Database) (mode : DiscoveryMode) (limit : Nat)
    (snapshot : Projections.DiscoverySnapshot) : Prop where
  total : snapshot.tokensTotal = db.tokens.count fun row => isVisible mode row.stage
  shown : snapshot.tokens.length = min limit snapshot.tokensTotal
  truncated : snapshot.tokensTruncated = true ↔ limit < snapshot.tokensTotal
  newest : ∀ token ∈ snapshot.tokens, ∃ row, db.tokens.lookup token.mint = some row ∧
    row.token = token ∧ isVisible mode token.stage = true ∧
      ∀ mint other, db.tokens.lookup mint = some other → isVisible mode other.stage = true →
        other.token ∉ snapshot.tokens → other.observedSlot ≤ row.observedSlot
  readable : ∀ parsed, parseDiscoverySnapshot (serializeSnapshot snapshot) = .ok parsed ↔
    SnapshotSafe snapshot ∧ snapshotContract snapshot = parsed

theorem snapshotOf_served {db : Database} (invariant : FeedInvariant db) (mode : DiscoveryMode)
    (flowPerMinute : Option Int) (limit : Nat) :
    SnapshotServed db mode limit (snapshotOf db mode flowPerMinute limit) where
  total := rfl
  shown := by
    change (((visibleRows db mode).take limit).map fun entry => entry.2.token).length = _
    rw [List.length_map, List.length_take, length_visibleRows]
    rfl
  truncated := decide_eq_true_iff
  newest := by
    intro token shown
    obtain ⟨entry, before, rfl⟩ := List.mem_map.mp shown
    have sorted := (List.mem_insertionSort _).mp (List.mem_of_mem_take before)
    obtain ⟨stored, visible⟩ := List.mem_filter.mp sorted
    have present := AList.mem_lookup_iff.mpr stored
    obtain ⟨own, stage⟩ := invariant.counters.tokens _ _ present
    refine ⟨entry.2, own.symm ▸ present, rfl, stage ▸ visible, ?_⟩
    intro mint other found otherVisible hidden
    have kept : (⟨mint, other⟩ : Sigma fun _ : String => TokenRow) ∈ db.tokens.entries :=
      AList.mem_lookup_iff.mp found
    exact shown_newest before kept otherVisible fun listed =>
      hidden (List.mem_map_of_mem (f := fun entry => entry.2.token) listed)
  readable := by
    intro parsed
    have evident : ∀ token ∈ (snapshotOf db mode flowPerMinute limit).tokens,
        TokenEvident token := by
      intro token shown
      obtain ⟨entry, before, rfl⟩ := List.mem_map.mp shown
      have sorted := (List.mem_insertionSort _).mp (List.mem_of_mem_take before)
      have present := AList.mem_lookup_iff.mpr (List.mem_filter.mp sorted).1
      exact tokenEvident_of_shape (invariant.tokens _ _ present)
    rw [parseDiscoverySnapshot_eq_ok, and_iff_left evident]

end Soldisco.Web

import Soldisco.Library.Agreement
import Soldisco.Proof.Persistence.Convergence

/-
This file compares each operation on a database with the same operation on the database without
some of its finished history.
-/

namespace Soldisco.Persistence
open Domain MachineInteger Accumulation

/-- The database without some observations and with other projection events. -/
def Database.withoutHistory (db : Database) (deleted : List Int)
    (events : List ProjectionEventRow) : Database :=
  { deleteObservations db deleted with projectionEvents := events }

/-- The reference of a window to a deleted opening is cleared. -/
def WindowRow.clearOpening (deleted : List Int) (row : WindowRow) : WindowRow :=
  if row.openingObservationId.any (· ∈ deleted) then { row with openingObservationId := none }
  else row

/-- The work belongs to a deleted observation. -/
def Database.isGone (db : Database) (deleted : List Int) (workId : Int) : Bool :=
  (db.work.lookup workId).any fun work => work.observationId ∈ deleted

/-- The reference of a candidate to deleted work is cleared. -/
def TokenRow.clearSource (gone : Int → Bool) (row : TokenRow) : TokenRow :=
  if row.sourceWorkId.any gone then { row with sourceWorkId := none } else row

theorem WindowRow.clearOpening_identity (deleted : List Int) (row : WindowRow) :
    (row.clearOpening deleted).toWindowIdentityRow = row.toWindowIdentityRow := by
  unfold WindowRow.clearOpening
  split <;> rfl

theorem WindowRow.clearOpening_of_spared {deleted : List Int} {row : WindowRow}
    (spared : ∀ id, row.openingObservationId = some id → id ∉ deleted) :
    row.clearOpening deleted = row := by
  unfold WindowRow.clearOpening
  rw [if_neg]
  intro cleared
  obtain ⟨id, opening, gone⟩ := (Option.any_eq_true _ _).mp cleared
  exact spared id opening (of_decide_eq_true gone)

/-- The reference of a candidate is all that a cleared row loses. -/
theorem TokenRow.clearSource_withSource (gone : Int → Bool) (row : TokenRow) :
    ∃ source, row.clearSource gone = row.withSource source := by
  unfold TokenRow.clearSource
  split
  · exact ⟨none, rfl⟩
  · exact ⟨row.sourceWorkId, rfl⟩

section History

variable {db : Database} {deleted : List Int} {events : List ProjectionEventRow}

/-- A change of a candidate that keeps its source commutes with the clearing of the source. -/
theorem TokenRow.clearSource_change {gone : Int → Bool} {change : TokenRow → TokenRow}
    (source : ∀ row, (change row).sourceWorkId = row.sourceWorkId)
    (commutes : ∀ row, change (row.withSource none) = (change row).withSource none)
    (row : TokenRow) : (change row).clearSource gone = change (row.clearSource gone) := by
  unfold TokenRow.clearSource
  rw [source]
  split
  · exact (commutes row).symm
  · rfl

/-- A change of the work that keeps the deleted work is made before or after the deletion. -/
theorem Database.withoutHistory_work {work pruned : Table Int WorkRow}
    (gone : ∀ id, (work.lookup id).any (fun row => decide (row.observationId ∈ deleted)) =
      db.isGone deleted id)
    (rest : pruned = work.deleteWhere fun _ row => row.observationId ∈ deleted) :
    { db.withoutHistory deleted events with work := pruned } =
      Database.withoutHistory { db with work } deleted events := by
  subst rest
  have same : (fun workId => db.isGone deleted workId) = fun workId =>
      (work.lookup workId).any fun row => decide (row.observationId ∈ deleted) :=
    funext fun id => (gone id).symm
  have tokens : (db.withoutHistory deleted events).tokens =
      (Database.withoutHistory { db with work } deleted events).tokens := by
    change db.tokens.modifyAll (fun _ row => row.clearSource (fun workId => db.isGone deleted workId)) =
      db.tokens.modifyAll fun _ row => row.clearSource fun workId =>
        (work.lookup workId).any fun row => decide (row.observationId ∈ deleted)
    rw [same]
  unfold Database.withoutHistory at tokens ⊢
  unfold deleteObservations at tokens ⊢
  dsimp only at tokens ⊢
  rw [tokens]

theorem Database.lookup_observations_withoutHistory {id : Int} (spared : id ∉ deleted) :
    (db.withoutHistory deleted events).observations.lookup id = db.observations.lookup id :=
  Table.lookup_deleteWhere_of_spared fun _ _ => decide_eq_false spared

theorem Database.lookup_windows_withoutHistory (id : Int) :
    (db.withoutHistory deleted events).windows.lookup id =
      (db.windows.lookup id).map (WindowRow.clearOpening deleted) :=
  Table.lookup_modifyAll db.windows id _

theorem Database.lookup_tokens_withoutHistory (mint : String) :
    (db.withoutHistory deleted events).tokens.lookup mint =
      (db.tokens.lookup mint).map (TokenRow.clearSource fun id => db.isGone deleted id) :=
  Table.lookup_modifyAll db.tokens mint _

end History

/-- The observations are finished history: their work has ended and their windows are final. -/
structure IsHistory (db : Database) (deleted : List Int) : Prop where
  stored : ∀ id ∈ deleted, ∃ row, db.observations.lookup id = some row
  ended : ∀ id row, db.work.lookup id = some row → row.observationId ∈ deleted → row.hasEnded
  final : ∀ windowId observationId, (windowId, observationId) ∈ db.memberPairs →
    observationId ∈ deleted → ∀ window, db.windows.lookup windowId = some window →
      window.status = .finalized
  observationIds : ∀ id row, db.observations.lookup id = some row → id < db.nextObservationId
  workIds : ∀ id row, db.work.lookup id = some row → id < db.nextWorkId
  openings : ∀ windowId window observationId, db.windows.lookup windowId = some window →
    window.openingObservationId = some observationId → (windowId, observationId) ∈ db.memberPairs

/-- The second database lacks finished history of the first one. -/
def Lacks (deleted : List Int) (full pruned : Database) : Prop :=
  ∃ events, pruned = full.withoutHistory deleted events

/-- Both results are the same and the databases still differ by finished history alone. -/
def Answers {Result : Type} (deleted : List Int) (full pruned : Result × Database) : Prop :=
  pruned.1 = full.1 ∧ Lacks deleted full.2 pruned.2

theorem answers_iff {Result : Type} {deleted : List Int} {result other : Result}
    {full pruned : Database} : Answers deleted (result, full) (other, pruned) ↔
      other = result ∧ ∃ events, pruned = full.withoutHistory deleted events := Iff.rfl

/-- The observation is not a delivery of a deleted fact. -/
def IsNews (db : Database) (deleted : List Int) (observation : Observation) : Prop :=
  ∀ id ∈ deleted, ∀ row, db.observations.lookup id = some row →
    sameIdentity row.normalized.key observation.key = false

section Intake

variable {isBase64 : String → Bool} {now : Int} {db : Database} {deleted : List Int}
  {events : List ProjectionEventRow} {observation : Observation}

theorem IsHistory.fresh (history : IsHistory db deleted) : db.nextObservationId ∉ deleted := by
  intro gone
  obtain ⟨row, present⟩ := history.stored _ gone
  exact absurd (history.observationIds _ row present) (lt_irrefl _)

theorem IsHistory.freeWork (history : IsHistory db deleted) :
    db.work.lookup db.nextWorkId = none := by
  cases present : db.work.lookup db.nextWorkId with
  | none => rfl
  | some row => exact absurd (history.workIds _ row present) (lt_irrefl _)

theorem require_congr {condition other : Prop} [Decidable condition] [Decidable other]
    (same : condition ↔ other) (error : PersistenceError) :
    require condition error = require other error := by
  unfold require
  by_cases holds : condition
  · rw [if_pos holds, if_pos (same.mp holds)]
  · rw [if_neg holds, if_neg (mt same.mpr holds)]

/-- Tables without the row accept it alike. -/
theorem insertRow_agrees {Row : Type} {table other : Table Int Row} {id : Int} (row : Row)
    (same : other.lookup id = none ↔ table.lookup id = none) :
    Agrees (fun left right => left = table.insert id row ∧ right = other.insert id row)
      (insertRow table id row) (insertRow other id row) := by
  unfold insertRow
  rw [require_congr same]
  exact .same fun _ _ => .same fun _ _ => .ok ⟨rfl, rfl⟩

theorem findObservation_withoutHistory (news : IsNews db deleted observation) :
    (db.withoutHistory deleted events).findObservation observation.key =
      db.findObservation observation.key :=
  Table.find_deleteWhere fun id row present gone => news id (of_decide_eq_true gone) row present

theorem opensWindow_withoutHistory {id : Int} (spared : id ∉ deleted) :
    (db.withoutHistory deleted events).opensWindow id = db.opensWindow id := by
  change (db.windows.modifyAll fun _ row => row.clearOpening deleted).any
    (fun _ row => decide (row.openingObservationId = some id)) =
      db.windows.any fun _ row => decide (row.openingObservationId = some id)
  refine Table.any_modifyAll fun _ row => ?_
  unfold WindowRow.clearOpening
  split
  · rename_i cleared
    obtain ⟨opening, opened, gone⟩ := (Option.any_eq_true _ _).mp cleared
    rw [opened]
    have other : opening ≠ id := fun same => spared (same ▸ of_decide_eq_true gone)
    simp [other]
  · rfl

theorem memberships_withoutHistory_any {windowId id : Int} (spared : id ∉ deleted) :
    ((db.withoutHistory deleted events).memberships.any fun member =>
      member.windowId = windowId && member.observationId = id) =
    db.memberships.any fun member => member.windowId = windowId && member.observationId = id := by
  change (db.memberships.filter fun member => member.observationId ∉ deleted).any _ = _
  rw [List.any_filter]
  congr 1
  funext member
  by_cases same : member.observationId = id
  · simp [same, spared]
  · simp [same]

/-- A found or inserted observation is not deleted. -/
theorem IsNews.spared (news : IsNews db deleted observation) {id : Int} {row : ObservationRow}
    (found : db.findObservation observation.key = some (id, row)) : id ∉ deleted := by
  intro gone
  obtain ⟨present, same⟩ := Database.findObservation_eq_some found
  rw [news id gone row present] at same
  cases same

theorem ObservationStored.spared {inserted : ObservationInsert} {stored : Database}
    (storage : ObservationStored now db observation inserted stored)
    (history : IsHistory db deleted) (news : IsNews db deleted observation) :
    inserted.id ∉ deleted := by
  cases storage with
  | added => exact history.fresh
  | lowered found => exact news.spared found
  | kept found => exact news.spared found

/-- A change of the memberships that keeps their observations commutes with the deletion. -/
theorem filter_map_memberships {lower : MembershipRow → MembershipRow}
    (same : ∀ member, (lower member).observationId = member.observationId)
    (members : List MembershipRow) :
    (members.filter fun member => decide (member.observationId ∉ deleted)).map lower =
      (members.map lower).filter fun member => member.observationId ∉ deleted := by
  rw [List.filter_map]
  congr 2
  funext member
  rw [Function.comp_apply, same]

theorem lowerReceipt_withoutHistory {id receivedTimeUnixMs : Int} (spared : id ∉ deleted) :
    (db.withoutHistory deleted events).lowerReceipt id receivedTimeUnixMs =
      (db.lowerReceipt id receivedTimeUnixMs).withoutHistory deleted events := by
  have observations : (db.observations.deleteWhere fun id _ => decide (id ∈ deleted)).modify id
      (fun row => { row with normalized := { row.normalized with receivedTimeUnixMs } }) =
      Table.deleteWhere (db.observations.modify id fun row =>
        { row with normalized := { row.normalized with receivedTimeUnixMs } })
        fun id _ => decide (id ∈ deleted) :=
    (@Table.deleteWhere_modify _ _ _ _ (fun id _ => decide (id ∈ deleted)) _ _ (fun _ => rfl)
      fun _ _ => decide_eq_false spared).symm
  unfold Database.lowerReceipt Database.withoutHistory deleteObservations
  dsimp only
  rw [observations, filter_map_memberships]
  intro member
  split <;> rfl

theorem insertChainObservation_agrees (history : IsHistory db deleted)
    (news : IsNews db deleted observation) :
    Agrees (Answers deleted) (insertChainObservation isBase64 now db observation)
      (insertChainObservation isBase64 now (db.withoutHistory deleted events) observation) := by
  unfold insertChainObservation
  refine .same fun _ _ => .same fun _ _ => .same fun _ _ => .same fun _ _ => .same fun _ _ =>
    .same fun _ _ => ?_
  rw [findObservation_withoutHistory news]
  cases found : db.findObservation observation.key with
  | none =>
      have fresh : decide (db.nextObservationId ∈ deleted) = false := decide_eq_false history.fresh
      refine .bind (insertRow_agrees _ (Iff.of_eq (congrArg (· = none)
        (Database.lookup_observations_withoutHistory history.fresh)))) fun _ _ _ _ =>
          .ok ⟨rfl, events, ?_⟩
      have written : (db.observations.deleteWhere fun id _ => decide (id ∈ deleted)).insert
          db.nextObservationId { normalized := observation, firstSeenAt := now } =
          Table.deleteWhere (db.observations.insert db.nextObservationId
            { normalized := observation, firstSeenAt := now }) fun id _ => decide (id ∈ deleted) :=
        (@Table.deleteWhere_insert _ _ _ _ (fun id _ => decide (id ∈ deleted)) _ _ fresh
          fun _ _ => fresh).symm
      unfold Database.addObservation Database.withoutHistory deleteObservations
      dsimp only
      rw [written]
  | some entry =>
      obtain ⟨id, stored⟩ := entry
      have spared := news.spared found
      refine .same fun _ _ => ?_
      rw [opensWindow_withoutHistory spared]
      exact .ite (fun _ => .ok ⟨rfl, events, lowerReceipt_withoutHistory spared⟩)
        fun _ => .ok ⟨rfl, events, rfl⟩

/-- Work that no deleted observation has is kept. -/
theorem lookup_work_withoutHistory {id : Int} (spared : db.isGone deleted id = false) :
    (db.withoutHistory deleted events).work.lookup id = db.work.lookup id := by
  refine Table.lookup_deleteWhere_of_spared fun row present => ?_
  unfold Database.isGone at spared
  rw [present, Option.any_some] at spared
  exact spared

theorem lookup_work_of_gone {id : Int} (gone : db.isGone deleted id = true) :
    (db.withoutHistory deleted events).work.lookup id = none := by
  cases kept : (db.withoutHistory deleted events).work.lookup id with
  | none => rfl
  | some row =>
      obtain ⟨present, spared⟩ := Table.lookup_deleteWhere_eq_some.mp kept
      unfold Database.isGone at gone
      rw [present, Option.any_some, spared] at gone
      cases gone

/-- A row of work for another observation is written before or after the deletion. -/
theorem Database.withoutHistory_insertWork {id : Int} {row : WorkRow}
    (free : db.work.lookup id = none) (spared : row.observationId ∉ deleted) :
    { db.withoutHistory deleted events with
      work := (db.withoutHistory deleted events).work.insert id row } =
      Database.withoutHistory { db with work := db.work.insert id row } deleted events := by
  apply Database.withoutHistory_work
  · intro other
    unfold Database.isGone
    by_cases same : other = id
    · subst same
      rw [AList.lookup_insert, free, Option.any_some, Option.any_none]
      exact decide_eq_false spared
    · rw [AList.lookup_insert_ne same]
  · refine (@Table.deleteWhere_insert _ _ _ _ (fun _ (row : WorkRow) =>
      decide (row.observationId ∈ deleted)) _ _ (decide_eq_false spared) fun old present => ?_).symm
    rw [free] at present
    cases present

theorem enqueueDiscoveryWork_agrees {id : Int} (spared : id ∉ deleted)
    (free : db.work.lookup db.nextWorkId = none) :
    Agrees (Lacks deleted) (enqueueDiscoveryWork now db observation id)
      (enqueueDiscoveryWork now (db.withoutHistory deleted events) observation id) := by
  have unqueued : ((db.withoutHistory deleted events).work.any fun _ work =>
      decide (work.observationId = id) && decide (work.workKind = "DISCOVERY")) =
      db.work.any fun _ work =>
        decide (work.observationId = id) && decide (work.workKind = "DISCOVERY") := by
    change (db.work.deleteWhere fun _ row => decide (row.observationId ∈ deleted)).any _ = _
    refine Table.any_deleteWhere fun _ row _ gone => ?_
    have other : row.observationId ≠ id := fun same => spared (same ▸ of_decide_eq_true gone)
    simp [other]
  have kept : (db.withoutHistory deleted events).work.lookup db.nextWorkId = none := by
    rw [lookup_work_withoutHistory]
    · exact free
    · unfold Database.isGone
      rw [free]
      rfl
  unfold enqueueDiscoveryWork
  rw [unqueued]
  refine .same fun _ _ => .bind (@insertRow_agrees WorkRow db.work _ _ _
    (iff_of_true kept free)) ?_
  rintro _ _ - ⟨rfl, rfl⟩
  have inserted := @Database.withoutHistory_insertWork db deleted events _ (pendingWork now id) free
    spared
  change Agrees (Lacks deleted) (.ok (db.queueWork now observation.market.mint id))
    (.ok ((db.withoutHistory deleted events).queueWork now observation.market.mint id))
  have queued := congrArg (fun queued : Database => (Database.updateProjection
    { queued with nextWorkId := db.nextWorkId + 1 } fun counters =>
      { counters with queuedFacts := counters.queuedFacts + 1 }).appendProjectionEvent now
    fun sequence => .queuedFactsChanged sequence observation.market.mint id) inserted
  exact .ok ⟨_, queued⟩

theorem enqueueInserted_agrees {inserted : ObservationInsert} (spared : inserted.id ∉ deleted)
    (free : db.work.lookup db.nextWorkId = none) :
    Agrees (Lacks deleted) (enqueueInserted now db observation inserted)
      (enqueueInserted now (db.withoutHistory deleted events) observation inserted) := by
  unfold enqueueInserted
  exact .ite (fun _ => enqueueDiscoveryWork_agrees spared free) fun _ => .ok ⟨events, rfl⟩

theorem ObservationStored.freeWork {inserted : ObservationInsert} {stored : Database}
    (storage : ObservationStored now db observation inserted stored)
    (history : IsHistory db deleted) : stored.work.lookup stored.nextWorkId = none := by
  rw [storage.frame]
  exact history.freeWork

theorem insertObservation_agrees (history : IsHistory db deleted)
    (news : IsNews db deleted observation) :
    Agrees (Answers deleted) (insertObservation isBase64 now db observation)
      (insertObservation isBase64 now (db.withoutHistory deleted events) observation) := by
  unfold insertObservation
  refine .bind (insertChainObservation_agrees history news) ?_
  rintro ⟨_, stored⟩ ⟨inserted, _⟩ chain answer
  obtain ⟨rfl, later, rfl⟩ := answers_iff.mp answer
  have storage := (insertChainObservation_eq_ok chain).2.2
  refine .bind (enqueueInserted_agrees (storage.spared history news)
    (storage.freeWork history)) ?_
  rintro queued _ - ⟨final, rfl⟩
  exact .ok ⟨rfl, final, rfl⟩

/-- The memberships of kept observations change before or after the deletion. -/
theorem insertMembership_withoutHistory {windowId id admittedAtUnixMs : Int}
    (spared : id ∉ deleted) :
    (db.withoutHistory deleted events).insertMembership windowId id admittedAtUnixMs =
      (db.insertMembership windowId id admittedAtUnixMs).withoutHistory deleted events := by
  unfold Database.insertMembership
  rw [memberships_withoutHistory_any spared]
  split
  · unfold Database.withoutHistory deleteObservations
    dsimp only
    rw [filter_map_memberships]
    intro member
    split <;> rfl
  · unfold Database.withoutHistory deleteObservations
    dsimp only
    rw [List.filter_append, List.filter_cons_of_pos (by simpa using spared), List.filter_nil]

theorem findWindowByOpening_withoutHistory (targetKind : WindowTargetKind)
    (targetAddress : String) :
    (db.withoutHistory deleted events).findWindowByOpening observation targetKind targetAddress =
      (db.findWindowByOpening observation targetKind targetAddress).map fun entry =>
        (entry.1, entry.2.clearOpening deleted) := by
  change Table.find (db.windows.modifyAll fun _ row => row.clearOpening deleted) _ = _
  refine Table.find_modifyAll fun _ row => ?_
  rw [WindowRow.clearOpening]
  split <;> rfl

/-- A window of a kept opening is written before or after the deletion. -/
theorem Database.withoutHistory_insertWindow {id : Int} {row : WindowRow}
    (kept : row.clearOpening deleted = row) :
    { db.withoutHistory deleted events with
      windows := (db.withoutHistory deleted events).windows.insert id row } =
      Database.withoutHistory { db with windows := db.windows.insert id row } deleted events := by
  have windows : (db.windows.modifyAll fun _ row => row.clearOpening deleted).insert id row =
      Table.modifyAll (db.windows.insert id row) fun _ row => row.clearOpening deleted := by
    rw [Table.modifyAll_insert, kept]
  change { db.withoutHistory deleted events with
    windows := (db.windows.modifyAll fun _ row => row.clearOpening deleted).insert id row } = _
  rw [windows]
  rfl

/-- A window opens alike without the history. -/
theorem openWindow_withoutHistory {row : WindowRow} {id : Int} {qualificationRevision : Nat}
    (kept : row.clearOpening deleted = row) (spared : id ∉ deleted) :
    Lacks deleted (db.openWindow now row id qualificationRevision)
      ((db.withoutHistory deleted events).openWindow now row id qualificationRevision) := by
  have created := congrArg (fun created : Database =>
    { created with nextWindowId := db.nextWindowId + 1 }.insertMembership row.id id
      row.openedAtUnixMs) (@Database.withoutHistory_insertWindow db deleted events
        db.nextWindowId row kept)
  have joined := created.trans (@insertMembership_withoutHistory
    { db with windows := db.windows.insert db.nextWindowId row, nextWindowId := db.nextWindowId + 1 }
    deleted events row.id id row.openedAtUnixMs spared)
  have opened := congrArg (fun joined : Database => (joined.updateProjection fun counters =>
    { counters with
      qualificationPending := counters.qualificationPending + 1 }).appendProjectionEvent now
    fun sequence => .windowOpened sequence row.id row.mint qualificationRevision) joined
  exact ⟨_, opened⟩

theorem openDiscoveryWindow_agrees {window : NewDiscoveryWindow} (history : IsHistory db deleted)
    (news : IsNews db deleted observation) :
    Agrees (Answers deleted) (openDiscoveryWindow isBase64 now db observation window)
      (openDiscoveryWindow isBase64 now (db.withoutHistory deleted events) observation window) := by
  unfold openDiscoveryWindow
  refine .same fun _ valid => .bind (insertChainObservation_agrees history news) ?_
  rintro ⟨_, stored⟩ ⟨inserted, _⟩ chain answer
  obtain ⟨rfl, later, rfl⟩ := answers_iff.mp answer
  have storage := (insertChainObservation_eq_ok chain).2.2
  have spared := storage.spared history news
  refine .bind (enqueueInserted_agrees spared (storage.freeWork history)) ?_
  rintro queued _ - ⟨final, rfl⟩
  refine .same fun prefilterRevision _ => .same fun qualificationRevision _ => .same fun _ _ => ?_
  rw [findWindowByOpening_withoutHistory]
  cases queued.findWindowByOpening observation window.targetKind window.targetAddress with
  | some entry =>
      rw [Option.map_some]
      dsimp only
      rw [WindowRow.clearOpening_identity]
      exact .same fun _ _ => .ok ⟨rfl, events, rfl⟩
  | none =>
      rw [Option.map_none]
      dsimp only
      rw [opensWindow_withoutHistory spared]
      refine .same fun _ _ => .same fun _ _ => ?_
      refine .bind (insertRow_agrees _ ?_) ?_
      · rw [Database.lookup_windows_withoutHistory, Option.map_eq_none_iff]
      · rintro _ _ - ⟨rfl, rfl⟩
        rw [(validateNewWindow_eq_ok valid).2]
        refine .ok ⟨rfl, openWindow_withoutHistory (WindowRow.clearOpening_of_spared ?_) spared⟩
        rintro _ ⟨⟩
        exact spared

theorem insertWindowObservation_agrees {windowId : Int} (history : IsHistory db deleted)
    (news : IsNews db deleted observation) :
    Agrees (Answers deleted) (insertWindowObservation isBase64 now db windowId observation)
      (insertWindowObservation isBase64 now (db.withoutHistory deleted events) windowId
        observation) := by
  unfold insertWindowObservation
  rw [Database.lookup_windows_withoutHistory]
  cases db.windows.lookup windowId with
  | none => exact .error _
  | some window =>
      rw [Option.map_some]
      dsimp only
      rw [WindowRow.clearOpening_identity]
      refine .bind (insertChainObservation_agrees history news) ?_
      rintro ⟨_, stored⟩ ⟨inserted, _⟩ chain answer
      obtain ⟨rfl, later, rfl⟩ := answers_iff.mp answer
      have storage := (insertChainObservation_eq_ok chain).2.2
      have spared := storage.spared history news
      dsimp only
      rw [memberships_withoutHistory_any spared,
        Database.lookup_observations_withoutHistory spared]
      refine .ite (fun _ => .ok ⟨rfl, later, rfl⟩) fun _ => ?_
      cases stored.observations.lookup inserted.id with
      | none => exact .error _
      | some row =>
          refine .same fun _ _ => .bind (enqueueInserted_agrees spared
            (storage.freeWork history)) ?_
          rintro queued _ - ⟨final, rfl⟩
          exact .ok ⟨rfl, final, insertMembership_withoutHistory spared⟩

end Intake

section Work

variable {now : Int} {db : Database} {deleted : List Int} {events : List ProjectionEventRow}
  {workId : Int} {workerId : String}

theorem IsHistory.hasEnded (history : IsHistory db deleted) {id : Int} (gone : db.isGone deleted id = true) :
    ∃ row, db.work.lookup id = some row ∧ row.hasEnded := by
  obtain ⟨row, present, selected⟩ := (Option.any_eq_true _ _).mp gone
  exact ⟨row, present, history.ended id row present (of_decide_eq_true selected)⟩

/-- Work that has ended is not claimed. -/
theorem WorkRow.hasEnded.not_claimable {row : WorkRow} (ended : row.hasEnded) (workKind : String) :
    isClaimable now workKind row = false := by
  by_contra claimable
  rcases isClaimable_status (by simpa using claimable) with pending | processing
  · rcases ended with complete | failed
    · rw [complete] at pending
      cases pending
    · rw [failed] at pending
      cases pending
  · rcases ended with complete | failed
    · rw [complete] at processing
      cases processing
    · rw [failed] at processing
      cases processing

theorem WorkRow.hasEnded.not_owned {row : WorkRow} (ended : row.hasEnded) :
    isOwned now workerId row = false := by
  by_contra owned
  have processing := isOwned_status (by simpa using owned)
  rcases ended with complete | failed
  · rw [complete] at processing
    cases processing
  · rw [failed] at processing
    cases processing

theorem claimableWork_withoutHistory (history : IsHistory db deleted) (workKind : String)
    (limit : Nat) : claimableWork now (db.withoutHistory deleted events) workKind limit =
      claimableWork now db workKind limit := by
  have kept : ((db.work.deleteWhere fun _ row => decide (row.observationId ∈ deleted)).entries.filter
      fun entry => isClaimable now workKind entry.2) =
      db.work.entries.filter fun entry => isClaimable now workKind entry.2 :=
    Table.filter_deleteWhere fun id row present gone =>
      (history.ended id row present (of_decide_eq_true gone)).not_claimable workKind
  unfold claimableWork
  change (((((db.work.deleteWhere fun _ row => decide (row.observationId ∈ deleted)).entries.filter
    _).insertionSort _).take limit).map Sigma.fst) = _
  rw [kept]

/-- Work that has not ended is kept with its observation. -/
theorem IsHistory.spared (history : IsHistory db deleted) {id : Int} {row : WorkRow}
    (present : db.work.lookup id = some row) (running : ¬ row.hasEnded) :
    row.observationId ∉ deleted := fun gone => running (history.ended id row present gone)

theorem claimObservationWork_agrees {workKind : String} {limit leaseDuration : Nat}
    (history : IsHistory db deleted) :
    Agrees (Answers deleted) (claimObservationWork now db workKind workerId limit leaseDuration)
      (claimObservationWork now (db.withoutHistory deleted events) workKind workerId limit
        leaseDuration) := by
  unfold claimObservationWork
  refine .same fun _ _ => .same fun _ _ => .same fun _ _ => .same fun _ _ =>
    .same fun leaseMillis _ => ?_
  rw [claimableWork_withoutHistory history]
  refine .ok ⟨List.filterMap_congr fun id claimed => ?_, events,
    Database.withoutHistory_work ?_ ?_⟩
  · rw [List.mem_insertionSort] at claimed
    obtain ⟨row, present, claimable⟩ := claimableWork_lookup claimed
    have spared := history.spared present fun ended => by
      rw [ended.not_claimable] at claimable
      cases claimable
    have kept : (db.withoutHistory deleted events).work.lookup id = some row :=
      Table.lookup_deleteWhere_eq_some.mpr ⟨present, decide_eq_false spared⟩
    rw [Table.lookup_modifyAll, Table.lookup_modifyAll, kept, present, Option.map_some]
    have source : (if id ∈ claimableWork now db workKind limit then
        claimRow now workerId leaseMillis row else row).observationId = row.observationId := by
      split <;> rfl
    simp only [Option.bind_eq_bind, Option.bind_some]
    rw [source, Database.lookup_observations_withoutHistory spared]
  · intro id
    rw [Table.lookup_modifyAll, Option.any_map]
    unfold Database.isGone
    congr 1
    funext row
    split <;> rfl
  · refine (@Table.deleteWhere_modifyAll _ _ _ (fun _ (row : WorkRow) =>
      decide (row.observationId ∈ deleted)) _ fun _ _ => ?_).symm
    split <;> rfl

/-- A change of kept work is made before or after the deletion. -/
theorem Database.withoutHistory_modifyWork {change : WorkRow → WorkRow}
    (same : ∀ row, (change row).observationId = row.observationId)
    (spared : ∀ row, db.work.lookup workId = some row → row.observationId ∉ deleted) :
    { db.withoutHistory deleted events with
      work := (db.withoutHistory deleted events).work.modify workId change } =
      Database.withoutHistory { db with work := db.work.modify workId change } deleted events := by
  refine Database.withoutHistory_work ?_ ?_
  · intro id
    rw [Table.lookup_modify]
    unfold Database.isGone
    split
    · rename_i changed
      subst changed
      rw [Option.any_map]
      congr 1
      funext row
      rw [same]
    · rfl
  · refine (@Table.deleteWhere_modify _ _ _ _ (fun _ (row : WorkRow) =>
      decide (row.observationId ∈ deleted)) _ _ ?_ ?_).symm
    · intro row
      rw [same]
    · exact fun row present => decide_eq_false (spared row present)

theorem renewObservationWorkLease_agrees {leaseDuration : Nat} (history : IsHistory db deleted) :
    Agrees (Answers deleted) (renewObservationWorkLease now db workId workerId leaseDuration)
      (renewObservationWorkLease now (db.withoutHistory deleted events) workId workerId
        leaseDuration) := by
  have owned : ((db.withoutHistory deleted events).work.lookup workId).any (isOwned now workerId) =
      (db.work.lookup workId).any (isOwned now workerId) := by
    cases gone : db.isGone deleted workId with
    | false => rw [lookup_work_withoutHistory gone]
    | true =>
        obtain ⟨row, present, ended⟩ := history.hasEnded gone
        rw [lookup_work_of_gone gone, present, Option.any_none, Option.any_some, ended.not_owned]
  unfold renewObservationWorkLease
  refine .same fun _ _ => .same fun leaseMillis _ => ?_
  rw [owned]
  refine .same fun _ live => .ok ⟨rfl, events, ?_⟩
  obtain ⟨row, present, live⟩ := (Option.any_eq_true _ _).mp (require_eq_ok.mp live)
  refine Database.withoutHistory_modifyWork (fun _ => rfl) fun other found => ?_
  rw [present] at found
  cases found
  exact history.spared present fun ended => by
    rw [ended.not_owned] at live
    cases live

theorem lockOwnedWork_withoutHistory (history : IsHistory db deleted) :
    lockOwnedWork now (db.withoutHistory deleted events) workId workerId =
      lockOwnedWork now db workId workerId := by
  unfold lockOwnedWork
  cases gone : db.isGone deleted workId with
  | true =>
      obtain ⟨row, present, ended⟩ := history.hasEnded gone
      rw [lookup_work_of_gone gone, present]
      dsimp only
      rw [ended.not_owned]
      split <;> rfl
  | false =>
      rw [lookup_work_withoutHistory gone]
      unfold Database.isGone at gone
      cases present : db.work.lookup workId with
      | none => rfl
      | some row =>
          rw [present, Option.any_some] at gone
          dsimp only
          rw [Database.lookup_observations_withoutHistory (of_decide_eq_false gone)]

/-- Locked work is not part of the history. -/
theorem IsHistory.lockedSpared (history : IsHistory db deleted) {work : OwnedWork}
    (locked : lockOwnedWork now db workId workerId = .ok work) :
    ∀ row, db.work.lookup workId = some row → row.observationId ∉ deleted := by
  obtain ⟨-, present, -, live⟩ := lockOwnedWork_eq_ok locked
  intro row found
  rw [present] at found
  cases found
  refine history.spared present fun ended => ?_
  rw [ended.not_owned] at live
  cases live

theorem IsHistory.lockedKept (history : IsHistory db deleted) {work : OwnedWork}
    (locked : lockOwnedWork now db workId workerId = .ok work) :
    db.isGone deleted workId = false := by
  unfold Database.isGone
  cases present : db.work.lookup workId with
  | none => rfl
  | some row => exact decide_eq_false (history.lockedSpared locked row present)

/-- Completed work leaves the history alone. -/
theorem markWorkComplete_withoutHistory (history : IsHistory db deleted) {work : OwnedWork}
    (locked : lockOwnedWork now db workId workerId = .ok work) (at_ : Int) :
    markWorkComplete at_ (db.withoutHistory deleted events) workId =
      (markWorkComplete at_ db workId).withoutHistory deleted events :=
  Database.withoutHistory_modifyWork (fun _ => rfl) (history.lockedSpared locked)

theorem retryOrFailObservationWork_agrees {clamp : Int → Int} {errorCode : String}
    {retryAfter attemptBudget : Nat} (history : IsHistory db deleted) :
    Agrees (Answers deleted)
      (retryOrFailObservationWork clamp now db workId workerId errorCode retryAfter attemptBudget)
      (retryOrFailObservationWork clamp now (db.withoutHistory deleted events) workId workerId
        errorCode retryAfter attemptBudget) := by
  unfold retryOrFailObservationWork
  rw [lockOwnedWork_withoutHistory history]
  refine .same fun _ _ => .same fun _ _ => .same fun _ _ => .same fun _ _ =>
    .same fun retryMillis _ => .same fun work locked => ?_
  have released (permanentlyFailed : Bool) :=
    @Database.withoutHistory_modifyWork db deleted events workId
      (releaseRow now errorCode retryMillis permanentlyFailed) (fun _ => rfl)
      (history.lockedSpared locked)
  have recorded := congrArg (recordTerminalDiscoveryFailure clamp now · work errorCode)
    (released (decide (work.row.attempts ≥ attemptBudget)))
  exact .ite (fun _ => .ite (fun _ => .ok ⟨rfl, _, recorded⟩) fun _ => .ok ⟨rfl, events, released _⟩)
    fun _ => .ok ⟨rfl, events, released _⟩

theorem commitDiscoveryRejection_agrees {clamp : Int → Int} {rejection : DiscoveryRejection}
    (history : IsHistory db deleted) :
    Agrees (Answers deleted) (commitDiscoveryRejection clamp now db workId workerId rejection)
      (commitDiscoveryRejection clamp now (db.withoutHistory deleted events) workId workerId
        rejection) := by
  unfold commitDiscoveryRejection
  rw [lockOwnedWork_withoutHistory history]
  refine .same fun _ _ => .same fun _ _ => .same fun _ _ => .same fun _ _ => .same fun _ _ =>
    .same fun work locked => .same fun _ _ => .same fun _ _ => ?_
  have rejected := congrArg (fun completed : Database => Database.appendProjectionEvent
    { completed.updateProjection fun counters =>
        { counters with
          queuedFacts := clamp (counters.queuedFacts - 1)
          processingFailures := counters.processingFailures + 1 } with
      processingFailureSummaries := upsertSummary db.processingFailureSummaries
        rejection.reasonCode rejection.seenAtUnixMs }
    now fun sequence => .tokenRejected sequence workId rejection.mint rejection.reasonCode
      rejection.decisionSource rejection.decisionVersion)
    (@markWorkComplete_withoutHistory _ _ _ events _ _ history _ locked now)
  exact .ok ⟨rfl, _, rejected⟩

end Work

end Soldisco.Persistence

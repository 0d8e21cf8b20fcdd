import Soldisco.Construction.Persistence.System
import Soldisco.Library.Accumulation

/-
This file states what an accepted chain observation changes and how its work is queued.
-/

namespace Soldisco.Persistence
open Domain MachineInteger Accumulation

@[simp] theorem require_eq_ok {condition : Prop} [Decidable condition] {error : PersistenceError}
    {done : Unit} : require condition error = .ok done ↔ condition := by
  unfold require
  split
  · rename_i holds
    exact ⟨fun _ => holds, fun _ => rfl⟩
  · rename_i fails
    exact ⟨(fun impossible => by cases impossible), fun holds => absurd holds fails⟩

/-- A row is inserted under a key that is free. -/
theorem insertRow_eq_ok {Row : Type} {table next : Table Int Row} {id : Int} {row : Row} :
    insertRow table id row = .ok next ↔
      id ≤ i64Max ∧ table.lookup id = none ∧ next = table.insert id row := by
  unfold insertRow
  simp only [bind_eq_ok, require_eq_ok, exists_const]
  constructor
  · rintro ⟨bound, free, stored⟩
    cases stored
    exact ⟨bound, free, rfl⟩
  · rintro ⟨bound, free, rfl⟩
    exact ⟨bound, free, rfl⟩

/-- The three ways to store a chain observation: as a new row, as a replay with an earlier receipt
and as a replay that changes nothing. -/
inductive ObservationStored (now : Int) (db : Database) (observation : Observation) :
    ObservationInsert → Database → Prop
  | added (absent : db.findObservation observation.key = none)
      (free : db.observations.lookup db.nextObservationId = none) :
      ObservationStored now db observation { id := db.nextObservationId, isNew := true }
        (db.addObservation now observation)
  | lowered {id : Int} {row : ObservationRow}
      (found : db.findObservation observation.key = some (id, row))
      (compatible : compatibleReplay row.normalized observation = true)
      (earlier : observation.receivedTimeUnixMs < row.normalized.receivedTimeUnixMs)
      (opensNone : db.opensWindow id = false) :
      ObservationStored now db observation { id, isNew := false }
        (db.lowerReceipt id observation.receivedTimeUnixMs)
  | kept {id : Int} {row : ObservationRow}
      (found : db.findObservation observation.key = some (id, row))
      (compatible : compatibleReplay row.normalized observation = true)
      (stays : row.normalized.receivedTimeUnixMs ≤ observation.receivedTimeUnixMs ∨
        db.opensWindow id = true) :
      ObservationStored now db observation { id, isNew := false } db

theorem insertChainObservation_eq_ok {isBase64 : String → Bool} {now : Int} {db next : Database}
    {observation : Observation} {inserted : ObservationInsert}
    (accepted : insertChainObservation isBase64 now db observation = .ok (inserted, next)) :
    db.boundNetwork = some observation.key.network ∧
      observation.key.network = observation.market.network ∧
      ObservationStored now db observation inserted next := by
  unfold insertChainObservation at accepted
  simp only [bind_eq_ok, require_eq_ok, exists_const, Database.enforceBoundNetwork] at accepted
  obtain ⟨network, _, _, _, _, _, _, bound, _, branch⟩ := accepted
  refine ⟨bound, network, ?_⟩
  cases found : db.findObservation observation.key with
  | none =>
      rw [found] at branch
      simp only [bind_eq_ok, insertRow_eq_ok] at branch
      obtain ⟨_, ⟨-, free, -⟩, done⟩ := branch
      cases done
      exact .added found free
  | some entry =>
      obtain ⟨id, row⟩ := entry
      rw [found] at branch
      simp only [bind_eq_ok, require_eq_ok, exists_const] at branch
      obtain ⟨compatible, branch⟩ := branch
      split at branch
      · rename_i lowers
        cases branch
        exact .lowered found compatible lowers.1 lowers.2
      · rename_i stays
        cases branch
        refine .kept found compatible ?_
        rw [not_and_or, not_lt, Bool.not_eq_false] at stays
        exact stays

/-- A compatible replay has the evidence of the stored observation. -/
theorem compatibleReplay_market {stored incoming : Observation}
    (compatible : compatibleReplay stored incoming = true) :
    stored.market = incoming.market := by
  unfold compatibleReplay at compatible
  rw [Bool.and_eq_true, decide_eq_true_iff] at compatible
  have same := congrArg (fun observation : Observation => observation.market) compatible.2
  exact same.symm

theorem Database.findObservation_eq_some {db : Database} {key : ObservationKey} {id : Int}
    {row : ObservationRow} (found : db.findObservation key = some (id, row)) :
    db.observations.lookup id = some row ∧ sameIdentity row.normalized.key key = true :=
  Table.find_eq_some found

theorem Database.findObservation_eq_none {db : Database} {key : ObservationKey}
    (absent : db.findObservation key = none) {id : Int} {row : ObservationRow}
    (present : db.observations.lookup id = some row) :
    sameIdentity row.normalized.key key = false :=
  Table.find_eq_none.mp absent id row present

theorem Database.lookup_addObservation (db : Database) (now : Int) (observation : Observation)
    (id : Int) : (db.addObservation now observation).observations.lookup id =
      if id = db.nextObservationId then some { normalized := observation, firstSeenAt := now }
      else db.observations.lookup id := by
  unfold Database.addObservation
  dsimp only
  split
  · rename_i same
    rw [same, AList.lookup_insert]
  · rename_i other
    rw [AList.lookup_insert_ne other]

/-- A row with an earlier receipt. -/
def ObservationRow.receivedAt (row : ObservationRow) (receivedTimeUnixMs : Int) : ObservationRow :=
  { row with normalized := { row.normalized with receivedTimeUnixMs } }

theorem Database.lookup_lowerReceipt (db : Database) (observationId receivedTimeUnixMs id : Int) :
    (db.lowerReceipt observationId receivedTimeUnixMs).observations.lookup id =
      if id = observationId then
        (db.observations.lookup observationId).map (ObservationRow.receivedAt · receivedTimeUnixMs)
      else db.observations.lookup id :=
  Table.lookup_modify db.observations observationId id _

namespace ObservationStored

variable {now : Int} {db next : Database} {observation : Observation} {inserted : ObservationInsert}

/-- The tables of observations and memberships alone change. -/
theorem frame (stored : ObservationStored now db observation inserted next) :
    next = { db with
      observations := next.observations
      memberships := next.memberships
      nextObservationId := next.nextObservationId } := by
  cases stored <;> rfl

/-- The pairs of windows and observations stay. -/
theorem memberships (stored : ObservationStored now db observation inserted next) :
    next.memberships.map (fun member => (member.windowId, member.observationId)) =
      db.memberships.map fun member => (member.windowId, member.observationId) := by
  cases stored with
  | added | kept => rfl
  | lowered =>
      change List.map _ (List.map _ db.memberships) = _
      rw [List.map_map]
      apply List.map_congr_left
      intro member _
      simp only [Function.comp_apply]
      split <;> rfl

/-- The observation is stored with its own market and identity. -/
theorem lookup (stored : ObservationStored now db observation inserted next) :
    ∃ row, next.observations.lookup inserted.id = some row ∧
      row.normalized.market = observation.market ∧
      sameIdentity row.normalized.key observation.key = true := by
  cases stored with
  | added absent free =>
      refine ⟨{ normalized := observation, firstSeenAt := now }, ?_, rfl, ?_⟩
      · rw [Database.lookup_addObservation, if_pos rfl]
      · simp [sameIdentity]
  | @lowered id row found compatible =>
      obtain ⟨present, same⟩ := Database.findObservation_eq_some found
      have market := compatibleReplay_market compatible
      refine ⟨row.receivedAt observation.receivedTimeUnixMs, ?_, market, same⟩
      rw [Database.lookup_lowerReceipt, if_pos rfl, present]
      rfl
  | @kept id row found compatible =>
      obtain ⟨present, same⟩ := Database.findObservation_eq_some found
      exact ⟨row, present, compatibleReplay_market compatible, same⟩

end ObservationStored

/-- The row of new discovery work. -/
def pendingWork (now observationId : Int) : WorkRow where
  observationId
  workKind := "DISCOVERY"
  status := .pending
  attempts := 0
  availableAt := now
  claimedAt := none
  finishedAt := none
  lastErrorCode := none
  leaseOwner := none
  leaseExpiresAt := none

/-- The database after the work of a new observation is queued. -/
def Database.queueWork (db : Database) (now : Int) (mint : String) (observationId : Int) :
    Database :=
  (Database.updateProjection
    { db with
      work := db.work.insert db.nextWorkId (pendingWork now observationId)
      nextWorkId := db.nextWorkId + 1 }
    fun counters => { counters with queuedFacts := counters.queuedFacts + 1 }).appendProjectionEvent
      now fun sequence => .queuedFactsChanged sequence mint observationId

theorem enqueueDiscoveryWork_eq_ok {now : Int} {db next : Database} {observation : Observation}
    {observationId : Int}
    (accepted : enqueueDiscoveryWork now db observation observationId = .ok next) :
    db.work.lookup db.nextWorkId = none ∧
      (∀ id row, db.work.lookup id = some row → row.workKind = "DISCOVERY" →
        row.observationId ≠ observationId) ∧
      next = db.queueWork now observation.market.mint observationId := by
  unfold enqueueDiscoveryWork at accepted
  simp only [bind_eq_ok, require_eq_ok, exists_const, insertRow_eq_ok] at accepted
  obtain ⟨unqueued, work, ⟨-, free, rfl⟩, done⟩ := accepted
  cases done
  refine ⟨free, ?_, rfl⟩
  intro id row present kind same
  have queued : (db.work.any fun _ work =>
      work.observationId = observationId && work.workKind = "DISCOVERY") = true :=
    Table.any_iff.mpr ⟨id, row, present, by simp [kind, same]⟩
  rw [unqueued] at queued
  cases queued

/-- The work of an observation is queued when the observation is new. -/
inductive WorkQueued (now : Int) (db : Database) (observation : Observation) :
    ObservationInsert → Database → Prop
  | queued {observationId : Int} (free : db.work.lookup db.nextWorkId = none)
      (unqueued : ∀ id row, db.work.lookup id = some row → row.workKind = "DISCOVERY" →
        row.observationId ≠ observationId) :
      WorkQueued now db observation { id := observationId, isNew := true }
        (db.queueWork now observation.market.mint observationId)
  | replayed {id : Int} : WorkQueued now db observation { id, isNew := false } db

/-- Queued work changes its own table and the projection. -/
theorem WorkQueued.frame {now : Int} {db next : Database} {observation : Observation}
    {inserted : ObservationInsert} (queued : WorkQueued now db observation inserted next) :
    next = { db with
      work := next.work
      projection := next.projection
      projectionEvents := next.projectionEvents
      nextWorkId := next.nextWorkId } := by
  cases queued <;> rfl

theorem enqueueInserted_eq_ok {now : Int} {db next : Database} {observation : Observation}
    {inserted : ObservationInsert}
    (accepted : enqueueInserted now db observation inserted = .ok next) :
    WorkQueued now db observation inserted next := by
  unfold enqueueInserted at accepted
  obtain ⟨id, isNew⟩ := inserted
  cases isNew with
  | true =>
      obtain ⟨free, unqueued, rfl⟩ := enqueueDiscoveryWork_eq_ok accepted
      exact .queued free unqueued
  | false =>
      cases accepted
      exact .replayed

theorem insertObservation_eq_ok {isBase64 : String → Bool} {now : Int} {db next : Database}
    {observation : Observation} {isNew : Bool}
    (accepted : insertObservation isBase64 now db observation = .ok (isNew, next)) :
    db.boundNetwork = some observation.key.network ∧
      ∃ inserted stored, ObservationStored now db observation inserted stored ∧
        WorkQueued now stored observation inserted next := by
  unfold insertObservation at accepted
  simp only [bind_eq_ok] at accepted
  obtain ⟨⟨inserted, stored⟩, chain, queued, enqueued, done⟩ := accepted
  cases done
  obtain ⟨bound, -, storage⟩ := insertChainObservation_eq_ok chain
  exact ⟨bound, inserted, stored, storage, enqueueInserted_eq_ok enqueued⟩

end Soldisco.Persistence

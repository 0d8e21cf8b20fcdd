import Soldisco.Proof.Persistence.Activity
import Soldisco.Proof.Persistence.References

/-
This file states what a transaction does to leased work and who may give up a lease.
-/

namespace Soldisco.Persistence
open Domain MachineInteger Accumulation

/-- Work that is complete or failed has ended. -/
def WorkRow.hasEnded (row : WorkRow) : Prop :=
  row.status = .complete ∨ row.status = .failed

/-- The time, the work and the worker of a request that gives up a lease. -/
def DatabaseAction.surrenders : DatabaseAction → Option (Int × Int × String)
  | .commitDiscoveryObservation now workId workerId _ => some (now, workId, workerId)
  | .commitDiscoveryRejection now workId workerId _ => some (now, workId, workerId)
  | .retryOrFailObservationWork now workId workerId _ _ _ => some (now, workId, workerId)
  | _ => none

/-- What a transaction does to a row of work: it stays, is claimed, or its owner acts on it. -/
inductive WorkStep (id : Int) (row : WorkRow) : DatabaseAction → WorkRow → Prop
  | kept {action : DatabaseAction} : WorkStep id row action row
  | claimed {now : Int} {workKind workerId : String} {limit leaseDuration : Nat}
      {leaseMillis : Int} (claimable : isClaimable now workKind row = true) :
      WorkStep id row (.claimObservationWork now workKind workerId limit leaseDuration)
        (claimRow now workerId leaseMillis row)
  | renewed {now : Int} {workerId : String} {leaseDuration : Nat} {expiresAt : Int}
      (owned : isOwned now workerId row = true) :
      WorkStep id row (.renewObservationWorkLease now id workerId leaseDuration)
        { row with leaseExpiresAt := some expiresAt }
  | completed {action : DatabaseAction} {now : Int} {workerId : String}
      (request : action.surrenders = some (now, id, workerId))
      (owned : isOwned now workerId row = true) : WorkStep id row action (completeRow now row)
  | released {action : DatabaseAction} {now : Int} {workerId errorCode : String}
      {retryMillis : Int} {permanentlyFailed : Bool}
      (request : action.surrenders = some (now, id, workerId))
      (owned : isOwned now workerId row = true) :
      WorkStep id row action (releaseRow now errorCode retryMillis permanentlyFailed row)

namespace WorkStep

variable {id : Int} {row after : WorkRow} {action : DatabaseAction}

theorem origin (change : WorkStep id row action after) :
    after.observationId = row.observationId ∧ after.workKind = row.workKind := by
  cases change <;> exact ⟨rfl, rfl⟩

/-- Only pending and processing work changes. -/
theorem of_ended (change : WorkStep id row action after) (ended : row.hasEnded) : after = row := by
  have notProcessing : row.status ≠ .processing := by
    rcases ended with complete | failed
    · rw [complete]
      decide
    · rw [failed]
      decide
  cases change with
  | kept => rfl
  | claimed claimable =>
      rcases isClaimable_status claimable with pending | processing
      · rcases ended with complete | failed
        · rw [complete] at pending
          cases pending
        · rw [failed] at pending
          cases pending
      · exact absurd processing notProcessing
  | renewed owned => exact absurd (isOwned_status owned) notProcessing
  | completed _ owned => exact absurd (isOwned_status owned) notProcessing
  | released _ owned => exact absurd (isOwned_status owned) notProcessing

/-- Processing work is given up by the owner of a live lease. -/
theorem surrendered (change : WorkStep id row action after) (processing : row.status = .processing)
    (leaves : after.status ≠ .processing) :
    ∃ now workerId, action.surrenders = some (now, id, workerId) ∧
      isOwned now workerId row = true := by
  cases change with
  | kept => exact absurd processing leaves
  | claimed => exact absurd rfl leaves
  | renewed => exact absurd processing leaves
  | completed request owned => exact ⟨_, _, request, owned⟩
  | released request owned => exact ⟨_, _, request, owned⟩

end WorkStep

/-- Each row of work makes its step, and at most one row is queued for an observation without
discovery work. -/
structure WorkChange (db : Database) (action : DatabaseAction) (next : Database) : Prop where
  stepped : ∀ id row, db.work.lookup id = some row →
    ∃ after, next.work.lookup id = some after ∧ WorkStep id row action after
  queued : ∀ id after, next.work.lookup id = some after → db.work.lookup id = none →
    (∀ other row, db.work.lookup other = some row → row.workKind = "DISCOVERY" →
      row.observationId ≠ after.observationId) ∧
    ∀ other, db.work.lookup other = none → next.work.lookup other ≠ none → other = id

namespace WorkChange

variable {db next : Database} {action : DatabaseAction}

theorem of_same (same : next.work = db.work) : WorkChange db action next where
  stepped := by
    intro id row present
    rw [same]
    exact ⟨row, present, .kept⟩
  queued := by
    intro id after present absent
    rw [same, absent] at present
    cases present

/-- A change of one row is the step of that row. -/
theorem of_modify {workId : Int} {row : WorkRow} {change : WorkRow → WorkRow}
    (work : next.work = db.work.modify workId change)
    (present : db.work.lookup workId = some row)
    (made : WorkStep workId row action (change row)) : WorkChange db action next where
  stepped := by
    intro id old found
    rw [work, Table.lookup_modify]
    by_cases changed : id = workId
    · subst changed
      rw [found] at present
      cases present
      rw [if_pos rfl, found]
      exact ⟨_, rfl, made⟩
    · rw [if_neg changed]
      exact ⟨old, found, .kept⟩
  queued := by
    intro id after found absent
    rw [work, Table.lookup_modify] at found
    split at found
    · rename_i same
      rw [same, present] at absent
      cases absent
    · rw [absent] at found
      cases found

theorem of_queued {now : Int} {stored queued : Database} {observation : Observation}
    {inserted : ObservationInsert} (work : WorkQueued now stored observation inserted queued)
    (before : stored.work = db.work) (after : next.work = queued.work) :
    WorkChange db action next := by
  cases work with
  | @queued observationId free unqueued =>
      rw [before] at free unqueued
      have rows : ∀ id, next.work.lookup id = if id = stored.nextWorkId then
          some (pendingWork now observationId) else db.work.lookup id := by
        intro id
        rw [after]
        change AList.lookup id (stored.work.insert stored.nextWorkId _) = _
        rw [before]
        split
        · rename_i same
          rw [same, AList.lookup_insert]
        · rename_i other
          rw [AList.lookup_insert_ne other]
      have new : ∀ id, db.work.lookup id = none → next.work.lookup id ≠ none →
          id = stored.nextWorkId := by
        intro id absent present
        by_contra other
        rw [rows, if_neg other] at present
        exact present absent
      constructor
      · intro id row present
        have other : id ≠ stored.nextWorkId := by
          rintro rfl
          rw [free] at present
          cases present
        refine ⟨row, ?_, .kept⟩
        rw [rows, if_neg other, present]
      · intro id added present absent
        have same := new id absent (by rw [present]; simp)
        rw [rows, if_pos same] at present
        cases present
        refine ⟨unqueued, ?_⟩
        intro other free found
        rw [same]
        exact new other free found
  | replayed =>
      rw [before] at after
      exact .of_same after

theorem of_claimed {now : Int} {workKind workerId : String} {limit leaseDuration : Nat}
    {leaseMillis : Int} : WorkChange db
      (.claimObservationWork now workKind workerId limit leaseDuration)
      (db.claimWork now (claimableWork now db workKind limit) workerId leaseMillis) where
  stepped := by
    intro id row present
    change ∃ after, AList.lookup id (db.work.modifyAll _) = some after ∧ _
    rw [Table.lookup_modifyAll, present]
    refine ⟨_, rfl, ?_⟩
    split
    · rename_i claimed
      obtain ⟨found, stored, claimable⟩ := claimableWork_lookup claimed
      rw [present] at stored
      cases stored
      exact .claimed claimable
    · exact .kept
  queued := by
    intro id after present absent
    change AList.lookup id (db.work.modifyAll _) = some after at present
    rw [Table.lookup_modifyAll, absent] at present
    cases present

end WorkChange

theorem renewObservationWorkLease_owned {now : Int} {db next : Database} {workId : Int}
    {workerId : String} {leaseDuration : Nat} {expiresAt : Int}
    (accepted : renewObservationWorkLease now db workId workerId leaseDuration =
      .ok (expiresAt, next)) :
    ∃ row, db.work.lookup workId = some row ∧ isOwned now workerId row = true := by
  unfold renewObservationWorkLease at accepted
  simp only [bind_eq_ok, require_eq_ok, exists_const] at accepted
  obtain ⟨_, _, _, _, owned, _⟩ := accepted
  exact (Option.any_eq_true _ _).mp owned

theorem Transacted.workChange {isBase64 : String → Bool} {clamp : Int → Int} {db next : Database}
    {action : DatabaseAction} (committed : Transacted isBase64 clamp db action next)
    (consistent : TokensConsistent db) (keeps : action.prunes = false) :
    WorkChange db action next := by
  cases committed with
  | bound | boundBefore | addedRevision | skippedSequences => exact .of_same rfl
  | insertedObservation accepted =>
      obtain ⟨-, inserted, stored, storage, work⟩ := insertObservation_eq_ok accepted
      exact .of_queued work (by rw [storage.frame]) rfl
  | openedWindow accepted =>
      rcases openDiscoveryWindow_eq_ok accepted with
        ⟨-, rfl⟩ | ⟨-, -, -, -, -, -, inserted, stored, queued, prefilterRevision, qualificationRevision,
          storage, work, -, rfl⟩
      · exact .of_same rfl
      · refine .of_queued work (by rw [storage.frame]) ?_
        unfold Database.openWindow
        rw [Database.insertMembership_frame]
        rfl
  | insertedMember accepted =>
      obtain ⟨-, window, inserted, stored, -, storage, branch⟩ :=
        insertWindowObservation_eq_ok accepted
      rcases branch with ⟨-, rfl⟩ | ⟨row, queued, -, -, work, rfl⟩
      · exact .of_same (by rw [storage.frame])
      · exact .of_queued work (by rw [storage.frame]) (by rw [Database.insertMembership_frame])
  | claimedWork accepted =>
      obtain ⟨leaseMillis, rfl⟩ := claimObservationWork_eq_ok accepted
      exact .of_claimed
  | renewedLease accepted =>
      obtain ⟨row, present, owned⟩ := renewObservationWorkLease_owned accepted
      rw [renewObservationWorkLease_eq_ok accepted]
      exact .of_modify rfl present (.renewed owned)
  | committedObservation accepted =>
      obtain ⟨-, -, work, recorded, projected, tokens, activity, traders, owned, -, -, -, -, -, rfl⟩ :=
        commitDiscoveryObservation_eq_ok consistent accepted
      obtain ⟨-, present, -, live⟩ := lockOwnedWork_eq_ok owned
      exact .of_modify rfl present (.completed rfl live)
  | committedApproval accepted =>
      obtain ⟨-, -, row, observedSlot, -, -, -, -, rfl⟩ := commitDiscoveryApproval_eq_ok accepted
      exact .of_same rfl
  | committedRejection accepted =>
      obtain ⟨work, owned, -, rfl⟩ := commitDiscoveryRejection_eq_ok accepted
      obtain ⟨-, present, -, live⟩ := lockOwnedWork_eq_ok owned
      exact .of_modify rfl present (.completed rfl live)
  | releasedWork accepted =>
      obtain ⟨work, retryMillis, owned, branch⟩ := retryOrFailObservationWork_eq_ok accepted
      obtain ⟨-, present, -, live⟩ := lockOwnedWork_eq_ok owned
      rcases branch with ⟨-, -, rfl⟩ | ⟨-, -, -, rfl⟩ | ⟨-, -, -, rfl⟩ <;>
        exact .of_modify rfl present (.released rfl live)
  | finalizedWindow accepted =>
      obtain ⟨-, work, -⟩ := finalizeDiscoveryWindow_frame accepted
      exact .of_same work
  | prunedHistory => cases keeps
  | rebuiltProjection accepted =>
      unfold rebuildDiscoveryProjection at accepted
      simp only [bind_eq_ok] at accepted
      obtain ⟨_, _, done⟩ := accepted
      cases done
      exact .of_same rfl

end Soldisco.Persistence

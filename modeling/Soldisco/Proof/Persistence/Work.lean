import Soldisco.Proof.Persistence.Observations

/-
This file states what the leases of work, its failures and the pruning of history change.
-/

namespace Soldisco.Persistence
open Domain MachineInteger Accumulation

theorem lockOwnedWork_eq_ok {now : Int} {db : Database} {workId : Int} {workerId : String}
    {work : OwnedWork} (owned : lockOwnedWork now db workId workerId = .ok work) :
    work.workId = workId ∧ db.work.lookup workId = some work.row ∧
      (∃ row, db.observations.lookup work.row.observationId = some row ∧
        work.observation = row.normalized) ∧
      isOwned now workerId work.row = true := by
  unfold lockOwnedWork at owned
  split at owned
  · rename_i row present
    split at owned
    · rename_i observation stored
      split at owned
      · rename_i live
        cases owned
        exact ⟨rfl, present, ⟨observation, stored, rfl⟩, live⟩
      · cases owned
    · cases owned
  · cases owned

theorem isOwned_status {now : Int} {workerId : String} {row : WorkRow}
    (owned : isOwned now workerId row = true) : row.status = .processing := by
  unfold isOwned at owned
  simp only [Bool.and_eq_true, decide_eq_true_iff] at owned
  exact owned.1.1

theorem isClaimable_status {now : Int} {workKind : String} {row : WorkRow}
    (claimable : isClaimable now workKind row = true) :
    row.status = .pending ∨ row.status = .processing := by
  unfold isClaimable at claimable
  simp only [Bool.and_eq_true, Bool.or_eq_true, decide_eq_true_iff] at claimable
  exact claimable.2.imp And.left And.left

theorem claimableWork_lookup {now : Int} {db : Database} {workKind : String} {limit : Nat}
    {id : Int} (claimed : id ∈ claimableWork now db workKind limit) :
    ∃ row, db.work.lookup id = some row ∧ isClaimable now workKind row = true := by
  unfold claimableWork at claimed
  obtain ⟨entry, taken, rfl⟩ := List.mem_map.mp claimed
  have sorted := List.mem_of_mem_take taken
  rw [List.mem_insertionSort, List.mem_filter] at sorted
  exact ⟨entry.2, AList.mem_lookup_iff.mpr sorted.1, sorted.2⟩

/-- The database after a batch of work is claimed. -/
def Database.claimWork (db : Database) (now : Int) (claimed : List Int) (workerId : String)
    (leaseMillis : Int) : Database :=
  { db with work := db.work.modifyAll fun id row =>
      if id ∈ claimed then claimRow now workerId leaseMillis row else row }

theorem claimObservationWork_eq_ok {now : Int} {db next : Database} {workKind workerId : String}
    {limit leaseDuration : Nat} {rows : List ClaimedObservationWork}
    (accepted : claimObservationWork now db workKind workerId limit leaseDuration =
      .ok (rows, next)) :
    ∃ leaseMillis, next =
      db.claimWork now (claimableWork now db workKind limit) workerId leaseMillis := by
  unfold claimObservationWork at accepted
  simp only [bind_eq_ok] at accepted
  obtain ⟨_, _, _, _, _, _, _, _, leaseMillis, _, done⟩ := accepted
  cases done
  exact ⟨leaseMillis, rfl⟩

theorem renewObservationWorkLease_eq_ok {now : Int} {db next : Database} {workId : Int}
    {workerId : String} {leaseDuration : Nat} {expiresAt : Int}
    (accepted : renewObservationWorkLease now db workId workerId leaseDuration =
      .ok (expiresAt, next)) :
    next = { db with work := db.work.modify workId fun row =>
      { row with leaseExpiresAt := some expiresAt } } := by
  unfold renewObservationWorkLease at accepted
  simp only [bind_eq_ok] at accepted
  obtain ⟨_, _, _, _, _, _, done⟩ := accepted
  cases done
  rfl

/-- Released work waits for a retry or has failed; failed discovery work is recorded. -/
theorem retryOrFailObservationWork_eq_ok {clamp : Int → Int} {now : Int} {db next : Database}
    {workId : Int} {workerId errorCode : String} {retryAfter attemptBudget : Nat}
    {disposition : WorkFailureDisposition}
    (accepted : retryOrFailObservationWork clamp now db workId workerId errorCode retryAfter
      attemptBudget = .ok (disposition, next)) :
    ∃ work retryMillis, lockOwnedWork now db workId workerId = .ok work ∧
      ((work.row.attempts < attemptBudget ∧ disposition = .retryScheduled ∧
          next = { db with
            work := db.work.modify workId (releaseRow now errorCode retryMillis false) }) ∨
        (attemptBudget ≤ work.row.attempts ∧ disposition = .permanentlyFailed ∧
          work.row.workKind = "DISCOVERY" ∧
          next = recordTerminalDiscoveryFailure clamp now
            { db with work := db.work.modify workId (releaseRow now errorCode retryMillis true) }
            work errorCode) ∨
        (attemptBudget ≤ work.row.attempts ∧ disposition = .permanentlyFailed ∧
          work.row.workKind ≠ "DISCOVERY" ∧
          next = { db with
            work := db.work.modify workId (releaseRow now errorCode retryMillis true) })) := by
  unfold retryOrFailObservationWork at accepted
  simp only [bind_eq_ok] at accepted
  obtain ⟨_, _, _, _, _, _, _, _, retryMillis, _, work, owned, branch⟩ := accepted
  refine ⟨work, retryMillis, owned, ?_⟩
  by_cases spent : attemptBudget ≤ work.row.attempts
  · rw [if_pos (decide_eq_true spent), decide_eq_true spent] at branch
    split at branch
    · rename_i discovery
      cases branch
      exact .inr (.inl ⟨spent, rfl, discovery, rfl⟩)
    · rename_i other
      cases branch
      exact .inr (.inr ⟨spent, rfl, other, rfl⟩)
  · rw [if_neg (by simpa using spent), decide_eq_false spent] at branch
    cases branch
    exact .inl ⟨not_le.mp spent, rfl, rfl⟩

theorem pruneRetainedHistory_eq_ok {db next : Database} {policy : RetentionPolicy}
    {result : RetentionPruneResult}
    (accepted : pruneRetainedHistory db policy = .ok (result, next)) :
    ∃ events, next =
      { deleteObservations db (pruneCandidates db policy) with projectionEvents := events } := by
  unfold pruneRetainedHistory at accepted
  simp only [bind_eq_ok] at accepted
  obtain ⟨_, _, _, _, done⟩ := accepted
  cases done
  exact ⟨_, rfl⟩

/-- A pruned observation is outside of every active window and all of its work has ended. -/
theorem pruneCandidates_selected {db : Database} {policy : RetentionPolicy} {observationId : Int}
    (pruned : observationId ∈ pruneCandidates db policy) :
    hasTerminalWork db policy.terminalHistoryBeforeUnixMs observationId = true ∧
      isActiveMember db observationId = false := by
  unfold pruneCandidates at pruned
  obtain ⟨entry, taken, rfl⟩ := List.mem_map.mp pruned
  have sorted := List.mem_of_mem_take taken
  rw [List.mem_insertionSort, List.mem_filter] at sorted
  simp only [Bool.and_eq_true, Bool.not_eq_true'] at sorted
  exact ⟨sorted.2.1.2, sorted.2.2⟩

theorem hasTerminalWork_status {db : Database} {before observationId : Int}
    (terminal : hasTerminalWork db before observationId = true) {id : Int} {row : WorkRow}
    (present : db.work.lookup id = some row) (source : row.observationId = observationId) :
    row.status = .complete ∨ row.status = .failed := by
  unfold hasTerminalWork at terminal
  rw [Bool.and_eq_true, Bool.not_eq_true'] at terminal
  by_contra running
  rw [not_or] at running
  have found : (db.work.any fun _ work => work.observationId = observationId &&
      (work.status ≠ .complete && work.status ≠ .failed ||
        !work.finishedAt.any (· < before))) = true :=
    Table.any_iff.mpr ⟨id, row, present, by simp [source, running.1, running.2]⟩
  rw [terminal.2] at found
  cases found

end Soldisco.Persistence

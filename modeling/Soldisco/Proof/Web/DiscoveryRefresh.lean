import Soldisco.Construction.Web.DiscoveryRefresh

/-
This file proves that the refresh coordinator reads one snapshot at a time and answers every call
outside the gap between the end of a run and the callback that clears its marker.
-/

namespace Soldisco.Web

def Microtask.isResume : Microtask → Bool
  | .resume _ => true
  | _ => false

def Microtask.isClear : Microtask → Bool
  | .clearInFlight => true
  | _ => false

/-- The code calls `refresh` before it returns. -/
def PageCode.refreshes : PageCode → Bool
  | .done => false
  | .refresh _ _ => true
  | .dispose rest => rest.refreshes
  | .queueMicrotask _ rest => rest.refreshes

namespace RefreshCoordinator

def resumes (coordinator : RefreshCoordinator) : Nat :=
  coordinator.microtasks.countP (·.isResume)

def clears (coordinator : RefreshCoordinator) : Nat :=
  coordinator.microtasks.countP (·.isClear)

/-- The promises of reads that have not settled and the settled ones that no run has consumed. -/
def readsInFlight (coordinator : RefreshCoordinator) : Nat :=
  coordinator.unsettled + coordinator.resumes

/-- A microtask of the page calls `refresh` after a run has ended and before its marker is cleared. -/
def refreshesInGap (coordinator : RefreshCoordinator) : Action → Bool
  | .microtask _ _ _ =>
      match coordinator.microtasks with
      | .page code :: _ => code.refreshes && coordinator.clears ≠ 0
      | _ => false
  | _ => false

/-- No microtask is pending and no read is in flight. -/
def IsQuiet (coordinator : RefreshCoordinator) : Prop :=
  coordinator.microtasks = [] ∧ coordinator.unsettled = 0

/-- Each call is followed by a read. -/
def IsAnswered (coordinator : RefreshCoordinator) : Prop :=
  ∀ call ∈ coordinator.calls, call < coordinator.reads

/-- The marker is set for one read, its continuation, the callback that clears the marker or the
running body of the loop. -/
structure SingleFlight (running : Nat) (coordinator : RefreshCoordinator) : Prop where
  active : coordinator.unsettled + coordinator.resumes + coordinator.clears + running =
    coordinator.inFlight.toNat
  past : ∀ call ∈ coordinator.calls, call ≤ coordinator.reads
  ordered : coordinator.accepted.Pairwise (· ≤ ·)
  highest : ∀ sequence ∈ coordinator.accepted,
    (sequence : Int) ≤ coordinator.highestAcceptedSequence

/-- A call that no read has answered is queued at a run that has yet to read the flag. -/
def IsHeard (coordinator : RefreshCoordinator) : Prop :=
  coordinator.disposed = true ∨ ∀ call ∈ coordinator.calls, call < coordinator.reads ∨
    (coordinator.queued = true ∧ coordinator.clears = 0 ∧ coordinator.inFlight = true)

theorem clears_startRead (coordinator : RefreshCoordinator) (settled : Option ReadResult) :
    (coordinator.startRead settled).clears = coordinator.clears := by
  cases settled with
  | none => rfl
  | some result => exact List.countP_append

theorem clears_refresh (coordinator : RefreshCoordinator) (settled : Option ReadResult) :
    (coordinator.refresh settled).clears = coordinator.clears := by
  unfold refresh
  dsimp only
  split
  · rfl
  · exact clears_startRead _ settled

/-- Nothing clears the marker while the body of the loop runs. -/
theorem SingleFlight.no_clears {coordinator : RefreshCoordinator}
    (flight : SingleFlight 1 coordinator) : coordinator.clears = 0 := by
  have active := flight.active
  have bounded := Bool.toNat_le coordinator.inFlight
  omega

theorem SingleFlight.inFlight {coordinator : RefreshCoordinator}
    (flight : SingleFlight 1 coordinator) : coordinator.inFlight = true := by
  have active := flight.active
  cases marker : coordinator.inFlight with
  | true => rfl
  | false =>
      rw [marker, Bool.toNat_false] at active
      omega

namespace SingleFlight

variable {running : Nat} {coordinator : RefreshCoordinator}

/-- A started read takes the place of the running body. -/
theorem startRead (flight : SingleFlight 1 coordinator) (settled : Option ReadResult) :
    SingleFlight 0 (coordinator.startRead settled) := by
  have active := flight.active
  have past : ∀ call ∈ coordinator.calls, call ≤ coordinator.reads + 1 :=
    fun call member => Nat.le_succ_of_le (flight.past call member)
  cases settled with
  | none =>
      refine ⟨?_, past, flight.ordered, flight.highest⟩
      change coordinator.unsettled + 1 + coordinator.resumes + coordinator.clears + 0 = _
      change _ = coordinator.inFlight.toNat
      omega
  | some result =>
      refine ⟨?_, past, flight.ordered, flight.highest⟩
      have resumes : (coordinator.startRead (some result)).resumes = coordinator.resumes + 1 :=
        List.countP_append
      rw [resumes, clears_startRead]
      change coordinator.unsettled + _ + _ + 0 = coordinator.inFlight.toNat
      omega

theorem refresh (flight : SingleFlight running coordinator) (settled : Option ReadResult) :
    SingleFlight running (coordinator.refresh settled) := by
  have active := flight.active
  have past : ∀ call ∈ coordinator.calls ++ [coordinator.reads], call ≤ coordinator.reads := by
    intro call member
    rcases List.mem_append.mp member with earlier | now
    · exact flight.past call earlier
    · exact Nat.le_of_eq (List.mem_singleton.mp now)
  unfold RefreshCoordinator.refresh
  dsimp only
  split
  · exact ⟨active, past, flight.ordered, flight.highest⟩
  · rename_i idle
    rw [Bool.not_eq_true] at idle
    rw [idle, Bool.toNat_false] at active
    have none : running = 0 := by omega
    subst none
    have started : SingleFlight 1 { coordinator with
        calls := coordinator.calls ++ [coordinator.reads]
        inFlight := true
        latestSnapshot := none
        latestError := false } := by
      refine ⟨?_, past, flight.ordered, flight.highest⟩
      change coordinator.unsettled + coordinator.resumes + coordinator.clears + 1 = 1
      omega
    exact started.startRead settled

theorem execute (flight : SingleFlight running coordinator) (code : PageCode) :
    SingleFlight running (coordinator.execute code) := by
  induction code generalizing coordinator with
  | done => exact flight
  | refresh settled rest ih => exact ih (flight.refresh settled)
  | dispose rest ih => exact ih ⟨flight.active, flight.past, flight.ordered, flight.highest⟩
  | queueMicrotask code rest _ ih =>
      refine ih ⟨?_, flight.past, flight.ordered, flight.highest⟩
      refine Eq.trans ?_ flight.active
      unfold resumes clears
      dsimp only
      rw [List.countP_append, List.countP_append]
      rfl

/-- An accepted sequence is at least as high as the ones before it. -/
theorem accept (flight : SingleFlight running coordinator) (sequence : Nat) (accepts : PageCode)
    (throws : Bool) : SingleFlight running (coordinator.accept sequence accepts throws) := by
  unfold RefreshCoordinator.accept
  dsimp only
  split
  · rename_i fresh
    rw [Bool.and_eq_true, decide_eq_true_iff] at fresh
    have ordered : (coordinator.accepted ++ [sequence]).Pairwise (· ≤ ·) := by
      refine List.pairwise_append.mpr ⟨flight.ordered, List.pairwise_singleton _ _, ?_⟩
      intro earlier member other now
      rw [List.mem_singleton.mp now]
      have bound := flight.highest earlier member
      omega
    have highest : ∀ other ∈ coordinator.accepted ++ [sequence],
        (other : Int) ≤ (sequence : Int) := by
      intro other member
      rcases List.mem_append.mp member with earlier | now
      · exact le_trans (flight.highest other earlier) fresh.2
      · rw [List.mem_singleton.mp now]
    have accepted : SingleFlight running { coordinator with
        highestAcceptedSequence := sequence
        accepted := coordinator.accepted ++ [sequence] } :=
      ⟨flight.active, flight.past, ordered, highest⟩
    have executed := accepted.execute accepts
    exact ⟨executed.active, executed.past, executed.ordered, executed.highest⟩
  · exact flight

/-- The body ends with the next read or with the callback. -/
theorem finish (flight : SingleFlight 1 coordinator) (settled : Option ReadResult) :
    SingleFlight 0 (if coordinator.queued && !coordinator.disposed then
        coordinator.startRead settled
      else { coordinator with
        results := coordinator.results ++ [coordinator.runResult]
        microtasks := coordinator.microtasks ++ [.clearInFlight] }) := by
  split
  · exact flight.startRead settled
  · refine ⟨?_, flight.past, flight.ordered, flight.highest⟩
    refine Eq.trans ?_ flight.active
    unfold resumes clears
    dsimp only
    rw [List.countP_append, List.countP_append]
    change _ + (_ + 0) + (_ + 1) + 0 = _
    omega

theorem resume (flight : SingleFlight 1 coordinator) (result : ReadResult) (accepts : PageCode)
    (throws : Bool) (settled : Option ReadResult) :
    SingleFlight 0 (coordinator.resume result accepts throws settled) := by
  cases result with
  | resolved sequence =>
      have snapshot : SingleFlight 1 { coordinator with
          latestSnapshot := some sequence
          latestError := false } :=
        ⟨flight.active, flight.past, flight.ordered, flight.highest⟩
      exact (snapshot.accept sequence accepts throws).finish settled
  | rejected =>
      have failed : SingleFlight 1 { coordinator with latestError := true } :=
        ⟨flight.active, flight.past, flight.ordered, flight.highest⟩
      exact failed.finish settled

theorem runMicrotask (flight : SingleFlight 0 coordinator) (accepts : PageCode) (throws : Bool)
    (settled : Option ReadResult) :
    SingleFlight 0 (coordinator.runMicrotask accepts throws settled) := by
  have active := flight.active
  unfold resumes clears at active
  unfold RefreshCoordinator.runMicrotask
  split
  · exact flight
  · rename_i result rest queue
    rw [queue, List.countP_cons_of_pos rfl, List.countP_cons_of_neg Bool.false_ne_true] at active
    have popped : SingleFlight 1 { coordinator with microtasks := rest } := by
      refine ⟨?_, flight.past, flight.ordered, flight.highest⟩
      unfold resumes clears
      dsimp only
      omega
    exact popped.resume result accepts throws settled
  · rename_i rest queue
    rw [queue, List.countP_cons_of_neg Bool.false_ne_true, List.countP_cons_of_pos rfl] at active
    refine ⟨?_, flight.past, flight.ordered, flight.highest⟩
    have bounded := Bool.toNat_le coordinator.inFlight
    change coordinator.unsettled + rest.countP _ + rest.countP _ + 0 = 0
    omega
  · rename_i code rest queue
    rw [queue, List.countP_cons_of_neg Bool.false_ne_true,
      List.countP_cons_of_neg Bool.false_ne_true] at active
    have popped : SingleFlight 0 { coordinator with microtasks := rest } :=
      ⟨active, flight.past, flight.ordered, flight.highest⟩
    exact popped.execute code

theorem settle (flight : SingleFlight 0 coordinator) (result : ReadResult) :
    SingleFlight 0 (coordinator.settle result) := by
  unfold RefreshCoordinator.settle
  split
  · exact flight
  · refine ⟨?_, flight.past, flight.ordered, flight.highest⟩
    refine Eq.trans ?_ flight.active
    unfold resumes clears
    dsimp only
    rw [List.countP_append, List.countP_append]
    change coordinator.unsettled - 1 + (_ + 1) + (_ + 0) + 0 = _
    omega

theorem step (flight : SingleFlight 0 coordinator) (action : Action) :
    SingleFlight 0 (coordinator.step action).2 := by
  cases action with
  | task code =>
      dsimp only [RefreshCoordinator.step]
      split
      · exact flight.execute code
      · exact flight
  | settle result => exact flight.settle result
  | microtask accepts throws settled => exact flight.runMicrotask accepts throws settled

theorem create : SingleFlight 0 .create where
  active := rfl
  past := fun call member => by cases member
  ordered := List.Pairwise.nil
  highest := fun sequence member => by cases member

end SingleFlight

namespace IsHeard

variable {running : Nat} {coordinator : RefreshCoordinator}

theorem startRead (flight : SingleFlight 1 coordinator) (settled : Option ReadResult) :
    IsHeard (coordinator.startRead settled) := by
  have past : ∀ call ∈ coordinator.calls, call < coordinator.reads + 1 :=
    fun call member => Nat.lt_succ_of_le (flight.past call member)
  cases settled with
  | none => exact .inr fun call member => .inl (past call member)
  | some result => exact .inr fun call member => .inl (past call member)

/-- A call outside the gap is answered by its own read or queued at the run. -/
theorem refresh (heard : IsHeard coordinator) (flight : SingleFlight running coordinator)
    (settled : Option ReadResult) (outside : coordinator.clears = 0) :
    IsHeard (coordinator.refresh settled) := by
  unfold RefreshCoordinator.refresh
  dsimp only
  split
  · rename_i busy
    refine heard.imp_right fun answered call member => ?_
    rcases List.mem_append.mp member with earlier | now
    · exact (answered call earlier).imp_right fun _ => ⟨rfl, outside, busy⟩
    · exact .inr ⟨rfl, outside, busy⟩
  · have past : ∀ call ∈ coordinator.calls ++ [coordinator.reads], call < coordinator.reads + 1 := by
      intro call member
      rcases List.mem_append.mp member with earlier | now
      · exact Nat.lt_succ_of_le (flight.past call earlier)
      · exact Nat.lt_succ_of_le (Nat.le_of_eq (List.mem_singleton.mp now))
    cases settled with
    | none => exact .inr fun call member => .inl (past call member)
    | some result => exact .inr fun call member => .inl (past call member)

theorem execute (heard : IsHeard coordinator) (flight : SingleFlight running coordinator)
    (code : PageCode) (outside : code.refreshes = true → coordinator.clears = 0) :
    IsHeard (coordinator.execute code) := by
  induction code generalizing coordinator with
  | done => exact heard
  | refresh settled rest ih =>
      have none := outside rfl
      refine ih (heard.refresh flight settled none) (flight.refresh settled) fun _ => ?_
      rw [clears_refresh, none]
  | dispose rest ih =>
      refine ih (.inl rfl) ?_ outside
      exact ⟨flight.active, flight.past, flight.ordered, flight.highest⟩
  | queueMicrotask code rest _ ih =>
      have same : ({ coordinator with
          microtasks := coordinator.microtasks ++ [Microtask.page code] } :
          RefreshCoordinator).clears = coordinator.clears := List.countP_append
      refine ih ?_ (flight.execute (.queueMicrotask code .done)) fun refreshes => ?_
      · unfold IsHeard
        rw [same]
        exact heard
      · exact same.trans (outside refreshes)

theorem accept (heard : IsHeard coordinator) (flight : SingleFlight 1 coordinator)
    (sequence : Nat) (accepts : PageCode) (throws : Bool) :
    IsHeard (coordinator.accept sequence accepts throws) := by
  have accepted := flight.accept sequence .done throws
  unfold RefreshCoordinator.accept at accepted ⊢
  dsimp only at accepted ⊢
  split
  · rename_i fresh
    rw [if_pos fresh] at accepted
    have present : SingleFlight 1 { coordinator with
        highestAcceptedSequence := sequence
        accepted := coordinator.accepted ++ [sequence] } :=
      ⟨accepted.active, accepted.past, accepted.ordered, accepted.highest⟩
    have same : IsHeard { coordinator with
        highestAcceptedSequence := sequence
        accepted := coordinator.accepted ++ [sequence] } := heard
    exact same.execute present accepts fun _ => flight.no_clears
  · exact heard

/-- A run that ends has answered all calls before it ends. -/
theorem finish (heard : IsHeard coordinator) (flight : SingleFlight 1 coordinator)
    (settled : Option ReadResult) :
    IsHeard (if coordinator.queued && !coordinator.disposed then coordinator.startRead settled
      else { coordinator with
        results := coordinator.results ++ [coordinator.runResult]
        microtasks := coordinator.microtasks ++ [.clearInFlight] }) := by
  split
  · exact startRead flight settled
  · rename_i ends
    rcases heard with disposed | answered
    · exact .inl disposed
    · by_cases disposed : coordinator.disposed = true
      · exact .inl disposed
      · rw [Bool.not_eq_true] at disposed
        refine .inr fun call member => .inl ((answered call member).resolve_right ?_)
        rintro ⟨queued, -, -⟩
        rw [queued, disposed] at ends
        exact ends rfl

theorem resume (heard : IsHeard coordinator) (flight : SingleFlight 1 coordinator)
    (result : ReadResult) (accepts : PageCode) (throws : Bool) (settled : Option ReadResult) :
    IsHeard (coordinator.resume result accepts throws settled) := by
  cases result with
  | resolved sequence =>
      have snapshot : SingleFlight 1 { coordinator with
          latestSnapshot := some sequence
          latestError := false } :=
        ⟨flight.active, flight.past, flight.ordered, flight.highest⟩
      have same : IsHeard { coordinator with
          latestSnapshot := some sequence
          latestError := false } := heard
      exact (same.accept snapshot sequence accepts throws).finish
        (snapshot.accept sequence accepts throws) settled
  | rejected =>
      have failed : SingleFlight 1 { coordinator with latestError := true } :=
        ⟨flight.active, flight.past, flight.ordered, flight.highest⟩
      have same : IsHeard { coordinator with latestError := true } := heard
      exact same.finish failed settled

theorem runMicrotask (heard : IsHeard coordinator) (flight : SingleFlight 0 coordinator)
    (accepts : PageCode) (throws : Bool) (settled : Option ReadResult)
    (outside : coordinator.refreshesInGap (.microtask accepts throws settled) = false) :
    IsHeard (coordinator.runMicrotask accepts throws settled) := by
  have popped := flight.runMicrotask accepts throws settled
  have active := flight.active
  dsimp only [refreshesInGap] at outside
  unfold resumes clears at active
  unfold RefreshCoordinator.runMicrotask at popped ⊢
  split
  · exact heard
  · rename_i result rest queue
    have clears : coordinator.clears = rest.countP (·.isClear) := by
      unfold RefreshCoordinator.clears
      rw [queue, List.countP_cons_of_neg Bool.false_ne_true]
    rw [queue, List.countP_cons_of_pos rfl, List.countP_cons_of_neg Bool.false_ne_true] at active
    have body : SingleFlight 1 { coordinator with microtasks := rest } := by
      refine ⟨?_, flight.past, flight.ordered, flight.highest⟩
      unfold resumes RefreshCoordinator.clears
      dsimp only
      omega
    have same : IsHeard { coordinator with microtasks := rest } := by
      unfold IsHeard at heard
      rw [clears] at heard
      exact heard
    exact same.resume body result accepts throws settled
  · rename_i rest queue
    refine heard.imp_right fun answered call member => .inl ?_
    refine (answered call member).resolve_right ?_
    rintro ⟨-, none, -⟩
    unfold RefreshCoordinator.clears at none
    rw [queue, List.countP_cons_of_pos rfl] at none
    cases none
  · rename_i code rest queue
    have clears : coordinator.clears = rest.countP (·.isClear) := by
      unfold RefreshCoordinator.clears
      rw [queue, List.countP_cons_of_neg Bool.false_ne_true]
    rw [queue, List.countP_cons_of_neg Bool.false_ne_true,
      List.countP_cons_of_neg Bool.false_ne_true] at active
    rw [queue] at outside
    have body : SingleFlight 0 { coordinator with microtasks := rest } :=
      ⟨active, flight.past, flight.ordered, flight.highest⟩
    have same : IsHeard { coordinator with microtasks := rest } := by
      unfold IsHeard at heard
      rw [clears] at heard
      exact heard
    refine same.execute body code fun refreshes => ?_
    dsimp only at outside
    rw [refreshes, Bool.true_and, decide_eq_false_iff_not, not_not] at outside
    exact clears.symm.trans outside

theorem settle (heard : IsHeard coordinator) (result : ReadResult) :
    IsHeard (coordinator.settle result) := by
  unfold RefreshCoordinator.settle
  split
  · exact heard
  · have same : ({ coordinator with
        unsettled := coordinator.unsettled - 1
        microtasks := coordinator.microtasks ++ [.resume result] } :
        RefreshCoordinator).clears = coordinator.clears := List.countP_append
    unfold IsHeard
    rw [same]
    exact heard

theorem step (heard : IsHeard coordinator) (flight : SingleFlight 0 coordinator) {action : Action}
    (outside : coordinator.refreshesInGap action = false) :
    IsHeard (coordinator.step action).2 := by
  cases action with
  | task code =>
      dsimp only [RefreshCoordinator.step]
      split
      · rename_i empty
        refine heard.execute flight code fun _ => ?_
        unfold clears
        rw [empty]
        rfl
      · exact heard
  | settle result => exact heard.settle result
  | microtask accepts throws settled =>
      exact heard.runMicrotask flight accepts throws settled outside

end IsHeard

/-- Every run reads one snapshot at a time and accepts sequences that do not decrease; a run without a
call in the gap answers every call once it is quiet. -/
theorem refresh_answered (actions : List Action) :
    let coordinator := Transition.run step create actions
    coordinator.readsInFlight ≤ 1 ∧ coordinator.accepted.Pairwise (· ≤ ·) ∧
    (Transition.Along step (fun coordinator action => coordinator.refreshesInGap action = false)
        create actions →
      coordinator.disposed = false → coordinator.IsQuiet → coordinator.IsAnswered) := by
  intro coordinator
  have flight : SingleFlight 0 coordinator := Transition.invariant_run step (SingleFlight 0)
    (fun _ action before => before.step action) .create actions
  refine ⟨?_, flight.ordered, ?_⟩
  · have active := flight.active
    have bounded := Bool.toNat_le coordinator.inFlight
    unfold readsInFlight
    omega
  · intro along used quiet call member
    have both : SingleFlight 0 coordinator ∧ IsHeard coordinator :=
      Transition.invariant_of_along step (fun state => SingleFlight 0 state ∧ IsHeard state)
        (fun _ action before outside => ⟨before.1.step action, before.2.step before.1 outside⟩)
        ⟨.create, .inr fun call member => by cases member⟩ along
    rcases both.2 with disposed | answered
    · rw [used] at disposed
      cases disposed
    · refine (answered call member).resolve_right ?_
      rintro ⟨-, -, busy⟩
      have active := flight.active
      have none : coordinator.resumes = 0 ∧ coordinator.clears = 0 := by
        unfold resumes clears
        rw [quiet.1]
        exact ⟨rfl, rfl⟩
      rw [busy, none.1, none.2, quiet.2] at active
      cases active

/-- A call while a read is in flight is answered by a second read. -/
theorem refresh_answered_twice :
    IsAnswered (Transition.run step create [.task (.refresh none (.refresh none .done)),
      .settle (.resolved 8), .microtask .done false none, .settle (.resolved 9),
      .microtask .done false none, .microtask .done false none]) :=
  (refresh_answered _).2.2 (by decide) (by decide) ⟨by decide, by decide⟩

/-- The page accepts a snapshot and queues a microtask that calls `refresh`; the run ends before it. -/
def refreshAfterAccept : List Action :=
  [.task (.refresh none .done), .settle (.resolved 8),
    .microtask (.queueMicrotask (.refresh none .done) .done) false none,
    .microtask .done false none, .microtask .done false none]

/-- No read answers the call that the microtask has made. -/
theorem refresh_lost :
    let coordinator := Transition.run step create refreshAfterAccept
    coordinator.IsQuiet ∧ coordinator.disposed = false ∧ ¬ coordinator.IsAnswered := by
  unfold IsQuiet IsAnswered
  decide

end RefreshCoordinator
end Soldisco.Web

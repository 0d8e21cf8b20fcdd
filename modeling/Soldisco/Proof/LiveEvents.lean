import Soldisco.Construction.LiveEvents
import Soldisco.Library.Holding

/-
This file proves that no invalidation is lost by coalescing.
-/

namespace Soldisco.LiveEvents
open Holding (countP_set_add)

def InvalidationCall.isSpawning : InvalidationCall → Bool
  | .spawning _ => true
  | _ => false

def InvalidationCall.hasExchanged : InvalidationCall → Bool
  | .exchanging => false
  | _ => true

/-- The broadcasts before the exchange of a call that has made it. -/
def InvalidationCall.exchangedAt : InvalidationCall → Option Nat
  | .exchanging => none
  | .spawning broadcastsBefore | .completed broadcastsBefore => some broadcastsBefore

def PublishTask.isUncleared : PublishTask → Bool
  | .sleeping | .clearing => true
  | .broadcasting | .finished => false

def PublishTask.isFinished : PublishTask → Bool
  | .finished => true
  | _ => false

namespace LiveEventBus

/-- The number of exchanges that have set the flag. -/
def settings (bus : LiveEventBus) : Nat :=
  bus.calls.countP (·.isSpawning) + bus.tasks.length

/-- The number of exchanges. -/
def exchanges (bus : LiveEventBus) : Nat := bus.calls.countP (·.hasExchanged)

/-- The flag is pending while one task is to be spawned or to clear it. -/
structure Coalesced (bus : LiveEventBus) : Prop where
  pending : bus.calls.countP (·.isSpawning) + bus.tasks.countP (·.isUncleared) =
    bus.discoveryInvalidationPending.toNat
  broadcasts : bus.broadcasts = bus.tasks.countP (·.isFinished)
  past : ∀ call ∈ bus.calls, ∀ before ∈ call.exchangedAt, before ≤ bus.broadcasts
  covered : ∀ call ∈ bus.calls, ∀ before ∈ call.exchangedAt, before < bus.broadcasts ∨
    0 < bus.calls.countP (·.isSpawning) + bus.tasks.countP fun task => !task.isFinished

theorem broadcasts_publish (bus : LiveEventBus) (event : LiveEvent) :
    (bus.publish event).broadcasts =
      bus.broadcasts + if event = .discoveryProjectionChanged then 1 else 0 := by
  unfold broadcasts publish
  rw [List.countP_append, List.countP_singleton]
  simp only [decide_eq_true_eq]

namespace Coalesced

variable {bus : LiveEventBus}

theorem new : Coalesced .new where
  pending := rfl
  broadcasts := rfl
  past := fun call member => by cases member
  covered := fun call member => by cases member

theorem exchanging (coalesced : Coalesced bus) :
    Coalesced { bus with calls := bus.calls ++ [.exchanging] } where
  pending := by
    rw [List.countP_append, ← coalesced.pending]
    rfl
  broadcasts := coalesced.broadcasts
  past := by
    intro call member before exchanged
    rcases List.mem_append.mp member with earlier | new
    · exact coalesced.past call earlier before exchanged
    · cases List.mem_singleton.mp new
      cases exchanged
  covered := by
    intro call member before exchanged
    rw [List.countP_append]
    rcases List.mem_append.mp member with earlier | new
    · exact coalesced.covered call earlier before exchanged
    · cases List.mem_singleton.mp new
      cases exchanged

/-- A call that has lost the exchange relies on the task of the call that has set the flag. -/
theorem lost (coalesced : Coalesced bus) {index : Nat}
    (found : bus.calls[index]? = some .exchanging)
    (pending : bus.discoveryInvalidationPending = true) :
    Coalesced { bus with calls := bus.calls.set index (.completed bus.broadcasts) } := by
  have spawning : (bus.calls.set index (.completed bus.broadcasts)).countP (·.isSpawning) + 0 =
      bus.calls.countP (·.isSpawning) + 0 := countP_set_add (·.isSpawning) found _
  have one : _ = 1 := coalesced.pending.trans (congrArg Bool.toNat pending)
  have uncleared : bus.tasks.countP (·.isUncleared) ≤
      bus.tasks.countP fun task => !task.isFinished :=
    List.countP_mono_left fun task _ uncleared => by
      cases task <;> first | rfl | cases uncleared
  refine ⟨?_, coalesced.broadcasts, ?_, ?_⟩
  · refine Eq.trans ?_ coalesced.pending
    dsimp only
    omega
  · intro call member before exchanged
    rcases List.mem_or_eq_of_mem_set member with earlier | rfl
    · exact coalesced.past call earlier before exchanged
    · cases exchanged
      exact le_rfl
  · intro call _ before _
    right
    dsimp only
    omega

/-- A call that has set the flag is to spawn a task. -/
theorem won (coalesced : Coalesced bus) {index : Nat}
    (found : bus.calls[index]? = some .exchanging)
    (clear : bus.discoveryInvalidationPending = false) :
    Coalesced { bus with
      discoveryInvalidationPending := true
      calls := bus.calls.set index (.spawning bus.broadcasts) } := by
  have spawning : (bus.calls.set index (.spawning bus.broadcasts)).countP (·.isSpawning) + 0 =
      bus.calls.countP (·.isSpawning) + 1 := countP_set_add (·.isSpawning) found _
  have zero : _ = 0 := coalesced.pending.trans (congrArg Bool.toNat clear)
  refine ⟨?_, coalesced.broadcasts, ?_, ?_⟩
  · change _ = 1
    dsimp only
    omega
  · intro call member before exchanged
    rcases List.mem_or_eq_of_mem_set member with earlier | rfl
    · exact coalesced.past call earlier before exchanged
    · cases exchanged
      exact le_rfl
  · intro call _ before _
    right
    dsimp only
    omega

theorem spawned (coalesced : Coalesced bus) {index broadcastsBefore : Nat}
    (found : bus.calls[index]? = some (.spawning broadcastsBefore)) :
    Coalesced { bus with
      calls := bus.calls.set index (.completed broadcastsBefore)
      tasks := bus.tasks ++ [.sleeping] } := by
  have spawning : (bus.calls.set index (.completed broadcastsBefore)).countP (·.isSpawning) + 1 =
      bus.calls.countP (·.isSpawning) + 0 := countP_set_add (·.isSpawning) found _
  refine ⟨?_, ?_, ?_, ?_⟩
  · refine Eq.trans ?_ coalesced.pending
    dsimp only
    rw [List.countP_append]
    change _ + (_ + 1) = _
    omega
  · dsimp only
    rw [List.countP_append]
    exact coalesced.broadcasts
  · intro call member before exchanged
    rcases List.mem_or_eq_of_mem_set member with earlier | rfl
    · exact coalesced.past call earlier before exchanged
    · cases exchanged
      exact coalesced.past _ (List.mem_of_getElem? found) _ rfl
  · intro call _ before _
    right
    dsimp only
    rw [List.countP_append]
    change 0 < _ + (_ + 1)
    omega

/-- A task that goes on without a broadcast clears the flag or leaves it. -/
theorem task (coalesced : Coalesced bus) {index : Nat} {former later : PublishTask}
    (found : bus.tasks[index]? = some former) (open_ : former.isFinished = false)
    (silent : later.isFinished = false) (flag : Bool)
    (clears : flag.toNat + former.isUncleared.toNat =
      bus.discoveryInvalidationPending.toNat + later.isUncleared.toNat) :
    Coalesced { bus with
      discoveryInvalidationPending := flag
      tasks := bus.tasks.set index later } := by
  have uncleared := countP_set_add (·.isUncleared) found later
  have finished := countP_set_add (·.isFinished) found later
  have unfinished := countP_set_add (fun task => !task.isFinished) found later
  rw [open_, silent] at finished unfinished
  have pending := coalesced.pending
  refine ⟨?_, ?_, coalesced.past, ?_⟩
  · dsimp only
    omega
  · exact coalesced.broadcasts.trans (by dsimp only; omega)
  · intro call member before exchanged
    dsimp only
    refine (coalesced.covered call member before exchanged).imp_right fun some => ?_
    omega

/-- The broadcast of a task covers every call that it was pending for. -/
theorem broadcast (coalesced : Coalesced bus) {index : Nat}
    (found : bus.tasks[index]? = some .broadcasting) :
    Coalesced ({ bus with tasks := bus.tasks.set index .finished }.publish
      .discoveryProjectionChanged) := by
  have uncleared : (bus.tasks.set index .finished).countP (·.isUncleared) + 0 =
      bus.tasks.countP (·.isUncleared) + 0 := countP_set_add (·.isUncleared) found _
  have finished : (bus.tasks.set index .finished).countP (·.isFinished) + 0 =
      bus.tasks.countP (·.isFinished) + 1 := countP_set_add (·.isFinished) found _
  have sends : ({ bus with tasks := bus.tasks.set index .finished }.publish
      .discoveryProjectionChanged).broadcasts = bus.broadcasts + 1 := broadcasts_publish _ _
  have sent := coalesced.broadcasts
  refine ⟨?_, ?_, ?_, ?_⟩
  · refine Eq.trans ?_ coalesced.pending
    change bus.calls.countP (·.isSpawning) +
      (bus.tasks.set index .finished).countP (·.isUncleared) = _
    omega
  · rw [sends]
    change _ = (bus.tasks.set index .finished).countP (·.isFinished)
    omega
  · intro call member before exchanged
    have past := coalesced.past call member before exchanged
    omega
  · intro call member before exchanged
    have past := coalesced.past call member before exchanged
    left
    omega

theorem publishStatus (coalesced : Coalesced bus) (status : Supervisor.StreamStatus) :
    Coalesced (bus.publish (.streamStatusChanged status)) := by
  have same : (bus.publish (.streamStatusChanged status)).broadcasts = bus.broadcasts :=
    broadcasts_publish bus _
  refine ⟨coalesced.pending, same.trans coalesced.broadcasts, ?_, ?_⟩
  · rw [same]
    exact coalesced.past
  · rw [same]
    exact coalesced.covered

/-- Every step keeps the invariant. -/
theorem step (coalesced : Coalesced bus) (action : Action) : Coalesced (bus.step action).2 := by
  cases action with
  | publishDiscoveryProjectionChanged => exact coalesced.exchanging
  | publishStatus status => exact coalesced.publishStatus status
  | advanceCall index =>
      change Coalesced (bus.advanceCall index)
      unfold advanceCall
      split
      · rename_i found
        split
        · exact coalesced.lost found ‹_›
        · rename_i clear
          rw [Bool.not_eq_true] at clear
          exact coalesced.won found clear
      · exact coalesced.spawned ‹_›
      · exact coalesced
  | advanceTask index =>
      change Coalesced (bus.advanceTask index)
      unfold advanceTask
      split
      · rename_i found
        exact coalesced.task found rfl rfl _ rfl
      · rename_i found
        have uncleared : 0 < bus.tasks.countP (·.isUncleared) :=
          List.countP_pos_iff.mpr ⟨_, List.mem_of_getElem? found, rfl⟩
        have pending := coalesced.pending
        refine coalesced.task found rfl rfl false ?_
        cases flag : bus.discoveryInvalidationPending with
        | true => rfl
        | false =>
            rw [flag, Bool.toNat_false] at pending
            omega
      · exact coalesced.broadcast ‹_›
      · exact coalesced

end Coalesced

/-- The action is the step of a task that clears the flag. -/
def clears (bus : LiveEventBus) : Action → Bool
  | .advanceTask index => bus.tasks[index]? = some .clearing
  | _ => false

/-- Since the flag was clear the first exchange has set it and the other ones have lost. -/
structure Burst (start bus : LiveEventBus) : Prop where
  exchanges : start.exchanges ≤ bus.exchanges
  settings : bus.settings = start.settings + bus.discoveryInvalidationPending.toNat
  pending : bus.discoveryInvalidationPending = true ↔ start.exchanges < bus.exchanges

namespace Burst

variable {start bus next : LiveEventBus}

theorem refl (clear : start.discoveryInvalidationPending = false) : Burst start start where
  exchanges := le_rfl
  settings := by rw [clear]; rfl
  pending := by simp [clear]

theorem unchanged (burst : Burst start bus) (exchanges : next.exchanges = bus.exchanges)
    (settings : next.settings = bus.settings)
    (pending : next.discoveryInvalidationPending = bus.discoveryInvalidationPending) :
    Burst start next := by
  refine ⟨?_, ?_, ?_⟩
  · rw [exchanges]
    exact burst.exchanges
  · rw [settings, pending]
    exact burst.settings
  · rw [pending, exchanges]
    exact burst.pending

theorem advanceCall (burst : Burst start bus) (index : Nat) :
    Burst start (bus.advanceCall index) := by
  have least := burst.exchanges
  have settings := burst.settings
  unfold LiveEventBus.settings at settings
  unfold LiveEventBus.advanceCall
  split
  · rename_i found
    split
    · rename_i pending
      have spawning : (bus.calls.set index (.completed bus.broadcasts)).countP (·.isSpawning) + 0 =
          bus.calls.countP (·.isSpawning) + 0 := countP_set_add (·.isSpawning) found _
      have exchanged : (bus.calls.set index (.completed bus.broadcasts)).countP (·.hasExchanged) +
          0 = bus.calls.countP (·.hasExchanged) + 1 := countP_set_add (·.hasExchanged) found _
      unfold LiveEventBus.exchanges at least
      refine ⟨?_, ?_, ?_⟩
      · unfold LiveEventBus.exchanges
        dsimp only
        omega
      · unfold LiveEventBus.settings
        dsimp only
        omega
      · unfold LiveEventBus.exchanges
        dsimp only
        rw [pending]
        exact iff_of_true rfl (by omega)
    · rename_i clear
      rw [Bool.not_eq_true] at clear
      have spawning : (bus.calls.set index (.spawning bus.broadcasts)).countP (·.isSpawning) + 0 =
          bus.calls.countP (·.isSpawning) + 1 := countP_set_add (·.isSpawning) found _
      have exchanged : (bus.calls.set index (.spawning bus.broadcasts)).countP (·.hasExchanged) +
          0 = bus.calls.countP (·.hasExchanged) + 1 := countP_set_add (·.hasExchanged) found _
      rw [clear, Bool.toNat_false] at settings
      unfold LiveEventBus.exchanges at least
      refine ⟨?_, ?_, ?_⟩
      · unfold LiveEventBus.exchanges
        dsimp only
        omega
      · unfold LiveEventBus.settings
        dsimp only
        rw [Bool.toNat_true]
        omega
      · unfold LiveEventBus.exchanges
        exact iff_of_true rfl (by dsimp only; omega)
  · rename_i broadcastsBefore found
    have spawning : (bus.calls.set index (.completed broadcastsBefore)).countP (·.isSpawning) + 1 =
        bus.calls.countP (·.isSpawning) + 0 := countP_set_add (·.isSpawning) found _
    have exchanged : (bus.calls.set index (.completed broadcastsBefore)).countP
        (·.hasExchanged) + 1 = bus.calls.countP (·.hasExchanged) + 1 :=
      countP_set_add (·.hasExchanged) found _
    refine burst.unchanged ?_ ?_ rfl
    · exact Nat.add_right_cancel exchanged
    · unfold LiveEventBus.settings
      dsimp only
      rw [List.length_append, List.length_singleton]
      omega
  · exact burst

/-- A step between two clears keeps the burst. -/
theorem step (burst : Burst start bus) {action : Action} (keeps : bus.clears action = false) :
    Burst start (bus.step action).2 := by
  cases action with
  | publishDiscoveryProjectionChanged =>
      refine burst.unchanged ?_ ?_ rfl
      · unfold LiveEventBus.exchanges
        exact List.countP_append
      · unfold LiveEventBus.settings
        dsimp only [LiveEventBus.step]
        rw [List.countP_append]
        rfl
  | publishStatus status => exact burst.unchanged rfl rfl rfl
  | advanceCall index => exact burst.advanceCall index
  | advanceTask index =>
      have length : ∀ task, (bus.tasks.set index task).length = bus.tasks.length :=
        fun task => List.length_set
      change Burst start (bus.advanceTask index)
      unfold advanceTask
      split
      · exact burst.unchanged rfl (congrArg (_ + ·) (length _)) rfl
      · rename_i found
        dsimp only [clears] at keeps
        rw [found] at keeps
        cases keeps
      · exact burst.unchanged rfl (congrArg (_ + ·) (length _)) rfl
      · exact burst

end Burst

/-- Every completed call is followed by a broadcast that has happened, that a spawned task is to make
or whose task is about to be spawned; between two clears all calls spawn one task, and each task
broadcasts once. -/
theorem invalidations_covered (actions : List Action) :
    let bus := Transition.run step .new actions
    (∀ before, .completed before ∈ bus.calls → before < bus.broadcasts ∨
      (∃ task ∈ bus.tasks, task ≠ .finished) ∨ ∃ call ∈ bus.calls, call.isSpawning = true) ∧
    bus.tasks.countP (·.isUncleared) ≤ 1 ∧
    bus.broadcasts = bus.tasks.countP (·.isFinished) ∧
    ∀ segment, bus.discoveryInvalidationPending = false →
      Transition.Along step (fun bus action => bus.clears action = false) bus segment →
      (Transition.run step bus segment).settings = bus.settings +
        if bus.exchanges < (Transition.run step bus segment).exchanges then 1 else 0 := by
  intro bus
  have coalesced : Coalesced bus := Transition.invariant_run step Coalesced
    (fun _ action before => before.step action) Coalesced.new actions
  refine ⟨?_, ?_, coalesced.broadcasts, ?_⟩
  · intro before member
    refine (coalesced.covered _ member before rfl).imp_right fun some => ?_
    rcases Nat.eq_zero_or_pos (bus.calls.countP (·.isSpawning)) with none | spawning
    · rw [none, Nat.zero_add, List.countP_pos_iff] at some
      obtain ⟨task, present, unfinished⟩ := some
      refine .inl ⟨task, present, ?_⟩
      rintro rfl
      cases unfinished
    · exact .inr (List.countP_pos_iff.mp spawning)
  · have pending := coalesced.pending
    have bounded := Bool.toNat_le bus.discoveryInvalidationPending
    omega
  · intro segment clear along
    have burst : Burst bus (Transition.run step bus segment) :=
      Transition.invariant_of_along step (Burst bus) (fun _ _ before keeps => before.step keeps)
        (.refl clear) along
    rw [burst.settings]
    congr 1
    split
    · rename_i exchanged
      rw [burst.pending.mpr exchanged]
      rfl
    · rename_i none
      cases pending : (Transition.run step bus segment).discoveryInvalidationPending with
      | false => rfl
      | true => exact absurd (burst.pending.mp pending) none

/-- Two calls before the first clear spawn one task. -/
theorem invalidations_covered_twice :
    (Transition.run step .new [.publishDiscoveryProjectionChanged,
      .publishDiscoveryProjectionChanged, .advanceCall 0, .advanceCall 1, .advanceCall 0]).settings =
      0 + 1 :=
  (invalidations_covered []).2.2.2 [.publishDiscoveryProjectionChanged,
    .publishDiscoveryProjectionChanged, .advanceCall 0, .advanceCall 1, .advanceCall 0] rfl
    (by decide)

/-- A call that finds the flag set completes before the task of the other call is spawned. -/
theorem completed_before_spawn :
    let bus := Transition.run step .new [.publishDiscoveryProjectionChanged,
      .publishDiscoveryProjectionChanged, .advanceCall 0, .advanceCall 1]
    .completed 0 ∈ bus.calls ∧ ¬ 0 < bus.broadcasts ∧ ¬ ∃ task ∈ bus.tasks, task ≠ .finished := by
  decide

end LiveEventBus
end Soldisco.LiveEvents

import Soldisco.Construction.Pipeline.BatchProcessor

/-
This file proves in which order the batch processor hands over the batches that it has received.
-/

namespace Soldisco.Pipeline
open Window Transition

namespace BatchProcessor

variable {processor : BatchProcessor} {batch : ProgramLogBatch}
  {registry : ObservationWindowRegistry} {nowUnixMs : Int}

/-- While the tokens stay as they are the loop is that of the queue. -/
theorem drainAt_constant (registry : ObservationWindowRegistry) (nowUnixMs : Int) (count : Nat)
    (ready : List ProgramLogBatch) (batches : List PendingActivityBatch) :
    drainAt (fun _ => registry) nowUnixMs count ready batches =
      PendingActivityQueue.drainLoop registry nowUnixMs count ready batches := by
  induction count generalizing ready batches with
  | zero => rfl
  | succ count ih =>
      rw [drainAt, ih]
      cases batches with
      | nil => cases count <;> rfl
      | cons pending rest =>
          cases waits : hasPendingToken registry pending.batch &&
              nowUnixMs < pending.releaseAtUnixMs with
          | true => simp [PendingActivityQueue.drainLoop, waits]
          | false => simp [PendingActivityQueue.drainLoop, waits]

/-- A drain releases the batches that do not wait and keeps the other ones, in their order. -/
theorem drainAt_eq (registries : Nat → ObservationWindowRegistry) (nowUnixMs : Int)
    (batches kept : List PendingActivityBatch) (ready : List ProgramLogBatch) :
    drainAt registries nowUnixMs batches.length ready (batches ++ kept) =
      (ready ++ (Mask.select ((waitingAt registries nowUnixMs batches).map not) batches).map
          PendingActivityBatch.batch,
        kept ++ Mask.select (waitingAt registries nowUnixMs batches) batches) := by
  induction batches generalizing registries kept ready with
  | nil => simp [drainAt, waitingAt, Mask.select]
  | cons pending rest ih =>
      rw [List.length_cons, List.cons_append, drainAt, waitingAt]
      rw [PendingActivityQueue.drainLoop]
      change drainAt _ nowUnixMs rest.length
        (if waits (registries 0) nowUnixMs pending then _ else _ : _ × _).1
        (if waits (registries 0) nowUnixMs pending then _ else _ : _ × _).2 = _
      cases waiting : waits (registries 0) nowUnixMs pending with
      | true =>
          rw [if_pos rfl, PendingActivityQueue.drainLoop, List.append_assoc, ih]
          simp [Mask.select]
      | false =>
          rw [if_neg Bool.false_ne_true, PendingActivityQueue.drainLoop, ih]
          simp [Mask.select]

theorem length_waitingAt (registries : Nat → ObservationWindowRegistry) (nowUnixMs : Int)
    (batches : List PendingActivityBatch) :
    (waitingAt registries nowUnixMs batches).length = batches.length := by
  induction batches generalizing registries with
  | nil => rfl
  | cons pending rest ih => exact congrArg Nat.succ (ih _)

/-- The receipts stand in the order of the queue, and each received batch is handed over, held or
dropped. -/
structure IsLabelled (processor : BatchProcessor) : Prop where
  queue : processor.held.map (processor.received[·]?) =
    processor.pendingActivity.batches.map fun pending => some pending.batch
  processed : processor.handed.map (fun receipt => processor.received[receipt]?) =
    processor.processed.map some
  known : ∀ receipt, receipt ∈ processor.handed ∨ receipt ∈ processor.held ∨
    receipt ∈ processor.dropped ↔ receipt < processor.received.length
  sorted : processor.held.Pairwise (· < ·)
  distinct : processor.handed.Nodup
  disjoint : ∀ receipt ∈ processor.held, receipt ∉ processor.handed

theorem isLabelled_new (capacity maximumHoldMillis : Nat) :
    (new capacity maximumHoldMillis).IsLabelled where
  queue := rfl
  processed := rfl
  known := by
    intro receipt
    simp [new]
  sorted := List.Pairwise.nil
  distinct := List.nodup_nil
  disjoint := by
    intro receipt member
    cases member

/-- A batch is handed over at once when it is no activity or no token of it is pending. -/
theorem admitBatch_cases (queue : PendingActivityQueue) (registry : ObservationWindowRegistry)
    (batch : ProgramLogBatch) (nowUnixMs : Int) :
    ((batch.purpose ≠ .trackedActivity ∨ hasPendingToken registry batch = false) ∧
      queue.admitBatch registry batch nowUnixMs = (.ready batch, queue)) ∨
    (∃ calls, queue.admitBatch registry batch nowUnixMs = (.dropped calls, queue)) ∨
    ∃ releaseAtUnixMs, queue.admitBatch registry batch nowUnixMs =
      (.deferred, { queue with batches := queue.batches ++ [{ batch, releaseAtUnixMs }] }) := by
  unfold PendingActivityQueue.admitBatch
  split
  · rename_i passes
    left
    refine ⟨?_, rfl⟩
    simpa using passes
  · split
    · exact .inr (.inl ⟨_, rfl⟩)
    · exact .inr (.inr ⟨_, rfl⟩)

/-- Earlier receipts keep their batches. -/
theorem getElem?_received {received : List ProgramLogBatch} {receipt : Nat}
    (known : receipt < received.length) (batch : ProgramLogBatch) :
    (received ++ [batch])[receipt]? = received[receipt]? :=
  List.getElem?_append_left known

theorem IsLabelled.receive (labelled : processor.IsLabelled) (batch : ProgramLogBatch)
    (registry : ObservationWindowRegistry) (nowUnixMs : Int) :
    (processor.receive batch registry nowUnixMs).IsLabelled := by
  have queue : processor.held.map ((processor.received ++ [batch])[·]?) =
      processor.pendingActivity.batches.map fun pending => some pending.batch := by
    rw [← labelled.queue]
    apply List.map_congr_left
    intro receipt member
    exact getElem?_received ((labelled.known receipt).mp (.inr (.inl member))) batch
  have processed : processor.handed.map (fun receipt => (processor.received ++ [batch])[receipt]?) =
      processor.processed.map some := by
    rw [← labelled.processed]
    apply List.map_congr_left
    intro receipt member
    exact getElem?_received ((labelled.known receipt).mp (.inl member)) batch
  have fresh : ∀ receipt, receipt ∈ processor.handed ∨ receipt ∈ processor.held ∨
      receipt ∈ processor.dropped → receipt ≠ processor.received.length := by
    intro receipt placed
    exact ((labelled.known receipt).mp placed).ne
  have grown : (processor.received ++ [batch]).length = processor.received.length + 1 := by simp
  have known := labelled.known
  unfold BatchProcessor.receive
  rcases admitBatch_cases processor.pendingActivity registry batch nowUnixMs with
    ⟨-, ready⟩ | ⟨calls, dropped⟩ | ⟨releaseAtUnixMs, deferred⟩
  · rw [ready]
    refine ⟨queue, ?_, ?_, labelled.sorted, ?_, ?_⟩
    · change List.map _ (processor.handed ++ [processor.received.length]) =
        List.map some (processor.processed ++ [batch])
      rw [List.map_append, List.map_append, processed]
      simp
    · intro receipt
      change receipt ∈ processor.handed ++ [processor.received.length] ∨ _ ↔
        receipt < (processor.received ++ [batch]).length
      rw [grown, Nat.lt_succ_iff_lt_or_eq, ← known]
      simp only [List.mem_append, List.mem_singleton]
      tauto
    · change (processor.handed ++ [processor.received.length]).Nodup
      rw [← List.concat_eq_append, List.nodup_concat]
      exact ⟨fun member => fresh _ (.inl member) rfl, labelled.distinct⟩
    · intro receipt member handed
      rw [List.mem_append, List.mem_singleton] at handed
      rcases handed with old | rfl
      · exact labelled.disjoint receipt member old
      · exact fresh _ (.inr (.inl member)) rfl
  · rw [dropped]
    refine ⟨queue, processed, ?_, labelled.sorted, labelled.distinct, labelled.disjoint⟩
    intro receipt
    change receipt ∈ processor.handed ∨ receipt ∈ processor.held ∨
      receipt ∈ processor.dropped ++ [processor.received.length] ↔
        receipt < (processor.received ++ [batch]).length
    rw [grown, Nat.lt_succ_iff_lt_or_eq, ← known]
    simp only [List.mem_append, List.mem_singleton]
    tauto
  · rw [deferred]
    refine ⟨?_, processed, ?_, ?_, labelled.distinct, ?_⟩
    · change List.map _ (processor.held ++ [processor.received.length]) =
        List.map _ (processor.pendingActivity.batches ++ [_])
      rw [List.map_append, List.map_append, queue]
      simp
    · intro receipt
      change receipt ∈ processor.handed ∨ receipt ∈ processor.held ++ [processor.received.length] ∨
        receipt ∈ processor.dropped ↔ receipt < (processor.received ++ [batch]).length
      rw [grown, Nat.lt_succ_iff_lt_or_eq, ← known]
      simp only [List.mem_append, List.mem_singleton]
      tauto
    · rw [List.pairwise_append]
      refine ⟨labelled.sorted, List.pairwise_singleton _ _, ?_⟩
      intro receipt member other single
      rw [List.mem_singleton.mp single]
      exact (known receipt).mp (.inr (.inl member))
    · intro receipt member handed
      rw [List.mem_append, List.mem_singleton] at member
      rcases member with old | rfl
      · exact labelled.disjoint receipt old handed
      · exact fresh _ (.inl handed) rfl

section Drain

variable (registries : Nat → ObservationWindowRegistry) (nowUnixMs : Int)

/-- A drain keeps a held receipt or releases it. -/
theorem IsLabelled.drain_perm (labelled : processor.IsLabelled) :
    (processor.keeps registries nowUnixMs ++ processor.releases registries nowUnixMs).Perm
      processor.held := by
  apply Mask.select_perm
  have lengths := congrArg List.length labelled.queue
  rw [List.length_map, List.length_map] at lengths
  exact (length_waitingAt registries nowUnixMs _).trans lengths.symm

theorem IsLabelled.mem_held (labelled : processor.IsLabelled) {receipt : Nat} :
    receipt ∈ processor.held ↔ receipt ∈ processor.keeps registries nowUnixMs ∨
      receipt ∈ processor.releases registries nowUnixMs := by
  rw [← (labelled.drain_perm registries nowUnixMs).mem_iff, List.mem_append]

/-- The selected receipts carry the selected batches of the queue. -/
theorem IsLabelled.map_select (labelled : processor.IsLabelled) (mask : List Bool) :
    (Mask.select mask processor.held).map (processor.received[·]?) =
      (Mask.select mask processor.pendingActivity.batches).map fun pending => some pending.batch := by
  rw [Mask.map_select, Mask.map_select, labelled.queue]

theorem IsLabelled.drain (labelled : processor.IsLabelled) :
    (processor.drain registries nowUnixMs).IsLabelled := by
  have outcome := drainAt_eq registries nowUnixMs processor.pendingActivity.batches [] []
  rw [List.append_nil, List.nil_append, List.nil_append] at outcome
  have released : (processor.releases registries nowUnixMs).Sublist processor.held :=
    Mask.select_sublist _ _
  have kept : (processor.keeps registries nowUnixMs).Sublist processor.held :=
    Mask.select_sublist _ _
  have distinct : processor.held.Nodup := labelled.sorted.imp Nat.ne_of_lt
  unfold BatchProcessor.drain
  dsimp only
  rw [outcome]
  refine ⟨labelled.map_select _, ?_, ?_, labelled.sorted.sublist kept, ?_, ?_⟩
  · change List.map _ (processor.handed ++ _) = List.map some (processor.processed ++ _)
    rw [List.map_append, List.map_append, labelled.processed, releases, labelled.map_select,
      List.map_map]
    rfl
  · intro receipt
    rw [← labelled.known, labelled.mem_held registries nowUnixMs, List.mem_append]
    tauto
  · apply labelled.distinct.append (distinct.sublist released)
    intro receipt handed member
    exact labelled.disjoint receipt (released.subset member) handed
  · intro receipt waiting member
    rcases List.mem_append.mp member with handed | free
    · exact labelled.disjoint receipt (kept.subset waiting) handed
    · have parted := (labelled.drain_perm registries nowUnixMs).nodup_iff.mpr distinct
      exact (List.nodup_append.mp parted).2.2 receipt waiting receipt free rfl

end Drain

theorem isLabelled_run (capacity maximumHoldMillis : Nat)
    (actions : List BatchProcessorAction) :
    (run step (new capacity maximumHoldMillis) actions).IsLabelled := by
  apply invariant_run step IsLabelled _ (isLabelled_new capacity maximumHoldMillis)
  intro processor action labelled
  cases action with
  | receive batch registry nowUnixMs => exact labelled.receive batch registry nowUnixMs
  | drain registries nowUnixMs => exact labelled.drain registries nowUnixMs

/-- The later receipt is handed over in an action that leaves the earlier one in the queue: no token
of the later batch is pending at its receipt, or the drain finds the earlier batch waiting. -/
def Overtakes (processor : BatchProcessor) (earlier later : Nat) : BatchProcessorAction → Prop
  | .receive batch registry _ => earlier ∈ processor.held ∧ later = processor.received.length ∧
      (batch.purpose ≠ .trackedActivity ∨ hasPendingToken registry batch = false)
  | .drain registries nowUnixMs => earlier ∈ processor.keeps registries nowUnixMs ∧
      later ∈ processor.releases registries nowUnixMs

/-- Some action of the run overtakes. -/
def Overtaken (processor : BatchProcessor) (actions : List BatchProcessorAction)
    (earlier later : Nat) : Prop :=
  ∃ before action after, actions = before ++ action :: after ∧
    (run step processor before).Overtakes earlier later action

/-- The earlier receipt stands before the later one. -/
def Precedes (order : List Nat) (earlier later : Nat) : Prop :=
  ∃ front back, order = front ++ later :: back ∧ earlier ∈ front

theorem Precedes.append {order : List Nat} {earlier later : Nat}
    (precedes : Precedes order earlier later) (added : List Nat) :
    Precedes (order ++ added) earlier later := by
  obtain ⟨front, back, placed, member⟩ := precedes
  refine ⟨front, back ++ added, ?_, member⟩
  rw [placed, List.append_assoc, List.cons_append]

theorem precedes_of_mem {order added : List Nat} {earlier later : Nat} (member : earlier ∈ order)
    (new : later ∈ added) : Precedes (order ++ added) earlier later := by
  obtain ⟨front, back, placed⟩ := List.append_of_mem new
  refine ⟨order ++ front, back, ?_, List.mem_append_left _ member⟩
  rw [placed, List.append_assoc]

theorem precedes_of_sorted {order added : List Nat} {earlier later : Nat}
    (sorted : added.Pairwise (· < ·)) (old : earlier ∈ added) (new : later ∈ added)
    (before : earlier < later) : Precedes (order ++ added) earlier later := by
  obtain ⟨front, back, placed⟩ := List.append_of_mem new
  refine ⟨order ++ front, back, by rw [placed, List.append_assoc], ?_⟩
  rw [placed] at old sorted
  rw [List.pairwise_append] at sorted
  have behind := (List.pairwise_cons.mp sorted.2.1).1
  rcases List.mem_append.mp old with front | rest
  · exact List.mem_append_right _ front
  · rcases List.mem_cons.mp rest with rfl | back
    · omega
    · have greater := behind earlier back
      omega

theorem Overtaken.append {actions : List BatchProcessorAction} {earlier later : Nat}
    (overtaken : Overtaken processor actions earlier later) (action : BatchProcessorAction) :
    Overtaken processor (actions ++ [action]) earlier later := by
  obtain ⟨before, overtaking, after, placed, overtakes⟩ := overtaken
  refine ⟨before, overtaking, after ++ [action], ?_, overtakes⟩
  rw [placed, List.append_assoc, List.cons_append]

/-- The later receipt is handed over after the earlier one, or the earlier one is dropped, or some
action overtakes. -/
def IsOrdered (processor : BatchProcessor) (actions : List BatchProcessorAction)
    (earlier later : Nat) : Prop :=
  Precedes (run step processor actions).handed earlier later ∨
    earlier ∈ (run step processor actions).dropped ∨ Overtaken processor actions earlier later

/-- A receipt that an action hands over stands behind the earlier receipts, save for the dropped
ones and those that the action overtakes. -/
theorem IsLabelled.step_order (labelled : processor.IsLabelled) (action : BatchProcessorAction) :
    ∃ added, (processor.step action).2.handed = processor.handed ++ added ∧
      (∃ lost, (processor.step action).2.dropped = processor.dropped ++ lost) ∧
      ∀ earlier later, earlier < later → later ∈ added →
        Precedes (processor.handed ++ added) earlier later ∨ earlier ∈ processor.dropped ∨
          processor.Overtakes earlier later action := by
  cases action with
  | receive batch registry nowUnixMs =>
      change ∃ added, (processor.receive batch registry nowUnixMs).handed = _ ∧
        (∃ lost, (processor.receive batch registry nowUnixMs).dropped = _) ∧ _
      unfold BatchProcessor.receive
      rcases admitBatch_cases processor.pendingActivity registry batch nowUnixMs with
        ⟨passes, ready⟩ | ⟨calls, dropped⟩ | ⟨releaseAtUnixMs, deferred⟩
      · rw [ready]
        refine ⟨[processor.received.length], rfl, ⟨[], (List.append_nil _).symm⟩, ?_⟩
        intro earlier later before new
        have last := List.mem_singleton.mp new
        rw [last] at before
        rcases (labelled.known earlier).mpr before with handed | held | lost
        · exact .inl (precedes_of_mem handed new)
        · exact .inr (.inr ⟨held, last, passes⟩)
        · exact .inr (.inl lost)
      · rw [dropped]
        refine ⟨[], (List.append_nil _).symm, ⟨[processor.received.length], rfl⟩, ?_⟩
        intro earlier later _ new
        cases new
      · rw [deferred]
        refine ⟨[], (List.append_nil _).symm, ⟨[], (List.append_nil _).symm⟩, ?_⟩
        intro earlier later _ new
        cases new
  | drain registries nowUnixMs =>
      refine ⟨processor.releases registries nowUnixMs, rfl, ⟨[], (List.append_nil _).symm⟩, ?_⟩
      intro earlier later before new
      have released : (processor.releases registries nowUnixMs).Sublist processor.held :=
        Mask.select_sublist _ _
      have known := (labelled.known later).mp (.inr (.inl (released.subset new)))
      rcases (labelled.known earlier).mpr (before.trans known) with handed | held | lost
      · exact .inl (precedes_of_mem handed new)
      · rcases (labelled.mem_held registries nowUnixMs).mp held with waiting | free
        · exact .inr (.inr ⟨waiting, new⟩)
        · exact .inl (precedes_of_sorted (labelled.sorted.sublist released) free new before)
      · exact .inr (.inl lost)

theorem isOrdered_run (capacity maximumHoldMillis : Nat) (actions : List BatchProcessorAction) :
    ∀ earlier later, earlier < later →
      later ∈ (run step (new capacity maximumHoldMillis) actions).handed →
      IsOrdered (new capacity maximumHoldMillis) actions earlier later := by
  induction actions using List.reverseRecOn with
  | nil =>
      intro earlier later _ member
      cases member
  | append_singleton actions action ih =>
      intro earlier later before member
      have labelled := isLabelled_run capacity maximumHoldMillis actions
      obtain ⟨added, handed, ⟨lost, dropped⟩, ordered⟩ := labelled.step_order action
      unfold IsOrdered
      rw [run_concat] at member ⊢
      rw [handed] at member ⊢
      rw [dropped]
      rcases List.mem_append.mp member with old | new
      · rcases ih earlier later before old with precedes | gone | overtaken
        · exact .inl (precedes.append added)
        · exact .inr (.inl (List.mem_append_left _ gone))
        · exact .inr (.inr (overtaken.append action))
      · rcases ordered earlier later before new with precedes | gone | overtakes
        · exact .inl precedes
        · exact .inr (.inl (List.mem_append_left _ gone))
        · exact .inr (.inr ⟨actions, action, [], rfl, overtakes⟩)

/-- In every run, each batch is handed over at most once, and a batch is handed over no later than
the batches received after it, unless it is dropped or some action hands over the other one while it
waits in the queue. -/
theorem handover_order (capacity maximumHoldMillis : Nat) (actions : List BatchProcessorAction) :
    (run step (new capacity maximumHoldMillis) actions).handed.Nodup ∧
    (run step (new capacity maximumHoldMillis) actions).handed.map
        (fun receipt => (run step (new capacity maximumHoldMillis) actions).received[receipt]?) =
      (run step (new capacity maximumHoldMillis) actions).processed.map some ∧
    ∀ earlier later, earlier < later →
      later ∈ (run step (new capacity maximumHoldMillis) actions).handed →
      IsOrdered (new capacity maximumHoldMillis) actions earlier later :=
  ⟨(isLabelled_run capacity maximumHoldMillis actions).distinct,
    (isLabelled_run capacity maximumHoldMillis actions).processed,
    isOrdered_run capacity maximumHoldMillis actions⟩

/-- Two provisional windows that open at the same time. -/
def provisionalRegistry : ObservationWindowRegistry :=
  let provision := (ObservationWindowRegistry.new 4 (by decide)).provisionTarget
    (.pumpMint "first") "first" 100 60000
  (provision.2.provisionTarget (.pumpMint "second") "second" 100 60000).2

def provisionalToken (mint : String) (generation : Nat) : ObservationWindowToken where
  generation
  window := { target := .pumpMint mint, mint, openedAtUnixMs := 100, closesAtUnixMs := 60100 }
  address := generation

/-- The creation of the second window is confirmed. -/
def confirmedRegistry : ObservationWindowRegistry :=
  provisionalRegistry.setCell (provisionalToken "second" 1)
    (provisionalRegistry.cell (provisionalToken "second" 1)).confirm.2

def activityBatch (signature : String) (windowTokens : List ObservationWindowToken) :
    ProgramLogBatch where
  purpose := .trackedActivity
  slot := 7
  signature
  receivedTimeUnixMs := 200
  decoded := none
  transactionError := false
  windowTokens
  processingSucceeded := false

def mixedBatch : ProgramLogBatch :=
  activityBatch "mixed" [provisionalToken "first" 0, provisionalToken "second" 1]

def soleBatch : ProgramLogBatch :=
  activityBatch "sole" [provisionalToken "second" 1]

/-- The mixed batch waits for its first token while the batch of its second token passes. -/
def mixedRun : List BatchProcessorAction :=
  [.receive mixedBatch confirmedRegistry 200, .drain (fun _ => confirmedRegistry) 200,
    .receive soleBatch confirmedRegistry 300, .drain (fun _ => confirmedRegistry) 300]

theorem handover_overtakes : ¬ ∀ (capacity maximumHoldMillis : Nat)
    (actions : List BatchProcessorAction) (earlier later : Nat) (first second : ProgramLogBatch)
    (token : ObservationWindowToken),
    (run step (new capacity maximumHoldMillis) actions).received[earlier]? = some first →
    (run step (new capacity maximumHoldMillis) actions).received[later]? = some second →
    first.purpose = .trackedActivity → second.purpose = .trackedActivity →
    token ∈ first.windowTokens → token ∈ second.windowTokens → earlier < later →
    later ∈ (run step (new capacity maximumHoldMillis) actions).handed →
    Precedes (run step (new capacity maximumHoldMillis) actions).handed earlier later := by
  intro claim
  have outcome : (run step (new 16 60000) mixedRun).received = [mixedBatch, soleBatch] ∧
      (run step (new 16 60000) mixedRun).handed = [1] := by decide +kernel
  have ordered := claim 16 60000 mixedRun 0 1 mixedBatch soleBatch (provisionalToken "second" 1)
  rw [outcome.1, outcome.2] at ordered
  obtain ⟨front, back, placed, member⟩ := ordered rfl rfl rfl rfl
    (List.mem_cons_of_mem _ List.mem_cons_self) List.mem_cons_self Nat.zero_lt_one
    List.mem_cons_self
  cases front with
  | nil => cases member
  | cons receipt rest =>
      have lengths := congrArg List.length placed
      simp at lengths

end BatchProcessor
end Soldisco.Pipeline

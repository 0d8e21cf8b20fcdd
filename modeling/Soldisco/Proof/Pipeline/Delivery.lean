import Soldisco.Proof.Pipeline.Settlement

/-
This file proves that a tracked batch delivers the events of each of its tokens over every run that
leaves no event of an open window behind, and shows the run that does.
-/

namespace Soldisco.Pipeline
open Domain Window Intake Holding ObservationWindowRegistry

/-- A complete tracked batch without a selection has passed over events only. After a selection the
handed, the selected and the remaining events are all events of each token, or its window is
accounted for. -/
structure ProcessingDelivers (windows : System) (processing : Processing) : Prop where
  unselected : processing.selectedEvents = 0 → processing.handed = [] ∧ processing.selected = none ∧
    processing.passed ++ processing.remaining = processing.batch.orderedEvents
  delivers : processing.batch.purpose = .trackedActivity → processing.complete = true →
    processing.selectedEvents ≠ 0 → ∀ token ∈ processing.batch.windowTokens,
      Delivered processing.batch
        (processing.handed ++ processing.selected.toList ++ processing.remaining) token ∨
      Accounted (windows.registry.cell token)

/-- The drop of a tracked batch cancels nothing and settles tokens whose events are delivered or
whose window is accounted for. -/
structure ReleaseDelivers (windows : System) (release : Release) (batch : ProgramLogBatch) : Prop where
  uncancelled : ∀ token, TokenCalls.cancellations release.calls token = 0
  warranted : Warranted windows.registry (fun token => Delivered batch release.handed token ∨
    Accounted (windows.registry.cell token)) release.calls

def Owner.Delivers (windows : System) : Owner → Prop
  | .collector _ | .batch _ => True
  | .processing current => ProcessingDelivers windows current
  | .release current => ∀ batch, current.batch = some batch → batch.purpose = .trackedActivity →
      ReleaseDelivers windows current batch

section Moves

variable {config : PipelineConfig} {before : State} {action : Action} {windows : System}
variable {leaving entering owners : Multiset Owner} {settlements : List Settlement}

theorem forall_mem_replace {property : Owner → Prop} {owner next : Owner} {rest : Multiset Owner}
    (each : ∀ current ∈ ({owner} + rest : Multiset Owner), property current)
    (nextHolds : property next) : ∀ current ∈ ({next} + rest : Multiset Owner), property current := by
  intro current member
  rcases Multiset.mem_add.mp member with new | kept
  · rw [Multiset.mem_singleton.mp new]
    exact nextHolds
  · exact each current (Multiset.mem_add.mpr (Or.inr kept))

/-- A window that is neither pending nor confirmed is accounted for. -/
theorem accounted_of_cancelled {cell : TokenCell} (valid : CellValid cell)
    (resolved : cell.status ≠ .pending) (unconfirmed : cell.state ≠ .confirmed) : Accounted cell := by
  cases state : cell.state with
  | pending => simp [TokenCell.status, state] at resolved
  | confirmed => exact absurd state unconfirmed
  | cancelledPending => exact Or.inr state
  | cancelledConfirmed => exact Or.inl (valid.reason state)

/-- A confirmed token of a tracked batch selects its events. -/
theorem batchSelectsEvent_of_confirmed {network : Network} {maximumAge : Nat}
    {registry : ObservationWindowRegistry} {batch : ProgramLogBatch} {event : DecodedEvent}
    {token : ObservationWindowToken} (tracked : batch.purpose = .trackedActivity)
    (member : token ∈ batch.windowTokens) (tracks : tracksToken token event = true)
    (confirmed : (registry.cell token).state = .confirmed)
    (contains : token.window.contains batch.receivedTimeUnixMs = true) :
    batchSelectsEvent network maximumAge registry batch event.event = true := by
  have target : eventTrackingTarget event.event = some token.target := by
    simpa [tracksToken] using tracks
  simp only [batchSelectsEvent, tracked, eventMatchesConfirmedWindow, target, List.any_eq_true]
  exact ⟨token, member, by simp [TokenCell.isConfirmedAt, confirmed, contains]⟩

/-- The loop goes over one more event. -/
theorem passed_append {processing : Processing} {event : DecodedEvent} {rest : List DecodedEvent}
    (remaining : processing.remaining = event :: rest)
    (split : processing.passed ++ processing.remaining = processing.batch.orderedEvents) :
    { processing with remaining := rest }.passed ++ rest = processing.batch.orderedEvents := by
  have ends : rest <:+ processing.batch.orderedEvents := by
    rw [← split, remaining]
    exact (List.suffix_cons event rest).trans (List.suffix_append _ _)
  obtain ⟨front, whole⟩ := ends
  have length : processing.batch.orderedEvents.length - rest.length = front.length := by
    rw [← whole, List.length_append]
    omega
  rw [Processing.passed, length, ← whole, List.take_left]

/-- The first selection finds the windows of the earlier events accounted for. -/
theorem ProcessingDelivers.firstSelection {processing : Processing} {network : Network}
    {maximumAge : Nat} {event : DecodedEvent} {rest : List DecodedEvent}
    (known : ProcessingDelivers windows processing) (valid : SystemValid windows)
    (resolved : processing.Resolved network maximumAge windows.registry)
    (tracked : processing.batch.purpose = .trackedActivity) (complete : processing.complete = true)
    (remaining : processing.remaining = event :: rest)
    (selects : batchSelectsEvent network maximumAge windows.registry processing.batch event.event = true)
    (first : processing.selectedEvents = 0) {token : ObservationWindowToken}
    (member : token ∈ processing.batch.windowTokens) :
    Delivered processing.batch (processing.handed ++ [event] ++ rest) token ∨
      Accounted (windows.registry.cell token) := by
  obtain ⟨handed, none, split⟩ := known.unselected first
  have excused := resolved tracked complete none event (by rw [remaining]; rfl)
  rw [if_pos selects] at excused
  by_cases left : ∃ earlier ∈ processing.passed, tracksToken token earlier = true
  · obtain ⟨earlier, passed, tracks⟩ := left
    right
    rcases excused first earlier passed token member tracks with cancelled | marked
    · refine accounted_of_cancelled (valid.registry.cells token.address) ?_ fun confirmed => ?_
      · rw [cancelled]
        nofun
      · simp [TokenCell.status, confirmed] at cancelled
    · exact Or.inl marked
  · left
    have others : processing.passed.filter (tracksToken token) = [] :=
      List.filter_eq_nil_iff.mpr fun earlier passed tracks => left ⟨earlier, passed, tracks⟩
    simp only [Delivered, handed, List.nil_append, List.singleton_append]
    rw [← split, remaining, List.filter_append, others, List.nil_append]

/-- An event that the loop passes over after a selection belongs to another token or to a window that
is accounted for. -/
theorem ProcessingDelivers.passOver {processing : Processing} {network : Network}
    {maximumAge : Nat} {event : DecodedEvent} {rest : List DecodedEvent}
    (known : ProcessingDelivers windows processing) (sound : ProcessingSound windows processing)
    (valid : SystemValid windows)
    (resolved : processing.Resolved network maximumAge windows.registry)
    (tracked : processing.batch.purpose = .trackedActivity) (complete : processing.complete = true)
    (none : processing.selected = none) (remaining : processing.remaining = event :: rest)
    (passes : ¬ batchSelectsEvent network maximumAge windows.registry processing.batch
      event.event = true)
    (selected : processing.selectedEvents ≠ 0) {token : ObservationWindowToken}
    (member : token ∈ processing.batch.windowTokens) :
    Delivered processing.batch (processing.handed ++ rest) token ∨
      Accounted (windows.registry.cell token) := by
  have excused := resolved tracked complete none event (by rw [remaining]; rfl)
  rw [if_neg passes] at excused
  rcases known.delivers tracked complete selected token member with delivered | accounted
  · by_cases tracks : tracksToken token event = true
    · right
      rcases excused selected token member tracks with settled | marked
      · have contains := sound.batch.contains tracked token member
        refine accounted_of_cancelled (valid.registry.cells token.address) settled fun confirmed => ?_
        -- a confirmed token that contains the receipt would have selected the event
        exact passes (batchSelectsEvent_of_confirmed tracked member tracks confirmed contains)
      · exact Or.inl marked
    · left
      simpa [none, remaining, Delivered, List.filter_cons, tracks] using delivered
  · exact Or.inr accounted

/-- Each pass of the loop keeps the deliveries of the batch. -/
theorem ProcessingDelivers.select {processing : Processing} {network : Network} {maximumAge : Nat}
    (known : ProcessingDelivers windows processing) (sound : ProcessingSound windows processing)
    (valid : SystemValid windows)
    (resolved : processing.Resolved network maximumAge windows.registry) :
    ProcessingDelivers windows (processing.select network maximumAge windows.registry) := by
  unfold Processing.select
  split
  · rename_i event rest none remaining
    split
    · rename_i selects
      refine ⟨fun unselected => absurd unselected (Nat.succ_ne_zero _), ?_⟩
      intro tracked complete _ token member
      by_cases first : processing.selectedEvents = 0
      · exact known.firstSelection valid resolved tracked complete remaining selects first member
      · rcases known.delivers tracked complete first token member with delivered | accounted
        · left
          simpa [none, remaining, Delivered] using delivered
        · exact Or.inr accounted
    · rename_i passes
      constructor
      case unselected =>
          intro unselected
          obtain ⟨handed, _, split⟩ := known.unselected unselected
          exact ⟨handed, none, passed_append remaining split⟩
      case delivers =>
          intro tracked complete selected token member
          have left := known.passOver sound valid resolved tracked complete none remaining passes
            selected member
          simpa [none] using left
  · exact known

theorem process_delivers {batch : ProgramLogBatch} {processing : Processing}
    (process : batch.process = some processing) : ProcessingDelivers windows processing := by
  unfold ProgramLogBatch.process at process
  split at process
  · cases process
    refine ⟨fun _ => ⟨rfl, rfl, ?_⟩, fun _ complete => nomatch complete⟩
    simp [Processing.passed]
  · obtain ⟨decoded, _, rfl⟩ := Option.map_eq_some_iff.mp process
    refine ⟨fun _ => ⟨rfl, rfl, ?_⟩, fun _ _ selected => absurd rfl selected⟩
    simp [Processing.passed]

theorem selectedEvents_of_outcomeComplete {processing : Processing}
    (outcome : processing.outcomeComplete = true) {token : ObservationWindowToken}
    (member : token ∈ processing.batch.windowTokens) : processing.selectedEvents ≠ 0 := by
  intro unselected
  have tokens : processing.batch.windowTokens.isEmpty = false := by
    rw [List.isEmpty_eq_false_iff]
    exact List.ne_nil_of_mem member
  simp [Processing.outcomeComplete, tokens, unselected] at outcome

theorem complete_of_outcomeComplete {processing : Processing}
    (outcome : processing.outcomeComplete = true) : processing.complete = true := by
  unfold Processing.outcomeComplete at outcome
  split at outcome
  · cases outcome
  · exact outcome

/-- A batch with a selected event has counted it. -/
theorem ProcessingDelivers.absurd_of_selected {processing : Processing} {property : Prop}
    (known : ProcessingDelivers windows processing) {event : DecodedEvent}
    (selected : processing.selected = some event) (unselected : processing.selectedEvents = 0) :
    property := by
  rw [(known.unselected unselected).2.1] at selected
  cases selected

theorem ProcessingDelivers.finish {processing : Processing}
    (known : ProcessingDelivers windows processing) (selected : processing.selected = none)
    (remaining : processing.remaining = []) (tracked : processing.batch.purpose = .trackedActivity) :
    ReleaseDelivers windows {
      batch := some processing.batch, handed := processing.handed,
      completed := processing.outcomeComplete, calls := processing.finish } processing.batch where
  uncancelled := by
    intro token
    rw [finish_cancellations]
    simp [Owner.provisional, tracked]
  warranted := by
    refine finish_warranted fun outcome token member => ?_
    have delivers := known.delivers tracked (complete_of_outcomeComplete outcome)
      (selectedEvents_of_outcomeComplete outcome member) token member
    simpa [selected, remaining] using delivers

/-- A handover delivers when the loop leaves no event of an open window behind. -/
theorem OwnerMove.delivers (move : OwnerMove config before action windows leaving entering)
    (sound : Sound windows leaving) (delivers : ∀ owner ∈ leaving, owner.Delivers windows)
    (resolved : WindowsResolved config before action) : ∀ owner ∈ entering, owner.Delivers windows := by
  cases move with
  | stay => exact delivers
  | @collectorMoves collector collected goesOn rest =>
      intro owner member
      rcases Multiset.mem_add.mp member with new | kept
      · cases collected with
        | suspended next =>
            rw [Multiset.mem_singleton.mp new]
            trivial
        | returned batches calls =>
            rcases Multiset.mem_add.mp new with batch | release
            · obtain ⟨current, _, rfl⟩ := Multiset.mem_map.mp batch
              trivial
            · rw [Multiset.mem_singleton.mp release]
              exact fun _ none => nomatch none
      · exact delivers owner (Multiset.mem_add.mpr (Or.inr kept))
  | collectorDrops collector rest => exact forall_mem_replace delivers fun _ none => nomatch none
  | @batchDrops owner batch carried calls drop rest =>
      have own := carried_sound sound.leaving carried
      refine forall_mem_replace delivers fun current same _ => ?_
      cases same
      exact ⟨fun token => (batchDrop_counts own drop token).2, batchDrop_warranted own drop⟩
  | @begins batch processing process rest => exact forall_mem_replace delivers (process_delivers process)
  | @selects processing awaited rest =>
      have own : ProcessingSound windows processing := sound.leaving
      have known : ProcessingDelivers windows processing :=
        delivers _ (Multiset.mem_add.mpr (Or.inl (Multiset.mem_singleton_self _)))
      exact forall_mem_replace delivers (known.select own sound.valid (awaited resolved))
  | @quarantines processing event selected rest =>
      have known : ProcessingDelivers windows processing :=
        delivers _ (Multiset.mem_add.mpr (Or.inl (Multiset.mem_singleton_self _)))
      exact forall_mem_replace delivers
        ⟨known.absurd_of_selected selected, fun _ complete => nomatch complete⟩
  | @hands processing event selected rest =>
      have known : ProcessingDelivers windows processing :=
        delivers _ (Multiset.mem_add.mpr (Or.inl (Multiset.mem_singleton_self _)))
      refine forall_mem_replace delivers
        ⟨known.absurd_of_selected selected, fun tracked complete counted token member => ?_⟩
      have earlier := known.delivers tracked complete counted token member
      simpa [selected] using earlier
  | @finishes processing selected remaining rest =>
      have known : ProcessingDelivers windows processing :=
        delivers _ (Multiset.mem_add.mpr (Or.inl (Multiset.mem_singleton_self _)))
      refine forall_mem_replace delivers fun batch same tracked => ?_
      cases same
      exact known.finish selected remaining tracked
  | ends => exact fun owner member => delivers owner (Multiset.mem_add.mpr (Or.inr member))

/-- An owner delivers while the cells of its tokens move forward. -/
theorem Owner.Delivers.advance {owner : Owner} {later : System} (delivers : owner.Delivers windows)
    (sound : owner.Sound windows) (advances : Advances windows later) : owner.Delivers later := by
  cases owner with
  | collector | batch => trivial
  | processing current =>
      have known : ProcessingDelivers windows current := delivers
      refine ⟨known.unselected, fun tracked complete selected token member => ?_⟩
      rcases known.delivers tracked complete selected token member with delivered | accounted
      · exact Or.inl delivered
      · exact Or.inr (accounted.progress
          (advances.cells token ((ProcessingSound.batch sound).issued token member)))
  | release current =>
      intro batch same tracked
      obtain ⟨uncancelled, warranted⟩ := delivers batch same tracked
      refine ⟨uncancelled, warranted.mono (fun entry member known => ?_) ?_⟩
      · rcases known with delivered | accounted
        · exact Or.inl delivered
        · exact Or.inr (accounted.progress
            (advances.cells entry.1 (ReleaseSound.calls sound entry member).1))
      · rintro ⟨token, call⟩ member secured
        cases call <;> simp only [Secures] at secured ⊢
        case cancelIfPending =>
            exact absurd (List.count_pos_iff.mpr member) (by
              have none := uncancelled token
              unfold TokenCalls.cancellations at none
              omega)

section Call

variable {release : Release} {batch : ProgramLogBatch} {token : ObservationWindowToken}
variable {call next : TokenCall} {calls : TokenCalls} {spuriousFailure : Bool}

theorem delivered_or_accounted_progress {later : System} (batch : ProgramLogBatch)
    (handed : List DecodedEvent) (sound : ReleaseSound windows release)
    (advances : Advances windows later) :
    ∀ entry ∈ release.calls,
      (Delivered batch handed entry.1 ∨ Accounted (windows.registry.cell entry.1)) →
      (Delivered batch handed entry.1 ∨ Accounted (later.registry.cell entry.1)) := by
  rintro entry member (delivered | accounted)
  · exact Or.inl delivered
  · exact Or.inr (accounted.progress (advances.cells entry.1 (sound.calls entry member).1))

theorem ReleaseDelivers.runs (delivers : ReleaseDelivers windows release batch)
    (sound : ReleaseSound windows release) (valid : SystemValid windows)
    (pending : release.calls = (token, call) :: calls)
    (running : (call.advance spuriousFailure (windows.registry.cell token)).1 = .running next) :
    ReleaseDelivers (windowsAfterCall windows token call spuriousFailure)
      { release with calls := (token, next) :: calls } batch := by
  obtain ⟨issued, released, ready⟩ := sound.calls (token, call)
    (by rw [pending]; exact List.mem_cons_self)
  obtain ⟨_, advances⟩ := windowsAfterCall_advances valid issued ready spuriousFailure
  constructor
  case uncancelled =>
      intro other
      have none := delivers.uncancelled other
      have fewer : TokenCalls.cancellations ((token, next) :: calls) other ≤
          TokenCalls.cancellations ((token, call) :: calls) other := cancellations_running running other
      rw [pending] at none
      exact Nat.le_zero.mp (none ▸ fewer)
  case warranted =>
      have warranted := delivers.warranted
      have kept := delivered_or_accounted_progress batch release.handed sound advances
      rw [pending] at warranted kept
      exact warranted.runs released running kept

theorem ReleaseDelivers.returns (delivers : ReleaseDelivers windows release batch)
    (sound : ReleaseSound windows release) (valid : SystemValid windows)
    (pending : release.calls = (token, call) :: calls) :
    ReleaseDelivers (windowsAfterCall windows token call spuriousFailure)
      { release with calls := calls } batch := by
  obtain ⟨issued, released, ready⟩ := sound.calls (token, call)
    (by rw [pending]; exact List.mem_cons_self)
  obtain ⟨_, advances⟩ := windowsAfterCall_advances valid issued ready spuriousFailure
  constructor
  case uncancelled =>
      intro other
      have none := delivers.uncancelled other
      rw [pending] at none
      exact Nat.le_zero.mp (none ▸ List.count_le_count_cons)
  case warranted =>
      have warranted := delivers.warranted
      have kept := delivered_or_accounted_progress batch release.handed sound advances
      rw [pending] at warranted kept
      refine warranted.returns released
        (fun entry member => kept entry (List.mem_cons_of_mem _ member)) fun accounted => Or.inr ?_
      change Accounted ((windows.registry.setCell token _).cell token)
      rw [cell_setCell]
      exact accounted

end Call

/-- A change of the windows keeps the deliveries of the owners. -/
theorem WindowMove.delivers (move : WindowMove before action windows owners settlements)
    (sound : Sound before.windows before.owners)
    (delivers : ∀ owner ∈ (before.owners : Multiset Owner), owner.Delivers before.windows) :
    ∀ owner ∈ owners, owner.Delivers windows := by
  have advances := move.advances sound
  have kept : ∀ owner ∈ (before.owners : Multiset Owner), owner.Delivers windows :=
    fun owner member => (delivers owner member).advance (sound.each owner member) advances
  cases move with
  | same | foreign => exact kept
  | collects owns =>
      intro owner member
      rcases Multiset.mem_add.mp member with new | old
      · rw [Multiset.mem_singleton.mp new]
        trivial
      · exact kept owner old
  | discovers same =>
      rw [same] at kept
      exact kept
  | @runs release token call next calls spuriousFailure rest same pending running =>
      rw [same] at kept sound delivers
      refine forall_mem_replace kept fun batch owned tracked => ?_
      exact ReleaseDelivers.runs (delivers _ (Multiset.mem_add.mpr
        (Or.inl (Multiset.mem_singleton_self _))) batch owned tracked) sound.leaving sound.valid pending
        running
  | @returns release token call calls spuriousFailure returned rest same pending result =>
      rw [same] at kept sound delivers
      refine forall_mem_replace kept fun batch owned tracked => ?_
      exact ReleaseDelivers.returns (delivers _ (Multiset.mem_add.mpr
        (Or.inl (Multiset.mem_singleton_self _))) batch owned tracked) sound.leaving sound.valid pending

/-- What a settled token of a tracked batch may rely on. -/
def SettlementDelivers (windows : System) (settlement : Settlement) : Prop :=
  ∀ batch, settlement.batch = some batch → batch.purpose = .trackedActivity →
    Delivered batch settlement.handed settlement.token ∨
      settlement.cell.incompleteReason ≠ none ∨
      (windows.registry.cell settlement.token).state = .cancelledPending

theorem Records.delivers {settlement : Settlement} (records : Records before settlement)
    (delivers : ∀ owner ∈ (before.owners : Multiset Owner), owner.Delivers before.windows) :
    SettlementDelivers before.windows settlement := by
  obtain ⟨release, rest, call, calls, _, same, pending, settles, owned, handed, _, cell, _⟩ := records
  rw [same] at delivers
  intro batch known tracked
  have own : ReleaseDelivers before.windows release batch :=
    delivers _ (Multiset.mem_add.mpr (Or.inl (Multiset.mem_singleton_self _))) batch
      (owned.symm.trans known) tracked
  have warranted := own.warranted
  rw [pending] at warranted
  rw [handed, cell]
  rcases warranted.1 settles with delivered | marked | cancelled
  · exact Or.inl delivered
  · exact Or.inr (Or.inl marked)
  · exact Or.inr (Or.inr cancelled)

structure StateDelivers (state : State) : Prop where
  sound : StateSound state
  owners : ∀ owner ∈ (state.owners : Multiset Owner), owner.Delivers state.windows
  settlements : ∀ settlement ∈ state.settlements, SettlementDelivers state.windows settlement

theorem StateDelivers.new (config : PipelineConfig) : StateDelivers (State.new config) where
  sound := .new config
  owners := by simp [State.owners, State.waiting, State.new]
  settlements := by simp [State.new]

theorem StateDelivers.next {state : State} (delivers : StateDelivers state) (config : PipelineConfig)
    {action : Action} (resolved : WindowsResolved config state action) :
    StateDelivers (state.next config action) := by
  have sound := delivers.sound.owners
  obtain ⟨owners, change, move⟩ := next_exchange config sound.valid action
  refine ⟨delivers.sound.next config action, move.delivers (change.sound sound)
    (change.delivers sound delivers.owners) resolved, fun settlement member => ?_⟩
  have advances := change.advances sound
  have known : SettlementDelivers state.windows settlement ∧
      settlement.token ∈ state.windows.issued := by
    rcases change.settlements_cases member with earlier | new
    · exact ⟨delivers.settlements settlement earlier, (delivers.sound.settlements settlement earlier).1⟩
    · exact ⟨new.delivers delivers.owners, (new.accounted sound).1⟩
  intro batch owned tracked
  rcases known.1 batch owned tracked with delivered | marked | cancelled
  · exact Or.inl delivered
  · exact Or.inr (Or.inl marked)
  · exact Or.inr (Or.inr ((advances.cells settlement.token known.2).cancelledPending cancelled))

end Moves

/-- In every run whose event loops leave no event of an open window behind in a tracked batch with a
selected event, a tracked batch that settles a token has handed over every event on the target of the
token, or the token carried a reason at that time, or the token is never confirmed. -/
theorem tracked_batch_delivers (config : PipelineConfig) {actions : List Action}
    (resolved : Transition.Along (State.step config) (WindowsResolved config) (State.new config)
      actions) :
    ∀ settlement ∈ (State.execute config actions).settlements, ∀ batch,
      settlement.batch = some batch → batch.purpose = .trackedActivity →
      Delivered batch settlement.handed settlement.token ∨
        settlement.cell.incompleteReason ≠ none ∨
        ((State.execute config actions).windows.registry.cell settlement.token).wasConfirmed = false := by
  have delivers : StateDelivers (State.execute config actions) :=
    Transition.invariant_of_along (State.step config) StateDelivers
      (fun _ _ earlier guard => earlier.next config guard) (.new config) resolved
  intro settlement member batch owned tracked
  rcases delivers.settlements settlement member batch owned tracked with
    delivered | marked | cancelled
  · exact Or.inl delivered
  · exact Or.inr (Or.inl marked)
  · exact Or.inr (Or.inr (by simp [TokenCell.wasConfirmed, cancelled]))

/-- The transaction of a discovery notification. -/
def discoveryTransaction (signature mint : String) : TransactionReply :=
  .found {
    slot := 7
    signature
    transactionError := false
    decoded := some {
      events := [{ program := .pump, instructionIndex := 0, eventIndex := 0,
                   event := .create mint 1000 }]
      quarantined := false } }

/-- The discovery of a mint is fetched, queued and processed until its token is confirmed. -/
def confirmRun (signature mint : String) (windowId : Int) : List Action :=
  [notifyPump signature [.create mint 1000], .permit 0 true,
    .transaction 0 (discoveryTransaction signature mint), .send 0, .receive 1000000, .process, .select,
    .store (.normalized (some (.pumpMint mint)) windowId false), .finish] ++
  List.replicate 6 (.release 0 false)

/-- A trade of a confirmed window is processed and settled. -/
def deliveredTradeRun : List Action :=
  confirmRun "first" "alpha" 1 ++
  [notifyPump "trade" [.trade "alpha"], .release 0 false, .send 0, .receive 1000000, .process, .select,
    .store (.normalized none 0 false), .finish] ++ List.replicate 3 (.release 0 false)

theorem tracked_batch_delivers_trade :
    Transition.Along (State.step smallPipeline) (WindowsResolved smallPipeline)
      (State.new smallPipeline) deliveredTradeRun ∧
    (∃ settlement ∈ (State.execute smallPipeline deliveredTradeRun).settlements,
      ∃ batch ∈ settlement.batch, batch.purpose = .trackedActivity) ∧
    ∀ settlement ∈ (State.execute smallPipeline deliveredTradeRun).settlements, ∀ batch,
      settlement.batch = some batch → batch.purpose = .trackedActivity →
      Delivered batch settlement.handed settlement.token ∨
        settlement.cell.incompleteReason ≠ none ∨
        ((State.execute smallPipeline deliveredTradeRun).windows.registry.cell
          settlement.token).wasConfirmed = false := by
  have resolved : Transition.Along (State.step smallPipeline) (WindowsResolved smallPipeline)
      (State.new smallPipeline) deliveredTradeRun := by decide +kernel
  exact ⟨resolved, by decide +kernel, tracked_batch_delivers smallPipeline resolved⟩

/-- One batch trades a confirmed and a pending mint. Its hold expires while the discovery of the
pending mint is queued, and the discovery is processed after the batch. -/
def lostTradeRun : List Action :=
  confirmRun "first" "alpha" 1 ++
  [notifyPump "second" [.create "beta" 1000], .permit 0 true,
    .transaction 0 (discoveryTransaction "second" "beta"), .release 0 false,
    notifyPump "trades" [.trade "alpha", .trade "beta"], .release 0 false, .send 1,
    .receive 1000000, .drain 1006000, .process, .select, .store (.normalized none 0 false), .select,
    .finish] ++ List.replicate 7 (.release 0 false) ++
  [.send 0, .receive 1006000, .process, .select, .store (.normalized (some (.pumpMint "beta")) 2 false)]

/-- The trade of the second mint is lost although its window is confirmed and carries no reason. -/
theorem tracked_batch_loses_pending_trade :
    ∃ settlement ∈ (State.execute smallPipeline lostTradeRun).settlements,
      ∃ batch ∈ settlement.batch, batch.purpose = .trackedActivity ∧
      ¬ Delivered batch settlement.handed settlement.token ∧
      ((State.execute smallPipeline lostTradeRun).windows.registry.cell
        settlement.token).incompleteReason = none ∧
      ((State.execute smallPipeline lostTradeRun).windows.registry.cell
        settlement.token).wasConfirmed = true := by
  decide +kernel

end Soldisco.Pipeline

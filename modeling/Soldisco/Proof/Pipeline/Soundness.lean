import Soldisco.Proof.Pipeline.Release

/-
This file proves the invariant of every run: the owners hold issued tokens, only its discovery can
confirm a provisional token, and every settlement of a drop finds its window accounted for.
-/

namespace Soldisco.Pipeline
open Domain Window Intake Holding

/-- The entries of a token that its discovery may still confirm or cancel. -/
def Owner.provisional (token : ObservationWindowToken) : Owner → Nat
  | .collector current => current.guard.newTokens.count token
  | .batch current => if current.purpose = .discovery then current.windowTokens.count token else 0
  | .processing current =>
      if current.batch.purpose = .discovery then current.batch.windowTokens.count token else 0
  | .release current => TokenCalls.cancellations current.calls token

/-- The tokens of a batch are issued and the tracked ones contain its receipt. -/
structure BatchSound (windows : System) (batch : ProgramLogBatch) : Prop where
  unprocessed : batch.processingSucceeded = false
  issued : ∀ token ∈ batch.windowTokens, token ∈ windows.issued
  contains : batch.purpose = .trackedActivity → ∀ token ∈ batch.windowTokens,
    token.window.contains batch.receivedTimeUnixMs = true

structure CollectorSound (windows : System) (collector : Collector) : Prop where
  armed : collector.guard.armed = true
  tracked : ∀ token ∈ collector.trackedWindows.tokens, token ∈ windows.issued ∧
    token.window.contains collector.received.receivedTimeUnixMs = true
  unconfirmed : ∀ token ∈ collector.guard.newTokens, token ∈ windows.issued ∧
    (windows.registry.cell token).wasConfirmed = false

/-- A discovery event is selected from a discovery batch only. -/
structure ProcessingSound (windows : System) (processing : Processing) : Prop where
  batch : BatchSound windows processing.batch
  discovers : ∀ event, processing.selected = some event → isDiscoveryEvent event.event = true →
    processing.batch.purpose = .discovery

structure ReleaseSound (windows : System) (release : Release) : Prop where
  calls : ∀ entry ∈ release.calls, entry.1 ∈ windows.issued ∧ isReleaseCall entry.2 = true ∧
    CallValid (windows.registry.cell entry.1) entry.2
  warranted : release.completed = false → Warranted windows.registry
    (fun token => Accounted (windows.registry.cell token)) release.calls

def Owner.Sound (windows : System) : Owner → Prop
  | .collector current => CollectorSound windows current
  | .batch current => BatchSound windows current
  | .processing current => ProcessingSound windows current
  | .release current => ReleaseSound windows current

/-- The windows are valid, each owner is sound and each token is provisional once at most. -/
structure Sound (windows : System) (owners : Multiset Owner) : Prop where
  valid : SystemValid windows
  each : ∀ owner ∈ owners, owner.Sound windows
  exclusive : ∀ token, total (Owner.provisional token) owners ≤ 1

/-- The owners that enter hold no more provisional tokens than those that leave. -/
theorem Sound.exchange {windows : System} {leaving entering rest : Multiset Owner}
    (sound : Sound windows (leaving + rest)) (each : ∀ owner ∈ entering, owner.Sound windows)
    (provisional : ∀ token, total (Owner.provisional token) entering ≤
      total (Owner.provisional token) leaving) : Sound windows (entering + rest) where
  valid := sound.valid
  each := by
    intro owner member
    rcases Multiset.mem_add.mp member with new | kept
    · exact each owner new
    · exact sound.each owner (Multiset.mem_add.mpr (Or.inr kept))
  exclusive := by
    intro token
    have before := sound.exclusive token
    have less := provisional token
    rw [total_add] at before ⊢
    omega

theorem Sound.leaving {windows : System} {owner : Owner} {rest : Multiset Owner}
    (sound : Sound windows ({owner} + rest)) : owner.Sound windows :=
  sound.each owner (Multiset.mem_add.mpr (Or.inl (Multiset.mem_singleton_self owner)))

/-- One owner takes the place of another. -/
theorem Sound.replace {windows : System} {owner next : Owner} {rest : Multiset Owner}
    (sound : Sound windows ({owner} + rest)) (nextSound : next.Sound windows)
    (provisional : ∀ token, next.provisional token ≤ owner.provisional token) :
    Sound windows ({next} + rest) := by
  apply sound.exchange
  · intro entering member
    rw [Multiset.mem_singleton.mp member]
    exact nextSound
  · intro token
    simpa using provisional token

section Drops

variable {windows : System}

/-- A drop that has not started is sound when its settlements are warranted. -/
theorem ReleaseSound.ofDrop {tokens : List ObservationWindowToken} {release : Release}
    (drop : DropOf tokens release.calls) (issued : ∀ token ∈ tokens, token ∈ windows.issued)
    (warranted : release.completed = false → Warranted windows.registry
      (fun token => Accounted (windows.registry.cell token)) release.calls) :
    ReleaseSound windows release where
  calls := by
    intro entry member
    obtain ⟨owned, entryCall, released⟩ := drop entry member
    exact ⟨issued entry.1 owned, released, .entry entryCall _⟩
  warranted := warranted

theorem drop_of_unprocessed {batch : ProgramLogBatch} (unprocessed : batch.processingSucceeded = false) :
    batch.drop = settleMarked batch.windowTokens [.markIncomplete .processingFailed] := by
  rw [ProgramLogBatch.drop, unprocessed]
  rfl

theorem BatchSound.dropOf {batch : ProgramLogBatch} (sound : BatchSound windows batch) :
    DropOf batch.windowTokens batch.drop := by
  rw [drop_of_unprocessed sound.unprocessed]
  exact settleMarked_dropOf (by simp [TokenCall.isEntry, isReleaseCall])

theorem trackedDrop_dropOf (guard : TrackedAdmissionGuard) : DropOf guard.tokens guard.drop :=
  settleMarked_dropOf (by simp [TokenCall.isEntry, isReleaseCall])

theorem guardDrop_of_armed {guard : ProvisionalWindowGuard} (armed : guard.armed = true) :
    guard.drop = (guard.newTokens.map fun token => (token, .cancelIfPending)) ++
      settleMarked guard.newTokens [] := by
  rw [ProvisionalWindowGuard.drop, if_pos armed]

theorem CollectorSound.guardDropOf {collector : Collector} (sound : CollectorSound windows collector) :
    DropOf collector.guard.newTokens collector.guard.drop := by
  rw [guardDrop_of_armed sound.armed]
  exact (map_dropOf rfl rfl).append (settleMarked_dropOf (by simp))

/-- The guard cancels its unconfirmed tokens before it settles them. -/
theorem CollectorSound.guardDrop_warranted {collector : Collector}
    (sound : CollectorSound windows collector) {safe : ObservationWindowToken → Prop} :
    Warranted windows.registry safe collector.guard.drop := by
  rw [guardDrop_of_armed sound.armed]
  refine (Warranted.ofUnsettled ?_).append (settleAll_warranted fun token member => Or.inr ?_)
  · intro entry member
    obtain ⟨token, _, rfl⟩ := List.mem_map.mp member
    rfl
  · exact ⟨.cancelIfPending, List.mem_map.mpr ⟨token, member, rfl⟩, (sound.unconfirmed token member).2⟩

theorem BatchSound.drop_warranted {batch : ProgramLogBatch} (sound : BatchSound windows batch)
    {safe : ObservationWindowToken → Prop} : Warranted windows.registry safe batch.drop := by
  rw [drop_of_unprocessed sound.unprocessed]
  exact settleMarked_warranted _ _

end Drops

section Moves

variable {windows : System}

/-- The tracked admissions of a collection go to one batch or there are none. -/
theorem trackedBatches_sound {collector : Collector} (sound : CollectorSound windows collector)
    {batches : List ProgramLogBatch}
    (form : ∀ batch ∈ batches, batch.processingSucceeded = false ∧
      batch.windowTokens = collector.trackedWindows.tokens ∧
      batch.receivedTimeUnixMs = collector.received.receivedTimeUnixMs) :
    ∀ batch ∈ batches, BatchSound windows batch := by
  intro batch member
  obtain ⟨unprocessed, tokens, receipt⟩ := form batch member
  refine ⟨unprocessed, ?_, fun _ => ?_⟩ <;> rw [tokens]
  · exact fun token owned => (sound.tracked token owned).1
  · rw [receipt]
    exact fun token owned => (sound.tracked token owned).2

/-- What a returned collection leaves behind is sound. -/
theorem returned_sound {batches : List ProgramLogBatch} {calls : TokenCalls}
    (batchesSound : ∀ batch ∈ batches, BatchSound windows batch)
    (releaseSound : ReleaseSound windows { batch := none, handed := [], completed := false, calls }) :
    ∀ owner ∈ (Collected.returned batches calls).owners, owner.Sound windows := by
  intro owner member
  rcases Multiset.mem_add.mp member with batch | release
  · obtain ⟨current, owned, rfl⟩ := Multiset.mem_map.mp batch
    exact batchesSound current (Multiset.mem_coe.mp owned)
  · rw [Multiset.mem_singleton.mp release]
    exact releaseSound

theorem giveUp_sound {collector : Collector} (sound : CollectorSound windows collector) :
    ∀ owner ∈ collector.giveUp.owners, owner.Sound windows := by
  refine returned_sound (trackedBatches_sound sound ?_) ?_
  · intro batch member
    unfold trackedActivityOrSkip at member
    split at member
    · cases member
    · rw [List.mem_singleton.mp member]
      exact ⟨rfl, rfl, rfl⟩
  · exact .ofDrop sound.guardDropOf (fun token owned => (sound.unconfirmed token owned).1)
      fun _ => sound.guardDrop_warranted

theorem discovered_sound {collector : Collector} (sound : CollectorSound windows collector)
    (transaction : TransactionRecord) :
    ∀ owner ∈ (collector.discovered transaction).owners, owner.Sound windows := by
  refine returned_sound ?_ ⟨by simp, fun _ => trivial⟩
  intro batch member
  rcases List.mem_cons.mp member with rfl | tracked
  · exact ⟨rfl, fun token owned => (sound.unconfirmed token owned).1, fun purpose => nomatch purpose⟩
  · refine trackedBatches_sound sound ?_ batch tracked
    intro current owned
    split at owned
    · cases owned
    · rw [List.mem_singleton.mp owned]
      exact ⟨rfl, rfl, rfl⟩

theorem total_returned (share : Owner → Nat) (batches : List ProgramLogBatch) (calls : TokenCalls) :
    total share (Collected.returned batches calls).owners =
      (batches.map fun batch => share (.batch batch)).sum +
        share (.release { batch := none, handed := [], completed := false, calls }) := by
  rw [Collected.owners, total_add, total_singleton]
  simp [total, Function.comp_def]

/-- The tracked batch of an early return holds the tracked admissions. -/
theorem sum_trackedActivityOrSkip (share : Owner → Nat) (received : ReceivedProgramLogNotification)
    (guard : TrackedAdmissionGuard) (amount : Nat) (empty : guard.tokens = [] → amount = 0)
    (single : share (.batch (notificationBatch received .trackedActivity guard.tokens)) = amount) :
    ((trackedActivityOrSkip received guard).map fun batch => share (.batch batch)).sum = amount := by
  unfold trackedActivityOrSkip
  split
  · rename_i none
    simp [empty (List.isEmpty_iff.mp none)]
  · simpa using single

theorem guardDrop_settlements {collector : Collector} (sound : CollectorSound windows collector)
    (token : ObservationWindowToken) :
    TokenCalls.settlements collector.guard.drop token = collector.guard.newTokens.count token := by
  rw [guardDrop_of_armed sound.armed, settlements_append, settlements_map rfl,
    settlements_settleMarked (by simp), Nat.zero_add]

theorem guardDrop_cancellations {collector : Collector} (sound : CollectorSound windows collector)
    (token : ObservationWindowToken) :
    TokenCalls.cancellations collector.guard.drop token = collector.guard.newTokens.count token := by
  rw [guardDrop_of_armed sound.armed, cancellations_append, cancellations_mapCancel,
    cancellations_settleMarked (by simp), Nat.add_zero]

/-- A collection that goes on keeps its admissions and its provisional tokens. -/
theorem goesOn_totals {collector : Collector} (sound : CollectorSound windows collector)
    {collected : Collected} (goesOn : collector.GoesOn collected) (token : ObservationWindowToken) :
    total (Owner.holds token) collected.owners = (Owner.collector collector).holds token ∧
      total (Owner.provisional token) collected.owners =
        (Owner.collector collector).provisional token := by
  cases goesOn with
  | suspended awaiting => exact ⟨total_singleton _ _, total_singleton _ _⟩
  | gaveUp =>
      constructor
      · rw [Collector.giveUp, total_returned, sum_trackedActivityOrSkip (Owner.holds token) _ _
          (collector.trackedWindows.tokens.count token) (by simp +contextual) rfl]
        simp only [Owner.holds, sound.armed, if_true, guardDrop_settlements sound]
      · rw [Collector.giveUp, total_returned, sum_trackedActivityOrSkip (Owner.provisional token) _ _
          0 (fun _ => rfl) rfl, Nat.zero_add]
        exact guardDrop_cancellations sound token
  | discovered transaction =>
      constructor
      · rw [Collector.discovered, total_returned]
        by_cases empty : collector.trackedWindows.tokens = []
        · simp [empty, Owner.holds, transactionBatch, sound.armed, TokenCalls.settlements]
        · simp [empty, Owner.holds, transactionBatch, sound.armed, TokenCalls.settlements,
            Nat.add_comm]
      · rw [Collector.discovered, total_returned]
        by_cases empty : collector.trackedWindows.tokens = [] <;>
          simp [empty, Owner.provisional, transactionBatch, TokenCalls.cancellations]

/-- The three parts of the end of a batch. -/
theorem finish_eq (processing : Processing) : processing.finish =
    (if processing.batch.purpose = .discovery then
      processing.batch.windowTokens.map fun token => (token, .cancelIfPending) else []) ++
    (if processing.outcomeComplete = false then
      processing.batch.windowTokens.map fun token => (token, .markIncomplete .decodeGap) else []) ++
    settleMarked processing.batch.windowTokens [] := by
  simp only [Processing.finish, ProgramLogBatch.drop, Bool.not_eq_true', if_true]

theorem finish_settlements (processing : Processing) (token : ObservationWindowToken) :
    TokenCalls.settlements processing.finish token = processing.batch.windowTokens.count token := by
  rw [finish_eq, settlements_append, settlements_append, settlements_settleMarked (by simp)]
  have cancels : TokenCalls.settlements (if processing.batch.purpose = .discovery then
      processing.batch.windowTokens.map fun token => (token, .cancelIfPending) else []) token = 0 := by
    split
    · exact settlements_map rfl
    · rfl
  have marks : TokenCalls.settlements (if processing.outcomeComplete = false then
      processing.batch.windowTokens.map fun token => (token, .markIncomplete .decodeGap) else [])
      token = 0 := by
    split
    · exact settlements_map rfl
    · rfl
  rw [cancels, marks, Nat.zero_add]

theorem finish_cancellations (processing : Processing) (token : ObservationWindowToken) :
    TokenCalls.cancellations processing.finish token =
      (Owner.processing processing).provisional token := by
  rw [finish_eq, cancellations_append, cancellations_append, cancellations_settleMarked (by simp)]
  have marks : TokenCalls.cancellations (if processing.outcomeComplete = false then
      processing.batch.windowTokens.map fun token => (token, .markIncomplete .decodeGap) else [])
      token = 0 := by
    split
    · exact cancellations_map (by simp)
    · rfl
  rw [marks]
  simp only [Owner.provisional, Nat.add_zero]
  split
  · exact cancellations_mapCancel
  · rfl

theorem finish_dropOf (processing : Processing) :
    DropOf processing.batch.windowTokens processing.finish := by
  rw [finish_eq]
  refine (DropOf.append ?_ ?_).append (settleMarked_dropOf (by simp)) <;> split
  · exact map_dropOf rfl rfl
  · exact fun _ member => nomatch member
  · exact map_dropOf rfl rfl
  · exact fun _ member => nomatch member

/-- The end of a batch settles tokens that are safe before or marked by an incomplete outcome. -/
theorem finish_warranted {processing : Processing} {safe : ObservationWindowToken → Prop}
    (known : processing.outcomeComplete = true → ∀ token ∈ processing.batch.windowTokens, safe token) :
    Warranted windows.registry safe processing.finish := by
  rw [finish_eq]
  refine (Warranted.ofUnsettled ?_).append (settleAll_warranted fun token member => ?_)
  · intro entry member
    rcases List.mem_append.mp member with cancel | mark
    · split at cancel
      · obtain ⟨token, _, rfl⟩ := List.mem_map.mp cancel
        rfl
      · cases cancel
    · split at mark
      · obtain ⟨token, _, rfl⟩ := List.mem_map.mp mark
        rfl
      · cases mark
  · cases outcome : processing.outcomeComplete with
    | true => exact Or.inl (known outcome token member)
    | false =>
        refine Or.inr ⟨.markIncomplete .decodeGap, List.mem_append_right _ ?_, trivial⟩
        rw [if_pos rfl]
        exact List.mem_map.mpr ⟨token, member, rfl⟩

/-- A discovery event names no tracked window, so a tracked batch never selects it. -/
theorem batchSelectsEvent_discovery {network : Network} {maximumAge : Nat}
    {registry : ObservationWindowRegistry} {batch : ProgramLogBatch} {event : PumpEvent}
    (selected : batchSelectsEvent network maximumAge registry batch event = true)
    (discovery : isDiscoveryEvent event = true) : batch.purpose = .discovery := by
  cases purpose : batch.purpose with
  | discovery => rfl
  | trackedActivity =>
      have untracked : eventTrackingTarget event = none := by
        cases event <;> first | rfl | cases discovery
      simp [batchSelectsEvent, purpose, eventMatchesConfirmedWindow, untracked] at selected

@[simp] theorem select_batch (processing : Processing) (network : Network) (maximumAge : Nat)
    (registry : ObservationWindowRegistry) :
    (processing.select network maximumAge registry).batch = processing.batch := by
  unfold Processing.select
  split
  · split <;> rfl
  · rfl

theorem ProcessingSound.select {processing : Processing} (sound : ProcessingSound windows processing)
    (network : Network) (maximumAge : Nat) (registry : ObservationWindowRegistry) :
    ProcessingSound windows (processing.select network maximumAge registry) := by
  refine ⟨by simpa using sound.batch, ?_⟩
  rw [select_batch]
  unfold Processing.select
  split
  · rename_i next rest none remaining
    split
    · rename_i selects
      intro event selected discovery
      cases selected
      exact batchSelectsEvent_discovery selects discovery
    · exact sound.discovers
  · exact sound.discovers

variable {config : PipelineConfig} {before : State} {action : Action}
variable {leaving entering : Multiset Owner}

theorem carried_sound {owner : Owner} {batch : ProgramLogBatch} (sound : owner.Sound windows)
    (carried : owner.carried = some batch) : BatchSound windows batch := by
  cases owner with
  | collector | release => cases carried
  | batch current =>
      cases carried
      exact sound
  | processing current =>
      cases carried
      exact sound.batch

theorem process_batch {batch : ProgramLogBatch} {processing : Processing}
    (process : batch.process = some processing) :
    processing.batch = batch ∧ processing.selected = none := by
  unfold ProgramLogBatch.process at process
  split at process
  · cases process
    exact ⟨rfl, rfl⟩
  · obtain ⟨decoded, _, rfl⟩ := Option.map_eq_some_iff.mp process
    exact ⟨rfl, rfl⟩

/-- The overflow of the pending queue cancels tokens of the batch before their settlement. -/
theorem batchDrop_dropOf {batch : ProgramLogBatch} (sound : BatchSound windows batch)
    {calls : TokenCalls} (drop : calls = batch.drop ∨ calls = batch.overflow ++ batch.drop) :
    DropOf batch.windowTokens calls := by
  rcases drop with rfl | rfl
  · exact sound.dropOf
  · exact (map_dropOf rfl rfl).append sound.dropOf

theorem batchDrop_warranted {batch : ProgramLogBatch} (sound : BatchSound windows batch)
    {calls : TokenCalls} (drop : calls = batch.drop ∨ calls = batch.overflow ++ batch.drop)
    {safe : ObservationWindowToken → Prop} : Warranted windows.registry safe calls := by
  rcases drop with rfl | rfl
  · exact sound.drop_warranted
  · refine (Warranted.ofUnsettled fun entry member => ?_).append sound.drop_warranted
    obtain ⟨token, _, rfl⟩ := List.mem_map.mp member
    rfl

theorem batchDrop_counts {batch : ProgramLogBatch} (sound : BatchSound windows batch)
    {calls : TokenCalls} (drop : calls = batch.drop ∨ calls = batch.overflow ++ batch.drop)
    (token : ObservationWindowToken) :
    TokenCalls.settlements calls token = batch.windowTokens.count token ∧
      TokenCalls.cancellations calls token = 0 := by
  have settlements : TokenCalls.settlements batch.drop token = batch.windowTokens.count token := by
    rw [drop_of_unprocessed sound.unprocessed]
    exact settlements_settleMarked (by simp [isSettlement])
  have cancellations : TokenCalls.cancellations batch.drop token = 0 := by
    rw [drop_of_unprocessed sound.unprocessed]
    exact cancellations_settleMarked (by simp)
  rcases drop with rfl | rfl
  · exact ⟨settlements, cancellations⟩
  · rw [settlements_append, cancellations_append, settlements, cancellations,
      ProgramLogBatch.overflow, settlements_map rfl, cancellations_map (by simp)]
    exact ⟨Nat.zero_add _, rfl⟩

/-- A handover keeps the owners sound. -/
theorem OwnerMove.sound (move : OwnerMove config before action windows leaving entering)
    (sound : Sound windows leaving) : Sound windows entering := by
  cases move with
  | stay => exact sound
  | @collectorMoves collector collected goesOn rest =>
      have own : CollectorSound windows collector := sound.leaving
      refine sound.exchange ?_ fun token => ?_
      · cases goesOn with
        | suspended awaiting =>
            intro owner member
            rw [Multiset.mem_singleton.mp member]
            exact ⟨own.armed, own.tracked, own.unconfirmed⟩
        | gaveUp => exact giveUp_sound own
        | discovered transaction => exact discovered_sound own transaction
      · rw [(goesOn_totals own goesOn token).2, total_singleton]
  | collectorDrops collector rest =>
      have own : CollectorSound windows collector := sound.leaving
      have drop : DropOf (collector.guard.newTokens ++ collector.trackedWindows.tokens)
          (collector.guard.drop ++ collector.trackedWindows.drop) :=
        (own.guardDropOf.mono (List.subset_append_left _ _)).append
          ((trackedDrop_dropOf _).mono (List.subset_append_right _ _))
      refine sound.replace ?_ fun token => ?_
      · refine .ofDrop drop ?_ fun _ => ?_
        · intro token member
          rcases List.mem_append.mp member with new | tracked
          · exact (own.unconfirmed token new).1
          · exact (own.tracked token tracked).1
        · exact own.guardDrop_warranted.append (settleMarked_warranted _ _)
      · change TokenCalls.cancellations (_ ++ _) token ≤ _
        rw [cancellations_append, guardDrop_cancellations own, TrackedAdmissionGuard.drop,
          cancellations_settleMarked (by simp)]
        exact Nat.le_refl _
  | @batchDrops owner batch carried calls drop rest =>
      have own := carried_sound sound.leaving carried
      refine sound.replace (.ofDrop (batchDrop_dropOf own drop) own.issued fun _ =>
        batchDrop_warranted own drop) fun token => ?_
      change TokenCalls.cancellations calls token ≤ _
      rw [(batchDrop_counts own drop token).2]
      exact Nat.zero_le _
  | @begins batch processing process rest =>
      have own : BatchSound windows batch := sound.leaving
      obtain ⟨rfl, unselected⟩ := process_batch process
      refine sound.replace ⟨own, fun event selected => ?_⟩ fun token => Nat.le_refl _
      rw [unselected] at selected
      cases selected
  | @selects processing resolved rest =>
      have own : ProcessingSound windows processing := sound.leaving
      refine sound.replace (own.select _ _ _) fun token => ?_
      simp only [Owner.provisional, select_batch]
      exact Nat.le_refl _
  | @quarantines processing event selected rest | @hands processing event selected rest =>
      have own : ProcessingSound windows processing := sound.leaving
      exact sound.replace ⟨own.batch, fun _ absent => nomatch absent⟩ fun token => Nat.le_refl _
  | @finishes processing selected remaining rest =>
      have own : ProcessingSound windows processing := sound.leaving
      refine sound.replace (.ofDrop (finish_dropOf processing) own.batch.issued fun incomplete =>
        finish_warranted fun complete => ?_) fun token => ?_
      · exact absurd (incomplete.symm.trans complete) Bool.false_ne_true
      · exact Nat.le_of_eq (finish_cancellations processing token)
  | @ends release done rest =>
      have empty : Sound windows (0 + entering) := sound.exchange (by simp) (by simp)
      simpa using empty

/-- A handover moves admissions and loses none. -/
theorem OwnerMove.holds (move : OwnerMove config before action windows leaving entering)
    (sound : Sound windows leaving) (token : ObservationWindowToken) :
    total (Owner.holds token) entering = total (Owner.holds token) leaving := by
  cases move with
  | stay => rfl
  | @collectorMoves collector collected goesOn rest =>
      rw [total_add, total_add, (goesOn_totals sound.leaving goesOn token).1, total_singleton]
  | collectorDrops collector rest =>
      have own : CollectorSound windows collector := sound.leaving
      rw [total_add, total_add, total_singleton, total_singleton]
      change TokenCalls.settlements (_ ++ _) token + _ = _
      rw [settlements_append, guardDrop_settlements own, TrackedAdmissionGuard.drop,
        settlements_settleMarked (by simp [isSettlement])]
      simp only [Owner.holds, own.armed, if_true, Nat.add_comm]
  | @batchDrops owner batch carried calls drop rest =>
      have own := carried_sound sound.leaving carried
      have same : batch.windowTokens.count token = owner.holds token := by
        cases owner <;> cases carried <;> rfl
      rw [total_add, total_add, total_singleton, total_singleton, ← same]
      change TokenCalls.settlements calls token + _ = _
      rw [(batchDrop_counts own drop token).1]
  | @begins batch processing process rest =>
      obtain ⟨rfl, _⟩ := process_batch process
      rw [total_add, total_add, total_singleton, total_singleton]
      rfl
  | @selects processing resolved rest =>
      rw [total_add, total_add, total_singleton, total_singleton]
      simp only [Owner.holds, select_batch]
  | quarantines | hands =>
      rw [total_add, total_add, total_singleton, total_singleton]
      rfl
  | @finishes processing selected remaining rest =>
      rw [total_add, total_add, total_singleton, total_singleton]
      simp only [Owner.holds, finish_settlements]
  | @ends release done rest =>
      rw [total_add, total_singleton]
      simp [Owner.holds, done, TokenCalls.settlements]

end Moves
end Soldisco.Pipeline

import Soldisco.Proof.Pipeline.Soundness

/-
This file proves that every step keeps the owners sound, whatever the other threads do.
-/

namespace Soldisco.Pipeline
open Domain Window Intake Holding ObservationWindowRegistry

/-- Tokens stay issued and their cells move forward. -/
structure Advances (before after : System) : Prop where
  issued : ∀ token ∈ before.issued, token ∈ after.issued
  cells : ∀ token ∈ before.issued,
    CellProgress (before.registry.cell token) (after.registry.cell token)

section Shift

variable {before after : System}

theorem BatchSound.advance {batch : ProgramLogBatch} (sound : BatchSound before batch)
    (advances : Advances before after) : BatchSound after batch :=
  ⟨sound.unprocessed, fun token member => advances.issued token (sound.issued token member),
    sound.contains⟩

theorem ProcessingSound.advance {processing : Processing} (sound : ProcessingSound before processing)
    (advances : Advances before after) : ProcessingSound after processing :=
  ⟨sound.batch.advance advances, sound.discovers⟩

theorem ReleaseSound.advance {release : Release} (sound : ReleaseSound before release)
    (advances : Advances before after)
    (unconfirmed : ∀ token ∈ before.issued, 0 < TokenCalls.cancellations release.calls token →
      (before.registry.cell token).wasConfirmed = false →
      (after.registry.cell token).wasConfirmed = false) : ReleaseSound after release where
  calls := by
    intro entry member
    obtain ⟨issued, released, ready⟩ := sound.calls entry member
    exact ⟨advances.issued entry.1 issued, released, ready.progress (advances.cells entry.1 issued)⟩
  warranted := by
    intro incomplete
    refine (sound.warranted incomplete).mono ?_ ?_
    · intro entry member accounted
      exact accounted.progress (advances.cells entry.1 (sound.calls entry member).1)
    · rintro ⟨token, call⟩ member secured
      cases call <;> simp only [Secures] at secured ⊢
      case cancelIfPending =>
          exact unconfirmed token (sound.calls _ member).1 (List.count_pos_iff.mpr member) secured

/-- An owner stays sound while none of its provisional tokens is confirmed. -/
theorem Owner.Sound.advance {owner : Owner} (sound : owner.Sound before)
    (advances : Advances before after)
    (unconfirmed : ∀ token ∈ before.issued, 0 < owner.provisional token →
      (before.registry.cell token).wasConfirmed = false →
      (after.registry.cell token).wasConfirmed = false) : owner.Sound after := by
  cases owner with
  | collector current =>
      have own : CollectorSound before current := sound
      refine ⟨own.armed, fun token member => ?_, fun token member => ?_⟩
      · obtain ⟨issued, contains⟩ := own.tracked token member
        exact ⟨advances.issued token issued, contains⟩
      · obtain ⟨issued, pending⟩ := own.unconfirmed token member
        exact ⟨advances.issued token issued,
          unconfirmed token issued (List.count_pos_iff.mpr member) pending⟩
  | batch current => exact BatchSound.advance sound advances
  | processing current => exact ProcessingSound.advance sound advances
  | release current => exact ReleaseSound.advance sound advances unconfirmed

/-- A provisional token is issued. -/
theorem Owner.Sound.provisional_issued {owner : Owner} {windows : System}
    (sound : owner.Sound windows) {token : ObservationWindowToken}
    (provisional : 0 < owner.provisional token) : token ∈ windows.issued := by
  cases owner with
  | collector current =>
      exact (CollectorSound.unconfirmed sound token (List.count_pos_iff.mp provisional)).1
  | batch current =>
      simp only [Owner.provisional] at provisional
      split at provisional
      · exact BatchSound.issued sound token (List.count_pos_iff.mp provisional)
      · cases provisional
  | processing current =>
      simp only [Owner.provisional] at provisional
      split at provisional
      · exact (ProcessingSound.batch sound).issued token (List.count_pos_iff.mp provisional)
      · cases provisional
  | release current =>
      exact (ReleaseSound.calls sound _ (List.count_pos_iff.mp provisional)).1

/-- The owners stay sound when the windows change without a confirmation. -/
theorem Sound.advance {owners : Multiset Owner} (sound : Sound before owners)
    (valid : SystemValid after) (advances : Advances before after)
    (unconfirmed : ∀ token ∈ before.issued, (before.registry.cell token).wasConfirmed = false →
      (after.registry.cell token).wasConfirmed = false) : Sound after owners where
  valid := valid
  each := fun owner member => (sound.each owner member).advance advances
    fun token issued _ => unconfirmed token issued
  exclusive := sound.exclusive

end Shift

/-- A relation that holds for the changed cell and is reflexive holds for every cell. -/
theorem setCell_related {relation : TokenCell → TokenCell → Prop} (refl : ∀ cell, relation cell cell)
    {registry : ObservationWindowRegistry} {token : ObservationWindowToken} {cell : TokenCell}
    (related : relation (registry.cell token) cell) (other : ObservationWindowToken) :
    relation (registry.cell other) ((registry.setCell token cell).cell other) := by
  by_cases same : other.address = token.address
  · have own : registry.cell other = registry.cell token := by
      simp only [ObservationWindowRegistry.cell, same]
    have changed : (registry.setCell token cell).cell other = cell := by
      simp [ObservationWindowRegistry.cell, ObservationWindowRegistry.setCell, same]
    rw [own, changed]
    exact related
  · have unchanged : (registry.setCell token cell).cell other = registry.cell other :=
      cells_setCell_of_ne cell same
    rw [unchanged]
    exact refl _

/-- A cell operation outside the finalization keeps the windows valid. -/
theorem setCell_valid {windows : System} (valid : SystemValid windows)
    {token : ObservationWindowToken} (issued : token ∈ windows.issued) {cell : TokenCell}
    (progress : CellProgress (windows.registry.cell token) cell) (cellValid : CellValid cell)
    (claimed : cell.finalizationClaimed = (windows.registry.cell token).finalizationClaimed) :
    SystemValid { windows with registry := windows.registry.setCell token cell } := by
  apply valid.setCell issued progress cellValid
  case called => exact fun entry member => Or.inl member
  case holders => exact fun live member => valid.holders _ (List.mem_map.mpr ⟨live, member, rfl⟩)
  case exclusive => exact valid.exclusive
  case own =>
      rw [claimed]
      exact valid.claimed token issued
  case others => exact fun _ _ => Iff.rfl

section Windows

variable {windows : System}

/-- A foreign action issues no token, counts nothing and confirms nothing. -/
theorem foreign_counted (valid : SystemValid windows) {action : Window.Action}
    (foreign : isForeign action = true) :
    (windows.step action).2.issued = windows.issued ∧ ∀ token ∈ windows.issued,
      Counted 0 (windows.registry.cell token) ((windows.step action).2.registry.cell token) := by
  have issued : (windows.step action).2.issued = windows.issued := by
    cases action <;> simp only [isForeign, Bool.false_eq_true] at foreign <;>
      simp only [System.step, System.claim, System.commitClaim, System.dropClaim] <;> split <;> rfl
  refine ⟨issued, fun token member => ?_⟩
  have change := step_change valid action
  have neutral : action.isCounterNeutral = true := by
    cases action <;> first | rfl | cases foreign
  have unconfirming : windows.pendingConfirmation action = none := by
    cases action <;> first | rfl | cases foreign
  have progress := (change.evolution valid.registry).cells token member
  obtain ⟨admitted, settled⟩ := step_counters windows neutral token.address
  refine ⟨progress, admitted, settled, ?_⟩
  rw [Bool.eq_iff_iff]
  refine ⟨fun confirmed => ?_, progress.wasConfirmed⟩
  rcases (change.confirmed valid.registry (issued ▸ member) confirmed).2 with earlier | now
  · exact earlier
  · rw [unconfirming] at now
    cases now

theorem setDurableWindowId_valid {cell : TokenCell} (valid : CellValid cell) (windowId : Int) :
    CellValid (cell.setDurableWindowId windowId).2 := by
  unfold TokenCell.setDurableWindowId
  split
  · exact valid
  · rename_i accepted
    split
    · exact valid
    · refine ⟨valid.settled, valid.reason, fun _ => ?_⟩
      simp only [Bool.or_eq_true, decide_eq_true_eq, Bool.not_eq_true', not_or] at accepted
      simpa [TokenCell.wasConfirmed] using accepted.2

/-- A discovery works on the cell of its token and counts nothing. -/
theorem openDiscovery_cell (registry : ObservationWindowRegistry) (token : ObservationWindowToken)
    (windowId : Int) (replayed : Bool) :
    ∃ cell, (Processing.openDiscovery registry token windowId replayed).2 =
        registry.setCell token cell ∧
      CellProgress (registry.cell token) cell ∧
      (CellValid (registry.cell token) → CellValid cell) ∧
      cell.finalizationClaimed = (registry.cell token).finalizationClaimed ∧
      (registry.cell token).SameCounters cell := by
  unfold Processing.openDiscovery
  split
  · refine ⟨_, rfl, TokenCell.cancelIfPending_progress _, TokenCell.cancelIfPending_valid, ?_,
      TokenCell.cancelIfPending_counters _⟩
    unfold TokenCell.cancelIfPending
    split <;> rfl
  · have progress := TokenCell.confirm_progress (registry.cell token)
    have valid := @TokenCell.confirm_valid (registry.cell token)
    have counters := TokenCell.confirm_counters (registry.cell token)
    have claimed : (registry.cell token).confirm.2.finalizationClaimed =
        (registry.cell token).finalizationClaimed := by
      unfold TokenCell.confirm
      split <;> rfl
    split
    · rename_i unchanged outcome
      rw [outcome] at progress valid counters claimed
      exact ⟨_, rfl, progress, valid, claimed, counters⟩
    · rename_i confirmed outcome
      rw [outcome] at progress valid counters claimed
      have durable := TokenCell.setDurableWindowId_counters confirmed windowId
      refine ⟨_, rfl, progress.trans (TokenCell.setDurableWindowId_progress _ _),
        fun earlier => setDurableWindowId_valid (valid earlier) windowId, ?_,
        durable.1.trans counters.1, durable.2.trans counters.2⟩
      rw [← claimed]
      unfold TokenCell.setDurableWindowId
      split
      · rfl
      · split <;> rfl

theorem windowsAfterDiscovery_advances (valid : SystemValid windows)
    {token : ObservationWindowToken} (issued : token ∈ windows.issued) (windowId : Int)
    (replayed : Bool) :
    SystemValid (windowsAfterDiscovery windows token windowId replayed) ∧
      Advances windows (windowsAfterDiscovery windows token windowId replayed) := by
  obtain ⟨cell, same, progress, cellValid, claimed, _⟩ :=
    openDiscovery_cell windows.registry token windowId replayed
  unfold windowsAfterDiscovery
  rw [same]
  exact ⟨setCell_valid valid issued progress (cellValid (valid.registry.cells token.address)) claimed,
    fun _ member => member, fun other _ => setCell_related CellProgress.refl progress other⟩

theorem windowsAfterCall_advances (valid : SystemValid windows) {token : ObservationWindowToken}
    {call : TokenCall} (issued : token ∈ windows.issued)
    (ready : CallValid (windows.registry.cell token) call) (spuriousFailure : Bool) :
    SystemValid (windowsAfterCall windows token call spuriousFailure) ∧
      Advances windows (windowsAfterCall windows token call spuriousFailure) := by
  have progress := call.advance_progress spuriousFailure (windows.registry.cell token)
  exact ⟨setCell_valid valid issued progress (TokenCall.advance_valid spuriousFailure
      (valid.registry.cells token.address) ready) (TokenCall.advance_finalizationClaimed _),
    fun _ member => member, fun other _ => setCell_related CellProgress.refl progress other⟩

/-- No call of a drop confirms a token. -/
theorem windowsAfterCall_wasConfirmed {token : ObservationWindowToken} {call : TokenCall}
    (released : isReleaseCall call = true) (spuriousFailure : Bool)
    (other : ObservationWindowToken) :
    ((windowsAfterCall windows token call spuriousFailure).registry.cell other).wasConfirmed =
      (windows.registry.cell other).wasConfirmed :=
  @setCell_related (fun earlier later => later.wasConfirmed = earlier.wasConfirmed) (fun _ => rfl)
    windows.registry token _ (advance_wasConfirmed released) other

end Windows

section Steps

variable {config : PipelineConfig} {before : State} {action : Action}
variable {windows : System} {owners : Multiset Owner} {settlements : List Settlement}

theorem Admission.advances {opened admitted : List ObservationWindowToken} {earlier later : System}
    (admission : Admission opened admitted earlier later) : Advances earlier later where
  issued := by
    intro token member
    rw [admission.issued]
    exact List.mem_append_left _ member
  cells := fun token member => (admission.counted token member).progress

theorem Collector.Owns.sound {collector : Collector} {earlier later : System}
    (owns : collector.Owns earlier later) : CollectorSound later collector where
  armed := owns.armed
  tracked := fun token member =>
    ⟨owns.admission.members token (List.mem_append_left _ member), owns.contains token member⟩
  unconfirmed := fun token member =>
    ⟨owns.admission.members token (List.mem_append_right _ member),
      (owns.admission.started token member).wasConfirmed⟩

/-- The new tokens of a collection belong to no earlier owner. -/
theorem Sound.collects {collector : Collector} {earlier later : System}
    (sound : Sound earlier owners) (owns : collector.Owns earlier later) :
    Sound later ({.collector collector} + owners) := by
  have kept := sound.advance owns.admission.valid owns.admission.advances fun token issued pending =>
    (owns.admission.counted token issued).wasConfirmed.trans pending
  refine ⟨owns.admission.valid, fun owner member => ?_, fun token => ?_⟩
  · rcases Multiset.mem_add.mp member with new | old
    · rw [Multiset.mem_singleton.mp new]
      exact owns.sound
    · exact kept.each owner old
  · rw [total_add, total_singleton]
    have distinct := List.nodup_iff_count_le_one.mp owns.admission.distinct token
    by_cases new : token ∈ collector.guard.newTokens
    · have unknown : total (Owner.provisional token) owners = 0 := by
        apply total_eq_zero
        intro owner member
        by_contra provisional
        exact owns.admission.new token new
          ((sound.each owner member).provisional_issued (Nat.pos_of_ne_zero provisional))
      rw [unknown]
      exact distinct
    · have exclusive := sound.exclusive token
      have absent : (Owner.collector collector).provisional token = 0 :=
        List.count_eq_zero_of_not_mem new
      omega

/-- Only the batch of the discovery holds the token that it confirms. -/
theorem Sound.discovers {processing : Processing} {event : DecodedEvent}
    {token : ObservationWindowToken} {rest : Multiset Owner}
    (sound : Sound windows ({.processing processing} + rest))
    (selected : processing.selected = some event) (discovery : isDiscoveryEvent event.event = true)
    (member : token ∈ processing.batch.windowTokens) (windowId : Int) (replayed : Bool) :
    Sound (windowsAfterDiscovery windows token windowId replayed)
      ({.processing processing} + rest) := by
  have own : ProcessingSound windows processing := sound.leaving
  have issued := own.batch.issued token member
  obtain ⟨valid, advances⟩ := windowsAfterDiscovery_advances sound.valid issued windowId replayed
  have provisional : 0 < (Owner.processing processing).provisional token := by
    simp only [Owner.provisional, own.discovers event selected discovery, if_true]
    exact List.count_pos_iff.mpr member
  refine ⟨valid, fun owner owned => ?_, sound.exclusive⟩
  rcases Multiset.mem_add.mp owned with same | other
  · rw [Multiset.mem_singleton.mp same]
    exact own.advance advances
  · refine (sound.each owner owned).advance advances fun held heldIssued heldProvisional pending => ?_
    -- the other owner cannot hold the discovered token, so its cell is unchanged
    have different : held ≠ token := by
      rintro rfl
      have exclusive := sound.exclusive held
      have share := share_le_total (Owner.provisional held) other
      rw [total_add, total_singleton] at exclusive
      omega
    have address : held.address ≠ token.address := fun equal =>
      different (sound.valid.registry.injective held heldIssued token issued equal)
    obtain ⟨cell, same, _⟩ := openDiscovery_cell windows.registry token windowId replayed
    have unchanged : (windowsAfterDiscovery windows token windowId replayed).registry.cell held =
        windows.registry.cell held := by
      unfold windowsAfterDiscovery
      rw [same]
      exact cells_setCell_of_ne cell address
    rw [unchanged]
    exact pending

section Call

variable {release : Release} {token : ObservationWindowToken} {call : TokenCall}
variable {calls : TokenCalls} {rest : Multiset Owner} {spuriousFailure : Bool}

/-- The other owners stay sound while a drop performs one operation. -/
theorem Sound.afterCall (sound : Sound windows ({.release release} + rest))
    (pending : release.calls = (token, call) :: calls) (spuriousFailure : Bool) :
    Sound (windowsAfterCall windows token call spuriousFailure) ({.release release} + rest) := by
  obtain ⟨issued, released, ready⟩ := (show ReleaseSound windows release from sound.leaving).calls
    (token, call) (by rw [pending]; exact List.mem_cons_self)
  obtain ⟨valid, advances⟩ := windowsAfterCall_advances sound.valid issued ready spuriousFailure
  exact sound.advance valid advances fun other _ unconfirmed =>
    (windowsAfterCall_wasConfirmed released spuriousFailure other).trans unconfirmed

theorem ReleaseSound.runs {next : TokenCall} (sound : ReleaseSound windows release)
    (valid : SystemValid windows) (pending : release.calls = (token, call) :: calls)
    (running : (call.advance spuriousFailure (windows.registry.cell token)).1 = .running next) :
    ReleaseSound (windowsAfterCall windows token call spuriousFailure)
      { release with calls := (token, next) :: calls } := by
  have head : (token, call) ∈ release.calls := by
    rw [pending]
    exact List.mem_cons_self
  obtain ⟨issued, released, ready⟩ := sound.calls (token, call) head
  obtain ⟨_, advances⟩ := windowsAfterCall_advances valid issued ready spuriousFailure
  constructor
  case calls =>
      intro entry member
      rcases List.mem_cons.mp member with rfl | later
      · refine ⟨issued, (advance_isReleaseCall released running).1, ?_⟩
        change CallValid ((windows.registry.setCell token _).cell token) next
        rw [cell_setCell]
        exact TokenCall.advance_running spuriousFailure ready running
      · have known := sound.calls entry (by rw [pending]; exact List.mem_cons_of_mem _ later)
        exact ⟨known.1, known.2.1, known.2.2.progress (advances.cells entry.1 known.1)⟩
  case warranted =>
      intro incomplete
      have warranted := sound.warranted incomplete
      rw [pending] at warranted
      refine warranted.runs released running fun entry member accounted => ?_
      exact accounted.progress (advances.cells entry.1 (sound.calls entry (pending ▸ member)).1)

theorem ReleaseSound.returns (sound : ReleaseSound windows release) (valid : SystemValid windows)
    (pending : release.calls = (token, call) :: calls) :
    ReleaseSound (windowsAfterCall windows token call spuriousFailure)
      { release with calls := calls } := by
  have head : (token, call) ∈ release.calls := by
    rw [pending]
    exact List.mem_cons_self
  have tail {entry : ObservationWindowToken × TokenCall} (member : entry ∈ calls) :=
    sound.calls entry (by rw [pending]; exact List.mem_cons_of_mem _ member)
  obtain ⟨issued, released, ready⟩ := sound.calls (token, call) head
  obtain ⟨_, advances⟩ := windowsAfterCall_advances valid issued ready spuriousFailure
  constructor
  case calls =>
      intro entry member
      obtain ⟨known, releasedLater, readyLater⟩ := tail member
      exact ⟨known, releasedLater, readyLater.progress (advances.cells entry.1 known)⟩
  case warranted =>
      intro incomplete
      have warranted := sound.warranted incomplete
      rw [pending] at warranted
      refine warranted.returns released (fun entry member accounted => ?_) fun accounted => ?_
      · exact accounted.progress (advances.cells entry.1 (tail member).1)
      · change Accounted ((windows.registry.setCell token _).cell token)
        rw [cell_setCell]
        exact accounted

end Call

/-- A call that goes on is no cancellation that returns at once. -/
theorem cancellations_running {token : ObservationWindowToken} {call next : TokenCall}
    {spuriousFailure : Bool} {cell : TokenCell} {calls : TokenCalls}
    (running : (call.advance spuriousFailure cell).1 = .running next)
    (other : ObservationWindowToken) :
    TokenCalls.cancellations ((token, next) :: calls) other ≤
      TokenCalls.cancellations ((token, call) :: calls) other := by
  have different : next ≠ .cancelIfPending := by
    rintro rfl
    cases call <;> simp only [TokenCall.advance] at running <;> grind
  have absent : ¬ ((token, next) == (other, TokenCall.cancelIfPending)) = true := by
    simp [different]
  unfold TokenCalls.cancellations
  rw [List.count_cons, if_neg absent]
  exact List.count_le_count_cons

/-- A change of the windows keeps the owners sound. -/
theorem WindowMove.sound (move : WindowMove before action windows owners settlements)
    (sound : Sound before.windows before.owners) : Sound windows owners := by
  cases move with
  | same => exact sound
  | foreign foreign =>
      obtain ⟨issued, counted⟩ := foreign_counted sound.valid foreign
      refine sound.advance (step_valid sound.valid _) ⟨fun token member => ?_, fun token member => ?_⟩
        fun token member unconfirmed => (counted token member).wasConfirmed.trans unconfirmed
      · rw [issued]
        exact member
      · exact (counted token member).progress
  | collects owns => exact sound.collects owns
  | discovers same selected discovery member windowId replayed =>
      rw [same] at sound
      exact sound.discovers selected discovery member windowId replayed
  | runs same pending running =>
      rw [same] at sound
      have own : ReleaseSound before.windows _ := sound.leaving
      refine (sound.afterCall pending _).replace (own.runs sound.valid pending running) fun other => ?_
      simp only [Owner.provisional, pending]
      exact cancellations_running running other
  | returns same pending result =>
      rw [same] at sound
      have own : ReleaseSound before.windows _ := sound.leaving
      refine (sound.afterCall pending _).replace (own.returns sound.valid pending) fun other => ?_
      simp only [Owner.provisional, pending]
      exact List.count_le_count_cons

/-- The settlement that a drop records when its call returns. -/
def Records (state : State) (settlement : Settlement) : Prop :=
  ∃ release rest call calls spuriousFailure,
    (state.owners : Multiset Owner) = {.release release} + rest ∧
    release.calls = (settlement.token, call) :: calls ∧ isSettlement call = true ∧
    settlement.batch = release.batch ∧ settlement.handed = release.handed ∧
    settlement.completed = release.completed ∧
    settlement.cell = state.windows.registry.cell settlement.token ∧
    (call.advance spuriousFailure settlement.cell).1 = .returned settlement.returned

/-- A settlement of the new state was recorded before or is recorded by this step. -/
theorem WindowMove.settlements_cases (move : WindowMove before action windows owners settlements)
    {settlement : Settlement} (member : settlement ∈ settlements) :
    settlement ∈ before.settlements ∨ Records before settlement := by
  cases move with
  | same | foreign | collects | discovers | runs => exact Or.inl member
  | @returns release token call calls spuriousFailure returned rest same pending result =>
      split at member
      · rename_i settles
        rcases List.mem_append.mp member with earlier | new
        · exact Or.inl earlier
        · rw [List.mem_singleton.mp new]
          exact Or.inr ⟨release, rest, call, calls, spuriousFailure, same, pending, settles, rfl, rfl,
            rfl, rfl, result⟩
      · exact Or.inl member

/-- The owners are sound and every settlement found its window accounted for unless the
processing of its batch was complete. -/
structure StateSound (state : State) : Prop where
  owners : Sound state.windows state.owners
  settlements : ∀ settlement ∈ state.settlements, settlement.token ∈ state.windows.issued ∧
    (settlement.completed = true ∨ Accounted settlement.cell)

theorem Records.accounted {settlement : Settlement} (records : Records before settlement)
    (sound : Sound before.windows before.owners) :
    settlement.token ∈ before.windows.issued ∧
      (settlement.completed = true ∨ Accounted settlement.cell) := by
  obtain ⟨release, rest, call, calls, _, same, pending, settles, _, _, completed, cell, _⟩ := records
  rw [same] at sound
  have own : ReleaseSound before.windows release := sound.leaving
  refine ⟨(own.calls _ (by rw [pending]; exact List.mem_cons_self)).1, ?_⟩
  rw [completed, cell]
  cases outcome : release.completed with
  | true => exact Or.inl rfl
  | false =>
      have warranted := own.warranted outcome
      rw [pending] at warranted
      exact Or.inr (warranted.1 settles)

/-- A change of the windows keeps every token issued. -/
theorem WindowMove.advances (move : WindowMove before action windows owners settlements)
    (sound : Sound before.windows before.owners) : Advances before.windows windows := by
  cases move with
  | same => exact ⟨fun _ member => member, fun _ _ => .refl _⟩
  | foreign foreign =>
      obtain ⟨issued, counted⟩ := foreign_counted sound.valid foreign
      exact ⟨fun token member => issued.symm ▸ member, fun token member => (counted token member).progress⟩
  | collects owns => exact owns.admission.advances
  | @discovers processing event token rest same selected discovery member windowId replayed =>
      rw [same] at sound
      have own : ProcessingSound before.windows processing := sound.leaving
      exact (windowsAfterDiscovery_advances sound.valid (own.batch.issued _ member) _ _).2
  | @runs release token call next calls spuriousFailure rest same pending running =>
      rw [same] at sound
      have own : ReleaseSound before.windows release := sound.leaving
      obtain ⟨issued, _, ready⟩ := own.calls (token, call) (by rw [pending]; exact List.mem_cons_self)
      exact (windowsAfterCall_advances sound.valid issued ready _).2
  | @returns release token call calls spuriousFailure returned rest same pending result =>
      rw [same] at sound
      have own : ReleaseSound before.windows release := sound.leaving
      obtain ⟨issued, _, ready⟩ := own.calls (token, call) (by rw [pending]; exact List.mem_cons_self)
      exact (windowsAfterCall_advances sound.valid issued ready _).2

/-- Every step keeps the state sound. -/
theorem StateSound.next {state : State} (sound : StateSound state) (config : PipelineConfig)
    (action : Action) : StateSound (state.next config action) := by
  obtain ⟨owners, change, move⟩ := next_exchange config sound.owners.valid action
  refine ⟨move.sound (change.sound sound.owners), fun settlement member => ?_⟩
  have issued := (change.advances sound.owners).issued settlement.token
  rcases change.settlements_cases member with earlier | new
  · exact ⟨issued (sound.settlements settlement earlier).1, (sound.settlements settlement earlier).2⟩
  · have accounted := new.accounted sound.owners
    exact ⟨issued accounted.1, accounted.2⟩

theorem StateSound.new (config : PipelineConfig) : StateSound (State.new config) where
  owners := ⟨.new config.maximumActive config.maximumActivePositive,
    by simp [State.owners, State.waiting, State.new], by simp [State.owners, State.waiting, State.new]⟩
  settlements := by simp [State.new]

end Steps
end Soldisco.Pipeline

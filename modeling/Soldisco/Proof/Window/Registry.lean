import Soldisco.Proof.Window.Effect

/-
This file gives one specification for each registry method.
-/

namespace Soldisco.Window
open Domain MachineInteger

theorem ObservationWindow.contains_iff {window : ObservationWindow} {time : Int} :
    window.contains time = true ↔ window.openedAtUnixMs ≤ time ∧ time < window.closesAtUnixMs := by
  simp [ObservationWindow.contains]

theorem TokenCell.isOpenAt_iff {cell : TokenCell} {window : ObservationWindow} {time : Int} :
    cell.isOpenAt window time = true ↔ cell.isLive = true ∧ window.contains time = true := by
  simp [TokenCell.isOpenAt]

namespace ObservationWindowRegistry

/-- The rotation test is the negation of the opening test. -/
theorem isClosedAt_eq (registry : ObservationWindowRegistry) (token : ObservationWindowToken)
    (now : Int) : registry.isClosedAt token now = !registry.isOpenAt token now := by
  unfold isClosedAt
  cases opened : registry.isOpenAt token now with
  | false => simp
  | true =>
      have contains := (TokenCell.isOpenAt_iff.mp opened).2
      have before := (ObservationWindow.contains_iff.mp contains).2
      simpa using before

theorem retainIfDurable_of_unconfirmed {registry : ObservationWindowRegistry}
    {token : ObservationWindowToken} (unconfirmed : (registry.cell token).wasConfirmed = false) :
    registry.retainIfDurable token = registry := by
  simp [retainIfDurable, unconfirmed]

section Rotation

@[simp] theorem rotateTarget_windows (registry : ObservationWindowRegistry)
    (target : ObservationTarget) :
    (registry.rotateTarget target).windows = registry.windows.erase target := by
  unfold rotateTarget
  split
  · simp
  · rename_i absent
    rw [AList.erase_of_lookup_none absent]

@[simp] theorem rotateTarget_cells (registry : ObservationWindowRegistry)
    (target : ObservationTarget) : (registry.rotateTarget target).cells = registry.cells := by
  unfold rotateTarget
  split <;> simp

theorem rotateTargets_windows (targets : List ObservationTarget)
    (registry : ObservationWindowRegistry) : (targets.foldl rotateTarget registry).windows =
      targets.foldl (fun windows target => windows.erase target) registry.windows := by
  induction targets generalizing registry with
  | nil => rfl
  | cons target rest ih => rw [List.foldl_cons, List.foldl_cons, ih, rotateTarget_windows]

theorem rotateTargets_cells (targets : List ObservationTarget)
    (registry : ObservationWindowRegistry) :
    (targets.foldl rotateTarget registry).cells = registry.cells := by
  induction targets generalizing registry with
  | nil => rfl
  | cons target rest ih => rw [List.foldl_cons, ih, rotateTarget_cells]

/-- The rotation loop is an effect when each target it removes may be closed. -/
theorem rotateTargets_effect {closing : ObservationWindowToken → Prop}
    (targets : List ObservationTarget) (registry : ObservationWindowRegistry)
    (allowed : ∀ target ∈ targets, ∀ token, registry.windows.lookup target = some token →
      (registry.cell token).isLive = false ∨ closing token) :
    Effect closing registry (targets.foldl rotateTarget registry) := by
  induction targets generalizing registry with
  | nil => exact .refl closing registry
  | cons target rest ih =>
      have first : Effect closing registry (registry.rotateTarget target) := by
        unfold rotateTarget
        split
        · rename_i token present
          exact .remove present (allowed target (by simp) token present)
        · exact .refl closing registry
      refine first.trans (ih (registry.rotateTarget target) ?_)
      intro later member token present
      have same : (registry.rotateTarget target).cell token = registry.cell token := by
        simp [cell]
      rw [same]
      exact allowed later (by simp [member]) token (first.windows later token present)

@[simp] theorem rotateClosedWindows_cells (registry : ObservationWindowRegistry) (now : Int) :
    (registry.rotateClosedWindows now).cells = registry.cells :=
  rotateTargets_cells _ registry

/-- The rotated map holds exactly the windows that are open at the given time. -/
theorem rotateClosedWindows_lookup (registry : ObservationWindowRegistry) (now : Int)
    (target : ObservationTarget) : (registry.rotateClosedWindows now).windows.lookup target =
      registry.matchingToken target now := by
  have closed : target ∈ (registry.windows.entries.filter fun entry =>
      registry.isClosedAt entry.2 now).map Sigma.fst ↔
      ∃ token, registry.windows.lookup target = some token ∧ registry.isOpenAt token now = false := by
    simp only [List.mem_map, List.mem_filter, isClosedAt_eq, Bool.not_eq_true']
    constructor
    · rintro ⟨⟨key, token⟩, ⟨member, opened⟩, rfl⟩
      exact ⟨token, AList.mem_lookup_iff.mpr member, opened⟩
    · rintro ⟨token, present, opened⟩
      exact ⟨⟨target, token⟩, ⟨AList.mem_lookup_iff.mp present, opened⟩, rfl⟩
  unfold rotateClosedWindows
  rw [rotateTargets_windows, AList.lookup_foldl_erase]
  simp only [closed, matchingToken]
  cases looked : registry.windows.lookup target with
  | none => simp
  | some token => cases opened : registry.isOpenAt token now <;> simp [opened, Option.filter]

/-- Rotation closes only windows that do not contain the given time. -/
theorem rotateClosedWindows_effect (registry : ObservationWindowRegistry) (now : Int) :
    Effect (fun token => token.window.contains now = false) registry
      (registry.rotateClosedWindows now) := by
  apply rotateTargets_effect
  intro target member token present
  obtain ⟨⟨key, found⟩, stored, rfl⟩ := List.mem_map.mp member
  obtain ⟨stored, closed⟩ := List.mem_filter.mp stored
  have same : found = token := by
    have looked := AList.mem_lookup_iff.mpr stored
    rw [present] at looked
    exact (Option.some.inj looked).symm
  subst same
  simpa [isClosedAt_eq, isOpenAt, TokenCell.isOpenAt] using closed

end Rotation

section Provision

/-- The evicted window closes first among the windows of a full map. -/
theorem evictAtCapacity_cases (registry : ObservationWindowRegistry) :
    (registry.windows.entries.length < registry.maximumActive ∧
      registry.evictAtCapacity = registry) ∨
    (registry.maximumActive ≤ registry.windows.entries.length ∧
      ∃ target token, registry.windows.lookup target = some token ∧
        (∀ other found, registry.windows.lookup other = some found →
          closeKey token.window.closesAtUnixMs target ≤ closeKey found.window.closesAtUnixMs other) ∧
        registry.evictAtCapacity = { registry.setCell token
            ((registry.cell token).cancelWithReason .capacityEvicted) with
          windows := registry.windows.erase target }.retainIfDurable token) := by
  unfold evictAtCapacity
  by_cases full : registry.windows.entries.length ≥ registry.maximumActive
  · right
    refine ⟨full, ?_⟩
    have positive := registry.capacityPositive
    have nonempty : registry.windows.entries ≠ [] := by
      intro empty
      simp [empty] at full
      omega
    let order := fun entry : Sigma fun _ : ObservationTarget => ObservationWindowToken =>
      closeKey entry.2.window.closesAtUnixMs entry.1
    obtain ⟨⟨target, token⟩, least⟩ :=
      Option.ne_none_iff_exists'.mp (fun absent => nonempty (List.argmin_eq_none.mp absent) :
        registry.windows.entries.argmin order ≠ none)
    have stored := List.argmin_mem (Option.mem_def.mpr least)
    have present := AList.mem_lookup_iff.mpr stored
    refine ⟨target, token, present, ?_, ?_⟩
    · intro other found looked
      exact List.le_of_mem_argmin (f := order) (AList.mem_lookup_iff.mp looked)
        (Option.mem_def.mpr least)
    · have evicted : registry.evictionTarget = some target := by
        change (registry.windows.entries.argmin order).map Sigma.fst = some target
        rw [least]
        rfl
      simp only [if_pos full, evicted, Option.mem_def.mp present]
      rfl
  · left
    exact ⟨Nat.lt_of_not_ge full, if_neg full⟩

/-- An eviction takes only a cancelled token out of the map. -/
theorem evictAtCapacity_effect (closing : ObservationWindowToken → Prop)
    (registry : ObservationWindowRegistry) : Effect closing registry registry.evictAtCapacity := by
  rcases evictAtCapacity_cases registry with ⟨_, same⟩ | ⟨_, target, token, present, _, same⟩
  · rw [same]
    exact .refl closing registry
  · rw [same]
    have cancelled : Effect closing registry (registry.setCell token
        ((registry.cell token).cancelWithReason .capacityEvicted)) := by
      apply Effect.setCell
      · exact TokenCell.cancelWithReason_progress _ _
      · exact fun valid => TokenCell.cancelWithReason_valid valid _
      · simp
      · simp [TokenCell.cancelWithReason_eq]
      · simp [TokenCell.cancelWithReason_eq]
    exact cancelled.trans (.remove present (Or.inl (by simp)))

/-- A full map has room for one window after the eviction. -/
theorem evictAtCapacity_length (registry : ObservationWindowRegistry)
    (bounded : registry.windows.entries.length ≤ registry.maximumActive) :
    registry.evictAtCapacity.windows.entries.length < registry.maximumActive := by
  rcases evictAtCapacity_cases registry with ⟨room, same⟩ | ⟨_, target, token, present, _, same⟩
  · rwa [same]
  · rw [same, retainIfDurable_windows]
    have length := (AList.entries_perm_erase present).length_eq
    simp only [List.length_cons] at length
    change (registry.windows.erase target).entries.length < registry.maximumActive
    omega

/-- A provision returns the open window of its target or opens a new one. -/
theorem provisionTarget_cases (registry : ObservationWindowRegistry) (target : ObservationTarget)
    (mint : String) (openedAt : Int) (durationMillis : Nat) :
    (∃ token, registry.matchingToken target openedAt = some token ∧
      registry.provisionTarget target mint openedAt durationMillis =
        ({ token, newlyOpened := false }, registry.rotateClosedWindows openedAt)) ∨
    (registry.matchingToken target openedAt = none ∧
      registry.provisionTarget target mint openedAt durationMillis =
        ({ token := (registry.rotateClosedWindows openedAt).evictAtCapacity.newToken target mint
            openedAt (closeTime openedAt durationMillis), newlyOpened := true },
          (registry.rotateClosedWindows openedAt).evictAtCapacity.openWindow target mint openedAt
            (closeTime openedAt durationMillis))) := by
  have filtered : ((registry.rotateClosedWindows openedAt).windows.lookup target).filter
      (fun token => (registry.rotateClosedWindows openedAt).isOpenAt token openedAt) =
        registry.matchingToken target openedAt := by
    rw [rotateClosedWindows_lookup, matchingToken, Option.filter_filter]
    congr 1
    funext token
    simp [isOpenAt, cell]
  unfold provisionTarget
  simp only [filtered]
  cases matched : registry.matchingToken target openedAt with
  | none => exact Or.inr ⟨rfl, rfl⟩
  | some token => exact Or.inl ⟨token, rfl, rfl⟩

/-- The target of a new window is absent from the map that receives it. -/
theorem evicted_lookup_none {registry : ObservationWindowRegistry} {target : ObservationTarget}
    {openedAt : Int} (unmatched : registry.matchingToken target openedAt = none) :
    (registry.rotateClosedWindows openedAt).evictAtCapacity.windows.lookup target = none := by
  rw [← rotateClosedWindows_lookup] at unmatched
  by_contra present
  obtain ⟨token, looked⟩ := Option.ne_none_iff_exists'.mp present
  have earlier := (evictAtCapacity_effect (fun _ => False)
    (registry.rotateClosedWindows openedAt)).windows target token looked
  simp [unmatched] at earlier

/-- The steps before the insertion of a new window are an effect. -/
theorem provisionTarget_effect (registry : ObservationWindowRegistry) (openedAt : Int) :
    Effect (fun token => token.window.contains openedAt = false) registry
      (registry.rotateClosedWindows openedAt).evictAtCapacity :=
  (rotateClosedWindows_effect registry openedAt).trans (evictAtCapacity_effect _ _)

end Provision

section Admission

theorem matchingToken_eq_some {registry : ObservationWindowRegistry} {target : ObservationTarget}
    {time : Int} {token : ObservationWindowToken} :
    registry.matchingToken target time = some token ↔
      registry.windows.lookup target = some token ∧ registry.isOpenAt token time = true := by
  simp [matchingToken, Option.filter_eq_some_iff]

/-- An admission counts the event, records an overflow or finds no open window. -/
theorem admitMatchingToken_cases (registry : ObservationWindowRegistry)
    (target : ObservationTarget) (time : Int) :
    (registry.matchingToken target time = none ∧
      registry.admitMatchingToken target time = (none, registry)) ∨
    ∃ token, registry.matchingToken target time = some token ∧
      (((registry.cell token).markAdmitted.1 = true ∧ registry.admitMatchingToken target time =
        (some token, registry.setCell token (registry.cell token).markAdmitted.2)) ∨
      ((registry.cell token).markAdmitted.1 = false ∧ registry.admitMatchingToken target time =
        (none, registry.setCell token
          ((registry.cell token).markAdmitted.2.markIncomplete .queueOverflow).2))) := by
  unfold admitMatchingToken
  cases matched : registry.matchingToken target time with
  | none => exact Or.inl ⟨rfl, rfl⟩
  | some token =>
      right
      refine ⟨token, rfl, ?_⟩
      rcases outcome : (registry.cell token).markAdmitted with ⟨_ | _, admitted⟩
      · exact Or.inr ⟨rfl, by simp [outcome]⟩
      · exact Or.inl ⟨rfl, by simp [outcome]⟩

theorem markAdmitted_frame (cell : TokenCell) : cell.markAdmitted.2.state = cell.state ∧
    cell.markAdmitted.2.finalized = cell.finalized ∧
    cell.markAdmitted.2.finalizationClaimed = cell.finalizationClaimed := by
  unfold TokenCell.markAdmitted
  split
  · simp
  · split <;> simp

theorem admitMatchingToken_effect (closing : ObservationWindowToken → Prop)
    (registry : ObservationWindowRegistry) (target : ObservationTarget) (time : Int) :
    Effect closing registry (registry.admitMatchingToken target time).2 := by
  rcases admitMatchingToken_cases registry target time with
    ⟨_, same⟩ | ⟨token, _, ⟨_, same⟩ | ⟨_, same⟩⟩
  · rw [same]
    exact .refl closing registry
  · obtain ⟨state, finalized, claimed⟩ := markAdmitted_frame (registry.cell token)
    rw [same]
    exact .setCell closing registry token _ (TokenCell.markAdmitted_progress _)
      TokenCell.markAdmitted_valid (by simp [TokenCell.wasConfirmed, state]) finalized claimed
  · obtain ⟨state, finalized, claimed⟩ := markAdmitted_frame (registry.cell token)
    rw [same]
    refine .setCell closing registry token _
      ((TokenCell.markAdmitted_progress _).trans (TokenCell.markIncomplete_progress _ _))
      (fun valid => TokenCell.markIncomplete_valid (TokenCell.markAdmitted_valid valid) _) ?_ ?_ ?_
    · simp [TokenCell.wasConfirmed, state]
    · simpa using finalized
    · simpa using claimed

end Admission

section Gap

/-- A mark is an effect on its own. -/
theorem markIncomplete_effect (closing : ObservationWindowToken → Prop)
    (registry : ObservationWindowRegistry) (token : ObservationWindowToken)
    (reason : WindowIncompleteReason) : Effect closing registry
      (registry.setCell token ((registry.cell token).markIncomplete reason).2) :=
  .setCell closing registry token _ (TokenCell.markIncomplete_progress _ _)
    (fun valid => TokenCell.markIncomplete_valid valid _)
    (by simp [TokenCell.wasConfirmed]) (by simp) (by simp)

/-- One pass of the gap loop marks its token when the gap applies. -/
theorem recordGapOn_snd (source : SourceProgram) (gap : SourceCoverageGap)
    (accumulator : Nat × ObservationWindowRegistry) (token : ObservationWindowToken) :
    (recordGapOn source gap accumulator token).2 =
      if gapApplies source gap.observedAtUnixMs accumulator.2 token then
        accumulator.2.setCell token ((accumulator.2.cell token).markIncomplete gap.reason).2
      else accumulator.2 := by
  unfold recordGapOn
  split
  · rcases outcome : (accumulator.2.cell token).markIncomplete gap.reason with ⟨_ | _, marked⟩ <;>
      simp
  · rfl

theorem recordGapOn_effect (closing : ObservationWindowToken → Prop) (source : SourceProgram)
    (gap : SourceCoverageGap) (accumulator : Nat × ObservationWindowRegistry)
    (token : ObservationWindowToken) :
    Effect closing accumulator.2 (recordGapOn source gap accumulator token).2 := by
  rw [recordGapOn_snd]
  split
  · exact markIncomplete_effect closing accumulator.2 token gap.reason
  · exact .refl closing accumulator.2

/-- The gap enters the stored state before the loop over the tokens. -/
def storeGap (registry : ObservationWindowRegistry) (source : SourceProgram)
    (gap : SourceCoverageGap) : ObservationWindowRegistry :=
  { registry with
    latestSourceCoverageGap := Function.update registry.latestSourceCoverageGap source
      (some (latestGap (registry.latestSourceCoverageGap source) gap)) }

theorem recordSourceCoverageGap_effect (closing : ObservationWindowToken → Prop)
    (registry : ObservationWindowRegistry) (source : SourceProgram) (time : Int)
    (reason : WindowIncompleteReason) :
    Effect closing (registry.storeGap source ⟨time, reason⟩)
      (registry.recordSourceCoverageGap source time reason).2 :=
  Effect.foldl Prod.snd (recordGapOn source ⟨time, reason⟩)
    (recordGapOn_effect closing source ⟨time, reason⟩) registry.tokens (0, registry.storeGap source _)

/-- Each token that the gap loop visits carries a reason when the gap applies to it. -/
theorem recordGapOn_foldl_reason {source : SourceProgram} {gap : SourceCoverageGap}
    {tokens : List ObservationWindowToken} {accumulator : Nat × ObservationWindowRegistry}
    {token : ObservationWindowToken} (member : token ∈ tokens)
    (applies : gapApplies source gap.observedAtUnixMs accumulator.2 token = true) :
    ((tokens.foldl (recordGapOn source gap) accumulator).2.cell token).incompleteReason ≠ none := by
  induction tokens generalizing accumulator with
  | nil => cases member
  | cons first rest ih =>
      have passed := recordGapOn_effect (fun _ => False) source gap accumulator first
      rcases List.mem_cons.mp member with rfl | later
      · have loop := Effect.foldl Prod.snd (recordGapOn source gap)
          (recordGapOn_effect (fun _ => False) source gap) rest (recordGapOn source gap accumulator token)
        apply (loop.cells token.address).reason_ne_none
        change ((recordGapOn source gap accumulator token).2.cell token).incompleteReason ≠ none
        rw [recordGapOn_snd, if_pos applies, cell_setCell]
        exact TokenCell.markIncomplete_reason _ _
      · apply ih later
        unfold gapApplies at applies ⊢
        have finalized : ((recordGapOn source gap accumulator first).2.cell token).finalized =
            (accumulator.2.cell token).finalized := passed.finalized token.address
        rw [finalized]
        exact applies

end Gap

section Cancellation

/-- One pass of the first cancellation loop empties its key. -/
theorem cancelActive_cases (reason : WindowIncompleteReason)
    (accumulator : Nat × ObservationWindowRegistry) (target : ObservationTarget) :
    (accumulator.2.windows.lookup target = none ∧
      (cancelActive reason accumulator target).2 = accumulator.2) ∨
    ∃ token cell, accumulator.2.windows.lookup target = some token ∧
      Effect (fun _ => False) accumulator.2 (accumulator.2.setCell token cell) ∧
      cell.isLive = false ∧
      (CellValid (accumulator.2.cell token) → (accumulator.2.cell token).wasConfirmed = true →
        cell.incompleteReason ≠ none) ∧
      (cancelActive reason accumulator target).2 = { accumulator.2.setCell token cell with
        windows := accumulator.2.windows.erase target }.retainIfDurable token := by
  unfold cancelActive
  cases looked : accumulator.2.windows.lookup target with
  | none => exact Or.inl ⟨rfl, by simp only [looked]⟩
  | some token =>
      right
      by_cases confirmed : (accumulator.2.cell token).wasConfirmed = true
      · refine ⟨token, (accumulator.2.cell token).cancelWithReason reason, rfl, ?_, by simp, ?_, ?_⟩
        · exact .setCell _ _ token _ (TokenCell.cancelWithReason_progress _ _)
            (fun valid => TokenCell.cancelWithReason_valid valid _) (by simp)
            (by simp [TokenCell.cancelWithReason_eq]) (by simp [TokenCell.cancelWithReason_eq])
        · exact fun valid confirmed => TokenCell.cancelWithReason_reason valid confirmed reason
        · simp only [looked, confirmed, if_true]
          rfl
      · have unconfirmed := Bool.eq_false_of_not_eq_true confirmed
        refine ⟨token, (accumulator.2.cell token).cancelIfPending, rfl, ?_,
          TokenCell.cancelIfPending_isLive unconfirmed, fun _ => by simp [unconfirmed], ?_⟩
        · refine .setCell _ _ token _ (TokenCell.cancelIfPending_progress _)
            TokenCell.cancelIfPending_valid (TokenCell.cancelIfPending_wasConfirmed _) ?_ ?_ <;>
          · unfold TokenCell.cancelIfPending
            split <;> rfl
        · rw [retainIfDurable_of_unconfirmed]
          · simp only [looked, unconfirmed, Bool.false_eq_true, if_false]
            rfl
          · change ((accumulator.2.setCell token _).cell token).wasConfirmed = false
            rw [cell_setCell, TokenCell.cancelIfPending_wasConfirmed]
            exact unconfirmed

theorem cancelActive_effect (closing : ObservationWindowToken → Prop)
    (reason : WindowIncompleteReason) (accumulator : Nat × ObservationWindowRegistry)
    (target : ObservationTarget) :
    Effect closing accumulator.2 (cancelActive reason accumulator target).2 := by
  rcases cancelActive_cases reason accumulator target with
    ⟨_, same⟩ | ⟨token, cell, present, marked, dead, _, same⟩
  · rw [same]
    exact .refl closing _
  · rw [same]
    exact (marked.mono fun _ impossible => impossible.elim).trans
      (.remove present (Or.inl (by rwa [cell_setCell])))

theorem cancelRetained_effect (closing : ObservationWindowToken → Prop)
    (reason : WindowIncompleteReason) (matchesTarget : ObservationTarget → Bool)
    (accumulator : Nat × ObservationWindowRegistry) (token : ObservationWindowToken) :
    Effect closing accumulator.2 (cancelRetained reason matchesTarget accumulator token).2 := by
  unfold cancelRetained
  dsimp only
  split
  · exact .setCell closing accumulator.2 token _ (TokenCell.cancelWithReason_progress _ _)
      (fun valid => TokenCell.cancelWithReason_valid valid _) (by simp)
      (by simp [TokenCell.cancelWithReason_eq]) (by simp [TokenCell.cancelWithReason_eq])
  · exact .refl closing accumulator.2

theorem cancelConfirmedMatching_effect (closing : ObservationWindowToken → Prop)
    (registry : ObservationWindowRegistry) (reason : WindowIncompleteReason)
    (matchesTarget : ObservationTarget → Bool) :
    Effect closing registry (registry.cancelConfirmedMatching reason matchesTarget).2 :=
  (Effect.foldl Prod.snd (cancelActive reason) (cancelActive_effect closing reason)
    (registry.windows.keys.filter matchesTarget) (0, registry)).trans
    (Effect.foldl Prod.snd (cancelRetained reason matchesTarget)
      (cancelRetained_effect closing reason matchesTarget) _ _)

/-- The first loop gives a reason to each confirmed window whose target it visits. -/
theorem cancelActive_foldl_reason {reason : WindowIncompleteReason} {targets : List ObservationTarget}
    {accumulator : Nat × ObservationWindowRegistry} {target : ObservationTarget}
    {token : ObservationWindowToken} (member : target ∈ targets)
    (active : accumulator.2.windows.lookup target = some token)
    (valid : CellValid (accumulator.2.cell token))
    (confirmed : (accumulator.2.cell token).wasConfirmed = true) :
    ((targets.foldl (cancelActive reason) accumulator).2.cell token).incompleteReason ≠ none := by
  induction targets generalizing accumulator with
  | nil => cases member
  | cons first rest ih =>
      have passed := cancelActive_effect (fun _ => False) reason accumulator first
      have loop := Effect.foldl Prod.snd (cancelActive reason)
        (cancelActive_effect (fun _ => False) reason) rest (cancelActive reason accumulator first)
      rcases cancelActive_cases reason accumulator first with
        ⟨absent, same⟩ | ⟨found, cell, present, _, _, recorded, same⟩
      · have later : target ∈ rest := by
          rcases List.mem_cons.mp member with rfl | later
          · simp [absent] at active
          · exact later
        exact ih later (same.symm ▸ active) (passed.valid token.address valid)
          ((passed.wasConfirmed token.address).trans confirmed)
      · by_cases here : first = target
        · subst here
          obtain rfl : token = found := Option.some.inj (active.symm.trans present)
          apply (loop.cells token.address).reason_ne_none
          rw [same, retainIfDurable_cells]
          change ((accumulator.2.setCell token cell).cell token).incompleteReason ≠ none
          rw [cell_setCell]
          exact recorded valid confirmed
        · have later : target ∈ rest := (List.mem_cons.mp member).resolve_left (Ne.symm here)
          apply ih later _ (passed.valid token.address valid)
            ((passed.wasConfirmed token.address).trans confirmed)
          rw [same, retainIfDurable_windows]
          exact AList.lookup_erase_eq_some.mpr ⟨Ne.symm here, active⟩

/-- The second loop gives a reason to each confirmed token it visits that no claim holds. -/
theorem cancelRetained_foldl_reason {reason : WindowIncompleteReason}
    {matchesTarget : ObservationTarget → Bool} {tokens : List ObservationWindowToken}
    {accumulator : Nat × ObservationWindowRegistry} {token : ObservationWindowToken}
    (member : token ∈ tokens) (matched : matchesTarget token.target = true)
    (valid : CellValid (accumulator.2.cell token))
    (confirmed : (accumulator.2.cell token).wasConfirmed = true)
    (unfinalized : (accumulator.2.cell token).finalized = false)
    (unclaimed : (accumulator.2.cell token).finalizationClaimed = false) :
    ((tokens.foldl (cancelRetained reason matchesTarget) accumulator).2.cell
      token).incompleteReason ≠ none := by
  induction tokens generalizing accumulator with
  | nil => cases member
  | cons first rest ih =>
      have passed := cancelRetained_effect (fun _ => False) reason matchesTarget accumulator first
      rcases List.mem_cons.mp member with rfl | later
      · have loop := Effect.foldl Prod.snd (cancelRetained reason matchesTarget)
          (cancelRetained_effect (fun _ => False) reason matchesTarget) rest
          (cancelRetained reason matchesTarget accumulator token)
        apply (loop.cells token.address).reason_ne_none
        change ((cancelRetained reason matchesTarget accumulator token).2.cell
          token).incompleteReason ≠ none
        by_cases open_ : (accumulator.2.cell token).status = .confirmed
        · simp only [cancelRetained, matched, unfinalized, unclaimed, open_, Bool.not_false,
            Bool.and_self, beq_self_eq_true, if_true]
          rw [cell_setCell]
          exact TokenCell.cancelWithReason_reason valid confirmed reason
        · apply (passed.cells token.address).reason_ne_none
          apply valid.reason
          cases state : (accumulator.2.cell token).state <;>
            simp_all [TokenCell.status, TokenCell.wasConfirmed]
      · exact ih later (passed.valid token.address valid)
          ((passed.wasConfirmed token.address).trans confirmed)
          ((passed.finalized token.address).trans unfinalized)
          ((passed.claimed token.address).trans unclaimed)

/-- A cancellation gives a reason to each matching token of the registry that is confirmed,
unfinalized and unclaimed. -/
theorem cancelConfirmedMatching_reason {registry : ObservationWindowRegistry}
    {reason : WindowIncompleteReason} {matchesTarget : ObservationTarget → Bool}
    {token : ObservationWindowToken} (tracked : token ∈ registry.tokens)
    (keyed : ∀ target, registry.windows.lookup target = some token → token.target = target)
    (matched : matchesTarget token.target = true) (valid : CellValid (registry.cell token))
    (confirmed : (registry.cell token).wasConfirmed = true)
    (unfinalized : (registry.cell token).finalized = false)
    (unclaimed : (registry.cell token).finalizationClaimed = false) :
    ((registry.cancelConfirmedMatching reason matchesTarget).2.cell token).incompleteReason ≠
      none := by
  have first := Effect.foldl Prod.snd (cancelActive reason)
    (cancelActive_effect (fun _ => False) reason) (registry.windows.keys.filter matchesTarget)
    (0, registry)
  have second (accumulator : Nat × ObservationWindowRegistry) (tokens : List ObservationWindowToken) :=
    Effect.foldl Prod.snd (cancelRetained reason matchesTarget)
      (cancelRetained_effect (fun _ => False) reason matchesTarget) tokens accumulator
  rcases mem_tokens.mp tracked with ⟨target, active⟩ | retained
  · apply ((second _ _).cells token.address).reason_ne_none
    have visited : target ∈ registry.windows.keys.filter matchesTarget := by
      refine List.mem_filter.mpr ⟨?_, keyed target active ▸ matched⟩
      exact AList.mem_keys.mp (AList.lookup_isSome.mp (Option.isSome_iff_exists.mpr ⟨token, active⟩))
    exact cancelActive_foldl_reason visited active valid confirmed
  · have unfinalizedThen := (first.finalized token.address).trans unfinalized
    exact cancelRetained_foldl_reason (first.stays token retained unfinalizedThen) matched
      (first.valid token.address valid) ((first.wasConfirmed token.address).trans confirmed)
      unfinalizedThen ((first.claimed token.address).trans unclaimed)

end Cancellation

section Finalization

theorem cleanupFinalized_effect (closing : ObservationWindowToken → Prop)
    (registry : ObservationWindowRegistry) : Effect closing registry registry.cleanupFinalized.2 := by
  have member (token : ObservationWindowToken) : token ∈ registry.cleanupFinalized.2.retained ↔
      token ∈ registry.retained ∧ (registry.cell token).finalized = false := by
    simp [cleanupFinalized]
  refine { Effect.refl closing registry with
    maximumActive := rfl, nextGeneration := rfl, allocated := rfl, gaps := rfl, watermarks := rfl,
    cells := fun _ => .refl _, valid := fun _ valid => valid, wasConfirmed := fun _ => rfl,
    finalized := fun _ => rfl, claimed := fun _ => rfl, windows := fun _ _ present => present,
    left := fun _ _ present => Or.inl present
    tokens := ?_, retained := ?_, stays := ?_, kept := ?_ }
  · exact Multiset.coe_le.mpr (List.filter_sublist.append_left _).subperm
  · intro token present
    exact Or.inl ((member token).mp present).1
  · intro token present unfinalized
    exact (member token).mpr ⟨present, unfinalized⟩
  · intro token present _ unfinalized
    rw [mem_tokens] at present ⊢
    rcases present with active | retained
    · exact Or.inl active
    · exact Or.inr ((member token).mpr ⟨retained, unfinalized⟩)

theorem isClaimable_iff {registry : ObservationWindowRegistry} {token : ObservationWindowToken} :
    registry.isClaimable token = true ↔ (registry.cell token).wasConfirmed = true ∧
      (registry.cell token).durableWindowId ≠ none ∧
      (registry.cell token).admitted = (registry.cell token).settled ∧
      (registry.cell token).finalized = false := by
  simp [isClaimable, TokenCell.isSettled, Option.isSome_iff_ne_none, and_assoc]

theorem awaitsProgress_eq_false {registry : ObservationWindowRegistry}
    {token : ObservationWindowToken} : registry.awaitsProgress token = false ↔
      ∃ watermark, registry.latestSourceProgress (targetSourceProgram token.target) =
        some watermark ∧ token.window.closesAtUnixMs ≤ watermark := by
  unfold awaitsProgress
  split <;> simp_all

/-- A claim succeeds on a retained and claimable token that no other claim holds and that
has a reason or enough source progress. -/
theorem claimFinalization_eq_some {registry : ObservationWindowRegistry}
    {candidate : ObservationWindowToken} {claim : ObservationWindowFinalizationClaim}
    {after : ObservationWindowRegistry} :
    registry.claimFinalization candidate = (some claim, after) ↔
      candidate ∈ registry.retained ∧ registry.isClaimable candidate = true ∧
      ((registry.cell candidate).incompleteReason ≠ none ∨
        registry.awaitsProgress candidate = false) ∧
      (registry.cell candidate).finalizationClaimed = false ∧
      claim = ⟨candidate, (registry.cell candidate).incompleteReason⟩ ∧
      after = registry.setCell candidate
        { registry.cell candidate with finalizationClaimed := true } := by
  unfold claimFinalization
  cases found : registry.retained.find? fun token => token == candidate &&
      registry.isClaimable token with
  | none =>
      simp only [List.find?_eq_none, Bool.and_eq_true, beq_iff_eq, not_and, Bool.not_eq_true] at found
      constructor
      · intro absent
        cases absent
      · rintro ⟨member, claimable, _⟩
        simp [found candidate member rfl] at claimable
  | some token =>
      have matched := List.find?_some found
      have member := List.mem_of_find?_eq_some found
      simp only [Bool.and_eq_true, beq_iff_eq] at matched
      obtain ⟨rfl, claimable⟩ := matched
      have waiting : ((registry.cell token).incompleteReason.isNone &&
          registry.awaitsProgress token) = true ↔ ¬ ((registry.cell token).incompleteReason ≠ none ∨
            registry.awaitsProgress token = false) := by
        simp
      by_cases waits : ((registry.cell token).incompleteReason.isNone &&
          registry.awaitsProgress token) = true
      · simp only [waits, if_true]
        constructor
        · intro absent
          cases absent
        · rintro ⟨_, _, ready, _⟩
          exact absurd ready (waiting.mp waits)
      · have ready := not_not.mp (mt waiting.mpr waits)
        simp only [waits, TokenCell.tryClaimFinalization]
        by_cases claimed : (registry.cell token).finalizationClaimed = true
        · simp [claimed]
        · have free := Bool.eq_false_of_not_eq_true claimed
          simp only [free, Bool.false_eq_true, if_false, Prod.mk.injEq, Option.some.injEq]
          constructor
          · rintro ⟨rfl, rfl⟩
            exact ⟨member, claimable, ready, trivial, rfl, rfl⟩
          · rintro ⟨_, _, _, _, rfl, rfl⟩
            exact ⟨rfl, rfl⟩

/-- A failed claim changes nothing. -/
theorem claimFinalization_none {registry : ObservationWindowRegistry}
    {candidate : ObservationWindowToken}
    (failed : (registry.claimFinalization candidate).1 = none) :
    (registry.claimFinalization candidate).2 = registry := by
  unfold claimFinalization at failed ⊢
  split at failed
  · rfl
  · split at failed
    · rename_i waits
      rw [if_pos waits]
    · rename_i ready
      rw [if_neg ready]
      split at failed
      · rfl
      · cases failed

/-- The candidates are the retained tokens of the rotated registry that pass the test. -/
theorem mem_finalizationCandidates {registry : ObservationWindowRegistry} {now : Int}
    {token : ObservationWindowToken} : token ∈ (registry.finalizationCandidates now).1 ↔
      token ∈ (registry.rotateClosedWindows now).retained ∧ registry.isCandidate token = true := by
  unfold finalizationCandidates
  simp only [List.mem_insertionSort, List.mem_filter]
  simp [isCandidate, cell]

end Finalization
end ObservationWindowRegistry
end Soldisco.Window

import Soldisco.Proof.Window.Step

/-
This file proves when every recorded coverage gap reaches the windows that contain it.
-/

namespace Soldisco.Window
open Domain ObservationWindowRegistry

/-- The times of the gaps that the actions record for one source. -/
def gapTimes (source : SourceProgram) (actions : List Action) : List Int :=
  actions.filterMap fun
    | .recordSourceCoverageGap recorded time _ => if recorded = source then some time else none
    | _ => none

/-- The stored gap of a source is the latest one that the actions have recorded. -/
def StoresLatestGap (actions : List Action) (registry : ObservationWindowRegistry) : Prop :=
  ∀ source, match registry.latestSourceCoverageGap source with
    | none => gapTimes source actions = []
    | some latest => latest.observedAtUnixMs ∈ gapTimes source actions ∧
        ∀ time ∈ gapTimes source actions, time ≤ latest.observedAtUnixMs

theorem gapTimes_concat (source : SourceProgram) (actions : List Action) (action : Action) :
    gapTimes source (actions ++ [action]) = gapTimes source actions ++ gapTimes source [action] :=
  List.filterMap_append

theorem gapTimes_recordSourceCoverageGap (source recorded : SourceProgram) (time : Int)
    (reason : WindowIncompleteReason) :
    gapTimes source [.recordSourceCoverageGap recorded time reason] =
      if recorded = source then [time] else [] := by
  by_cases same : recorded = source <;> simp [gapTimes, same]

/-- A step keeps the latest gap of each source. -/
theorem StoresLatestGap.step {actions : List Action} {system : System} (valid : SystemValid system)
    (stores : StoresLatestGap actions system.registry) (action : Action) :
    StoresLatestGap (actions ++ [action]) (system.step action).2.registry := by
  intro source
  rw [(step_change valid action).gaps, gapTimes_concat]
  have stored := stores source
  cases action with
  | recordSourceCoverageGap recorded time reason =>
      rw [gapTimes_recordSourceCoverageGap]
      simp only [recordedGaps, storeGap]
      by_cases same : recorded = source
      · subst same
        rw [Function.update_self, if_pos rfl]
        cases latest : system.registry.latestSourceCoverageGap recorded with
        | none =>
            rw [latest] at stored
            simp [latestGap, stored]
        | some gap =>
            rw [latest] at stored
            obtain ⟨member, bound⟩ := stored
            dsimp only [latestGap]
            split
            · rename_i newer
              refine ⟨by simp, fun earlier found => ?_⟩
              rcases List.mem_append.mp found with before | now
              · have below := bound earlier before
                dsimp only at newer ⊢
                omega
              · rw [List.mem_singleton.mp now]
            · rename_i older
              refine ⟨List.mem_append_left _ member, fun earlier found => ?_⟩
              rcases List.mem_append.mp found with before | now
              · exact bound earlier before
              · rw [List.mem_singleton.mp now]
                exact le_of_not_gt older
      · rw [Function.update_of_ne (Ne.symm same), if_neg same, List.append_nil]
        exact stored
  | _ =>
      rw [show gapTimes source [_] = [] from rfl, List.append_nil]
      exact stored

/-- Each gap recorded inside an unfinalized window of the registry has made it incomplete. -/
def GapsReachWindows (actions : List Action) (system : System) : Prop :=
  ∀ token ∈ system.registry.tokens, (system.registry.cell token).finalized = false →
    (∃ time ∈ gapTimes (targetSourceProgram token.target) actions,
      token.window.contains time = true) →
    (system.registry.cell token).incompleteReason ≠ none

/-- When a new window contains a recorded gap of its source, no recorded gap of the source
lies at or after its close. -/
def NewWindowHoldsLatestGap (actions : List Action) (system : System) (action : Action) : Prop :=
  ∀ target mint openedAt durationMillis,
    action = .provisionTarget target mint openedAt durationMillis →
    system.registry.matchingToken target openedAt = none →
    (∃ time ∈ gapTimes (targetSourceProgram target) actions,
      openedAt ≤ time ∧ time < closeTime openedAt durationMillis) →
    ∀ time ∈ gapTimes (targetSourceProgram target) actions, time < closeTime openedAt durationMillis

/-- A new window carries a reason exactly when it contains the stored gap of its source. -/
theorem newCell_reason_iff {registry : ObservationWindowRegistry} {window : ObservationWindow} :
    (registry.newCell window).incompleteReason ≠ none ↔ ∃ gap,
      registry.latestSourceCoverageGap (targetSourceProgram window.target) = some gap ∧
        window.contains gap.observedAtUnixMs = true := by
  unfold newCell
  cases found : (registry.latestSourceCoverageGap (targetSourceProgram window.target)).filter
      fun gap => window.contains gap.observedAtUnixMs with
  | some gap =>
      simpa using ⟨gap, Option.filter_eq_some_iff.mp found⟩
  | none =>
      simpa [TokenCell.fresh] using Option.filter_eq_none_iff.mp found

theorem newCell_finalized (registry : ObservationWindowRegistry) (window : ObservationWindow) :
    (registry.newCell window).finalized = false := by
  unfold newCell
  split <;> rfl

/-- A token of the registry after a step was there before or belongs to a new window. -/
theorem Change.tracked {before after : System} {action : Action} (change : Change before action after)
    (valid : RegistryValid before.registry before.issued) {token : ObservationWindowToken}
    (member : token ∈ after.registry.tokens) (issued : token ∈ before.issued) :
    token ∈ before.registry.tokens := by
  have evolution := change.evolution valid
  rcases mem_tokens.mp member with ⟨target, active⟩ | retained
  · rcases evolution.windows target token active with earlier | fresh
    · exact mem_tokens.mpr (Or.inl ⟨target, earlier⟩)
    · exact absurd issued fresh
  · rcases evolution.retained token retained with earlier | fresh
    · exact earlier
    · exact absurd issued fresh

/-- A token that a step issues belongs to the new window of a provision. -/
theorem Change.newcomer {before after : System} {action : Action}
    (change : Change before action after) {token : ObservationWindowToken}
    (issued : token ∈ after.issued) (new : token ∉ before.issued) :
    ∃ target mint openedAt durationMillis,
      action = .provisionTarget target mint openedAt durationMillis ∧
      before.registry.matchingToken target openedAt = none ∧
      token.window = ⟨target, mint, openedAt, closeTime openedAt durationMillis⟩ ∧
      after.registry.cell token = before.registry.newCell token.window := by
  cases change with
  | opened mint openedAt durationMillis provision unmatched effect _ _ _ =>
      rcases List.mem_append.mp issued with earlier | fresh
      · exact absurd earlier new
      · rw [List.mem_singleton.mp fresh]
        refine ⟨_, mint, openedAt, durationMillis, provision, unmatched, rfl, ?_⟩
        rw [openWindow_cell, newCell, effect.gaps]
        rfl
  | registry => exact absurd issued new
  | cell => exact absurd issued new
  | invoked => exact absurd issued new

theorem mem_gapTimes_singleton {source : SourceProgram} {action : Action} {time : Int}
    (member : time ∈ gapTimes source [action]) :
    ∃ reason, action = .recordSourceCoverageGap source time reason := by
  cases action with
  | recordSourceCoverageGap recorded observed reason =>
      rw [gapTimes_recordSourceCoverageGap] at member
      split at member
      · rename_i same
        rw [List.mem_singleton.mp member, same]
        exact ⟨reason, rfl⟩
      · cases member
  | _ => cases member

/-- A recorded gap reaches the unfinalized tokens of its source that contain it. -/
theorem recordSourceCoverageGap_reason {registry : ObservationWindowRegistry}
    {token : ObservationWindowToken} (member : token ∈ registry.tokens)
    (unfinalized : (registry.cell token).finalized = false) {time : Int}
    (inside : token.window.contains time = true) (reason : WindowIncompleteReason) :
    ((registry.recordSourceCoverageGap (targetSourceProgram token.target) time reason).2.cell
      token).incompleteReason ≠ none := by
  apply recordGapOn_foldl_reason member
  have unchanged : (registry.storeGap (targetSourceProgram token.target) ⟨time, reason⟩).cell token =
      registry.cell token := rfl
  simp only [gapApplies, beq_self_eq_true, Bool.true_and, Bool.and_eq_true, Bool.not_eq_true']
  exact ⟨unchanged ▸ unfinalized, inside⟩

/-- The window of a new token that contains a recorded gap contains the stored gap. -/
theorem newcomer_reason {actions : List Action} {registry : ObservationWindowRegistry}
    (stores : StoresLatestGap actions registry) {window : ObservationWindow} {time : Int}
    (member : time ∈ gapTimes (targetSourceProgram window.target) actions)
    (inside : window.contains time = true)
    (before : ∀ time ∈ gapTimes (targetSourceProgram window.target) actions,
      time < window.closesAtUnixMs) : (registry.newCell window).incompleteReason ≠ none := by
  have stored := stores (targetSourceProgram window.target)
  cases latest : registry.latestSourceCoverageGap (targetSourceProgram window.target) with
  | none =>
      rw [latest] at stored
      rw [stored] at member
      cases member
  | some gap =>
      rw [latest] at stored
      have opened := (ObservationWindow.contains_iff.mp inside).1
      exact newCell_reason_iff.mpr ⟨gap, latest, ObservationWindow.contains_iff.mpr
        ⟨opened.trans (stored.2 time member), before _ stored.1⟩⟩

/-- A step keeps the gaps and the windows together. -/
theorem GapsReachWindows.step {actions : List Action} {system : System}
    (valid : SystemValid system) (stores : StoresLatestGap actions system.registry)
    (reaches : GapsReachWindows actions system) {action : Action}
    (holds : NewWindowHoldsLatestGap actions system action) :
    GapsReachWindows (actions ++ [action]) (system.step action).2 := by
  rintro token member unfinalized ⟨time, recorded, inside⟩
  have change := step_change valid action
  rw [gapTimes_concat] at recorded
  by_cases issued : token ∈ system.issued
  · have progress := (change.evolution valid.registry).cells token issued
    have tracked := change.tracked valid.registry member issued
    rcases List.mem_append.mp recorded with earlier | now
    · exact progress.reason_ne_none
        (reaches token tracked (progress.unfinalized unfinalized) ⟨time, earlier, inside⟩)
    · obtain ⟨reason, rfl⟩ := mem_gapTimes_singleton now
      exact recordSourceCoverageGap_reason tracked (progress.unfinalized unfinalized) inside reason
  · have listed := (change.registryValid valid.registry).tracked token member
    obtain ⟨target, mint, openedAt, durationMillis, rfl, unmatched, window, cell⟩ :=
      change.newcomer listed issued
    rw [show gapTimes (targetSourceProgram token.target)
      [.provisionTarget target mint openedAt durationMillis] = [] from rfl, List.append_nil] at recorded
    rw [cell]
    have sameTarget : token.target = target := congrArg ObservationWindow.target window
    refine newcomer_reason stores recorded inside ?_
    change ∀ time ∈ gapTimes (targetSourceProgram token.target) actions, _
    rw [window, sameTarget]
    apply holds target mint openedAt durationMillis rfl unmatched
    have bounds := ObservationWindow.contains_iff.mp inside
    rw [window] at bounds
    exact ⟨time, sameTarget ▸ recorded, bounds⟩

/-- Each provision of the actions meets the condition on the latest gap. -/
def HoldsLatestGaps (maximumActive : Nat) (capacityPositive : 0 < maximumActive)
    (actions : List Action) : Prop :=
  ∀ first action last, actions = first ++ action :: last →
    NewWindowHoldsLatestGap first (System.execute maximumActive capacityPositive first) action

theorem execute_storesLatestGap (maximumActive : Nat) (capacityPositive : 0 < maximumActive)
    (actions : List Action) :
    StoresLatestGap actions (System.execute maximumActive capacityPositive actions).registry := by
  -- The induction is on the last action, because the history grows at its end.
  induction actions using List.reverseRecOn with
  | nil => exact fun _ => rfl
  | append_singleton actions action ih =>
      rw [System.execute, Transition.run_concat]
      exact ih.step (execute_valid maximumActive capacityPositive actions) action

/-- The condition carries the gaps to the windows through a run. -/
theorem execute_gapsReachWindows (maximumActive : Nat) (capacityPositive : 0 < maximumActive)
    (actions : List Action) (holds : HoldsLatestGaps maximumActive capacityPositive actions) :
    GapsReachWindows actions (System.execute maximumActive capacityPositive actions) := by
  induction actions using List.reverseRecOn with
  | nil =>
      rintro _ _ _ ⟨_, recorded, _⟩
      cases recorded
  | append_singleton actions action ih =>
      have reaches := ih fun first before last position =>
        holds first before (last ++ [action]) (by simp [position])
      rw [System.execute, Transition.run_concat]
      exact reaches.step (execute_valid maximumActive capacityPositive actions)
        (execute_storesLatestGap maximumActive capacityPositive actions)
        (holds actions action [] rfl)

/-- A new window that misses the latest gap breaks the law at once. -/
theorem holdsLatestGap_of_reaches {actions : List Action} {system : System}
    (valid : SystemValid system) (stores : StoresLatestGap actions system.registry) {action : Action}
    (reaches : GapsReachWindows (actions ++ [action]) (system.step action).2) :
    NewWindowHoldsLatestGap actions system action := by
  rintro target mint openedAt durationMillis rfl unmatched ⟨overlap, recorded, inside⟩ time member
  obtain ⟨token, opened⟩ : ∃ token,
      (system.step (.provisionTarget target mint openedAt durationMillis)).1 =
        .provisioned ⟨token, true⟩ := by
    rcases provisionTarget_cases system.registry target mint openedAt durationMillis with
      ⟨_, matched, _⟩ | ⟨_, outcome⟩
    · simp [unmatched] at matched
    · simp [System.step, System.provision, outcome]
  obtain ⟨active, issued, new, window⟩ := provision_opened valid opened
  obtain ⟨_, _, _, _, _, _, _, cell⟩ := (step_change valid _).newcomer issued new
  have sameTarget : token.target = target := congrArg ObservationWindow.target window
  have recordedAfter : overlap ∈ gapTimes (targetSourceProgram token.target)
      (actions ++ [.provisionTarget target mint openedAt durationMillis]) := by
    rw [gapTimes_concat, sameTarget]
    exact List.mem_append_left _ recorded
  have reached := reaches token (mem_tokens.mpr (Or.inl ⟨target, active⟩))
    (by rw [cell, newCell_finalized]) ⟨overlap, recordedAfter, by
      rw [window]
      exact ObservationWindow.contains_iff.mpr inside⟩
  rw [cell] at reached
  obtain ⟨latest, found, contained⟩ := newCell_reason_iff.mp reached
  have stored := stores (targetSourceProgram target)
  rw [window] at found contained
  rw [found] at stored
  exact (stored.2 time member).trans_lt (ObservationWindow.contains_iff.mp contained).2

/-- A recorded gap makes every unfinalized window of the registry that contains it incomplete, in
every state of a run, exactly when each new window that contains a recorded gap of its source
closes after all recorded gaps of the source. -/
theorem coverage_gaps_reach_windows_iff (maximumActive : Nat) (capacityPositive : 0 < maximumActive)
    (actions : List Action) :
    (∀ first last, actions = first ++ last →
      let system := System.execute maximumActive capacityPositive first
      ∀ token ∈ system.registry.tokens, (system.registry.cell token).finalized = false →
        (∃ time ∈ gapTimes (targetSourceProgram token.target) first,
          token.window.contains time = true) →
        (system.registry.cell token).incompleteReason ≠ none ∧
          ∀ claim, (system.step (.claimFinalization token)).1 = .claimed (some claim) →
            claim.incompleteReason ≠ none) ↔
      HoldsLatestGaps maximumActive capacityPositive actions := by
  constructor
  · intro reaches first action last position
    apply holdsLatestGap_of_reaches (execute_valid maximumActive capacityPositive first)
      (execute_storesLatestGap maximumActive capacityPositive first)
    have split : ((System.execute maximumActive capacityPositive first).step action).2 =
        System.execute maximumActive capacityPositive (first ++ [action]) :=
      (Transition.run_concat System.step _ first action).symm
    rw [split]
    intro token member unfinalized overlap
    exact (reaches (first ++ [action]) last (by simp [position]) token member unfinalized overlap).1
  · rintro holds first last rfl system token member unfinalized overlap
    have reaches := execute_gapsReachWindows maximumActive capacityPositive first
      fun earlier action later position => holds earlier action (later ++ last) (by simp [position])
    have recorded := reaches token member unfinalized overlap
    refine ⟨recorded, fun claim claimed => ?_⟩
    obtain ⟨_, _, _, _, rfl⟩ := claim_checked claimed
    exact recorded

/-- A single gap reaches the window that is provisioned after it. -/
theorem coverage_gap_reaches_new_window :
    ((System.execute 4 (by decide) [.recordSourceCoverageGap .pump 1100 .decodeGap,
      .provisionTarget (.pumpMint "mint") "mint" 1000 500]).registry.cell
        (firstToken (.pumpMint "mint") "mint" 1000 1500)).incompleteReason ≠ none := by
  refine ((coverage_gaps_reach_windows_iff 4 (by decide)
    [.recordSourceCoverageGap .pump 1100 .decodeGap,
      .provisionTarget (.pumpMint "mint") "mint" 1000 500]).mpr ?_ _ [] (List.append_nil _).symm
    (firstToken (.pumpMint "mint") "mint" 1000 1500) (by decide) (by decide) (by decide)).1
  rintro first action last position target mint openedAt durationMillis rfl _ _ time member
  cases first with
  | nil => cases position
  | cons head rest =>
      cases rest with
      | nil =>
          cases position
          have only : time = 1100 := List.mem_singleton.mp member
          rw [only]
          decide
      | cons next more =>
          have shorter := congrArg List.length position
          simp at shorter

/-- A later gap hides an earlier one from a window that contains only the earlier one. -/
theorem coverage_gap_hidden_by_later_gap :
    ¬ ∀ (maximumActive : Nat) (capacityPositive : 0 < maximumActive) (actions : List Action),
      let system := System.execute maximumActive capacityPositive actions
      ∀ token ∈ system.registry.tokens, (system.registry.cell token).finalized = false →
        (∃ time ∈ gapTimes (targetSourceProgram token.target) actions,
          token.window.contains time = true) →
        (system.registry.cell token).incompleteReason ≠ none := by
  intro reaches
  have recorded := reaches 4 (by decide)
    [.recordSourceCoverageGap .pump 1100 .decodeGap, .recordSourceCoverageGap .pump 2000 .decodeGap,
      .provisionTarget (.pumpMint "mint") "mint" 1000 500]
    (firstToken (.pumpMint "mint") "mint" 1000 1500) (by decide) (by decide) (by decide)
  exact absurd recorded (by decide)

end Soldisco.Window

import Soldisco.Proof.Window.Invariant

/-
This file proves the invariant of every interleaving and what one step can change.
-/

namespace Soldisco.Window
open Domain MachineInteger ObservationWindowRegistry

/-- The tokens of the live claims. -/
def System.holders (system : System) : List ObservationWindowToken :=
  system.claims.map fun live => live.claim.token

/-- The calls in flight agree with their cells, and the claim flag of a token is set
exactly while one claim of it is live. -/
structure SystemValid (system : System) : Prop where
  registry : RegistryValid system.registry system.issued
  calls : ∀ entry ∈ system.calls, entry.1 ∈ system.issued ∧
    CallValid (system.registry.cell entry.1) entry.2
  holders : ∀ token ∈ system.holders, token ∈ system.issued
  claimed : ∀ token ∈ system.issued,
    (system.registry.cell token).finalizationClaimed = true ↔ token ∈ system.holders
  exclusive : system.holders.Nodup

theorem SystemValid.new (maximumActive : Nat) (capacityPositive : 0 < maximumActive) :
    SystemValid (System.new maximumActive capacityPositive) where
  registry := .new maximumActive capacityPositive
  calls := by simp [System.new]
  holders := by simp [System.new, System.holders]
  claimed := by simp [System.new]
  exclusive := by simp [System.new, System.holders]

/-- The map holds only windows that contain the time of the rotation. -/
def RotatedAt (rotation : Option Int) (registry : ObservationWindowRegistry) : Prop :=
  ∀ now, rotation = some now → ∀ target token, registry.windows.lookup target = some token →
    token.window.contains now = true

/-- A rotation closes the windows that do not contain its time. -/
def ClosedBy (rotation : Option Int) (token : ObservationWindowToken) : Prop :=
  ∃ now, rotation = some now ∧ token.window.contains now = false

/-- The pending token that the action confirms. -/
def System.pendingConfirmation (system : System) : Action → Option ObservationWindowToken
  | .advance index _ =>
      match system.calls[index]? with
      | some (token, .confirm) =>
          if (system.registry.cell token).state = .pending then some token else none
      | _ => none
  | _ => none

/-- The stored gaps after an action. -/
def recordedGaps (registry : ObservationWindowRegistry) :
    Action → SourceProgram → Option SourceCoverageGap
  | .recordSourceCoverageGap source time reason =>
      (registry.storeGap source ⟨time, reason⟩).latestSourceCoverageGap
  | _ => registry.latestSourceCoverageGap

/-- The action works on the cell of one token, on a claim or on the calls in flight. -/
def Action.isTokenStep : Action → Bool
  | .claimFinalization _ | .invoke _ _ | .advance _ _ | .commitClaim _ | .dropClaim _ => true
  | _ => false

theorem Action.rotationTime_of_isTokenStep {action : Action} (tokenStep : action.isTokenStep = true) :
    action.rotationTime = none := by
  cases action <;> first | rfl | cases tokenStep

theorem recordedGaps_of_isTokenStep {action : Action} (tokenStep : action.isTokenStep = true)
    (registry : ObservationWindowRegistry) :
    recordedGaps registry action = registry.latestSourceCoverageGap := by
  cases action <;> first | rfl | cases tokenStep

/-- A step changes the registry by an effect, opens one window, works on the cell of one token
or starts a call. -/
inductive Change (before : System) (action : Action) : System → Prop where
  | registry {after : ObservationWindowRegistry}
      (watermarks : SourceProgram → Option Int)
      (advances : ∀ source watermark, before.registry.latestSourceProgress source = some watermark →
        ∃ later, watermarks source = some later ∧ watermark ≤ later)
      (effect : Effect (ClosedBy action.rotationTime) { before.registry with
        latestSourceCoverageGap := recordedGaps before.registry action
        latestSourceProgress := watermarks } after)
      (rotated : RotatedAt action.rotationTime after) :
      Change before action { before with registry := after }
  | opened {cleared : ObservationWindowRegistry} {target : ObservationTarget} (mint : String)
      (openedAt : Int) (durationMillis : Nat)
      (provision : action = .provisionTarget target mint openedAt durationMillis)
      (unmatched : before.registry.matchingToken target openedAt = none)
      (effect : Effect (ClosedBy action.rotationTime) before.registry cleared)
      (rotated : RotatedAt action.rotationTime cleared)
      (absent : cleared.windows.lookup target = none)
      (room : cleared.windows.entries.length < cleared.maximumActive) :
      Change before action { before with
        registry := cleared.openWindow target mint openedAt (closeTime openedAt durationMillis)
        issued := before.issued ++
          [cleared.newToken target mint openedAt (closeTime openedAt durationMillis)] }
  | cell {token : ObservationWindowToken} {cell : TokenCell}
      (calls : List (ObservationWindowToken × TokenCall)) (claims : List LiveClaim)
      (tokenStep : action.isTokenStep = true) (issued : token ∈ before.issued)
      (progress : CellProgress (before.registry.cell token) cell) (valid : CellValid cell)
      (confirms : cell.wasConfirmed = true → (before.registry.cell token).wasConfirmed = true ∨
        before.pendingConfirmation action = some token) :
      Change before action { before with
        registry := before.registry.setCell token cell, calls, claims }
  | invoked (calls : List (ObservationWindowToken × TokenCall)) (tokenStep : action.isTokenStep = true) :
      Change before action { before with calls }

/-- An effect without rotation is a change. -/
theorem Change.ofEffect {before : System} {action : Action} {after : ObservationWindowRegistry}
    (calm : action.rotationTime = none)
    (gaps : recordedGaps before.registry action = before.registry.latestSourceCoverageGap)
    (effect : ∀ closing, Effect closing before.registry after) :
    Change before action { before with registry := after } :=
  .registry before.registry.latestSourceProgress
    (fun _ watermark present => ⟨watermark, present, le_refl _⟩) (gaps ▸ effect _)
    (fun _ rotation => nomatch calm.symm.trans rotation)

/-- The rotation leaves the windows that contain its time. -/
theorem rotateClosedWindows_rotated (registry : ObservationWindowRegistry) (now : Int) :
    RotatedAt (some now) (registry.rotateClosedWindows now) := by
  intro time same target token present
  cases same
  rw [rotateClosedWindows_lookup, matchingToken_eq_some] at present
  exact (TokenCell.isOpenAt_iff.mp present.2).2

/-- The rotation of a registry is a change. -/
theorem Change.ofRotation {before : System} {action : Action} {now : Int}
    (time : action.rotationTime = some now)
    (gaps : recordedGaps before.registry action = before.registry.latestSourceCoverageGap) :
    Change before action { before with registry := before.registry.rotateClosedWindows now } :=
  .registry before.registry.latestSourceProgress
    (fun _ watermark present => ⟨watermark, present, le_refl _⟩)
    (gaps ▸ (rotateClosedWindows_effect before.registry now).mono fun _ closed => ⟨now, time, closed⟩)
    (time ▸ rotateClosedWindows_rotated before.registry now)

theorem Change.refl (before : System) {action : Action} (tokenStep : action.isTokenStep = true) :
    Change before action before :=
  .invoked before.calls tokenStep

/-- The watermark of each source moves forward only. -/
theorem recordSourceProgress_advances (registry : ObservationWindowRegistry)
    (sourceProgram : SourceProgram) (time : Int) (source : SourceProgram) (watermark : Int)
    (present : registry.latestSourceProgress source = some watermark) :
    ∃ later, (registry.recordSourceProgress sourceProgram time).latestSourceProgress source =
      some later ∧ watermark ≤ later := by
  by_cases same : source = sourceProgram
  · subst same
    refine ⟨max watermark time, ?_, le_max_left _ _⟩
    simp [recordSourceProgress, latestProgress, present]
  · exact ⟨watermark, by simpa [recordSourceProgress, same] using present, le_refl _⟩

/-- The map that receives a new window has room for it. -/
theorem cleared_room {registry : ObservationWindowRegistry} {issued : List ObservationWindowToken}
    (valid : RegistryValid registry issued) (openedAt : Int) :
    (registry.rotateClosedWindows openedAt).evictAtCapacity.windows.entries.length <
      (registry.rotateClosedWindows openedAt).evictAtCapacity.maximumActive := by
  have bounded := (valid.effect (rotateClosedWindows_effect registry openedAt)).capacity
  rw [(evictAtCapacity_effect (fun _ => True) _).maximumActive]
  exact evictAtCapacity_length _ bounded

/-- A provision replays an open window or opens a new one. -/
theorem provision_change {system : System} (valid : SystemValid system)
    (target : ObservationTarget) (mint : String) (openedAt : Int) (durationMillis : Nat) :
    Change system (.provisionTarget target mint openedAt durationMillis)
      (system.provision target mint openedAt durationMillis).2 := by
  unfold System.provision
  rcases provisionTarget_cases system.registry target mint openedAt durationMillis with
    ⟨token, _, outcome⟩ | ⟨unmatched, outcome⟩
  · rw [outcome]
    exact .ofRotation rfl rfl
  · rw [outcome]
    have effect := provisionTarget_effect system.registry openedAt
    refine .opened mint openedAt durationMillis rfl unmatched
      (effect.mono fun _ closed => ⟨openedAt, rfl, closed⟩) ?_
      (evicted_lookup_none unmatched) ?_
    · intro now same key token present
      exact rotateClosedWindows_rotated system.registry openedAt now same key token
        ((evictAtCapacity_effect (fun _ => True) _).windows key token present)
    · exact cleared_room valid.registry openedAt

theorem claim_change {system : System} (valid : SystemValid system)
    (candidate : ObservationWindowToken) :
    Change system (.claimFinalization candidate) (system.claim candidate).2 := by
  unfold System.claim
  rcases outcome : system.registry.claimFinalization candidate with ⟨result, after⟩
  cases result with
  | none =>
      have failed : (system.registry.claimFinalization candidate).1 = none := by rw [outcome]
      have same := claimFinalization_none failed
      rw [outcome] at same
      dsimp only at same ⊢
      rw [same]
      exact .refl system rfl
  | some claim =>
      obtain ⟨retained, _, _, _, rfl, rfl⟩ := claimFinalization_eq_some.mp outcome
      dsimp only
      exact .cell system.calls _ rfl
        (valid.registry.tracked candidate (mem_tokens.mpr (Or.inr retained)))
        (.claimFlag _ true) ((valid.registry.cells candidate.address).claimFlag true) Or.inl

/-- Each atomic operation of a call in flight works on the cell of its token. -/
theorem advance_change {system : System} (valid : SystemValid system) (index : Nat)
    (spuriousFailure : Bool) :
    Change system (.advance index spuriousFailure) (system.advance index spuriousFailure).2 := by
  unfold System.advance
  split
  · exact .refl system rfl
  · rename_i token call found
    obtain ⟨issued, ready⟩ := valid.calls (token, call) (List.mem_of_getElem? found)
    have progress := call.advance_progress spuriousFailure (system.registry.cell token)
    have cellValid := TokenCall.advance_valid spuriousFailure
      (valid.registry.cells token.address) ready
    have confirms (confirmed : (call.advance spuriousFailure
        (system.registry.cell token)).2.wasConfirmed = true) :
        (system.registry.cell token).wasConfirmed = true ∨
          system.pendingConfirmation (.advance index spuriousFailure) = some token := by
      rcases TokenCall.advance_confirms spuriousFailure confirmed with earlier | ⟨rfl, pending⟩
      · exact Or.inl earlier
      · right
        simp [System.pendingConfirmation, found, pending]
    dsimp only
    split
    · exact .cell _ system.claims rfl issued progress cellValid confirms
    · exact .cell _ system.claims rfl issued progress cellValid confirms

theorem commitClaim_change {system : System} (valid : SystemValid system) (index : Nat) :
    Change system (.commitClaim index) (system.commitClaim index).2 := by
  unfold System.commitClaim
  split
  · rename_i claim found
    have holder : claim.token ∈ system.holders :=
      List.mem_map.mpr ⟨_, List.mem_of_getElem? found, rfl⟩
    refine .cell system.calls _ rfl (valid.holders _ holder) (TokenCell.markFinalized_progress _)
      (TokenCell.markFinalized_valid (valid.registry.cells _)) fun confirmed => Or.inl ?_
    unfold TokenCell.markFinalized at confirmed
    split at confirmed <;> exact confirmed
  · exact .refl system rfl

theorem dropClaim_change {system : System} (valid : SystemValid system) (index : Nat) :
    Change system (.dropClaim index) (system.dropClaim index).2 := by
  unfold System.dropClaim
  split
  · rename_i live found
    have holder : live.claim.token ∈ system.holders :=
      List.mem_map.mpr ⟨_, List.mem_of_getElem? found, rfl⟩
    exact .cell system.calls _ rfl (valid.holders _ holder) (.claimFlag _ false)
      ((valid.registry.cells live.claim.token.address).claimFlag false) Or.inl
  · exact .refl system rfl

/-- Each step of a valid system is a change. -/
theorem step_change {system : System} (valid : SystemValid system) (action : Action) :
    Change system action (system.step action).2 := by
  cases action with
  | provisionTarget target mint openedAt durationMillis =>
      exact provision_change valid target mint openedAt durationMillis
  | admitMatchingToken target time =>
      exact .ofEffect rfl rfl fun closing => admitMatchingToken_effect closing system.registry target time
  | activeCount now => exact .ofRotation rfl rfl
  | recordSourceProgress source time =>
      exact .registry _
        (recordSourceProgress_advances system.registry source time) (.refl _ _)
        (fun _ absurd => nomatch absurd)
  | recordSourceCoverageGap source time reason =>
      exact .registry system.registry.latestSourceProgress
        (fun _ watermark present => ⟨watermark, present, le_refl _⟩)
        (recordSourceCoverageGap_effect _ system.registry source time reason)
        (fun _ absurd => nomatch absurd)
  | finalizationCandidates now => exact .ofRotation rfl rfl
  | claimFinalization candidate => exact claim_change valid candidate
  | cleanupFinalized =>
      exact .ofEffect rfl rfl fun closing => cleanupFinalized_effect closing system.registry
  | cancelAllConfirmed reason =>
      exact .ofEffect rfl rfl fun closing =>
        cancelConfirmedMatching_effect closing system.registry reason _
  | cancelSourceConfirmed source reason =>
      exact .ofEffect rfl rfl fun closing =>
        cancelConfirmedMatching_effect closing system.registry reason _
  | invoke token call =>
      change Change system _ (system.invoke token call).2
      unfold System.invoke
      split
      · exact .invoked _ rfl
      · exact .refl system rfl
  | advance index spuriousFailure => exact advance_change valid index spuriousFailure
  | commitClaim index => exact commitClaim_change valid index
  | dropClaim index => exact dropClaim_change valid index

/-- Stored gaps and watermarks are no part of the invariant. -/
theorem RegistryValid.marks {registry : ObservationWindowRegistry}
    {issued : List ObservationWindowToken} (valid : RegistryValid registry issued)
    (gaps : SourceProgram → Option SourceCoverageGap) (watermarks : SourceProgram → Option Int) :
    RegistryValid { registry with
      latestSourceCoverageGap := gaps, latestSourceProgress := watermarks } issued :=
  { valid with }

theorem Change.registryValid {before after : System} {action : Action}
    (change : Change before action after) (valid : RegistryValid before.registry before.issued) :
    RegistryValid after.registry after.issued := by
  cases change with
  | registry watermarks _ effect _ => exact (valid.marks _ watermarks).effect effect
  | opened mint openedAt _ _ _ effect _ absent room =>
      exact (valid.effect effect).openWindow absent room mint openedAt _
  | cell _ _ _ _ progress cellValid _ => exact valid.setCell progress cellValid
  | invoked => exact valid

/-- What one step, and hence any run, leaves of the tokens that exist before it. -/
structure Evolution (rotations : List Int) (before after : System) : Prop where
  maximumActive : after.registry.maximumActive = before.registry.maximumActive
  issued : before.issued <+: after.issued
  cells : ∀ token ∈ before.issued,
    CellProgress (before.registry.cell token) (after.registry.cell token)
  windows : ∀ target token, after.registry.windows.lookup target = some token →
    before.registry.windows.lookup target = some token ∨ token ∉ before.issued
  retained : ∀ token ∈ after.registry.retained, token ∈ before.registry.tokens ∨ token ∉ before.issued
  stays : ∀ token ∈ before.registry.retained, (after.registry.cell token).finalized = false →
    token ∈ after.registry.retained
  left : ∀ target token, before.registry.windows.lookup target = some token →
    after.registry.windows.lookup target = some token ∨
      (after.registry.cell token).isLive = false ∨
      ∃ now ∈ rotations, token.window.contains now = false
  rotated : ∀ target token, after.registry.windows.lookup target = some token →
    token ∈ before.issued → ∀ now ∈ rotations, token.window.contains now = true
  watermarks : ∀ source watermark, before.registry.latestSourceProgress source = some watermark →
    ∃ later, after.registry.latestSourceProgress source = some later ∧ watermark ≤ later

theorem Evolution.refl (system : System) : Evolution [] system system where
  maximumActive := rfl
  issued := List.prefix_rfl
  cells := fun _ _ => .refl _
  windows := fun _ _ present => Or.inl present
  retained := fun _ member => Or.inl (mem_tokens.mpr (Or.inr member))
  stays := fun _ member _ => member
  left := fun _ _ present => Or.inl present
  rotated := by simp
  watermarks := fun _ watermark present => ⟨watermark, present, le_refl _⟩

theorem Evolution.trans {first second third : System} {earlier later : List Int}
    (valid : RegistryValid first.registry first.issued)
    (left : Evolution earlier first second) (right : Evolution later second third) :
    Evolution (earlier ++ later) first third where
  maximumActive := right.maximumActive.trans left.maximumActive
  issued := left.issued.trans right.issued
  cells := fun token member =>
    (left.cells token member).trans (right.cells token (left.issued.subset member))
  windows := by
    intro target token present
    rcases right.windows target token present with middle | unissued
    · exact left.windows target token middle
    · exact Or.inr fun member => unissued (left.issued.subset member)
  retained := by
    intro token member
    rcases right.retained token member with middle | unissued
    · rcases mem_tokens.mp middle with ⟨target, active⟩ | retained
      · rcases left.windows target token active with present | unissued
        · exact Or.inl (mem_tokens.mpr (Or.inl ⟨target, present⟩))
        · exact Or.inr unissued
      · exact left.retained token retained
    · exact Or.inr fun member => unissued (left.issued.subset member)
  stays := by
    intro token member unfinalized
    have issued := valid.tracked token (mem_tokens.mpr (Or.inr member))
    have progress := right.cells token (left.issued.subset issued)
    exact right.stays token (left.stays token member (progress.unfinalized unfinalized)) unfinalized
  left := by
    intro target token present
    rcases left.left target token present with stays | dead | ⟨now, member, closed⟩
    · rcases right.left target token stays with stays | dead | ⟨now, member, closed⟩
      · exact Or.inl stays
      · exact Or.inr (Or.inl dead)
      · exact Or.inr (Or.inr ⟨now, List.mem_append_right _ member, closed⟩)
    · have progress := right.cells token (left.issued.subset (valid.active_issued present))
      refine Or.inr (Or.inl (Bool.eq_false_of_not_eq_true fun live => ?_))
      exact absurd (dead.symm.trans (progress.isLive live)) (by decide)
    · exact Or.inr (Or.inr ⟨now, List.mem_append_left _ member, closed⟩)
  rotated := by
    intro target token present issued now member
    have later := left.issued.subset issued
    rcases List.mem_append.mp member with before | after
    · rcases right.windows target token present with middle | unissued
      · exact left.rotated target token middle issued now before
      · exact absurd later unissued
    · exact right.rotated target token present later now after
  watermarks := by
    intro source watermark present
    obtain ⟨middle, found, first⟩ := left.watermarks source watermark present
    obtain ⟨last, stored, second⟩ := right.watermarks source middle found
    exact ⟨last, stored, first.trans second⟩

theorem mem_of_mem_tokens_openWindow {registry : ObservationWindowRegistry}
    {target : ObservationTarget} {mint : String} {openedAt closesAt : Int}
    (absent : registry.windows.lookup target = none) {token : ObservationWindowToken}
    (member : token ∈ registry.tokens) :
    token ∈ (registry.openWindow target mint openedAt closesAt).tokens := by
  rw [mem_tokens] at member ⊢
  rcases member with ⟨key, active⟩ | retained
  · refine Or.inl ⟨key, ?_⟩
    have different : key ≠ target := by
      rintro rfl
      simp [absent] at active
    exact (AList.lookup_insert_ne different).trans active
  · exact Or.inr retained

theorem Change.evolution {before after : System} {action : Action}
    (change : Change before action after) (valid : RegistryValid before.registry before.issued) :
    Evolution action.rotationTime.toList before after := by
  cases change with
  | registry watermarks advances effect rotated =>
      refine { Evolution.refl before with
        maximumActive := effect.maximumActive
        cells := fun token _ => effect.cells token.address
        windows := fun target token present => Or.inl (effect.windows target token present)
        retained := fun token member => Or.inl (Multiset.mem_of_le effect.tokens
          (mem_tokens.mpr (Or.inr member)))
        stays := effect.stays
        left := ?_, rotated := ?_, watermarks := ?_ }
      · intro target token present
        rcases effect.left target token present with stays | dead | ⟨now, same, closed⟩
        · exact Or.inl stays
        · exact Or.inr (Or.inl dead)
        · exact Or.inr (Or.inr ⟨now, Option.mem_toList.mpr same, closed⟩)
      · intro target token present _ now member
        exact rotated now (Option.mem_toList.mp member) target token present
      · intro source watermark present
        rw [effect.watermarks]
        exact advances source watermark present
  | @opened cleared target mint openedAt durationMillis _ _ effect rotated absent room =>
      generalize closeTime openedAt durationMillis = closesAt
      have unissued := (valid.effect effect).newToken_not_issued target mint openedAt closesAt
      have older (key : ObservationTarget) (token : ObservationWindowToken)
          (present : (cleared.openWindow target mint openedAt closesAt).windows.lookup key =
            some token) : cleared.windows.lookup key = some token ∨ token ∉ before.issued := by
        by_cases same : key = target
        · subst same
          right
          rw [show (cleared.openWindow key mint openedAt closesAt).windows.lookup key =
            some (cleared.newToken key mint openedAt closesAt) from AList.lookup_insert _] at present
          cases present
          exact unissued
        · exact Or.inl ((AList.lookup_insert_ne same).symm.trans present)
      have cell (token : ObservationWindowToken) (issued : token ∈ before.issued) :
          (cleared.openWindow target mint openedAt closesAt).cell token = cleared.cell token := by
        apply openWindow_cells_of_ne
        exact Nat.ne_of_lt ((valid.effect effect).addresses token issued).1
      refine { Evolution.refl before with
        maximumActive := effect.maximumActive
        issued := List.prefix_append _ _
        cells := ?_, windows := ?_, retained := ?_, stays := ?_, left := ?_, rotated := ?_,
        watermarks := ?_ }
      · intro token issued
        rw [cell token issued]
        exact effect.cells token.address
      · intro key token present
        rcases older key token present with middle | fresh
        · exact Or.inl (effect.windows key token middle)
        · exact Or.inr fresh
      · intro token member
        exact Or.inl (Multiset.mem_of_le effect.tokens (mem_tokens.mpr (Or.inr member)))
      · intro token member unfinalized
        rw [cell token (valid.tracked token (mem_tokens.mpr (Or.inr member)))] at unfinalized
        exact effect.stays token member unfinalized
      · intro key token present
        rw [cell token (valid.active_issued present)]
        rcases effect.left key token present with stays | dead | ⟨now, same, closed⟩
        · left
          have different : key ≠ target := by
            rintro rfl
            simp [absent] at stays
          exact (AList.lookup_insert_ne different).trans stays
        · exact Or.inr (Or.inl dead)
        · exact Or.inr (Or.inr ⟨now, Option.mem_toList.mpr same, closed⟩)
      · intro key token present issued now member
        rcases older key token present with middle | fresh
        · exact rotated now (Option.mem_toList.mp member) key token middle
        · exact absurd issued fresh
      · intro source watermark present
        refine ⟨watermark, ?_, le_refl _⟩
        exact (congrFun effect.watermarks source).trans present
  | @cell token cell calls claims tokenStep issued progress _ _ =>
      rw [Action.rotationTime_of_isTokenStep tokenStep]
      refine { Evolution.refl before with
        cells := ?_
        stays := fun _ member _ => member
        left := fun _ _ present => Or.inl present }
      intro other member
      by_cases same : other = token
      · subst same
        simpa using progress
      · have different : other.address ≠ token.address :=
          fun equal => same (valid.injective other member token issued equal)
        change CellProgress _ ((before.registry.setCell token cell).cells other.address)
        rw [cells_setCell_of_ne cell different]
        exact .refl _
  | invoked _ tokenStep =>
      rw [Action.rotationTime_of_isTokenStep tokenStep]
      exact { Evolution.refl before with }

/-- Only a recorded gap changes the stored gaps. -/
theorem Change.gaps {before after : System} {action : Action} (change : Change before action after) :
    after.registry.latestSourceCoverageGap = recordedGaps before.registry action := by
  cases change with
  | registry _ _ effect _ => exact effect.gaps
  | opened _ _ _ provision _ effect _ _ _ =>
      rw [provision]
      exact effect.gaps
  | cell _ _ tokenStep => exact (recordedGaps_of_isTokenStep tokenStep _).symm
  | invoked _ tokenStep => exact (recordedGaps_of_isTokenStep tokenStep _).symm

/-- A step drops no token that it leaves confirmed and unfinalized. -/
theorem Change.kept {before after : System} {action : Action}
    (change : Change before action after) (valid : RegistryValid before.registry before.issued)
    {token : ObservationWindowToken} (member : token ∈ before.registry.tokens)
    (confirmed : (after.registry.cell token).wasConfirmed = true)
    (unfinalized : (after.registry.cell token).finalized = false) :
    token ∈ after.registry.tokens := by
  cases change with
  | registry _ _ effect _ => exact effect.kept token member confirmed unfinalized
  | opened mint openedAt _ _ _ effect _ absent _ =>
      apply mem_of_mem_tokens_openWindow absent
      have below := ((valid.effect effect).addresses token (valid.tracked token member)).1
      dsimp only [ObservationWindowRegistry.cell] at confirmed unfinalized
      rw [openWindow_cells_of_ne _ mint openedAt _ (Nat.ne_of_lt below)] at confirmed unfinalized
      exact effect.kept token member confirmed unfinalized
  | cell => exact member
  | invoked => exact member

/-- A registry effect keeps the system valid. -/
theorem SystemValid.ofEffect {system : System} (valid : SystemValid system)
    {closing : ObservationWindowToken → Prop} {after : ObservationWindowRegistry}
    {gaps : SourceProgram → Option SourceCoverageGap} {watermarks : SourceProgram → Option Int}
    (effect : Effect closing { system.registry with
      latestSourceCoverageGap := gaps, latestSourceProgress := watermarks } after) :
    SystemValid { system with registry := after } where
  registry := (valid.registry.marks gaps watermarks).effect effect
  calls := by
    intro entry member
    obtain ⟨issued, ready⟩ := valid.calls entry member
    exact ⟨issued, ready.progress (effect.cells entry.1.address)⟩
  holders := valid.holders
  claimed := by
    intro token member
    change (after.cells token.address).finalizationClaimed = true ↔ _
    rw [effect.claimed]
    exact valid.claimed token member
  exclusive := valid.exclusive

theorem newCell_finalizationClaimed (registry : ObservationWindowRegistry)
    (window : ObservationWindow) : (registry.newCell window).finalizationClaimed = false := by
  unfold newCell
  split <;> rfl

/-- A new window is neither called nor claimed. -/
theorem SystemValid.openWindow {system : System} (valid : SystemValid system)
    {target : ObservationTarget} (absent : system.registry.windows.lookup target = none)
    (room : system.registry.windows.entries.length < system.registry.maximumActive)
    (mint : String) (openedAt closesAt : Int) :
    SystemValid { system with
      registry := system.registry.openWindow target mint openedAt closesAt
      issued := system.issued ++ [system.registry.newToken target mint openedAt closesAt] } := by
  have unchanged (token : ObservationWindowToken) (issued : token ∈ system.issued) :
      (system.registry.openWindow target mint openedAt closesAt).cell token =
        system.registry.cell token :=
    openWindow_cells_of_ne _ _ _ _ (Nat.ne_of_lt (valid.registry.addresses token issued).1)
  refine { registry := valid.registry.openWindow absent room mint openedAt closesAt,
           calls := ?_, holders := ?_, claimed := ?_, exclusive := valid.exclusive }
  · intro entry member
    obtain ⟨issued, ready⟩ := valid.calls entry member
    refine ⟨List.mem_append_left _ issued, ?_⟩
    rw [unchanged entry.1 issued]
    exact ready
  · exact fun token member => List.mem_append_left _ (valid.holders token member)
  · intro token member
    rcases List.mem_append.mp member with issued | new
    · rw [unchanged token issued]
      exact valid.claimed token issued
    · rw [List.mem_singleton.mp new, openWindow_cell, newCell_finalizationClaimed]
      constructor
      · exact fun absurd => nomatch absurd
      · intro holder
        exact absurd (valid.holders _ holder)
          (valid.registry.newToken_not_issued target mint openedAt closesAt)

/-- An operation on one cell keeps the other parts of a valid system. The caller accounts for
the calls in flight and for the claims. -/
theorem SystemValid.setCell {system : System} (valid : SystemValid system)
    {token : ObservationWindowToken} (issued : token ∈ system.issued) {cell : TokenCell}
    (progress : CellProgress (system.registry.cell token) cell) (cellValid : CellValid cell)
    {calls : List (ObservationWindowToken × TokenCall)} {claims : List LiveClaim}
    (called : ∀ entry ∈ calls, entry ∈ system.calls ∨ (entry.1 = token ∧ CallValid cell entry.2))
    (holders : ∀ live ∈ claims, live.claim.token ∈ system.issued)
    (exclusive : (claims.map fun live => live.claim.token).Nodup)
    (own : cell.finalizationClaimed = true ↔ token ∈ claims.map fun live => live.claim.token)
    (others : ∀ other, other ≠ token →
      (other ∈ system.holders ↔ other ∈ claims.map fun live => live.claim.token)) :
    SystemValid { system with
      registry := system.registry.setCell token cell, calls, claims } := by
  have unchanged (other : ObservationWindowToken) (member : other ∈ system.issued)
      (different : other ≠ token) :
      (system.registry.setCell token cell).cell other = system.registry.cell other :=
    cells_setCell_of_ne cell fun equal =>
      different (valid.registry.injective other member token issued equal)
  refine { registry := valid.registry.setCell progress cellValid, calls := ?_, holders := ?_,
           claimed := ?_, exclusive := exclusive }
  · intro entry member
    rcases called entry member with earlier | ⟨same, ready⟩
    · obtain ⟨member, ready⟩ := valid.calls entry earlier
      refine ⟨member, ?_⟩
      by_cases same : entry.1 = token
      · rw [same] at ready ⊢
        rw [cell_setCell]
        exact ready.progress progress
      · rw [unchanged entry.1 member same]
        exact ready
    · rw [same, cell_setCell]
      exact ⟨issued, ready⟩
  · intro other member
    obtain ⟨live, member, same⟩ := List.mem_map.mp member
    exact same ▸ holders live member
  · intro other member
    by_cases same : other = token
    · rw [same, cell_setCell]
      exact own
    · rw [unchanged other member same, valid.claimed other member]
      exact others other same

theorem provision_valid {system : System} (valid : SystemValid system)
    (target : ObservationTarget) (mint : String) (openedAt : Int) (durationMillis : Nat) :
    SystemValid (system.provision target mint openedAt durationMillis).2 := by
  unfold System.provision
  rcases provisionTarget_cases system.registry target mint openedAt durationMillis with
    ⟨token, _, outcome⟩ | ⟨unmatched, outcome⟩
  · rw [outcome]
    exact valid.ofEffect (rotateClosedWindows_effect system.registry openedAt)
  · rw [outcome]
    exact (valid.ofEffect (provisionTarget_effect system.registry openedAt)).openWindow
      (evicted_lookup_none unmatched) (cleared_room valid.registry openedAt) mint openedAt _

theorem claim_valid {system : System} (valid : SystemValid system)
    (candidate : ObservationWindowToken) : SystemValid (system.claim candidate).2 := by
  unfold System.claim
  rcases outcome : system.registry.claimFinalization candidate with ⟨result, after⟩
  cases result with
  | none =>
      have failed : (system.registry.claimFinalization candidate).1 = none := by rw [outcome]
      have same := claimFinalization_none failed
      rw [outcome] at same
      dsimp only at same ⊢
      rw [same]
      exact valid
  | some claim =>
      obtain ⟨retained, _, _, free, rfl, rfl⟩ := claimFinalization_eq_some.mp outcome
      have issued := valid.registry.tracked candidate (mem_tokens.mpr (Or.inr retained))
      have unclaimed : candidate ∉ system.holders := by
        rw [← valid.claimed candidate issued, free]
        exact Bool.false_ne_true
      apply valid.setCell issued (.claimFlag _ true)
        ((valid.registry.cells candidate.address).claimFlag true)
      case called => exact fun entry member => Or.inl member
      case holders =>
          intro live member
          rcases List.mem_append.mp member with earlier | new
          · exact valid.holders _ (List.mem_map.mpr ⟨live, earlier, rfl⟩)
          · rw [List.mem_singleton.mp new]
            exact issued
      case exclusive =>
          rw [List.map_append]
          apply List.nodup_append.mpr ⟨valid.exclusive, List.nodup_singleton _, ?_⟩
          intro holder member other new same
          rw [List.mem_singleton.mp new] at same
          change holder = candidate at same
          exact unclaimed (same ▸ member)
      case own => simp
      case others =>
          intro other different
          simp [System.holders, different]

/-- The claims stay while a call works on its cell. -/
theorem SystemValid.advanceCall {system : System} (valid : SystemValid system)
    {token : ObservationWindowToken} {call : TokenCall} (member : (token, call) ∈ system.calls)
    (spuriousFailure : Bool) {calls : List (ObservationWindowToken × TokenCall)}
    (called : ∀ entry ∈ calls, entry ∈ system.calls ∨ (entry.1 = token ∧
      (call.advance spuriousFailure (system.registry.cell token)).1 = .running entry.2)) :
    SystemValid { system with
      registry := system.registry.setCell token
        (call.advance spuriousFailure (system.registry.cell token)).2, calls } := by
  obtain ⟨issued, ready⟩ := valid.calls (token, call) member
  apply valid.setCell issued (call.advance_progress spuriousFailure _)
    (TokenCall.advance_valid spuriousFailure (valid.registry.cells token.address) ready)
  case called =>
      intro entry member
      rcases called entry member with earlier | ⟨same, running⟩
      · exact Or.inl earlier
      · exact Or.inr ⟨same, TokenCall.advance_running spuriousFailure ready running⟩
  case holders => exact fun live member => valid.holders _ (List.mem_map.mpr ⟨live, member, rfl⟩)
  case exclusive => exact valid.exclusive
  case own =>
      rw [TokenCall.advance_finalizationClaimed]
      exact valid.claimed token issued
  case others => exact fun _ _ => Iff.rfl

theorem advance_valid {system : System} (valid : SystemValid system) (index : Nat)
    (spuriousFailure : Bool) : SystemValid (system.advance index spuriousFailure).2 := by
  unfold System.advance
  split
  · exact valid
  · rename_i token call found
    have member := List.mem_of_getElem? found
    dsimp only
    split
    · rename_i next running
      apply valid.advanceCall member spuriousFailure
      intro entry member
      rcases List.mem_or_eq_of_mem_set member with earlier | rfl
      · exact Or.inl earlier
      · exact Or.inr ⟨rfl, running⟩
    · exact valid.advanceCall member spuriousFailure fun entry member =>
        Or.inl (List.mem_of_mem_eraseIdx member)

theorem commitClaim_valid {system : System} (valid : SystemValid system) (index : Nat) :
    SystemValid (system.commitClaim index).2 := by
  unfold System.commitClaim
  split
  · rename_i claim found
    have holder : claim.token ∈ system.holders :=
      List.mem_map.mpr ⟨_, List.mem_of_getElem? found, rfl⟩
    have issued := valid.holders _ holder
    have same : (system.claims.set index ⟨claim, true⟩).map (fun live => live.claim.token) =
        system.holders := by
      obtain ⟨within, stored⟩ := List.getElem?_eq_some_iff.mp found
      have position : index < system.holders.length := by simpa [System.holders] using within
      have current : system.holders[index] = claim.token := by simp [System.holders, stored]
      rw [List.map_set]
      exact current ▸ List.set_getElem_self position
    apply valid.setCell issued (TokenCell.markFinalized_progress _)
      (TokenCell.markFinalized_valid (valid.registry.cells _))
    case called => exact fun entry member => Or.inl member
    case holders =>
        intro live member
        apply valid.holders
        rw [← same]
        exact List.mem_map.mpr ⟨live, member, rfl⟩
    case exclusive => exact same ▸ valid.exclusive
    case own =>
        rw [same, ← valid.claimed _ issued]
        unfold TokenCell.markFinalized
        split <;> rfl
    case others => exact fun _ _ => by rw [same]
  · exact valid

theorem dropClaim_valid {system : System} (valid : SystemValid system) (index : Nat) :
    SystemValid (system.dropClaim index).2 := by
  unfold System.dropClaim
  split
  · rename_i live found
    have holder : live.claim.token ∈ system.holders :=
      List.mem_map.mpr ⟨_, List.mem_of_getElem? found, rfl⟩
    have erased : (system.claims.eraseIdx index).map (fun live => live.claim.token) =
        system.holders.erase live.claim.token := by
      obtain ⟨within, stored⟩ := List.getElem?_eq_some_iff.mp found
      have position : index < system.holders.length := by simpa [System.holders] using within
      have current : system.holders[index] = live.claim.token := by simp [System.holders, stored]
      rw [← List.eraseIdx_map, ← current]
      exact (valid.exclusive.erase_getElem index position).symm
    apply valid.setCell (valid.holders _ holder) (.claimFlag _ false)
      ((valid.registry.cells live.claim.token.address).claimFlag false)
    case called => exact fun entry member => Or.inl member
    case holders =>
        intro other member
        exact valid.holders _ (List.mem_map.mpr ⟨other, List.mem_of_mem_eraseIdx member, rfl⟩)
    case exclusive => exact erased ▸ valid.exclusive.erase _
    case own =>
        rw [erased]
        simp [valid.exclusive.not_mem_erase]
    case others =>
        intro other different
        rw [erased, List.mem_erase_of_ne different]
  · exact valid

/-- Each step keeps the system valid. -/
theorem step_valid {system : System} (valid : SystemValid system) (action : Action) :
    SystemValid (system.step action).2 := by
  cases action with
  | provisionTarget target mint openedAt durationMillis =>
      exact provision_valid valid target mint openedAt durationMillis
  | admitMatchingToken target time =>
      exact valid.ofEffect (admitMatchingToken_effect (fun _ => True) system.registry target time)
  | activeCount now => exact valid.ofEffect (rotateClosedWindows_effect system.registry now)
  | recordSourceProgress source time => exact valid.ofEffect (.refl (fun _ => True) _)
  | recordSourceCoverageGap source time reason =>
      exact valid.ofEffect
        (recordSourceCoverageGap_effect (fun _ => True) system.registry source time reason)
  | finalizationCandidates now =>
      exact valid.ofEffect (rotateClosedWindows_effect system.registry now)
  | claimFinalization candidate => exact claim_valid valid candidate
  | cleanupFinalized =>
      exact valid.ofEffect (cleanupFinalized_effect (fun _ => True) system.registry)
  | cancelAllConfirmed reason =>
      exact valid.ofEffect
        (cancelConfirmedMatching_effect (fun _ => True) system.registry reason _)
  | cancelSourceConfirmed source reason =>
      exact valid.ofEffect
        (cancelConfirmedMatching_effect (fun _ => True) system.registry reason _)
  | invoke token call =>
      change SystemValid (system.invoke token call).2
      unfold System.invoke
      split
      · rename_i allowed
        refine { valid with calls := ?_ }
        intro entry member
        rcases List.mem_append.mp member with earlier | new
        · exact valid.calls entry earlier
        · rw [List.mem_singleton.mp new]
          exact ⟨allowed.1, .entry allowed.2 _⟩
      · exact valid
  | advance index spuriousFailure => exact advance_valid valid index spuriousFailure
  | commitClaim index => exact commitClaim_valid valid index
  | dropClaim index => exact dropClaim_valid valid index

theorem run_valid {system : System} (valid : SystemValid system) (actions : List Action) :
    SystemValid (Transition.run System.step system actions) :=
  Transition.invariant_run System.step SystemValid (fun _ action valid => step_valid valid action)
    valid actions

/-- Every reachable system is valid. -/
theorem execute_valid (maximumActive : Nat) (capacityPositive : 0 < maximumActive)
    (actions : List Action) :
    SystemValid (System.execute maximumActive capacityPositive actions) :=
  run_valid (.new maximumActive capacityPositive) actions

/-- A run rotates at the times of its actions. -/
def rotationTimes (actions : List Action) : List Int :=
  actions.filterMap Action.rotationTime

/-- A run chains the evolutions of its steps. -/
theorem run_evolution {system : System} (valid : SystemValid system) (actions : List Action) :
    Evolution (rotationTimes actions) system (Transition.run System.step system actions) := by
  induction actions generalizing system with
  | nil => exact .refl system
  | cons action rest ih =>
      have first := (step_change valid action).evolution valid.registry
      have chained := first.trans valid.registry (ih (step_valid valid action))
      have times : action.rotationTime.toList ++ rotationTimes rest = rotationTimes (action :: rest) := by
        cases rotation : action.rotationTime <;> simp [rotationTimes, rotation]
      rwa [times] at chained

theorem execute_maximumActive (maximumActive : Nat) (capacityPositive : 0 < maximumActive)
    (actions : List Action) :
    (System.execute maximumActive capacityPositive actions).registry.maximumActive = maximumActive :=
  (run_evolution (.new maximumActive capacityPositive) actions).maximumActive

/-- A provision that reports a new window has issued its token and stored it under its target. -/
theorem provision_opened {system : System} (valid : SystemValid system)
    {target : ObservationTarget} {mint : String} {openedAt : Int} {durationMillis : Nat}
    {token : ObservationWindowToken}
    (opened : (system.step (.provisionTarget target mint openedAt durationMillis)).1 =
      .provisioned ⟨token, true⟩) :
    (system.step (.provisionTarget target mint openedAt durationMillis)).2.registry.windows.lookup
        target = some token ∧
      token ∈ (system.step (.provisionTarget target mint openedAt durationMillis)).2.issued ∧
      token ∉ system.issued ∧
      token.window = ⟨target, mint, openedAt, closeTime openedAt durationMillis⟩ := by
  change (system.provision target mint openedAt durationMillis).1 = _ at opened
  change (system.provision target mint openedAt durationMillis).2.registry.windows.lookup
    target = _ ∧ _ ∈ (system.provision target mint openedAt durationMillis).2.issued ∧ _
  unfold System.provision at opened ⊢
  rcases provisionTarget_cases system.registry target mint openedAt durationMillis with
    ⟨token, _, outcome⟩ | ⟨unmatched, outcome⟩
  · rw [outcome] at opened
    simp at opened
  · rw [outcome] at opened ⊢
    simp only [Output.provisioned.injEq, ObservationWindowProvision.mk.injEq, and_true] at opened
    subst opened
    have cleared := valid.registry.effect (provisionTarget_effect system.registry openedAt)
    refine ⟨AList.lookup_insert _, ?_, cleared.newToken_not_issued _ _ _ _, rfl⟩
    simp

/-- What a successful claim has checked. -/
theorem claim_checked {system : System} {candidate : ObservationWindowToken}
    {claim : ObservationWindowFinalizationClaim}
    (claimed : (system.step (.claimFinalization candidate)).1 = .claimed (some claim)) :
    candidate ∈ system.registry.retained ∧ system.registry.isClaimable candidate = true ∧
      ((system.registry.cell candidate).incompleteReason ≠ none ∨
        system.registry.awaitsProgress candidate = false) ∧
      (system.registry.cell candidate).finalizationClaimed = false ∧
      claim = ⟨candidate, (system.registry.cell candidate).incompleteReason⟩ := by
  simp only [System.step, System.claim, Output.claimed.injEq] at claimed
  obtain ⟨member, claimable, ready, free, same, _⟩ :=
    claimFinalization_eq_some.mp (Prod.ext claimed rfl)
  exact ⟨member, claimable, ready, free, same⟩

/-- A complete claim is made on a live token without a reason. -/
theorem complete_claim_live {system : System} (valid : SystemValid system)
    {candidate token : ObservationWindowToken}
    (claimed : (system.step (.claimFinalization candidate)).1 = .claimed (some ⟨token, none⟩)) :
    (system.registry.cell candidate).isLive = true ∧
      (system.registry.cell candidate).incompleteReason = none := by
  obtain ⟨_, claimable, _, _, same⟩ := claim_checked claimed
  have complete : (system.registry.cell candidate).incompleteReason = none := by
    simpa using (congrArg ObservationWindowFinalizationClaim.incompleteReason same).symm
  have confirmed := (isClaimable_iff.mp claimable).1
  exact ⟨TokenCell.isLive_of_state
    ((valid.registry.cells candidate.address).live_of_complete confirmed complete), complete⟩

end Soldisco.Window

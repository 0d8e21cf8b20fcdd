import Soldisco.Proof.Window.Presentation
import Soldisco.Proof.Window.Step

/-
This file proves that finalization claims are exclusive, sound and ordered with cancellation.
-/

namespace Soldisco.Window
open Domain ObservationWindowRegistry

/-- What a token keeps once a claim has been made on it: only settlement and finalization
decide whether it can be claimed again. -/
structure ClaimReady (system : System) (token : ObservationWindowToken) : Prop where
  confirmed : (system.registry.cell token).wasConfirmed = true
  durable : (system.registry.cell token).durableWindowId ≠ none
  ready : (system.registry.cell token).incompleteReason ≠ none ∨
    system.registry.awaitsProgress token = false
  retained : (system.registry.cell token).finalized = false → token ∈ system.registry.retained

/-- The source progress that a token waits for is never taken back. -/
theorem Evolution.awaitsProgress {rotations : List Int} {before after : System}
    (evolution : Evolution rotations before after) {token : ObservationWindowToken}
    (ready : before.registry.awaitsProgress token = false) :
    after.registry.awaitsProgress token = false := by
  obtain ⟨watermark, stored, closed⟩ := awaitsProgress_eq_false.mp ready
  obtain ⟨later, found, advanced⟩ := evolution.watermarks _ watermark stored
  exact awaitsProgress_eq_false.mpr ⟨later, found, closed.trans advanced⟩

theorem ClaimReady.evolve {rotations : List Int} {before after : System}
    {token : ObservationWindowToken} (ready : ClaimReady before token) (issued : token ∈ before.issued)
    (evolution : Evolution rotations before after) : ClaimReady after token where
  confirmed := (evolution.cells token issued).wasConfirmed ready.confirmed
  durable := by
    obtain ⟨id, stored⟩ := Option.ne_none_iff_exists'.mp ready.durable
    rw [(evolution.cells token issued).durable id stored]
    exact Option.some_ne_none id
  ready := by
    rcases ready.ready with recorded | progressed
    · exact Or.inl ((evolution.cells token issued).reason_ne_none recorded)
    · exact Or.inr (evolution.awaitsProgress progressed)
  retained := fun unfinalized => evolution.stays token
    (ready.retained ((evolution.cells token issued).unfinalized unfinalized)) unfinalized

/-- A token is claimed by a successful claim and by nothing else. -/
theorem step_holders {system : System} {action : Action} {token : ObservationWindowToken}
    (holder : token ∈ (system.step action).2.holders) : token ∈ system.holders ∨
      ∃ claim, action = .claimFinalization token ∧ (system.step action).1 = .claimed (some claim) := by
  cases action with
  | claimFinalization candidate =>
      simp only [System.step, System.claim, System.holders] at holder ⊢
      cases outcome : (system.registry.claimFinalization candidate).1 with
      | none =>
          simp only [outcome] at holder
          exact Or.inl holder
      | some claim =>
          have same := (claimFinalization_eq_some.mp (Prod.ext outcome rfl)).2.2.2.2.1
          simp only [outcome, List.map_append, List.map_cons, List.map_nil, List.mem_append,
            List.mem_singleton] at holder
          rcases holder with earlier | new
          · exact Or.inl earlier
          · right
            rw [same] at new
            exact ⟨claim, by rw [new], rfl⟩
  | advance index spuriousFailure =>
      simp only [System.step, System.advance, System.holders] at holder ⊢
      grind
  | commitClaim index =>
      left
      simp only [System.step, System.commitClaim, System.holders] at holder ⊢
      split at holder
      · rename_i claim found
        obtain ⟨live, member, same⟩ := List.mem_map.mp holder
        rcases List.mem_or_eq_of_mem_set member with earlier | rfl
        · exact List.mem_map.mpr ⟨live, earlier, same⟩
        · exact List.mem_map.mpr ⟨_, List.mem_of_getElem? found, same⟩
      · exact holder
  | dropClaim index =>
      left
      simp only [System.step, System.dropClaim, System.holders] at holder ⊢
      split at holder
      · obtain ⟨live, member, same⟩ := List.mem_map.mp holder
        exact List.mem_map.mpr ⟨live, List.mem_of_mem_eraseIdx member, same⟩
      · exact holder
  | invoke called call =>
      left
      simp only [System.step, System.invoke] at holder
      split at holder <;> exact holder
  | _ => exact Or.inl holder

/-- Each live claim is ready, whatever ran since it was made. -/
def ClaimsReady (system : System) : Prop :=
  ∀ token ∈ system.holders, ClaimReady system token

theorem step_claimsReady {system : System} (valid : SystemValid system) (ready : ClaimsReady system)
    (action : Action) : ClaimsReady (system.step action).2 := by
  intro token holder
  have evolution := (step_change valid action).evolution valid.registry
  rcases step_holders holder with earlier | ⟨claim, rfl, claimed⟩
  · exact (ready token earlier).evolve (valid.holders token earlier) evolution
  · obtain ⟨retained, claimable, progressed, _, _⟩ := claim_checked claimed
    obtain ⟨confirmed, durable, _, _⟩ := isClaimable_iff.mp claimable
    have issued := valid.registry.tracked token (mem_tokens.mpr (Or.inr retained))
    exact ClaimReady.evolve ⟨confirmed, durable, progressed, fun _ => retained⟩ issued evolution

theorem execute_claimsReady (maximumActive : Nat) (capacityPositive : 0 < maximumActive)
    (actions : List Action) :
    ClaimsReady (System.execute maximumActive capacityPositive actions) := by
  refine (Transition.invariant_run System.step (fun system => SystemValid system ∧ ClaimsReady system)
    (fun _ action holds => ⟨step_valid holds.1 action, step_claimsReady holds.1 holds.2 action⟩)
    ⟨.new maximumActive capacityPositive, ?_⟩ actions).2
  simp [ClaimsReady, System.new, System.holders]

/-- The action cancels the confirmed windows of the token's source. -/
def Action.cancels (token : ObservationWindowToken) : Action → Bool
  | .cancelAllConfirmed _ => true
  | .cancelSourceConfirmed source _ => targetSourceProgram token.target == source
  | _ => false

/-- A cancellation gives a reason to each token that is confirmed, unfinalized and unclaimed. -/
theorem cancel_reason {system : System} (valid : SystemValid system) {action : Action}
    {token : ObservationWindowToken} (cancels : action.cancels token = true)
    (tracked : token ∈ system.registry.tokens)
    (confirmed : (system.registry.cell token).wasConfirmed = true)
    (unfinalized : (system.registry.cell token).finalized = false)
    (unclaimed : token ∉ system.holders) :
    ((system.step action).2.registry.cell token).incompleteReason ≠ none := by
  have issued := valid.registry.tracked token tracked
  have free : (system.registry.cell token).finalizationClaimed = false :=
    Bool.eq_false_of_not_eq_true fun flag => unclaimed ((valid.claimed token issued).mp flag)
  have cancelled (reason : WindowIncompleteReason) (matchesTarget : ObservationTarget → Bool)
      (matched : matchesTarget token.target = true) :=
    @cancelConfirmedMatching_reason system.registry reason matchesTarget token tracked
      (fun target active => valid.registry.keyed target token active) matched
      (valid.registry.cells token.address) confirmed unfinalized free
  cases action with
  | cancelAllConfirmed reason => exact cancelled reason (fun _ => true) rfl
  | cancelSourceConfirmed source reason =>
      exact cancelled reason (fun target => targetSourceProgram target == source) cancels
  | _ => cases cancels

/-- A finalized token is neither a candidate nor claimable. -/
theorem finalized_excluded {system : System} {token : ObservationWindowToken}
    (finalized : (system.registry.cell token).finalized = true) :
    (∀ now, token ∉ (system.registry.finalizationCandidates now).1) ∧
      (system.step (.claimFinalization token)).1 = .claimed none := by
  constructor
  · intro now candidate
    have passed := (mem_finalizationCandidates.mp candidate).2
    simp [isCandidate, finalized] at passed
  · cases outcome : (system.registry.claimFinalization token).1 with
    | none => simp [System.step, System.claim, outcome]
    | some claim =>
        have claimable := (claimFinalization_eq_some.mp (Prod.ext outcome rfl)).2.1
        have unfinalized := (isClaimable_iff.mp claimable).2.2.2
        rw [finalized] at unfinalized
        cases unfinalized

/-- A ready token that no claim holds can be claimed exactly when it is settled and unfinalized. -/
theorem claimable_iff_settled {system : System} {token : ObservationWindowToken}
    (ready : ClaimReady system token)
    (free : (system.registry.cell token).finalizationClaimed = false) :
    (∃ claim, (system.step (.claimFinalization token)).1 = .claimed (some claim)) ↔
      (system.registry.cell token).admitted = (system.registry.cell token).settled ∧
        (system.registry.cell token).finalized = false := by
  constructor
  · rintro ⟨claim, claimed⟩
    obtain ⟨_, claimable, _⟩ := claim_checked claimed
    exact (isClaimable_iff.mp claimable).2.2
  · rintro ⟨settled, unfinalized⟩
    have claimable : system.registry.isClaimable token = true :=
      isClaimable_iff.mpr ⟨ready.confirmed, ready.durable, settled, unfinalized⟩
    have outcome := claimFinalization_eq_some.mpr
      ⟨ready.retained unfinalized, claimable, ready.ready, free, rfl, rfl⟩
    refine ⟨⟨token, (system.registry.cell token).incompleteReason⟩, ?_⟩
    simp only [System.step, System.claim, outcome]

/-- The drop of a claim frees its token and changes nothing else of it. -/
theorem dropClaim_cell {system : System} {index : Nat} {live : LiveClaim}
    (found : system.claims[index]? = some live) :
    (system.step (.dropClaim index)).2.registry.cell live.claim.token =
      (system.registry.cell live.claim.token).releaseFinalization := by
  simp [System.step, System.dropClaim, found]

/-- A retained token never returns to the map. -/
theorem retained_not_active {system : System} (valid : SystemValid system)
    {token : ObservationWindowToken} (retained : token ∈ system.registry.retained)
    (actions : List Action) (target : ObservationTarget) :
    (Transition.run System.step system actions).registry.windows.lookup target ≠ some token := by
  intro active
  rcases (run_evolution valid actions).windows target token active with earlier | fresh
  · exact valid.registry.not_retained earlier retained
  · exact fresh (valid.registry.tracked token (mem_tokens.mpr (Or.inr retained)))

/-- An admission changes no cell but that of an active token. -/
theorem admit_cell_of_not_active {system : System} (valid : SystemValid system)
    {token : ObservationWindowToken} (issued : token ∈ system.issued)
    (inactive : ∀ target, system.registry.windows.lookup target ≠ some token)
    (target : ObservationTarget) (time : Int) :
    (system.step (.admitMatchingToken target time)).2.registry.cell token =
      system.registry.cell token := by
  have other (found : ObservationWindowToken) (cell : TokenCell)
      (looked : system.registry.matchingToken target time = some found) :
      (system.registry.setCell found cell).cell token = system.registry.cell token := by
    have active := (matchingToken_eq_some.mp looked).1
    apply cells_setCell_of_ne
    intro equal
    have same := valid.registry.injective token issued found (valid.registry.active_issued active) equal
    exact inactive target (same ▸ active)
  simp only [System.step]
  rcases admitMatchingToken_cases system.registry target time with
    ⟨_, outcome⟩ | ⟨found, looked, ⟨_, outcome⟩ | ⟨_, outcome⟩⟩
  · rw [outcome]
  · rw [outcome]
    exact other found _ looked
  · rw [outcome]
    exact other found _ looked

/-- The laws of the claims after a run. A released token can be claimed again exactly when it is
settled and unfinalized. -/
structure ClaimLaws (maximumActive : Nat) (capacityPositive : 0 < maximumActive)
    (actions : List Action) : Prop where
  exclusive : (System.execute maximumActive capacityPositive actions).holders.Nodup
  sound : ∀ token claim, claim.incompleteReason = none →
    ((System.execute maximumActive capacityPositive actions).step (.claimFinalization token)).1 =
      .claimed (some claim) →
    let system := System.execute maximumActive capacityPositive actions
    claim.token = token ∧ (system.registry.cell token).wasConfirmed = true ∧
      (system.registry.cell token).durableWindowId ≠ none ∧
      (system.registry.cell token).admitted = (system.registry.cell token).settled ∧
      (∀ first last, actions = first ++ last →
        token ∈ (System.execute maximumActive capacityPositive first).issued →
        ((System.execute maximumActive capacityPositive first).registry.cell
          token).incompleteReason = none) ∧
      ∃ watermark, system.registry.latestSourceProgress (targetSourceProgram token.target) =
        some watermark ∧ token.window.closesAtUnixMs ≤ watermark
  cancelled : ∀ first action last token claim, actions = first ++ action :: last →
    action.cancels token = true →
    let earlier := System.execute maximumActive capacityPositive first
    token ∈ earlier.registry.tokens → (earlier.registry.cell token).wasConfirmed = true →
    (earlier.registry.cell token).finalized = false → token ∉ earlier.holders →
    ((System.execute maximumActive capacityPositive actions).step (.claimFinalization token)).1 =
      .claimed (some claim) → claim.incompleteReason ≠ none
  committed : ∀ first index last claim, actions = first ++ .commitClaim index :: last →
    (System.execute maximumActive capacityPositive first).claims[index]? = some ⟨claim, false⟩ →
    let system := System.execute maximumActive capacityPositive actions
    (∀ now, claim.token ∉ (system.registry.finalizationCandidates now).1) ∧
      (system.step (.claimFinalization claim.token)).1 = .claimed none
  released : ∀ index claim,
    (System.execute maximumActive capacityPositive actions).claims[index]? = some ⟨claim, false⟩ →
    let dropped := ((System.execute maximumActive capacityPositive actions).step (.dropClaim index)).2
    (∃ again, (dropped.step (.claimFinalization claim.token)).1 = .claimed (some again)) ↔
      (dropped.registry.cell claim.token).admitted = (dropped.registry.cell claim.token).settled ∧
        (dropped.registry.cell claim.token).finalized = false
  closed : ∀ first last token, actions = first ++ last →
    token ∈ (System.execute maximumActive capacityPositive first).registry.retained →
    let system := System.execute maximumActive capacityPositive actions
    ∀ target time, (system.step (.admitMatchingToken target time)).1 ≠ .admitted (some token) ∧
      (system.step (.admitMatchingToken target time)).2.registry.cell token =
        system.registry.cell token

/-- The claims of every interleaving keep the laws. -/
theorem finalization_claim_laws (maximumActive : Nat) (capacityPositive : 0 < maximumActive)
    (actions : List Action) : ClaimLaws maximumActive capacityPositive actions := by
  have valid (actions : List Action) := execute_valid maximumActive capacityPositive actions
  have split (first last : List Action) :
      System.execute maximumActive capacityPositive (first ++ last) =
        Transition.run System.step (System.execute maximumActive capacityPositive first) last :=
    Transition.run_append System.step _ first last
  constructor
  case exclusive => exact (valid actions).exclusive
  case sound =>
      intro token claim complete claimed system
      obtain ⟨retained, claimable, ready, _, rfl⟩ := claim_checked claimed
      obtain ⟨confirmed, durable, settled, _⟩ := isClaimable_iff.mp claimable
      refine ⟨rfl, confirmed, durable, settled, ?_, ?_⟩
      · rintro first last rfl issued
        have evolution := run_evolution (valid first) last
        rw [← split] at evolution
        exact (evolution.cells token issued).reason_none complete
      · exact awaitsProgress_eq_false.mp (ready.resolve_left fun recorded => recorded complete)
  case cancelled =>
      rintro first action last token claim rfl cancels earlier tracked confirmed unfinalized unclaimed
        claimed
      obtain ⟨_, _, _, _, rfl⟩ := claim_checked claimed
      have recorded := cancel_reason (valid first) cancels tracked confirmed unfinalized unclaimed
      have issued := ((step_change (valid first) action).evolution
        (valid first).registry).issued.subset ((valid first).registry.tracked token tracked)
      have evolution := run_evolution (step_valid (valid first) action) last
      rw [split]
      exact (evolution.cells token issued).reason_ne_none recorded
  case committed =>
      rintro first index last claim rfl found system
      have holder : claim.token ∈ (System.execute maximumActive capacityPositive first).holders :=
        List.mem_map.mpr ⟨_, List.mem_of_getElem? found, rfl⟩
      have issued := ((step_change (valid first) (.commitClaim index)).evolution
        (valid first).registry).issued.subset ((valid first).holders _ holder)
      have evolution := run_evolution (step_valid (valid first) (.commitClaim index)) last
      have finalized : (((System.execute maximumActive capacityPositive first).step
          (.commitClaim index)).2.registry.cell claim.token).finalized = true := by
        simp only [System.step, System.commitClaim, found, cell_setCell]
        exact TokenCell.markFinalized_finalized _
      apply finalized_excluded
      dsimp only [system]
      rw [split]
      exact (evolution.cells claim.token issued).finalized finalized
  case released =>
      intro index claim found dropped
      have holder : claim.token ∈ (System.execute maximumActive capacityPositive actions).holders :=
        List.mem_map.mpr ⟨_, List.mem_of_getElem? found, rfl⟩
      have evolution := (step_change (valid actions) (.dropClaim index)).evolution
        (valid actions).registry
      have ready := (execute_claimsReady maximumActive capacityPositive actions claim.token
        holder).evolve ((valid actions).holders _ holder) evolution
      apply claimable_iff_settled ready
      rw [dropClaim_cell found]
      rfl
  case closed =>
      rintro first last token rfl retained system target time
      have inactive : ∀ target, system.registry.windows.lookup target ≠ some token := by
        dsimp only [system]
        rw [split]
        exact retained_not_active (valid first) retained last
      have issued : token ∈ system.issued := by
        have evolution := run_evolution (valid first) last
        rw [← split] at evolution
        exact evolution.issued.subset
          ((valid first).registry.tracked token (mem_tokens.mpr (Or.inr retained)))
      exact ⟨fun admitted => inactive target (active_of_admitted admitted),
        admit_cell_of_not_active (valid _) issued inactive target time⟩

/-- A first claim on a closed window is live. -/
theorem finalization_claim_laws_after_claim :
    ClaimLaws 4 (by decide) (.provisionTarget (.pumpMint "mint") "mint" 1000 500 ::
      durableActions (firstToken (.pumpMint "mint") "mint" 1000 1500) 42 ++
      [.activeCount 1500, .recordSourceProgress .pump 1500,
        .claimFinalization (firstToken (.pumpMint "mint") "mint" 1000 1500)]) :=
  finalization_claim_laws 4 (by decide) _

/-- A holder counts an admission while the claim of its token is live. -/
def admittedWhileClaimed (token : ObservationWindowToken) : List Action :=
  .provisionTarget token.target token.window.mint 1000 500 :: durableActions token 42 ++
    [.activeCount 1500, .recordSourceProgress .pump 1500, .claimFinalization token,
      .invoke token .markAdmitted, .advance 0 false, .advance 0 false]

/-- An admission that a holder counts while a claim is live blocks the next claim. -/
theorem dropped_claim_not_claimable :
    ¬ ∀ (maximumActive : Nat) (capacityPositive : 0 < maximumActive) (actions : List Action)
      (index : Nat) (claim : ObservationWindowFinalizationClaim),
      (System.execute maximumActive capacityPositive actions).claims[index]? = some ⟨claim, false⟩ →
      ∃ again, (((System.execute maximumActive capacityPositive actions).step
        (.dropClaim index)).2.step (.claimFinalization claim.token)).1 = .claimed (some again) := by
  intro claimable
  obtain ⟨again, claimed⟩ := claimable 4 (by decide)
    (admittedWhileClaimed (firstToken (.pumpMint "mint") "mint" 1000 1500)) 0
    ⟨firstToken (.pumpMint "mint") "mint" 1000 1500, none⟩ (by decide)
  have refused : (((System.execute 4 (by decide)
      (admittedWhileClaimed (firstToken (.pumpMint "mint") "mint" 1000 1500))).step
        (.dropClaim 0)).2.step
        (.claimFinalization (firstToken (.pumpMint "mint") "mint" 1000 1500))).1 = .claimed none := by
    decide
  cases refused.symm.trans claimed

end Soldisco.Window

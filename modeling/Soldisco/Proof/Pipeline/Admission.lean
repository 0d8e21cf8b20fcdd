import Soldisco.Construction.Pipeline.Ownership
import Soldisco.Proof.Window.Counters
import Soldisco.Proof.Window.Retention

/-
This file proves what the intake of one notification does to the windows: it opens new tokens and
counts one admission for each token that it hands to its collection.
-/

namespace Soldisco.Pipeline
open Domain MachineInteger Window Intake ObservationWindowRegistry

/-- The cell moves forward, counts the given admissions and is neither settled nor confirmed. -/
structure Counted (admissions : Nat) (before after : TokenCell) : Prop where
  progress : CellProgress before after
  admitted : after.admitted = before.admitted + admissions
  settled : after.settled = before.settled
  wasConfirmed : after.wasConfirmed = before.wasConfirmed

theorem Counted.refl (cell : TokenCell) : Counted 0 cell cell := ⟨.refl cell, rfl, rfl, rfl⟩

theorem Counted.trans {earlier later : Nat} {first second third : TokenCell}
    (left : Counted earlier first second) (right : Counted later second third) :
    Counted (earlier + later) first third where
  progress := left.progress.trans right.progress
  admitted := by rw [right.admitted, left.admitted, Nat.add_assoc]
  settled := right.settled.trans left.settled
  wasConfirmed := right.wasConfirmed.trans left.wasConfirmed

/-- The opened tokens are new and start from a fresh cell. Each admission counts once and
nothing is settled, confirmed or finalized. -/
structure Admission (opened admitted : List ObservationWindowToken) (before after : System) :
    Prop where
  valid : SystemValid after
  issued : after.issued = before.issued ++ opened
  new : ∀ token ∈ opened, token ∉ before.issued
  distinct : opened.Nodup
  members : ∀ token ∈ admitted, token ∈ after.issued
  counted : ∀ token ∈ before.issued, Counted (admitted.count token)
    (before.registry.cell token) (after.registry.cell token)
  started : ∀ token ∈ opened, Counted (admitted.count token) .fresh (after.registry.cell token)
  finalized : ∀ token ∈ before.issued,
    (after.registry.cell token).finalized = (before.registry.cell token).finalized
  unfinalized : ∀ token ∈ opened, (after.registry.cell token).finalized = false

theorem Admission.refl {system : System} (valid : SystemValid system) :
    Admission [] [] system system where
  valid := valid
  issued := by simp
  new := by simp
  distinct := .nil
  members := by simp
  counted := fun _ _ => .refl _
  started := by simp
  finalized := fun _ _ => rfl
  unfinalized := by simp

theorem Admission.trans {first second third : System}
    {opened openedLater admitted admittedLater : List ObservationWindowToken}
    (left : Admission opened admitted first second)
    (right : Admission openedLater admittedLater second third) :
    Admission (opened ++ openedLater) (admitted ++ admittedLater) first third := by
  have between {token : ObservationWindowToken} (member : token ∈ first.issued ∨ token ∈ opened) :
      token ∈ second.issued := by
    rw [left.issued]
    exact List.mem_append.mpr member
  have after {token : ObservationWindowToken} (member : token ∈ second.issued) :
      token ∈ third.issued := by
    rw [right.issued]
    exact List.mem_append_left _ member
  refine { valid := right.valid, issued := ?_, new := ?_, distinct := ?_, members := ?_,
           counted := ?_, started := ?_, finalized := ?_, unfinalized := ?_ }
  · rw [right.issued, left.issued, List.append_assoc]
  · intro token member
    rcases List.mem_append.mp member with early | late
    · exact left.new token early
    · exact fun issued => right.new token late (between (Or.inl issued))
  · apply List.nodup_append.mpr ⟨left.distinct, right.distinct, ?_⟩
    intro token early other late same
    exact right.new other late (between (Or.inr (same ▸ early)))
  · intro token member
    rcases List.mem_append.mp member with early | late
    · exact after (left.members token early)
    · exact right.members token late
  · intro token issued
    rw [List.count_append]
    exact (left.counted token issued).trans (right.counted token (between (Or.inl issued)))
  · intro token member
    rw [List.count_append]
    rcases List.mem_append.mp member with early | late
    · exact (left.started token early).trans (right.counted token (between (Or.inr early)))
    · -- the earlier part cannot have admitted a token that is opened later
      have absent : token ∉ admitted := fun counted =>
        right.new token late (left.members token counted)
      rw [List.count_eq_zero_of_not_mem absent, Nat.zero_add]
      exact right.started token late
  · intro token issued
    exact (right.finalized token (between (Or.inl issued))).trans (left.finalized token issued)
  · intro token member
    rcases List.mem_append.mp member with early | late
    · exact (right.finalized token (between (Or.inr early))).trans (left.unfinalized token early)
    · exact right.unfinalized token late

/-- An effect without admissions opens and counts nothing. -/
theorem Admission.ofEffect {system : System} (valid : SystemValid system)
    {closing : ObservationWindowToken → Prop} {after : ObservationWindowRegistry}
    {gaps : SourceProgram → Option SourceCoverageGap} {watermarks : SourceProgram → Option Int}
    (effect : Effect closing { system.registry with
      latestSourceCoverageGap := gaps, latestSourceProgress := watermarks } after)
    (counters : SameCounters system.registry after) :
    Admission [] [] system { system with registry := after } where
  valid := valid.ofEffect effect
  issued := by simp
  new := by simp
  distinct := .nil
  members := by simp
  counted := fun token _ => ⟨effect.cells token.address, (counters token.address).1,
    (counters token.address).2, effect.wasConfirmed token.address⟩
  started := by simp
  finalized := fun token _ => effect.finalized token.address
  unfinalized := by simp

/-- The admission of one token that can be counted. -/
theorem Admission.single {system : System} (valid : SystemValid system)
    {token : ObservationWindowToken} (issued : token ∈ system.issued)
    (counts : (system.registry.cell token).markAdmitted.1 = true) :
    Admission [] [token] system { system with
      registry := system.registry.setCell token (system.registry.cell token).markAdmitted.2 } := by
  obtain ⟨state, finalized, claimed⟩ := markAdmitted_frame (system.registry.cell token)
  obtain ⟨admitted, settled⟩ := TokenCell.markAdmitted_counters (system.registry.cell token)
  rw [if_pos counts] at admitted
  have effect : Effect (fun _ => False) system.registry
      (system.registry.setCell token (system.registry.cell token).markAdmitted.2) :=
    .setCell _ _ _ _ (TokenCell.markAdmitted_progress _) TokenCell.markAdmitted_valid
      (by simp [TokenCell.wasConfirmed, state]) finalized claimed
  refine { valid := valid.ofEffect effect, issued := by simp, new := by simp, distinct := .nil,
           members := ?_, counted := ?_, started := by simp,
           finalized := fun other _ => effect.finalized other.address, unfinalized := by simp }
  · intro other member
    exact List.mem_singleton.mp member ▸ issued
  · intro other member
    by_cases same : other = token
    · subst same
      refine ⟨effect.cells other.address, ?_, ?_, effect.wasConfirmed other.address⟩
      · rw [cell_setCell, admitted, List.count_singleton_self]
      · rw [cell_setCell, settled]
    · have different : other.address ≠ token.address := fun equal =>
        same (valid.registry.injective other member token issued equal)
      have unchanged : (system.registry.setCell token
          (system.registry.cell token).markAdmitted.2).cell other = system.registry.cell other :=
        cells_setCell_of_ne _ different
      rw [unchanged, List.count_singleton, if_neg (by simpa using Ne.symm same)]
      exact .refl _

theorem recordSourceProgress_admission {system : System} (valid : SystemValid system)
    (source : SourceProgram) (time : Int) :
    Admission [] [] system
      { system with registry := system.registry.recordSourceProgress source time } := by
  have effect : Effect (fun _ => False) { system.registry with
      latestSourceCoverageGap := system.registry.latestSourceCoverageGap
      latestSourceProgress :=
        (system.registry.recordSourceProgress source time).latestSourceProgress }
      (system.registry.recordSourceProgress source time) := .refl _ _
  exact .ofEffect valid effect (.ofCells rfl)

theorem recordSourceCoverageGap_admission {system : System} (valid : SystemValid system)
    (source : SourceProgram) (time : Int) (reason : WindowIncompleteReason) :
    Admission [] [] system { system with
      registry := (system.registry.recordSourceCoverageGap source time reason).2 } := by
  have effect := recordSourceCoverageGap_effect (fun _ => False) system.registry source time reason
  exact .ofEffect valid effect (recordSourceCoverageGap_counters system.registry source time reason)

/-- The token that is returned is counted once; an overflow counts nothing. -/
theorem admitMatchingToken_admission {system : System} (valid : SystemValid system)
    (target : ObservationTarget) (time : Int) :
    Admission [] (system.registry.admitMatchingToken target time).1.toList system
      { system with registry := (system.registry.admitMatchingToken target time).2 } := by
  rcases admitMatchingToken_cases system.registry target time with
    ⟨_, same⟩ | ⟨token, matched, ⟨counts, same⟩ | ⟨refused, same⟩⟩
  · rw [same]
    exact .refl valid
  · rw [same]
    exact .single valid (valid.registry.active_issued (matchingToken_eq_some.mp matched).1) counts
  · have effect := admitMatchingToken_effect (fun _ => False) system.registry target time
    rw [same] at effect ⊢
    refine .ofEffect valid effect (.setCell ?_)
    obtain ⟨admitted, settled⟩ := TokenCell.markAdmitted_counters (system.registry.cell token)
    rw [refused] at admitted
    obtain ⟨admittedMarked, settledMarked⟩ := TokenCell.markIncomplete_counters
      (system.registry.cell token).markAdmitted.2 .queueOverflow
    exact ⟨admittedMarked.trans admitted, settledMarked.trans settled⟩

/-- The window of a returned token contains the receipt. -/
theorem admitMatchingToken_contains {registry : ObservationWindowRegistry}
    {target : ObservationTarget} {time : Int} {token : ObservationWindowToken}
    (admitted : (registry.admitMatchingToken target time).1 = some token) :
    token.window.contains time = true := by
  rcases admitMatchingToken_cases registry target time with
    ⟨_, same⟩ | ⟨matching, matched, ⟨_, same⟩ | ⟨_, same⟩⟩ <;> rw [same] at admitted
  · cases admitted
  · cases admitted
    exact (TokenCell.isOpenAt_iff.mp (matchingToken_eq_some.mp matched).2).2
  · cases admitted

/-- The cell of a new window differs from a fresh cell by an inherited reason at most. -/
theorem newCell_counted (registry : ObservationWindowRegistry) (window : ObservationWindow) :
    Counted 0 .fresh (registry.newCell window) ∧ (registry.newCell window).finalized = false := by
  unfold newCell
  split
  · refine ⟨⟨TokenCell.markIncomplete_progress _ _, ?_, ?_, ?_⟩, ?_⟩ <;>
      simp [TokenCell.markIncomplete_snd, TokenCell.wasConfirmed, TokenCell.fresh]
  · exact ⟨.refl _, rfl⟩

/-- The tokens of the provisions that opened a window. -/
def newTokens (provisions : List ObservationWindowProvision) : List ObservationWindowToken :=
  (provisions.filter ObservationWindowProvision.newlyOpened).map ObservationWindowProvision.token

/-- A provision opens its token when it is new and counts nothing. -/
theorem provision_admission {system : System} (valid : SystemValid system)
    (target : ObservationTarget) (mint : String) (openedAt : Int) (durationMillis : Nat) :
    Admission
      (newTokens [(system.registry.provisionTarget target mint openedAt durationMillis).1]) [] system
      (system.provision target mint openedAt durationMillis).2 := by
  have validAfter := provision_valid valid target mint openedAt durationMillis
  unfold System.provision at validAfter ⊢
  rcases provisionTarget_cases system.registry target mint openedAt durationMillis with
    ⟨token, _, outcome⟩ | ⟨unmatched, outcome⟩
  · rw [outcome]
    exact .ofEffect valid (rotateClosedWindows_effect system.registry openedAt)
      (rotateClosedWindows_counters system.registry openedAt)
  · rw [outcome] at validAfter ⊢
    have effect := provisionTarget_effect system.registry openedAt
    have cleared := valid.registry.effect effect
    have counters := (rotateClosedWindows_counters system.registry openedAt).trans
      (evictAtCapacity_counters _)
    have kept (token : ObservationWindowToken) (issued : token ∈ system.issued) :=
      openWindow_cells_of_ne target mint openedAt (closeTime openedAt durationMillis)
        (Nat.ne_of_lt (cleared.addresses token issued).1)
    refine { valid := validAfter, issued := rfl, new := ?_, distinct := List.nodup_singleton _,
             members := by simp, counted := ?_, started := ?_, finalized := ?_, unfinalized := ?_ }
    · intro token member
      rw [List.mem_singleton.mp member]
      exact cleared.newToken_not_issued target mint openedAt _
    · intro token issued
      dsimp only [ObservationWindowRegistry.cell]
      rw [kept token issued]
      exact ⟨effect.cells token.address, (counters token.address).1, (counters token.address).2,
        effect.wasConfirmed token.address⟩
    · intro token member
      rw [List.mem_singleton.mp member]
      dsimp only
      rw [openWindow_cell]
      exact (newCell_counted _ _).1
    · intro token issued
      dsimp only [ObservationWindowRegistry.cell]
      rw [kept token issued]
      exact effect.finalized token.address
    · intro token member
      rw [List.mem_singleton.mp member]
      dsimp only
      rw [openWindow_cell]
      exact (newCell_counted _ _).2

/-- The loop over the seeds opens the new tokens of its provisions. -/
theorem provisionSeeds_admission (config : CollectorRuntimeConfig) (receivedTime : Int)
    (seeds : List DiscoverySeed) {before : System} (valid : SystemValid before) :
    let provisioned := seeds.foldl (provisionSeeds config receivedTime) ([], before)
    Admission (newTokens provisioned.1) [] before provisioned.2 := by
  suffices general : ∀ state : List ObservationWindowProvision × System,
      Admission (newTokens state.1) [] before state.2 →
      Admission (newTokens (seeds.foldl (provisionSeeds config receivedTime) state).1) [] before
        (seeds.foldl (provisionSeeds config receivedTime) state).2 from
    general ([], before) (.refl valid)
  induction seeds with
  | nil => exact fun state admission => admission
  | cons seed rest ih =>
      intro state admission
      apply ih
      have step := admission.trans (provision_admission admission.valid seed.target seed.mint
        receivedTime config.observationWindowDurationMillis)
      have tokens : newTokens (provisionSeeds config receivedTime state seed).1 =
          newTokens state.1 ++ newTokens [(state.2.registry.provisionTarget seed.target seed.mint
            receivedTime config.observationWindowDurationMillis).1] := by
        simp [newTokens, provisionSeeds]
      rw [tokens]
      exact step

/-- A token that has counted nothing and is not finalized can be counted. -/
theorem markAdmitted_of_unused {cell : TokenCell} (unused : cell.admitted = 0)
    (unfinalized : cell.finalized = false) : cell.markAdmitted.1 = true := by
  simp [TokenCell.markAdmitted, unfinalized, unused, checkedAdd, u64Size]

theorem admitProvision_of_counts {registry : ObservationWindowRegistry}
    {provision : ObservationWindowProvision} (newly : provision.newlyOpened = true)
    (counts : (registry.cell provision.token).markAdmitted.1 = true) :
    ProvisionalWindowGuard.admitProvision registry provision =
      registry.setCell provision.token (registry.cell provision.token).markAdmitted.2 := by
  unfold ProvisionalWindowGuard.admitProvision
  rw [if_pos newly]
  rcases outcome : (registry.cell provision.token).markAdmitted with ⟨_ | _, cell⟩
  · rw [outcome] at counts
    cases counts
  · rfl

/-- The guard counts each of its new tokens once. -/
theorem admitProvision_admission (provisions : List ObservationWindowProvision) {system : System}
    (valid : SystemValid system) (distinct : (newTokens provisions).Nodup)
    (unused : ∀ token ∈ newTokens provisions, token ∈ system.issued ∧
      (system.registry.cell token).admitted = 0 ∧ (system.registry.cell token).finalized = false) :
    Admission [] (newTokens provisions) system { system with
      registry := provisions.foldl ProvisionalWindowGuard.admitProvision system.registry } := by
  induction provisions generalizing system with
  | nil => exact .refl valid
  | cons provision rest ih =>
      rcases newly : provision.newlyOpened with _ | _
      · have tokens : newTokens (provision :: rest) = newTokens rest := by
          simp [newTokens, newly]
        rw [tokens] at distinct unused ⊢
        rw [List.foldl_cons, ProvisionalWindowGuard.admitProvision, if_neg (by simp [newly])]
        exact ih valid distinct unused
      · have tokens : newTokens (provision :: rest) = [provision.token] ++ newTokens rest := by
          simp [newTokens, newly]
        rw [tokens] at distinct unused ⊢
        obtain ⟨issued, zero, unfinalized⟩ := unused provision.token (by simp)
        have counts := markAdmitted_of_unused zero unfinalized
        have first := Admission.single valid issued counts
        obtain ⟨fresh, restDistinct⟩ := List.nodup_cons.mp distinct
        have remaining := ih first.valid restDistinct ?_
        · rw [List.foldl_cons, admitProvision_of_counts newly counts]
          exact first.trans remaining
        · intro token member
          obtain ⟨tokenIssued, tokenZero, tokenUnfinalized⟩ :=
            unused token (List.mem_append_right _ member)
          have different : token ≠ provision.token := fun same => fresh (same ▸ member)
          have counted := (first.counted token tokenIssued).admitted
          rw [List.count_singleton, if_neg (by simpa using different.symm), tokenZero] at counted
          exact ⟨tokenIssued, counted, (first.finalized token tokenIssued).trans tokenUnfinalized⟩

end Soldisco.Pipeline

import Soldisco.Proof.Window.Step

/-
This file proves what a provision does to the windows of other targets, to its own target
and to a full map.
-/

namespace Soldisco.Window
open Domain MachineInteger ObservationWindowRegistry

section Frame

variable {registry : ObservationWindowRegistry}
  (room : registry.windows.entries.length < registry.maximumActive)
include room

/-- A map with room is not evicted from. -/
theorem cleared_of_room (openedAt : Int) :
    (registry.rotateClosedWindows openedAt).evictAtCapacity =
      registry.rotateClosedWindows openedAt := by
  have effect := rotateClosedWindows_effect registry openedAt
  rcases evictAtCapacity_cases (registry.rotateClosedWindows openedAt) with ⟨_, same⟩ | ⟨full, _⟩
  · exact same
  · have shorter := effect.length_le
    rw [effect.maximumActive] at full
    omega

/-- Another target keeps the window that contains the time of the provision. -/
theorem provisionTarget_lookup_of_ne {target other : ObservationTarget} (different : other ≠ target)
    (mint : String) (openedAt : Int) (durationMillis : Nat) :
    (registry.provisionTarget target mint openedAt durationMillis).2.windows.lookup other =
      registry.matchingToken other openedAt := by
  rw [← rotateClosedWindows_lookup]
  rcases provisionTarget_cases registry target mint openedAt durationMillis with
    ⟨token, _, outcome⟩ | ⟨_, outcome⟩
  · rw [outcome]
  · rw [outcome, cleared_of_room room]
    exact AList.lookup_insert_ne different

/-- The cells of the issued tokens stay unchanged. -/
theorem provisionTarget_cell {issued : List ObservationWindowToken}
    (valid : RegistryValid registry issued) {token : ObservationWindowToken}
    (member : token ∈ issued) (target : ObservationTarget) (mint : String) (openedAt : Int)
    (durationMillis : Nat) :
    (registry.provisionTarget target mint openedAt durationMillis).2.cell token =
      registry.cell token := by
  have rotated : (registry.rotateClosedWindows openedAt).cell token = registry.cell token :=
    congrFun (rotateClosedWindows_cells registry openedAt) token.address
  rcases provisionTarget_cases registry target mint openedAt durationMillis with
    ⟨_, _, outcome⟩ | ⟨_, outcome⟩
  · rw [outcome]
    exact rotated
  · rw [outcome, cleared_of_room room]
    have below := (valid.addresses token member).1
    rw [← (rotateClosedWindows_effect registry openedAt).allocated] at below
    exact (openWindow_cells_of_ne _ _ _ _ (Nat.ne_of_lt below)).trans rotated

end Frame

/-- Below capacity, a provision leaves the live window of another target that closes later
exactly when that window opened at or before the time of the provision. -/
theorem provision_frames_other_window_iff (maximumActive : Nat)
    (capacityPositive : 0 < maximumActive) (actions : List Action)
    (target other : ObservationTarget) (mint : String) (openedAt : Int) (durationMillis : Nat)
    (token : ObservationWindowToken) (different : other ≠ target)
    (room : (System.execute maximumActive capacityPositive actions).registry.windows.entries.length <
      maximumActive)
    (active : (System.execute maximumActive capacityPositive actions).registry.windows.lookup other =
      some token)
    (live : ((System.execute maximumActive capacityPositive actions).registry.cell token).isLive =
      true)
    (closesLater : openedAt < token.window.closesAtUnixMs) :
    let before := (System.execute maximumActive capacityPositive actions).registry
    let after := (before.provisionTarget target mint openedAt durationMillis).2
    (after.windows.lookup other = some token ∧
      ∀ time, after.matchingToken other time = before.matchingToken other time) ↔
    token.window.openedAtUnixMs ≤ openedAt := by
  intro before after
  have valid := (execute_valid maximumActive capacityPositive actions).registry
  change before.windows.lookup other = some token at active
  have room : before.windows.entries.length < before.maximumActive :=
    room.trans_eq (execute_maximumActive maximumActive capacityPositive actions).symm
  have lookup : after.windows.lookup other = before.matchingToken other openedAt :=
    provisionTarget_lookup_of_ne room different mint openedAt durationMillis
  have cell : after.cell token = before.cell token :=
    provisionTarget_cell room valid (valid.active_issued active) target mint openedAt durationMillis
  constructor
  · rintro ⟨stays, _⟩
    have opened := (matchingToken_eq_some.mp (lookup.symm.trans stays)).2
    exact (ObservationWindow.contains_iff.mp (TokenCell.isOpenAt_iff.mp opened).2).1
  · intro openedBefore
    have inside := ObservationWindow.contains_iff.mpr ⟨openedBefore, closesLater⟩
    have matched : before.matchingToken other openedAt = some token :=
      matchingToken_eq_some.mpr ⟨active, TokenCell.isOpenAt_iff.mpr ⟨live, inside⟩⟩
    have stays := lookup.trans matched
    refine ⟨stays, fun time => ?_⟩
    simp only [matchingToken, stays, active, isOpenAt, Option.filter_some, cell]

/-- A later provision keeps an earlier window of another target. -/
theorem provision_frames_earlier_window :
    let before := (System.execute 4 (by decide)
      [.provisionTarget (.pumpMint "first") "first" 1000 500]).registry
    let after := (before.provisionTarget (.pumpSwapPool "pool") "second" 1200 500).2
    after.windows.lookup (.pumpMint "first") =
        some (firstToken (.pumpMint "first") "first" 1000 1500) ∧
      ∀ time, after.matchingToken (.pumpMint "first") time =
        before.matchingToken (.pumpMint "first") time :=
  (provision_frames_other_window_iff 4 (by decide)
    [.provisionTarget (.pumpMint "first") "first" 1000 500] (.pumpSwapPool "pool")
    (.pumpMint "first") "second" 1200 500 (firstToken (.pumpMint "first") "first" 1000 1500)
    (by decide) (by decide) (by decide) (by decide) (by decide)).mpr (by decide)

/-- A provision with an earlier receipt time drops the open window of another target. -/
theorem provision_drops_later_window :
    ¬ ∀ (maximumActive : Nat) (capacityPositive : 0 < maximumActive) (actions : List Action)
      (target other : ObservationTarget) (mint : String) (openedAt : Int) (durationMillis : Nat)
      (token : ObservationWindowToken), other ≠ target →
      (System.execute maximumActive capacityPositive actions).registry.windows.entries.length <
        maximumActive →
      (System.execute maximumActive capacityPositive actions).registry.windows.lookup other =
        some token →
      ((System.execute maximumActive capacityPositive actions).registry.cell token).isLive = true →
      openedAt < token.window.closesAtUnixMs →
      let before := (System.execute maximumActive capacityPositive actions).registry
      let after := (before.provisionTarget target mint openedAt durationMillis).2
      after.windows.lookup other = some token ∧
        ∀ time, after.matchingToken other time = before.matchingToken other time := by
  intro frames
  have framed := (frames 4 (by decide) [.provisionTarget (.pumpMint "first") "first" 1200 500]
    (.pumpSwapPool "pool") (.pumpMint "first") "second" 1100 500
    (firstToken (.pumpMint "first") "first" 1200 1700)
    (by decide) (by decide) (by decide) (by decide) (by decide)).1
  exact absurd framed (by decide)

/-- The open windows of a map are those that a rotation leaves. -/
theorem rotateClosedWindows_length (registry : ObservationWindowRegistry) (now : Int) :
    (registry.rotateClosedWindows now).windows.entries.length =
      (registry.windows.entries.filter fun entry => registry.isOpenAt entry.2 now).length := by
  have distinct : ((registry.windows.entries.filter fun entry =>
      registry.isOpenAt entry.2 now).map Sigma.fst).Nodup :=
    registry.windows.keys_nodup.sublist (List.filter_sublist.map Sigma.fst)
  have same : (registry.rotateClosedWindows now).windows.keys.Perm
      ((registry.windows.entries.filter fun entry => registry.isOpenAt entry.2 now).map Sigma.fst) := by
    apply (List.perm_ext_iff_of_nodup (registry.rotateClosedWindows now).windows.keys_nodup
      distinct).mpr
    intro target
    rw [← AList.mem_keys, ← AList.lookup_isSome, rotateClosedWindows_lookup,
      Option.isSome_iff_exists]
    simp only [matchingToken_eq_some, List.mem_map, List.mem_filter, Sigma.exists, exists_and_right,
      exists_eq_right]
    constructor
    · rintro ⟨token, looked, opened⟩
      exact ⟨token, AList.mem_lookup_iff.mp looked, opened⟩
    · rintro ⟨token, stored, opened⟩
      exact ⟨token, AList.mem_lookup_iff.mpr stored, opened⟩
  simpa [AList.keys, List.keys] using same.length_eq

/-- A replayed provision returns the open window of its target with unchanged bounds. -/
theorem provision_replayed {system : System} {target : ObservationTarget}
    {token : ObservationWindowToken} {openedAt : Int}
    (active : system.registry.windows.lookup target = some token)
    (opened : system.registry.isOpenAt token openedAt = true) (mint : String)
    (durationMillis : Nat) :
    (system.step (.provisionTarget target mint openedAt durationMillis)).1 =
        .provisioned ⟨token, false⟩ ∧
      (system.step (.provisionTarget target mint openedAt durationMillis)).2.registry.windows.lookup
        target = some token := by
  have matched := matchingToken_eq_some.mpr ⟨active, opened⟩
  simp only [System.step, System.provision]
  rcases provisionTarget_cases system.registry target mint openedAt durationMillis with
    ⟨found, looked, outcome⟩ | ⟨unmatched, _⟩
  · obtain rfl : token = found := Option.some.inj (matched.symm.trans looked)
    rw [outcome, rotateClosedWindows_lookup]
    exact ⟨rfl, matched⟩
  · simp [matched] at unmatched

/-- Exactly one open window leaves the map: the one with the least close time and target.
It ends cancelled, and a confirmed one is retained with the eviction as its first reason. -/
structure EvictsLeast (before after : ObservationWindowRegistry) (now : Int)
    (target : ObservationTarget) (token : ObservationWindowToken) : Prop where
  opened : before.matchingToken target now = some token
  least : ∀ other found, before.matchingToken other now = some found →
    closeKey token.window.closesAtUnixMs target ≤ closeKey found.window.closesAtUnixMs other
  only : ∀ other found, before.matchingToken other now = some found →
    (after.windows.lookup other = some found ↔ other ≠ target)
  cancelled : (after.cell token).status = .cancelled
  reason : (before.cell token).wasConfirmed = true →
    (after.cell token).incompleteReason =
      (before.cell token).incompleteReason.or (some .capacityEvicted)
  retained : (before.cell token).wasConfirmed = true → (before.cell token).finalized = false →
    token ∈ after.retained

/-- A provision that opens a window at full capacity evicts the least open window. -/
theorem provision_evicts_least {registry : ObservationWindowRegistry}
    {issued : List ObservationWindowToken} (valid : RegistryValid registry issued)
    {target : ObservationTarget} {openedAt : Int}
    (unmatched : registry.matchingToken target openedAt = none)
    (full : registry.maximumActive ≤ (registry.windows.entries.filter fun entry =>
      registry.isOpenAt entry.2 openedAt).length) (mint : String) (durationMillis : Nat) :
    ∃ evicted token, EvictsLeast registry
      (registry.provisionTarget target mint openedAt durationMillis).2 openedAt evicted token := by
  have effect := rotateClosedWindows_effect registry openedAt
  have cell (token : ObservationWindowToken) :
      (registry.rotateClosedWindows openedAt).cell token = registry.cell token :=
    congrFun (rotateClosedWindows_cells registry openedAt) token.address
  rcases provisionTarget_cases registry target mint openedAt durationMillis with
    ⟨_, matched, _⟩ | ⟨_, outcome⟩
  · simp [unmatched] at matched
  rcases evictAtCapacity_cases (registry.rotateClosedWindows openedAt) with
    ⟨room, _⟩ | ⟨_, evicted, token, present, least, same⟩
  · rw [rotateClosedWindows_length, effect.maximumActive] at room
    omega
  rw [outcome]
  simp only [rotateClosedWindows_lookup] at present least
  have opened := (matchingToken_eq_some.mp present).2
  have live := (TokenCell.isOpenAt_iff.mp opened).1
  have issuedToken := valid.active_issued (matchingToken_eq_some.mp present).1
  have cleared := valid.effect (provisionTarget_effect registry openedAt)
  have below := Nat.ne_of_lt (cleared.addresses token issuedToken).1
  have last : ((registry.rotateClosedWindows openedAt).evictAtCapacity.openWindow target mint openedAt
      (closeTime openedAt durationMillis)).cell token =
      (registry.cell token).cancelWithReason .capacityEvicted := by
    refine (openWindow_cells_of_ne target mint openedAt _ below).trans ?_
    rw [same, retainIfDurable_cells, ← cell]
    exact cell_setCell _ token _
  refine ⟨evicted, token, ⟨present, least, ?_, ?_, ?_, ?_⟩⟩
  · intro other found looked
    have different : other ≠ target := by
      rintro rfl
      simp [unmatched] at looked
    have removed : ((registry.rotateClosedWindows openedAt).evictAtCapacity.openWindow target mint
        openedAt (closeTime openedAt durationMillis)).windows.lookup other =
        ((registry.rotateClosedWindows openedAt).windows.erase evicted).lookup other := by
      refine (AList.lookup_insert_ne different).trans ?_
      rw [same, retainIfDurable_windows]
    rw [removed, AList.lookup_erase_eq_some, rotateClosedWindows_lookup]
    exact ⟨fun both => both.1, fun keeps => ⟨keeps, looked⟩⟩
  · rw [last]
    unfold TokenCell.isLive at live
    cases state : (registry.cell token).state <;>
      simp_all [TokenCell.cancelWithReason_eq, TokenCell.status, WindowState.cancelled]
  · intro confirmed
    rw [last]
    unfold TokenCell.isLive at live
    unfold TokenCell.wasConfirmed at confirmed
    cases state : (registry.cell token).state <;>
      simp_all [TokenCell.cancelWithReason_eq]
  · intro confirmed unfinalized
    change token ∈ (registry.rotateClosedWindows openedAt).evictAtCapacity.retained
    rw [same, mem_retainIfDurable]
    refine Or.inr ⟨rfl, ?_⟩
    change (((registry.rotateClosedWindows openedAt).setCell token _).cell token).wasConfirmed = true ∧
      (((registry.rotateClosedWindows openedAt).setCell token _).cell token).finalized = false
    rw [cell_setCell, cell, TokenCell.cancelWithReason_wasConfirmed, TokenCell.cancelWithReason_eq]
    exact ⟨confirmed, unfinalized⟩

def Action.isProvision : Action → Bool
  | .provisionTarget _ _ _ _ => true
  | _ => false

/-- A step issues at most one token, and only by a provision. -/
theorem Change.issued_length {before after : System} {action : Action}
    (change : Change before action after) :
    after.issued.length ≤ before.issued.length + [action].countP Action.isProvision := by
  cases change with
  | opened _ _ _ provision =>
      rw [provision]
      simp [Action.isProvision]
  | _ => exact Nat.le_add_right _ _

/-- A run issues at most one token for each provision. -/
theorem run_issued_length {system : System} (valid : SystemValid system) (actions : List Action) :
    (Transition.run System.step system actions).issued.length ≤
      system.issued.length + actions.countP Action.isProvision := by
  induction actions generalizing system with
  | nil => exact Nat.le_refl _
  | cons action rest ih =>
      have first := (step_change valid action).issued_length
      have later := ih (step_valid valid action)
      rw [← List.singleton_append, List.countP_append]
      rw [List.singleton_append, Transition.run_cons]
      omega

/-- The generations of the issued tokens differ while fewer than 2^64 have been issued. -/
theorem RegistryValid.generation_injective {registry : ObservationWindowRegistry}
    {issued : List ObservationWindowToken} (valid : RegistryValid registry issued)
    (few : issued.length < u64Size) {first second : ObservationWindowToken}
    (firstMember : first ∈ issued) (secondMember : second ∈ issued)
    (same : first.generation = second.generation) : first = second := by
  obtain ⟨firstBelow, firstGeneration⟩ := valid.addresses first firstMember
  obtain ⟨secondBelow, secondGeneration⟩ := valid.addresses second secondMember
  rw [valid.counted] at firstBelow secondBelow
  rw [Nat.mod_eq_of_lt (firstBelow.trans few)] at firstGeneration
  rw [Nat.mod_eq_of_lt (secondBelow.trans few)] at secondGeneration
  apply valid.injective first firstMember second secondMember
  omega

/-- A step retains only tokens that were confirmed before it. -/
theorem Change.retained_confirmed {before after : System} {action : Action}
    (change : Change before action after) {token : ObservationWindowToken}
    (retained : token ∈ after.registry.retained) (new : token ∉ before.registry.retained) :
    (before.registry.cell token).wasConfirmed = true := by
  cases change with
  | registry _ _ effect _ =>
      rcases effect.retained token retained with earlier | confirmed
      · exact absurd earlier new
      · exact (effect.wasConfirmed token.address).symm.trans confirmed
  | opened _ _ _ _ _ effect _ _ _ =>
      rcases effect.retained token retained with earlier | confirmed
      · exact absurd earlier new
      · exact (effect.wasConfirmed token.address).symm.trans confirmed
  | cell => exact absurd retained new
  | invoked => exact absurd retained new

/-- The map is bounded and keyed by target, each generation is stored once, each retained token
was confirmed when it was retained, a replay returns the open window, and a new window at full
capacity evicts the least open window. -/
structure Representation (maximumActive : Nat) (system : System) : Prop where
  capacity : system.registry.windows.entries.length ≤ maximumActive
  keyed : ∀ target token, system.registry.windows.lookup target = some token → token.target = target
  unique : (system.registry.tokens.map ObservationWindowToken.generation).Nodup
  confirmed : ∀ token ∈ system.registry.retained, (system.registry.cell token).wasConfirmed = true
  retained : ∀ action, ∀ token ∈ (system.step action).2.registry.retained,
    token ∉ system.registry.retained → (system.registry.cell token).wasConfirmed = true
  replayed : ∀ target mint openedAt durationMillis token,
    system.registry.windows.lookup target = some token →
    system.registry.isOpenAt token openedAt = true →
    (system.step (.provisionTarget target mint openedAt durationMillis)).1 =
        .provisioned ⟨token, false⟩ ∧
      (system.step (.provisionTarget target mint openedAt durationMillis)).2.registry.windows.lookup
        target = some token
  evicted : ∀ target mint openedAt durationMillis token,
    (system.step (.provisionTarget target mint openedAt durationMillis)).1 =
      .provisioned ⟨token, true⟩ →
    maximumActive ≤ (system.registry.windows.entries.filter fun entry =>
      system.registry.isOpenAt entry.2 openedAt).length →
    ∃ evicted least, EvictsLeast system.registry
      (system.step (.provisionTarget target mint openedAt durationMillis)).2.registry openedAt
      evicted least

/-- Every reachable registry keeps the representation while fewer than 2^64 windows
have been provisioned. -/
theorem registry_representation (maximumActive : Nat) (capacityPositive : 0 < maximumActive)
    (actions : List Action) (few : actions.countP Action.isProvision < u64Size) :
    Representation maximumActive (System.execute maximumActive capacityPositive actions) := by
  have valid := execute_valid maximumActive capacityPositive actions
  have capacity := execute_maximumActive maximumActive capacityPositive actions
  have issued := run_issued_length (.new maximumActive capacityPositive) actions
  change (System.execute maximumActive capacityPositive actions).issued.length ≤ _ at issued
  generalize System.execute maximumActive capacityPositive actions = system at *
  constructor
  case capacity => exact capacity ▸ valid.registry.capacity
  case keyed => exact valid.registry.keyed
  case unique =>
      apply List.Nodup.map_on _ valid.registry.nodup
      intro first firstMember second secondMember same
      refine valid.registry.generation_injective ?_ (valid.registry.tracked first firstMember)
        (valid.registry.tracked second secondMember) same
      change _ ≤ 0 + _ at issued
      omega
  case confirmed => exact valid.registry.retained
  case retained =>
      intro action token member new
      exact (step_change valid action).retained_confirmed member new
  case replayed =>
      intro target mint openedAt durationMillis token active opened
      exact provision_replayed active opened mint durationMillis
  case evicted =>
      intro target mint openedAt durationMillis token opened full
      refine provision_evicts_least valid.registry ?_ (capacity ▸ full) mint durationMillis
      simp only [System.step, System.provision, Output.provisioned.injEq] at opened
      rcases provisionTarget_cases system.registry target mint openedAt durationMillis with
        ⟨_, _, outcome⟩ | ⟨unmatched, _⟩
      · simp [outcome] at opened
      · exact unmatched

/-- A provision at full capacity evicts the window that closes first. -/
theorem registry_representation_full :
    Representation 1 (System.execute 1 (by decide)
      [.provisionTarget (.pumpMint "first") "first" 1000 500,
        .provisionTarget (.pumpSwapPool "pool") "second" 1200 500]) :=
  registry_representation 1 (by decide) _ (by decide)

end Soldisco.Window

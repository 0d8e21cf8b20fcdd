import Soldisco.Library.Transition
import Soldisco.Proof.Pipeline.Invariant

/-
This file proves the conservation of admissions over every run in which no settlement reaches an
admitted count that another one has loaded, and shows the run in which one does.
-/

namespace Soldisco.Pipeline
open Domain Window Intake Holding ObservationWindowRegistry

/-- The counters of each token differ by the entries that the owners hold, and the settled count has
not reached what a settlement between its two loads has loaded. -/
structure Balanced (windows : System) (owners : Multiset Owner) : Prop where
  ledger : ∀ token ∈ windows.issued, (windows.registry.cell token).admitted =
    (windows.registry.cell token).settled + total (Owner.holds token) owners
  loads : ∀ release, Owner.release release ∈ owners → ∀ token loaded,
    (token, .settledLoad loaded) ∈ release.calls → (windows.registry.cell token).settled < loaded

section Moves

variable {config : PipelineConfig} {before : State} {action : Action} {windows : System}
variable {leaving entering owners : Multiset Owner} {settlements : List Settlement}

theorem not_settledLoad_of_dropOf {tokens : List ObservationWindowToken} {calls : TokenCalls}
    (drop : DropOf tokens calls) {token : ObservationWindowToken} {loaded : Nat} :
    (token, .settledLoad loaded) ∉ calls := by
  intro member
  cases (drop _ member).2.1

/-- A drop that enters has not loaded anything. -/
theorem OwnerMove.releases (move : OwnerMove config before action windows leaving entering)
    (sound : Sound windows leaving) {release : Release} (member : Owner.release release ∈ entering)
    {token : ObservationWindowToken} {loaded : Nat}
    (loading : (token, .settledLoad loaded) ∈ release.calls) : Owner.release release ∈ leaving := by
  cases move with
  | stay => exact member
  | @collectorMoves collector collected goesOn rest =>
      have own : CollectorSound windows collector := sound.leaving
      rcases Multiset.mem_add.mp member with new | kept
      · cases goesOn with
        | suspended awaiting => simp [Collected.owners] at new
        | gaveUp =>
            simp only [Collector.giveUp, Collected.owners, Multiset.mem_add, Multiset.mem_map,
              Multiset.mem_singleton, reduceCtorEq, and_false, exists_false, false_or,
              Owner.release.injEq] at new
            rw [new] at loading
            exact absurd loading (not_settledLoad_of_dropOf own.guardDropOf)
        | discovered transaction =>
            simp only [Collector.discovered, Collected.owners, Multiset.mem_add, Multiset.mem_map,
              Multiset.mem_singleton, reduceCtorEq, and_false, exists_false, false_or,
              Owner.release.injEq] at new
            rw [new] at loading
            cases loading
      · exact Multiset.mem_add.mpr (Or.inr kept)
  | collectorDrops collector rest =>
      have own : CollectorSound windows collector := sound.leaving
      rcases Multiset.mem_add.mp member with new | kept
      · cases Multiset.mem_singleton.mp new
        rcases List.mem_append.mp loading with guard | tracked
        · exact absurd guard (not_settledLoad_of_dropOf own.guardDropOf)
        · exact absurd tracked (not_settledLoad_of_dropOf (trackedDrop_dropOf _))
      · exact Multiset.mem_add.mpr (Or.inr kept)
  | @batchDrops owner batch carried calls drop rest =>
      rcases Multiset.mem_add.mp member with new | kept
      · cases Multiset.mem_singleton.mp new
        exact absurd loading (not_settledLoad_of_dropOf
          (batchDrop_dropOf (carried_sound sound.leaving carried) drop))
      · exact Multiset.mem_add.mpr (Or.inr kept)
  | begins | selects | quarantines | hands =>
      rcases Multiset.mem_add.mp member with new | kept
      · cases Multiset.mem_singleton.mp new
      · exact Multiset.mem_add.mpr (Or.inr kept)
  | @finishes processing selected remaining rest =>
      rcases Multiset.mem_add.mp member with new | kept
      · cases Multiset.mem_singleton.mp new
        exact absurd loading (not_settledLoad_of_dropOf (finish_dropOf processing))
      · exact Multiset.mem_add.mpr (Or.inr kept)
  | ends => exact Multiset.mem_add.mpr (Or.inr member)

theorem OwnerMove.balanced (move : OwnerMove config before action windows leaving entering)
    (sound : Sound windows leaving) (balanced : Balanced windows leaving) :
    Balanced windows entering where
  ledger := by
    intro token issued
    rw [move.holds sound token]
    exact balanced.ledger token issued
  loads := fun release member token loaded loading =>
    balanced.loads release (move.releases sound member loading) token loaded loading

/-- An owner holds issued tokens only. -/
theorem Owner.Sound.holds_issued {owner : Owner} (sound : owner.Sound windows)
    {token : ObservationWindowToken} (holds : 0 < owner.holds token) : token ∈ windows.issued := by
  cases owner with
  | collector current =>
      have own : CollectorSound windows current := sound
      simp only [Owner.holds, own.armed, if_true, Nat.add_pos_iff_pos_or_pos, List.count_pos_iff]
        at holds
      rcases holds with tracked | new
      · exact (own.tracked token tracked).1
      · exact (own.unconfirmed token new).1
  | batch current => exact BatchSound.issued sound token (List.count_pos_iff.mp holds)
  | processing current =>
      exact (ProcessingSound.batch sound).issued token (List.count_pos_iff.mp holds)
  | release current =>
      obtain ⟨entry, member, matching⟩ := List.countP_pos_iff.mp holds
      simp only [Bool.and_eq_true, beq_iff_eq] at matching
      exact matching.1 ▸ (ReleaseSound.calls sound entry member).1

/-- Counters that stay keep the balance of the same owners. -/
theorem Balanced.advance {earlier later : System} (balanced : Balanced earlier owners)
    (sound : Sound earlier owners) (issued : later.issued = earlier.issued)
    (counters : ∀ token ∈ earlier.issued,
      (earlier.registry.cell token).SameCounters (later.registry.cell token)) :
    Balanced later owners where
  ledger := by
    intro token member
    rw [issued] at member
    rw [(counters token member).1, (counters token member).2]
    exact balanced.ledger token member
  loads := by
    intro release member token loaded loading
    have known := (ReleaseSound.calls (sound.each _ member) _ loading).1
    rw [(counters token known).2]
    exact balanced.loads release member token loaded loading

theorem mem_loadedCounts {state : State} {release : Release}
    (member : Owner.release release ∈ (state.owners : Multiset Owner))
    {token : ObservationWindowToken} {loaded : Nat}
    (loading : (token, .settledLoad loaded) ∈ release.calls) :
    loaded ∈ state.loadedCounts token := by
  rw [State.coe_owners] at member
  simp at member
  exact List.mem_flatMap.mpr ⟨release, member, List.mem_filterMap.mpr ⟨_, loading, by simp⟩⟩

/-- The intake counts what its collection holds and settles nothing. -/
theorem Balanced.collects {collector : Collector}
    (balanced : Balanced before.windows before.owners) (sound : Sound before.windows before.owners)
    (owns : collector.Owns before.windows windows) :
    Balanced windows ({.collector collector} + before.owners) := by
  have holds (token : ObservationWindowToken) : (Owner.collector collector).holds token =
      (collector.trackedWindows.tokens ++ collector.guard.newTokens).count token := by
    simp only [Owner.holds, owns.armed, if_true, List.count_append]
  constructor
  case ledger =>
      intro token member
      rw [total_add, total_singleton, holds]
      rw [owns.admission.issued] at member
      rcases List.mem_append.mp member with old | new
      · have counted := owns.admission.counted token old
        have earlier := balanced.ledger token old
        rw [counted.admitted, counted.settled]
        omega
      · have started := owns.admission.started token new
        have unknown : total (Owner.holds token) before.owners = 0 := by
          apply total_eq_zero
          intro owner owned
          by_contra held
          exact owns.admission.new token new
            ((sound.each owner owned).holds_issued (Nat.pos_of_ne_zero held))
        rw [started.admitted, started.settled, unknown]
        simp [TokenCell.fresh]
  case loads =>
      intro release member token loaded loading
      rcases Multiset.mem_add.mp member with new | kept
      · cases Multiset.mem_singleton.mp new
      · have issued := (ReleaseSound.calls (sound.each _ kept) _ loading).1
        rw [(owns.admission.counted token issued).settled]
        exact balanced.loads release kept token loaded loading

section Call

variable {release : Release} {token : ObservationWindowToken} {call next : TokenCall}
variable {calls : TokenCalls} {rest : Multiset Owner} {spuriousFailure returned : Bool}

/-- A settlement of a live owner returns true. -/
theorem Balanced.settles (balanced : Balanced windows ({.release release} + rest))
    (pending : release.calls = (token, call) :: calls) (settles : isSettlement call = true)
    (result : (call.advance spuriousFailure (windows.registry.cell token)).1 = .returned returned) :
    returned = true := by
  cases call <;> simp only [isSettlement, Bool.false_eq_true] at settles <;>
    simp only [TokenCall.advance] at result
  case markSettled => cases result
  case settledLoad loaded =>
      have known := balanced.loads release
        (Multiset.mem_add.mpr (Or.inl (Multiset.mem_singleton_self _))) token loaded
        (by rw [pending]; exact List.mem_cons_self)
      rw [if_neg (Nat.not_le.mpr known)] at result
      cases result
  case settledExchange =>
      split at result
      · cases result
        rfl
      · cases result

/-- A pending settlement finds fewer settled than admitted events. -/
theorem Balanced.settled_lt_admitted (balanced : Balanced windows ({.release release} + rest))
    (issued : token ∈ windows.issued) (pending : release.calls = (token, call) :: calls)
    (settles : isSettlement call = true) :
    (windows.registry.cell token).settled < (windows.registry.cell token).admitted := by
  have ledger := balanced.ledger token issued
  have held : 0 < (Owner.release release).holds token := by
    refine List.countP_pos_iff.mpr ⟨(token, call), ?_, by simp [settles]⟩
    rw [pending]
    exact List.mem_cons_self
  rw [total_add, total_singleton] at ledger
  omega

theorem settlements_cons (entry : ObservationWindowToken × TokenCall) (calls : TokenCalls)
    (other : ObservationWindowToken) : TokenCalls.settlements (entry :: calls) other =
      TokenCalls.settlements calls other +
        if entry.1 == other && isSettlement entry.2 then 1 else 0 :=
  List.countP_cons

/-- A settlement loads the admitted count of its cell first. -/
theorem advance_settledLoad {loaded : Nat} {cell : TokenCell}
    (running : (call.advance spuriousFailure cell).1 = .running (.settledLoad loaded)) :
    call = .markSettled ∧ loaded = cell.admitted := by
  cases call <;> simp only [TokenCall.advance] at running <;> grind

theorem Balanced.runs (balanced : Balanced windows ({.release release} + rest))
    (sound : Sound windows ({.release release} + rest))
    (pending : release.calls = (token, call) :: calls)
    (running : (call.advance spuriousFailure (windows.registry.cell token)).1 = .running next) :
    Balanced (windowsAfterCall windows token call spuriousFailure)
      ({.release { release with calls := (token, next) :: calls }} + rest) := by
  obtain ⟨issued, released, _⟩ := (show ReleaseSound windows release from sound.leaving).calls
    (token, call) (by rw [pending]; exact List.mem_cons_self)
  have counters (other : ObservationWindowToken) : (windows.registry.cell other).SameCounters
      ((windowsAfterCall windows token call spuriousFailure).registry.cell other) :=
    setCell_related (fun _ => ⟨rfl, rfl⟩)
      ⟨advance_admitted released, advance_settled_of_running released running⟩ other
  have moved : Balanced (windowsAfterCall windows token call spuriousFailure)
      ({.release release} + rest) := balanced.advance sound rfl fun other _ => counters other
  constructor
  case ledger =>
      intro other member
      have ledger := moved.ledger other member
      rw [total_add, total_singleton] at ledger ⊢
      simp only [Owner.holds, pending, settlements_cons,
        (advance_isReleaseCall released running).2] at ledger ⊢
      exact ledger
  case loads =>
      intro live member other loaded loading
      rcases Multiset.mem_add.mp member with own | kept
      · cases Multiset.mem_singleton.mp own
        rcases List.mem_cons.mp loading with same | later
        · obtain ⟨rfl, rfl⟩ := Prod.mk.inj same
          obtain ⟨rfl, rfl⟩ := advance_settledLoad running
          rw [(counters other).2]
          exact balanced.settled_lt_admitted issued pending rfl
        · refine moved.loads release (Multiset.mem_add.mpr (Or.inl (Multiset.mem_singleton_self _)))
            other loaded ?_
          rw [pending]
          exact List.mem_cons_of_mem _ later
      · exact moved.loads live (Multiset.mem_add.mpr (Or.inr kept)) other loaded loading

/-- A call that returns counts one settlement of its own token at most. -/
theorem settled_windowsAfterCall (valid : SystemValid windows) (issued : token ∈ windows.issued)
    (released : isReleaseCall call = true)
    (result : (call.advance spuriousFailure (windows.registry.cell token)).1 = .returned returned)
    {other : ObservationWindowToken} (member : other ∈ windows.issued) :
    ((windowsAfterCall windows token call spuriousFailure).registry.cell other).settled =
      (windows.registry.cell other).settled +
        if token == other && (isSettlement call && returned) then 1 else 0 := by
  by_cases same : token = other
  · subst same
    change ((windows.registry.setCell token _).cell token).settled = _
    rw [cell_setCell, advance_settled_of_returned released result, beq_self_eq_true, Bool.true_and]
  · have address : other.address ≠ token.address := fun equal =>
      same (valid.registry.injective other member token issued equal).symm
    have unchanged : (windowsAfterCall windows token call spuriousFailure).registry.cell other =
        windows.registry.cell other := cells_setCell_of_ne _ address
    have different : (token == other) = false := by simpa using same
    rw [unchanged, different]
    rfl

theorem Balanced.returns (balanced : Balanced windows ({.release release} + rest))
    (sound : Sound windows ({.release release} + rest))
    (pending : release.calls = (token, call) :: calls)
    (result : (call.advance spuriousFailure (windows.registry.cell token)).1 = .returned returned)
    (unreached : isSettlement call = true → returned = true → ∀ live,
      Owner.release live ∈ ({.release release} + rest : Multiset Owner) → ∀ loaded,
      (token, .settledLoad loaded) ∈ live.calls → (windows.registry.cell token).settled + 1 < loaded) :
    Balanced (windowsAfterCall windows token call spuriousFailure)
      ({.release { release with calls := calls }} + rest) := by
  obtain ⟨issued, released, _⟩ := (show ReleaseSound windows release from sound.leaving).calls
    (token, call) (by rw [pending]; exact List.mem_cons_self)
  have admitted (other : ObservationWindowToken) :
      ((windowsAfterCall windows token call spuriousFailure).registry.cell other).admitted =
        (windows.registry.cell other).admitted :=
    @setCell_related (fun earlier later => later.admitted = earlier.admitted) (fun _ => rfl)
      windows.registry token _ (advance_admitted released) other
  have counted : (isSettlement call && returned) = isSettlement call := by
    by_cases settles : isSettlement call = true
    · rw [balanced.settles pending settles result, Bool.and_true]
    · simp [settles]
  constructor
  case ledger =>
      intro other member
      have ledger := balanced.ledger other member
      rw [total_add, total_singleton] at ledger ⊢
      rw [admitted, settled_windowsAfterCall sound.valid issued released result member, counted]
      simp only [Owner.holds, pending, settlements_cons] at ledger ⊢
      omega
  case loads =>
      intro live member other loaded loading
      -- the calls of the returning drop get fewer
      obtain ⟨earlier, owned, still⟩ : ∃ earlier,
          Owner.release earlier ∈ ({.release release} + rest : Multiset Owner) ∧
          (other, .settledLoad loaded) ∈ earlier.calls := by
        rcases Multiset.mem_add.mp member with own | kept
        · cases Multiset.mem_singleton.mp own
          refine ⟨release, Multiset.mem_add.mpr (Or.inl (Multiset.mem_singleton_self _)), ?_⟩
          rw [pending]
          exact List.mem_cons_of_mem _ loading
        · exact ⟨live, Multiset.mem_add.mpr (Or.inr kept), loading⟩
      have known := (ReleaseSound.calls (sound.each _ owned) _ still).1
      rw [settled_windowsAfterCall sound.valid issued released result known]
      split
      · rename_i exchanged
        simp only [Bool.and_eq_true, beq_iff_eq] at exchanged
        obtain ⟨rfl, settles, succeeded⟩ := exchanged
        exact unreached settles succeeded earlier owned loaded still
      · exact balanced.loads earlier owned other loaded still

end Call

/-- A change of the windows keeps the balance unless it reaches a loaded count. -/
theorem WindowMove.balanced (move : WindowMove before action windows owners settlements)
    (sound : Sound before.windows before.owners) (balanced : Balanced before.windows before.owners)
    (unreached : LoadsUnreached before action) : Balanced windows owners := by
  cases move with
  | same => exact balanced
  | foreign foreign =>
      obtain ⟨issued, counted⟩ := foreign_counted sound.valid foreign
      exact balanced.advance sound issued fun token member =>
        ⟨(counted token member).admitted, (counted token member).settled⟩
  | collects owns => exact balanced.collects sound owns
  | @discovers processing event token rest same selected discovery member windowId replayed =>
      rw [same] at sound balanced
      obtain ⟨cell, changed, _, _, _, counters⟩ :=
        openDiscovery_cell before.windows.registry token windowId replayed
      refine balanced.advance sound rfl fun other _ => ?_
      unfold windowsAfterDiscovery
      rw [changed]
      exact setCell_related (fun _ => ⟨rfl, rfl⟩) counters other
  | runs same pending running =>
      rw [same] at sound balanced
      exact balanced.runs sound pending running
  | returns same pending result counts =>
      have loads := fun settles succeeded live owned loaded loading =>
        unreached _ (counts settles succeeded) loaded (@mem_loadedCounts before live owned _ _ loading)
      rw [same] at sound balanced loads
      exact balanced.returns sound pending result loads

/-- The state is sound and balanced and every settlement has counted. -/
structure Conserved (state : State) : Prop where
  sound : StateSound state
  balanced : Balanced state.windows state.owners
  returned : ∀ settlement ∈ state.settlements, settlement.returned = true

theorem Conserved.new (config : PipelineConfig) : Conserved (State.new config) where
  sound := .new config
  balanced := ⟨by simp [State.new, System.new], by simp [State.owners, State.waiting, State.new]⟩
  returned := by simp [State.new]

theorem Conserved.next {state : State} (conserved : Conserved state) (config : PipelineConfig)
    {action : Action} (unreached : LoadsUnreached state action) :
    Conserved (state.next config action) := by
  have sound := conserved.sound.owners
  obtain ⟨owners, change, move⟩ := next_exchange config sound.valid action
  refine ⟨conserved.sound.next config action, move.balanced (change.sound sound)
    (change.balanced sound conserved.balanced unreached), fun settlement member => ?_⟩
  rcases change.settlements_cases member with earlier | new
  · exact conserved.returned settlement earlier
  · obtain ⟨release, rest, call, calls, _, same, pending, settles, _, _, _, cell, result⟩ := new
    have balanced := conserved.balanced
    rw [same] at balanced
    rw [cell] at result
    exact balanced.settles pending settles result

end Moves

/-- In every run in which no settlement of a token reaches the admitted count that another settlement of
the token has loaded and not yet compared, the counters of each token differ by its live entries,
every settlement counts, and a settlement without a complete processing finds its window accounted
for. -/
theorem settlement_conservation (config : PipelineConfig) {actions : List Action}
    (unreached : Transition.Along (State.step config) LoadsUnreached (State.new config) actions) :
    (∀ token ∈ (State.execute config actions).windows.issued,
      ((State.execute config actions).windows.registry.cell token).admitted =
        ((State.execute config actions).windows.registry.cell token).settled +
          (State.execute config actions).held token) ∧
    ∀ settlement ∈ (State.execute config actions).settlements, settlement.returned = true ∧
      (settlement.completed = true ∨ settlement.cell.incompleteReason ≠ none ∨
        settlement.cell.state = .cancelledPending) := by
  have conserved : Conserved (State.execute config actions) :=
    Transition.invariant_of_along (State.step config) Conserved
      (fun _ _ earlier guard => earlier.next config guard) (.new config) unreached
  refine ⟨fun token issued => ?_, fun settlement member => ?_⟩
  · have ledger := conserved.balanced.ledger token issued
    simpa [State.held, total] using ledger
  · exact ⟨conserved.returned settlement member, (conserved.sound.settlements settlement member).2⟩

theorem smallCapacity_pos : 0 < 4 := by decide

/-- A small pipeline on mainnet. -/
def smallPipeline : PipelineConfig where
  collector := {
    network := .solanaMainnet
    requestTimeoutMillis := 1000
    maximumDiscoveryAgeMillis := 5000
    observationWindowDurationMillis := 60000 }
  queueCapacity := 4
  queueCapacityPositive := smallCapacity_pos
  maximumActive := 4
  maximumActivePositive := smallCapacity_pos

/-- A notification with the given events of the Pump program. -/
def notifyPump (signature : String) (events : List PumpEvent) : Action :=
  .notify {
    subscriptionProgram := .pump
    notification := {
      signature, slot := 7, succeeded := true
      pump := { malformed := false, coverageGap := none, events }
      pumpSwap := { malformed := false, coverageGap := none, events := [] } }
    receivedTimeUnixMs := 1000000
    decoded := some {
      events := events.map fun event =>
        { program := .pump, instructionIndex := 0, eventIndex := 0, event }
      quarantined := false } } 1000000 1000000 true

/-- A trade of a window under discovery is dropped and settled without interruption. -/
def settledTradeRun : List Action :=
  [notifyPump "discovery" [.create "mint" 1000], notifyPump "trade" [.trade "mint"], .release 0 false,
    .dropOutgoing 0] ++ List.replicate 4 (.release 0 false)

theorem settlement_conservation_settledTrade :
    Transition.Along (State.step smallPipeline) LoadsUnreached (State.new smallPipeline)
      settledTradeRun ∧
    ((State.execute smallPipeline settledTradeRun).settlements ≠ [] ∧
      ∀ settlement ∈ (State.execute smallPipeline settledTradeRun).settlements,
        settlement.returned = true) := by
  have unreached : Transition.Along (State.step smallPipeline) LoadsUnreached
      (State.new smallPipeline) settledTradeRun := by decide +kernel
  refine ⟨unreached, by decide +kernel, fun settlement member => ?_⟩
  exact ((settlement_conservation smallPipeline unreached).2 settlement member).1

/-- The drop of the first trade loads the admitted count. Two more trades are admitted and settled
before it loads the settled count. -/
def lostSettlementRun : List Action :=
  [notifyPump "discovery" [.create "mint" 1000], notifyPump "first" [.trade "mint"],
    .release 0 false, .dropOutgoing 0, .release 0 false, .release 0 false,
    notifyPump "second" [.trade "mint"], .release 1 false,
    notifyPump "third" [.trade "mint"], .release 1 false,
    .dropOutgoing 0, .dropOutgoing 0] ++
  List.replicate 4 (.release 1 false) ++ List.replicate 4 (.release 2 false) ++ [.release 0 false]

theorem settlement_lost_between_loads :
    (∃ settlement ∈ (State.execute smallPipeline lostSettlementRun).settlements,
      settlement.returned = false) ∧
    ∃ token ∈ (State.execute smallPipeline lostSettlementRun).windows.issued,
      ((State.execute smallPipeline lostSettlementRun).windows.registry.cell token).admitted ≠
        ((State.execute smallPipeline lostSettlementRun).windows.registry.cell token).settled +
          (State.execute smallPipeline lostSettlementRun).held token := by
  decide +kernel

end Soldisco.Pipeline

import Soldisco.Construction.Pipeline.Interleaving
import Soldisco.Proof.Pipeline.Decode
import Soldisco.Proof.Pipeline.Targets
import Soldisco.Proof.SourcePump.Decoder
import Soldisco.Proof.Persistence.Counters
import Soldisco.Proof.Window.Atomics
import Soldisco.Proof.Window.Invariant

/-
This file proves when the processing of a batch survives the other tasks that use the registry of
windows.
-/

namespace Soldisco.Window

/-- No address is given back, and the cells in use move forward. -/
def ObservationWindowRegistry.Advances (before after : ObservationWindowRegistry) : Prop :=
  before.allocated ≤ after.allocated ∧ ∀ address < before.allocated,
    CellProgress (before.cells address) (after.cells address)

namespace ObservationWindowRegistry

theorem Advances.refl (registry : ObservationWindowRegistry) : registry.Advances registry :=
  ⟨le_refl _, fun _ _ => .refl _⟩

theorem Advances.setCell (registry : ObservationWindowRegistry) {token : ObservationWindowToken}
    {cell : TokenCell} (progress : CellProgress (registry.cell token) cell) :
    registry.Advances (registry.setCell token cell) := by
  refine ⟨le_refl _, fun address _ => ?_⟩
  change CellProgress _ (Function.update registry.cells token.address cell address)
  by_cases same : address = token.address
  · rw [same, Function.update_self]
    exact progress
  · rw [Function.update_of_ne same]
    exact .refl _

theorem Effect.advances {closing : ObservationWindowToken → Prop}
    {before after : ObservationWindowRegistry} (effect : Effect closing before after) :
    before.Advances after :=
  ⟨effect.allocated.ge, fun address _ => effect.cells address⟩

theorem provisionTarget_advances (registry : ObservationWindowRegistry)
    (target : ObservationTarget) (mint : String) (openedAtUnixMs : Int) (durationMillis : Nat) :
    registry.Advances (registry.provisionTarget target mint openedAtUnixMs durationMillis).2 := by
  rcases provisionTarget_cases registry target mint openedAtUnixMs durationMillis with
    ⟨token, -, found⟩ | ⟨-, opened⟩
  · rw [found]
    exact Effect.advances (rotateClosedWindows_effect registry openedAtUnixMs)
  · rw [opened]
    have effect := provisionTarget_effect registry openedAtUnixMs
    have cleared := Effect.advances effect
    refine ⟨cleared.1.trans (Nat.le_succ _), fun address known => ?_⟩
    have other : address ≠
        ((registry.rotateClosedWindows openedAtUnixMs).evictAtCapacity).allocated := by
      rw [effect.allocated]
      omega
    dsimp only
    rw [openWindow_cells_of_ne target mint openedAtUnixMs _ other]
    exact cleared.2 address known

/-- A part of every cell is as before. -/
def Keeps {Part : Type} (part : TokenCell → Part) (before after : ObservationWindowRegistry) :
    Prop :=
  ∀ address, part (after.cells address) = part (before.cells address)

section Keeps

variable {Part : Type} {part : TokenCell → Part}

theorem Keeps.refl (registry : ObservationWindowRegistry) : Keeps part registry registry :=
  fun _ => rfl

theorem Keeps.trans {first second third : ObservationWindowRegistry}
    (left : Keeps part first second) (right : Keeps part second third) : Keeps part first third :=
  fun address => (right address).trans (left address)

theorem Keeps.ofCells {before after : ObservationWindowRegistry}
    (same : after.cells = before.cells) : Keeps part before after := by
  intro address
  rw [same]

theorem Keeps.setCell {registry : ObservationWindowRegistry} {token : ObservationWindowToken}
    {cell : TokenCell} (same : part cell = part (registry.cell token)) :
    Keeps part registry (registry.setCell token cell) := by
  intro address
  by_cases own : address = token.address
  · subst own
    change part ((registry.setCell token cell).cell token) = _
    rw [cell_setCell]
    exact same
  · rw [cells_setCell_of_ne cell own]

theorem Keeps.foldl {Item : Type}
    (pass : Nat × ObservationWindowRegistry → Item → Nat × ObservationWindowRegistry)
    (each : ∀ state item, Keeps part state.2 (pass state item).2) (items : List Item)
    (state : Nat × ObservationWindowRegistry) :
    Keeps part state.2 (items.foldl pass state).2 := by
  induction items generalizing state with
  | nil => exact .refl state.2
  | cons item rest ih => exact (each state item).trans (ih (pass state item))

end Keeps

theorem cancelWithReason_durableWindowId (cell : TokenCell) (reason : WindowIncompleteReason) :
    (cell.cancelWithReason reason).durableWindowId = cell.durableWindowId := by
  rw [TokenCell.cancelWithReason_eq]

theorem cancelIfPending_durableWindowId (cell : TokenCell) :
    cell.cancelIfPending.durableWindowId = cell.durableWindowId := by
  unfold TokenCell.cancelIfPending
  split <;> rfl

/-- A cancellation of active and retained windows sets no identifier. -/
theorem cancelConfirmedMatching_durableWindowId (registry : ObservationWindowRegistry)
    (reason : WindowIncompleteReason) (matchesTarget : ObservationTarget → Bool) :
    Keeps TokenCell.durableWindowId registry
      (registry.cancelConfirmedMatching reason matchesTarget).2 := by
  have active : ∀ (accumulator : Nat × ObservationWindowRegistry) (target : ObservationTarget),
      Keeps TokenCell.durableWindowId accumulator.2 (cancelActive reason accumulator target).2 := by
    intro accumulator target
    unfold cancelActive
    dsimp only
    split
    · exact .refl _
    · split
      · exact (Keeps.setCell (cancelWithReason_durableWindowId _ _)).trans
          (.ofCells (retainIfDurable_cells _ _))
      · exact .setCell (cancelIfPending_durableWindowId _)
  have retained : ∀ (accumulator : Nat × ObservationWindowRegistry)
      (token : ObservationWindowToken), Keeps TokenCell.durableWindowId accumulator.2
        (cancelRetained reason matchesTarget accumulator token).2 := by
    intro accumulator token
    unfold cancelRetained
    dsimp only
    split
    · exact .setCell (cancelWithReason_durableWindowId _ _)
    · exact .refl _
  exact (Keeps.foldl _ active (registry.windows.keys.filter matchesTarget) (0, registry)).trans
    (Keeps.foldl _ retained _ _)

/-- A provision sets no identifier of a known token. -/
theorem provisionTarget_durableWindowId (registry : ObservationWindowRegistry)
    (target : ObservationTarget) (mint : String) (openedAtUnixMs : Int) (durationMillis : Nat)
    {address : Nat} (known : address < registry.allocated) :
    ((registry.provisionTarget target mint openedAtUnixMs durationMillis).2.cells
      address).durableWindowId = (registry.cells address).durableWindowId := by
  have rotated : Keeps TokenCell.durableWindowId registry
      (registry.rotateClosedWindows openedAtUnixMs) :=
    .ofCells (rotateClosedWindows_cells registry openedAtUnixMs)
  rcases provisionTarget_cases registry target mint openedAtUnixMs durationMillis with
    ⟨token, -, found⟩ | ⟨-, opened⟩
  · rw [found]
    exact rotated address
  · rw [opened]
    have evicted : Keeps TokenCell.durableWindowId (registry.rotateClosedWindows openedAtUnixMs)
        (registry.rotateClosedWindows openedAtUnixMs).evictAtCapacity := by
      rcases evictAtCapacity_cases (registry.rotateClosedWindows openedAtUnixMs) with
        ⟨-, same⟩ | ⟨-, target, token, -, -, same⟩
      · rw [same]
        exact .refl _
      · rw [same]
        exact (Keeps.setCell (cancelWithReason_durableWindowId _ _)).trans
          (.ofCells (retainIfDurable_cells _ _))
    have other : address ≠
        ((registry.rotateClosedWindows openedAtUnixMs).evictAtCapacity).allocated := by
      rw [(provisionTarget_effect registry openedAtUnixMs).allocated]
      omega
    dsimp only
    rw [openWindow_cells_of_ne target mint openedAtUnixMs _ other]
    exact (rotated.trans evicted) address

end ObservationWindowRegistry
end Soldisco.Window

namespace Soldisco.Pipeline
open Domain Window Intake Transition Accumulation
open Persistence (Database Observation WindowRow NewDiscoveryWindow OpenedDiscoveryWindow
  StoredQualificationDefaults openDiscoveryWindow)

/-- The other tasks only move the cells of known tokens forward. -/
theorem WindowTask.perform_advances (windows : ObservationWindowRegistry) (task : WindowTask) :
    windows.Advances (task.perform windows) := by
  cases task with
  | provisionTarget target mint openedAtUnixMs durationMillis =>
      exact windows.provisionTarget_advances target mint openedAtUnixMs durationMillis
  | cancelSourceConfirmed sourceProgram reason =>
      exact ObservationWindowRegistry.Effect.advances
        (ObservationWindowRegistry.cancelConfirmedMatching_effect (fun _ => True) windows reason _)
  | cancelAllConfirmed reason =>
      exact ObservationWindowRegistry.Effect.advances
        (ObservationWindowRegistry.cancelConfirmedMatching_effect (fun _ => True) windows reason _)
  | operation token call =>
      unfold WindowTask.perform
      dsimp only
      split
      · exact .setCell windows (call.advance_progress false _)
      · exact .refl windows

/-- The other tasks set no identifier. -/
theorem WindowTask.perform_durableWindowId (windows : ObservationWindowRegistry)
    (task : WindowTask) {token : ObservationWindowToken} (known : token.address < windows.allocated) :
    ((task.perform windows).cell token).durableWindowId =
      (windows.cell token).durableWindowId := by
  cases task with
  | provisionTarget target mint openedAtUnixMs durationMillis =>
      exact windows.provisionTarget_durableWindowId target mint openedAtUnixMs durationMillis known
  | cancelSourceConfirmed sourceProgram reason =>
      exact windows.cancelConfirmedMatching_durableWindowId reason _ token.address
  | cancelAllConfirmed reason =>
      exact windows.cancelConfirmedMatching_durableWindowId reason _ token.address
  | operation other call =>
      unfold WindowTask.perform
      dsimp only
      split
      · rename_i cancels
        apply ObservationWindowRegistry.Keeps.setCell
        cases call with
        | cancelIfPending => exact ObservationWindowRegistry.cancelIfPending_durableWindowId _
        | cancelWithReason reason =>
            unfold TokenCall.advance
            dsimp only
            split <;> rfl
        | cancelPending reason | cancelConfirmed reason =>
            unfold TokenCall.advance
            dsimp only
            split <;> rfl
        | cancelMark reason =>
            change ((windows.cell other).markIncomplete reason).2.durableWindowId = _
            rw [TokenCell.markIncomplete_snd]
        | _ => cases cancels
      · rfl

/-- A creation is committed as a new window, or its window is found again and nothing changes. -/
theorem openDiscoveryWindow_outcome {isBase64 : String → Bool} {now : Int} {db next : Database}
    {observation : Observation} {window : NewDiscoveryWindow} {opened : OpenedDiscoveryWindow}
    (accepted : openDiscoveryWindow isBase64 now db observation window = .ok (opened, next)) :
    (opened.replayed = true ∧ next = db) ∨
      opened.replayed = false ∧ opened.windowId = db.nextWindowId ∧
        db.findWindowByOpening observation window.targetKind window.targetAddress = none ∧
        (∃ row, next.windows = db.windows.insert db.nextWindowId row) ∧
        next.nextWindowId = db.nextWindowId + 1 := by
  unfold openDiscoveryWindow at accepted
  simp only [bind_eq_ok] at accepted
  obtain ⟨_, valid, ⟨inserted, stored⟩, chain, queued, enqueued, prefilterRevision, _,
    qualificationRevision, _, _, _, branch⟩ := accepted
  obtain ⟨-, -, storage⟩ := Persistence.insertChainObservation_eq_ok chain
  have work := Persistence.enqueueInserted_eq_ok enqueued
  have windows : queued.windows = db.windows := by
    rw [work.frame]
    dsimp only
    rw [storage.frame]
  have nextWindowId : queued.nextWindowId = db.nextWindowId := by
    rw [work.frame]
    dsimp only
    rw [storage.frame]
  split at branch
  · simp only [bind_eq_ok] at branch
    obtain ⟨_, _, replayed⟩ := branch
    cases replayed
    exact .inl ⟨rfl, rfl⟩
  · rename_i absent
    simp only [bind_eq_ok, Persistence.require_eq_ok, exists_const,
      Persistence.insertRow_eq_ok] at branch
    obtain ⟨_, _, _, ⟨_, free, rfl⟩, created⟩ := branch
    cases created
    refine .inr ⟨rfl, nextWindowId, ?_, ⟨Persistence.newWindowRow queued.nextWindowId inserted.id
      prefilterRevision qualificationRevision observation window, ?_⟩, ?_⟩
    · unfold Database.findWindowByOpening at absent ⊢
      rw [← windows]
      exact absent
    · rw [Persistence.Database.insertMembership_frame, ← windows, ← nextWindowId]
      rfl
    · rw [Persistence.Database.insertMembership_frame, ← nextWindowId]
      rfl

/-- A step of the processing that leaves the tokens and the table of windows alone. -/
structure SameWindows (before after : ProcessorState) : Prop where
  windows : after.windows = before.windows
  table : after.database.windows = before.database.windows
  nextWindowId : after.database.nextWindowId = before.database.nextWindowId

theorem SameWindows.refl (state : ProcessorState) : SameWindows state state :=
  ⟨rfl, rfl, rfl⟩

theorem SameWindows.trans {first second third : ProcessorState} (left : SameWindows first second)
    (right : SameWindows second third) : SameWindows first third :=
  ⟨right.windows.trans left.windows, right.table.trans left.table,
    right.nextWindowId.trans left.nextWindowId⟩

/-- The error of a window that lost its token. -/
def IsLifecycle (error : ProcessError) : Prop := ∃ detail, error = .windowLifecycle detail

section Calls

variable {config : ProcessingConfig} {state next : ProcessorState} {error : ProcessError}

theorem recordPipelineQuarantine_sameWindows {sourceProgram : SourceProgram}
    {evidence : QuarantinedEvidence}
    (accepted : recordPipelineQuarantine config sourceProgram state evidence = .ok next) :
    SameWindows state next := by
  unfold recordPipelineQuarantine at accepted
  rw [bind_eq_ok] at accepted
  obtain ⟨⟨_, quarantine⟩, -, done⟩ := accepted
  cases done
  exact ⟨rfl, rfl, rfl⟩

theorem recordPipelineQuarantine_error {sourceProgram : SourceProgram}
    {evidence : QuarantinedEvidence}
    (failed : recordPipelineQuarantine config sourceProgram state evidence = .error error) :
    ¬ IsLifecycle error := by
  unfold recordPipelineQuarantine at failed
  simp only [bind_eq_error, mapError_eq_error] at failed
  rcases failed with ⟨_, -, rfl⟩ | ⟨⟨_, quarantine⟩, -, done⟩
  · rintro ⟨detail, same⟩
    cases same
  · cases done

/-- Activity changes neither the tokens nor the table of windows. -/
theorem storeActivityEvent_sameWindows {event : DecodedEvidence} {observation : Observation}
    {matching : Option ObservationWindowToken} {isNew : Bool}
    (accepted : storeActivityEvent config state event observation matching = .ok (isNew, next)) :
    SameWindows state next ∧ next.markets = state.markets := by
  unfold storeActivityEvent at accepted
  simp only [bind_eq_ok, mapError_eq_ok] at accepted
  obtain ⟨⟨isNew, database⟩, stored, done⟩ := accepted
  have kept : database.windows = state.database.windows ∧
      database.nextWindowId = state.database.nextWindowId := by
    split at stored
    · obtain ⟨-, window, inserted, before, -, storage, same | ⟨row, queued, -, -, work, same⟩⟩ :=
        Persistence.insertWindowObservation_eq_ok stored
      · rw [same.2, storage.frame]
        exact ⟨rfl, rfl⟩
      · rw [same, Persistence.Database.insertMembership_frame, work.frame]
        dsimp only
        rw [storage.frame]
        exact ⟨rfl, rfl⟩
    · obtain ⟨-, inserted, before, storage, work⟩ := Persistence.insertObservation_eq_ok stored
      rw [work.frame]
      dsimp only
      rw [storage.frame]
      exact ⟨rfl, rfl⟩
  cases done
  exact ⟨⟨rfl, kept.1, kept.2⟩, rfl⟩

theorem storeActivityEvent_error {event : DecodedEvidence} {observation : Observation}
    {matching : Option ObservationWindowToken}
    (failed : storeActivityEvent config state event observation matching = .error error) :
    ¬ IsLifecycle error := by
  unfold storeActivityEvent at failed
  simp only [bind_eq_error, mapError_eq_error] at failed
  rcases failed with ⟨_, -, rfl⟩ | ⟨⟨isNew, database⟩, -, done⟩
  · rintro ⟨detail, same⟩
    cases same
  · cases done

theorem registerPool_sameWindows {coordinate : ChainCoordinate}
    {discovered : Option MarketIdentity} {event : SourcePump.PumpEvent}
    (accepted : registerPool config state coordinate discovered event = .ok next) :
    SameWindows state next := by
  cases event with
  | pumpSwapCreatePool event =>
      dsimp only [registerPool] at accepted
      rw [bind_eq_ok] at accepted
      obtain ⟨⟨_, pools⟩, -, accepted⟩ := accepted
      split at accepted
      · cases accepted
      · cases accepted
        exact ⟨rfl, rfl, rfl⟩
  | _ =>
      cases accepted
      exact .refl state

theorem registerDiscovered_sameWindows {discovered : Option MarketIdentity}
    (accepted : registerDiscovered state discovered = .ok next) : SameWindows state next := by
  unfold registerDiscovered at accepted
  split at accepted
  · cases accepted
    exact .refl state
  · rw [bind_eq_ok] at accepted
    obtain ⟨markets, -, done⟩ := accepted
    cases done
    exact ⟨rfl, rfl, rfl⟩

theorem retireMarket_sameWindows (state : ProcessorState) (event : SourcePump.PumpEvent) :
    SameWindows state (retireMarket state event) := by
  unfold retireMarket
  split
  · exact ⟨rfl, rfl, rfl⟩
  · exact .refl state

theorem upsertPumpSwapPool_error {db : Database} {pools : Table (Network × String) PumpSwapPool}
    {pool : PumpSwapPool} (failed : upsertPumpSwapPool db pools pool = .error error) :
    ¬ IsLifecycle error := by
  rintro ⟨detail, rfl⟩
  unfold upsertPumpSwapPool validatePool at failed
  simp only [bind_eq_error, mapError_eq_error] at failed
  rcases failed with (⟨_, -, impossible⟩ | ⟨_, -, failed⟩) | ⟨_, -, failed⟩
  · cases impossible
  · split at failed <;> cases failed
  · rcases failed with ⟨_, -, impossible⟩ | ⟨_, -, ⟨_, -, impossible⟩ | ⟨_, -, failed⟩⟩
    · cases impossible
    · cases impossible
    · split at failed
      · cases failed
      · split at failed
        · cases failed
        · split at failed <;> cases failed

/-- A pool that the discovery has normalized is registered as its market. -/
theorem registerPool_error {coordinate : ChainCoordinate} {event : SourcePump.PumpEvent}
    {fields : NormalizedFields} {markets : MarketRegistry}
    (normalized : normalizeFields config.network markets event = .ok fields)
    (failed : registerPool config state coordinate fields.discoveredMarket event = .error error) :
    ¬ IsLifecycle error := by
  intro lifecycle
  have coherent := registerPool_coherent normalized failed
  cases event with
  | pumpSwapCreatePool event =>
      dsimp only [registerPool] at failed
      rw [bind_eq_error] at failed
      rcases failed with conflict | ⟨⟨_, pools⟩, -, failed⟩
      · exact upsertPumpSwapPool_error conflict lifecycle
      · split at failed
        · cases failed
          exact coherent (.inr rfl)
        · cases failed
  | _ => cases failed

theorem registerDiscovered_error {discovered : Option MarketIdentity}
    (failed : registerDiscovered state discovered = .error error) : ¬ IsLifecycle error := by
  rintro ⟨detail, rfl⟩
  unfold registerDiscovered at failed
  split at failed
  · cases failed
  · simp only [bind_eq_error, mapError_eq_error] at failed
    rcases failed with ⟨_, -, impossible⟩ | ⟨_, -, done⟩
    · cases impossible
    · cases done

/-- The decoding records quarantines only. -/
theorem decodeProgram_sameWindows {batch : LoggedBatch}
    {processing decoded : BatchProcessing × List DecodedEvidence}
    {program : SourcePump.PumpProgram}
    (accepted : decodeProgram config batch processing program = .ok decoded) :
    SameWindows processing.1.state decoded.1.state := by
  unfold decodeProgram at accepted
  simp only [bind_eq_ok] at accepted
  obtain ⟨records, -, state, recorded, done⟩ := accepted
  cases done
  exact foldlM_keeps (SameWindows processing.1.state)
    (fun _ _ _ _ before kept => before.trans (recordPipelineQuarantine_sameWindows kept))
    (.refl _) recorded

theorem decodeProgram_error {batch : LoggedBatch}
    {processing : BatchProcessing × List DecodedEvidence} {program : SourcePump.PumpProgram}
    (failed : decodeProgram config batch processing program = .error error) :
    ¬ IsLifecycle error := by
  unfold decodeProgram at failed
  simp only [bind_eq_error, mapError_eq_error] at failed
  rcases failed with ⟨_, -, rfl⟩ | ⟨records, -, recording | ⟨_, -, done⟩⟩
  · rintro ⟨detail, same⟩
    cases same
  · obtain ⟨evidence, before, -, -, failed⟩ := foldlM_eq_error (fun _ => True)
      (fun _ _ _ _ _ _ => trivial) trivial recording
    exact recordPipelineQuarantine_error failed
  · cases done

end Calls
/-- The normalization of a selected event under a keyed registry. -/
def IsNormalized (config : ProcessingConfig) (event : DecodedEvidence)
    (normalized : NormalizedPumpEvent) : Prop :=
  ∃ markets fields, KeyedByTarget markets ∧
    normalizeFields config.network markets event.decoded.event = .ok fields ∧
    normalized.observation.market = fields.market ∧
    normalized.discoveredMarket = fields.discoveredMarket

/-- The token was confirmed and carries the identifier. -/
def IsIdentified (windows : ObservationWindowRegistry) (token : ObservationWindowToken)
    (windowId : Int) : Prop :=
  (windows.cell token).wasConfirmed = true ∧ (windows.cell token).durableWindowId = some windowId

instance decidableIdentified (windows : ObservationWindowRegistry) (token : ObservationWindowToken)
    (windowId : Int) : Decidable (IsIdentified windows token windowId) :=
  inferInstanceAs (Decidable (_ ∧ _))

theorem IsIdentified.advance {windows after : ObservationWindowRegistry}
    {token : ObservationWindowToken} {windowId : Int}
    (identified : IsIdentified windows token windowId) (advances : windows.Advances after)
    (issued : token.address < windows.allocated) : IsIdentified after token windowId := by
  have progress := advances.2 token.address issued
  exact ⟨progress.wasConfirmed identified.1, progress.durable windowId identified.2⟩

/-- Each window that the processing has opened has its token, save for the one that is still without
an identifier. -/
structure IsGrounded (batch : LoggedBatch) (initial : Database) (unidentified : Option Int)
    (state : ProcessorState) : Prop where
  keyed : KeyedByTarget state.markets
  positive : 0 < state.database.nextWindowId
  issued : ∀ token ∈ batch.windowTokens, token.address < state.windows.allocated
  identified : ∀ windowId row, state.database.windows.lookup windowId = some row →
    initial.windows.lookup windowId = none →
      (∃ token ∈ batch.windowTokens, IsIdentified state.windows token windowId) ∨
        unidentified = some windowId

section Grounded

variable {config : ProcessingConfig} {batch : LoggedBatch} {initial : Database}
  {unidentified : Option Int} {state next : ProcessorState}

theorem IsGrounded.advance (grounded : IsGrounded batch initial unidentified state)
    {windows : ObservationWindowRegistry} (advances : state.windows.Advances windows) :
    IsGrounded batch initial unidentified { state with windows } where
  keyed := grounded.keyed
  positive := grounded.positive
  issued := fun token member => (grounded.issued token member).trans_le advances.1
  identified := by
    intro windowId row present new
    rcases grounded.identified windowId row present new with ⟨token, member, identified⟩ | without
    · exact .inl ⟨token, member, identified.advance advances (grounded.issued token member)⟩
    · exact .inr without

theorem IsGrounded.same (grounded : IsGrounded batch initial unidentified state)
    (same : SameWindows state next) (keyed : KeyedByTarget next.markets) :
    IsGrounded batch initial unidentified next where
  keyed
  positive := by
    rw [same.nextWindowId]
    exact grounded.positive
  issued := by
    rw [same.windows]
    exact grounded.issued
  identified := by
    rw [same.windows, same.table]
    exact grounded.identified

/-- The opened window is the one without an identifier. -/
theorem IsGrounded.opened (grounded : IsGrounded batch initial none state) {database : Database}
    {row : WindowRow}
    (inserted : database.windows = state.database.windows.insert state.database.nextWindowId row)
    (advanced : database.nextWindowId = state.database.nextWindowId + 1) :
    IsGrounded batch initial (some state.database.nextWindowId) { state with database } where
  keyed := grounded.keyed
  positive := by
    have positive := grounded.positive
    change 0 < database.nextWindowId
    omega
  issued := grounded.issued
  identified := by
    intro windowId found present new
    change database.windows.lookup windowId = some found at present
    by_cases opened : windowId = state.database.nextWindowId
    · exact .inr (by rw [opened])
    · rw [inserted, AList.lookup_insert_ne opened] at present
      rcases grounded.identified windowId found present new with known | without
      · exact .inl known
      · cases without

/-- The token of the opened window carries its identifier. -/
theorem IsGrounded.identify {windowId : Int}
    (grounded : IsGrounded batch initial (some windowId) state) {token : ObservationWindowToken}
    (member : token ∈ batch.windowTokens) (identified : IsIdentified state.windows token windowId) :
    IsGrounded batch initial none state where
  keyed := grounded.keyed
  positive := grounded.positive
  issued := grounded.issued
  identified := by
    intro found row present new
    rcases grounded.identified found row present new with known | without
    · exact .inl known
    · cases without
      exact .inl ⟨token, member, identified⟩

end Grounded

def ProcessingPhase.lifecycleError : ProcessingPhase → Option String
  | .returned (.error (.windowLifecycle detail)) => some detail
  | _ => none

def ProcessingPhase.hasReturned : ProcessingPhase → Bool
  | .returned _ => true
  | _ => false

namespace InterleavedProcessing

/-- The creation of the event has opened its window before. -/
def hasOpened (current : InterleavedProcessing) (normalized : NormalizedPumpEvent)
    (token : ObservationWindowToken) : Bool :=
  (current.processing.state.database.findWindowByOpening normalized.observation
    (windowTargetParts token.target).1 (windowTargetParts token.target).2).isSome

def isLive (current : InterleavedProcessing) (token : ObservationWindowToken) : Bool :=
  (current.windows.cell token).isLive

/-- The opened window that still waits for its token. -/
def unidentified (current : InterleavedProcessing) : Option Int :=
  match current.phase with
  | .confirming _ _ _ opened | .identifying _ _ _ opened _ => some opened.windowId
  | _ => none

/-- Between the selection of a discovery and the confirmation of its token, one token that the loop
has still to read stays open and the found token stays live, unless the window exists already. -/
def KeepsToken (batch : LoggedBatch) (before after : InterleavedProcessing) : Prop :=
  match before.phase with
  | .matching _ normalized tokens => normalized.discoveredMarket.isSome = true →
      tokens.any (before.matchesMarket batch normalized) = true →
        tokens.any (after.matchesMarket batch normalized) = true
  | .loadingDefaults _ normalized token | .opening _ normalized token _ =>
      before.isLive token = true →
        after.isLive token = true ∨ before.hasOpened normalized token = true
  | .confirming _ _ token _ => before.isLive token = true → after.isLive token = true
  | _ => True

/-- The token of a creation that opens a new window carries no identifier yet. -/
def FindsFreshToken (current : InterleavedProcessing) : Prop :=
  match current.phase with
  | .opening _ normalized token _ => current.hasOpened normalized token = true ∨
      (current.windows.cell token).durableWindowId = none
  | _ => True

def IsUndisturbed (config : ProcessingConfig) (batch : LoggedBatch)
    (current : InterleavedProcessing) : InterleavedAction → Prop
  | .task task => KeepsToken batch current (current.step config batch (.task task)).2
  | .proceed => FindsFreshToken current

instance decidableKeepsToken (batch : LoggedBatch) (before after : InterleavedProcessing) :
    Decidable (KeepsToken batch before after) :=
  match place : before.phase with
  | .matching _ normalized tokens => decidable_of_iff
      (normalized.discoveredMarket.isSome = true →
        tokens.any (before.matchesMarket batch normalized) = true →
          tokens.any (after.matchesMarket batch normalized) = true)
      (by rw [KeepsToken, place])
  | .loadingDefaults _ normalized token | .opening _ normalized token _ => decidable_of_iff
      (before.isLive token = true →
        after.isLive token = true ∨ before.hasOpened normalized token = true)
      (by rw [KeepsToken, place])
  | .confirming _ _ token _ => decidable_of_iff
      (before.isLive token = true → after.isLive token = true) (by rw [KeepsToken, place])
  | .selecting .. | .quarantining .. | .replaying .. | .identifying .. | .storing ..
  | .registering .. | .cancelling .. | .returned .. =>
      isTrue (by rw [KeepsToken, place]; exact trivial)

instance decidableFindsFreshToken (current : InterleavedProcessing) :
    Decidable (FindsFreshToken current) :=
  match place : current.phase with
  | .opening _ normalized token _ => decidable_of_iff
      (current.hasOpened normalized token = true ∨
        (current.windows.cell token).durableWindowId = none)
      (by rw [FindsFreshToken, place])
  | .selecting .. | .quarantining .. | .matching .. | .loadingDefaults .. | .replaying ..
  | .confirming .. | .identifying .. | .storing .. | .registering .. | .cancelling ..
  | .returned .. => isTrue (by rw [FindsFreshToken, place]; exact trivial)

instance decidableUndisturbed (config : ProcessingConfig) (batch : LoggedBatch)
    (current : InterleavedProcessing) :
    ∀ action, Decidable (IsUndisturbed config batch current action)
  | .task task => decidableKeepsToken batch current (current.step config batch (.task task)).2
  | .proceed => decidableFindsFreshToken current

/-- What the place of the processing promises about the tokens. -/
def PhaseSound (config : ProcessingConfig) (batch : LoggedBatch) (current : InterleavedProcessing) :
    Prop :=
  match current.phase with
  | .selecting _ tokens | .cancelling tokens => ∀ token ∈ tokens, token ∈ batch.windowTokens
  | .quarantining _ _ _ => True
  | .matching event normalized tokens => IsNormalized config event normalized ∧
      (∀ token ∈ tokens, token ∈ batch.windowTokens) ∧
      (normalized.discoveredMarket.isSome = true →
        tokens.any (current.matchesMarket batch normalized) = true)
  | .loadingDefaults event normalized token | .opening event normalized token _ =>
      IsNormalized config event normalized ∧ token ∈ batch.windowTokens ∧
        (current.isLive token = true ∨ current.hasOpened normalized token = true)
  | .replaying token => token ∈ batch.windowTokens
  | .confirming event normalized token opened =>
      IsNormalized config event normalized ∧ token ∈ batch.windowTokens ∧
        0 < opened.windowId ∧ (current.windows.cell token).durableWindowId = none ∧
        current.isLive token = true
  | .identifying event normalized token opened call =>
      IsNormalized config event normalized ∧ token ∈ batch.windowTokens ∧
        0 < opened.windowId ∧ (current.windows.cell token).durableWindowId = none ∧
        (current.windows.cell token).wasConfirmed = true ∧
        call ∈ [TokenCall.setDurableWindowId opened.windowId, .durableGet opened.windowId,
          .durableSet opened.windowId]
  | .storing event normalized _ | .registering event normalized _ =>
      IsNormalized config event normalized
  | .returned outcome => ∀ error, outcome = .error error → ¬ IsLifecycle error

structure IsSound (config : ProcessingConfig) (batch : LoggedBatch) (initial : Database)
    (current : InterleavedProcessing) : Prop where
  grounded : IsGrounded batch initial current.unidentified current.processing.state
  phase : PhaseSound config batch current

section Steps

variable {config : ProcessingConfig} {batch : LoggedBatch} {initial : Database}
  {current : InterleavedProcessing} {event : DecodedEvidence} {normalized : NormalizedPumpEvent}
  {token : ObservationWindowToken}

theorem fail_sound (grounded : IsGrounded batch initial none current.processing.state)
    {error : ProcessError} (other : ¬ IsLifecycle error) :
    IsSound config batch initial (current.fail error) where
  grounded := grounded
  phase := by
    intro found same
    cases same
    exact other

theorem nextEvent_sound (grounded : IsGrounded batch initial none current.processing.state) :
    IsSound config batch initial (current.nextEvent batch) := by
  unfold nextEvent
  split
  · exact ⟨grounded, fun token member => member⟩
  · refine ⟨grounded, fun token member => ?_⟩
    split at member
    · exact member
    · cases member

/-- The token that selects a discovery is open under the target of its market. -/
theorem matchesMarket_of_watches (accepted : IsNormalized config event normalized)
    (discovered : normalized.discoveredMarket.isSome = true)
    (watched : batch.watches config current.windows event.decoded.event token = true) :
    current.matchesMarket batch normalized token = true := by
  obtain ⟨markets, fields, keyed, found, market, same⟩ := accepted
  have coherent := normalizeFields_coherent keyed found
  have discovery : isDiscoveryEvent (intakeEvent event.decoded.event) = true := by
    rw [same, coherent.discovered] at discovered
    by_contra other
    rw [if_neg other] at discovered
    cases discovered
  have untracked : eventTrackingTarget (intakeEvent event.decoded.event) = none := by
    cases kind : event.decoded.event <;> rw [kind] at discovery <;>
      first | rfl | cases discovery
  have target := coherent.target
  unfold intakeTarget at target
  unfold LoggedBatch.watches at watched
  rw [untracked] at watched
  dsimp only at watched
  rw [Bool.and_eq_true] at watched
  cases seeded : discoverySeed (intakeEvent event.decoded.event) config.network with
  | none =>
      rw [seeded] at watched
      cases watched.2
  | some seed =>
      rw [seeded] at watched target
      have admitted := watched.2
      rw [Option.any_some, Bool.and_eq_true, beq_iff_eq] at admitted
      unfold matchesMarket
      rw [market, target, admitted.1, Bool.and_eq_true, beq_iff_eq]
      exact ⟨rfl, admitted.2⟩

theorem select_sound (grounded : IsGrounded batch initial none current.processing.state)
    (member : token ∈ batch.windowTokens)
    (watched : batch.watches config current.windows event.decoded.event token = true) :
    IsSound config batch initial (current.select config batch event) := by
  unfold select
  dsimp only
  split
  · rename_i normalized accepted
    obtain ⟨fields, found, market, discovered⟩ := normalizePumpEvent_eq_ok accepted
    have known : IsNormalized config event normalized :=
      ⟨_, fields, grounded.keyed, found, market, discovered⟩
    refine ⟨grounded, known, fun token member => member, fun discovers => ?_⟩
    rw [List.any_eq_true]
    exact ⟨token, member, matchesMarket_of_watches known discovers watched⟩
  · split
    · apply fail_sound
      · exact grounded
      · rintro ⟨detail, same⟩
        cases same
    · exact ⟨grounded, trivial⟩

theorem selectToken_sound (grounded : IsGrounded batch initial none current.processing.state)
    {tokens : List ObservationWindowToken} (members : ∀ token ∈ tokens, token ∈ batch.windowTokens) :
    IsSound config batch initial (current.selectToken config batch event tokens) := by
  cases tokens with
  | nil => exact nextEvent_sound grounded
  | cons token rest =>
      rw [selectToken]
      split
      · rename_i watched
        split
        · exact select_sound grounded (members token List.mem_cons_self) watched
        · exact nextEvent_sound grounded
      · exact ⟨grounded, fun other member => members other (List.mem_cons_of_mem token member)⟩

theorem quarantine_sound (grounded : IsGrounded batch initial none current.processing.state)
    (error : NormalizationError) (reasonCode : String) :
    IsSound config batch initial (current.quarantine config batch event error reasonCode) := by
  unfold quarantine
  split
  · rename_i state recorded
    apply nextEvent_sound
    apply grounded.same (recordPipelineQuarantine_sameWindows recorded)
    rw [recordPipelineQuarantine_markets recorded]
    exact grounded.keyed
  · rename_i failed
    exact fail_sound grounded (recordPipelineQuarantine_error failed)

/-- The market of a discovery has a target, so its search ends at a token. -/
theorem matchToken_sound (grounded : IsGrounded batch initial none current.processing.state)
    (accepted : IsNormalized config event normalized) {tokens : List ObservationWindowToken}
    (members : ∀ token ∈ tokens, token ∈ batch.windowTokens)
    (stays : normalized.discoveredMarket.isSome = true →
      tokens.any (current.matchesMarket batch normalized) = true) :
    IsSound config batch initial (current.matchToken batch event normalized tokens) := by
  cases tokens with
  | nil =>
      rw [matchToken]
      cases discovered : normalized.discoveredMarket with
      | none =>
          unfold choose
          rw [discovered]
          exact ⟨grounded, accepted⟩
      | some market =>
          rw [discovered] at stays
          cases stays rfl
  | cons token rest =>
      rw [matchToken]
      split
      · rename_i matched
        unfold choose
        cases discovered : normalized.discoveredMarket with
        | none => exact ⟨grounded, accepted⟩
        | some market =>
            unfold matchesMarket at matched
            rw [Bool.and_eq_true] at matched
            exact ⟨grounded, accepted, members token List.mem_cons_self,
              .inl (TokenCell.isOpenAt_iff.mp matched.2).1⟩
      · rename_i unmatched
        refine ⟨grounded, accepted,
          fun other member => members other (List.mem_cons_of_mem token member), fun discovers => ?_⟩
        have later := stays discovers
        rw [List.any_cons, Bool.or_eq_true] at later
        exact later.resolve_left unmatched

theorem loadDefaults_sound (grounded : IsGrounded batch initial none current.processing.state)
    (accepted : IsNormalized config event normalized) (member : token ∈ batch.windowTokens)
    (ready : current.isLive token = true ∨ current.hasOpened normalized token = true) :
    IsSound config batch initial (current.loadDefaults config event normalized token) := by
  unfold loadDefaults
  split
  · exact ⟨grounded, accepted, member, ready⟩
  · apply fail_sound grounded
    rintro ⟨detail, same⟩
    cases same

/-- A new window belongs to a live token without an identifier. -/
theorem openWindow_sound (grounded : IsGrounded batch initial none current.processing.state)
    (accepted : IsNormalized config event normalized) (member : token ∈ batch.windowTokens)
    (ready : current.isLive token = true ∨ current.hasOpened normalized token = true)
    (fresh : current.hasOpened normalized token = true ∨
      (current.windows.cell token).durableWindowId = none)
    (qualification : StoredQualificationDefaults) :
    IsSound config batch initial
      (current.openWindow config event normalized token qualification) := by
  unfold openWindow
  split
  · rename_i opened database committed
    rcases openDiscoveryWindow_outcome committed with
      ⟨replayed, same⟩ | ⟨created, identity, absent, ⟨row, inserted⟩, advanced⟩
    · subst same
      rw [if_pos replayed]
      exact ⟨grounded, member⟩
    · rw [if_neg (by rw [created]; exact Bool.false_ne_true)]
      have new : ¬ current.hasOpened normalized token = true := by
        unfold hasOpened
        change ¬ (Database.findWindowByOpening _ _ (newDiscoveryWindow config token
          qualification).targetKind (newDiscoveryWindow config token
            qualification).targetAddress).isSome = true
        rw [absent]
        exact Bool.false_ne_true
      refine ⟨?_, accepted, member, ?_, fresh.resolve_left new, ready.resolve_right new⟩
      · change IsGrounded batch initial (some opened.windowId)
          { current.processing.state with database }
        rw [identity]
        exact grounded.opened inserted advanced
      · rw [identity]
        exact grounded.positive
  · apply fail_sound grounded
    rintro ⟨detail, same⟩
    cases same

theorem setCell_grounded {unidentified : Option Int} {cell : TokenCell}
    (grounded : IsGrounded batch initial unidentified current.processing.state)
    (progress : CellProgress (current.windows.cell token) cell) :
    IsGrounded batch initial unidentified (current.setCell token cell).processing.state :=
  grounded.advance (.setCell _ progress)

theorem cell_setCell (current : InterleavedProcessing) (token : ObservationWindowToken)
    (cell : TokenCell) : (current.setCell token cell).windows.cell token = cell :=
  Window.cell_setCell _ _ _

theorem replay_sound (grounded : IsGrounded batch initial none current.processing.state) :
    IsSound config batch initial (current.replay batch token) :=
  nextEvent_sound (setCell_grounded grounded (TokenCell.cancelIfPending_progress _))

/-- A live token is confirmed. -/
theorem confirm_sound {opened : OpenedDiscoveryWindow}
    (grounded : IsGrounded batch initial (some opened.windowId) current.processing.state)
    (accepted : IsNormalized config event normalized) (member : token ∈ batch.windowTokens)
    (positive : 0 < opened.windowId)
    (fresh : (current.windows.cell token).durableWindowId = none)
    (live : current.isLive token = true) :
    IsSound config batch initial (current.confirm event normalized token opened) := by
  have confirmed : (current.windows.cell token).confirm.1 = true ∧
      (current.windows.cell token).confirm.2.wasConfirmed = true ∧
      (current.windows.cell token).confirm.2.durableWindowId = none := by
    unfold isLive TokenCell.isLive at live
    unfold TokenCell.confirm
    cases state : (current.windows.cell token).state <;> rw [state] at live
    · exact ⟨rfl, rfl, fresh⟩
    · refine ⟨rfl, ?_, fresh⟩
      unfold TokenCell.wasConfirmed
      rw [state]
    · cases live
    · cases live
  have cell := current.cell_setCell token (current.windows.cell token).confirm.2
  unfold confirm
  dsimp only
  rw [if_pos confirmed.1]
  refine ⟨setCell_grounded grounded (TokenCell.confirm_progress _), accepted, member, positive, ?_,
    ?_, List.mem_cons_self⟩
  · change ((current.setCell token _).windows.cell token).durableWindowId = none
    rw [cell]
    exact confirmed.2.2
  · change ((current.setCell token _).windows.cell token).wasConfirmed = true
    rw [cell]
    exact confirmed.2.1

/-- A confirmed token without an identifier takes the one of the opened window. -/
theorem identify_sound {opened : OpenedDiscoveryWindow} {call : TokenCall}
    (grounded : IsGrounded batch initial (some opened.windowId) current.processing.state)
    (accepted : IsNormalized config event normalized) (member : token ∈ batch.windowTokens)
    (positive : 0 < opened.windowId)
    (fresh : (current.windows.cell token).durableWindowId = none)
    (confirmed : (current.windows.cell token).wasConfirmed = true)
    (known : call ∈ [TokenCall.setDurableWindowId opened.windowId, .durableGet opened.windowId,
      .durableSet opened.windowId]) :
    IsSound config batch initial (current.identify event normalized token opened call) := by
  have same := current.cell_setCell token (current.windows.cell token)
  have unchanged := setCell_grounded grounded (.refl (current.windows.cell token))
  simp only [List.mem_cons, List.not_mem_nil, or_false] at known
  rcases known with rfl | rfl | rfl
  · have advanced : (TokenCall.setDurableWindowId opened.windowId).advance false
        (current.windows.cell token) =
          (.running (.durableGet opened.windowId), current.windows.cell token) := by
      unfold TokenCall.advance
      dsimp only
      rw [confirmed, decide_eq_false (by omega)]
      rfl
    unfold identify
    dsimp only
    rw [advanced]
    refine ⟨unchanged, accepted, member, positive, ?_, ?_, by simp⟩
    · change ((current.setCell token _).windows.cell token).durableWindowId = none
      rw [same]
      exact fresh
    · change ((current.setCell token _).windows.cell token).wasConfirmed = true
      rw [same]
      exact confirmed
  · have advanced : (TokenCall.durableGet opened.windowId).advance false
        (current.windows.cell token) =
          (.running (.durableSet opened.windowId), current.windows.cell token) := by
      unfold TokenCall.advance
      dsimp only
      rw [fresh]
    unfold identify
    dsimp only
    rw [advanced]
    refine ⟨unchanged, accepted, member, positive, ?_, ?_, by simp⟩
    · change ((current.setCell token _).windows.cell token).durableWindowId = none
      rw [same]
      exact fresh
    · change ((current.setCell token _).windows.cell token).wasConfirmed = true
      rw [same]
      exact confirmed
  · have progress := (TokenCall.durableSet opened.windowId).advance_progress false
      (current.windows.cell token)
    have advanced : (TokenCall.durableSet opened.windowId).advance false
        (current.windows.cell token) = (.returned true,
          { current.windows.cell token with durableWindowId := some opened.windowId }) := by
      unfold TokenCall.advance
      dsimp only
      rw [fresh]
    rw [advanced] at progress
    unfold identify
    dsimp only
    rw [advanced]
    refine ⟨(setCell_grounded grounded progress).identify member ⟨?_, ?_⟩, accepted⟩
    · change ((current.setCell token _).windows.cell token).wasConfirmed = true
      rw [cell_setCell]
      exact confirmed
    · change ((current.setCell token _).windows.cell token).durableWindowId = _
      rw [cell_setCell]

theorem storeActivity_sound (grounded : IsGrounded batch initial none current.processing.state)
    (accepted : IsNormalized config event normalized)
    (matching : Option ObservationWindowToken) :
    IsSound config batch initial (current.storeActivity config event normalized matching) := by
  unfold storeActivity
  split
  · rename_i isNew state stored
    obtain ⟨same, markets⟩ := storeActivityEvent_sameWindows stored
    refine ⟨grounded.same same ?_, accepted⟩
    change KeyedByTarget state.markets
    rw [markets]
    exact grounded.keyed
  · rename_i failed
    exact fail_sound grounded (storeActivityEvent_error failed)

/-- The markets of a normalized event are registered. -/
theorem register_sound (grounded : IsGrounded batch initial none current.processing.state)
    (accepted : IsNormalized config event normalized) (isNew : Bool) :
    IsSound config batch initial (current.register config batch event normalized isNew) := by
  unfold register
  split
  · rename_i registered succeeded
    rw [bind_eq_ok] at succeeded
    obtain ⟨pooled, pool, discovered⟩ := succeeded
    apply nextEvent_sound
    apply grounded.same
    · exact ((registerPool_sameWindows pool).trans (registerDiscovered_sameWindows discovered)).trans
        (retireMarket_sameWindows registered _)
    · exact retireMarket_keyed _
        (registerDiscovered_keyed (registerPool_keyed grounded.keyed pool) discovered)
  · rename_i failed
    apply fail_sound grounded
    obtain ⟨markets, fields, -, found, -, discovered⟩ := accepted
    rw [bind_eq_error, discovered] at failed
    rcases failed with conflict | ⟨pooled, -, conflict⟩
    · exact registerPool_error found conflict
    · exact registerDiscovered_error conflict

theorem cancelToken_sound (grounded : IsGrounded batch initial none current.processing.state)
    {tokens : List ObservationWindowToken} (members : ∀ token ∈ tokens, token ∈ batch.windowTokens) :
    IsSound config batch initial (current.cancelToken batch tokens) := by
  cases tokens with
  | nil =>
      refine ⟨grounded, ?_⟩
      intro error failed
      cases failed
  | cons token rest =>
      exact ⟨setCell_grounded grounded (TokenCell.cancelIfPending_progress _),
        fun other member => members other (List.mem_cons_of_mem token member)⟩

/-- One operation of the processing keeps the promises of its place. -/
theorem proceed_sound (sound : IsSound config batch initial current)
    (fresh : FindsFreshToken current) :
    IsSound config batch initial (current.proceed config batch) := by
  obtain ⟨grounded, promised⟩ := sound
  unfold unidentified at grounded
  unfold PhaseSound at promised
  unfold FindsFreshToken at fresh
  unfold proceed
  cases place : current.phase <;> rw [place] at grounded promised fresh <;> dsimp only at *
  case selecting event tokens => exact selectToken_sound grounded promised
  case quarantining event error reasonCode => exact quarantine_sound grounded error reasonCode
  case matching event normalized tokens =>
    exact matchToken_sound grounded promised.1 promised.2.1 promised.2.2
  case loadingDefaults event normalized token =>
    exact loadDefaults_sound grounded promised.1 promised.2.1 promised.2.2
  case opening event normalized token qualification =>
    exact openWindow_sound grounded promised.1 promised.2.1 promised.2.2 fresh qualification
  case replaying token => exact replay_sound grounded
  case confirming event normalized token opened =>
    obtain ⟨accepted, member, positive, without, live⟩ := promised
    exact confirm_sound grounded accepted member positive without live
  case identifying event normalized token opened call =>
    obtain ⟨accepted, member, positive, without, confirmed, known⟩ := promised
    exact identify_sound grounded accepted member positive without confirmed known
  case storing event normalized matching => exact storeActivity_sound grounded promised matching
  case registering event normalized isNew => exact register_sound grounded promised isNew
  case cancelling tokens => exact cancelToken_sound grounded promised
  case returned outcome =>
    refine ⟨?_, ?_⟩
    · unfold unidentified
      rw [place]
      exact grounded
    · unfold PhaseSound
      rw [place]
      exact promised

/-- The work of another task keeps the promises as long as it keeps the token. -/
theorem task_sound (sound : IsSound config batch initial current) (task : WindowTask)
    (keeps : KeepsToken batch current (current.step config batch (.task task)).2) :
    IsSound config batch initial (current.step config batch (.task task)).2 := by
  obtain ⟨grounded, promised⟩ := sound
  have advances := task.perform_advances current.windows
  have same : ∀ token ∈ batch.windowTokens,
      ((task.perform current.windows).cell token).durableWindowId =
        (current.windows.cell token).durableWindowId := fun token member =>
    task.perform_durableWindowId current.windows (grounded.issued token member)
  refine ⟨grounded.advance advances, ?_⟩
  unfold PhaseSound at promised
  unfold KeepsToken at keeps
  unfold PhaseSound
  have kept : (current.step config batch (.task task)).2.phase = current.phase := rfl
  rw [kept]
  cases place : current.phase <;> rw [place] at promised keeps <;> dsimp only at *
  case selecting event tokens => exact promised
  case matching event normalized tokens =>
    exact ⟨promised.1, promised.2.1, fun discovers => keeps discovers (promised.2.2 discovers)⟩
  case loadingDefaults event normalized token =>
    obtain ⟨accepted, member, live | opened⟩ := promised
    · exact ⟨accepted, member, keeps live⟩
    · exact ⟨accepted, member, .inr opened⟩
  case opening event normalized token qualification =>
    obtain ⟨accepted, member, live | opened⟩ := promised
    · exact ⟨accepted, member, keeps live⟩
    · exact ⟨accepted, member, .inr opened⟩
  case replaying token => exact promised
  case confirming event normalized token opened =>
    obtain ⟨accepted, member, positive, without, live⟩ := promised
    exact ⟨accepted, member, positive, (same token member).trans without, keeps live⟩
  case identifying event normalized token opened call =>
    obtain ⟨accepted, member, positive, without, confirmed, known⟩ := promised
    have progress := advances.2 token.address (grounded.issued token member)
    exact ⟨accepted, member, positive, (same token member).trans without,
      progress.wasConfirmed confirmed, known⟩
  case storing event normalized matching => exact promised
  case registering event normalized isNew => exact promised
  case cancelling tokens => exact promised
  case returned outcome => exact promised

theorem step_sound (sound : IsSound config batch initial current) (action : InterleavedAction)
    (undisturbed : IsUndisturbed config batch current action) :
    IsSound config batch initial (current.step config batch action).2 := by
  cases action with
  | proceed => exact proceed_sound sound undisturbed
  | task task => exact task_sound sound task undisturbed

/-- The decoding leaves the tokens and the windows alone. -/
theorem start_sound {state : ProcessorState} (keyed : KeyedByTarget state.markets)
    (positive : 0 < state.database.nextWindowId)
    (issued : ∀ token ∈ batch.windowTokens, token.address < state.windows.allocated) :
    IsSound config batch state.database (start config batch state) := by
  have grounded : IsGrounded batch state.database none state := by
    refine ⟨keyed, positive, issued, fun windowId row present new => ?_⟩
    rw [new] at present
    cases present
  unfold start
  dsimp only
  split
  · exact nextEvent_sound grounded
  · split
    · rename_i decoded events accepted
      have kept := foldlM_keeps (fun processing : BatchProcessing × List DecodedEvidence =>
          SameWindows state processing.1.state ∧ processing.1.state.markets = state.markets)
        (fun _ _ _ _ before accepted => ⟨before.1.trans (decodeProgram_sameWindows accepted),
          (decodeProgram_markets accepted).trans before.2⟩) ⟨.refl state, rfl⟩ accepted
      apply nextEvent_sound
      apply grounded.same kept.1
      change KeyedByTarget decoded.state.markets
      rw [kept.2]
      exact keyed
    · rename_i failed
      apply fail_sound grounded
      obtain ⟨program, processing, -, -, failed⟩ := foldlM_eq_error (fun _ => True)
        (fun _ _ _ _ _ _ => trivial) trivial failed
      exact decodeProgram_error failed

end Steps

/-- As long as no other task closes the token of a discovery between its selection and its
confirmation, the processing loses no token, and each window that it has opened has its token. -/
theorem undisturbed_identifies (config : ProcessingConfig) (batch : LoggedBatch)
    (state : ProcessorState) (reached : ReachableRegistry state.markets)
    (positive : 0 < state.database.nextWindowId)
    (issued : ∀ token ∈ batch.windowTokens, token.address < state.windows.allocated)
    (actions : List InterleavedAction)
    (undisturbed : Along (step config batch) (IsUndisturbed config batch)
      (start config batch state) actions) :
    (run (step config batch) (start config batch state) actions).phase.lifecycleError = none ∧
      ((run (step config batch) (start config batch state) actions).phase.hasReturned = true →
        ∀ windowId row,
          (run (step config batch) (start config batch state)
            actions).processing.state.database.windows.lookup windowId = some row →
          state.database.windows.lookup windowId = none →
            ∃ token ∈ batch.windowTokens, IsIdentified
              (run (step config batch) (start config batch state) actions).windows token
                windowId) := by
  have sound : IsSound config batch state.database
      (run (step config batch) (start config batch state) actions) :=
    invariant_of_along (step config batch) (IsSound config batch state.database)
      (fun _ action sound undisturbed => step_sound sound action undisturbed)
      (start_sound reached.keyed positive issued) undisturbed
  obtain ⟨grounded, promised⟩ := sound
  constructor
  · unfold PhaseSound at promised
    cases place : (run (step config batch) (start config batch state) actions).phase with
    | returned outcome =>
        rw [place] at promised
        cases outcome with
        | ok outcome => rfl
        | error error =>
            have other := promised error rfl
            cases error with
            | windowLifecycle detail => exact absurd ⟨detail, rfl⟩ other
            | _ => rfl
    | _ => rfl
  · intro returned windowId row present new
    unfold unidentified at grounded
    cases place : (run (step config batch) (start config batch state) actions).phase with
    | returned outcome =>
        rw [place] at grounded
        exact (grounded.identified windowId row present new).resolve_right (fun without => by
          cases without)
    | _ =>
        rw [place] at returned
        cases returned

/-- The creation of a token in a log. -/
def loggedCreation : SourcePump.PumpEvent := .create {
  name := "Name"
  symbol := "SYM"
  uri := "uri"
  mint := SourcePump.encodeBase58 (List.replicate 32 1)
  bondingCurve := SourcePump.zeroAddress
  user := SourcePump.zeroAddress
  creator := SourcePump.zeroAddress
  timestamp := 0
  virtualTokenReserves := 0
  virtualSolReserves := 0
  realTokenReserves := 0
  tokenTotalSupply := 0
  tokenProgram := SourcePump.zeroAddress
  isMayhemMode := false
  isCashbackEnabled := false
  quoteMint := SourcePump.zeroAddress
  virtualQuoteReserves := 0 }

def loggedTarget : ObservationTarget := .pumpMint (SourcePump.encodeBase58 (List.replicate 32 1))

/-- The log has the creation as the payload "AAAA". -/
def loggedConfig : ProcessingConfig := launchConfig { emptyEncoding with
  decodeBase64 := fun payload => if payload = "AAAA" then some loggedCreation.encode else none
  encodeBase64 := fun _ => "AAAA" }

def loggedDelivery : LoggedBatch := { launchDelivery with
  evidence := { launchDelivery.evidence with
    logMessages := [
      "Program 6EF8rrecthR5Dkzon8Nwu78hRvfCKubJ14M5uBEwF6P invoke [1]",
      "Program data: AAAA",
      "Program 6EF8rrecthR5Dkzon8Nwu78hRvfCKubJ14M5uBEwF6P success"] }
  windowTokens := [launchToken loggedTarget] }

def loggedEvidence : DecodedEvidence where
  decoded := { launchCreate with event := loggedCreation }
  rawEvidence := loggedCreation.encode

/-- The log reads as one invocation with one line. -/
theorem loggedDelivery_read :
    (∀ log ∈ loggedDelivery.evidence.logMessages, isLogTruncationMarker log = false) ∧
      loggedDelivery.evidence.logMessages.map tokenOf =
        [.enter SourcePump.pumpProgramId 1, .leaf "Program data: AAAA",
          .exit SourcePump.pumpProgramId] := by
  decide

theorem loggedDelivery_decoded :
    decodeBatchEvents loggedConfig.encoding.decodeBase64 loggedDelivery.evidence .pump =
        .ok ⟨[loggedEvidence], []⟩ ∧
      decodeBatchEvents loggedConfig.encoding.decodeBase64 loggedDelivery.evidence .pumpSwap =
        .ok ⟨[], []⟩ := by
  obtain ⟨untruncated, read⟩ := loggedDelivery_read
  have signed : Text.isBlank "signature" = false := by decide
  constructor
  · have records : scopeProgramDataLogs SourcePump.PumpProgram.pump.programId 7 none "signature"
        loggedDelivery.evidence.logMessages =
          .ok [scopedAt 7 none "signature" 0 0 "Program data: AAAA"] :=
      scopeProgramDataLogs_of_tokens _ _ _ signed untruncated read (by decide +kernel)
    rw [decodeBatchEvents_of_records _ .pump loggedDelivery.evidence rfl records]
    decide +kernel
  · have records : scopeProgramDataLogs SourcePump.PumpProgram.pumpSwap.programId 7 none
        "signature" loggedDelivery.evidence.logMessages = .ok [] :=
      scopeProgramDataLogs_of_tokens _ _ _ signed untruncated read (by decide)
    rw [decodeBatchEvents_of_records _ .pumpSwap loggedDelivery.evidence rfl records]
    rfl

/-- The processing of the delivery starts with the selection of its creation. -/
theorem start_logged (state : ProcessorState) : start loggedConfig loggedDelivery state =
    { processing := { state, inserted := 0, complete := true, selectedEvents := 0 }
      remaining := []
      phase := .selecting loggedEvidence loggedDelivery.windowTokens } := by
  obtain ⟨pump, pumpSwap⟩ := loggedDelivery_decoded
  unfold start
  rw [if_neg (by decide), decodePrograms_clean pump pumpSwap]
  rfl

/-- The window of the creation is provisional in a registry of limited size. -/
def provisionedState (maximumActive : Nat) (positive : 0 < maximumActive) : ProcessorState :=
  { launchState with
    database := Persistence.databaseAfter (fun _ => true)
      [.bindNetwork .solanaMainnet, .addQualificationRevision 1]
    windows := ((ObservationWindowRegistry.new maximumActive positive).provisionTarget loggedTarget
      "mint" 100 60000).2 }

/-- Another window is provisioned between the opening of the window and the confirmation. -/
def provisionedMeanwhile : List InterleavedAction :=
  List.replicate 4 .proceed ++
    [.task (.provisionTarget (.pumpMint "other") "other" 200 60000)] ++
    List.replicate 7 .proceed

/-- The processing of the delivery next to the other provision. -/
def loggedRun (maximumActive : Nat) (positive : 0 < maximumActive) : InterleavedProcessing :=
  run (step loggedConfig loggedDelivery)
    (start loggedConfig loggedDelivery (provisionedState maximumActive positive))
    provisionedMeanwhile

theorem loggedRun_undisturbed : Along (step loggedConfig loggedDelivery)
      (IsUndisturbed loggedConfig loggedDelivery)
      (start loggedConfig loggedDelivery (provisionedState 2 (by decide))) provisionedMeanwhile ∧
    (loggedRun 2 (by decide)).phase.hasReturned = true ∧
    ((loggedRun 2 (by decide)).processing.state.database.windows.lookup 1).isSome = true := by
  rw [loggedRun, start_logged]
  decide

/-- With room for both windows the creation is processed. -/
theorem undisturbed_identifies_logged :
    (loggedRun 2 (by decide)).phase.lifecycleError = none ∧
      ∃ token ∈ loggedDelivery.windowTokens,
        IsIdentified (loggedRun 2 (by decide)).windows token 1 := by
  obtain ⟨undisturbed, returned, stored⟩ := loggedRun_undisturbed
  obtain ⟨succeeds, identified⟩ := undisturbed_identifies loggedConfig loggedDelivery
    (provisionedState 2 (by decide)) (@ReachableRegistry.hydrated [] [] .empty rfl)
    (by decide +kernel) (by decide +kernel) provisionedMeanwhile undisturbed
  rw [loggedRun] at returned stored ⊢
  obtain ⟨row, present⟩ := Option.isSome_iff_exists.mp stored
  exact ⟨succeeds, identified returned 1 row present (by decide +kernel)⟩

/-- A full registry evicts the pending token whose window is open: the processing fails, and the
active window has no token. -/
theorem evicted_before_confirmation :
    (loggedRun 1 (by decide)).phase.lifecycleError = some unconfirmedToken ∧
      (provisionedState 1 (by decide)).database.windows.lookup 1 = none ∧
      ((loggedRun 1 (by decide)).processing.state.database.windows.lookup 1).map
        (fun row => row.status) = some .active ∧
      ∀ token ∈ loggedDelivery.windowTokens,
        ¬ IsIdentified (loggedRun 1 (by decide)).windows token 1 := by
  rw [loggedRun, start_logged]
  decide +kernel

end InterleavedProcessing
end Soldisco.Pipeline

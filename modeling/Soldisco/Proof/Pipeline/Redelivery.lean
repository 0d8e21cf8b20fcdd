import Soldisco.Proof.Persistence.Replay
import Soldisco.Proof.Pipeline.QuarantineContent
import Soldisco.Proof.Pipeline.WrittenEvents

/-
This file proves when a second delivery of a tracked batch changes nothing: no selected trade is on
a mint that the batch itself retires.
-/

namespace Soldisco.Pipeline
open Domain Window Intake Accumulation MachineInteger
open Persistence (Database Observation FactsExtended Redeliverable ChainChecked)

section Markets

/-- The market that the normalization of an event looks up. -/
def marketKey : SourcePump.PumpEvent → Option MarketLookupKey
  | .trade event => some (.pumpMint event.mint)
  | .pumpSwapBuy event => some (.pumpSwapPool event.pool)
  | .pumpSwapSell event => some (.pumpSwapPool event.pool)
  | .pumpSwapDeposit event => some (.pumpSwapPool event.pool)
  | .pumpSwapWithdraw event => some (.pumpSwapPool event.pool)
  | .create _ | .complete _ | .completePumpAmmMigration _ | .pumpSwapCreatePool _ => none

variable {network : Network} {event : SourcePump.PumpEvent}

/-- The normalization reads no other market. -/
theorem normalizeFields_congr {left right : MarketRegistry}
    (same : ∀ key, marketKey event = some key →
      left.markets.lookup key = right.markets.lookup key) :
    normalizeFields network left event = normalizeFields network right event := by
  cases event with
  | create _ => rfl
  | complete _ => rfl
  | completePumpAmmMigration _ => rfl
  | pumpSwapCreatePool _ => rfl
  | trade trade =>
      have found := same _ rfl
      simp only [normalizeFields, MarketRegistry.pumpMarket, found]
  | pumpSwapBuy trade =>
      have found := same _ rfl
      simp only [normalizeFields, orientedPool, MarketRegistry.pumpSwapMarket, found]
  | pumpSwapSell trade =>
      have found := same _ rfl
      simp only [normalizeFields, orientedPool, MarketRegistry.pumpSwapMarket, found]
  | pumpSwapDeposit deposit =>
      have found := same _ rfl
      simp only [normalizeFields, orientedPool, MarketRegistry.pumpSwapMarket, found]
  | pumpSwapWithdraw withdrawal =>
      have found := same _ rfl
      simp only [normalizeFields, orientedPool, MarketRegistry.pumpSwapMarket, found]

theorem orientedPool_known {markets : MarketRegistry} {pool : String}
    {found : MarketIdentity × PumpSwapSourceOrientation}
    (oriented : orientedPool markets pool = .ok found) :
    markets.markets.lookup (.pumpSwapPool pool) ≠ none := by
  intro absent
  unfold orientedPool MarketRegistry.pumpSwapMarket at oriented
  rw [absent] at oriented
  cases oriented

/-- A normalized event is on a known market. -/
theorem normalizeFields_known {markets : MarketRegistry} {fields : NormalizedFields}
    (normalizes : normalizeFields network markets event = .ok fields) :
    ∀ key, marketKey event = some key → markets.markets.lookup key ≠ none := by
  intro key read
  cases event with
  | create _ => cases read
  | complete _ => cases read
  | completePumpAmmMigration _ => cases read
  | pumpSwapCreatePool _ => cases read
  | trade trade =>
      cases read
      obtain ⟨-, -, normalizes⟩ := bind_eq_ok.mp normalizes
      obtain ⟨market, known, -⟩ := bind_eq_ok.mp normalizes
      intro absent
      unfold MarketRegistry.pumpMarket at known
      rw [absent] at known
      cases known
  | pumpSwapBuy trade =>
      cases read
      obtain ⟨-, -, normalizes⟩ := bind_eq_ok.mp normalizes
      obtain ⟨found, oriented, -⟩ := bind_eq_ok.mp normalizes
      exact orientedPool_known oriented
  | pumpSwapSell trade =>
      cases read
      obtain ⟨-, -, normalizes⟩ := bind_eq_ok.mp normalizes
      obtain ⟨found, oriented, -⟩ := bind_eq_ok.mp normalizes
      exact orientedPool_known oriented
  | pumpSwapDeposit deposit =>
      cases read
      obtain ⟨found, oriented, -⟩ := bind_eq_ok.mp normalizes
      exact orientedPool_known oriented
  | pumpSwapWithdraw withdrawal =>
      cases read
      obtain ⟨found, oriented, -⟩ := bind_eq_ok.mp normalizes
      exact orientedPool_known oriented

/-- A tracked event discovers no market. -/
theorem normalizeFields_tracked {markets : MarketRegistry} {fields : NormalizedFields}
    (tracked : eventTrackingTarget (intakeEvent event) ≠ none)
    (normalizes : normalizeFields network markets event = .ok fields) :
    fields.discoveredMarket = none := by
  cases event with
  | create _ => exact absurd rfl tracked
  | pumpSwapCreatePool _ => exact absurd rfl tracked
  | complete _ => cases normalizes; rfl
  | completePumpAmmMigration _ => cases normalizes; rfl
  | trade trade =>
      obtain ⟨-, -, normalizes⟩ := bind_eq_ok.mp normalizes
      obtain ⟨market, -, normalizes⟩ := bind_eq_ok.mp normalizes
      split at normalizes
      · cases normalizes
      · cases normalizes
        rfl
  | pumpSwapBuy trade =>
      obtain ⟨-, -, normalizes⟩ := bind_eq_ok.mp normalizes
      obtain ⟨found, -, normalizes⟩ := bind_eq_ok.mp normalizes
      cases normalizes
      rfl
  | pumpSwapSell trade =>
      obtain ⟨-, -, normalizes⟩ := bind_eq_ok.mp normalizes
      obtain ⟨found, -, normalizes⟩ := bind_eq_ok.mp normalizes
      cases normalizes
      rfl
  | pumpSwapDeposit deposit =>
      obtain ⟨found, -, normalizes⟩ := bind_eq_ok.mp normalizes
      cases normalizes
      rfl
  | pumpSwapWithdraw withdrawal =>
      obtain ⟨found, -, normalizes⟩ := bind_eq_ok.mp normalizes
      cases normalizes
      rfl

end Markets

section Events

variable {encoding : EvidenceEncoding} {decoded : SourcePump.DecodedPumpEvent} {network : Network}
  {commitment : Persistence.Commitment} {receivedTimeUnixMs : Int} {rawEvidence : List UInt8}
  {markets : MarketRegistry} {normalized : NormalizedPumpEvent}

/-- The normalized event as it is delivered at another time. -/
def NormalizedPumpEvent.receivedAt (normalized : NormalizedPumpEvent) (receivedTimeUnixMs : Int) :
    NormalizedPumpEvent :=
  { normalized with observation := { normalized.observation with receivedTimeUnixMs } }

theorem normalizePumpEvent_congr {others : MarketRegistry}
    (same : ∀ key, marketKey decoded.event = some key →
      others.markets.lookup key = markets.markets.lookup key) :
    normalizePumpEvent encoding decoded network commitment receivedTimeUnixMs rawEvidence others =
      normalizePumpEvent encoding decoded network commitment receivedTimeUnixMs rawEvidence
        markets := by
  unfold normalizePumpEvent
  rw [normalizeFields_congr same]

/-- A later delivery normalizes to the same event. -/
theorem normalizePumpEvent_receivedAt
    (normalizes : normalizePumpEvent encoding decoded network commitment receivedTimeUnixMs
      rawEvidence markets = .ok normalized) (later : Int) :
    normalizePumpEvent encoding decoded network commitment later rawEvidence markets =
      .ok (normalized.receivedAt later) := by
  obtain ⟨fields, read, done⟩ := bind_eq_ok.mp normalizes
  cases done
  unfold normalizePumpEvent
  rw [read]
  rfl

theorem normalizePumpEvent_known
    (normalizes : normalizePumpEvent encoding decoded network commitment receivedTimeUnixMs
      rawEvidence markets = .ok normalized) :
    ∀ key, marketKey decoded.event = some key → markets.markets.lookup key ≠ none := by
  obtain ⟨fields, read, -⟩ := bind_eq_ok.mp normalizes
  exact normalizeFields_known read

theorem normalizePumpEvent_tracked
    (tracked : eventTrackingTarget (intakeEvent decoded.event) ≠ none)
    (normalizes : normalizePumpEvent encoding decoded network commitment receivedTimeUnixMs
      rawEvidence markets = .ok normalized) :
    normalized.discoveredMarket = none ∧
      normalized.observation.receivedTimeUnixMs = receivedTimeUnixMs := by
  obtain ⟨fields, read, done⟩ := bind_eq_ok.mp normalizes
  cases done
  exact ⟨normalizeFields_tracked tracked read, rfl⟩

/-- An event that is normalized with fewer markets is normalized alike with all of them. -/
theorem normalizePumpEvent_of_fewer {fewer : MarketRegistry}
    (normalizes : normalizePumpEvent encoding decoded network commitment receivedTimeUnixMs
      rawEvidence fewer = .ok normalized)
    (kept : ∀ key, fewer.markets.lookup key = none ∨
      fewer.markets.lookup key = markets.markets.lookup key) :
    normalizePumpEvent encoding decoded network commitment receivedTimeUnixMs rawEvidence markets =
      .ok normalized := by
  have known := normalizePumpEvent_known normalizes
  refine Eq.trans (normalizePumpEvent_congr ?_) normalizes
  intro key read
  rcases kept key with absent | same
  · exact absurd absent (known key read)
  · exact same.symm

end Events

section Step

variable {config : ProcessingConfig} {batch : LoggedBatch}

/-- The durable window that activity of a market joins. -/
def LoggedBatch.deliveryWindow (batch : LoggedBatch) (windows : ObservationWindowRegistry)
    (market : MarketIdentity) : Option Int :=
  (batch.matchingWindowToken windows market).bind fun token =>
    (windows.cell token).durableWindowId

/-- A tracked batch selects what its confirmed tokens match. -/
theorem LoggedBatch.selects_eq (tracked : batch.purpose = .trackedActivity)
    (windows : ObservationWindowRegistry) (event : SourcePump.PumpEvent) :
    batch.selects config windows event = eventMatchesConfirmedWindow windows (intakeEvent event)
      batch.windowTokens batch.receivedTimeUnixMs := by
  unfold LoggedBatch.selects batchSelectsEvent
  rw [show (batch.decoded config).purpose = .trackedActivity from tracked]
  rfl

/-- A tracked batch selects tracked events only. -/
theorem LoggedBatch.selects_tracked (tracked : batch.purpose = .trackedActivity)
    {windows : ObservationWindowRegistry} {event : SourcePump.PumpEvent}
    (selected : batch.selects config windows event = true) :
    eventTrackingTarget (intakeEvent event) ≠ none := by
  intro untracked
  rw [LoggedBatch.selects_eq tracked, eventMatchesConfirmedWindow, untracked] at selected
  cases selected

theorem storeActivityEvent_eq_ok {state next : ProcessorState} {event : DecodedEvidence}
    {observation : Observation} {matching : Option ObservationWindowToken} {isNew : Bool}
    (accepted : storeActivityEvent config state event observation matching = .ok (isNew, next)) :
    ∃ database, next = { state with database } ∧ FactsExtended state.database database ∧
      Redeliverable config.isBase64 database
        (matching.bind fun token => (state.windows.cell token).durableWindowId) observation := by
  unfold storeActivityEvent at accepted
  obtain ⟨⟨new, database⟩, stored, done⟩ := bind_eq_ok.mp accepted
  cases done
  refine ⟨database, rfl, ?_⟩
  cases window : matching.bind fun token => (state.windows.cell token).durableWindowId with
  | some windowId =>
      rw [window] at stored
      exact Persistence.insertWindowObservation_redeliverable (mapError_eq_ok.mp stored)
  | none =>
      rw [window] at stored
      exact Persistence.insertObservation_redeliverable (mapError_eq_ok.mp stored)

/-- Activity of an identified token goes to its window. -/
theorem storeActivityEvent_window {state : ProcessorState} (event : DecodedEvidence)
    {observation : Observation} {matching : Option ObservationWindowToken} {windowId : Int}
    {isNew : Bool} {database : Database}
    (window : (matching.bind fun token => (state.windows.cell token).durableWindowId) =
      some windowId)
    (stored : Persistence.insertWindowObservation config.isBase64 (config.now event) state.database
      windowId observation = .ok (isNew, database)) :
    storeActivityEvent config state event observation matching =
      .ok (isNew, { state with database }) := by
  unfold storeActivityEvent
  rw [window]
  dsimp only
  rw [stored]
  rfl

/-- Redelivered activity changes nothing. -/
theorem storeActivityEvent_redelivered {state : ProcessorState} (event : DecodedEvidence)
    {observation : Observation} {matching : Option ObservationWindowToken}
    (redeliverable : Redeliverable config.isBase64 state.database
      (matching.bind fun token => (state.windows.cell token).durableWindowId) observation)
    {later : Int} (notEarlier : observation.receivedTimeUnixMs ≤ later) :
    storeActivityEvent config state event { observation with receivedTimeUnixMs := later }
      matching = .ok (false, state) := by
  cases window : matching.bind fun token => (state.windows.cell token).durableWindowId with
  | some windowId =>
      rw [window] at redeliverable
      exact storeActivityEvent_window event window
        (redeliverable.insertWindowObservation _ notEarlier)
  | none =>
      rw [window] at redeliverable
      unfold storeActivityEvent
      rw [window]
      dsimp only
      rw [redeliverable.insertObservation _ notEarlier]
      rfl

theorem registerPool_tracked (state : ProcessorState) (coordinate : ChainCoordinate)
    (discovered : Option MarketIdentity) {event : SourcePump.PumpEvent}
    (tracked : eventTrackingTarget (intakeEvent event) ≠ none) :
    registerPool config state coordinate discovered event = .ok state := by
  cases event with
  | pumpSwapCreatePool _ => exact absurd rfl tracked
  | _ => rfl

/-- One pass over an event of a tracked batch that stays complete. -/
inductive TrackedStep (config : ProcessingConfig) (batch : LoggedBatch)
    (processing : BatchProcessing) (event : DecodedEvidence) : BatchProcessing → Prop
  | skipped
      (unselected : batch.selects config processing.state.windows event.decoded.event = false) :
      TrackedStep config batch processing event processing
  | stored {normalized : NormalizedPumpEvent} {database : Database} {inserted : Nat}
      (selected : batch.selects config processing.state.windows event.decoded.event = true)
      (normalizes : normalizePumpEvent config.encoding event.decoded config.network
        config.commitment batch.receivedTimeUnixMs event.rawEvidence processing.state.markets =
          .ok normalized)
      (extended : FactsExtended processing.state.database database)
      (redeliverable : Redeliverable config.isBase64 database (batch.deliveryWindow
        processing.state.windows normalized.observation.market) normalized.observation) :
      TrackedStep config batch processing event {
        state := retireMarket { processing.state with database } event.decoded.event
        inserted
        complete := processing.complete
        selectedEvents := processing.selectedEvents + 1 }

theorem storeNormalized_tracked {processing next : BatchProcessing} {event : DecodedEvidence}
    {normalized : NormalizedPumpEvent}
    (tracked : eventTrackingTarget (intakeEvent event.decoded.event) ≠ none)
    (undiscovered : normalized.discoveredMarket = none)
    (accepted : storeNormalized config batch processing event normalized = .ok next) :
    ∃ database inserted, FactsExtended processing.state.database database ∧
      Redeliverable config.isBase64 database (batch.deliveryWindow processing.state.windows
        normalized.observation.market) normalized.observation ∧
      next = { processing with
        state := retireMarket { processing.state with database } event.decoded.event
        inserted } := by
  unfold storeNormalized storeObservation at accepted
  rw [undiscovered] at accepted
  obtain ⟨⟨stored, state⟩, storing, accepted⟩ := bind_eq_ok.mp accepted
  obtain ⟨⟨isNew, kept⟩, activity, done⟩ := bind_eq_ok.mp storing
  cases done
  obtain ⟨database, rfl, extended, redeliverable⟩ := storeActivityEvent_eq_ok activity
  dsimp only at accepted
  rw [registerPool_tracked _ _ _ tracked] at accepted
  cases accepted
  exact ⟨database, _, extended, redeliverable, rfl⟩

theorem processEvent_tracked (tracked : batch.purpose = .trackedActivity)
    {processing next : BatchProcessing} {event : DecodedEvidence}
    (accepted : processEvent config batch processing event = .ok next)
    (complete : next.complete = true) : TrackedStep config batch processing event next := by
  unfold processEvent at accepted
  cases selected : batch.selects config processing.state.windows event.decoded.event with
  | false =>
      rw [selected] at accepted
      cases accepted
      exact .skipped selected
  | true =>
      rw [selected] at accepted
      have target := LoggedBatch.selects_tracked tracked selected
      dsimp only [Bool.not_true, Bool.false_eq_true, if_false] at accepted
      cases normalizes : normalizePumpEvent config.encoding event.decoded config.network
          config.commitment batch.receivedTimeUnixMs event.rawEvidence
          processing.state.markets with
      | ok normalized =>
          rw [normalizes] at accepted
          obtain ⟨database, inserted, extended, redeliverable, rfl⟩ := storeNormalized_tracked target
            (normalizePumpEvent_tracked target normalizes).1 accepted
          exact .stored selected normalizes extended redeliverable
      | error error =>
          rw [normalizes] at accepted
          dsimp only at accepted
          cases reason : quarantineReason error with
          | none =>
              rw [reason] at accepted
              cases accepted
          | some reasonCode =>
              rw [reason] at accepted
              obtain ⟨state, -, done⟩ := bind_eq_ok.mp accepted
              cases done
              cases complete

end Step

section Run

variable (config : ProcessingConfig) (batch : LoggedBatch) (windows : ObservationWindowRegistry)

/-- The markets that the selected events retire. -/
def retiredKeys (events : List DecodedEvidence) : List MarketLookupKey :=
  (events.filter fun event => batch.selects config windows event.decoded.event).filterMap
    fun event => (retiredPumpMint event.decoded.event).map .pumpMint

theorem mem_retiredKeys {events : List DecodedEvidence} {mint : String} :
    .pumpMint mint ∈ retiredKeys config batch windows events ↔
      ∃ event ∈ events, batch.selects config windows event.decoded.event = true ∧
        retiredPumpMint event.decoded.event = some mint := by
  simp [retiredKeys, and_assoc]

theorem mem_retiredKeys_cons {event : DecodedEvidence} {rest : List DecodedEvidence}
    {key : MarketLookupKey} : key ∈ retiredKeys config batch windows (event :: rest) ↔
      batch.selects config windows event.decoded.event = true ∧
        (retiredPumpMint event.decoded.event).map .pumpMint = some key ∨
      key ∈ retiredKeys config batch windows rest := by
  simp only [retiredKeys, List.mem_filterMap, List.mem_filter, List.mem_cons]
  constructor
  · rintro ⟨other, ⟨rfl | later, selected⟩, found⟩
    · exact .inl ⟨selected, found⟩
    · exact .inr ⟨other, ⟨later, selected⟩, found⟩
  · rintro (⟨selected, found⟩ | ⟨other, ⟨later, selected⟩, found⟩)
    · exact ⟨event, ⟨.inl rfl, selected⟩, found⟩
    · exact ⟨other, ⟨.inr later, selected⟩, found⟩

theorem pumpMint_of_mem_retiredKeys {events : List DecodedEvidence} {key : MarketLookupKey}
    (retired : key ∈ retiredKeys config batch windows events) : ∃ mint, key = .pumpMint mint := by
  obtain ⟨event, -, found⟩ := List.mem_filterMap.mp retired
  obtain ⟨mint, -, same⟩ := Option.map_eq_some_iff.mp found
  exact ⟨mint, same.symm⟩

/-- What a complete run over the events of a tracked batch leaves. -/
structure TrackedRun (start : BatchProcessing) (events : List DecodedEvidence)
    (final : BatchProcessing) : Prop where
  complete : start.complete = true
  windows : final.state.windows = start.state.windows
  facts : FactsExtended start.state.database final.state.database
  selected : final.selectedEvents = start.selectedEvents + events.countP fun event =>
    batch.selects config start.state.windows event.decoded.event
  markets : ∀ key, final.state.markets.markets.lookup key =
    if key ∈ retiredKeys config batch start.state.windows events then none
    else start.state.markets.markets.lookup key
  delivered : ∀ event ∈ events,
    batch.selects config start.state.windows event.decoded.event = true →
    ∃ normalized, normalizePumpEvent config.encoding event.decoded config.network config.commitment
        batch.receivedTimeUnixMs event.rawEvidence start.state.markets = .ok normalized ∧
      Redeliverable config.isBase64 final.state.database (batch.deliveryWindow start.state.windows
        normalized.observation.market) normalized.observation

variable {config batch}

theorem retireMarket_windows (state : ProcessorState) (event : SourcePump.PumpEvent) :
    (retireMarket state event).windows = state.windows := by
  unfold retireMarket
  split <;> rfl

theorem retireMarket_database (state : ProcessorState) (event : SourcePump.PumpEvent) :
    (retireMarket state event).database = state.database := by
  unfold retireMarket
  split <;> rfl

theorem retireMarket_lookup (state : ProcessorState) (event : SourcePump.PumpEvent)
    (key : MarketLookupKey) : (retireMarket state event).markets.markets.lookup key =
      if (retiredPumpMint event).map .pumpMint = some key then none
      else state.markets.markets.lookup key := by
  unfold retireMarket
  cases retires : retiredPumpMint event with
  | none => simp
  | some mint =>
      by_cases same : MarketLookupKey.pumpMint mint = key
      · subst same
        simp [MarketRegistry.retirePumpMarket]
      · rw [if_neg (by simpa using same)]
        exact AList.lookup_erase_ne (Ne.symm same)

/-- A step before a complete run makes a complete run. -/
theorem TrackedStep.run {start next final : BatchProcessing} {event : DecodedEvidence}
    {rest : List DecodedEvidence} (step : TrackedStep config batch start event next)
    (run : TrackedRun config batch next rest final) :
    TrackedRun config batch start (event :: rest) final := by
  cases step with
  | skipped unselected =>
      exact {
        complete := run.complete
        windows := run.windows
        facts := run.facts
        selected := by
          rw [List.countP_cons_of_neg (by simpa using unselected)]
          exact run.selected
        markets := by
          intro key
          rw [run.markets key]
          simp only [mem_retiredKeys_cons, unselected, Bool.false_eq_true, false_and, false_or]
        delivered := by
          intro other member selected
          rcases List.mem_cons.mp member with rfl | later
          · rw [unselected] at selected
            cases selected
          · exact run.delivered other later selected }
  | @stored normalized database inserted selected normalizes extended redeliverable =>
      have sameWindows : (retireMarket { start.state with database } event.decoded.event).windows =
          start.state.windows := retireMarket_windows _ _
      have sameDatabase : (retireMarket { start.state with database }
          event.decoded.event).database = database := retireMarket_database _ _
      have lookup : ∀ key, (retireMarket { start.state with database }
          event.decoded.event).markets.markets.lookup key =
            if (retiredPumpMint event.decoded.event).map .pumpMint = some key then none
            else start.state.markets.markets.lookup key := retireMarket_lookup _ _
      generalize retireMarket { start.state with database } event.decoded.event = state at *
      have left := run.markets
      have counted := run.selected
      have facts := run.facts
      dsimp only at left counted facts
      rw [sameWindows] at left counted
      rw [sameDatabase] at facts
      exact {
        complete := run.complete
        windows := run.windows.trans sameWindows
        facts := extended.trans facts
        selected := by
          rw [List.countP_cons_of_pos (by simpa using selected), counted]
          omega
        markets := by
          intro key
          rw [left key, lookup key]
          simp only [mem_retiredKeys_cons, selected, true_and]
          by_cases later : key ∈ retiredKeys config batch start.state.windows rest
          · rw [if_pos later, if_pos (.inr later)]
          · rw [if_neg later]
            simp only [later, or_false]
        delivered := by
          intro other member chosen
          rcases List.mem_cons.mp member with rfl | later
          · refine ⟨normalized, normalizes, ?_⟩
            exact redeliverable.extended facts
          · have remaining := run.delivered
            dsimp only at remaining
            rw [sameWindows] at remaining
            obtain ⟨other, read, kept⟩ := remaining other later chosen
            refine ⟨other, normalizePumpEvent_of_fewer read ?_, kept⟩
            intro key
            rw [lookup]
            split
            · exact .inl rfl
            · exact .inr rfl }

theorem trackedRun_of_foldlM (tracked : batch.purpose = .trackedActivity)
    {events : List DecodedEvidence} {start final : BatchProcessing}
    (folded : events.foldlM (processEvent config batch) start = .ok final)
    (complete : final.complete = true) : TrackedRun config batch start events final := by
  induction events generalizing start with
  | nil =>
      cases folded
      exact {
        complete
        windows := rfl
        facts := .refl _
        selected := rfl
        markets := fun _ => rfl
        delivered := fun _ member => nomatch member }
  | cons event rest ih =>
      obtain ⟨next, passed, folded⟩ := foldlM_cons_eq_ok.mp folded
      have run := ih folded
      exact (processEvent_tracked tracked passed run.complete).run run

end Run

section Redelivery

variable {config : ProcessingConfig} {batch : LoggedBatch} {later : Int}
  {before after : ObservationWindowRegistry}

/-- The same batch as it is received again. -/
def LoggedBatch.redelivered (batch : LoggedBatch) (later : Int) : LoggedBatch :=
  { batch with receivedTimeUnixMs := later }

/-- The same configuration at other times of the database. -/
def ProcessingConfig.storedAt (config : ProcessingConfig) (now : DecodedEvidence → Int) :
    ProcessingConfig :=
  { config with now }

/-- At its second receipt the tokens of the batch answer as they did at its first: they are still
confirmed, and their windows are still open. -/
structure SameStanding (batch : LoggedBatch) (later : Int)
    (before after : ObservationWindowRegistry) : Prop where
  confirmed : ∀ token ∈ batch.windowTokens,
    (after.cell token).isConfirmedAt token.window later =
      (before.cell token).isConfirmedAt token.window batch.receivedTimeUnixMs
  opened : ∀ token ∈ batch.windowTokens,
    after.isOpenAt token later = before.isOpenAt token batch.receivedTimeUnixMs
  identified : ∀ token ∈ batch.windowTokens,
    (after.cell token).durableWindowId = (before.cell token).durableWindowId

namespace SameStanding

theorem selects (standing : SameStanding batch later before after)
    (tracked : batch.purpose = .trackedActivity) (event : SourcePump.PumpEvent) :
    (batch.redelivered later).selects config after event = batch.selects config before event := by
  have matched : eventMatchesConfirmedWindow after (intakeEvent event) batch.windowTokens later =
      eventMatchesConfirmedWindow before (intakeEvent event) batch.windowTokens
        batch.receivedTimeUnixMs := by
    unfold eventMatchesConfirmedWindow
    split
    · rfl
    · rw [Bool.eq_iff_iff, List.any_eq_true, List.any_eq_true]
      apply exists_congr
      intro token
      apply and_congr_right
      intro member
      rw [standing.confirmed token member]
  rw [LoggedBatch.selects_eq tracked,
    @LoggedBatch.selects_eq config (batch.redelivered later) tracked]
  exact matched

theorem matchingWindowToken (standing : SameStanding batch later before after)
    (market : MarketIdentity) :
    (batch.redelivered later).matchingWindowToken after market =
      batch.matchingWindowToken before market := by
  unfold LoggedBatch.matchingWindowToken
  congr 1
  funext target
  have tokens : ∀ token ∈ batch.windowTokens, after.isOpenAt token later =
      before.isOpenAt token batch.receivedTimeUnixMs := standing.opened
  change batch.windowTokens.find? _ = batch.windowTokens.find? _
  generalize batch.windowTokens = windowTokens at tokens
  induction windowTokens with
  | nil => rfl
  | cons token rest ih =>
      have first := tokens token List.mem_cons_self
      rw [List.find?_cons, List.find?_cons, ih fun other member =>
        tokens other (List.mem_cons_of_mem _ member)]
      change (match token.target == target && after.isOpenAt token later with
        | true => _
        | false => _) = _
      rw [first]
      rfl

theorem deliveryWindow (standing : SameStanding batch later before after)
    (market : MarketIdentity) :
    (batch.redelivered later).deliveryWindow after market = batch.deliveryWindow before market := by
  unfold LoggedBatch.deliveryWindow
  rw [standing.matchingWindowToken]
  cases found : batch.matchingWindowToken before market with
  | none => rfl
  | some token =>
      obtain ⟨target, -, chosen⟩ := Option.bind_eq_some_iff.mp found
      exact standing.identified token (List.mem_of_find?_eq_some chosen)

end SameStanding

/-- A selected event whose second delivery finds its market and its stored fact, and whose market is
retired already. -/
def Redelivers (config : ProcessingConfig) (batch : LoggedBatch)
    (before : ObservationWindowRegistry) (state : ProcessorState) (event : DecodedEvidence) :
    Prop :=
  batch.selects config before event.decoded.event = true →
    (∃ normalized, normalizePumpEvent config.encoding event.decoded config.network config.commitment
        batch.receivedTimeUnixMs event.rawEvidence state.markets = .ok normalized ∧
      Redeliverable config.isBase64 state.database (batch.deliveryWindow before
        normalized.observation.market) normalized.observation) ∧
    ∀ mint, retiredPumpMint event.decoded.event = some mint →
      state.markets.markets.lookup (.pumpMint mint) = none

theorem retireMarket_retired {state : ProcessorState} {event : SourcePump.PumpEvent}
    (retired : ∀ mint, retiredPumpMint event = some mint →
      state.markets.markets.lookup (.pumpMint mint) = none) :
    retireMarket state event = state := by
  unfold retireMarket
  cases retires : retiredPumpMint event with
  | none => rfl
  | some mint =>
      dsimp only [MarketRegistry.retirePumpMarket]
      rw [AList.erase_of_lookup_none (retired mint retires)]

/-- Stored activity is counted when it is new, and then retires its market. -/
theorem storeNormalized_activity {processing : BatchProcessing} {event : DecodedEvidence}
    {normalized : NormalizedPumpEvent}
    (tracked : eventTrackingTarget (intakeEvent event.decoded.event) ≠ none)
    (undiscovered : normalized.discoveredMarket = none) {isNew : Bool} {state : ProcessorState}
    (stored : storeActivityEvent config processing.state event normalized.observation
      (batch.matchingWindowToken processing.state.windows normalized.observation.market) =
        .ok (isNew, state)) :
    storeNormalized config batch processing event normalized = .ok { processing with
      inserted := processing.inserted + isNew.toNat
      state := retireMarket state event.decoded.event } := by
  have observed : storeObservation config processing.state event normalized
      (batch.matchingWindowToken processing.state.windows normalized.observation.market) =
        .ok (some isNew, state) := by
    unfold storeObservation
    rw [undiscovered, stored]
    rfl
  unfold storeNormalized
  dsimp only
  rw [observed, undiscovered]
  change (registerPool config state event.decoded.coordinate none event.decoded.event >>= _) = _
  rw [registerPool_tracked _ _ _ tracked]
  cases isNew with
  | true => rfl
  | false => rfl

/-- A selected event of a tracked batch is normalized, stored and counted. -/
theorem processEvent_activity {processing : BatchProcessing} {event : DecodedEvidence}
    {normalized : NormalizedPumpEvent}
    (tracked : batch.purpose = .trackedActivity)
    (selected : batch.selects config processing.state.windows event.decoded.event = true)
    (normalizes : normalizePumpEvent config.encoding event.decoded config.network
      config.commitment batch.receivedTimeUnixMs event.rawEvidence processing.state.markets =
        .ok normalized) {isNew : Bool} {state : ProcessorState}
    (stored : storeActivityEvent config processing.state event normalized.observation
      (batch.matchingWindowToken processing.state.windows normalized.observation.market) =
        .ok (isNew, state)) :
    processEvent config batch processing event = .ok { processing with
      inserted := processing.inserted + isNew.toNat
      state := retireMarket state event.decoded.event
      selectedEvents := processing.selectedEvents + 1 } := by
  have target := LoggedBatch.selects_tracked tracked selected
  have kept := @storeNormalized_activity config batch
    { processing with selectedEvents := processing.selectedEvents + 1 } event normalized target
    (normalizePumpEvent_tracked target normalizes).1 isNew state stored
  unfold processEvent
  rw [selected, normalizes]
  exact kept

/-- The second delivery of a selected event counts it and changes nothing else. -/
theorem processEvent_redelivered (tracked : batch.purpose = .trackedActivity)
    (notEarlier : batch.receivedTimeUnixMs ≤ later) (now : DecodedEvidence → Int)
    {processing : BatchProcessing}
    (standing : SameStanding batch later before processing.state.windows)
    {event : DecodedEvidence}
    (redelivers : Redelivers config batch before processing.state event)
    (selected : batch.selects config before event.decoded.event = true) :
    processEvent (config.storedAt now) (batch.redelivered later) processing event =
      .ok { processing with selectedEvents := processing.selectedEvents + 1 } := by
  obtain ⟨⟨normalized, normalizes, redeliverable⟩, retired⟩ := redelivers selected
  have target := LoggedBatch.selects_tracked tracked selected
  have received := (normalizePumpEvent_tracked target normalizes).2
  have again : normalizePumpEvent (config.storedAt now).encoding event.decoded
      (config.storedAt now).network (config.storedAt now).commitment
      (batch.redelivered later).receivedTimeUnixMs event.rawEvidence processing.state.markets =
        .ok (normalized.receivedAt later) :=
    normalizePumpEvent_receivedAt normalizes later
  have chosen : (batch.redelivered later).selects (config.storedAt now) processing.state.windows
      event.decoded.event = true := (standing.selects tracked _).trans selected
  have window := standing.deliveryWindow normalized.observation.market
  rw [← window] at redeliverable
  have stored := @storeActivityEvent_redelivered (config.storedAt now) processing.state event
    normalized.observation ((batch.redelivered later).matchingWindowToken processing.state.windows
      normalized.observation.market) redeliverable later (received.trans_le notEarlier)
  have kept := @processEvent_activity (config.storedAt now) (batch.redelivered later) processing
    event (normalized.receivedAt later) tracked chosen again false processing.state stored
  rw [kept, retireMarket_retired retired]
  rfl

/-- The second run counts the selected events and changes nothing else. -/
theorem foldlM_redelivered (tracked : batch.purpose = .trackedActivity)
    (notEarlier : batch.receivedTimeUnixMs ≤ later) (now : DecodedEvidence → Int)
    {events : List DecodedEvidence} {processing : BatchProcessing}
    (standing : SameStanding batch later before processing.state.windows)
    (redelivers : ∀ event ∈ events, Redelivers config batch before processing.state event) :
    events.foldlM (processEvent (config.storedAt now) (batch.redelivered later)) processing =
      .ok { processing with
        selectedEvents := processing.selectedEvents + events.countP fun event =>
          batch.selects config before event.decoded.event } := by
  induction events generalizing processing with
  | nil => rfl
  | cons event rest ih =>
      have others := fun other member => redelivers other (List.mem_cons_of_mem event member)
      rw [List.foldlM_cons]
      cases selected : batch.selects config before event.decoded.event with
      | true =>
          rw [processEvent_redelivered tracked notEarlier now standing
            (redelivers event List.mem_cons_self) selected]
          rw [List.countP_cons_of_pos (by simpa using selected)]
          have rest := @ih { processing with selectedEvents := processing.selectedEvents + 1 }
            standing others
          rw [Nat.add_assoc, Nat.add_comm 1] at rest
          exact rest
      | false =>
          have skipped : processEvent (config.storedAt now) (batch.redelivered later) processing
              event = .ok processing := by
            have unselected : (batch.redelivered later).selects (config.storedAt now)
                processing.state.windows event.decoded.event = false :=
              (standing.selects tracked _).trans selected
            unfold processEvent
            rw [unselected]
            rfl
          rw [skipped, List.countP_cons_of_neg (by simpa using selected)]
          exact ih standing others

end Redelivery

section Batch

variable {config : ProcessingConfig} {state after : ProcessorState} {batch : LoggedBatch}
  {outcome : BatchProcessingOutcome}

/-- A program that decodes without a loss of completeness has no quarantines. -/
theorem decodeProgram_complete {processing next : BatchProcessing × List DecodedEvidence}
    {program : SourcePump.PumpProgram}
    (accepted : decodeProgram config batch processing program = .ok next)
    (complete : next.1.complete = true) :
    ∃ events, decodeBatchEvents config.encoding.decodeBase64 batch.evidence program =
        .ok ⟨events, []⟩ ∧ next = (processing.1, processing.2 ++ events) := by
  unfold decodeProgram at accepted
  simp only [bind_eq_ok, mapError_eq_ok] at accepted
  obtain ⟨⟨events, quarantines⟩, decodes, recorded, recording, done⟩ := accepted
  cases done
  simp only [Bool.and_eq_true, List.isEmpty_iff] at complete
  obtain ⟨before, rfl⟩ := complete
  cases recording
  refine ⟨events, decodes, ?_⟩
  rw [Prod.mk.injEq]
  refine ⟨?_, rfl⟩
  simp

/-- The parts of a complete processing of a tracked batch. -/
structure TrackedBatch (config : ProcessingConfig) (state : ProcessorState) (batch : LoggedBatch)
    (after : ProcessorState) (events : List DecodedEvidence) (final : BatchProcessing) : Prop where
  unfailed : batch.transactionError = false
  decodes : ∃ pump pumpSwap,
    decodeBatchEvents config.encoding.decodeBase64 batch.evidence .pump = .ok ⟨pump, []⟩ ∧
    decodeBatchEvents config.encoding.decodeBase64 batch.evidence .pumpSwap = .ok ⟨pumpSwap, []⟩ ∧
    events = pump ++ pumpSwap
  run : TrackedRun config batch (initialProcessing state batch) (orderedEvidence events) final
  reached : batch.windowTokens.isEmpty = true ∨ final.selectedEvents ≠ 0
  state : after = final.state

theorem processBatch_complete (tracked : batch.purpose = .trackedActivity)
    (processed : processBatch config state batch = .ok (outcome, after))
    (complete : outcome.complete = true) :
    ∃ events final, TrackedBatch config state batch after events final := by
  unfold processBatch at processed
  dsimp only at processed
  cases failed : batch.transactionError with
  | true =>
      rw [failed] at processed
      cases processed
      cases complete
  | false =>
      rw [if_neg (by rw [failed]; exact Bool.false_ne_true)] at processed
      obtain ⟨⟨decoded, events⟩, decoding, processed⟩ := bind_eq_ok.mp processed
      obtain ⟨final, folded, done⟩ := bind_eq_ok.mp processed
      cases done
      simp only [Bool.and_eq_true, Bool.or_eq_true, decide_eq_true_eq] at complete
      have run := trackedRun_of_foldlM tracked folded complete.1
      obtain ⟨middle, first, decoding⟩ := foldlM_cons_eq_ok.mp decoding
      obtain ⟨last, second, decoding⟩ := foldlM_cons_eq_ok.mp decoding
      cases decoding
      obtain ⟨pumpSwap, swapDecodes, pooled⟩ := decodeProgram_complete second run.complete
      cases pooled
      obtain ⟨pump, pumpDecodes, piped⟩ := decodeProgram_complete first run.complete
      cases piped
      refine ⟨_, final, failed, ⟨pump, pumpSwap, pumpDecodes, swapDecodes, rfl⟩, run, complete.2,
        ?_⟩
      rw [cancelPending, tracked]
      rfl

/-- The events of the logs and the instructions of a batch that its tokens select. -/
def LoggedBatch.selectedEvents (config : ProcessingConfig) (windows : ObservationWindowRegistry)
    (batch : LoggedBatch) : List DecodedEvidence :=
  ([SourcePump.PumpProgram.pump, .pumpSwap].flatMap fun program =>
    match decodeBatchEvents config.encoding.decodeBase64 batch.evidence program with
    | .ok decoded => decoded.events
    | .error _ => []).filter fun event => batch.selects config windows event.decoded.event

/-- No selected event is on a Pump market that a selected event retires. -/
def KeepsItsMarkets (config : ProcessingConfig) (windows : ObservationWindowRegistry)
    (batch : LoggedBatch) : Prop :=
  ∀ event ∈ batch.selectedEvents config windows, ∀ other ∈ batch.selectedEvents config windows,
    ∀ mint, marketKey event.decoded.event = some (.pumpMint mint) →
      retiredPumpMint other.decoded.event ≠ some mint

theorem LoggedBatch.mem_selectedEvents {pump pumpSwap : List DecodedEvidence}
    (pumpDecodes : decodeBatchEvents config.encoding.decodeBase64 batch.evidence .pump =
      .ok ⟨pump, []⟩)
    (swapDecodes : decodeBatchEvents config.encoding.decodeBase64 batch.evidence .pumpSwap =
      .ok ⟨pumpSwap, []⟩)
    (windows : ObservationWindowRegistry) {event : DecodedEvidence} :
    event ∈ batch.selectedEvents config windows ↔ event ∈ pump ++ pumpSwap ∧
      batch.selects config windows event.decoded.event = true := by
  rw [LoggedBatch.selectedEvents, List.mem_filter]
  simp only [List.flatMap_cons, List.flatMap_nil, pumpDecodes, swapDecodes, List.append_nil]

theorem TrackedBatch.mem_selectedEvents {events : List DecodedEvidence} {final : BatchProcessing}
    (processed : TrackedBatch config state batch after events final)
    (windows : ObservationWindowRegistry) {event : DecodedEvidence} :
    event ∈ batch.selectedEvents config windows ↔ event ∈ orderedEvidence events ∧
      batch.selects config windows event.decoded.event = true := by
  obtain ⟨pump, pumpSwap, pumpDecodes, swapDecodes, rfl⟩ := processed.decodes
  rw [LoggedBatch.mem_selectedEvents pumpDecodes swapDecodes, orderedEvidence,
    List.mem_insertionSort]

/-- The markets of the selected events outlast the batch. -/
theorem TrackedBatch.market_kept {events : List DecodedEvidence} {final : BatchProcessing}
    (processed : TrackedBatch config state batch after events final)
    (keeps : KeepsItsMarkets config state.windows batch) {event : DecodedEvidence}
    (member : event ∈ orderedEvidence events)
    (selected : batch.selects config state.windows event.decoded.event = true)
    {key : MarketLookupKey} (read : marketKey event.decoded.event = some key) :
    after.markets.markets.lookup key = state.markets.markets.lookup key := by
  rw [processed.state, processed.run.markets key, if_neg]
  · rfl
  · intro retired
    obtain ⟨mint, rfl⟩ := pumpMint_of_mem_retiredKeys config batch _ retired
    obtain ⟨other, listed, chosen, retires⟩ := (mem_retiredKeys config batch _).mp retired
    exact keeps event ((processed.mem_selectedEvents _).mpr ⟨member, selected⟩) other
      ((processed.mem_selectedEvents _).mpr ⟨listed, chosen⟩) mint read retires

theorem TrackedBatch.retired {events : List DecodedEvidence} {final : BatchProcessing}
    (processed : TrackedBatch config state batch after events final) {event : DecodedEvidence}
    (member : event ∈ orderedEvidence events)
    (selected : batch.selects config state.windows event.decoded.event = true) {mint : String}
    (retires : retiredPumpMint event.decoded.event = some mint) :
    after.markets.markets.lookup (.pumpMint mint) = none := by
  rw [processed.state, processed.run.markets, if_pos]
  exact (mem_retiredKeys config batch _).mpr ⟨event, member, selected, retires⟩

/-- Every selected event can be delivered again when the batch keeps its markets. -/
theorem TrackedBatch.redelivers {events : List DecodedEvidence} {final : BatchProcessing}
    (processed : TrackedBatch config state batch after events final)
    (keeps : KeepsItsMarkets config state.windows batch) (windows : ObservationWindowRegistry)
    {event : DecodedEvidence} (member : event ∈ orderedEvidence events) :
    Redelivers config batch state.windows { after with windows } event := by
  intro selected
  obtain ⟨normalized, normalizes, redeliverable⟩ := processed.run.delivered event member selected
  refine ⟨⟨normalized, ?_, ?_⟩, fun mint retires => processed.retired member selected retires⟩
  · refine Eq.trans (normalizePumpEvent_congr ?_) normalizes
    intro key read
    exact processed.market_kept keeps member selected read
  · rw [processed.state]
    exact redeliverable

/-- Logs without quarantines are processed event by event. -/
theorem processBatch_clean {pump pumpSwap : List DecodedEvidence} {final : BatchProcessing}
    (unfailed : batch.transactionError = false)
    (pumpDecodes : decodeBatchEvents config.encoding.decodeBase64 batch.evidence .pump =
      .ok ⟨pump, []⟩)
    (swapDecodes : decodeBatchEvents config.encoding.decodeBase64 batch.evidence .pumpSwap =
      .ok ⟨pumpSwap, []⟩)
    (run : (orderedEvidence (pump ++ pumpSwap)).foldlM (processEvent config batch)
      (initialProcessing state batch) = .ok final) :
    processBatch config state batch = .ok (finishBatch batch final) := by
  have decoding := decodePrograms_clean pumpDecodes swapDecodes (initialProcessing state batch)
  unfold processBatch
  dsimp only
  rw [if_neg (by rw [unfailed]; exact Bool.false_ne_true)]
  change (List.foldlM (decodeProgram config batch) (initialProcessing state batch, []) _ >>= _) = _
  rw [decoding]
  change (List.foldlM (processEvent config batch) (initialProcessing state batch)
    (orderedEvidence (pump ++ pumpSwap)) >>= _) = _
  rw [run]
  rfl

theorem TrackedBatch.processBatch_redelivered {events : List DecodedEvidence}
    {final : BatchProcessing} (processed : TrackedBatch config state batch after events final)
    (tracked : batch.purpose = .trackedActivity) {later : Int}
    (notEarlier : batch.receivedTimeUnixMs ≤ later) {windows : ObservationWindowRegistry}
    (standing : SameStanding batch later state.windows windows)
    (keeps : KeepsItsMarkets config state.windows batch) (now : DecodedEvidence → Int) :
    processBatch (config.storedAt now) { after with windows } (batch.redelivered later) =
      .ok (finishBatch (batch.redelivered later) {
        initialProcessing { after with windows } batch with
        selectedEvents := 0 + (orderedEvidence events).countP fun event =>
          batch.selects config state.windows event.decoded.event }) := by
  obtain ⟨pump, pumpSwap, pumpDecodes, swapDecodes, rfl⟩ := processed.decodes
  have run := @foldlM_redelivered config batch later state.windows tracked notEarlier now
    (orderedEvidence (pump ++ pumpSwap)) (initialProcessing { after with windows } batch) standing
    fun event member => processed.redelivers keeps windows member
  exact @processBatch_clean (config.storedAt now) { after with windows } (batch.redelivered later)
    pump pumpSwap _ processed.unfailed pumpDecodes swapDecodes run

/-- A second delivery that is complete has found every market again. -/
theorem TrackedBatch.keepsItsMarkets {events : List DecodedEvidence} {final : BatchProcessing}
    (first : TrackedBatch config state batch after events final)
    (tracked : batch.purpose = .trackedActivity) {later : Int}
    {windows : ObservationWindowRegistry}
    (standing : SameStanding batch later state.windows windows) {now : DecodedEvidence → Int}
    {again : BatchProcessingOutcome} {unchanged : ProcessorState}
    (repeated : processBatch (config.storedAt now) { after with windows }
      (batch.redelivered later) = .ok (again, unchanged))
    (complete : again.complete = true) : KeepsItsMarkets config state.windows batch := by
  have trackedAgain : (batch.redelivered later).purpose = .trackedActivity := tracked
  obtain ⟨others, last, second⟩ := processBatch_complete trackedAgain repeated complete
  obtain ⟨pump, pumpSwap, pumpDecodes, swapDecodes, rfl⟩ := first.decodes
  obtain ⟨pumpAgain, swapAgain, pumpSame, swapSame, rfl⟩ := second.decodes
  cases pumpDecodes.symm.trans pumpSame
  cases swapDecodes.symm.trans swapSame
  intro event chosen other chosenOther mint read retires
  obtain ⟨member, selected⟩ := (first.mem_selectedEvents _).mp chosen
  obtain ⟨listed, retiring⟩ := (first.mem_selectedEvents _).mp chosenOther
  obtain ⟨normalized, normalizes, -⟩ := second.run.delivered event member
    ((standing.selects tracked _).trans selected)
  exact normalizePumpEvent_known normalizes _ read (first.retired listed retiring retires)

/-- A second delivery of a complete tracked batch is complete and changes nothing exactly when the
batch retires no market of its own events. -/
theorem redelivery_idempotent_iff (tracked : batch.purpose = .trackedActivity)
    (processed : processBatch config state batch = .ok (outcome, after))
    (complete : outcome.complete = true) {later : Int}
    (notEarlier : batch.receivedTimeUnixMs ≤ later) {windows : ObservationWindowRegistry}
    (standing : SameStanding batch later state.windows windows) (now : DecodedEvidence → Int) :
    (∃ again unchanged, processBatch (config.storedAt now) { after with windows }
        (batch.redelivered later) = .ok (again, unchanged) ∧
      again.complete = true ∧ again.inserted = 0 ∧ unchanged.database = after.database ∧
      unchanged.quarantine = after.quarantine) ↔
    KeepsItsMarkets config state.windows batch := by
  obtain ⟨events, final, first⟩ := processBatch_complete tracked processed complete
  obtain ⟨pump, pumpSwap, -, -, rfl⟩ := first.decodes
  constructor
  · rintro ⟨again, unchanged, repeated, stillComplete, -⟩
    exact first.keepsItsMarkets tracked standing repeated stillComplete
  · intro keeps
    have repeated := first.processBatch_redelivered tracked notEarlier standing keeps now
    refine ⟨_, _, repeated, ?_, rfl, rfl, rfl⟩
    change (!batch.transactionError && (batch.windowTokens.isEmpty ||
      decide (0 + (orderedEvidence (pump ++ pumpSwap)).countP (fun event =>
        batch.selects config state.windows event.decoded.event) ≠ 0))) = true
    rw [first.unfailed]
    rcases first.reached with empty | reached
    · rw [empty]
      rfl
    · rw [first.run.selected] at reached
      have positive : 0 + (orderedEvidence (pump ++ pumpSwap)).countP (fun event =>
          batch.selects config state.windows event.decoded.event) ≠ 0 := reached
      rw [decide_eq_true positive, Bool.or_true]
      rfl

end Batch

section Curve
open SourcePump (zeroAddress)

/-- A mint whose curve fills up. -/
def curveMint : String := "4vJ9JU1bJJE96FWSJKvHsmmFADCg4gpZQff4P3bkLKi"

theorem curveMint_isAddress : SourcePump.IsAddress curveMint :=
  ⟨List.replicate 32 1, rfl, by decide⟩

/-- The purchase that fills the curve. -/
def lastPurchase : SourcePump.PumpEvent := .trade {
  mint := curveMint
  legacySolAmount := 1
  tokenAmount := 1
  direction := .buy
  user := zeroAddress
  timestamp := 0
  virtualSolReserves := 0
  virtualTokenReserves := 0
  realSolReserves := 0
  realTokenReserves := 0
  feeRecipient := zeroAddress
  feeBasisPoints := 0
  feeAmount := 0
  creator := zeroAddress
  creatorFeeBasisPoints := 0
  creatorFeeAmount := 0
  trackVolume := false
  totalUnclaimedTokens := 0
  totalClaimedTokens := 0
  currentSolVolume := 0
  lastUpdateTimestamp := 0
  instructionName := "buy"
  mayhemMode := false
  cashbackFeeBasisPoints := 0
  cashbackAmount := 0
  buybackFeeBasisPoints := 0
  buybackFeeAmount := 0
  shareholders := []
  quoteMint := zeroAddress
  quoteAmount := 1
  virtualQuoteReserves := 0
  realQuoteReserves := 0 }

/-- The completion that the same transaction writes after it. -/
def curveCompletion : SourcePump.PumpEvent := .complete {
  user := zeroAddress
  mint := curveMint
  bondingCurve := zeroAddress
  timestamp := 0
  quoteMint := zeroAddress }

def curveMarket : MarketIdentity where
  network := .solanaMainnet
  mint := curveMint
  venue := .pumpBondingCurve
  marketAddress := zeroAddress
  quoteMint := some zeroAddress

def curveToken : ObservationWindowToken where
  generation := 0
  window := {
    target := .pumpMint curveMint
    mint := curveMint
    openedAtUnixMs := 100
    closesAtUnixMs := 60100 }
  address := 0

/-- The notification of a transaction whose first instruction writes the events. -/
def curveBatch (events : List SourcePump.PumpEvent) : LoggedBatch where
  purpose := .trackedActivity
  evidence := {
    slot := 7
    transactionIndex := none
    signature := "completion"
    instructions := []
    logMessages := invocationLogs SourcePump.pumpProgramId (events.map fun event =>
      standardEncoding.encodeBase64 event.encode) }
  receivedTimeUnixMs := 150
  transactionError := false
  windowTokens := [curveToken]

/-- The creation of the market has opened the first window. -/
def curveDatabase : Database := Persistence.databaseAfter (fun _ => true) [
  .bindNetwork .solanaMainnet,
  .addQualificationRevision 1,
  .openDiscoveryWindow 100 { Persistence.launchCreation with market := curveMarket }
    { Persistence.launchWindow with targetAddress := curveMint, closesAtUnixMs := 60100 }]

def curveWindows : ObservationWindowRegistry :=
  let provisioned := ((ObservationWindowRegistry.new 2 (by decide)).provisionTarget
    curveToken.target curveMint 100 60000).2
  provisioned.setCell curveToken ((provisioned.cell curveToken).confirm.2.setDurableWindowId 1).2

def curveState : ProcessorState where
  database := curveDatabase
  quarantine := ∅
  pumpSwapPools := ∅
  markets := ⟨AList.insert (.pumpMint curveMint)
    { identity := curveMarket, pumpSwapSourceOrientation := none } ∅⟩
  windows := curveWindows

/-- The database with one more member of its first window. -/
def joined (db : Database) (observation : Observation) : Database :=
  match Persistence.enqueueDiscoveryWork 1000 (db.addObservation 1000 observation) observation
    db.nextObservationId with
  | .ok queued => queued.insertMembership 1 db.nextObservationId observation.receivedTimeUnixMs
  | .error _ => db

/-- The observation is new and passes the checks that leave its evidence aside. -/
def joinsFirstWindow (db : Database) (observation : Observation) : Bool :=
  observation.key.network = observation.market.network &&
    (Persistence.toI64 observation.key.coordinate.slot "slot").isOk &&
    observation.key.coordinate.transactionIndex = none &&
    db.boundNetwork = some observation.key.network && 0 < observation.schemaVersion &&
    (db.findObservation observation.key).isNone && db.nextObservationId ≤ i64Max &&
    (db.observations.lookup db.nextObservationId).isNone &&
    (db.windows.lookup 1).any (fun window =>
      (Persistence.validateWindowMembership window.toWindowIdentityRow observation).isOk) &&
    (Persistence.enqueueDiscoveryWork 1000 (db.addObservation 1000 observation) observation
      db.nextObservationId).isOk

theorem insertWindowObservation_joined {isBase64 : String → Bool} {db : Database}
    {observation : Observation}
    (evidence : Persistence.validateEvidenceBase64 isBase64 observation.sourceEvidenceBase64
      "source_evidence_base64" = .ok ())
    (joins : joinsFirstWindow db observation = true) :
    Persistence.insertWindowObservation isBase64 1000 db 1 observation =
      .ok (true, joined db observation) := by
  simp only [joinsFirstWindow, Bool.and_eq_true, decide_eq_true_eq, Option.isNone_iff_eq_none,
    Option.any_eq_true] at joins
  obtain ⟨⟨⟨⟨⟨⟨⟨⟨⟨network, slot⟩, unindexed⟩, bound⟩, schema⟩, unknown⟩, fits⟩, free⟩,
    window, found, valid⟩, enqueues⟩ := joins
  obtain ⟨queued, enqueued⟩ := eq_ok_of_isOk enqueues
  obtain ⟨⟨⟩, valid⟩ := eq_ok_of_isOk valid
  have checked : ChainChecked isBase64 db observation :=
    ⟨network, evidence, eq_ok_of_isOk slot, ⟨0, by rw [unindexed]; rfl⟩, bound, schema⟩
  rw [checked.insertWindowObservation_new unknown fits free found valid enqueued, joined, enqueued]

def curveConfig : ProcessingConfig := launchConfig standardEncoding

/-- The evidence of an event of the transaction. -/
def curveEvidence (entry : SourcePump.PumpEvent × Nat) : DecodedEvidence :=
  writtenEvidence (curveBatch []).evidence entry

theorem curveBatch_decodes {events : List SourcePump.PumpEvent}
    (few : events.length < u16Size)
    (valid : ∀ event ∈ events, event.Valid ∧ event.program = .pump) :
    decodeBatchEvents standardEncoding.decodeBase64 (curveBatch events).evidence .pump =
        .ok ⟨events.zipIdx.map curveEvidence, []⟩ ∧
      decodeBatchEvents standardEncoding.decodeBase64 (curveBatch events).evidence .pumpSwap =
        .ok ⟨[], []⟩ := by
  have present : Text.isBlank "completion" = false := by decide
  have decodes := @decodeBatchEvents_written .pump events (curveBatch events).evidence rfl present
    rfl few valid
  exact ⟨decodes .pump, decodes .pumpSwap⟩

/-- The normalized form of an event of the transaction. -/
def curveFact (entry : SourcePump.PumpEvent × Nat) (eventKind : String)
    (payload : ObservationPayload) : NormalizedPumpEvent where
  observation := {
    key := {
      network := .solanaMainnet
      program := .pump
      coordinate := (curveEvidence entry).decoded.coordinate }
    commitment := .confirmed
    schemaVersion := decoderSchemaVersion
    decoderVersion
    eventKind
    market := curveMarket
    sourceEventTimeUnixMs := some 0
    receivedTimeUnixMs := 150
    rawEvidenceHash := standardEncoding.evidenceHash entry.1.encode
    sourceEvidenceBase64 := standardEncoding.encodeBase64 entry.1.encode
    sourceDetails := standardEncoding.sourceDetails entry.1
    payload }
  discoveredMarket := none

def purchaseFact : NormalizedPumpEvent :=
  curveFact (lastPurchase, 0) "TRADE" (.trade .buy zeroAddress 1 1 (some 0) (some 0))

def completionFact : NormalizedPumpEvent :=
  curveFact (curveCompletion, 1) "COMPLETE" (.marketCompleted zeroAddress)

theorem curveWindow (events : List SourcePump.PumpEvent) :
    (curveBatch events).deliveryWindow curveWindows curveMarket = some 1 := by
  change (curveBatch []).deliveryWindow curveWindows curveMarket = some 1
  decide

/-- A new event of the transaction joins the window of the token. -/
theorem processEvent_curve {events : List SourcePump.PumpEvent} {processing : BatchProcessing}
    (windows : processing.state.windows = curveWindows)
    {entry : SourcePump.PumpEvent × Nat} {eventKind : String} {payload : ObservationPayload}
    (selected : (curveBatch events).selects curveConfig curveWindows entry.1 = true)
    (normalizes : normalizePumpEvent standardEncoding (curveEvidence entry).decoded
      .solanaMainnet .confirmed 150 entry.1.encode processing.state.markets =
        .ok (curveFact entry eventKind payload))
    (few : entry.1.encode.length ≤ maxQuarantineRawBytes)
    (joins : joinsFirstWindow processing.state.database
      (curveFact entry eventKind payload).observation = true) :
    processEvent curveConfig (curveBatch events) processing (curveEvidence entry) =
      .ok { processing with
        inserted := processing.inserted + 1
        state := retireMarket { processing.state with
          database := joined processing.state.database
            (curveFact entry eventKind payload).observation } entry.1
        selectedEvents := processing.selectedEvents + 1 } := by
  have present : entry.1.encode ≠ [] := by
    have eight := SourcePump.length_discriminator entry.1
    intro empty
    rw [SourcePump.PumpEvent.encode, List.append_eq_nil_iff] at empty
    rw [empty.1] at eight
    cases eight
  have evidence := @validateEvidenceBase64_encoded curveConfig standardEncoding_isStandardBase64
    entry.1.encode present few "source_evidence_base64"
  have stored := @insertWindowObservation_joined curveConfig.isBase64 processing.state.database
    (curveFact entry eventKind payload).observation evidence joins
  have window := curveWindow events
  rw [← windows] at selected window
  have kept := @storeActivityEvent_window curveConfig processing.state (curveEvidence entry)
    (curveFact entry eventKind payload).observation
    ((curveBatch events).matchingWindowToken processing.state.windows curveMarket) 1 true _ window
    stored
  exact @processEvent_activity curveConfig (curveBatch events) processing (curveEvidence entry)
    (curveFact entry eventKind payload) rfl selected normalizes true _ kept

theorem purchase_normalizes : normalizePumpEvent standardEncoding
    (curveEvidence (lastPurchase, 0)).decoded .solanaMainnet .confirmed 150 lastPurchase.encode
    curveState.markets = .ok purchaseFact := rfl

theorem completion_normalizes (markets : MarketRegistry) : normalizePumpEvent standardEncoding
    (curveEvidence (curveCompletion, 1)).decoded .solanaMainnet .confirmed 150
    curveCompletion.encode markets = .ok completionFact := rfl

theorem purchase_joins : joinsFirstWindow curveDatabase purchaseFact.observation = true := by
  decide

theorem completion_joins :
    joinsFirstWindow (joined curveDatabase purchaseFact.observation) completionFact.observation =
      true := by
  decide

theorem purchase_short : lastPurchase.encode.length ≤ maxQuarantineRawBytes := by
  decide +kernel

theorem completion_short : curveCompletion.encode.length ≤ maxQuarantineRawBytes := by
  decide +kernel

theorem curve_selects (events : List SourcePump.PumpEvent) :
    (curveBatch events).selects curveConfig curveWindows lastPurchase = true ∧
      (curveBatch events).selects curveConfig curveWindows curveCompletion = true := by
  rw [LoggedBatch.selects_eq rfl, LoggedBatch.selects_eq rfl]
  change eventMatchesConfirmedWindow curveWindows (intakeEvent lastPurchase) [curveToken] 150 =
      true ∧
    eventMatchesConfirmedWindow curveWindows (intakeEvent curveCompletion) [curveToken] 150 = true
  decide

theorem curveEvents_valid :
    ∀ event ∈ [lastPurchase, curveCompletion], event.Valid ∧ event.program = .pump := by
  have zero := SourcePump.zeroAddress_isAddress
  have mint := curveMint_isAddress
  have named : "buy".utf8ByteSize ≤ SourcePump.maxInstructionNameBytes := by decide
  intro event member
  simp only [List.mem_cons, List.not_mem_nil, or_false] at member
  rcases member with rfl | rfl
  · exact ⟨⟨mint, zero, zero, zero, named, ⟨Nat.zero_le _, fun _ member => nomatch member⟩, zero⟩,
      rfl⟩
  · exact ⟨⟨zero, mint, zero, zero⟩, rfl⟩

theorem curve_standing (events : List SourcePump.PumpEvent) :
    SameStanding (curveBatch events) 160 curveWindows curveWindows := by
  have confirmed : (curveWindows.cell curveToken).isConfirmedAt curveToken.window 160 =
      (curveWindows.cell curveToken).isConfirmedAt curveToken.window 150 := by decide
  have opened : curveWindows.isOpenAt curveToken 160 = curveWindows.isOpenAt curveToken 150 := by
    decide
  constructor
  · intro token member
    rw [List.mem_singleton.mp member]
    exact confirmed
  · intro token member
    rw [List.mem_singleton.mp member]
    exact opened
  · intro token _
    rfl

/-- The processing after the purchase. -/
def purchased : BatchProcessing where
  state := { curveState with database := joined curveDatabase purchaseFact.observation }
  inserted := 1
  complete := true
  selectedEvents := 1

theorem processEvent_purchase (events : List SourcePump.PumpEvent) :
    processEvent curveConfig (curveBatch events) (initialProcessing curveState (curveBatch events))
      (curveEvidence (lastPurchase, 0)) = .ok purchased :=
  @processEvent_curve events (initialProcessing curveState (curveBatch events)) rfl
    (lastPurchase, 0) _ _ (curve_selects _).1 purchase_normalizes purchase_short purchase_joins

/-- The processing after the completion. -/
def completed : BatchProcessing where
  state := retireMarket { curveState with
    database := joined purchased.state.database completionFact.observation } curveCompletion
  inserted := 2
  complete := true
  selectedEvents := 2

theorem processEvent_completion (events : List SourcePump.PumpEvent) :
    processEvent curveConfig (curveBatch events) purchased (curveEvidence (curveCompletion, 1)) =
      .ok completed :=
  @processEvent_curve events purchased rfl (curveCompletion, 1) _ _ (curve_selects _).2
    (completion_normalizes _) completion_short completion_joins

theorem processBatch_purchase :
    processBatch curveConfig curveState (curveBatch [lastPurchase]) =
      .ok (finishBatch (curveBatch [lastPurchase]) purchased) := by
  obtain ⟨pump, pumpSwap⟩ := @curveBatch_decodes [lastPurchase] (by decide) fun event member =>
    curveEvents_valid event (List.mem_cons.mpr (.inl (List.mem_singleton.mp member)))
  exact processBatch_clean rfl pump pumpSwap
    (foldlM_cons_eq_ok.mpr ⟨purchased, processEvent_purchase _, rfl⟩)

theorem processBatch_completion :
    processBatch curveConfig curveState (curveBatch [lastPurchase, curveCompletion]) =
      .ok (finishBatch (curveBatch [lastPurchase, curveCompletion]) completed) := by
  obtain ⟨pump, pumpSwap⟩ := curveBatch_decodes (by decide) curveEvents_valid
  exact processBatch_clean rfl pump pumpSwap (foldlM_cons_eq_ok.mpr ⟨purchased,
    processEvent_purchase _, foldlM_cons_eq_ok.mpr ⟨completed, processEvent_completion _, rfl⟩⟩)

/-- A transaction with a purchase alone can be delivered again. -/
theorem redelivery_idempotent_purchase : ∃ outcome after,
    processBatch curveConfig curveState (curveBatch [lastPurchase]) = .ok (outcome, after) ∧
      outcome.complete = true ∧
      ∃ again unchanged, processBatch (curveConfig.storedAt fun _ => 2000)
          { after with windows := curveWindows } ((curveBatch [lastPurchase]).redelivered 160) =
            .ok (again, unchanged) ∧
        again.complete = true ∧ again.inserted = 0 ∧ unchanged.database = after.database ∧
        unchanged.quarantine = after.quarantine := by
  refine ⟨_, _, processBatch_purchase, rfl, (redelivery_idempotent_iff rfl processBatch_purchase rfl
    (by decide) (curve_standing _) _).mpr ?_⟩
  obtain ⟨pump, pumpSwap⟩ := @curveBatch_decodes [lastPurchase] (by decide) fun event member =>
    curveEvents_valid event (List.mem_cons.mpr (.inl (List.mem_singleton.mp member)))
  intro event _ other chosen mint _ retires
  have listed := ((@LoggedBatch.mem_selectedEvents curveConfig (curveBatch [lastPurchase]) _ _ pump
    pumpSwap curveWindows other).mp chosen).1
  have same : other = curveEvidence (lastPurchase, 0) := by simpa using listed
  rw [same] at retires
  cases retires

/-- The second delivery of a purchase that completes its curve finds no market. -/
theorem completed_purchase_not_redelivered : ¬ ∀ (config : ProcessingConfig)
    (state after : ProcessorState) (batch : LoggedBatch) (outcome : BatchProcessingOutcome)
    (later : Int) (windows : ObservationWindowRegistry) (now : DecodedEvidence → Int),
    config.encoding.IsStandardBase64 → batch.purpose = .trackedActivity →
    processBatch config state batch = .ok (outcome, after) → outcome.complete = true →
    batch.receivedTimeUnixMs ≤ later → SameStanding batch later state.windows windows →
    ∃ again unchanged, processBatch (config.storedAt now) { after with windows }
        (batch.redelivered later) = .ok (again, unchanged) ∧
      again.complete = true ∧ again.inserted = 0 ∧ unchanged.database = after.database ∧
      unchanged.quarantine = after.quarantine := by
  intro idempotent
  have standing := curve_standing [lastPurchase, curveCompletion]
  obtain ⟨again, unchanged, repeated, complete, -⟩ := idempotent curveConfig curveState _ _ _ 160
    curveWindows (fun _ => 2000) standardEncoding_isStandardBase64 rfl processBatch_completion rfl
    (by decide) standing
  obtain ⟨events, final, first⟩ := @processBatch_complete curveConfig curveState _ _ _ rfl
    processBatch_completion rfl
  have keeps := first.keepsItsMarkets rfl standing repeated complete
  obtain ⟨pump, pumpSwap⟩ := curveBatch_decodes (by decide) curveEvents_valid
  have selected := @LoggedBatch.mem_selectedEvents curveConfig
    (curveBatch [lastPurchase, curveCompletion]) _ _ pump pumpSwap curveWindows
  exact keeps (curveEvidence (lastPurchase, 0))
    (selected.mpr ⟨List.mem_cons_self, (curve_selects _).1⟩) (curveEvidence (curveCompletion, 1))
    (selected.mpr ⟨List.mem_cons_of_mem _ List.mem_cons_self, (curve_selects _).2⟩) curveMint rfl
    rfl

end Curve

end Soldisco.Pipeline

import Soldisco.Construction.Pipeline.Storage
import Soldisco.Proof.Persistence.Decisions
import Soldisco.Proof.Pipeline.Normalization

/-
This file proves that the processing finds each selected event under the target of its intake.
-/

namespace Soldisco.Pipeline
open Domain Window Intake Accumulation

def MarketLookupKey.target : MarketLookupKey → ObservationTarget
  | .pumpMint mint => .pumpMint mint
  | .pumpSwapPool pool => .pumpSwapPool pool

/-- The registries that hydration, registration and retirement can build. -/
inductive ReachableRegistry : MarketRegistry → Prop
  | hydrated {discoveryMarkets : List MarketIdentity} {pools : List PumpSwapPool}
      {registry : MarketRegistry}
      (accepted : hydrateMarketRegistry discoveryMarkets pools = .ok registry) :
      ReachableRegistry registry
  | registered {before after : MarketRegistry} {market : MarketIdentity}
      (reached : ReachableRegistry before) (accepted : before.register market = .ok after) :
      ReachableRegistry after
  | pooled {before : MarketRegistry} (reached : ReachableRegistry before) (network : Network)
      (pool sourceBaseMint sourceQuoteMint : String) :
      ReachableRegistry (before.registerPumpSwapPool network pool sourceBaseMint sourceQuoteMint).2
  | retired {before : MarketRegistry} (reached : ReachableRegistry before) (mint : String) :
      ReachableRegistry (before.retirePumpMarket mint)

/-- Each market stands under the key of its own target. -/
def KeyedByTarget (registry : MarketRegistry) : Prop :=
  ∀ key market, registry.markets.lookup key = some market →
    ObservationTarget.forMarket market.identity = some key.target

namespace KeyedByTarget

variable {registry after : MarketRegistry}

theorem insert (keyed : KeyedByTarget registry) {key : MarketLookupKey} {market : RegisteredMarket}
    (own : ObservationTarget.forMarket market.identity = some key.target) :
    KeyedByTarget ⟨registry.markets.insert key market⟩ := by
  intro other found present
  by_cases same : other = key
  · subst same
    rw [AList.lookup_insert] at present
    cases present
    exact own
  · rw [AList.lookup_insert_ne same] at present
    exact keyed other found present

theorem register (keyed : KeyedByTarget registry) {market : MarketIdentity}
    (accepted : registry.register market = .ok after) : KeyedByTarget after := by
  unfold MarketRegistry.register at accepted
  cases venue : market.venue <;> rw [venue] at accepted <;> cases accepted
  case pumpBondingCurve =>
    apply keyed.insert
    unfold ObservationTarget.forMarket
    rw [venue]
    rfl
  all_goals exact keyed

theorem registerPumpSwapPool (keyed : KeyedByTarget registry) (network : Network)
    (pool sourceBaseMint sourceQuoteMint : String) :
    KeyedByTarget (registry.registerPumpSwapPool network pool sourceBaseMint sourceQuoteMint).2 := by
  unfold MarketRegistry.registerPumpSwapPool
  cases normalizePumpSwapPair network sourceBaseMint sourceQuoteMint with
  | none => exact keyed
  | some pair => exact keyed.insert rfl

theorem retirePumpMarket (keyed : KeyedByTarget registry) (mint : String) :
    KeyedByTarget (registry.retirePumpMarket mint) := by
  intro key market present
  by_cases retired : key = .pumpMint mint
  · subst retired
    have absent := AList.lookup_erase (MarketLookupKey.pumpMint mint) registry.markets
    exact absurd (present.symm.trans absent) (by simp)
  · apply keyed key market
    rw [← AList.lookup_erase_ne retired]
    exact present

theorem empty : KeyedByTarget MarketRegistry.empty := by
  intro key market present
  cases present

theorem hydrated {discoveryMarkets : List MarketIdentity} {pools : List PumpSwapPool}
    (accepted : hydrateMarketRegistry discoveryMarkets pools = .ok registry) :
    KeyedByTarget registry := by
  unfold hydrateMarketRegistry at accepted
  rw [bind_eq_ok] at accepted
  obtain ⟨filled, registered, done⟩ := accepted
  have initial : KeyedByTarget filled := foldlM_keeps KeyedByTarget
    (fun _ _ _ _ keyed accepted => keyed.register accepted) empty registered
  clear registered
  cases done
  induction pools generalizing filled with
  | nil => exact initial
  | cons pool rest ih => exact ih _ (initial.registerPumpSwapPool _ _ _ _)

end KeyedByTarget

theorem ReachableRegistry.keyed {registry : MarketRegistry} (reached : ReachableRegistry registry) :
    KeyedByTarget registry := by
  induction reached with
  | hydrated accepted => exact .hydrated accepted
  | registered _ accepted ih => exact ih.register accepted
  | pooled _ network pool sourceBaseMint sourceQuoteMint ih =>
      exact ih.registerPumpSwapPool network pool sourceBaseMint sourceQuoteMint
  | retired _ mint ih => exact ih.retirePumpMarket mint

/-- The target under which the intake keeps an event: of its seed or of its tracked window. -/
def intakeTarget (network : Network) (event : SourcePump.PumpEvent) : Option ObservationTarget :=
  match discoverySeed (intakeEvent event) network with
  | some seed => some seed.target
  | none => eventTrackingTarget (intakeEvent event)

theorem pumpMarket_target {registry : MarketRegistry} (keyed : KeyedByTarget registry)
    {mint : String} {market : MarketIdentity} (found : registry.pumpMarket mint = .ok market) :
    ObservationTarget.forMarket market = some (.pumpMint mint) := by
  unfold MarketRegistry.pumpMarket at found
  split at found
  · rename_i registered present
    cases found
    exact keyed _ registered present
  · cases found

theorem orientedPool_target {registry : MarketRegistry} (keyed : KeyedByTarget registry)
    {pool : String} {market : MarketIdentity} {sourceOrientation : PumpSwapSourceOrientation}
    (found : orientedPool registry pool = .ok (market, sourceOrientation)) :
    ObservationTarget.forMarket market = some (.pumpSwapPool pool) := by
  unfold orientedPool at found
  rw [bind_eq_ok] at found
  obtain ⟨registered, stored, found⟩ := found
  unfold MarketRegistry.pumpSwapMarket at stored
  split at stored
  · rename_i market present
    cases stored
    split at found
    · cases found
      exact keyed _ registered present
    · cases found
  · cases stored

/-- What a successful normalization says about the target and the discovered market. -/
structure FieldsCoherent (network : Network) (event : SourcePump.PumpEvent)
    (fields : NormalizedFields) : Prop where
  target : ObservationTarget.forMarket fields.market = intakeTarget network event
  tracked : (ObservationTarget.forMarket fields.market).isSome = true
  discovered : fields.discoveredMarket =
    if isDiscoveryEvent (intakeEvent event) then some fields.market else none

theorem normalizeFields_coherent {network : Network} {registry : MarketRegistry}
    (keyed : KeyedByTarget registry) {event : SourcePump.PumpEvent} {fields : NormalizedFields}
    (normalized : normalizeFields network registry event = .ok fields) :
    FieldsCoherent network event fields := by
  cases event with
  | create | complete | completePumpAmmMigration =>
      cases normalized
      exact ⟨rfl, rfl, rfl⟩
  | trade event =>
      dsimp only [normalizeFields] at normalized
      simp only [bind_eq_ok] at normalized
      obtain ⟨_, -, market, found, normalized⟩ := normalized
      have target := pumpMarket_target keyed found
      split at normalized
      · cases normalized
      · cases normalized
        exact ⟨target, by rw [target]; rfl, rfl⟩
  | pumpSwapCreatePool event =>
      dsimp only [normalizeFields] at normalized
      split at normalized
      · cases normalized
      · rename_i pair eligible
        cases normalized
        refine ⟨?_, rfl, rfl⟩
        unfold intakeTarget
        dsimp only [intakeEvent, discoverySeed]
        rw [eligible]
        rfl
  | pumpSwapBuy event | pumpSwapSell event =>
      dsimp only [normalizeFields] at normalized
      simp only [bind_eq_ok] at normalized
      obtain ⟨_, -, ⟨market, sourceOrientation⟩, found, normalized⟩ := normalized
      have target := orientedPool_target keyed found
      cases normalized
      exact ⟨target, by rw [target]; rfl, rfl⟩
  | pumpSwapDeposit event | pumpSwapWithdraw event =>
      dsimp only [normalizeFields] at normalized
      simp only [bind_eq_ok] at normalized
      obtain ⟨⟨market, sourceOrientation⟩, found, normalized⟩ := normalized
      have target := orientedPool_target keyed found
      cases normalized
      exact ⟨target, by rw [target]; rfl, rfl⟩

theorem normalizePumpEvent_eq_ok {encoding : EvidenceEncoding} {decoded : SourcePump.DecodedPumpEvent}
    {network : Network} {commitment : Persistence.Commitment} {receivedTimeUnixMs : Int}
    {rawEvidence : List UInt8} {markets : MarketRegistry} {normalized : NormalizedPumpEvent}
    (accepted : normalizePumpEvent encoding decoded network commitment receivedTimeUnixMs
      rawEvidence markets = .ok normalized) :
    ∃ fields, normalizeFields network markets decoded.event = .ok fields ∧
      normalized.observation.market = fields.market ∧
      normalized.discoveredMarket = fields.discoveredMarket := by
  unfold normalizePumpEvent at accepted
  rw [bind_eq_ok] at accepted
  obtain ⟨fields, found, done⟩ := accepted
  cases done
  exact ⟨fields, found, rfl, rfl⟩

/-- A discovery is selected only under an open token of its seed. -/
theorem LoggedBatch.selects_discovery {config : ProcessingConfig}
    {windows : ObservationWindowRegistry} {batch : LoggedBatch} {event : SourcePump.PumpEvent}
    (selected : batch.selects config windows event = true)
    (discovery : isDiscoveryEvent (intakeEvent event) = true) :
    ∃ target, intakeTarget config.network event = some target ∧
      ∃ token ∈ batch.windowTokens, token.target = target ∧
        windows.isOpenAt token batch.receivedTimeUnixMs = true := by
  unfold LoggedBatch.selects batchSelectsEvent at selected
  have untracked : eventMatchesConfirmedWindow windows (intakeEvent event)
      (batch.decoded config).windowTokens (batch.decoded config).receivedTimeUnixMs = false := by
    unfold eventMatchesConfirmedWindow
    cases event <;> first | rfl | cases discovery
  rw [untracked] at selected
  rw [show (batch.decoded config).purpose = batch.purpose from rfl] at selected
  cases purpose : batch.purpose with
  | trackedActivity =>
      rw [purpose] at selected
      cases selected
  | discovery =>
      rw [purpose] at selected
      dsimp only at selected
      rw [Bool.or_false] at selected
      cases seeded : discoverySeed (intakeEvent event) config.network with
      | none =>
          rw [seeded] at selected
          cases selected
      | some seed =>
          rw [seeded] at selected
          dsimp only at selected
          rw [Bool.and_eq_true, List.any_eq_true] at selected
          obtain ⟨⟨token, member, admitted⟩, -⟩ := selected
          rw [Bool.and_eq_true, beq_iff_eq] at admitted
          refine ⟨seed.target, ?_, token, member, admitted⟩
          unfold intakeTarget
          rw [seeded]

theorem LoggedBatch.matchingWindowToken_isSome {batch : LoggedBatch}
    {windows : ObservationWindowRegistry} {market : MarketIdentity} {target : ObservationTarget}
    (tracked : ObservationTarget.forMarket market = some target) {token : ObservationWindowToken}
    (member : token ∈ batch.windowTokens) (same : token.target = target)
    (isOpen : windows.isOpenAt token batch.receivedTimeUnixMs = true) :
    (batch.matchingWindowToken windows market).isSome = true := by
  unfold LoggedBatch.matchingWindowToken
  rw [tracked, Option.bind_some, List.find?_isSome]
  exact ⟨token, member, by rw [Bool.and_eq_true, beq_iff_eq]; exact ⟨same, isOpen⟩⟩

/-- The two errors of a window that is found under another target than its event. -/
def IsIncoherent (error : ProcessError) : Prop :=
  error = .windowLifecycle noMatchingToken ∨ error = .windowLifecycle disagreedOrientation

theorem storeDiscovery_coherent {config : ProcessingConfig} {state : ProcessorState}
    {event : DecodedEvidence} {observation : Persistence.Observation}
    {matching : Option ObservationWindowToken} (found : matching.isSome = true)
    {error : ProcessError}
    (failed : storeDiscovery config state event observation matching = .error error) :
    ¬ IsIncoherent error := by
  obtain ⟨token, rfl⟩ := Option.isSome_iff_exists.mp found
  unfold storeDiscovery at failed
  simp only [bind_eq_error, mapError_eq_error] at failed
  rcases failed with ⟨_, -, rfl⟩ | ⟨qualification, -, failed⟩
  · rintro (same | same) <;> cases same
  · rcases failed with ⟨_, -, rfl⟩ | ⟨⟨opened, database⟩, -, failed⟩
    · rintro (same | same) <;> cases same
    · split at failed
      · cases failed
      · split at failed
        · cases failed
          unfold IsIncoherent
          decide
        · split at failed
          · cases failed
            unfold IsIncoherent
            decide
          · cases failed

theorem storeActivityEvent_coherent {config : ProcessingConfig} {state : ProcessorState}
    {event : DecodedEvidence} {observation : Persistence.Observation}
    {matching : Option ObservationWindowToken} {error : ProcessError}
    (failed : storeActivityEvent config state event observation matching = .error error) :
    ¬ IsIncoherent error := by
  unfold storeActivityEvent at failed
  simp only [bind_eq_error, mapError_eq_error] at failed
  rcases failed with ⟨_, -, rfl⟩ | ⟨⟨isNew, database⟩, -, done⟩
  · rintro (same | same) <;> cases same
  · cases done

/-- A stored observation leaves the registry of markets alone. -/
theorem storeObservation_markets {config : ProcessingConfig} {state next : ProcessorState}
    {event : DecodedEvidence} {normalized : NormalizedPumpEvent}
    {matching : Option ObservationWindowToken} {stored : Option Bool}
    (accepted : storeObservation config state event normalized matching = .ok (stored, next)) :
    next.markets = state.markets := by
  unfold storeObservation at accepted
  split at accepted
  · unfold storeDiscovery at accepted
    split at accepted
    · cases accepted
    · simp only [bind_eq_ok] at accepted
      obtain ⟨qualification, -, ⟨opened, database⟩, -, accepted⟩ := accepted
      split at accepted
      · cases accepted
        rfl
      · split at accepted
        · cases accepted
        · split at accepted
          · cases accepted
          · cases accepted
            rfl
  · unfold storeActivityEvent at accepted
    simp only [bind_eq_ok] at accepted
    obtain ⟨⟨isNew, active⟩, ⟨⟨_, database⟩, -, kept⟩, done⟩ := accepted
    cases kept
    cases done
    rfl

theorem upsertPumpSwapPool_coherent {db : Persistence.Database}
    {pools : Table (Network × String) PumpSwapPool} {pool : PumpSwapPool} {error : ProcessError}
    (failed : upsertPumpSwapPool db pools pool = .error error) : ¬ IsIncoherent error := by
  unfold upsertPumpSwapPool validatePool at failed
  simp only [bind_eq_error, mapError_eq_error] at failed
  rcases failed with (⟨_, -, rfl⟩ | ⟨_, -, failed⟩) | ⟨_, -, failed⟩
  · rintro (same | same) <;> cases same
  · split at failed
    · cases failed
      unfold IsIncoherent
      decide
    · cases failed
  · rcases failed with ⟨_, -, rfl⟩ | ⟨_, -, ⟨_, -, rfl⟩ | ⟨_, -, failed⟩⟩
    · rintro (same | same) <;> cases same
    · rintro (same | same) <;> cases same
    · split at failed
      · cases failed
      · split at failed
        · cases failed
          rintro (same | same) <;> cases same
        · split at failed <;> cases failed

/-- The registered pool is the market of its normalized creation. -/
theorem registerPool_coherent {config : ProcessingConfig} {state : ProcessorState}
    {coordinate : ChainCoordinate} {event : SourcePump.PumpEvent} {fields : NormalizedFields}
    {markets : MarketRegistry}
    (normalized : normalizeFields config.network markets event = .ok fields) {error : ProcessError}
    (failed : registerPool config state coordinate fields.discoveredMarket event = .error error) :
    ¬ IsIncoherent error := by
  cases event with
  | pumpSwapCreatePool event =>
      dsimp only [normalizeFields] at normalized
      split at normalized
      · cases normalized
      · rename_i pair eligible
        cases normalized
        dsimp only [registerPool] at failed
        rw [bind_eq_error] at failed
        rcases failed with conflict | ⟨⟨_, pools⟩, -, failed⟩
        · exact upsertPumpSwapPool_coherent conflict
        · unfold MarketRegistry.registerPumpSwapPool at failed
          rw [eligible] at failed
          rw [if_neg (by simp)] at failed
          cases failed
  | _ => cases failed

theorem registerPool_keyed {config : ProcessingConfig} {state next : ProcessorState}
    {coordinate : ChainCoordinate} {event : SourcePump.PumpEvent}
    {discovered : Option MarketIdentity} (keyed : KeyedByTarget state.markets)
    (accepted : registerPool config state coordinate discovered event = .ok next) :
    KeyedByTarget next.markets := by
  cases event with
  | pumpSwapCreatePool event =>
      dsimp only [registerPool] at accepted
      rw [bind_eq_ok] at accepted
      obtain ⟨⟨_, pools⟩, -, accepted⟩ := accepted
      split at accepted
      · cases accepted
      · cases accepted
        exact keyed.registerPumpSwapPool _ _ _ _
  | _ =>
      cases accepted
      exact keyed

theorem registerDiscovered_keyed {state next : ProcessorState}
    {discovered : Option MarketIdentity} (keyed : KeyedByTarget state.markets)
    (accepted : registerDiscovered state discovered = .ok next) : KeyedByTarget next.markets := by
  unfold registerDiscovered at accepted
  split at accepted
  · cases accepted
    exact keyed
  · simp only [bind_eq_ok, mapError_eq_ok] at accepted
    obtain ⟨markets, registered, done⟩ := accepted
    cases done
    exact keyed.register registered

theorem registerDiscovered_coherent {state : ProcessorState} {discovered : Option MarketIdentity}
    {error : ProcessError} (failed : registerDiscovered state discovered = .error error) :
    ¬ IsIncoherent error := by
  unfold registerDiscovered at failed
  split at failed
  · cases failed
  · simp only [bind_eq_error, mapError_eq_error] at failed
    rcases failed with ⟨_, -, rfl⟩ | ⟨_, -, done⟩
    · rintro (same | same) <;> cases same
    · cases done

theorem retireMarket_keyed {state : ProcessorState} (event : SourcePump.PumpEvent)
    (keyed : KeyedByTarget state.markets) : KeyedByTarget (retireMarket state event).markets := by
  unfold retireMarket
  split
  · exact keyed.retirePumpMarket _
  · exact keyed

theorem recordPipelineQuarantine_coherent {config : ProcessingConfig}
    {sourceProgram : SourceProgram} {state : ProcessorState} {evidence : QuarantinedEvidence}
    {error : ProcessError}
    (failed : recordPipelineQuarantine config sourceProgram state evidence = .error error) :
    ¬ IsIncoherent error := by
  unfold recordPipelineQuarantine at failed
  simp only [bind_eq_error, mapError_eq_error] at failed
  rcases failed with ⟨_, -, rfl⟩ | ⟨⟨_, quarantine⟩, -, done⟩
  · rintro (same | same) <;> cases same
  · cases done

theorem recordPipelineQuarantine_markets {config : ProcessingConfig}
    {sourceProgram : SourceProgram} {state next : ProcessorState} {evidence : QuarantinedEvidence}
    (accepted : recordPipelineQuarantine config sourceProgram state evidence = .ok next) :
    next.markets = state.markets := by
  unfold recordPipelineQuarantine at accepted
  rw [bind_eq_ok] at accepted
  obtain ⟨⟨_, quarantine⟩, -, done⟩ := accepted
  cases done
  rfl

/-- One pass of the loop keeps the registry keyed by targets. -/
theorem processEvent_keyed {config : ProcessingConfig} {batch : LoggedBatch}
    {processing next : BatchProcessing} {event : DecodedEvidence}
    (keyed : KeyedByTarget processing.state.markets)
    (accepted : processEvent config batch processing event = .ok next) :
    KeyedByTarget next.state.markets := by
  unfold processEvent at accepted
  split at accepted
  · cases accepted
    exact keyed
  · dsimp only at accepted
    split at accepted
    · rename_i normalized _
      unfold storeNormalized at accepted
      simp only [bind_eq_ok] at accepted
      obtain ⟨⟨stored, state⟩, storing, accepted⟩ := accepted
      have same := storeObservation_markets storing
      split at accepted
      · cases accepted
        change KeyedByTarget state.markets
        rw [same]
        exact keyed
      · simp only [bind_eq_ok] at accepted
        obtain ⟨pooled, pooling, registered, registering, done⟩ := accepted
        cases done
        have before : KeyedByTarget state.markets := by
          rw [same]
          exact keyed
        exact retireMarket_keyed _ (registerDiscovered_keyed (registerPool_keyed before pooling)
          registering)
    · split at accepted
      · cases accepted
      · rw [bind_eq_ok] at accepted
        obtain ⟨state, recorded, done⟩ := accepted
        cases done
        change KeyedByTarget state.markets
        rw [recordPipelineQuarantine_markets recorded]
        exact keyed

/-- One pass of the loop never finds a window under another target than its event. -/
theorem processEvent_coherent {config : ProcessingConfig} {batch : LoggedBatch}
    {processing : BatchProcessing} {event : DecodedEvidence}
    (keyed : KeyedByTarget processing.state.markets) {error : ProcessError}
    (failed : processEvent config batch processing event = .error error) :
    ¬ IsIncoherent error := by
  unfold processEvent at failed
  split at failed
  · cases failed
  · rename_i selects
    have selected : batch.selects config processing.state.windows event.decoded.event = true := by
      simpa using selects
    dsimp only at failed
    split at failed
    · rename_i normalized accepted
      obtain ⟨fields, found, market, discovered⟩ := normalizePumpEvent_eq_ok accepted
      have coherent := normalizeFields_coherent keyed found
      unfold storeNormalized at failed
      simp only [bind_eq_error] at failed
      rcases failed with storing | ⟨⟨stored, state⟩, -, failed⟩
      · unfold storeObservation at storing
        split at storing
        · rename_i discoveredMarket present
          have discovery : isDiscoveryEvent (intakeEvent event.decoded.event) = true := by
            by_contra other
            rw [discovered, coherent.discovered, if_neg other] at present
            cases present
          obtain ⟨target, taken, token, member, same, isOpen⟩ :=
            LoggedBatch.selects_discovery selected discovery
          apply storeDiscovery_coherent _ storing
          apply LoggedBatch.matchingWindowToken_isSome _ member same isOpen
          rw [market, coherent.target]
          exact taken
        · rw [bind_eq_error] at storing
          rcases storing with storing | ⟨_, -, done⟩
          · exact storeActivityEvent_coherent storing
          · cases done
      · split at failed
        · cases failed
        · simp only [bind_eq_error] at failed
          rw [discovered] at failed
          rcases failed with pooling | ⟨pooled, -, registering | ⟨_, -, done⟩⟩
          · exact registerPool_coherent found pooling
          · exact registerDiscovered_coherent registering
          · cases done
    · rename_i error _
      split at failed
      · cases failed
        rintro (same | same) <;> cases same
      · rw [bind_eq_error] at failed
        rcases failed with recording | ⟨_, -, done⟩
        · exact recordPipelineQuarantine_coherent recording
        · cases done

/-- The quarantines of a decoded program leave the registry of markets alone. -/
theorem decodeProgram_markets {config : ProcessingConfig} {batch : LoggedBatch}
    {processing next : BatchProcessing × List DecodedEvidence} {program : SourcePump.PumpProgram}
    (accepted : decodeProgram config batch processing program = .ok next) :
    next.1.state.markets = processing.1.state.markets := by
  unfold decodeProgram at accepted
  simp only [bind_eq_ok] at accepted
  obtain ⟨decoded, -, state, recorded, done⟩ := accepted
  cases done
  exact foldlM_keeps (fun state => state.markets = processing.1.state.markets)
    (fun _ _ _ _ same accepted => (recordPipelineQuarantine_markets accepted).trans same) rfl recorded

/-- A decoding without quarantines adds its events. -/
theorem decodeProgram_clean {config : ProcessingConfig} {batch : LoggedBatch}
    {program : SourcePump.PumpProgram} {events : List DecodedEvidence}
    (decodes : decodeBatchEvents config.encoding.decodeBase64 batch.evidence program =
      .ok ⟨events, []⟩) (processing : BatchProcessing × List DecodedEvidence) :
    decodeProgram config batch processing program =
      .ok (processing.1, processing.2 ++ events) := by
  rw [decodeProgram, decodes]
  simp only [Except.mapError, bind, Except.bind, List.foldlM_nil, pure, Except.pure,
    List.isEmpty_nil, Bool.and_true]

theorem decodePrograms_clean {config : ProcessingConfig} {batch : LoggedBatch}
    {events poolEvents : List DecodedEvidence}
    (decodes : decodeBatchEvents config.encoding.decodeBase64 batch.evidence .pump =
      .ok ⟨events, []⟩)
    (decodesPools : decodeBatchEvents config.encoding.decodeBase64 batch.evidence .pumpSwap =
      .ok ⟨poolEvents, []⟩) (processing : BatchProcessing) :
    [SourcePump.PumpProgram.pump, .pumpSwap].foldlM (decodeProgram config batch)
      (processing, []) = .ok (processing, events ++ poolEvents) := by
  rw [List.foldlM_cons, decodeProgram_clean decodes]
  change List.foldlM (decodeProgram config batch) (processing, [] ++ events) [.pumpSwap] = _
  rw [List.foldlM_cons, decodeProgram_clean decodesPools]
  rfl

theorem decodeProgram_coherent {config : ProcessingConfig} {batch : LoggedBatch}
    {processing : BatchProcessing × List DecodedEvidence} {program : SourcePump.PumpProgram}
    {error : ProcessError} (failed : decodeProgram config batch processing program = .error error) :
    ¬ IsIncoherent error := by
  unfold decodeProgram at failed
  simp only [bind_eq_error, mapError_eq_error] at failed
  rcases failed with ⟨_, -, rfl⟩ | ⟨decoded, -, recording | ⟨_, -, done⟩⟩
  · rintro (same | same) <;> cases same
  · obtain ⟨evidence, state, -, -, failed⟩ := foldlM_eq_error (fun _ => True)
      (fun _ _ _ _ _ _ => trivial) trivial recording
    exact recordPipelineQuarantine_coherent failed
  · cases done

theorem processBatch_coherent {config : ProcessingConfig} {state : ProcessorState}
    {batch : LoggedBatch} (keyed : KeyedByTarget state.markets) {error : ProcessError}
    (failed : processBatch config state batch = .error error) : ¬ IsIncoherent error := by
  unfold processBatch at failed
  dsimp only at failed
  split at failed
  · cases failed
  · simp only [bind_eq_error] at failed
    rcases failed with decoding | ⟨⟨decoded, events⟩, decoding, processing | ⟨_, -, done⟩⟩
    · obtain ⟨program, processing, -, -, failed⟩ := foldlM_eq_error (fun _ => True)
        (fun _ _ _ _ _ _ => trivial) trivial decoding
      exact decodeProgram_coherent failed
    · have same : decoded.state.markets = state.markets := foldlM_keeps
        (fun processing : BatchProcessing × List DecodedEvidence =>
          processing.1.state.markets = state.markets)
        (fun _ _ _ _ same accepted => (decodeProgram_markets accepted).trans same) rfl decoding
      have initial : KeyedByTarget decoded.state.markets := by
        rw [same]
        exact keyed
      obtain ⟨event, reached, -, keyed, failed⟩ := foldlM_eq_error
        (fun processing : BatchProcessing => KeyedByTarget processing.state.markets)
        (fun _ _ _ _ keyed accepted => processEvent_keyed keyed accepted) initial processing
      exact processEvent_coherent keyed failed
    · cases done

/-- Each selected event that normalizes has the target of its intake, and the processing never misses
the token or the orientation of a discovery. -/
theorem processBatch_targets (config : ProcessingConfig) (state : ProcessorState)
    (batch : LoggedBatch) (reached : ReachableRegistry state.markets) :
    (∀ decoded rawEvidence normalized,
      batch.selects config state.windows decoded.event = true →
      normalizePumpEvent config.encoding decoded config.network config.commitment
        batch.receivedTimeUnixMs rawEvidence state.markets = .ok normalized →
      (ObservationTarget.forMarket normalized.observation.market).isSome = true ∧
        ObservationTarget.forMarket normalized.observation.market =
          intakeTarget config.network decoded.event) ∧
      processBatch config state batch ≠ .error (.windowLifecycle noMatchingToken) ∧
      processBatch config state batch ≠ .error (.windowLifecycle disagreedOrientation) := by
  have keyed := reached.keyed
  refine ⟨?_, fun failed => processBatch_coherent keyed failed (.inl rfl),
    fun failed => processBatch_coherent keyed failed (.inr rfl)⟩
  intro decoded rawEvidence normalized _ accepted
  obtain ⟨fields, found, market, -⟩ := normalizePumpEvent_eq_ok accepted
  have coherent := normalizeFields_coherent keyed found
  rw [market]
  exact ⟨coherent.tracked, coherent.target⟩

def launchConfig (encoding : EvidenceEncoding) : ProcessingConfig where
  network := .solanaMainnet
  commitment := .confirmed
  maximumDiscoveryAgeMillis := 30000
  collectorRunId := "run"
  prefilterRevision := 1
  prefilterValues := Persistence.samplePrefilter
  encoding
  qualification := .ok Persistence.launchQualification
  now := fun _ => 1000

/-- The token of the first window of a registry. -/
def launchToken (target : ObservationTarget) : ObservationWindowToken where
  generation := 0
  window := { target, mint := "mint", openedAtUnixMs := 100, closesAtUnixMs := 60100 }
  address := 0

/-- The state of a new pipeline. -/
def launchState : ProcessorState where
  database := Persistence.Database.migrated
  quarantine := ∅
  pumpSwapPools := ∅
  markets := .empty
  windows := ObservationWindowRegistry.new 10 (by decide)

def launchCreate : SourcePump.DecodedPumpEvent where
  program := .pump
  coordinate := {
    slot := 7
    transactionIndex := none
    signature := "signature"
    instructionIndex := 0
    eventIndex := 0 }
  event := .create {
    name := "Name"
    symbol := "SYM"
    uri := "uri"
    mint := "mint"
    bondingCurve := "curve"
    user := "user"
    creator := "creator"
    timestamp := 0
    virtualTokenReserves := 0
    virtualSolReserves := 0
    realTokenReserves := 0
    tokenTotalSupply := 0
    tokenProgram := "program"
    isMayhemMode := false
    isCashbackEnabled := false
    quoteMint := Qualification.wrappedSolMint
    virtualQuoteReserves := 0 }

def launchDelivery : LoggedBatch where
  purpose := .discovery
  evidence := {
    slot := 7
    transactionIndex := none
    signature := "signature"
    instructions := []
    logMessages := [] }
  receivedTimeUnixMs := 100
  transactionError := false
  windowTokens := [launchToken (.pumpMint "mint")]

/-- The creation is selected and found under the mint of its token. -/
theorem processBatch_targets_launch :
    ∃ normalized, normalizePumpEvent emptyEncoding launchCreate .solanaMainnet .confirmed 100 []
        launchState.markets = .ok normalized ∧
      ObservationTarget.forMarket normalized.observation.market =
        intakeTarget .solanaMainnet launchCreate.event ∧
      processBatch (launchConfig emptyEncoding) launchState launchDelivery ≠
        .error (.windowLifecycle noMatchingToken) := by
  obtain ⟨coherent, matched, -⟩ := processBatch_targets (launchConfig emptyEncoding) launchState
    launchDelivery (@ReachableRegistry.hydrated [] [] .empty rfl)
  refine ⟨_, rfl, (coherent launchCreate [] _ (by decide +kernel) rfl).2, matched⟩

end Soldisco.Pipeline

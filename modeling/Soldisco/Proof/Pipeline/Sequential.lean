import Soldisco.Construction.Pipeline.Interleaving
import Soldisco.Library.Accumulation
import Soldisco.Proof.Pipeline.Targets
import Soldisco.Proof.Window.Atomics
import Soldisco.Proof.Window.Effect

/-
This file proves that the operations of the processing without other tasks compute the processing of
the batch as a whole.
-/

namespace Soldisco.Pipeline
open Domain Window Intake Transition Accumulation

section Selection

variable {config : ProcessingConfig} {windows : ObservationWindowRegistry} {batch : LoggedBatch}

/-- An event is a discovery or tracked under the target of its market. -/
theorem discoverySeed_of_tracked {event : SourcePump.PumpEvent} {target : ObservationTarget}
    (tracked : eventTrackingTarget (intakeEvent event) = some target) (network : Network) :
    discoverySeed (intakeEvent event) network = none := by
  cases event <;> first | rfl | cases tracked

/-- A batch selects the timely events that one of its tokens watches. -/
theorem LoggedBatch.selects_eq_watches (event : SourcePump.PumpEvent) :
    batch.selects config windows event = (batch.windowTokens.any
      (batch.watches config windows event) && batch.isTimely config event) := by
  have watched : batch.watches config windows event = _ := funext fun token => watches.eq_def ..
  rw [watched]
  unfold LoggedBatch.selects batchSelectsEvent eventMatchesConfirmedWindow isTimely
  rw [show (batch.decoded config).purpose = batch.purpose from rfl]
  cases tracking : eventTrackingTarget (intakeEvent event) with
  | some target =>
      rw [discoverySeed_of_tracked tracking]
      cases batch.purpose <;> exact (Bool.and_true _).symm
  | none =>
      cases purpose : batch.purpose with
      | trackedActivity =>
          change false = (batch.windowTokens.any (fun _ => false) && _)
          rw [List.any_eq_false.mpr fun _ _ => Bool.false_ne_true, Bool.false_and]
      | discovery =>
          cases seeded : discoverySeed (intakeEvent event) config.network with
          | none =>
              change false = (batch.windowTokens.any (fun _ => false) && _)
              rw [List.any_eq_false.mpr fun _ _ => Bool.false_ne_true, Bool.false_and]
          | some seed => exact Bool.or_false _

/-- The search for a token stops at the first one that is open under the market. -/
theorem matchingWindowToken_eq_find (batch : LoggedBatch) (current : InterleavedProcessing)
    (normalized : NormalizedPumpEvent) :
    batch.matchingWindowToken current.windows normalized.observation.market =
      batch.windowTokens.find? (current.matchesMarket batch normalized) := by
  unfold LoggedBatch.matchingWindowToken
  cases tracked : ObservationTarget.forMarket normalized.observation.market with
  | none =>
      have never : current.matchesMarket batch normalized = fun _ => false := by
        funext token
        rw [InterleavedProcessing.matchesMarket, tracked]
        rfl
      rw [never]
      exact (List.find?_eq_none.mpr fun _ _ found => by cases found).symm
  | some target =>
      have opens : current.matchesMarket batch normalized = fun token =>
          token.target == target && current.windows.isOpenAt token batch.receivedTimeUnixMs := by
        funext token
        rw [InterleavedProcessing.matchesMarket, tracked, Option.some_beq_some,
          BEq.comm]
      rw [opens]
      rfl

end Selection

theorem setCell_setCell (windows : ObservationWindowRegistry) (token : ObservationWindowToken)
    (first second : TokenCell) :
    (windows.setCell token first).setCell token second = windows.setCell token second := by
  unfold ObservationWindowRegistry.setCell
  dsimp only
  rw [Function.update_idem]

/-- The part of a pass behind the storage. -/
def registerStored (config : ProcessingConfig) (processing : BatchProcessing)
    (event : DecodedEvidence) (normalized : NormalizedPumpEvent) :
    Option Bool × ProcessorState → Except ProcessError BatchProcessing
  | (none, state) => .ok { processing with state }
  | (some isNew, state) => do
      let pooled ← registerPool config state event.decoded.coordinate normalized.discoveredMarket
        event.decoded.event
      let registered ← registerDiscovered pooled normalized.discoveredMarket
      return { processing with
        inserted := processing.inserted + (if isNew then 1 else 0)
        state := retireMarket registered event.decoded.event }

theorem storeNormalized_eq_bind (config : ProcessingConfig) (batch : LoggedBatch)
    (processing : BatchProcessing) (event : DecodedEvidence) (normalized : NormalizedPumpEvent) :
    storeNormalized config batch processing event normalized =
      (storeObservation config processing.state event normalized (batch.matchingWindowToken
        processing.state.windows normalized.observation.market) >>=
          registerStored config processing event normalized) := by
  unfold storeNormalized
  dsimp only
  congr 1
  funext stored
  obtain ⟨isNew, state⟩ := stored
  cases isNew <;> rfl

/-- The rest of the storage of a discovery that its window has accepted. -/
def confirmToken (state : ProcessorState) (token : ObservationWindowToken)
    (opened : Persistence.OpenedDiscoveryWindow) :
    Except ProcessError (Option Bool × ProcessorState) :=
  let (isConfirmed, confirmed) := (state.windows.cell token).confirm
  if !isConfirmed then .error (.windowLifecycle unconfirmedToken)
  else
    let (isSet, cell) := confirmed.setDurableWindowId opened.windowId
    if !isSet then .error (.windowLifecycle rejectedWindowId)
    else .ok (some opened.observationInserted, { state with
      windows := state.windows.setCell token cell })

/-- The storage of a discovery behind the transaction that opens its window. -/
def settleToken (state : ProcessorState) (token : ObservationWindowToken)
    (committed : Persistence.OpenedDiscoveryWindow × Persistence.Database) :
    Except ProcessError (Option Bool × ProcessorState) :=
  if committed.1.replayed then
    .ok (none, { state with
      database := committed.2
      windows := state.windows.setCell token (state.windows.cell token).cancelIfPending })
  else confirmToken { state with database := committed.2 } token committed.1

theorem storeDiscovery_eq_bind (config : ProcessingConfig) (state : ProcessorState)
    (event : DecodedEvidence) (observation : Persistence.Observation)
    (token : ObservationWindowToken) :
    storeDiscovery config state event observation (some token) =
      (config.qualification.mapError .persistence >>= fun qualification =>
        (Persistence.openDiscoveryWindow config.isBase64 (config.now event) state.database
          observation (newDiscoveryWindow config token qualification)).mapError .persistence >>=
            settleToken state token) := rfl

namespace InterleavedProcessing

variable {config : ProcessingConfig} {batch : LoggedBatch}

/-- The operations without other tasks lead from one state to another. -/
def Reaches (config : ProcessingConfig) (batch : LoggedBatch)
    (current last : InterleavedProcessing) : Prop :=
  ∃ count, run (step config batch) current (List.replicate count .proceed) = last

theorem Reaches.refl (current : InterleavedProcessing) : Reaches config batch current current :=
  ⟨0, rfl⟩

theorem Reaches.trans {current middle last : InterleavedProcessing}
    (first : Reaches config batch current middle) (second : Reaches config batch middle last) :
    Reaches config batch current last := by
  obtain ⟨before, rfl⟩ := first
  obtain ⟨after, rfl⟩ := second
  refine ⟨before + after, ?_⟩
  rw [List.replicate_add, run_append]

theorem Reaches.proceed {current next last : InterleavedProcessing}
    (proceeds : current.proceed config batch = next) (reached : Reaches config batch next last) :
    Reaches config batch current last := by
  subst proceeds
  exact Reaches.trans ⟨1, rfl⟩ reached

/-- The processing goes on with the next event or returns the error of the current one. -/
def Continues (config : ProcessingConfig) (batch : LoggedBatch) (remaining : List DecodedEvidence)
    (current : InterleavedProcessing) : Except ProcessError BatchProcessing → Prop
  | .ok processing => Reaches config batch current
      (nextEvent batch { processing, remaining, phase := .cancelling [] })
  | .error error => ∃ last, Reaches config batch current last ∧
      last.phase = .returned (.error error)

theorem Reaches.continues {current next : InterleavedProcessing}
    {remaining : List DecodedEvidence} {outcome : Except ProcessError BatchProcessing}
    (reached : Reaches config batch current next)
    (continued : Continues config batch remaining next outcome) :
    Continues config batch remaining current outcome := by
  cases outcome with
  | ok processing => exact reached.trans continued
  | error error =>
      obtain ⟨last, later, returned⟩ := continued
      exact ⟨last, reached.trans later, returned⟩

theorem Continues.proceed {current next : InterleavedProcessing}
    {remaining : List DecodedEvidence} {outcome : Except ProcessError BatchProcessing}
    (proceeds : current.proceed config batch = next)
    (continued : Continues config batch remaining next outcome) :
    Continues config batch remaining current outcome :=
  (Reaches.refl next).proceed proceeds |>.continues continued

theorem Continues.fail {current : InterleavedProcessing} {remaining : List DecodedEvidence}
    (error : ProcessError) :
    Continues config batch remaining (current.fail error) (.error error) :=
  ⟨_, .refl _, rfl⟩

section Passes

variable (config : ProcessingConfig) (batch : LoggedBatch) (processing : BatchProcessing)
  (remaining : List DecodedEvidence) (event : DecodedEvidence) (normalized : NormalizedPumpEvent)

/-- The end of a pass. -/
theorem registering_continues (isNew : Bool) :
    Continues config batch remaining
      { processing, remaining, phase := .registering event normalized isNew }
      (registerStored config processing event normalized (some isNew, processing.state)) := by
  apply Continues.proceed rfl
  change Continues _ _ _ (register ..) _
  unfold register registerStored
  dsimp only
  cases registerPool config processing.state event.decoded.coordinate normalized.discoveredMarket
    event.decoded.event with
  | error error => exact .fail error
  | ok pooled =>
      dsimp only [bind, Except.bind]
      cases registerDiscovered pooled normalized.discoveredMarket with
      | error error => exact .fail error
      | ok registered => exact .refl _

theorem storing_continues (matching : Option ObservationWindowToken) :
    Continues config batch remaining
      { processing, remaining, phase := .storing event normalized matching }
      ((storeActivityEvent config processing.state event normalized.observation matching) >>=
        fun stored => registerStored config processing event normalized
          (some stored.1, stored.2)) := by
  apply Continues.proceed rfl
  change Continues _ _ _ (storeActivity ..) _
  unfold storeActivity
  dsimp only
  cases storeActivityEvent config processing.state event normalized.observation matching with
  | error error => exact .fail error
  | ok stored =>
      exact registering_continues config batch { processing with state := stored.2 } remaining event
        normalized stored.1

/-- The operations of a call on the token compute the call. -/
theorem identifying_continues (token : ObservationWindowToken)
    (opened : Persistence.OpenedDiscoveryWindow) (count : Nat) (call : TokenCall)
    (result : Bool) (cell : TokenCell)
    (called : call.runAlone count (processing.state.windows.cell token) = some (result, cell)) :
    Continues config batch remaining
      { processing, remaining, phase := .identifying event normalized token opened call }
      (if result then registerStored config processing event normalized
          (some opened.observationInserted, { processing.state with
            windows := processing.state.windows.setCell token cell })
        else .error (.windowLifecycle rejectedWindowId)) := by
  induction count generalizing processing call with
  | zero => cases called
  | succ count ih =>
      apply Continues.proceed rfl
      change Continues _ _ _ (identify ..) _
      rw [TokenCall.runAlone] at called
      cases advanced : call.advance false (processing.state.windows.cell token) with
      | mk progress after =>
          rw [advanced] at called
          simp only [identify, InterleavedProcessing.windows, advanced]
          cases progress with
          | running next =>
              have kept : (processing.state.windows.setCell token after).cell token = after :=
                cell_setCell _ _ _
              have continued := ih { processing with state := { processing.state with
                windows := processing.state.windows.setCell token after } } next
                (by rw [kept]; exact called)
              rw [setCell_setCell] at continued
              exact continued
          | returned passed =>
              cases called
              cases result with
              | true =>
                  exact registering_continues config batch { processing with
                    state := { processing.state with
                      windows := processing.state.windows.setCell token cell } } remaining event
                    normalized opened.observationInserted
              | false => exact .fail _

theorem confirming_continues (token : ObservationWindowToken)
    (opened : Persistence.OpenedDiscoveryWindow) :
    Continues config batch remaining
      { processing, remaining, phase := .confirming event normalized token opened }
      (confirmToken processing.state token opened >>=
        registerStored config processing event normalized) := by
  apply Continues.proceed rfl
  change Continues _ _ _ (confirm ..) _
  cases confirms : (processing.state.windows.cell token).confirm with
  | mk isConfirmed confirmed =>
      simp only [confirm, confirmToken, InterleavedProcessing.windows, confirms]
      cases isConfirmed with
      | false => exact .fail _
      | true =>
          have kept : (processing.state.windows.setCell token confirmed).cell token = confirmed :=
            cell_setCell _ _ _
          have called := TokenCall.runAlone_entry
            (show (TokenCall.setDurableWindowId opened.windowId).isEntry = true from rfl) confirmed
          have continued := identifying_continues config batch { processing with
            state := { processing.state with
              windows := processing.state.windows.setCell token confirmed } } remaining event
            normalized token opened 3 (.setDurableWindowId opened.windowId)
            (confirmed.setDurableWindowId opened.windowId).1
            (confirmed.setDurableWindowId opened.windowId).2 (by rw [kept]; exact called)
          rw [setCell_setCell] at continued
          cases isSet : confirmed.setDurableWindowId opened.windowId with
          | mk passed cell =>
              rw [isSet] at continued
              cases passed with
              | true => exact continued
              | false => exact continued

theorem loadingDefaults_continues (token : ObservationWindowToken) :
    Continues config batch remaining
      { processing, remaining, phase := .loadingDefaults event normalized token }
      (storeDiscovery config processing.state event normalized.observation (some token) >>=
        registerStored config processing event normalized) := by
  rw [storeDiscovery_eq_bind]
  apply Continues.proceed rfl
  change Continues _ _ _ (loadDefaults ..) _
  unfold loadDefaults
  cases config.qualification with
  | error error => exact .fail _
  | ok qualification =>
      apply Continues.proceed rfl
      change Continues _ _ _ (openWindow ..) (((Persistence.openDiscoveryWindow ..).mapError
        .persistence >>= settleToken processing.state token) >>= _)
      unfold openWindow
      dsimp only
      cases Persistence.openDiscoveryWindow config.isBase64 (config.now event)
        processing.state.database normalized.observation
          (newDiscoveryWindow config token qualification) with
      | error error => exact .fail _
      | ok committed =>
          obtain ⟨opened, database⟩ := committed
          dsimp only
          change Continues _ _ _ _ (settleToken processing.state token (opened, database) >>= _)
          unfold settleToken
          by_cases replayed : opened.replayed = true
          · rw [if_pos replayed, if_pos replayed]
            apply Continues.proceed rfl
            exact .refl _
          · rw [if_neg replayed, if_neg replayed]
            exact confirming_continues config batch { processing with
              state := { processing.state with database } } remaining event normalized token opened

/-- The loads of the search find the first token that is open under the market. -/
theorem matching_continues (tokens : List ObservationWindowToken)
    {outcome : Except ProcessError BatchProcessing}
    (chosen : Continues config batch remaining
      (choose { processing, remaining, phase := .matching event normalized [] } event normalized
        (tokens.find? (matchesMarket batch
          { processing, remaining, phase := .matching event normalized [] } normalized))) outcome) :
    Continues config batch remaining
      { processing, remaining, phase := .matching event normalized tokens } outcome := by
  induction tokens with
  | nil => exact .proceed rfl chosen
  | cons token rest ih =>
      apply Continues.proceed rfl
      change Continues _ _ _ (matchToken batch
        { processing, remaining, phase := .matching event normalized (token :: rest) } event
          normalized (token :: rest)) _
      rw [matchToken]
      split
      · rename_i matched
        change matchesMarket batch
          { processing, remaining, phase := .matching event normalized [] } normalized token =
            true at matched
        rw [List.find?_cons_of_pos matched] at chosen
        exact chosen
      · rename_i unmatched
        change ¬ matchesMarket batch
          { processing, remaining, phase := .matching event normalized [] } normalized token =
            true at unmatched
        rw [List.find?_cons_of_neg unmatched] at chosen
        exact ih chosen

theorem storeNormalized_continues :
    Continues config batch remaining
      { processing, remaining, phase := .matching event normalized batch.windowTokens }
      (storeNormalized config batch processing event normalized) := by
  apply matching_continues
  have found := matchingWindowToken_eq_find batch
    { processing, remaining, phase := .matching event normalized [] } normalized
  change batch.matchingWindowToken processing.state.windows _ = _ at found
  rw [storeNormalized_eq_bind, ← found]
  unfold choose storeObservation
  cases normalized.discoveredMarket with
  | none =>
      dsimp only
      have stored := storing_continues config batch processing remaining event normalized
        (batch.matchingWindowToken processing.state.windows normalized.observation.market)
      rw [bind_assoc]
      exact stored
  | some market =>
      cases batch.matchingWindowToken processing.state.windows normalized.observation.market with
      | none => exact .fail _
      | some token =>
          exact loadingDefaults_continues config batch processing remaining event normalized token

/-- A selected event is normalized and then stored or quarantined. -/
theorem select_continues (tokens : List ObservationWindowToken)
    (selected : batch.selects config processing.state.windows event.decoded.event = true) :
    Continues config batch remaining
      (select config batch { processing, remaining, phase := .selecting event tokens } event)
      (processEvent config batch processing event) := by
  have passed : ¬ (!batch.selects config processing.state.windows event.decoded.event) = true := by
    rw [selected]
    exact Bool.false_ne_true
  unfold select processEvent
  rw [if_neg passed]
  dsimp only
  cases normalizePumpEvent config.encoding event.decoded config.network config.commitment
    batch.receivedTimeUnixMs event.rawEvidence processing.state.markets with
  | ok normalized => exact storeNormalized_continues config batch _ remaining event normalized
  | error error =>
      dsimp only
      cases quarantineReason error with
      | none => exact .fail _
      | some reasonCode =>
          apply Continues.proceed rfl
          change Continues _ _ _ (quarantine ..) (recordPipelineQuarantine .. >>= _)
          unfold quarantine
          dsimp only
          cases recordPipelineQuarantine config event.decoded.program.sourceProgram
            processing.state {
              coordinate := event.decoded.coordinate
              reasonCode
              reasonDetail := displayNormalizationError error
              rawEvidence := event.rawEvidence } with
          | error error => exact .fail _
          | ok state => exact .refl _

/-- The loads of the selection make a pass of the loop over the events. -/
theorem selecting_continues (tokens : List ObservationWindowToken)
    (selects : batch.selects config processing.state.windows event.decoded.event =
      (tokens.any (batch.watches config processing.state.windows event.decoded.event) &&
        batch.isTimely config event.decoded.event)) :
    Continues config batch remaining
      { processing, remaining, phase := .selecting event tokens }
      (processEvent config batch processing event) := by
  have skips (skipped : batch.selects config processing.state.windows event.decoded.event =
      false) : processEvent config batch processing event = .ok processing := by
    rw [processEvent, skipped]
    rfl
  induction tokens with
  | nil =>
      rw [skips selects]
      exact .proceed rfl (.refl _)
  | cons token rest ih =>
      apply Continues.proceed rfl
      change Continues _ _ _ (selectToken config batch
        { processing, remaining, phase := .selecting event (token :: rest) } event
          (token :: rest)) _
      rw [List.any_cons] at selects
      rw [selectToken]
      change Continues _ _ _ (if batch.watches config processing.state.windows
        event.decoded.event token = true then _ else _) _
      cases watched : batch.watches config processing.state.windows event.decoded.event token with
      | true =>
          rw [watched, Bool.true_or, Bool.true_and] at selects
          rw [if_pos rfl]
          cases timely : batch.isTimely config event.decoded.event with
          | true =>
              rw [timely] at selects
              exact select_continues config batch processing remaining event _ selects
          | false =>
              rw [timely] at selects
              rw [skips selects]
              exact .refl _
      | false =>
          rw [watched, Bool.false_or] at selects
          rw [if_neg Bool.false_ne_true]
          exact ih selects

end Passes

/-- The loop over the events. -/
theorem nextEvent_continues (config : ProcessingConfig) (batch : LoggedBatch)
    (processing : BatchProcessing) (remaining : List DecodedEvidence) :
    Continues config batch [] (nextEvent batch { processing, remaining, phase := .cancelling [] })
      (remaining.foldlM (processEvent config batch) processing) := by
  induction remaining generalizing processing with
  | nil => exact .refl _
  | cons event rest ih =>
      have passed := selecting_continues config batch processing rest event batch.windowTokens
        (LoggedBatch.selects_eq_watches _)
      rw [List.foldlM_cons]
      cases pass : processEvent config batch processing event with
      | error error =>
          rw [pass] at passed
          exact passed
      | ok next =>
          rw [pass] at passed
          exact Reaches.continues passed (ih next)

/-- The cancellations of the pending tokens. -/
theorem cancelling_reaches (config : ProcessingConfig) (batch : LoggedBatch)
    (processing : BatchProcessing) (remaining : List DecodedEvidence)
    (tokens : List ObservationWindowToken) :
    Reaches config batch { processing, remaining, phase := .cancelling tokens }
      { processing := { processing with state := { processing.state with
          windows := tokens.foldl (fun windows token =>
            windows.setCell token (windows.cell token).cancelIfPending) processing.state.windows } }
        remaining
        phase := .returned (.ok (finishBatch batch processing).1) } := by
  induction tokens generalizing processing with
  | nil => exact .proceed rfl (.refl _)
  | cons token rest ih =>
      apply Reaches.proceed rfl
      exact ih { processing with state := { processing.state with
        windows := processing.state.windows.setCell token
          (processing.state.windows.cell token).cancelIfPending } }

/-- Without other tasks the operations compute the processing of the batch. -/
theorem start_computes (config : ProcessingConfig) (state : ProcessorState) (batch : LoggedBatch) :
    ∃ last, Reaches config batch (start config batch state) last ∧
      match processBatch config state batch with
      | .ok (outcome, after) => last.phase = .returned (.ok outcome) ∧ last.processing.state = after
      | .error error => last.phase = .returned (.error error) := by
  have finishes (processing : BatchProcessing) : ∃ last, Reaches config batch
      (nextEvent batch { processing, remaining := [], phase := .cancelling [] }) last ∧
        last.phase = .returned (.ok (finishBatch batch processing).1) ∧
          last.processing.state = (finishBatch batch processing).2 := by
    refine ⟨_, cancelling_reaches config batch processing []
      (if batch.purpose = .discovery then batch.windowTokens else []), rfl, ?_⟩
    unfold finishBatch cancelPending
    dsimp only
    split <;> rfl
  unfold start processBatch
  dsimp only
  split
  · exact finishes _
  · cases [SourcePump.PumpProgram.pump, .pumpSwap].foldlM (decodeProgram config batch)
      ({ state, inserted := 0, complete := !batch.transactionError, selectedEvents := 0 }, []) with
    | error error => exact ⟨_, .refl _, rfl⟩
    | ok decoded =>
        obtain ⟨processing, events⟩ := decoded
        have looped := nextEvent_continues config batch processing (orderedEvidence events)
        change ∃ last, Reaches config batch (nextEvent batch
          { processing, remaining := orderedEvidence events, phase := .cancelling [] }) last ∧
            match (orderedEvidence events).foldlM (processEvent config batch) processing >>=
              fun processed => pure (finishBatch batch processed) with
            | .ok (outcome, after) => _
            | .error error => _
        cases folded : (orderedEvidence events).foldlM (processEvent config batch) processing with
        | error error =>
            rw [folded] at looped
            exact looped
        | ok processed =>
            rw [folded] at looped
            obtain ⟨last, reached, ended⟩ := finishes processed
            exact ⟨last, looped.trans reached, ended⟩

end InterleavedProcessing
end Soldisco.Pipeline

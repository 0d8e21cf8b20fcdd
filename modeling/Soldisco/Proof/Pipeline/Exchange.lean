import Mathlib.Tactic.Abel
import Soldisco.Library.Holding
import Soldisco.Proof.Pipeline.Collection

/-
This file says once what a step can do: it first changes the windows and then hands the admissions
of one owner to others.
-/

namespace Soldisco.Pipeline
open Domain Window Intake Holding

/-- The owners that the outcome of a collection leaves behind. -/
def Collected.owners : Collected → Multiset Owner
  | .suspended collector => {.collector collector}
  | .returned batches calls => (batches : Multiset ProgramLogBatch).map .batch +
      {.release { batch := none, handed := [], completed := false, calls }}

/-- The batch that an owner carries. -/
def Owner.carried : Owner → Option ProgramLogBatch
  | .batch current => some current
  | .processing current => some current.batch
  | _ => none

/-- The cancellations of a batch that the full pending queue refuses. -/
def ProgramLogBatch.overflow (batch : ProgramLogBatch) : TokenCalls :=
  batch.windowTokens.map fun token => (token, .cancelWithReason .queueOverflow)

/-- The windows after one atomic operation of a call. -/
def windowsAfterCall (windows : System) (token : ObservationWindowToken) (call : TokenCall)
    (spuriousFailure : Bool) : System :=
  { windows with
    registry := windows.registry.setCell token
      (call.advance spuriousFailure (windows.registry.cell token)).2 }

/-- The windows after the discovery of a token. -/
def windowsAfterDiscovery (windows : System) (token : ObservationWindowToken) (windowId : Int)
    (replayed : Bool) : System :=
  { windows with
    registry := (Processing.openDiscovery windows.registry token windowId replayed).2 }

section Moves

variable (config : PipelineConfig) (before : State) (action : Action)

/-- One owner hands over its admissions while the windows stay. -/
inductive OwnerMove (windows : System) : Multiset Owner → Multiset Owner → Prop where
  | stay (owners : Multiset Owner) : OwnerMove windows owners owners
  | collectorMoves {collector : Collector} {collected : Collected}
      (goesOn : collector.GoesOn collected) (rest : Multiset Owner) :
      OwnerMove windows ({.collector collector} + rest) (collected.owners + rest)
  | collectorDrops (collector : Collector) (rest : Multiset Owner) :
      OwnerMove windows ({.collector collector} + rest) ({.release {
        batch := none, handed := [], completed := false,
        calls := collector.guard.drop ++ collector.trackedWindows.drop }} + rest)
  | batchDrops {owner : Owner} {batch : ProgramLogBatch} (carried : owner.carried = some batch)
      {calls : TokenCalls} (drop : calls = batch.drop ∨ calls = batch.overflow ++ batch.drop)
      (rest : Multiset Owner) :
      OwnerMove windows ({owner} + rest)
        ({.release { batch := some batch, handed := [], completed := false, calls }} + rest)
  | begins {batch : ProgramLogBatch} {processing : Processing}
      (process : batch.process = some processing) (rest : Multiset Owner) :
      OwnerMove windows ({.batch batch} + rest) ({.processing processing} + rest)
  | selects {processing : Processing}
      (resolved : WindowsResolved config before action → processing.Resolved
        config.collector.network config.collector.maximumDiscoveryAgeMillis windows.registry)
      (rest : Multiset Owner) :
      OwnerMove windows ({.processing processing} + rest) ({.processing (processing.select
        config.collector.network config.collector.maximumDiscoveryAgeMillis windows.registry)} + rest)
  | quarantines {processing : Processing} {event : DecodedEvent}
      (selected : processing.selected = some event) (rest : Multiset Owner) :
      OwnerMove windows ({.processing processing} + rest)
        ({.processing { processing with selected := none, complete := false }} + rest)
  | hands {processing : Processing} {event : DecodedEvent}
      (selected : processing.selected = some event) (rest : Multiset Owner) :
      OwnerMove windows ({.processing processing} + rest) ({.processing { processing with
        selected := none, handed := processing.handed ++ [event] }} + rest)
  | finishes {processing : Processing} (selected : processing.selected = none)
      (remaining : processing.remaining = []) (rest : Multiset Owner) :
      OwnerMove windows ({.processing processing} + rest) ({.release {
        batch := some processing.batch, handed := processing.handed,
        completed := processing.outcomeComplete, calls := processing.finish }} + rest)
  | ends {release : Release} (done : release.calls = []) (rest : Multiset Owner) :
      OwnerMove windows ({.release release} + rest) rest

/-- The windows change by a foreign action, an intake, a discovery or an atomic operation. -/
inductive WindowMove : System → Multiset Owner → List Settlement → Prop where
  | same : WindowMove before.windows before.owners before.settlements
  | foreign {windowAction : Window.Action} (foreign : isForeign windowAction = true) :
      WindowMove (before.windows.step windowAction).2 before.owners before.settlements
  | collects {collector : Collector} {windows : System}
      (owns : collector.Owns before.windows windows) :
      WindowMove windows ({.collector collector} + before.owners) before.settlements
  | discovers {processing : Processing} {event : DecodedEvent} {token : ObservationWindowToken}
      {rest : Multiset Owner} (owners : (before.owners : Multiset Owner) = {.processing processing} + rest)
      (selected : processing.selected = some event)
      (discovery : isDiscoveryEvent event.event = true)
      (member : token ∈ processing.batch.windowTokens) (windowId : Int) (replayed : Bool) :
      WindowMove (windowsAfterDiscovery before.windows token windowId replayed)
        ({.processing processing} + rest) before.settlements
  | runs {release : Release} {token : ObservationWindowToken} {call next : TokenCall}
      {calls : TokenCalls} {spuriousFailure : Bool} {rest : Multiset Owner}
      (owners : (before.owners : Multiset Owner) = {.release release} + rest)
      (pending : release.calls = (token, call) :: calls)
      (running : (call.advance spuriousFailure (before.windows.registry.cell token)).1 =
        .running next) :
      WindowMove (windowsAfterCall before.windows token call spuriousFailure)
        ({.release { release with calls := (token, next) :: calls }} + rest) before.settlements
  | returns {release : Release} {token : ObservationWindowToken} {call : TokenCall}
      {calls : TokenCalls} {spuriousFailure returned : Bool} {rest : Multiset Owner}
      (owners : (before.owners : Multiset Owner) = {.release release} + rest)
      (pending : release.calls = (token, call) :: calls)
      (result : (call.advance spuriousFailure (before.windows.registry.cell token)).1 =
        .returned returned)
      (counts : isSettlement call = true → returned = true → before.settling action = some token) :
      WindowMove (windowsAfterCall before.windows token call spuriousFailure)
        ({.release { release with calls := calls }} + rest)
        (if isSettlement call then before.settlements ++ [{
            token, batch := release.batch, handed := release.handed,
            completed := release.completed, cell := before.windows.registry.cell token, returned }]
          else before.settlements)

/-- A step changes the windows first and hands over the admissions of one owner next. -/
def Exchange (after : State) : Prop :=
  ∃ owners, WindowMove before action after.windows owners after.settlements ∧
    OwnerMove config before action after.windows owners after.owners

end Moves

namespace State

theorem coe_owners (state : State) : (state.owners : Multiset Owner) =
    (state.collectors : Multiset Collector).map .collector +
    (state.outgoing : Multiset ProgramLogBatch).map .batch +
    (state.queue : Multiset ProgramLogBatch).map .batch +
    (state.pendingActivity.batches : Multiset PendingActivityBatch).map
      (.batch ∘ PendingActivityBatch.batch) +
    (state.ready : Multiset ProgramLogBatch).map .batch +
    (state.processing.toList : Multiset Processing).map .processing +
    (state.releases : Multiset Release).map .release := by
  simp only [owners, waiting, List.map_append, List.map_map, ← Multiset.coe_add, Multiset.map_coe]
  abel

theorem owners_appendRelease (state : State) (release : Release) :
    ({ state with releases := state.releases ++ [release] }.owners : Multiset Owner) =
      {.release release} + state.owners := by
  simp only [coe_owners, ← Multiset.coe_add, Multiset.map_add, Multiset.coe_singleton,
    Multiset.map_singleton]
  abel

theorem owners_dropped (state : State) (batch : Option ProgramLogBatch) (calls : TokenCalls) :
    ((state.dropped batch calls).owners : Multiset Owner) =
      {.release { batch, handed := [], completed := false, calls }} + state.owners :=
  owners_appendRelease state _

theorem collect_windows (state : State) (collected : Collected) :
    (state.collect collected).windows = state.windows := by
  cases collected <;> rfl

theorem collect_settlements (state : State) (collected : Collected) :
    (state.collect collected).settlements = state.settlements := by
  cases collected <;> rfl

/-- The outcome of a collection enters beside the other owners. -/
theorem owners_collect (state : State) (collected : Collected) :
    ((state.collect collected).owners : Multiset Owner) = collected.owners + state.owners := by
  cases collected with
  | suspended collector =>
      simp only [coe_owners, collect, Collected.owners, ← Multiset.coe_add, Multiset.map_add,
        Multiset.coe_singleton, Multiset.map_singleton]
      abel
  | returned batches calls =>
      rw [collect, owners_dropped]
      simp only [coe_owners, Collected.owners, ← Multiset.coe_add, Multiset.map_add]
      abel

theorem owners_collectors {state : State} {index : Nat} {collector : Collector}
    (found : state.collectors[index]? = some collector) :
    (state.owners : Multiset Owner) = {.collector collector} +
      { state with collectors := state.collectors.eraseIdx index }.owners := by
  simp only [coe_owners, coe_eraseIdx found, Multiset.map_add, Multiset.map_singleton]
  abel

theorem owners_outgoing {state : State} {index : Nat} {batch : ProgramLogBatch}
    (found : state.outgoing[index]? = some batch) :
    (state.owners : Multiset Owner) = {.batch batch} +
      { state with outgoing := state.outgoing.eraseIdx index }.owners := by
  simp only [coe_owners, coe_eraseIdx found, Multiset.map_add, Multiset.map_singleton]
  abel

theorem owners_queue {state : State} {index : Nat} {batch : ProgramLogBatch}
    (found : state.queue[index]? = some batch) :
    (state.owners : Multiset Owner) = {.batch batch} +
      { state with queue := state.queue.eraseIdx index }.owners := by
  simp only [coe_owners, coe_eraseIdx found, Multiset.map_add, Multiset.map_singleton]
  abel

theorem owners_pending {state : State} {index : Nat} {pending : PendingActivityBatch}
    (found : state.pendingActivity.batches[index]? = some pending) :
    (state.owners : Multiset Owner) = {.batch pending.batch} +
      { state with pendingActivity := { state.pendingActivity with
          batches := state.pendingActivity.batches.eraseIdx index } }.owners := by
  simp only [coe_owners, coe_eraseIdx found, Multiset.map_add, Multiset.map_singleton,
    Function.comp_apply]
  abel

theorem owners_ready {state : State} {index : Nat} {batch : ProgramLogBatch}
    (found : state.ready[index]? = some batch) :
    (state.owners : Multiset Owner) = {.batch batch} +
      { state with ready := state.ready.eraseIdx index }.owners := by
  simp only [coe_owners, coe_eraseIdx found, Multiset.map_add, Multiset.map_singleton]
  abel

theorem owners_processing {state : State} {processing : Processing}
    (found : state.processing = some processing) :
    (state.owners : Multiset Owner) = {.processing processing} +
      { state with processing := none }.owners := by
  simp only [coe_owners, found, Option.toList_some, Option.toList_none, Multiset.coe_singleton,
    Multiset.map_singleton, Multiset.coe_nil, Multiset.map_zero]
  abel

theorem owners_releases {state : State} {index : Nat} {release : Release}
    (found : state.releases[index]? = some release) :
    (state.owners : Multiset Owner) = {.release release} +
      { state with releases := state.releases.eraseIdx index }.owners := by
  simp only [coe_owners, coe_eraseIdx found, Multiset.map_add, Multiset.map_singleton]
  abel

theorem owners_setReleases {state : State} {index : Nat} (bound : index < state.releases.length)
    (release : Release) :
    ({ state with releases := state.releases.set index release }.owners : Multiset Owner) =
      {.release release} + { state with releases := state.releases.eraseIdx index }.owners := by
  simp only [coe_owners, coe_set bound, Multiset.map_add, Multiset.map_singleton]
  abel

end State

/-- The drain moves batches and loses none. -/
theorem drainLoop_batches (registry : ObservationWindowRegistry) (now : Int) (count : Nat)
    (ready : List ProgramLogBatch) (batches : List PendingActivityBatch) :
    let outcome := PendingActivityQueue.drainLoop registry now count ready batches
    (outcome.1 : Multiset ProgramLogBatch) +
        (outcome.2 : Multiset PendingActivityBatch).map PendingActivityBatch.batch =
      ready + (batches : Multiset PendingActivityBatch).map PendingActivityBatch.batch := by
  induction count generalizing ready batches with
  | zero => simp [PendingActivityQueue.drainLoop]
  | succ count ih =>
      cases batches with
      | nil => simp [PendingActivityQueue.drainLoop]
      | cons pending rest =>
          have front : ((pending :: rest : List PendingActivityBatch) :
              Multiset PendingActivityBatch) = {pending} + rest := by
            rw [Multiset.singleton_add, Multiset.cons_coe]
          unfold PendingActivityQueue.drainLoop
          dsimp only
          split <;> rw [ih, front] <;>
            simp only [← Multiset.coe_add, Multiset.map_add, Multiset.coe_singleton,
              Multiset.map_singleton] <;> abel

/-- The pending queue passes a batch on, cancels and drops it or holds it back. -/
theorem admit_cases (queue : PendingActivityQueue) (registry : ObservationWindowRegistry)
    (batch : ProgramLogBatch) (now : Int) :
    queue.admitBatch registry batch now = (.ready batch, queue) ∨
    queue.admitBatch registry batch now = (.dropped (batch.overflow ++ batch.drop), queue) ∨
    ∃ releaseAtUnixMs, queue.admitBatch registry batch now =
      (.deferred, { queue with batches := queue.batches ++ [{ batch, releaseAtUnixMs }] }) := by
  unfold PendingActivityQueue.admitBatch
  split
  · exact Or.inl rfl
  · split
    · exact Or.inr (Or.inl rfl)
    · exact Or.inr (Or.inr ⟨_, rfl⟩)

section Steps

variable {config : PipelineConfig} {state : State} {action : Action}

theorem Exchange.of {after : State} {windows : System} {settlements : List Settlement}
    {leaving entering : Multiset Owner} (change : WindowMove state action windows leaving settlements)
    (windowsAfter : after.windows = windows) (settlementsAfter : after.settlements = settlements)
    (ownersAfter : (after.owners : Multiset Owner) = entering)
    (move : OwnerMove config state action windows leaving entering) :
    Exchange config state action after := by
  subst windowsAfter settlementsAfter
  exact ⟨leaving, change, ownersAfter ▸ move⟩

/-- A step that leaves the windows is a move of the owners alone. -/
theorem Exchange.ofMove {after : State} {leaving entering : Multiset Owner}
    (windows : after.windows = state.windows) (settlements : after.settlements = state.settlements)
    (ownersBefore : (state.owners : Multiset Owner) = leaving)
    (ownersAfter : (after.owners : Multiset Owner) = entering)
    (move : OwnerMove config state action state.windows leaving entering) :
    Exchange config state action after :=
  .of .same windows settlements ownersAfter (ownersBefore ▸ move)

theorem Exchange.idle {after : State} (windows : after.windows = state.windows)
    (settlements : after.settlements = state.settlements)
    (owners : (after.owners : Multiset Owner) = state.owners) :
    Exchange config state action after :=
  .ofMove windows settlements rfl owners (.stay _)

theorem resume_exchange (index : Nat) (awaiting : CollectorAwait) {next : Collector → Collected}
    (goesOn : ∀ collector, Collector.GoesOn collector (next collector)) :
    Exchange config state action (state.resume index awaiting next) := by
  unfold State.resume
  split
  · exact .idle rfl rfl rfl
  · rename_i collector found
    split
    · exact .ofMove (State.collect_windows _ _) (State.collect_settlements _ _)
        (State.owners_collectors found) (State.owners_collect _ _)
        (.collectorMoves (goesOn collector) _)
    · exact .idle rfl rfl rfl

/-- A batch that leaves its place is dropped. -/
theorem dropBatch_exchange {removed : State} {owner : Owner} {batch : ProgramLogBatch}
    (windows : removed.windows = state.windows) (settlements : removed.settlements = state.settlements)
    (carried : owner.carried = some batch)
    (owners : (state.owners : Multiset Owner) = {owner} + removed.owners) :
    Exchange config state action (removed.dropBatch batch) :=
  .ofMove windows settlements owners (State.owners_dropped _ _ _)
    (.batchDrops carried (Or.inl rfl) _)

theorem send_exchange (index : Nat) : Exchange config state action (state.next config (.send index)) := by
  dsimp only [State.next]
  split
  · exact .idle rfl rfl rfl
  · rename_i batch found
    split
    · refine .idle rfl rfl ?_
      rw [State.owners_outgoing found]
      simp only [State.coe_owners, ← Multiset.coe_add, Multiset.map_add, Multiset.coe_singleton,
        Multiset.map_singleton]
      abel
    · exact .idle rfl rfl rfl

theorem receive_exchange (now : Int) : Exchange config state action (state.receive now) := by
  unfold State.receive
  split
  · exact .idle rfl rfl rfl
  · rename_i batch rest queued
    have found : state.queue[0]? = some batch := by rw [queued]; rfl
    have owners := State.owners_queue found
    rw [queued, List.eraseIdx_cons_zero] at owners
    rcases admit_cases state.pendingActivity state.windows.registry batch now with
      outcome | outcome | ⟨releaseAt, outcome⟩ <;> simp only [outcome]
    · refine .idle rfl rfl ?_
      rw [owners]
      simp only [State.coe_owners, ← Multiset.coe_add, Multiset.map_add, Multiset.coe_singleton,
        Multiset.map_singleton]
      abel
    · exact .ofMove rfl rfl owners (State.owners_dropped _ _ _) (.batchDrops rfl (Or.inr rfl) _)
    · refine .idle rfl rfl ?_
      rw [owners]
      simp only [State.coe_owners, ← Multiset.coe_add, Multiset.map_add, Multiset.coe_singleton,
        Multiset.map_singleton, Function.comp_apply]
      abel

theorem drain_exchange (now : Int) : Exchange config state action (state.drain now) := by
  refine .idle rfl rfl ?_
  have moved := congrArg (Multiset.map Owner.batch) (drainLoop_batches state.windows.registry now
    state.pendingActivity.batches.length [] state.pendingActivity.batches)
  simp only [Multiset.map_add, Multiset.map_map, Multiset.coe_nil, zero_add]
    at moved
  simp only [State.coe_owners, State.drain, PendingActivityQueue.drainResolved, ← Multiset.coe_add,
    Multiset.map_add, Function.comp_def] at moved ⊢
  rw [← moved]
  abel

theorem process_exchange : Exchange config state action state.process := by
  unfold State.process
  split
  · rename_i batch rest idle queued
    have found : state.ready[0]? = some batch := by rw [queued]; rfl
    have owners := State.owners_ready found
    rw [queued, List.eraseIdx_cons_zero] at owners
    split
    · rename_i processing process
      have begun : ({ state with ready := rest, processing := some processing }.owners :
          Multiset Owner) = {.processing processing} + { state with ready := rest }.owners := by
        simp only [State.coe_owners, idle, Option.toList_some, Option.toList_none,
          Multiset.coe_singleton, Multiset.map_singleton, Multiset.coe_nil, Multiset.map_zero]
        abel
      exact .ofMove rfl rfl owners begun (.begins process _)
    · exact dropBatch_exchange (by rfl) (by rfl) (by rfl) owners
  · exact .idle rfl rfl rfl

/-- The processor keeps its batch with a new loop state. -/
theorem owners_setProcessing {next : Processing} (windows : System) :
    ({ state with windows, processing := some next }.owners : Multiset Owner) =
      {.processing next} + { state with processing := none }.owners := by
  simp only [State.coe_owners, Option.toList_some, Option.toList_none, Multiset.coe_singleton,
    Multiset.map_singleton, Multiset.coe_nil, Multiset.map_zero]
  abel

theorem select_exchange : Exchange config state .select (state.next config .select) := by
  dsimp only [State.next]
  cases found : state.processing with
  | none => exact .idle rfl rfl (by rw [Option.map_none, ← found])
  | some processing =>
      exact .ofMove rfl rfl (State.owners_processing found) (owners_setProcessing _)
        (.selects (fun resolved => resolved rfl processing found) _)

theorem finish_exchange : Exchange config state action state.finish := by
  unfold State.finish
  split
  · exact .idle rfl rfl rfl
  · rename_i processing found
    split
    · rename_i done
      simp only [Bool.and_eq_true, Option.isNone_iff_eq_none, List.isEmpty_iff] at done
      exact .ofMove rfl rfl (State.owners_processing found)
        (State.owners_appendRelease { state with processing := none } _)
        (.finishes done.1 done.2 _)
    · exact .idle rfl rfl rfl

theorem matchingWindowToken_mem {processing : Processing} {registry : ObservationWindowRegistry}
    {marketTarget : Option ObservationTarget} {token : ObservationWindowToken}
    (matched : processing.matchingWindowToken registry marketTarget = some token) :
    token ∈ processing.batch.windowTokens := by
  obtain ⟨target, _, first⟩ := Option.bind_eq_some_iff.mp matched
  exact List.mem_of_find?_eq_some first

theorem store_exchange (reply : StoreReply) : Exchange config state action (state.store reply) := by
  unfold State.store
  split
  · exact .idle rfl rfl rfl
  · rename_i processing found
    have owners := State.owners_processing found
    unfold Processing.store
    cases selected : processing.selected with
    | none => exact .idle rfl rfl ((owners_setProcessing _).trans owners.symm)
    | some event =>
        cases reply with
        | quarantined =>
            exact .ofMove rfl rfl owners (owners_setProcessing _) (.quarantines selected _)
        | normalized marketTarget windowId replayed =>
            dsimp only
            split
            · rename_i discovery
              split
              · exact dropBatch_exchange (by rfl) (by rfl) (by rfl) owners
              · rename_i token matched
                have change : WindowMove state action
                    (windowsAfterDiscovery state.windows token windowId replayed) _ _ :=
                  .discovers owners selected discovery (matchingWindowToken_mem matched) _ _
                cases (Processing.openDiscovery state.windows.registry token windowId replayed).1 with
                | false =>
                    exact .of change rfl rfl
                      (State.owners_dropped { state with processing := none } _ _)
                      (.batchDrops rfl (Or.inl rfl) _)
                | true =>
                    exact .of change rfl rfl (owners_setProcessing _) (.hands selected _)
            · exact .ofMove rfl rfl owners (owners_setProcessing _) (.hands selected _)

/-- A settlement that counts is the exchange of the token that the step settles. -/
theorem settling_release {index : Nat} {spuriousFailure returned : Bool} {release : Release}
    {token : ObservationWindowToken} {call : TokenCall} {calls : TokenCalls}
    (found : state.releases[index]? = some release) (pending : release.calls = (token, call) :: calls)
    (result : (call.advance spuriousFailure (state.windows.registry.cell token)).1 =
      .returned returned)
    (settles : isSettlement call = true) (counted : returned = true) :
    state.settling (.release index spuriousFailure) = some token := by
  simp only [State.settling, found, Option.bind_some, pending, List.head?_cons]
  cases call <;> simp only [isSettlement, Bool.false_eq_true] at settles <;>
    simp only [TokenCall.advance] at result ⊢
  case markSettled => cases result
  case settledLoad =>
      split at result
      · cases result
        cases counted
      · cases result
  case settledExchange =>
      split at result
      · rename_i exchanged
        rw [if_pos exchanged]
      · cases result

theorem release_exchange (index : Nat) (spuriousFailure : Bool) :
    Exchange config state (.release index spuriousFailure)
      (state.release index spuriousFailure) := by
  unfold State.release
  split
  · exact .idle rfl rfl rfl
  · rename_i current found
    have owners := State.owners_releases found
    obtain ⟨bound, _⟩ := List.getElem?_eq_some_iff.mp found
    split
    · rename_i done
      exact .ofMove rfl rfl owners rfl (.ends done _)
    · rename_i token call rest pending
      cases result : (call.advance spuriousFailure (state.windows.registry.cell token)).1 with
      | running next =>
          simp only [result]
          exact .of (.runs owners pending result) rfl rfl (State.owners_setReleases bound _) (.stay _)
      | returned returned =>
          simp only [result]
          exact .of (.returns owners pending result (settling_release found pending result)) rfl rfl
            (State.owners_setReleases bound _) (.stay _)

variable (config) in
/-- Each step changes the windows and hands over the admissions of at most one owner. -/
theorem next_exchange (valid : SystemValid state.windows) (action : Action) :
    Exchange config state action (state.next config action) := by
  cases action with
  | window action =>
      dsimp only [State.next]
      split
      · rename_i foreign
        exact ⟨_, .foreign foreign, .stay _⟩
      · exact .idle rfl rfl rfl
  | notify received classifyNow timeoutNow signatureClaimed =>
      obtain ⟨collector, owns, goesOn⟩ := collectLiveNotification_owns config.collector received
        classifyNow timeoutNow signatureClaimed valid
      exact .of (.collects owns) (State.collect_windows _ _) (State.collect_settlements _ _)
        (State.owners_collect _ _) (.collectorMoves goesOn _)
  | permit index acquired =>
      exact resume_exchange index .permit fun collector => collector.resumePermit_goesOn acquired _
  | transaction index reply =>
      exact resume_exchange index .transaction fun collector =>
        collector.resumeTransaction_goesOn reply
  | rateLimitRecorded index => exact resume_exchange index .rateLimit fun _ => .gaveUp
  | dropCollector index =>
      dsimp only [State.next]
      split
      · exact .idle rfl rfl rfl
      · rename_i collector found
        exact .ofMove rfl rfl (State.owners_collectors found) (State.owners_dropped _ _ _)
          (.collectorDrops collector _)
  | send index => exact send_exchange index
  | dropOutgoing index =>
      dsimp only [State.next]
      split
      · exact .idle rfl rfl rfl
      · rename_i batch found
        exact dropBatch_exchange (by rfl) (by rfl) (by rfl) (State.owners_outgoing found)
  | receive now => exact receive_exchange now
  | dropQueued index =>
      dsimp only [State.next]
      split
      · exact .idle rfl rfl rfl
      · rename_i batch found
        exact dropBatch_exchange (by rfl) (by rfl) (by rfl) (State.owners_queue found)
  | drain now => exact drain_exchange now
  | dropPending index =>
      dsimp only [State.next]
      split
      · exact .idle rfl rfl rfl
      · rename_i pending found
        exact dropBatch_exchange (by rfl) (by rfl) (by rfl) (State.owners_pending found)
  | dropReady index =>
      dsimp only [State.next]
      split
      · exact .idle rfl rfl rfl
      · rename_i batch found
        exact dropBatch_exchange (by rfl) (by rfl) (by rfl) (State.owners_ready found)
  | process => exact process_exchange
  | select => exact select_exchange
  | store reply => exact store_exchange reply
  | finish => exact finish_exchange
  | abandon =>
      dsimp only [State.next]
      split
      · exact .idle rfl rfl rfl
      · rename_i processing found
        exact dropBatch_exchange (by rfl) (by rfl) (by rfl) (State.owners_processing found)
  | release index spuriousFailure => exact release_exchange index spuriousFailure

end Steps
end Soldisco.Pipeline

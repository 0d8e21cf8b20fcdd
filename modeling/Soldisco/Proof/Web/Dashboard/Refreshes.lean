import Soldisco.Construction.Web.Dashboard

/-
This file proves what the refreshes of the page preserve.
-/

namespace Soldisco.Web

namespace RefreshCoordinator

/-- Between the tasks of the page no microtask is left, and a read is outstanding exactly during a
run. -/
structure BetweenTasks (coordinator : RefreshCoordinator) : Prop where
  microtasks : coordinator.microtasks = []
  mounted : coordinator.disposed = false
  unsettled : coordinator.unsettled = coordinator.inFlight.toNat
  queued : coordinator.queued = true → coordinator.inFlight = true

theorem BetweenTasks.create : BetweenTasks .create := ⟨rfl, rfl, rfl, fun impossible => impossible⟩

variable {coordinator : RefreshCoordinator}

/-- A call starts a run or queues a read. -/
structure Called (coordinator next : RefreshCoordinator) : Prop where
  between : next.BetweenTasks
  inFlight : next.inFlight = true
  queued : coordinator.inFlight = true → next.queued = true
  highest : next.highestAcceptedSequence = coordinator.highestAcceptedSequence

theorem BetweenTasks.refresh (between : coordinator.BetweenTasks) :
    Called coordinator (coordinator.refresh none) := by
  unfold RefreshCoordinator.refresh
  dsimp only
  split
  · rename_i running
    exact ⟨⟨between.microtasks, between.mounted, between.unsettled, fun _ => running⟩, running,
      fun _ => rfl, rfl⟩
  · rename_i idle
    have none := between.unsettled
    rw [Bool.eq_false_of_not_eq_true idle] at none
    refine ⟨⟨between.microtasks, between.mounted, ?_, fun _ => rfl⟩, rfl,
      fun running => absurd running idle, rfl⟩
    change coordinator.unsettled + 1 = 1
    rw [none]
    rfl

/-- The highest accepted sequence after a result. -/
def highestAfter (highest : Int) : ReadResult → Int
  | .resolved sequence => if highest ≤ sequence then sequence else highest
  | .rejected => highest

/-- A settled read is followed by a queued one, or its run ends. -/
structure Settled (coordinator : RefreshCoordinator) (result : ReadResult)
    (next : RefreshCoordinator) : Prop where
  between : next.BetweenTasks
  inFlight : next.inFlight = coordinator.queued
  queued : next.queued = false
  highest : next.highestAcceptedSequence =
    highestAfter coordinator.highestAcceptedSequence result

theorem BetweenTasks.settleRead (between : coordinator.BetweenTasks)
    (outstanding : coordinator.unsettled ≠ 0) (result : ReadResult) :
    Settled coordinator result (coordinator.settleRead result) := by
  obtain ⟨disposed, highest, queued, inFlight, latestSnapshot, latestError, unsettled, microtasks,
    reads, calls, accepted, results⟩ := coordinator
  obtain ⟨noMicrotasks, mounted, counted, queuedInFlight⟩ := between
  dsimp only at noMicrotasks mounted counted queuedInFlight outstanding
  subst noMicrotasks mounted counted
  have running : inFlight = true := by
    cases inFlight with
    | true => rfl
    | false => exact absurd rfl outstanding
  subst running
  cases result with
  | rejected =>
      cases queued with
      | false => exact ⟨⟨rfl, rfl, rfl, fun impossible => impossible⟩, rfl, rfl, rfl⟩
      | true => exact ⟨⟨rfl, rfl, rfl, fun _ => rfl⟩, rfl, rfl, rfl⟩
  | resolved sequence =>
      by_cases higher : highest ≤ sequence <;> cases queued <;>
        refine ⟨⟨?_, ?_, ?_, ?_⟩, ?_, ?_, ?_⟩ <;>
        simp [RefreshCoordinator.settleRead, settle, runMicrotask, resume, accept, execute,
          startRead, highestAfter, higher]

end RefreshCoordinator

namespace ResponseFreshness

variable {Key : Type} [DecidableEq Key] {freshness : ResponseFreshness Key}

theorem begin_isCurrent (freshness : ResponseFreshness Key) (key : Key) :
    (freshness.begin key).2.isCurrent (freshness.begin key).1 = true :=
  decide_eq_true (Function.update_self key _ freshness.latestByKey)

/-- A begun response leaves no earlier one of its key current. -/
theorem begin_isCurrent_same {key : Key} {ticket : ResponseTicket Key} (same : ticket.key = key)
    (earlier : ticket.generation ≤ freshness.nextGeneration) :
    (freshness.begin key).2.isCurrent ticket = false := by
  have latest : (freshness.begin key).2.latestByKey ticket.key =
      some (freshness.nextGeneration + 1) := same ▸ Function.update_self key _ freshness.latestByKey
  refine decide_eq_false fun equal => ?_
  have generation := Option.some.inj (latest.symm.trans equal)
  omega

/-- A begun response leaves the other keys alone. -/
theorem begin_isCurrent_other {key : Key} {ticket : ResponseTicket Key} (other : ticket.key ≠ key) :
    (freshness.begin key).2.isCurrent ticket = freshness.isCurrent ticket := by
  have latest : (freshness.begin key).2.latestByKey ticket.key =
      freshness.latestByKey ticket.key := Function.update_of_ne other _ freshness.latestByKey
  unfold isCurrent
  simp only [latest]

end ResponseFreshness

namespace Dashboard

/-- The values that the server shows, the times of their last changes and the time. -/
structure View where
  stream : StreamStateResponse
  streamChangedAt : Option Nat
  projection : Nat
  projectionChangedAt : Option Nat
  clock : Nat

def State.view (state : State) : View where
  stream := state.stream
  streamChangedAt := state.streamChangedAt
  projection := state.projection
  projectionChangedAt := state.projectionChangedAt
  clock := state.clock

/-- A value that was read after the last change is the current one. -/
structure Faithful {Value : Type} (clock : Nat) (changedAt : Option Nat) (current : Value)
    (reading : Reading Value) : Prop where
  past : reading.readAt ≤ clock
  value : (∀ change ∈ changedAt, change < reading.readAt) → reading.value = current

/-- The answer of a request, whether the page has it yet or not. -/
inductive Request.Answers {Value : Type} : Request Value → Reading Value → Prop
  | outstanding (reading : Reading Value) : Answers (.outstanding (some reading)) reading
  | fulfilled (reading : Reading Value) : Answers (.fulfilled reading) reading

theorem Faithful.later {Value : Type} {clock later : Nat} {changedAt : Option Nat} {current : Value}
    {reading : Reading Value} (faithful : Faithful clock changedAt current reading)
    (passed : clock ≤ later) : Faithful later changedAt current reading :=
  ⟨faithful.past.trans passed, faithful.value⟩

/-- Nothing is claimed of the values that were read before a change. -/
theorem Faithful.change {Value : Type} {clock : Nat} {changedAt : Option Nat} {current : Value}
    {reading : Reading Value} (faithful : Faithful clock changedAt current reading) (next : Value) :
    Faithful clock (some clock) next reading :=
  ⟨faithful.past, fun later => absurd (later clock rfl) (not_lt.mpr faithful.past)⟩

theorem faithful_now {Value : Type} (clock : Nat) (changedAt : Option Nat) (current : Value) :
    Faithful clock changedAt current ⟨current, clock⟩ := ⟨le_refl clock, fun _ => rfl⟩

variable {view : View} {browser next : Browser} {index : Nat} {refresh changed : Refresh}

section Streams

/-- The answers of the refresh that holds the current ticket were given since it began, and so was
the shown state when no such refresh runs. -/
structure StreamFresh (view : View) (browser : Browser) : Prop where
  begun : browser.streamBegun ≤ view.clock
  tickets : ∀ refresh ∈ browser.refreshes, refresh.streamTicket.key = .stream ∧
    refresh.streamTicket.generation ≤ browser.freshness.nextGeneration
  answers : ∀ refresh ∈ browser.refreshes, ∀ reading, refresh.stream.Answers reading →
    Faithful view.clock view.streamChangedAt view.stream reading ∧
    (browser.freshness.isCurrent refresh.streamTicket = true → browser.streamBegun ≤ reading.readAt)
  shown : ∀ reading ∈ browser.stream,
    Faithful view.clock view.streamChangedAt view.stream reading
  latest : (∃ refresh ∈ browser.refreshes,
      browser.freshness.isCurrent refresh.streamTicket = true) ∨
    browser.streamError = true ∨
    ∃ reading, browser.stream = some reading ∧ browser.streamBegun ≤ reading.readAt

/-- The fields that the freshness of the stream state is about. -/
structure SameStream (browser next : Browser) : Prop where
  freshness : next.freshness = browser.freshness
  refreshes : next.refreshes = browser.refreshes
  stream : next.stream = browser.stream
  streamError : next.streamError = browser.streamError
  streamBegun : next.streamBegun = browser.streamBegun

theorem StreamFresh.of_same (fresh : StreamFresh view browser) (same : SameStream browser next) :
    StreamFresh view next := by
  obtain ⟨freshness, refreshes, stream, error, begun⟩ := same
  constructor
  · exact begun ▸ fresh.begun
  · rw [refreshes, freshness]
    exact fresh.tickets
  · rw [refreshes, freshness, begun]
    exact fresh.answers
  · exact stream ▸ fresh.shown
  · rw [refreshes, freshness, stream, error, begun]
    exact fresh.latest

/-- A begun refresh holds the current ticket. -/
structure BeginsStream (clock : Nat) (browser next : Browser) (begun : Refresh) : Prop where
  refreshes : next.refreshes = browser.refreshes ++ [begun]
  key : begun.streamTicket.key = .stream
  generation : begun.streamTicket.generation ≤ next.freshness.nextGeneration
  later : browser.freshness.nextGeneration ≤ next.freshness.nextGeneration
  current : next.freshness.isCurrent begun.streamTicket = true
  outdated : ∀ ticket : ResponseTicket ResponseSurface, ticket.key = .stream →
    ticket.generation ≤ browser.freshness.nextGeneration → next.freshness.isCurrent ticket = false
  request : begun.stream = .outstanding none
  stream : next.stream = browser.stream
  streamBegun : next.streamBegun = clock

theorem StreamFresh.begin {begun : Refresh} (fresh : StreamFresh view browser)
    (begins : BeginsStream view.clock browser next begun) : StreamFresh view next := by
  constructor
  · exact begins.streamBegun.le
  · intro refresh listed
    rw [begins.refreshes, List.mem_append, List.mem_singleton] at listed
    rcases listed with earlier | rfl
    · exact ⟨(fresh.tickets refresh earlier).1, (fresh.tickets refresh earlier).2.trans begins.later⟩
    · exact ⟨begins.key, begins.generation⟩
  · intro refresh listed reading answered
    rw [begins.refreshes, List.mem_append, List.mem_singleton] at listed
    rcases listed with earlier | rfl
    · refine ⟨(fresh.answers refresh earlier reading answered).1, fun current => ?_⟩
      obtain ⟨key, generation⟩ := fresh.tickets refresh earlier
      rw [begins.outdated refresh.streamTicket key generation] at current
      cases current
    · rw [begins.request] at answered
      cases answered
  · exact begins.stream ▸ fresh.shown
  · refine .inl ⟨begun, ?_, begins.current⟩
    rw [begins.refreshes]
    exact List.mem_append_right _ (List.mem_singleton_self begun)

/-- A listed refresh gets or keeps an answer. -/
theorem StreamFresh.set (fresh : StreamFresh view browser)
    (present : browser.refreshes[index]? = some refresh)
    (ticket : changed.streamTicket = refresh.streamTicket)
    (answers : ∀ reading, changed.stream.Answers reading →
      refresh.stream.Answers reading ∨ reading = ⟨view.stream, view.clock⟩) :
    StreamFresh view { browser with refreshes := browser.refreshes.set index changed } := by
  have listed := List.mem_of_getElem? present
  constructor
  · exact fresh.begun
  · intro other member
    rcases List.mem_or_eq_of_mem_set member with earlier | rfl
    · exact fresh.tickets other earlier
    · rw [ticket]
      exact fresh.tickets refresh listed
  · intro other member reading answered
    rcases List.mem_or_eq_of_mem_set member with earlier | rfl
    · exact fresh.answers other earlier reading answered
    · rcases answers reading answered with before | rfl
      · have kept := fresh.answers refresh listed reading before
        rw [← ticket] at kept
        exact kept
      · exact ⟨faithful_now _ _ _, fun _ => fresh.begun⟩
  · exact fresh.shown
  · rcases fresh.latest with ⟨other, member, current⟩ | applied
    · obtain ⟨position, found⟩ := List.getElem?_of_mem member
      by_cases same : position = index
      · subst same
        rw [present] at found
        cases found
        refine .inl ⟨changed, ?_, ticket ▸ current⟩
        exact List.mem_set (List.getElem?_eq_some_iff.mp present).1 changed
      · have kept : (browser.refreshes.set index changed)[position]? = some other := by
          rw [List.getElem?_set_ne (Ne.symm same), found]
        exact .inl ⟨other, List.mem_of_getElem? kept, current⟩
    · exact .inr applied

/-- A finished refresh with the current ticket shows its answer or its failure. -/
theorem StreamFresh.applyStream (fresh : StreamFresh view browser)
    (present : browser.refreshes[index]? = some refresh)
    (ticket : changed.streamTicket = refresh.streamTicket)
    (answers : ∀ reading, changed.stream.Answers reading → refresh.stream.Answers reading) :
    StreamFresh view ((browser.remove index).applyStream changed) := by
  have listed := List.mem_of_getElem? present
  have rest : ∀ other ∈ browser.refreshes.eraseIdx index, other ∈ browser.refreshes :=
    fun other member => List.mem_of_mem_eraseIdx member
  unfold Browser.applyStream Browser.remove
  by_cases current : browser.freshness.isCurrent changed.streamTicket = true
  · rw [if_pos current]
    cases result : changed.stream with
    | fulfilled reading =>
        have own := answers reading (result ▸ .fulfilled reading)
        obtain ⟨faithful, recent⟩ := fresh.answers refresh listed reading own
        refine ⟨fresh.begun, fun other member => fresh.tickets other (rest other member),
          fun other member => fresh.answers other (rest other member), ?_, ?_⟩
        · intro shown same
          cases same
          exact faithful
        · exact .inr (.inr ⟨reading, rfl, recent (ticket ▸ current)⟩)
    | outstanding answer =>
        exact ⟨fresh.begun, fun other member => fresh.tickets other (rest other member),
          fun other member => fresh.answers other (rest other member), fresh.shown, .inr (.inl rfl)⟩
    | rejected =>
        exact ⟨fresh.begun, fun other member => fresh.tickets other (rest other member),
          fun other member => fresh.answers other (rest other member), fresh.shown, .inr (.inl rfl)⟩
  · rw [if_neg current]
    refine ⟨fresh.begun, fun other member => fresh.tickets other (rest other member),
      fun other member => fresh.answers other (rest other member), fresh.shown, ?_⟩
    rcases fresh.latest with ⟨other, member, holds⟩ | applied
    · refine .inl ⟨other, ?_, holds⟩
      obtain ⟨position, found⟩ := List.getElem?_of_mem member
      refine List.mem_eraseIdx_iff_getElem?.mpr ⟨position, ?_, found⟩
      rintro rfl
      rw [present] at found
      cases found
      exact current (ticket ▸ holds)
    · exact .inr applied

theorem SameStream.applyStream (same : SameStream browser next) (refresh : Refresh) :
    SameStream (browser.applyStream refresh) (next.applyStream refresh) := by
  obtain ⟨freshness, refreshes, stream, error, begun⟩ := same
  have current : next.freshness.isCurrent refresh.streamTicket =
      browser.freshness.isCurrent refresh.streamTicket := by rw [freshness]
  unfold Browser.applyStream
  rw [current]
  split
  · cases refresh.stream with
    | fulfilled reading => exact ⟨freshness, refreshes, rfl, rfl, begun⟩
    | outstanding answer => exact ⟨freshness, refreshes, stream, rfl, begun⟩
    | rejected => exact ⟨freshness, refreshes, stream, rfl, begun⟩
  · exact ⟨freshness, refreshes, stream, error, begun⟩

/-- The time passes, or the state of the stream changes now. -/
theorem StreamFresh.later {later : View} (fresh : StreamFresh view browser)
    (passed : view.clock ≤ later.clock)
    (moved : (later.stream = view.stream ∧ later.streamChangedAt = view.streamChangedAt) ∨
      (later.clock = view.clock ∧ later.streamChangedAt = some view.clock)) :
    StreamFresh later browser := by
  have moves : ∀ reading, Faithful view.clock view.streamChangedAt view.stream reading →
      Faithful later.clock later.streamChangedAt later.stream reading := by
    intro reading faithful
    rcases moved with ⟨same, unchanged⟩ | ⟨now, changedNow⟩
    · rw [same, unchanged]
      exact faithful.later passed
    · rw [now, changedNow]
      exact faithful.change later.stream
  constructor
  · exact fresh.begun.trans passed
  · exact fresh.tickets
  · intro refresh listed reading answered
    obtain ⟨faithful, recent⟩ := fresh.answers refresh listed reading answered
    exact ⟨moves reading faithful, recent⟩
  · exact fun reading shown => moves reading (fresh.shown reading shown)
  · exact fresh.latest

end Streams

section Discovery

/-- The answer to the outstanding read was given since it began, and so was the shown snapshot when
no read runs and the last one has not failed. -/
structure DiscoveryFresh (view : View) (browser : Browser) : Prop where
  between : browser.coordinator.BetweenTasks
  begun : browser.readBegun ≤ view.clock
  idle : browser.coordinator.inFlight = false → browser.discoveryAnswer = none
  answer : ∀ reading ∈ browser.discoveryAnswer,
    Faithful view.clock view.projectionChangedAt view.projection reading ∧
    browser.readBegun ≤ reading.readAt ∧
    browser.coordinator.highestAcceptedSequence ≤ reading.value ∧ reading.value ≤ view.projection
  highest : browser.coordinator.highestAcceptedSequence ≤ view.projection
  shown : ∀ reading ∈ browser.snapshot,
    Faithful view.clock view.projectionChangedAt view.projection reading ∧
    (reading.value : Int) ≤ browser.coordinator.highestAcceptedSequence
  latest : browser.coordinator.inFlight = true ∨ browser.lastReadFailed = true ∨
    ∃ reading, browser.snapshot = some reading ∧ browser.readBegun ≤ reading.readAt

structure SameDiscovery (browser next : Browser) : Prop where
  coordinator : next.coordinator = browser.coordinator
  answer : next.discoveryAnswer = browser.discoveryAnswer
  snapshot : next.snapshot = browser.snapshot
  failed : next.lastReadFailed = browser.lastReadFailed
  begun : next.readBegun = browser.readBegun

theorem DiscoveryFresh.of_same (fresh : DiscoveryFresh view browser)
    (same : SameDiscovery browser next) : DiscoveryFresh view next := by
  obtain ⟨coordinator, answer, snapshot, failed, begun⟩ := same
  constructor
  · exact coordinator ▸ fresh.between
  · exact begun ▸ fresh.begun
  · rw [coordinator, answer]
    exact fresh.idle
  · rw [coordinator, answer, begun]
    exact fresh.answer
  · exact coordinator ▸ fresh.highest
  · rw [coordinator, snapshot]
    exact fresh.shown
  · rw [coordinator, snapshot, failed, begun]
    exact fresh.latest

theorem DiscoveryFresh.callCoordinator (fresh : DiscoveryFresh view browser) :
    DiscoveryFresh view (browser.callCoordinator view.clock) := by
  have called := fresh.between.refresh
  unfold Browser.callCoordinator
  constructor
  · exact called.between
  · dsimp only
    split
    · exact fresh.begun
    · exact le_refl view.clock
  · intro idle
    exact absurd called.inFlight (Bool.eq_false_iff.mp idle)
  · intro reading given
    have running : browser.coordinator.inFlight = true := by
      cases inFlight : browser.coordinator.inFlight with
      | true => rfl
      | false =>
          have none := fresh.idle inFlight
          rw [Option.mem_def.mp given] at none
          cases none
    dsimp only
    rw [if_pos running, called.highest]
    exact fresh.answer reading given
  · exact called.highest.symm ▸ fresh.highest
  · dsimp only
    rw [called.highest]
    exact fresh.shown
  · exact .inl called.inFlight

/-- The answer of a read is shown, since the sequence of the server never falls. -/
theorem settleRead_snapshot (fresh : DiscoveryFresh view browser) {reading : Reading Nat}
    (given : browser.discoveryAnswer = some reading) :
    (browser.settleRead (some reading)).snapshot = some reading := by
  obtain ⟨-, -, higher, -⟩ := fresh.answer reading given
  have accepts : (!browser.coordinator.disposed &&
      decide (browser.coordinator.highestAcceptedSequence ≤ (reading.value : Int))) = true := by
    rw [fresh.between.mounted, decide_eq_true higher]
    rfl
  unfold Browser.settleRead
  dsimp only
  rw [Option.filter_some, if_pos accepts, Option.elim_some]
  unfold Browser.acceptSnapshot
  rw [if_neg]
  intro lower
  obtain ⟨shown, present, above⟩ := (Option.any_eq_true _ _).mp lower
  have below := (fresh.shown shown present).2
  have above := of_decide_eq_true above
  omega

/-- A settled read shows its answer, or it has failed. -/
theorem DiscoveryFresh.settleRead (fresh : DiscoveryFresh view browser)
    (outstanding : browser.coordinator.unsettled ≠ 0) {answer : Option (Reading Nat)}
    (given : ∀ reading ∈ answer, browser.discoveryAnswer = some reading) (begun : Nat)
    (restarted : (browser.settleRead answer).coordinator.inFlight = true → begun = view.clock)
    (kept : (browser.settleRead answer).coordinator.inFlight = false →
      begun = browser.readBegun) :
    DiscoveryFresh view { browser.settleRead answer with readBegun := begun } := by
  have settled := fresh.between.settleRead outstanding
    (answer.elim .rejected fun reading => .resolved reading.value)
  have highest : (browser.settleRead answer).coordinator.highestAcceptedSequence =
      RefreshCoordinator.highestAfter browser.coordinator.highestAcceptedSequence
        (answer.elim .rejected fun reading => .resolved reading.value) := settled.highest
  constructor
  · exact settled.between
  · dsimp only
    cases running : (browser.settleRead answer).coordinator.inFlight with
    | true => exact (restarted running).le
    | false => exact (kept running).le.trans fresh.begun
  · exact fun _ => rfl
  · intro reading impossible
    cases impossible
  · dsimp only
    rw [highest]
    cases answer with
    | none => exact fresh.highest
    | some reading =>
        obtain ⟨-, -, higher, known⟩ := fresh.answer reading (given reading rfl)
        change (if _ then _ else _) ≤ _
        rw [if_pos higher]
        exact Int.ofNat_le.mpr known
  · dsimp only
    rw [highest]
    cases answer with
    | none => exact fresh.shown
    | some reading =>
        obtain ⟨faithful, -, higher, -⟩ := fresh.answer reading (given reading rfl)
        rw [settleRead_snapshot fresh (given reading rfl)]
        intro shown same
        cases same
        refine ⟨faithful, ?_⟩
        change _ ≤ if _ then _ else _
        rw [if_pos higher]
  · cases running : (browser.settleRead answer).coordinator.inFlight with
    | true => exact .inl rfl
    | false =>
        cases answer with
        | none => exact .inr (.inl rfl)
        | some reading =>
            obtain ⟨-, recent, -⟩ := fresh.answer reading (given reading rfl)
            refine .inr (.inr ⟨reading, settleRead_snapshot fresh (given reading rfl), ?_⟩)
            dsimp only
            rw [kept running]
            exact recent

/-- The time passes, or the projection changes now. -/
theorem DiscoveryFresh.later {later : View} (fresh : DiscoveryFresh view browser)
    (passed : view.clock ≤ later.clock) (grown : view.projection ≤ later.projection)
    (moved : (later.projection = view.projection ∧
        later.projectionChangedAt = view.projectionChangedAt) ∨
      (later.clock = view.clock ∧ later.projectionChangedAt = some view.clock)) :
    DiscoveryFresh later browser := by
  have moves : ∀ reading,
      Faithful view.clock view.projectionChangedAt view.projection reading →
        Faithful later.clock later.projectionChangedAt later.projection reading := by
    intro reading faithful
    rcases moved with ⟨same, unchanged⟩ | ⟨now, changedNow⟩
    · rw [same, unchanged]
      exact faithful.later passed
    · rw [now, changedNow]
      exact faithful.change later.projection
  constructor
  · exact fresh.between
  · exact fresh.begun.trans passed
  · exact fresh.idle
  · intro reading given
    obtain ⟨faithful, recent, higher, known⟩ := fresh.answer reading given
    exact ⟨moves reading faithful, recent, higher, known.trans grown⟩
  · exact fresh.highest.trans (Int.ofNat_le.mpr grown)
  · intro reading shown
    obtain ⟨faithful, below⟩ := fresh.shown reading shown
    exact ⟨moves reading faithful, below⟩
  · exact fresh.latest

/-- The server answers the outstanding read with its current sequence. -/
theorem DiscoveryFresh.serve (fresh : DiscoveryFresh view browser) :
    DiscoveryFresh view { browser with
      discoveryAnswer :=
        if browser.coordinator.unsettled = 0 then none
        else browser.discoveryAnswer <|> some ⟨view.projection, view.clock⟩ } := by
  constructor
  · exact fresh.between
  · exact fresh.begun
  · intro idle
    have none := fresh.between.unsettled
    rw [idle] at none
    exact if_pos none
  · intro reading given
    dsimp only at given
    split at given
    · cases given
    · cases earlier : browser.discoveryAnswer with
      | some answer =>
          rw [earlier] at given
          cases given
          exact fresh.answer reading earlier
      | none =>
          rw [earlier] at given
          cases given
          exact ⟨faithful_now _ _ _, fresh.begun, fresh.highest, le_refl _⟩
  · exact fresh.highest
  · exact fresh.shown
  · exact fresh.latest

end Discovery

end Dashboard
end Soldisco.Web

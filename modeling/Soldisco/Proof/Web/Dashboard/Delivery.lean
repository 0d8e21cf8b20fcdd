import Soldisco.Library.Transition
import Soldisco.Proof.Web.Contracts
import Soldisco.Proof.Web.Dashboard.Tasks

/-
This file proves that a page at rest shows what the server announced.
-/

namespace Soldisco

namespace LiveEvents.LiveEventBus

variable {bus : LiveEventBus}

/-- No sequence is above the number of sent envelopes. -/
structure Numbered (bus : LiveEventBus) : Prop where
  sequence : bus.sequence ≤ bus.sent.length
  sent : ∀ envelope ∈ bus.sent, envelope.sequence ≤ bus.sent.length

/-- A step of the bus sends an envelope with the next sequence or none. -/
inductive Sends (bus next : LiveEventBus) : Prop
  | silent (sequence : next.sequence = bus.sequence) (sent : next.sent = bus.sent)
  | publish (event : LiveEvent) (sequence : next.sequence = bus.nextSequence)
      (sent : next.sent = bus.sent ++ [⟨bus.nextSequence, event⟩])

theorem step_sends (bus : LiveEventBus) (action : Action) : Sends bus (bus.step action).2 := by
  cases action with
  | publishDiscoveryProjectionChanged => exact .silent rfl rfl
  | publishStatus status => exact .publish _ rfl rfl
  | advanceCall index =>
      change Sends bus (bus.advanceCall index)
      unfold advanceCall
      split
      · split <;> exact .silent rfl rfl
      · exact .silent rfl rfl
      · exact .silent rfl rfl
  | advanceTask index =>
      change Sends bus (bus.advanceTask index)
      unfold advanceTask
      split
      · exact .silent rfl rfl
      · exact .silent rfl rfl
      · exact .publish .discoveryProjectionChanged rfl rfl
      · exact .silent rfl rfl

variable {next : LiveEventBus}

theorem Sends.length (sends : Sends bus next) : bus.sent.length ≤ next.sent.length := by
  cases sends with
  | silent _ sent => exact sent ▸ le_refl _
  | publish event _ sent =>
      rw [sent, List.length_append]
      exact Nat.le_add_right _ _

theorem Numbered.sends (numbered : bus.Numbered) (sends : Sends bus next) : next.Numbered := by
  cases sends with
  | silent sequence sent =>
      refine ⟨?_, ?_⟩
      · rw [sequence, sent]
        exact numbered.sequence
      · rw [sent]
        exact numbered.sent
  | publish event sequence sent =>
      have following : bus.nextSequence ≤ bus.sent.length + 1 :=
        (Nat.mod_le _ _).trans (Nat.succ_le_succ numbered.sequence)
      refine ⟨?_, ?_⟩
      · rw [sequence, sent, List.length_append]
        exact following
      · rw [sent, List.length_append]
        intro envelope member
        rcases List.mem_append.mp member with earlier | new
        · exact (numbered.sent envelope earlier).trans (Nat.le_succ _)
        · cases List.mem_singleton.mp new
          exact following

theorem numbered_run (actions : List Action) :
    (Transition.run LiveEventBus.step .new actions).Numbered :=
  Transition.invariant_run LiveEventBus.step Numbered
    (fun bus action numbered => numbered.sends (step_sends bus action))
    ⟨le_refl _, fun envelope member => by cases member⟩ actions

end LiveEvents.LiveEventBus

namespace Web
open LiveEvents (LiveEventBus LiveEvent)

/-- The page reads a served envelope when its sequence is safe. -/
theorem parseLiveEnvelope_serializeEnvelope (envelope : LiveEvents.LiveEnvelope)
    (safe : envelope.sequence < 2 ^ 53) :
    parseLiveEnvelope (serializeEnvelope envelope) =
      .ok { sequence := envelope.sequence, event := envelope.event } := by
  have sequence : safeIntegerAt (.ofInteger envelope.sequence) "$.sequence" 0 =
      .ok (envelope.sequence : Int) := safeIntegerAt_eq_ok.mpr ⟨safeFrom_count.mpr safe, rfl⟩
  have event : parseLiveEvent (serializeLiveEvent envelope.event) "$.event" =
      .ok envelope.event := by
    cases envelope.event with
    | streamStatusChanged status => cases status <;> rfl
    | discoveryProjectionChanged => rfl
    | resyncRequired => rfl
  change (do
    let sequence ← safeIntegerAt (.ofInteger envelope.sequence) "$.sequence" 0
    let event ← parseLiveEvent (serializeLiveEvent envelope.event) "$.event"
    return ({ sequence, event } : LiveEnvelope)) = _
  rw [sequence, event]
  rfl

namespace EventStream

variable {bus next : LiveEventBus} {stream : EventStream} {relevant : LiveEvent → Prop}
  {index : Nat}

/-- The stream has a first event until its receiver has begun to read. -/
structure Sound (bus : LiveEventBus) (stream : EventStream) : Prop where
  next : ∀ next ∈ stream.next, next ≤ bus.sent.length
  subscribed : stream.next = none → stream.initial.isSome = true
  initial : ∀ envelope ∈ stream.initial,
    envelope.event = .resyncRequired ∧ envelope.sequence ≤ bus.sent.length
  wire : ∀ envelope ∈ stream.wire, envelope.sequence ≤ bus.sent.length

/-- The stream still brings the page an event or a resync. -/
def Carries (relevant : LiveEvent → Prop) (stream : EventStream) (index : Nat) : Prop :=
  stream.initial.isSome = true ∨ (∃ next ∈ stream.next, next ≤ index) ∨
    ∃ envelope ∈ stream.wire, envelope.event = .resyncRequired ∨ relevant envelope.event

theorem sound_get (numbered : bus.Numbered) : (get bus).Sound bus where
  next := fun next impossible => by cases impossible
  subscribed := fun _ => rfl
  initial := fun envelope same => by
    cases same
    exact ⟨rfl, numbered.sequence⟩
  wire := fun envelope impossible => by cases impossible

theorem Sound.sends (sound : stream.Sound bus) (sends : bus.Sends next) : stream.Sound next where
  next := fun position read => (sound.next position read).trans sends.length
  subscribed := sound.subscribed
  initial := fun envelope same =>
    ⟨(sound.initial envelope same).1, (sound.initial envelope same).2.trans sends.length⟩
  wire := fun envelope member => (sound.wire envelope member).trans sends.length

theorem Sound.subscribe (sound : stream.Sound bus) : (stream.subscribe bus).Sound bus := by
  unfold EventStream.subscribe
  split
  · refine ⟨fun next same => ?_, fun impossible => ?_, sound.initial, sound.wire⟩
    · cases same
      exact le_refl _
    · cases impossible
  · exact sound

theorem Carries.subscribe (sound : stream.Sound bus) (carries : stream.Carries relevant index) :
    (stream.subscribe bus).Carries relevant index := by
  unfold EventStream.subscribe
  split
  · exact .inl (sound.subscribed ‹_›)
  · exact carries

/-- A sent envelope that the receiver reaches goes to the wire. Skipped ones leave a resync. -/
theorem Sound.emit (numbered : bus.Numbered) (sound : stream.Sound bus) :
    (stream.emit bus).Sound bus := by
  unfold EventStream.emit
  have onWire : ∀ envelope : LiveEvents.LiveEnvelope, envelope.sequence ≤ bus.sent.length →
      ∀ other ∈ stream.wire ++ [envelope], other.sequence ≤ bus.sent.length := by
    intro envelope known other member
    rcases List.mem_append.mp member with earlier | new
    · exact sound.wire other earlier
    · cases List.mem_singleton.mp new
      exact known
  split
  · exact sound
  · rename_i next envelope position first
    refine ⟨sound.next, fun impossible => ?_, fun other impossible => ?_, ?_⟩
    · rw [position] at impossible
      cases impossible
    · cases impossible
    · exact onWire envelope (sound.initial envelope first).2
  · rename_i next position begun
    split
    · refine ⟨fun other same => ?_, fun impossible => ?_, sound.initial, ?_⟩
      · rw [← Option.some.inj same]
        exact Nat.sub_le _ _
      · cases impossible
      · exact onWire bus.resyncEnvelope numbered.sequence
    · split
      · rename_i envelope found
        obtain ⟨inside, -⟩ := List.getElem?_eq_some_iff.mp found
        refine ⟨fun other same => ?_, fun impossible => ?_, sound.initial, ?_⟩
        · cases same
          exact inside
        · cases impossible
        · exact onWire envelope (numbered.sent envelope (List.mem_of_getElem? found))
      · exact sound

theorem Carries.emit (sound : stream.Sound bus) {envelope : LiveEvents.LiveEnvelope}
    (sent : bus.sent[index]? = some envelope) (own : relevant envelope.event)
    (carries : stream.Carries relevant index) : (stream.emit bus).Carries relevant index := by
  unfold EventStream.emit
  have onWire : ∀ envelope : LiveEvents.LiveEnvelope,
      envelope.event = .resyncRequired ∨ relevant envelope.event →
      ∃ other ∈ stream.wire ++ [envelope],
        other.event = .resyncRequired ∨ relevant other.event := by
    intro envelope brought
    exact ⟨envelope, List.mem_append_right _ (List.mem_singleton_self envelope), brought⟩
  split
  · exact carries
  · rename_i next first position same
    exact .inr (.inr (onWire first (.inl (sound.initial first same).1)))
  · rename_i next position begun
    split
    · exact .inr (.inr (onWire bus.resyncEnvelope (.inl rfl)))
    · split
      · rename_i following found
        rcases carries with waiting | ahead | ⟨other, listed, brought⟩
        · rw [begun] at waiting
          cases waiting
        · obtain ⟨stands, same, before⟩ := ahead
          rw [position] at same
          cases same
          rcases before.eq_or_lt with rfl | later
          · rw [found] at sent
            cases sent
            exact .inr (.inr (onWire _ (.inr own)))
          · exact .inr (.inl ⟨next + 1, rfl, later⟩)
        · exact .inr (.inr ⟨other, List.mem_append_left _ listed, brought⟩)
      · exact carries

/-- The first event of the wire is taken. -/
theorem Carries.tail {opened : Bool} {initial : Option LiveEvents.LiveEnvelope}
    {next : Option Nat} {envelope : LiveEvents.LiveEnvelope}
    {rest : List LiveEvents.LiveEnvelope}
    (carries : Carries relevant ⟨opened, initial, next, envelope :: rest⟩ index) :
    (envelope.event = .resyncRequired ∨ relevant envelope.event) ∨
      Carries relevant ⟨opened, initial, next, rest⟩ index := by
  rcases carries with waiting | ahead | ⟨other, listed, brought⟩
  · exact .inr (.inl waiting)
  · exact .inr (.inr (.inl ahead))
  · rcases List.mem_cons.mp listed with rfl | later
    · exact .inl brought
    · exact .inr (.inr (.inr ⟨other, later, brought⟩))

end EventStream

namespace Dashboard

variable {relevant : LiveEvent → Prop} {covered further : Nat → Prop} {bus nextBus : LiveEventBus}
  {connection next : Option EventStream}

/-- Every sent event of a kind is covered, or the connection still brings it. -/
def Reaches (relevant : LiveEvent → Prop) (covered : Nat → Prop) (bus : LiveEventBus)
    (connection : Option EventStream) : Prop :=
  ∀ index envelope, bus.sent[index]? = some envelope → relevant envelope.event →
    covered index ∨ ∀ stream ∈ connection, stream.Carries relevant index

/-- The page or the connection moves. -/
theorem Reaches.moved (reaches : Reaches relevant covered bus connection)
    (covers : ∀ index < bus.sent.length, covered index → further index)
    (carries : ∀ index envelope, bus.sent[index]? = some envelope → relevant envelope.event →
      (∀ stream ∈ connection, stream.Carries relevant index) →
        further index ∨ ∀ stream ∈ next, stream.Carries relevant index) :
    Reaches relevant further bus next := by
  intro index envelope sent own
  obtain ⟨inside, -⟩ := List.getElem?_eq_some_iff.mp sent
  rcases reaches index envelope sent own with earlier | brought
  · exact .inl (covers index inside earlier)
  · exact carries index envelope sent own brought

theorem Reaches.of_all (all : ∀ index < bus.sent.length, covered index) :
    Reaches relevant covered bus connection :=
  fun index _ sent _ => .inl (all index (List.getElem?_eq_some_iff.mp sent).1)

/-- No receiver has passed the end of the channel. -/
theorem Reaches.sends (reaches : Reaches relevant covered bus connection)
    (sends : bus.Sends nextBus) (sound : ∀ stream ∈ connection, stream.Sound bus) :
    Reaches relevant covered nextBus connection := by
  intro index envelope sent own
  cases sends with
  | silent _ same =>
      rw [same] at sent
      exact reaches index envelope sent own
  | publish event _ appended =>
      rw [appended] at sent
      by_cases inside : index < bus.sent.length
      · rw [List.getElem?_append_left inside] at sent
        exact reaches index envelope sent own
      · refine .inr fun stream connected => ?_
        have known := sound stream connected
        cases position : stream.next with
        | none => exact .inl (known.subscribed position)
        | some next =>
            exact .inr (.inl ⟨next, position,
              (known.next next position).trans (not_lt.mp inside)⟩)

/-- The event that leaves the wire is handled for its kind. -/
theorem Reaches.received (reaches : Reaches relevant covered bus connection) {opened : Bool}
    {initial : Option LiveEvents.LiveEnvelope} {position : Option Nat}
    {envelope : LiveEvents.LiveEnvelope} {rest : List LiveEvents.LiveEnvelope}
    (connected : connection = some ⟨opened, initial, position, envelope :: rest⟩)
    (covers : ∀ index < bus.sent.length, covered index → further index)
    (handled : envelope.event = .resyncRequired ∨ relevant envelope.event →
      ∀ index < bus.sent.length, further index) :
    Reaches relevant further bus (some ⟨opened, initial, position, rest⟩) := by
  refine reaches.moved covers fun index other sent _ brought => ?_
  rcases (brought _ connected).tail with announced | later
  · exact .inl (handled announced index (List.getElem?_eq_some_iff.mp sent).1)
  · exact .inr fun stream same => Option.mem_some_iff.mp same ▸ later

/-- The status event announces a change of the stream state. -/
def AnnouncesStream (event : LiveEvent) : Prop := ∃ status, event = .streamStatusChanged status

def AnnouncesProjection (event : LiveEvent) : Prop := event = .discoveryProjectionChanged

section Requests

variable {Value : Type} {request : Request Value} {value : Value} {readAt : Nat}
  {reading : Reading Value}

/-- The server answers with its current value, and only once. -/
theorem Request.serve_answers (answered : (request.serve value readAt).Answers reading) :
    request.Answers reading ∨ reading = ⟨value, readAt⟩ := by
  cases request with
  | outstanding answer =>
      cases answer with
      | none =>
          cases answered
          exact .inr rfl
      | some earlier => exact .inl answered
  | fulfilled earlier => exact .inl answered
  | rejected => exact .inl answered

theorem Request.settle_answers {delivered : Bool}
    (answered : (request.settle delivered).Answers reading) : request.Answers reading := by
  cases request with
  | outstanding answer =>
      cases answer with
      | none => cases answered
      | some earlier =>
          cases delivered with
          | true =>
              cases answered
              exact .outstanding _
          | false => cases answered
  | fulfilled earlier => exact answered
  | rejected => exact answered

end Requests

variable {view : View} {browser : Browser} {state : State}

theorem BrowserSound.later {later : View} (sound : BrowserSound view browser)
    (passed : view.clock ≤ later.clock) (grown : view.projection ≤ later.projection)
    (streamMoved : (later.stream = view.stream ∧ later.streamChangedAt = view.streamChangedAt) ∨
      (later.clock = view.clock ∧ later.streamChangedAt = some view.clock))
    (projectionMoved : (later.projection = view.projection ∧
        later.projectionChangedAt = view.projectionChangedAt) ∨
      (later.clock = view.clock ∧ later.projectionChangedAt = some view.clock)) :
    BrowserSound later browser where
  stream := sound.stream.later passed streamMoved
  discovery := sound.discovery.later passed grown projectionMoved
  queued := sound.queued

/-- An event begins the refreshes that it stands for, and a resync begins all of them. -/
structure Handles (view : View) (event : LiveEvent) (browser next : Browser) : Prop where
  sound : BrowserSound view next
  advances : Advances view.clock browser next
  stream : event = .resyncRequired ∨ AnnouncesStream event →
    ∀ index < view.clock, next.StreamCovered index
  discovery : event = .resyncRequired ∨ AnnouncesProjection event →
    ∀ index < view.clock, next.DiscoveryCovered index

theorem handleLiveEnvelope_handles (sound : BrowserSound view browser) (event : LiveEvent) :
    Handles view event browser (browser.handleLiveEnvelope view.clock event) := by
  have same : SameCore browser { browser with eventsError := false } :=
    ⟨⟨rfl, rfl, rfl, rfl, rfl⟩, ⟨rfl, rfl, rfl, rfl, rfl⟩, rfl⟩
  have heard := sound.of_same same
  have first := same.toSameCover.advances view.clock
  cases event with
  | streamStatusChanged status =>
      refine ⟨refreshStream_sound heard, first.trans refreshStream_advances,
        fun _ index sent => .inl sent, ?_⟩
      rintro (impossible | impossible) <;> cases impossible
  | discoveryProjectionChanged =>
      refine ⟨refreshDiscovery_sound heard, first.trans (refreshDiscovery_advances heard), ?_, ?_⟩
      · rintro (impossible | ⟨status, impossible⟩) <;> cases impossible
      · intro _ index sent
        rcases callCoordinator_reads heard.discovery with begun | queued
        · exact .inl (sent.trans_eq begun.symm)
        · exact .inr (.inl queued)
  | resyncRequired =>
      exact ⟨refreshAll_sound heard, first.trans (refreshAll_advances heard.discovery),
        fun _ index sent => (refreshAll_covers heard.discovery sent).1,
        fun _ index sent => (refreshAll_covers heard.discovery sent).2⟩

/-- The page is sound, and each announced change reaches it. -/
structure Delivering (state : State) : Prop where
  numbered : state.bus.Numbered
  sound : BrowserSound state.view state.browser
  connection : ∀ stream ∈ state.connection, stream.Sound state.bus
  streamed : Reaches AnnouncesStream state.browser.StreamCovered state.bus state.connection
  discovered : Reaches AnnouncesProjection state.browser.DiscoveryCovered state.bus
    state.connection

namespace Delivering

/-- A task of the page alone. -/
theorem page (delivering : Delivering state) {next : Browser}
    (kept : BrowserSound state.view next) (advances : Advances state.clock state.browser next) :
    Delivering { state with browser := next } where
  numbered := delivering.numbered
  sound := kept
  connection := delivering.connection
  streamed := delivering.streamed.moved advances.stream fun _ _ _ _ brought => .inr brought
  discovered := delivering.discovered.moved advances.discovery fun _ _ _ _ brought => .inr brought

theorem sends (delivering : Delivering state) (action : LiveEventBus.Action) :
    Delivering { state with bus := (LiveEventBus.step state.bus action).2 } := by
  have sends := LiveEventBus.step_sends state.bus action
  exact {
    numbered := delivering.numbered.sends sends
    sound := delivering.sound.later sends.length (le_refl _) (.inl ⟨rfl, rfl⟩) (.inl ⟨rfl, rfl⟩)
    connection := fun stream connected => (delivering.connection stream connected).sends sends
    streamed := delivering.streamed.sends sends delivering.connection
    discovered := delivering.discovered.sends sends delivering.connection }

theorem withStream (delivering : Delivering state) (change : EventStream → EventStream)
    (sound : ∀ stream, stream.Sound state.bus → (change stream).Sound state.bus)
    (carries : ∀ relevant stream index envelope, stream.Sound state.bus →
      state.bus.sent[index]? = some envelope → relevant envelope.event →
      stream.Carries relevant index → (change stream).Carries relevant index) :
    Delivering (state.withStream change) := by
  have moved : ∀ relevant covered,
      Reaches relevant covered state.bus state.connection →
        Reaches relevant covered state.bus (state.connection.map change) := by
    intro relevant covered reaches
    refine reaches.moved (fun _ _ earlier => earlier) fun index envelope sent own brought => .inr ?_
    intro stream connected
    obtain ⟨former, listed, rfl⟩ := Option.mem_map.mp connected
    exact carries relevant former index envelope (delivering.connection former listed) sent own
      (brought former listed)
  refine ⟨delivering.numbered, delivering.sound, ?_, moved _ _ delivering.streamed,
    moved _ _ delivering.discovered⟩
  intro stream connected
  obtain ⟨former, listed, rfl⟩ := Option.mem_map.mp connected
  exact sound former (delivering.connection former listed)

/-- A refresh of everything covers all events, whatever the connection brings. -/
theorem refreshesAll (delivering : Delivering state) {connection : Option EventStream}
    (known : ∀ stream ∈ connection, stream.Sound state.bus) {next : Browser}
    (same : SameCore state.browser next) :
    Delivering { state with connection, browser := next.refreshAll state.clock } := by
  have sound := delivering.sound.of_same same
  exact {
    numbered := delivering.numbered
    sound := refreshAll_sound sound
    connection := known
    streamed := .of_all fun index sent => (refreshAll_covers sound.discovery sent).1
    discovered := .of_all fun index sent => (refreshAll_covers sound.discovery sent).2 }

theorem openConnection (delivering : Delivering state) : Delivering state.openConnection := by
  unfold State.openConnection
  split
  · rename_i initial next wire connected
    have known := delivering.connection _ connected
    refine delivering.refreshesAll ?_
      ⟨⟨rfl, rfl, rfl, rfl, rfl⟩, ⟨rfl, rfl, rfl, rfl, rfl⟩, rfl⟩
    intro stream same
    cases same
    exact ⟨known.next, known.subscribed, known.initial, known.wire⟩
  · exact delivering

/-- An event that leaves the wire is handled, since its sequence is safe. -/
theorem receive (delivering : Delivering state) (few : state.clock < 2 ^ 53) :
    Delivering state.receive := by
  unfold State.receive
  split
  · rename_i initial next envelope rest connected
    have known := delivering.connection _ connected
    have safe : envelope.sequence < 2 ^ 53 :=
      (known.wire envelope List.mem_cons_self).trans_lt few
    have handles := handleLiveEnvelope_handles delivering.sound envelope.event
    have received : state.browser.receive state.clock envelope =
        state.browser.handleLiveEnvelope state.clock envelope.event := by
      unfold Browser.receive
      rw [parseLiveEnvelope_serializeEnvelope envelope safe]
    rw [received]
    refine ⟨delivering.numbered, handles.sound, ?_, ?_, ?_⟩
    · intro stream same
      cases same
      exact ⟨known.next, known.subscribed, known.initial,
        fun other listed => known.wire other (List.mem_cons_of_mem _ listed)⟩
    · exact delivering.streamed.received connected handles.advances.stream handles.stream
    · exact delivering.discovered.received connected handles.advances.discovery handles.discovery
  · exact delivering

/-- The server answers a listed refresh. -/
theorem serveRefresh (delivering : Delivering state) (index : Nat) (change : Refresh → Refresh)
    (ticket : ∀ refresh, (change refresh).streamTicket = refresh.streamTicket)
    (kind : ∀ refresh, (change refresh).isAll = refresh.isAll)
    (answers : ∀ refresh reading, (change refresh).stream.Answers reading →
      refresh.stream.Answers reading ∨ reading = ⟨state.stream, state.clock⟩) :
    Delivering (state.serveRefresh index change) := by
  refine delivering.page (modify_keeps delivering.sound index change ticket kind answers)
    (SameCover.advances ?_ state.clock)
  exact ⟨rfl, rfl, rfl, rfl⟩

/-- Every step keeps the invariant while the sequences are safe. -/
theorem step (delivering : Delivering state) (few : state.clock < 2 ^ 53) (action : Action) :
    Delivering (Dashboard.step state action).2 := by
  cases action with
  | bus action => exact delivering.sends action
  | changeStream stream =>
      exact ⟨delivering.numbered,
        delivering.sound.later (le_refl _) (le_refl _) (.inr ⟨rfl, rfl⟩) (.inl ⟨rfl, rfl⟩),
        delivering.connection, delivering.streamed, delivering.discovered⟩
  | changeProjection growth =>
      exact ⟨delivering.numbered,
        delivering.sound.later (le_refl _) (Nat.le_add_right _ _) (.inl ⟨rfl, rfl⟩)
          (.inr ⟨rfl, rfl⟩),
        delivering.connection, delivering.streamed, delivering.discovered⟩
  | connect =>
      change Delivering state.connect
      unfold State.connect
      split
      · refine ⟨delivering.numbered, delivering.sound, ?_, ?_, ?_⟩
        · intro stream same
          cases same
          exact EventStream.sound_get delivering.numbered
        all_goals
          intro index envelope _ _
          refine .inr fun stream same => ?_
          cases same
          exact .inl rfl
      · exact delivering
  | subscribe =>
      exact delivering.withStream _ (fun _ sound => sound.subscribe)
        fun _ _ _ _ sound _ _ carries => carries.subscribe sound
  | emit =>
      exact delivering.withStream _ (fun _ sound => sound.emit delivering.numbered)
        fun _ _ _ _ sound sent own carries => carries.emit sound sent own
  | openConnection => exact delivering.openConnection
  | receive => exact delivering.receive few
  | failConnection =>
      exact delivering.refreshesAll (fun _ impossible => by cases impossible)
        ⟨⟨rfl, rfl, rfl, rfl, rfl⟩, ⟨rfl, rfl, rfl, rfl, rfl⟩, rfl⟩
  | serveHealth index =>
      exact delivering.serveRefresh index _ (fun _ => rfl) (fun _ => rfl)
        fun _ _ answered => .inl answered
  | serveStream index =>
      exact delivering.serveRefresh index _ (fun _ => rfl) (fun _ => rfl)
        fun _ _ answered => Request.serve_answers answered
  | serveDiscovery =>
      refine delivering.page ⟨delivering.sound.stream.of_same ⟨rfl, rfl, rfl, rfl, rfl⟩,
        delivering.sound.discovery.serve, delivering.sound.queued⟩
        (SameCover.advances ?_ state.clock)
      exact ⟨rfl, rfl, rfl, rfl⟩
  | settleHealth index delivered =>
      obtain ⟨kept, advances⟩ := update_keeps delivering.sound index
        (fun refresh => { refresh with health := refresh.health.settle delivered })
        fun _ _ => ⟨rfl, rfl, fun _ answered => answered⟩
      exact delivering.page kept advances
  | settleStream index delivered =>
      obtain ⟨kept, advances⟩ := update_keeps delivering.sound index
        (fun refresh => { refresh with stream := refresh.stream.settle delivered })
        fun _ _ => ⟨rfl, rfl, fun _ answered => Request.settle_answers answered⟩
      exact delivering.page kept advances
  | settleDiscovery delivered =>
      obtain ⟨kept, advances⟩ := settleDiscovery_keeps delivering.sound delivered
      exact delivering.page kept advances
  | refreshAll =>
      exact delivering.page (refreshAll_sound delivering.sound)
        (refreshAll_advances delivering.sound.discovery)
  | commandFinished =>
      exact delivering.page (refreshStream_sound delivering.sound) refreshStream_advances

end Delivering

/-- A mounted page has begun to refresh everything. -/
theorem mount_sound (view : View) : BrowserSound view (.mount view.clock) where
  stream := {
    begun := le_refl _
    tickets := by
      intro refresh listed
      cases List.mem_singleton.mp listed
      exact ⟨rfl, Nat.le_succ 2⟩
    answers := by
      intro refresh listed reading answered
      cases List.mem_singleton.mp listed
      cases answered
    shown := fun reading impossible => by cases impossible
    latest := .inl ⟨_, List.mem_singleton_self _, rfl⟩ }
  discovery := {
    between := RefreshCoordinator.BetweenTasks.create.refresh.between
    begun := le_refl _
    idle := fun impossible => by cases impossible
    answer := fun reading impossible => by cases impossible
    highest := (Int.negSucc_lt_zero 0).le.trans (Int.natCast_nonneg _)
    shown := fun reading impossible => by cases impossible
    latest := .inl rfl }
  queued := fun impossible => by cases impossible

theorem clock_step (state : State) (action : Action) :
    state.clock ≤ (step state action).2.clock := by
  cases action with
  | bus action => exact (LiveEventBus.step_sends state.bus action).length
  | connect =>
      change _ ≤ state.connect.clock
      unfold State.connect
      split <;> exact le_refl _
  | openConnection =>
      change _ ≤ state.openConnection.clock
      unfold State.openConnection
      split <;> exact le_refl _
  | receive =>
      change _ ≤ state.receive.clock
      unfold State.receive
      split <;> exact le_refl _
  | _ => exact le_refl _

/-- The state after the actions of a page that was mounted on a running server. -/
def afterMount (earlier : List LiveEventBus.Action) (stream : StreamStateResponse)
    (projection : Nat) (actions : List Action) : State :=
  Transition.run step (.start (Transition.run LiveEventBus.step .new earlier) stream projection)
    actions

theorem delivering_afterMount (earlier : List LiveEventBus.Action) (stream : StreamStateResponse)
    (projection : Nat) (actions : List Action)
    (few : (afterMount earlier stream projection actions).clock < 2 ^ 53) :
    Delivering (afterMount earlier stream projection actions) := by
  refine Transition.invariant_run step (fun state => state.clock < 2 ^ 53 → Delivering state)
    (fun state action holds safe => ?_) (fun _ => ?_) actions few
  · have before := (clock_step state action).trans_lt safe
    exact (holds before).step before action
  · refine ⟨LiveEventBus.numbered_run earlier, mount_sound _, ?_, ?_, ?_⟩
    · exact fun stream impossible => by cases impossible
    all_goals exact fun _ _ _ _ => .inr fun stream impossible => by cases impossible

/-- The page has read its open stream to the end and waits for no response. -/
def State.AtRest (state : State) : Prop :=
  state.connection =
      some { opened := true, initial := none, next := some state.clock, wire := [] } ∧
    state.browser.refreshes = [] ∧ state.browser.coordinator.unsettled = 0

instance (state : State) : Decidable state.AtRest :=
  inferInstanceAs (Decidable (_ ∧ _ ∧ _))

/-- The last change, if there is one, was followed by an event of a kind. -/
def State.Announced (state : State) (relevant : LiveEvent → Prop) (changedAt : Option Nat) :
    Prop :=
  ∀ change ∈ changedAt, ∃ index envelope, change ≤ index ∧
    state.bus.sent[index]? = some envelope ∧ relevant envelope.event

/-- At rest no event of a kind is left to the connection. -/
theorem Reaches.atRest (reaches : Reaches relevant covered state.bus state.connection)
    (rest : state.AtRest) {changedAt : Option Nat} (announced : state.Announced relevant changedAt)
    {change : Nat} (changed : change ∈ changedAt) : ∃ index, change ≤ index ∧ covered index := by
  obtain ⟨index, envelope, later, sent, own⟩ := announced change changed
  refine ⟨index, later, (reaches index envelope sent own).resolve_right fun brought => ?_⟩
  rcases brought _ rest.1 with waiting | ⟨next, position, before⟩ | ⟨other, listed, -⟩
  · cases waiting
  · cases position
    exact absurd (List.getElem?_eq_some_iff.mp sent).1 (not_lt.mpr before)
  · cases listed

/-- A page at rest shows the stream state and the projection that the server announced, unless its
last attempt to read them has failed. -/
theorem dashboard_current (earlier : List LiveEventBus.Action) (stream : StreamStateResponse)
    (projection : Nat) (actions : List Action)
    (few : (afterMount earlier stream projection actions).clock < 2 ^ 53)
    (rest : (afterMount earlier stream projection actions).AtRest) :
    let state := afterMount earlier stream projection actions
    (state.Announced AnnouncesStream state.streamChangedAt →
      state.browser.streamError = true ∨
        ∃ reading, state.browser.stream = some reading ∧ reading.value = state.stream) ∧
    (state.Announced AnnouncesProjection state.projectionChangedAt →
      state.browser.lastReadFailed = true ∨
        ∃ reading, state.browser.snapshot = some reading ∧ reading.value = state.projection) := by
  intro state
  have delivering : Delivering state := delivering_afterMount earlier stream projection actions few
  have idle : state.browser.coordinator.inFlight = false := by
    have unsettled := delivering.sound.discovery.between.unsettled
    rw [rest.2.2] at unsettled
    cases running : state.browser.coordinator.inFlight with
    | false => rfl
    | true =>
        rw [running] at unsettled
        cases unsettled
  have unqueued : state.browser.refreshAllQueued = false := by
    refine Bool.eq_false_iff.mpr fun queued => ?_
    obtain ⟨refresh, listed, -⟩ := delivering.sound.queued queued
    rw [rest.2.1] at listed
    cases listed
  refine ⟨fun announced => ?_, fun announced => ?_⟩
  · rcases delivering.sound.stream.latest with
      ⟨refresh, listed, -⟩ | failed | ⟨reading, shown, recent⟩
    · rw [rest.2.1] at listed
      cases listed
    · exact .inl failed
    · refine .inr ⟨reading, shown, (delivering.sound.stream.shown reading shown).value ?_⟩
      intro change changed
      obtain ⟨index, later, begun | queued⟩ := delivering.streamed.atRest rest announced changed
      · exact later.trans_lt (begun.trans_le recent)
      · rw [unqueued] at queued
        cases queued
  · rcases delivering.sound.discovery.latest with running | failed | ⟨reading, shown, recent⟩
    · rw [idle] at running
      cases running
    · exact .inl failed
    · refine .inr ⟨reading, shown, (delivering.sound.discovery.shown reading shown).1.value ?_⟩
      intro change changed
      obtain ⟨index, later, begun | queued | all⟩ :=
        delivering.discovered.atRest rest announced changed
      · exact later.trans_lt (begun.trans_le recent)
      · rw [delivering.sound.discovery.between.queued queued] at idle
        cases idle
      · rw [unqueued] at all
        cases all

/-- The server answers the refresh of everything. -/
def responses : List Action :=
  [.serveHealth 0, .serveStream 0, .serveDiscovery, .settleHealth 0 true, .settleStream 0 true,
    .settleDiscovery true]

/-- A page connects, and the server starts its stream and discovers a token. -/
def visit : List Action :=
  [.connect, .subscribe, .emit, .openConnection, .receive] ++ responses ++ responses ++
    [.changeStream { status := .running, requestedRunning := true },
      .bus (.publishStatus .running), .emit, .receive, .serveHealth 0, .serveStream 0,
      .settleHealth 0 true, .settleStream 0 true, .changeProjection 1,
      .bus .publishDiscoveryProjectionChanged, .bus (.advanceCall 0), .bus (.advanceCall 0),
      .bus (.advanceTask 0), .bus (.advanceTask 0), .bus (.advanceTask 0), .emit, .receive,
      .serveDiscovery, .settleDiscovery true]

def afterVisit : State := afterMount [] { status := .stopped, requestedRunning := false } 0 visit

theorem dashboard_current_visit : afterVisit.AtRest ∧
    (afterVisit.Announced AnnouncesStream afterVisit.streamChangedAt →
      afterVisit.browser.streamError = true ∨
        ∃ reading, afterVisit.browser.stream = some reading ∧
          reading.value = afterVisit.stream) ∧
    (afterVisit.Announced AnnouncesProjection afterVisit.projectionChangedAt →
      afterVisit.browser.lastReadFailed = true ∨
        ∃ reading, afterVisit.browser.snapshot = some reading ∧
          reading.value = afterVisit.projection) :=
  have rest : afterVisit.AtRest := by decide
  ⟨rest, dashboard_current [] { status := .stopped, requestedRunning := false } 0 visit (by decide)
    rest⟩

/-- A failed read is not shown when a refresh of everything ends after it with an earlier result. -/
example : let late := [Action.connect, .subscribe, .emit, .openConnection, .receive] ++ responses ++
      [.serveDiscovery, .settleDiscovery true, .changeProjection 1,
        .bus .publishDiscoveryProjectionChanged, .bus (.advanceCall 0), .bus (.advanceCall 0),
        .bus (.advanceTask 0), .bus (.advanceTask 0), .bus (.advanceTask 0), .emit, .receive,
        .settleDiscovery false, .serveHealth 0, .serveStream 0, .settleHealth 0 true,
        .settleStream 0 true]
    let state := afterMount [] { status := .stopped, requestedRunning := false } 0 late
    state.AtRest ∧ state.browser.lastReadFailed = true ∧ state.browser.discoveryError = false ∧
      state.browser.snapshot.map Reading.value = some 0 ∧ state.projection = 1 := by decide

end Dashboard
end Web
end Soldisco

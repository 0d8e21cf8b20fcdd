import Soldisco.Proof.Web.Dashboard.Refreshes

/-
This file proves that every task of the page keeps its refreshes sound and its events covered.
-/

namespace Soldisco.Web.Dashboard

variable {view : View} {browser next : Browser} {index : Nat} {refresh changed : Refresh}

/-- A queued refresh of everything waits for a running one. -/
structure BrowserSound (view : View) (browser : Browser) : Prop where
  stream : StreamFresh view browser
  discovery : DiscoveryFresh view browser
  queued : browser.refreshAllQueued = true →
    ∃ refresh ∈ browser.refreshes, refresh.isAll = true

/-- A stream refresh has begun since an event, or will begin. -/
def Browser.StreamCovered (browser : Browser) (event : Nat) : Prop :=
  event < browser.streamBegun ∨ browser.refreshAllQueued = true

/-- A read has begun since an event, or will begin. -/
def Browser.DiscoveryCovered (browser : Browser) (event : Nat) : Prop :=
  event < browser.readBegun ∨ browser.coordinator.queued = true ∨ browser.refreshAllQueued = true

/-- No event loses its cover. -/
structure Advances (clock : Nat) (browser next : Browser) : Prop where
  stream : ∀ event < clock, browser.StreamCovered event → next.StreamCovered event
  discovery : ∀ event < clock, browser.DiscoveryCovered event → next.DiscoveryCovered event

theorem Advances.trans {clock : Nat} {last : Browser} (first : Advances clock browser next)
    (second : Advances clock next last) : Advances clock browser last where
  stream := fun event earlier covered =>
    second.stream event earlier (first.stream event earlier covered)
  discovery := fun event earlier covered =>
    second.discovery event earlier (first.discovery event earlier covered)

/-- The fields that soundness and cover are about. -/
structure SameCore (browser next : Browser) : Prop extends SameStream browser next,
    SameDiscovery browser next where
  queued : next.refreshAllQueued = browser.refreshAllQueued

theorem BrowserSound.of_same (sound : BrowserSound view browser) (same : SameCore browser next) :
    BrowserSound view next where
  stream := sound.stream.of_same same.toSameStream
  discovery := sound.discovery.of_same same.toSameDiscovery
  queued := by
    rw [same.queued, same.refreshes]
    exact sound.queued

/-- The fields that cover is about. -/
structure SameCover (browser next : Browser) : Prop where
  coordinator : next.coordinator = browser.coordinator
  streamBegun : next.streamBegun = browser.streamBegun
  readBegun : next.readBegun = browser.readBegun
  queued : next.refreshAllQueued = browser.refreshAllQueued

theorem SameCover.trans {last : Browser} (first : SameCover browser next)
    (second : SameCover next last) : SameCover browser last where
  coordinator := second.coordinator.trans first.coordinator
  streamBegun := second.streamBegun.trans first.streamBegun
  readBegun := second.readBegun.trans first.readBegun
  queued := second.queued.trans first.queued

theorem SameCore.toSameCover (same : SameCore browser next) : SameCover browser next :=
  ⟨same.coordinator, same.streamBegun, same.begun, same.queued⟩

theorem SameCover.advances (same : SameCover browser next) (clock : Nat) :
    Advances clock browser next where
  stream := by
    unfold Browser.StreamCovered
    rw [same.streamBegun, same.queued]
    exact fun _ _ covered => covered
  discovery := by
    unfold Browser.DiscoveryCovered
    rw [same.readBegun, same.coordinator, same.queued]
    exact fun _ _ covered => covered

/-- A call begins a read or queues one. -/
theorem callCoordinator_reads (fresh : DiscoveryFresh view browser) :
    (browser.callCoordinator view.clock).readBegun = view.clock ∨
      (browser.callCoordinator view.clock).coordinator.queued = true := by
  cases running : browser.coordinator.inFlight with
  | true => exact .inr (fresh.between.refresh.queued running)
  | false =>
      refine .inl ?_
      unfold Browser.callCoordinator
      rw [running]
      rfl

theorem refreshDiscovery_sound (sound : BrowserSound view browser) :
    BrowserSound view (browser.refreshDiscovery view.clock) where
  stream := sound.stream.of_same ⟨rfl, rfl, rfl, rfl, rfl⟩
  discovery := sound.discovery.callCoordinator.of_same ⟨rfl, rfl, rfl, rfl, rfl⟩
  queued := sound.queued

theorem refreshDiscovery_advances (sound : BrowserSound view browser) :
    Advances view.clock browser (browser.refreshDiscovery view.clock) where
  stream := fun _ _ covered => covered
  discovery := by
    intro event sent _
    rcases callCoordinator_reads sound.discovery with begun | queued
    · exact .inl (sent.trans_eq begun.symm)
    · exact .inr (.inl queued)

/-- A stream ticket is current, and those up to an earlier generation are not. -/
structure HoldsCurrent (earlier : Nat) (ticket : ResponseTicket ResponseSurface)
    (freshness : ResponseFreshness ResponseSurface) : Prop where
  key : ticket.key = .stream
  generation : ticket.generation ≤ freshness.nextGeneration
  later : earlier ≤ freshness.nextGeneration
  current : freshness.isCurrent ticket = true
  outdated : ∀ other : ResponseTicket ResponseSurface, other.key = .stream →
    other.generation ≤ earlier → freshness.isCurrent other = false

theorem holdsCurrent_begin {earlier : Nat} {freshness : ResponseFreshness ResponseSurface}
    (later : earlier ≤ freshness.nextGeneration) :
    HoldsCurrent earlier (freshness.begin .stream).1 (freshness.begin .stream).2 where
  key := rfl
  generation := le_refl _
  later := later.trans (Nat.le_succ _)
  current := ResponseFreshness.begin_isCurrent freshness .stream
  outdated := fun _ key before =>
    ResponseFreshness.begin_isCurrent_same key (before.trans later)

theorem HoldsCurrent.begin {earlier : Nat} {ticket : ResponseTicket ResponseSurface}
    {freshness : ResponseFreshness ResponseSurface} (holds : HoldsCurrent earlier ticket freshness)
    {key : ResponseSurface} (other : key ≠ .stream) :
    HoldsCurrent earlier ticket (freshness.begin key).2 where
  key := holds.key
  generation := holds.generation.trans (Nat.le_succ _)
  later := holds.later.trans (Nat.le_succ _)
  current := by
    rw [ResponseFreshness.begin_isCurrent_other (holds.key.trans_ne other.symm)]
    exact holds.current
  outdated := by
    intro ticket stream before
    rw [ResponseFreshness.begin_isCurrent_other (stream.trans_ne other.symm)]
    exact holds.outdated ticket stream before

/-- Tickets of other surfaces are begun before and after the one of the stream. -/
theorem StreamFresh.begin_holding {begun : Refresh} (fresh : StreamFresh view browser)
    (holds : HoldsCurrent browser.freshness.nextGeneration begun.streamTicket next.freshness)
    (refreshes : next.refreshes = browser.refreshes ++ [begun])
    (request : begun.stream = .outstanding none) (stream : next.stream = browser.stream)
    (streamBegun : next.streamBegun = view.clock) : StreamFresh view next :=
  fresh.begin ⟨refreshes, holds.key, holds.generation, holds.later, holds.current, holds.outdated,
    request, stream, streamBegun⟩

theorem refreshStream_sound (sound : BrowserSound view browser) :
    BrowserSound view (browser.refreshStream view.clock) where
  stream := sound.stream.begin_holding
    (((holdsCurrent_begin (le_refl _)).begin (by decide)).begin (by decide)) rfl rfl rfl rfl
  discovery := sound.discovery.of_same ⟨rfl, rfl, rfl, rfl, rfl⟩
  queued := by
    intro queued
    obtain ⟨refresh, listed, all⟩ := sound.queued queued
    exact ⟨refresh, List.mem_append_left _ listed, all⟩

theorem refreshStream_advances {clock : Nat} :
    Advances clock browser (browser.refreshStream clock) where
  stream := fun _ sent _ => .inl sent
  discovery := fun _ _ covered => covered

/-- An iteration begins with a current ticket; nothing needs to be queued for it. -/
theorem beginAll_sound (stream : StreamFresh view browser)
    (discovery : DiscoveryFresh view browser) :
    BrowserSound view (browser.beginAll view.clock) where
  stream := stream.begin_holding
    ((holdsCurrent_begin (Nat.le_succ browser.freshness.nextGeneration)).begin (by decide))
    rfl rfl rfl rfl
  discovery := discovery.callCoordinator.of_same ⟨rfl, rfl, rfl, rfl, rfl⟩
  queued := by
    intro impossible
    cases impossible

/-- An iteration covers the events that have been sent. -/
theorem beginAll_covers (discovery : DiscoveryFresh view browser) {event : Nat}
    (sent : event < view.clock) : (browser.beginAll view.clock).StreamCovered event ∧
      (browser.beginAll view.clock).DiscoveryCovered event := by
  refine ⟨.inl sent, ?_⟩
  rcases callCoordinator_reads discovery with begun | queued
  · exact .inl (sent.trans_eq begun.symm)
  · exact .inr (.inl queued)

theorem beginAll_advances (discovery : DiscoveryFresh view browser) :
    Advances view.clock browser (browser.beginAll view.clock) where
  stream := fun _ sent _ => (beginAll_covers discovery sent).1
  discovery := fun _ sent _ => (beginAll_covers discovery sent).2

theorem refreshAll_sound (sound : BrowserSound view browser) :
    BrowserSound view (browser.refreshAll view.clock) := by
  unfold Browser.refreshAll
  split
  · rename_i running
    obtain ⟨refresh, listed, all⟩ := List.any_eq_true.mp running
    exact ⟨sound.stream.of_same ⟨rfl, rfl, rfl, rfl, rfl⟩,
      sound.discovery.of_same ⟨rfl, rfl, rfl, rfl, rfl⟩, fun _ => ⟨refresh, listed, all⟩⟩
  · exact beginAll_sound sound.stream sound.discovery

theorem refreshAll_covers (discovery : DiscoveryFresh view browser) {event : Nat}
    (sent : event < view.clock) : (browser.refreshAll view.clock).StreamCovered event ∧
      (browser.refreshAll view.clock).DiscoveryCovered event := by
  unfold Browser.refreshAll
  split
  · exact ⟨.inr rfl, .inr (.inr rfl)⟩
  · exact beginAll_covers discovery sent

theorem refreshAll_advances (discovery : DiscoveryFresh view browser) :
    Advances view.clock browser (browser.refreshAll view.clock) where
  stream := fun _ sent _ => (refreshAll_covers discovery sent).1
  discovery := fun _ sent _ => (refreshAll_covers discovery sent).2

section Finish

theorem sameCore_applyHealth (browser : Browser) (refresh : Refresh) :
    SameCore browser (browser.applyHealth refresh) := by
  unfold Browser.applyHealth
  split
  · cases refresh.health <;> exact ⟨⟨rfl, rfl, rfl, rfl, rfl⟩, ⟨rfl, rfl, rfl, rfl, rfl⟩, rfl⟩
  · exact ⟨⟨rfl, rfl, rfl, rfl, rfl⟩, ⟨rfl, rfl, rfl, rfl, rfl⟩, rfl⟩

theorem sameCore_applyDiscovery (browser : Browser) (refresh : Refresh) :
    SameCore browser (browser.applyDiscovery refresh) := by
  unfold Browser.applyDiscovery
  split <;> exact ⟨⟨rfl, rfl, rfl, rfl, rfl⟩, ⟨rfl, rfl, rfl, rfl, rfl⟩, rfl⟩

theorem sameCore_applyConnection (browser : Browser) (refresh : Refresh) :
    SameCore browser (browser.applyConnection refresh) := by
  unfold Browser.applyConnection
  split <;> exact ⟨⟨rfl, rfl, rfl, rfl, rfl⟩, ⟨rfl, rfl, rfl, rfl, rfl⟩, rfl⟩

/-- The stream part of a result leaves discovery and the queue alone. -/
theorem applyStream_other (browser : Browser) (refresh : Refresh) :
    SameDiscovery browser (browser.applyStream refresh) ∧
      SameCover browser (browser.applyStream refresh) ∧
      (browser.applyStream refresh).refreshes = browser.refreshes := by
  unfold Browser.applyStream
  split
  · cases refresh.stream <;>
      exact ⟨⟨rfl, rfl, rfl, rfl, rfl⟩, ⟨rfl, rfl, rfl, rfl⟩, rfl⟩
  · exact ⟨⟨rfl, rfl, rfl, rfl, rfl⟩, ⟨rfl, rfl, rfl, rfl⟩, rfl⟩

theorem applied_other (browser : Browser) (refresh : Refresh) :
    SameDiscovery browser (browser.applied refresh) ∧
      SameCover browser (browser.applied refresh) ∧
      (browser.applied refresh).refreshes = browser.refreshes := by
  have health := sameCore_applyHealth browser refresh
  obtain ⟨discovery, cover, refreshes⟩ := applyStream_other (browser.applyHealth refresh) refresh
  have run := sameCore_applyDiscovery ((browser.applyHealth refresh).applyStream refresh) refresh
  have connection := sameCore_applyConnection
    (((browser.applyHealth refresh).applyStream refresh).applyDiscovery refresh) refresh
  refine ⟨⟨?_, ?_, ?_, ?_, ?_⟩, ?_, ?_⟩
  · exact connection.coordinator.trans
      (run.coordinator.trans (discovery.coordinator.trans health.coordinator))
  · exact connection.answer.trans (run.answer.trans (discovery.answer.trans health.answer))
  · exact connection.snapshot.trans
      (run.snapshot.trans (discovery.snapshot.trans health.snapshot))
  · exact connection.failed.trans (run.failed.trans (discovery.failed.trans health.failed))
  · exact connection.begun.trans (run.begun.trans (discovery.begun.trans health.begun))
  · exact ((health.toSameCover.trans cover).trans run.toSameCover).trans connection.toSameCover
  · exact connection.refreshes.trans
      (run.refreshes.trans (refreshes.trans health.refreshes))

/-- A refresh that has the ticket, the kind and no other answers than the listed one. -/
structure Settles (refresh changed : Refresh) : Prop where
  ticket : changed.streamTicket = refresh.streamTicket
  kind : changed.isAll = refresh.isAll
  answers : ∀ reading, changed.stream.Answers reading → refresh.stream.Answers reading

theorem StreamFresh.applied (fresh : StreamFresh view browser)
    (present : browser.refreshes[index]? = some refresh) (settles : Settles refresh changed) :
    StreamFresh view ((browser.remove index).applied changed) := by
  have streamed := fresh.applyStream present settles.ticket settles.answers
  have health := (sameCore_applyHealth (browser.remove index) changed).toSameStream
  exact ((streamed.of_same (health.applyStream changed)).of_same
    (sameCore_applyDiscovery _ changed).toSameStream).of_same
      (sameCore_applyConnection _ changed).toSameStream

/-- The refresh of everything that waits is not removed with another refresh. -/
theorem queued_eraseIdx (sound : BrowserSound view browser)
    (present : browser.refreshes[index]? = some refresh) (other : refresh.isAll = false)
    (queued : browser.refreshAllQueued = true) :
    ∃ refresh ∈ browser.refreshes.eraseIdx index, refresh.isAll = true := by
  obtain ⟨all, listed, isAll⟩ := sound.queued queued
  obtain ⟨position, found⟩ := List.getElem?_of_mem listed
  refine ⟨all, List.mem_eraseIdx_iff_getElem?.mpr ⟨position, ?_, found⟩, isAll⟩
  rintro rfl
  rw [present] at found
  cases found
  rw [other] at isAll
  cases isAll

theorem finish_keeps (sound : BrowserSound view browser)
    (present : browser.refreshes[index]? = some refresh) (settles : Settles refresh changed) :
    BrowserSound view ((browser.remove index).finish view.clock changed) ∧
      Advances view.clock browser ((browser.remove index).finish view.clock changed) := by
  have streamed := sound.stream.applied present settles
  obtain ⟨discovered, cover, refreshes⟩ := applied_other (browser.remove index) changed
  have removed : DiscoveryFresh view (browser.remove index) :=
    sound.discovery.of_same ⟨rfl, rfl, rfl, rfl, rfl⟩
  have discovery := removed.of_same discovered
  have kept : SameCover browser ((browser.remove index).applied changed) :=
    (SameCover.mk rfl rfl rfl rfl : SameCover browser (browser.remove index)).trans cover
  unfold Browser.finish
  split
  · exact ⟨beginAll_sound streamed discovery,
      (kept.advances view.clock).trans (beginAll_advances discovery)⟩
  · rename_i ends
    refine ⟨⟨streamed, discovery, fun queued => ?_⟩, kept.advances view.clock⟩
    rw [queued, Bool.and_true, settles.kind, Bool.not_eq_true] at ends
    rw [refreshes]
    exact queued_eraseIdx sound present ends (kept.queued.symm.trans queued)

end Finish

/-- A listed refresh that is replaced by one of its kind still waits for the queued one. -/
theorem set_keeps (sound : BrowserSound view browser)
    (present : browser.refreshes[index]? = some refresh)
    (ticket : changed.streamTicket = refresh.streamTicket)
    (kind : changed.isAll = refresh.isAll)
    (answers : ∀ reading, changed.stream.Answers reading →
      refresh.stream.Answers reading ∨ reading = ⟨view.stream, view.clock⟩) :
    BrowserSound view { browser with refreshes := browser.refreshes.set index changed } := by
  refine ⟨sound.stream.set present ticket answers,
    sound.discovery.of_same ⟨rfl, rfl, rfl, rfl, rfl⟩, fun queued => ?_⟩
  obtain ⟨all, listed, isAll⟩ := sound.queued queued
  obtain ⟨position, found⟩ := List.getElem?_of_mem listed
  by_cases same : position = index
  · subst same
    rw [present] at found
    cases found
    exact ⟨changed, List.mem_set (List.getElem?_eq_some_iff.mp present).1 changed,
      kind.trans isAll⟩
  · have others : (browser.refreshes.set index changed)[position]? = some all := by
      rw [List.getElem?_set_ne (Ne.symm same), found]
    exact ⟨all, List.mem_of_getElem? others, isAll⟩

/-- A change of a listed refresh keeps the page sound, whether the refresh goes on or not. -/
theorem update_keeps (sound : BrowserSound view browser) (index : Nat)
    (change : Refresh → Refresh)
    (settles : ∀ refresh, browser.refreshes[index]? = some refresh →
      Settles refresh (change refresh)) :
    BrowserSound view (browser.update view.clock index change) ∧
      Advances view.clock browser (browser.update view.clock index change) := by
  unfold Browser.update
  cases present : browser.refreshes[index]? with
  | none => exact ⟨sound, SameCover.advances ⟨rfl, rfl, rfl, rfl⟩ view.clock⟩
  | some refresh =>
      have own := settles refresh present
      dsimp only
      split
      · exact finish_keeps sound present own
      · refine ⟨set_keeps sound present own.ticket own.kind
          fun reading answered => .inl (own.answers reading answered), SameCover.advances ?_ _⟩
        exact ⟨rfl, rfl, rfl, rfl⟩

/-- The server answers a listed refresh. -/
theorem modify_keeps (sound : BrowserSound view browser) (index : Nat)
    (change : Refresh → Refresh) (ticket : ∀ refresh, (change refresh).streamTicket =
      refresh.streamTicket)
    (kind : ∀ refresh, (change refresh).isAll = refresh.isAll)
    (answers : ∀ refresh reading, (change refresh).stream.Answers reading →
      refresh.stream.Answers reading ∨ reading = ⟨view.stream, view.clock⟩) :
    BrowserSound view { browser with refreshes := browser.refreshes.modify index change } := by
  rw [List.modify_eq_set_getElem?]
  cases present : browser.refreshes[index]? with
  | none => exact sound
  | some refresh => exact set_keeps sound present (ticket refresh) (kind refresh) (answers refresh)

theorem sameCore_tellCallers (browser : Browser) (fulfilled : Bool) :
    SameCore browser (browser.tellCallers fulfilled) :=
  ⟨⟨rfl, rfl, rfl, rfl, rfl⟩, ⟨rfl, rfl, rfl, rfl, rfl⟩, rfl⟩

/-- The end of a run reaches those that wait for it. -/
theorem endRun_keeps (sound : BrowserSound view browser) (fulfilled : Bool) :
    BrowserSound view (browser.endRun view.clock fulfilled) ∧
      Advances view.clock browser (browser.endRun view.clock fulfilled) := by
  have same := sameCore_tellCallers browser fulfilled
  have told := sound.of_same same
  unfold Browser.endRun
  split
  · rename_i index found
    obtain ⟨inside, awaited, -⟩ := List.findIdx?_eq_some_iff_getElem.mp found
    obtain ⟨kept, advances⟩ := update_keeps told index
      (fun refresh => { refresh with discovery := .settled fulfilled }) (by
        intro refresh present
        have own : browser.refreshes[index] = refresh :=
          (List.getElem?_eq_some_iff.mp present).2
        rw [own] at awaited
        refine ⟨rfl, ?_, fun reading answered => answered⟩
        unfold Refresh.isAll
        rw [of_decide_eq_true awaited]
        rfl)
    exact ⟨kept, (same.toSameCover.advances view.clock).trans advances⟩
  · exact ⟨told, same.toSameCover.advances view.clock⟩

/-- A read that ends without a queued one leaves no event to it. -/
theorem settleDiscovery_keeps (sound : BrowserSound view browser) (delivered : Bool) :
    BrowserSound view (browser.settleDiscovery view.clock delivered) ∧
      Advances view.clock browser (browser.settleDiscovery view.clock delivered) := by
  unfold Browser.settleDiscovery
  split
  · exact ⟨sound, SameCover.advances ⟨rfl, rfl, rfl, rfl⟩ view.clock⟩
  rename_i outstanding
  have given : ∀ reading ∈ (if delivered then browser.discoveryAnswer else none),
      browser.discoveryAnswer = some reading := by
    intro reading own
    split at own
    · exact own
    · cases own
  generalize (if delivered then browser.discoveryAnswer else none) = answer at given
  have settled := sound.discovery.between.settleRead outstanding
    (answer.elim .rejected fun reading => .resolved reading.value)
  have running : (browser.settleRead answer).coordinator.inFlight = browser.coordinator.queued :=
    settled.inFlight
  have stream : StreamFresh view (browser.settleRead answer) :=
    sound.stream.of_same ⟨rfl, rfl, rfl, rfl, rfl⟩
  dsimp only
  cases queued : browser.coordinator.queued with
  | true =>
      rw [queued] at running
      rw [if_pos running]
      have read := sound.discovery.settleRead outstanding given view.clock (fun _ => rfl)
        (fun ended => absurd running (Bool.eq_false_iff.mp ended))
      refine ⟨⟨stream.of_same ⟨rfl, rfl, rfl, rfl, rfl⟩, read, sound.queued⟩, ?_, ?_⟩
      · exact fun _ _ covered => covered
      · exact fun _ sent _ => .inl sent
  | false =>
      rw [queued] at running
      rw [if_neg (Bool.eq_false_iff.mp running)]
      have read := sound.discovery.settleRead outstanding given browser.readBegun
        (fun restarted => absurd restarted (Bool.eq_false_iff.mp running)) (fun _ => rfl)
      have ended : BrowserSound view (browser.settleRead answer) :=
        ⟨stream, read, sound.queued⟩
      obtain ⟨kept, advances⟩ := endRun_keeps ended answer.isSome
      have first : Advances view.clock browser (browser.settleRead answer) := by
        refine ⟨fun _ _ covered => covered, ?_⟩
        rintro event - (earlier | waiting | all)
        · exact .inl earlier
        · rw [queued] at waiting
          cases waiting
        · exact .inr (.inr all)
      exact ⟨kept, first.trans advances⟩

end Soldisco.Web.Dashboard

import Soldisco.Construction.Pipeline.System
import Soldisco.Proof.Pipeline.BatchProcessor
import Soldisco.Proof.Window.Step
import Mathlib.Tactic.Abel
import Mathlib.Algebra.Order.Group.Multiset

/-
This file proves that the pending queue accounts for every batch that it was given. Between the calls,
before each examination of a drain and before each token call of a drop, the other holders of the
tokens can do anything.
-/

namespace Soldisco.Pipeline
open Window Transition

/-- Between the parts of a call the other holders act. -/
abbrev Others := Nat → List Window.Action

/-- The token method runs as one operation. -/
def performCall (windows : System) (entry : ObservationWindowToken × TokenCall) : System :=
  { windows with
    registry := windows.registry.setCell entry.1
      (entry.2.sequential (windows.registry.cell entry.1)).2 }

def performCalls (others : Others) : Nat → TokenCalls → System → System
  | _, [], windows => windows
  | index, entry :: rest, windows =>
      performCalls others (index + 1) rest
        (performCall (run System.step windows (others index)) entry)

/-- The drain loop, where each examination meets the tokens of its time. -/
def drainAmong (others : Others) (nowUnixMs : Int) : Nat → Nat → System → List ProgramLogBatch →
    List PendingActivityBatch → System × List ProgramLogBatch × List PendingActivityBatch
  | 0, _, windows, ready, batches => (windows, ready, batches)
  | count + 1, index, windows, ready, batches =>
      let met := run System.step windows (others index)
      let examined := PendingActivityQueue.drainLoop met.registry nowUnixMs 1 ready batches
      drainAmong others nowUnixMs count (index + 1) met examined.1 examined.2

/-- The places of the batches that wait at their examination. -/
def waiting (others : Others) (nowUnixMs : Int) : Nat → System → List PendingActivityBatch →
    List Bool
  | _, _, [] => []
  | index, windows, pending :: rest =>
      let met := run System.step windows (others index)
      BatchProcessor.waits met.registry nowUnixMs pending ::
        waiting others nowUnixMs (index + 1) met rest

/-- The tokens that the examinations meet one after the other. -/
def metAt (others : Others) (index : Nat) (windows : System) : Nat → ObservationWindowRegistry
  | 0 => (run System.step windows (others index)).registry
  | examination + 1 => metAt others (index + 1) (run System.step windows (others index)) examination

theorem drainAmong_eq_drainAt (others : Others) (nowUnixMs : Int) (count index : Nat)
    (windows : System) (ready : List ProgramLogBatch) (batches : List PendingActivityBatch) :
    (drainAmong others nowUnixMs count index windows ready batches).2 =
      BatchProcessor.drainAt (metAt others index windows) nowUnixMs count ready batches := by
  induction count generalizing index windows ready batches with
  | zero => rfl
  | succ count ih => exact ih (index + 1) _ _ _

theorem waiting_eq_waitingAt (others : Others) (nowUnixMs : Int) (index : Nat) (windows : System)
    (batches : List PendingActivityBatch) : waiting others nowUnixMs index windows batches =
      BatchProcessor.waitingAt (metAt others index windows) nowUnixMs batches := by
  induction batches generalizing index windows with
  | nil => rfl
  | cons pending rest ih => exact congrArg (_ :: ·) (ih (index + 1) _)

/-- A drain releases the batches that do not wait and keeps the other ones, in their order. -/
theorem drainAmong_eq (others : Others) (nowUnixMs : Int) (windows : System)
    (batches : List PendingActivityBatch) :
    (drainAmong others nowUnixMs batches.length 0 windows [] batches).2 =
      ((Mask.select ((waiting others nowUnixMs 0 windows batches).map not) batches).map
          PendingActivityBatch.batch,
        Mask.select (waiting others nowUnixMs 0 windows batches) batches) := by
  have outcome := BatchProcessor.drainAt_eq (metAt others 0 windows) nowUnixMs batches [] []
  rw [List.append_nil, List.nil_append, List.nil_append] at outcome
  rw [drainAmong_eq_drainAt, waiting_eq_waitingAt, outcome]

theorem length_waiting (others : Others) (nowUnixMs : Int) (index : Nat) (windows : System)
    (batches : List PendingActivityBatch) :
    (waiting others nowUnixMs index windows batches).length = batches.length := by
  rw [waiting_eq_waitingAt, BatchProcessor.length_waitingAt]

/-- Without other holders the tokens stay as they are. -/
theorem drainAmong_alone (nowUnixMs : Int) (count index : Nat) (windows : System)
    (ready : List ProgramLogBatch) (batches : List PendingActivityBatch) :
    (drainAmong (fun _ => []) nowUnixMs count index windows ready batches).1 = windows := by
  induction count generalizing index ready batches with
  | zero => rfl
  | succ count ih => exact ih (index + 1) _ _

/-- A batch that is kept waited at one examination. -/
theorem mem_select_waiting {others : Others} {nowUnixMs : Int} {index : Nat} {windows : System}
    {batches : List PendingActivityBatch} {pending : PendingActivityBatch}
    (kept : pending ∈ Mask.select (waiting others nowUnixMs index windows batches) batches) :
    ∃ rounds, BatchProcessor.waits
      (run System.step windows ((List.range' index (rounds + 1)).flatMap others)).registry nowUnixMs
      pending = true := by
  induction batches generalizing index windows with
  | nil => cases kept
  | cons first rest ih =>
      rw [waiting, Mask.select] at kept
      have later : pending ∈ Mask.select (waiting others nowUnixMs (index + 1)
          (run System.step windows (others index)) rest) rest →
          ∃ rounds, BatchProcessor.waits (run System.step windows
            ((List.range' index (rounds + 1)).flatMap others)).registry nowUnixMs pending = true := by
        intro member
        obtain ⟨rounds, waits⟩ := ih member
        refine ⟨rounds + 1, ?_⟩
        rw [List.range'_succ, List.flatMap_cons, run_append]
        exact waits
      split at kept
      · rename_i waits
        rcases List.mem_cons.mp kept with rfl | member
        · refine ⟨0, ?_⟩
          rw [List.range'_succ, List.range'_zero, List.flatMap_cons, List.flatMap_nil,
            List.append_nil]
          exact waits
        · exact later member
      · exact later kept

/-- The queue beside the tokens, with the receipts of the batches that it holds, has returned as
ready, has released by each drain and has dropped, and with the batches that it has returned. -/
structure PendingActivityRun where
  windows : System
  pendingActivity : PendingActivityQueue
  admitted : List ProgramLogBatch
  held : List Nat
  ready : List Nat
  released : List (List Nat)
  dropped : List Nat
  returned : List ProgramLogBatch
  drained : List (List ProgramLogBatch)

inductive PendingActivityCall where
  | admitBatch (batch : ProgramLogBatch) (nowUnixMs : Int) (others : Others)
  | drainResolved (nowUnixMs : Int) (others : Others)
  | tokens (actions : List Window.Action)

namespace PendingActivityRun

def new (config : PipelineConfig) : PendingActivityRun where
  windows := .new config.maximumActive config.maximumActivePositive
  pendingActivity := (State.new config).pendingActivity
  admitted := []
  held := []
  ready := []
  released := []
  dropped := []
  returned := []
  drained := []

/-- A batch only holds tokens that the registry has issued. A dropped batch performs its calls. -/
def admitBatch (current : PendingActivityRun) (batch : ProgramLogBatch) (nowUnixMs : Int)
    (others : Others) : PendingActivityRun :=
  if ∀ token ∈ batch.windowTokens, token ∈ current.windows.issued then
    let outcome := current.pendingActivity.admitBatch current.windows.registry batch nowUnixMs
    let receipt := current.admitted.length
    let admitted := { current with
      pendingActivity := outcome.2
      admitted := current.admitted ++ [batch] }
    match outcome.1 with
    | .ready batch => { admitted with
        ready := current.ready ++ [receipt]
        returned := current.returned ++ [batch] }
    | .deferred => { admitted with held := current.held ++ [receipt] }
    | .dropped calls => { admitted with
        windows := performCalls others 0 calls current.windows
        dropped := current.dropped ++ [receipt] }
  else current

def drainResolved (current : PendingActivityRun) (nowUnixMs : Int) (others : Others) :
    PendingActivityRun :=
  let batches := current.pendingActivity.batches
  let outcome := drainAmong others nowUnixMs batches.length 0 current.windows [] batches
  let waits := waiting others nowUnixMs 0 current.windows batches
  { current with
    windows := outcome.1
    pendingActivity := { current.pendingActivity with batches := outcome.2.2 }
    held := Mask.select waits current.held
    released := current.released ++ [Mask.select (waits.map not) current.held]
    drained := current.drained ++ [outcome.2.1] }

def step (current : PendingActivityRun) : PendingActivityCall → Unit × PendingActivityRun
  | .admitBatch batch nowUnixMs others => ((), current.admitBatch batch nowUnixMs others)
  | .drainResolved nowUnixMs others => ((), current.drainResolved nowUnixMs others)
  | .tokens actions => ((), { current with windows := run System.step current.windows actions })

end PendingActivityRun

/-- The tokens of the earlier system live on in the later one. -/
structure Succeeds (before after : System) : Prop where
  valid : SystemValid after
  issued : before.issued ⊆ after.issued
  cells : ∀ token ∈ before.issued,
    CellProgress (before.registry.cell token) (after.registry.cell token)

namespace Succeeds

theorem refl {windows : System} (valid : SystemValid windows) : Succeeds windows windows where
  valid := valid
  issued := fun _ member => member
  cells := fun _ _ => .refl _

theorem trans {first second third : System} (left : Succeeds first second)
    (right : Succeeds second third) : Succeeds first third where
  valid := right.valid
  issued := fun _ member => right.issued (left.issued member)
  cells := fun token member =>
    (left.cells token member).trans (right.cells token (left.issued member))

theorem run {windows : System} (valid : SystemValid windows) (actions : List Window.Action) :
    Succeeds windows (Transition.run System.step windows actions) where
  valid := run_valid valid actions
  issued := (run_evolution valid actions).issued.subset
  cells := (run_evolution valid actions).cells

end Succeeds

/-- The calls of a drop. -/
def IsDropCall (call : TokenCall) : Prop :=
  (∃ reason, call = .cancelWithReason reason) ∨ (∃ reason, call = .markIncomplete reason) ∨
    call = .markSettled

theorem IsDropCall.sequential {call : TokenCall} (drops : IsDropCall call) {cell : TokenCell}
    (valid : CellValid cell) : CellProgress cell (call.sequential cell).2 ∧
      CellValid (call.sequential cell).2 ∧
      (call.sequential cell).2.finalizationClaimed = cell.finalizationClaimed := by
  rcases drops with ⟨reason, rfl⟩ | ⟨reason, rfl⟩ | rfl
  · refine ⟨cell.cancelWithReason_progress reason, TokenCell.cancelWithReason_valid valid reason, ?_⟩
    change (cell.cancelWithReason reason).finalizationClaimed = _
    rw [TokenCell.cancelWithReason_eq]
  · refine ⟨cell.markIncomplete_progress reason, TokenCell.markIncomplete_valid valid reason, ?_⟩
    change (cell.markIncomplete reason).2.finalizationClaimed = _
    rw [TokenCell.markIncomplete_snd]
  · refine ⟨cell.markSettled_progress, ?_, ?_⟩
    · change CellValid cell.markSettled.2
      unfold TokenCell.markSettled
      split
      · exact valid
      · rename_i below
        exact ⟨by change cell.settled + 1 ≤ cell.admitted; omega, valid.reason, valid.durable⟩
    · change cell.markSettled.2.finalizationClaimed = _
      unfold TokenCell.markSettled
      split
      · rfl
      · rfl

theorem performCall_succeeds {windows : System} (valid : SystemValid windows)
    {token : ObservationWindowToken} {call : TokenCall} (issued : token ∈ windows.issued)
    (drops : IsDropCall call) : Succeeds windows (performCall windows (token, call)) := by
  obtain ⟨progress, cellValid, claimFlag⟩ := drops.sequential (valid.registry.cells token.address)
  refine ⟨?_, fun _ member => member, ?_⟩
  · apply valid.setCell issued progress cellValid
    case called => exact fun entry member => .inl member
    case holders => exact fun live member => valid.holders _ (List.mem_map.mpr ⟨live, member, rfl⟩)
    case exclusive => exact valid.exclusive
    case own =>
        rw [claimFlag]
        exact valid.claimed token issued
    case others => exact fun _ _ => Iff.rfl
  · intro other member
    by_cases same : other = token
    · subst same
      change CellProgress _ ((windows.registry.setCell other _).cell other)
      rw [cell_setCell]
      exact progress
    · have apart : other.address ≠ token.address := fun equal =>
        same (valid.registry.injective other member token issued equal)
      change CellProgress _ ((windows.registry.setCell token _).cells other.address)
      rw [cells_setCell_of_ne _ apart]
      exact .refl _

theorem performCalls_succeeds {others : Others} {calls : TokenCalls} {index : Nat}
    {windows : System} (valid : SystemValid windows)
    (drops : ∀ entry ∈ calls, entry.1 ∈ windows.issued ∧ IsDropCall entry.2) :
    Succeeds windows (performCalls others index calls windows) := by
  induction calls generalizing index windows with
  | nil => exact .refl valid
  | cons entry rest ih =>
      have before := Succeeds.run valid (others index)
      obtain ⟨issued, dropCall⟩ := drops entry List.mem_cons_self
      have performed := performCall_succeeds before.valid (before.issued issued) dropCall
      have first := before.trans performed
      refine first.trans (ih performed.valid fun other member => ?_)
      obtain ⟨known, dropCall⟩ := drops other (List.mem_cons_of_mem _ member)
      exact ⟨first.issued known, dropCall⟩

theorem drainAmong_succeeds {others : Others} {nowUnixMs : Int} {count index : Nat}
    {windows : System} (valid : SystemValid windows) (ready : List ProgramLogBatch)
    (batches : List PendingActivityBatch) :
    Succeeds windows (drainAmong others nowUnixMs count index windows ready batches).1 := by
  induction count generalizing index windows ready batches with
  | zero => exact .refl valid
  | succ count ih =>
      have met := Succeeds.run valid (others index)
      exact met.trans (ih met.valid _ _)

/-- The token is cancelled, with a reason if it was confirmed. -/
def IsCancelled (cell : TokenCell) : Prop :=
  cell.status = .cancelled ∧ (cell.wasConfirmed = true → cell.incompleteReason ≠ none)

theorem isCancelled_iff {cell : TokenCell} (valid : CellValid cell) :
    IsCancelled cell ↔ cell.isLive = false := by
  have reason := valid.reason
  unfold IsCancelled
  cases state : cell.state <;>
    simp_all [TokenCell.status, TokenCell.isLive, TokenCell.wasConfirmed]

theorem IsCancelled.succeeds {before after : System} (succeeds : Succeeds before after)
    {token : ObservationWindowToken} (issued : token ∈ before.issued)
    (valid : SystemValid before) (cancelled : IsCancelled (before.registry.cell token)) :
    IsCancelled (after.registry.cell token) := by
  have closed : (before.registry.cell token).isLive = false :=
    (isCancelled_iff (valid.registry.cells token.address)).mp cancelled
  apply (isCancelled_iff (succeeds.valid.registry.cells token.address)).mpr
  change (after.registry.cell token).isLive = false
  cases live : (after.registry.cell token).isLive with
  | false => rfl
  | true =>
      rw [(succeeds.cells token issued).isLive live] at closed
      cases closed

/-- A performed cancellation is not undone by the calls behind it. -/
theorem performCalls_cancels {others : Others} {calls : TokenCalls} {index : Nat}
    {windows : System} (valid : SystemValid windows)
    (drops : ∀ entry ∈ calls, entry.1 ∈ windows.issued ∧ IsDropCall entry.2)
    {token : ObservationWindowToken} {reason : WindowIncompleteReason}
    (cancels : (token, .cancelWithReason reason) ∈ calls) :
    IsCancelled ((performCalls others index calls windows).registry.cell token) := by
  induction calls generalizing index windows with
  | nil => cases cancels
  | cons entry rest ih =>
      have before := Succeeds.run valid (others index)
      obtain ⟨issued, dropCall⟩ := drops entry List.mem_cons_self
      have performed := performCall_succeeds before.valid (before.issued issued) dropCall
      have known : ∀ other ∈ rest, other.1 ∈ (performCall (run System.step windows (others index))
          entry).issued ∧ IsDropCall other.2 := by
        intro other member
        obtain ⟨known, dropCall⟩ := drops other (List.mem_cons_of_mem _ member)
        exact ⟨performed.issued (before.issued known), dropCall⟩
      rw [performCalls]
      rcases List.mem_cons.mp cancels with rfl | later
      · apply IsCancelled.succeeds (performCalls_succeeds performed.valid known)
          (performed.issued (before.issued issued)) performed.valid
        apply (isCancelled_iff (performed.valid.registry.cells token.address)).mpr
        change ((ObservationWindowRegistry.setCell _ token _).cell token).isLive = false
        rw [cell_setCell]
        exact TokenCell.cancelWithReason_isLive _ reason
      · exact ih performed.valid known later

namespace PendingActivityRun

variable {current : PendingActivityRun}

/-- Every admitted batch has exactly one place, the lists keep the order of the admissions, and the
tokens of the dropped batches are cancelled. -/
structure IsAccounted (current : PendingActivityRun) : Prop where
  capacity : current.pendingActivity.batches.length ≤ current.pendingActivity.capacity
  once : (current.ready ++ current.held ++ current.released.flatten ++ current.dropped).Perm
    (List.range current.admitted.length)
  readied : current.ready.map (current.admitted[·]?) = current.returned.map some
  queued : current.held.map (current.admitted[·]?) =
    current.pendingActivity.batches.map fun pending => some pending.batch
  drained : current.released.map (List.map (current.admitted[·]?)) =
    current.drained.map (List.map some)
  heldOrder : current.held.Pairwise (· < ·)
  releasedOrder : ∀ receipts ∈ current.released, receipts.Pairwise (· < ·)
  cancelled : ∀ receipt ∈ current.dropped, ∀ batch, current.admitted[receipt]? = some batch →
    ∀ token ∈ batch.windowTokens, IsCancelled (current.windows.registry.cell token)

/-- The tokens stay valid and the dropped ones issued. -/
structure IsSound (current : PendingActivityRun) : Prop extends IsAccounted current where
  valid : SystemValid current.windows
  issued : ∀ receipt ∈ current.dropped, ∀ batch, current.admitted[receipt]? = some batch →
    ∀ token ∈ batch.windowTokens, token ∈ current.windows.issued

theorem IsSound.new (config : PipelineConfig) : (new config).IsSound where
  capacity := Nat.zero_le _
  once := .refl _
  readied := rfl
  queued := rfl
  drained := rfl
  heldOrder := .nil
  releasedOrder := fun _ impossible => absurd impossible List.not_mem_nil
  cancelled := fun _ impossible => absurd impossible List.not_mem_nil
  valid := .new _ _
  issued := fun _ impossible => absurd impossible List.not_mem_nil

theorem IsAccounted.lt_length (accounted : current.IsAccounted) {receipt : Nat}
    (placed : receipt ∈ current.ready ++ current.held ++ current.released.flatten ++
      current.dropped) : receipt < current.admitted.length :=
  List.mem_range.mp (accounted.once.mem_iff.mp placed)

/-- What the other holders do to the tokens leaves the account. -/
theorem IsSound.tokens (sound : current.IsSound) {windows : System}
    (succeeds : Succeeds current.windows windows) : { current with windows }.IsSound :=
  { sound with
    cancelled := fun receipt member batch found token owned =>
      (sound.cancelled receipt member batch found token owned).succeeds succeeds
        (sound.issued receipt member batch found token owned) sound.valid
    valid := succeeds.valid
    issued := fun receipt member batch found token owned =>
      succeeds.issued (sound.issued receipt member batch found token owned) }

/-- The earlier receipts keep their batches. -/
theorem map_admitted {admitted : List ProgramLogBatch} {receipts : List Nat}
    (known : ∀ receipt ∈ receipts, receipt < admitted.length) (batch : ProgramLogBatch) :
    receipts.map ((admitted ++ [batch])[·]?) = receipts.map (admitted[·]?) :=
  List.map_congr_left fun receipt member => List.getElem?_append_left (known receipt member)

theorem map_released {admitted : List ProgramLogBatch} {released : List (List Nat)}
    (known : ∀ receipt ∈ released.flatten, receipt < admitted.length) (batch : ProgramLogBatch) :
    released.map (List.map ((admitted ++ [batch])[·]?)) =
      released.map (List.map (admitted[·]?)) :=
  List.map_congr_left fun receipts member => map_admitted (fun receipt placed =>
    known receipt (List.mem_flatten.mpr ⟨receipts, member, placed⟩)) batch

theorem admitBatch_outcome (queue : PendingActivityQueue) (registry : ObservationWindowRegistry)
    (batch : ProgramLogBatch) (nowUnixMs : Int) :
    queue.admitBatch registry batch nowUnixMs = (.ready batch, queue) ∨
    queue.admitBatch registry batch nowUnixMs =
      (.dropped ((batch.windowTokens.map fun token => (token, .cancelWithReason .queueOverflow)) ++
        batch.drop), queue) ∨
    (queue.batches.length < queue.capacity ∧ ∃ releaseAtUnixMs,
      queue.admitBatch registry batch nowUnixMs =
        (.deferred, { queue with batches := queue.batches ++ [{ batch, releaseAtUnixMs }] })) := by
  unfold PendingActivityQueue.admitBatch
  split
  · exact .inl rfl
  · split
    · exact .inr (.inl rfl)
    · rename_i room
      exact .inr (.inr ⟨not_le.mp room, _, rfl⟩)

/-- The calls of a dropped batch go to its own tokens. -/
theorem dropCalls (batch : ProgramLogBatch) :
    ∀ entry ∈ (batch.windowTokens.map fun token =>
        (token, TokenCall.cancelWithReason .queueOverflow)) ++ batch.drop,
      entry.1 ∈ batch.windowTokens ∧ IsDropCall entry.2 := by
  intro entry member
  rcases List.mem_append.mp member with cancel | settle
  · obtain ⟨token, owned, rfl⟩ := List.mem_map.mp cancel
    exact ⟨owned, .inl ⟨_, rfl⟩⟩
  · unfold ProgramLogBatch.drop settleMarked at settle
    obtain ⟨token, owned, called⟩ := List.mem_flatMap.mp settle
    obtain ⟨call, listed, rfl⟩ := List.mem_map.mp called
    refine ⟨owned, ?_⟩
    rcases List.mem_append.mp listed with marked | last
    · split at marked
      · cases marked
      · exact .inr (.inl ⟨_, List.mem_singleton.mp marked⟩)
    · exact .inr (.inr (List.mem_singleton.mp last))

theorem IsSound.admitBatch (sound : current.IsSound) (batch : ProgramLogBatch) (nowUnixMs : Int)
    (others : Others) : (current.admitBatch batch nowUnixMs others).IsSound := by
  have readied : current.ready.map ((current.admitted ++ [batch])[·]?) = _ :=
    map_admitted (fun receipt member => sound.lt_length (by simp [member])) batch
  have queued : current.held.map ((current.admitted ++ [batch])[·]?) = _ :=
    map_admitted (fun receipt member => sound.lt_length (by simp [member])) batch
  have drained : current.released.map (List.map ((current.admitted ++ [batch])[·]?)) = _ :=
    map_released (fun receipt member => sound.lt_length
      (List.mem_append_left _ (List.mem_append_right _ member))) batch
  have lost : ∀ receipt ∈ current.dropped,
      (current.admitted ++ [batch])[receipt]? = current.admitted[receipt]? := fun receipt member =>
    List.getElem?_append_left (sound.lt_length (by simp [member]))
  have last : (current.admitted ++ [batch])[current.admitted.length]? = some batch := by simp
  have range : List.range (current.admitted ++ [batch]).length =
      List.range current.admitted.length ++ [current.admitted.length] := by
    rw [List.length_append, List.length_singleton, List.range_succ]
  unfold PendingActivityRun.admitBatch
  split
  case isFalse => exact sound
  case isTrue owned =>
  rcases admitBatch_outcome current.pendingActivity current.windows.registry batch nowUnixMs with
    outcome | outcome | ⟨room, releaseAt, outcome⟩
  · rw [outcome]
    exact {
      capacity := sound.capacity
      once := by
        rw [range]
        refine List.Perm.trans ?_ (sound.once.append_right _)
        rw [← Multiset.coe_eq_coe]
        simp only [← Multiset.coe_add]
        abel
      readied := by
        simp only [List.map_append, List.map_cons, List.map_nil, last]
        rw [readied, sound.readied]
      queued := queued.trans sound.queued
      drained := drained.trans sound.drained
      heldOrder := sound.heldOrder
      releasedOrder := sound.releasedOrder
      cancelled := fun receipt member found located => by
        rw [lost receipt member] at located
        exact sound.cancelled receipt member found located
      valid := sound.valid
      issued := fun receipt member found located => by
        rw [lost receipt member] at located
        exact sound.issued receipt member found located }
  · rw [outcome]
    have drops : ∀ entry ∈ (batch.windowTokens.map fun token =>
        (token, TokenCall.cancelWithReason .queueOverflow)) ++ batch.drop,
        entry.1 ∈ current.windows.issued ∧ IsDropCall entry.2 := fun entry member =>
      ⟨owned entry.1 (dropCalls batch entry member).1, (dropCalls batch entry member).2⟩
    have succeeds : Succeeds current.windows (performCalls others 0 _ current.windows) :=
      performCalls_succeeds sound.valid drops
    exact {
      capacity := sound.capacity
      once := by
        rw [range]
        refine List.Perm.trans ?_ (sound.once.append_right _)
        rw [← Multiset.coe_eq_coe]
        simp only [← Multiset.coe_add]
        abel
      readied := readied.trans sound.readied
      queued := queued.trans sound.queued
      drained := drained.trans sound.drained
      heldOrder := sound.heldOrder
      releasedOrder := sound.releasedOrder
      cancelled := fun receipt member found located token holds => by
        rcases List.mem_append.mp member with before | new
        · rw [lost receipt before] at located
          exact (sound.cancelled receipt before found located token holds).succeeds succeeds
            (sound.issued receipt before found located token holds) sound.valid
        · rw [List.mem_singleton.mp new, last] at located
          cases located
          exact performCalls_cancels sound.valid drops
            (List.mem_append_left _ (List.mem_map.mpr ⟨token, holds, rfl⟩))
      valid := succeeds.valid
      issued := fun receipt member found located token holds => by
        rcases List.mem_append.mp member with before | new
        · rw [lost receipt before] at located
          exact succeeds.issued (sound.issued receipt before found located token holds)
        · rw [List.mem_singleton.mp new, last] at located
          cases located
          exact succeeds.issued (owned token holds) }
  · rw [outcome]
    exact {
      capacity := by
        change (current.pendingActivity.batches ++ [_]).length ≤ _
        rw [List.length_append]
        exact room
      once := by
        rw [range]
        refine List.Perm.trans ?_ (sound.once.append_right _)
        rw [← Multiset.coe_eq_coe]
        simp only [← Multiset.coe_add]
        abel
      readied := readied.trans sound.readied
      queued := by
        simp only [List.map_append, List.map_cons, List.map_nil, last]
        rw [queued, sound.queued]
      drained := drained.trans sound.drained
      heldOrder := by
        refine List.pairwise_append.mpr ⟨sound.heldOrder, List.pairwise_singleton _ _, ?_⟩
        intro earlier member later new
        rw [List.mem_singleton.mp new]
        exact sound.lt_length (by simp [member])
      releasedOrder := sound.releasedOrder
      cancelled := fun receipt member found located => by
        rw [lost receipt member] at located
        exact sound.cancelled receipt member found located
      valid := sound.valid
      issued := fun receipt member found located => by
        rw [lost receipt member] at located
        exact sound.issued receipt member found located }

theorem IsSound.drainResolved (sound : current.IsSound) (nowUnixMs : Int) (others : Others) :
    (current.drainResolved nowUnixMs others).IsSound := by
  have outcome := drainAmong_eq others nowUnixMs current.windows current.pendingActivity.batches
  have succeeds : Succeeds current.windows (drainAmong others nowUnixMs
      current.pendingActivity.batches.length 0 current.windows []
      current.pendingActivity.batches).1 := drainAmong_succeeds sound.valid _ _
  have lengths : current.held.length = current.pendingActivity.batches.length := by
    have same := congrArg List.length sound.queued
    rwa [List.length_map, List.length_map] at same
  have placed := (length_waiting others nowUnixMs 0 current.windows
    current.pendingActivity.batches).trans lengths.symm
  have split := Mask.select_perm placed
  have labelled : ∀ mask : List Bool, (Mask.select mask current.held).map (current.admitted[·]?) =
      (Mask.select mask current.pendingActivity.batches).map fun pending => some pending.batch := by
    intro mask
    rw [Mask.map_select, Mask.map_select, sound.queued]
  unfold PendingActivityRun.drainResolved
  dsimp only
  rw [outcome]
  exact {
    capacity := le_trans (Mask.select_sublist _ _).length_le sound.capacity
    once := by
      refine List.Perm.trans ?_ sound.once
      rw [← Multiset.coe_eq_coe] at split ⊢
      simp only [List.flatten_append, List.flatten_cons, List.flatten_nil, List.append_nil]
      rw [← Multiset.coe_add] at split
      simp only [← Multiset.coe_add]
      rw [← split]
      abel
    readied := sound.readied
    queued := labelled _
    drained := by
      simp only [List.map_append, List.map_cons, List.map_nil, List.map_map]
      rw [sound.drained, labelled]
      rfl
    heldOrder := sound.heldOrder.sublist (Mask.select_sublist _ _)
    releasedOrder := by
      intro receipts member
      rcases List.mem_append.mp member with before | new
      · exact sound.releasedOrder receipts before
      · rw [List.mem_singleton.mp new]
        exact sound.heldOrder.sublist (Mask.select_sublist _ _)
    cancelled := fun receipt member batch found token owned =>
      (sound.cancelled receipt member batch found token owned).succeeds succeeds
        (sound.issued receipt member batch found token owned) sound.valid
    valid := succeeds.valid
    issued := fun receipt member batch found token owned =>
      succeeds.issued (sound.issued receipt member batch found token owned) }

theorem isSound_run (config : PipelineConfig) (calls : List PendingActivityCall) :
    (run step (new config) calls).IsSound := by
  apply invariant_run step IsSound _ (IsSound.new config)
  intro current call sound
  cases call with
  | admitBatch batch nowUnixMs others => exact sound.admitBatch batch nowUnixMs others
  | drainResolved nowUnixMs others => exact sound.drainResolved nowUnixMs others
  | tokens actions => exact sound.tokens (.run sound.valid actions)

theorem capacity_admitBatch (current : PendingActivityRun) (batch : ProgramLogBatch) (nowUnixMs : Int)
    (others : Others) : (current.admitBatch batch nowUnixMs others).pendingActivity.capacity =
      current.pendingActivity.capacity := by
  unfold PendingActivityRun.admitBatch
  split
  · rcases admitBatch_outcome current.pendingActivity current.windows.registry batch nowUnixMs with
      outcome | outcome | ⟨-, releaseAt, outcome⟩
    · rw [outcome]
    · rw [outcome]
    · rw [outcome]
  · rfl

theorem capacity_run (config : PipelineConfig) (calls : List PendingActivityCall) :
    (run step (new config) calls).pendingActivity.capacity = config.queueCapacity := by
  apply invariant_run step fun current => current.pendingActivity.capacity = config.queueCapacity
  · intro current call same
    cases call with
    | admitBatch batch nowUnixMs others =>
        exact (capacity_admitBatch current batch nowUnixMs others).trans same
    | drainResolved nowUnixMs others => exact same
    | tokens actions => exact same
  · rfl

/-- In every run the queue stays within its capacity and each batch has its one place, and after a
drain only batches are left whose deadline is ahead and that had a pending token when the drain
examined them. -/
theorem pendingActivity_accounted (config : PipelineConfig) (calls : List PendingActivityCall) :
    let current := run step (new config) calls
    current.IsAccounted ∧ current.pendingActivity.batches.length ≤ config.queueCapacity ∧
    ∀ nowUnixMs others,
      ∀ pending ∈ (current.drainResolved nowUnixMs others).pendingActivity.batches,
        nowUnixMs < pending.releaseAtUnixMs ∧
        (∃ rounds, hasPendingToken (run System.step current.windows
          ((List.range rounds).flatMap others)).registry pending.batch = true) ∧
        ((∀ round, others round = []) → hasPendingToken
          (current.drainResolved nowUnixMs others).windows.registry pending.batch = true) := by
  intro current
  have accounted := (isSound_run config calls).toIsAccounted
  refine ⟨accounted, le_trans accounted.capacity (capacity_run config calls).le, ?_⟩
  intro nowUnixMs others pending member
  have outcome := drainAmong_eq others nowUnixMs current.windows current.pendingActivity.batches
  have kept : pending ∈ Mask.select (waiting others nowUnixMs 0 current.windows
      current.pendingActivity.batches) current.pendingActivity.batches := by
    unfold PendingActivityRun.drainResolved at member
    dsimp only at member
    rw [outcome] at member
    exact member
  obtain ⟨rounds, waits⟩ := mem_select_waiting kept
  rw [← List.range_eq_range', BatchProcessor.waits, Bool.and_eq_true, decide_eq_true_eq] at waits
  refine ⟨waits.2, ⟨rounds + 1, waits.1⟩, ?_⟩
  intro alone
  have nobody : others = fun _ => [] := funext alone
  subst nobody
  have idle : (List.range (rounds + 1)).flatMap (fun _ => ([] : List Window.Action)) = [] := by
    simp
  rw [idle, run_nil] at waits
  unfold PendingActivityRun.drainResolved
  dsimp only
  rw [drainAmong_alone]
  exact waits.1

end PendingActivityRun

end Soldisco.Pipeline

import Soldisco.Proof.Persistence.Application
import Soldisco.Proof.Persistence.Replay
import Mathlib.Order.Bounds.Basic

/-
This file proves that the deliveries of one chain event converge to one row and one work item.
-/

namespace Soldisco.Persistence
open Domain MachineInteger Accumulation

/-- An observation without its receipt, its commitment and its transaction index. -/
def Observation.evidence (observation : Observation) : Observation :=
  { observation with
    receivedTimeUnixMs := 0
    commitment := .processed
    key := { observation.key with
      coordinate := { observation.key.coordinate with transactionIndex := none } } }

/-- Two deliveries agree in everything but the receipt, the commitment and a transaction index that
one of them leaves unknown. -/
structure AgreesWith (left right : Observation) : Prop where
  evidence : left.evidence = right.evidence
  transactionIndex : ∀ leftIndex ∈ left.key.coordinate.transactionIndex,
    ∀ rightIndex ∈ right.key.coordinate.transactionIndex, leftIndex = rightIndex

theorem AgreesWith.symm {left right : Observation} (agrees : AgreesWith left right) :
    AgreesWith right left where
  evidence := agrees.evidence.symm
  transactionIndex := fun rightIndex known leftIndex other =>
    (agrees.transactionIndex leftIndex other rightIndex known).symm

/-- The comparison after the normalization compares exactly what must agree. -/
theorem compatibleReplay_iff {stored incoming : Observation} :
    compatibleReplay stored incoming = true ↔ AgreesWith stored incoming := by
  unfold compatibleReplay
  rw [Bool.and_eq_true, decide_eq_true_iff]
  refine (and_congr (?_ : _ ↔ ∀ left ∈ stored.key.coordinate.transactionIndex,
    ∀ right ∈ incoming.key.coordinate.transactionIndex, left = right) Iff.rfl).trans ?_
  · cases stored.key.coordinate.transactionIndex <;>
      cases incoming.key.coordinate.transactionIndex <;> simp
  constructor
  · rintro ⟨known, same⟩
    refine ⟨?_, known⟩
    rw [← same]
    rfl
  · intro agrees
    refine ⟨agrees.transactionIndex, ?_⟩
    -- The normalized delivery is its evidence with the metadata of the stored row put back.
    have restored := congrArg (fun evidence : Observation => { evidence with
      receivedTimeUnixMs := stored.receivedTimeUnixMs
      commitment := stored.commitment
      key := { evidence.key with coordinate := { evidence.key.coordinate with
        transactionIndex := stored.key.coordinate.transactionIndex } } }) agrees.evidence
    exact restored.symm

theorem compatibleReplay_symm (left right : Observation) :
    compatibleReplay left right = compatibleReplay right left := by
  rw [Bool.eq_iff_iff, compatibleReplay_iff, compatibleReplay_iff]
  exact ⟨.symm, .symm⟩

theorem sameIdentity_symm (left right : ObservationKey) :
    sameIdentity left right = sameIdentity right left := by
  unfold sameIdentity
  simp only [eq_comm]

theorem Database.findObservation_of_same {db next : Database}
    (observations : next.observations = db.observations) (key : ObservationKey) :
    next.findObservation key = db.findObservation key := by
  unfold Database.findObservation
  rw [observations]

/-- The observation that an action delivers. -/
def DatabaseAction.delivered : DatabaseAction → Option Observation
  | .insertObservation _ observation => some observation
  | .openDiscoveryWindow _ observation _ => some observation
  | .insertWindowObservation _ _ observation => some observation
  | _ => none

/-- The transaction of an opening that finds its window is rolled back. -/
def DatabaseOutcome.isKept : DatabaseOutcome → Bool
  | .opened window => !window.replayed
  | _ => true

/-- The stored observation opens a window. -/
def Database.isFrozen (db : Database) (key : ObservationKey) : Bool :=
  (db.findObservation key).any fun entry => db.opensWindow entry.1

/-- A delivery that is not rolled back, and whether its observation opened a window before it. -/
structure KeptDelivery where
  observation : Observation
  afterOpening : Bool
deriving DecidableEq, Repr

/-- The delivery of the identity that an action makes. -/
def keptDelivery (isBase64 : String → Bool) (key : ObservationKey) (db : Database)
    (action : DatabaseAction) : List KeptDelivery :=
  match action.delivered, (step isBase64 db action).1 with
  | some observation, .ok outcome =>
      if sameIdentity observation.key key && outcome.isKept then
        [{ observation, afterOpening := db.isFrozen key }]
      else []
  | _, _ => []

/-- The deliveries of the identity along a run. -/
def keptDeliveries (isBase64 : String → Bool) (key : ObservationKey) (db : Database)
    (actions : List DatabaseAction) : List KeptDelivery :=
  Transition.collect (step isBase64) (keptDelivery isBase64 key) db actions

/-- The work is the discovery work of the observation. -/
def Database.IsDiscoveryWork (db : Database) (observationId workId : Int) : Prop :=
  ∃ work, db.work.lookup workId = some work ∧ work.observationId = observationId ∧
    work.workKind = "DISCOVERY"

theorem WorkQueued.discoveryWork {now : Int} {db next : Database} {observation : Observation}
    {id : Int} (queued : WorkQueued now db observation { id, isNew := true } next) :
    ∃! workId, next.IsDiscoveryWork id workId := by
  cases queued with
  | queued free unqueued =>
      refine ⟨db.nextWorkId, ⟨pendingWork now id, AList.lookup_insert _, rfl, rfl⟩, ?_⟩
      intro workId ⟨work, present, same, kind⟩
      by_contra other
      change AList.lookup workId (db.work.insert db.nextWorkId _) = some work at present
      rw [AList.lookup_insert_ne other] at present
      exact unqueued workId work present kind same

/-- No transaction adds a second discovery work for an observation. -/
theorem WorkChange.discoveryWork {db next : Database} {action : DatabaseAction}
    (change : WorkChange db action next) {id : Int}
    (once : ∃! workId, db.IsDiscoveryWork id workId) :
    ∃! workId, next.IsDiscoveryWork id workId := by
  obtain ⟨workId, ⟨work, present, same, kind⟩, only⟩ := once
  obtain ⟨after, found, moved⟩ := change.stepped workId work present
  refine ⟨workId, ⟨after, found, moved.origin.1.trans same, moved.origin.2.trans kind⟩, ?_⟩
  intro other ⟨otherWork, otherFound, otherSame, otherKind⟩
  cases before : db.work.lookup other with
  | none =>
      have unqueued := (change.queued other otherWork otherFound before).1 workId work present kind
      exact absurd (same.trans otherSame.symm) unqueued
  | some old =>
      obtain ⟨later, laterFound, otherMoved⟩ := change.stepped other old before
      rw [otherFound] at laterFound
      cases laterFound
      exact only other ⟨old, before, otherMoved.origin.1.symm.trans otherSame,
        otherMoved.origin.2.symm.trans otherKind⟩

/-- A window that the observation opens stays unless history is pruned. -/
theorem DecisionChange.opensWindow {db next : Database} {action : DatabaseAction}
    (change : DecisionChange db action next) (keeps : action.prunes = false) {id : Int}
    (opens : db.opensWindow id = true) : next.opensWindow id = true := by
  have kept : ∀ windows, windows = db.windows →
      (windows.any fun _ window => window.openingObservationId = some id) = true := by
    intro windows same
    rw [same]
    exact opens
  obtain ⟨windowId, window, present, opening⟩ := Table.any_iff.mp opens
  cases change with
  | quiet same => exact kept _ same.windows
  | bound => exact kept _ rfl
  | opened _ _ _ free _ windows =>
      have other : windowId ≠ db.nextWindowId := by
        intro same
        rw [same, free] at present
        cases present
      refine Table.any_iff.mpr ⟨windowId, window, ?_, opening⟩
      rw [windows, AList.lookup_insert_ne other, present]
  | observed _ _ _ _ _ _ same => exact kept _ same.windows
  | approved _ _ _ _ _ _ same => exact kept _ same.windows
  | @finalized _ payload _ _ _ _ _ _ _ _ _ _ _ _ _ _ windows =>
      unfold Database.opensWindow
      rw [windows]
      by_cases same : windowId = payload.windowId
      · refine Table.any_iff.mpr ⟨windowId, finalizeRow payload window, ?_, opening⟩
        rw [Table.lookup_modify, if_pos same, ← same, present]
        rfl
      · refine Table.any_iff.mpr ⟨windowId, window, ?_, opening⟩
        rw [Table.lookup_modify, if_neg same, present]
  | pruned => cases keeps

/-- The stored observations change by deliveries alone. -/
theorem Transacted.observations {isBase64 : String → Bool} {clamp : Int → Int}
    {db next : Database} {action : DatabaseAction}
    (committed : Transacted isBase64 clamp db action next) (consistent : TokensConsistent db)
    (keeps : action.prunes = false) (undelivered : action.delivered = none) :
    next.observations = db.observations := by
  cases committed with
  | bound | boundBefore | addedRevision | skippedSequences => rfl
  | insertedObservation | openedWindow | insertedMember => cases undelivered
  | claimedWork accepted =>
      obtain ⟨leaseMillis, rfl⟩ := claimObservationWork_eq_ok accepted
      rfl
  | renewedLease accepted => rw [renewObservationWorkLease_eq_ok accepted]
  | committedObservation accepted =>
      obtain ⟨-, -, work, recorded, projected, tokens, activity, traders, -, -, -, -, -, -, rfl⟩ :=
        commitDiscoveryObservation_eq_ok consistent accepted
      rfl
  | committedApproval accepted =>
      obtain ⟨-, -, row, observedSlot, -, -, -, -, rfl⟩ := commitDiscoveryApproval_eq_ok accepted
      rfl
  | committedRejection accepted =>
      obtain ⟨work, -, -, rfl⟩ := commitDiscoveryRejection_eq_ok accepted
      rfl
  | releasedWork accepted =>
      obtain ⟨work, retryMillis, -, branch⟩ := retryOrFailObservationWork_eq_ok accepted
      rcases branch with ⟨-, -, rfl⟩ | ⟨-, -, -, rfl⟩ | ⟨-, -, -, rfl⟩ <;> rfl
  | finalizedWindow accepted => exact (finalizeDiscoveryWindow_frame accepted).1
  | prunedHistory => cases keeps
  | rebuiltProjection accepted =>
      unfold rebuildDiscoveryProjection at accepted
      simp only [bind_eq_ok] at accepted
      obtain ⟨_, _, done⟩ := accepted
      cases done
      rfl

/-- What a committed transaction does to the stored observations. -/
inductive FactChange (db : Database) (action : DatabaseAction) (outcome : DatabaseOutcome)
    (next : Database) : Prop
  | same (undelivered : action.delivered = none ∨ outcome.isKept = false)
      (observations : next.observations = db.observations)
  | stored {now : Int} {observation : Observation} {inserted : ObservationInsert}
      {after : Database} (delivered : action.delivered = some observation)
      (kept : outcome.isKept = true)
      (storage : ObservationStored now db observation inserted after)
      (observations : next.observations = after.observations)
      (work : inserted.isNew = true → ∃! workId, next.IsDiscoveryWork inserted.id workId)

/-- The work of a stored delivery is queued in the same transaction. -/
theorem WorkQueued.ofNew {now : Int} {db next : Database} {observation : Observation}
    {inserted : ObservationInsert} (queued : WorkQueued now db observation inserted next)
    (isNew : inserted.isNew = true) : ∃! workId, next.IsDiscoveryWork inserted.id workId := by
  obtain ⟨id, new⟩ := inserted
  cases isNew
  exact queued.discoveryWork

theorem transact_factChange {isBase64 : String → Bool} {clamp : Int → Int} {db next : Database}
    {action : DatabaseAction} {outcome : DatabaseOutcome}
    (accepted : transact isBase64 clamp db action = .ok (outcome, next))
    (consistent : TokensConsistent db) (keeps : action.prunes = false) :
    FactChange db action outcome next := by
  cases delivered : action.delivered with
  | none =>
      have committed := transact_eq_ok accepted
      exact .same (.inl delivered) (committed.observations consistent keeps delivered)
  | some observation =>
      cases action with
      | insertObservation now other =>
          simp only [transact, bind_eq_ok] at accepted
          obtain ⟨⟨isNew, _⟩, accepted, done⟩ := accepted
          cases done
          obtain ⟨-, inserted, after, storage, work⟩ := insertObservation_eq_ok accepted
          exact .stored rfl rfl storage (by rw [work.frame]) work.ofNew
      | openDiscoveryWindow now other window =>
          simp only [transact, bind_eq_ok] at accepted
          obtain ⟨⟨opened, _⟩, accepted, done⟩ := accepted
          cases done
          rcases openDiscoveryWindow_eq_ok accepted with
            ⟨replayed, rfl⟩ | ⟨created, -, -, -, -, -, inserted, after, queued, prefilterRevision,
              qualificationRevision, storage, work, -, rfl⟩
          · refine .same (.inr ?_) rfl
            simp [DatabaseOutcome.isKept, replayed]
          · have frame : (queued.openWindow now (newWindowRow db.nextWindowId inserted.id
                prefilterRevision qualificationRevision other window) inserted.id
                window.qualification.revision).observations = queued.observations ∧
                (queued.openWindow now (newWindowRow db.nextWindowId inserted.id
                prefilterRevision qualificationRevision other window) inserted.id
                window.qualification.revision).work = queued.work := by
              unfold Database.openWindow
              rw [Database.insertMembership_frame]
              exact ⟨rfl, rfl⟩
            refine .stored rfl ?_ storage ?_ ?_
            · simp [DatabaseOutcome.isKept, created]
            · rw [frame.1, work.frame]
            · unfold Database.IsDiscoveryWork
              rw [frame.2]
              exact work.ofNew
      | insertWindowObservation now windowId other =>
          simp only [transact, bind_eq_ok] at accepted
          obtain ⟨⟨isNew, _⟩, accepted, done⟩ := accepted
          cases done
          obtain ⟨-, window, inserted, after, -, storage, branch⟩ :=
            insertWindowObservation_eq_ok accepted
          rcases branch with ⟨old, rfl⟩ | ⟨row, queued, -, -, work, rfl⟩
          · refine .stored rfl rfl storage rfl ?_
            intro isNew
            rw [old] at isNew
            cases isNew
          · refine .stored rfl rfl storage ?_ ?_
            · rw [Database.insertMembership_frame]
              dsimp only
              rw [work.frame]
            · unfold Database.IsDiscoveryWork
              rw [Database.insertMembership_frame]
              exact work.ofNew
      | _ => cases delivered

namespace ObservationStored

variable {now : Int} {db next : Database} {observation : Observation} {inserted : ObservationInsert}

/-- A stored row is the row of the delivery or it was there before. -/
theorem rows (stored : ObservationStored now db observation inserted next) {id : Int}
    {row : ObservationRow} (present : next.observations.lookup id = some row) :
    (id = inserted.id ∧ sameIdentity row.normalized.key observation.key = true) ∨
      db.observations.lookup id = some row := by
  cases stored with
  | added =>
      rw [Database.lookup_addObservation] at present
      split at present
      · rename_i same
        cases present
        exact .inl ⟨same, sameIdentity_refl _⟩
      · exact .inr present
  | @lowered loweredId loweredRow found =>
      obtain ⟨before, same⟩ := Database.findObservation_eq_some found
      rw [Database.lookup_lowerReceipt] at present
      split at present
      · rename_i changed
        rw [before] at present
        cases present
        exact .inl ⟨changed, same⟩
      · exact .inr present
  | kept => exact .inr present

/-- A delivery leaves the rows of the other identities alone. -/
theorem rows_other (stored : ObservationStored now db observation inserted next)
    {key : ObservationKey} (other : sameIdentity observation.key key = false) {id : Int}
    {row : ObservationRow} (present : next.observations.lookup id = some row)
    (same : sameIdentity row.normalized.key key = true) :
    db.observations.lookup id = some row := by
  rcases stored.rows present with ⟨-, own⟩ | before
  · rw [sameIdentity_symm, sameIdentity_congr own, sameIdentity_symm, other] at same
    cases same
  · exact before

theorem findObservation_other (stored : ObservationStored now db observation inserted next)
    {key : ObservationKey} (other : sameIdentity observation.key key = false) {id : Int}
    {row : ObservationRow} (found : db.findObservation key = some (id, row)) :
    next.findObservation key = some (id, row) := by
  obtain ⟨after, later, -⟩ := stored.extended.facts key id row found
  obtain ⟨present, same⟩ := Database.findObservation_eq_some later
  have before := stored.rows_other other present same
  rw [(Database.findObservation_eq_some found).1] at before
  cases before
  exact later

/-- An identity that is absent stays absent. -/
theorem absent_other (stored : ObservationStored now db observation inserted next)
    {key : ObservationKey} (other : sameIdentity observation.key key = false)
    (absent : db.findObservation key = none) : next.findObservation key = none := by
  apply Table.find_eq_none.mpr
  intro id row present
  by_contra same
  rw [Bool.not_eq_false] at same
  have before := stored.rows_other other present same
  rw [Database.findObservation_eq_none absent before] at same
  cases same

end ObservationStored

/-- The fact of the first delivery is stored in the only row of its identity. -/
structure DeliveryStored (db : Database) (key : ObservationKey) (first : Observation) (id : Int)
    (row : ObservationRow) : Prop where
  identity : sameIdentity first.key key = true
  found : db.findObservation key = some (id, row)
  only : ∀ other otherRow, db.observations.lookup other = some otherRow →
    sameIdentity otherRow.normalized.key key = true → other = id
  fact : row.normalized = { first with
    receivedTimeUnixMs := row.normalized.receivedTimeUnixMs }
  work : ∃! workId, db.IsDiscoveryWork id workId

/-- The receipt of a stored fact after a delivery of its identity. -/
def Database.receiptAfter (db : Database) (id : Int) (row : ObservationRow)
    (observation : Observation) : Int :=
  if db.opensWindow id then row.normalized.receivedTimeUnixMs
  else min row.normalized.receivedTimeUnixMs observation.receivedTimeUnixMs

/-- A delivery of a stored identity moves at most the receipt. -/
theorem ObservationStored.replayed {now : Int} {db next : Database} {observation : Observation}
    {inserted : ObservationInsert} (stored : ObservationStored now db observation inserted next)
    {key : ObservationKey} (same : sameIdentity observation.key key = true) {id : Int}
    {row : ObservationRow} (found : db.findObservation key = some (id, row)) :
    inserted.id = id ∧ next.findObservation key =
      some (id, row.receivedAt (db.receiptAfter id row observation)) := by
  have whole := db.findObservation_congr same
  rw [found] at whole
  unfold Database.receiptAfter
  cases stored with
  | added absent =>
      rw [whole] at absent
      cases absent
  | lowered seen compatible earlier opensNone =>
      rw [whole] at seen
      cases seen
      refine ⟨rfl, ?_⟩
      rw [opensNone, if_neg Bool.false_ne_true, min_eq_right (le_of_lt earlier)]
      obtain ⟨present, own⟩ := Database.findObservation_eq_some found
      have written : (db.lowerReceipt id observation.receivedTimeUnixMs).observations =
          db.observations.insert id (row.receivedAt observation.receivedTimeUnixMs) :=
        Table.modify_of_lookup present _
      unfold Database.findObservation
      rw [written]
      exact Table.find_insert_of_property _ _ own
  | kept seen compatible stays =>
      rw [whole] at seen
      cases seen
      refine ⟨rfl, found.trans ?_⟩
      split
      · rfl
      · rename_i unopened
        rw [min_eq_left (stays.resolve_right unopened)]
        rfl

namespace DeliveryStored

variable {db after next : Database} {key : ObservationKey} {first observation : Observation}
  {id : Int} {row : ObservationRow}

/-- The same observations store the same fact. -/
theorem of_same (stored : DeliveryStored db key first id row)
    (observations : next.observations = db.observations)
    (work : ∃! workId, next.IsDiscoveryWork id workId) : DeliveryStored next key first id row where
  identity := stored.identity
  found := (Database.findObservation_of_same observations key).trans stored.found
  only := by
    rw [observations]
    exact stored.only
  fact := stored.fact
  work := work

theorem other {now : Int} {inserted : ObservationInsert}
    (stored : DeliveryStored db key first id row)
    (storage : ObservationStored now db observation inserted after)
    (observations : next.observations = after.observations)
    (other : sameIdentity observation.key key = false)
    (work : ∃! workId, next.IsDiscoveryWork id workId) : DeliveryStored next key first id row where
  identity := stored.identity
  found := (Database.findObservation_of_same observations key).trans
    (storage.findObservation_other other stored.found)
  only := by
    rw [observations]
    exact fun otherId otherRow present same =>
      stored.only otherId otherRow (storage.rows_other other present same) same
  fact := stored.fact
  work := work

theorem replayed {now : Int} {inserted : ObservationInsert}
    (stored : DeliveryStored db key first id row)
    (storage : ObservationStored now db observation inserted after)
    (observations : next.observations = after.observations)
    (same : sameIdentity observation.key key = true)
    (work : ∃! workId, next.IsDiscoveryWork id workId) :
    DeliveryStored next key first id (row.receivedAt (db.receiptAfter id row observation)) where
  identity := stored.identity
  found := (Database.findObservation_of_same observations key).trans
    (storage.replayed same stored.found).2
  only := by
    rw [observations]
    intro otherId otherRow present own
    rcases storage.rows present with ⟨equal, -⟩ | before
    · exact equal.trans (storage.replayed same stored.found).1
    · exact stored.only otherId otherRow before own
  fact := by
    unfold ObservationRow.receivedAt
    dsimp only
    rw [stored.fact]
  work := work

/-- The first delivery of an absent identity is stored as it is. -/
theorem added {now : Int} {inserted : ObservationInsert}
    (absent : db.findObservation key = none)
    (storage : ObservationStored now db observation inserted after)
    (observations : next.observations = after.observations)
    (same : sameIdentity observation.key key = true)
    (work : inserted.isNew = true → ∃! workId, next.IsDiscoveryWork inserted.id workId) :
    DeliveryStored next key observation inserted.id
      { normalized := observation, firstSeenAt := now } := by
  have whole := db.findObservation_congr same
  rw [absent] at whole
  cases storage with
  | added _ free =>
      refine ⟨same, ?_, ?_, rfl, work rfl⟩
      · exact (Database.findObservation_of_same observations key).trans
          (Table.find_insert_of_property _ _ same)
      · intro otherId otherRow present own
        rw [observations, Database.lookup_addObservation] at present
        split at present
        · assumption
        · rw [Database.findObservation_eq_none absent present] at own
          cases own
  | lowered found =>
      rw [whole] at found
      cases found
  | kept found =>
      rw [whole] at found
      cases found

end DeliveryStored

/-- The kept deliveries explain what is stored of their identity. -/
inductive DeliveryHistory (key : ObservationKey) (db : Database) : List KeptDelivery → Prop
  | absent (absent : db.findObservation key = none) : DeliveryHistory key db []
  | stored {first : KeptDelivery} {rest : List KeptDelivery} {id : Int} {row : ObservationRow}
      (stored : DeliveryStored db key first.observation id row)
      (least : IsLeast { receipt | ∃ delivery ∈ first :: rest, delivery.afterOpening = false ∧
        delivery.observation.receivedTimeUnixMs = receipt } row.normalized.receivedTimeUnixMs)
      (unopened : db.opensWindow id = false →
        ∀ delivery ∈ first :: rest, delivery.afterOpening = false) :
      DeliveryHistory key db (first :: rest)

/-- A step is a committed transaction or it changes nothing. -/
theorem step_cases (isBase64 : String → Bool) (db : Database) (action : DatabaseAction) :
    (∃ outcome next, step isBase64 db action = (.ok outcome, next) ∧
      transact isBase64 greatestZero db action = .ok (outcome, next)) ∨
    ∃ error, step isBase64 db action = (.error error, db) ∧
      transact isBase64 greatestZero db action = .error error := by
  unfold step stepWith
  cases transact isBase64 greatestZero db action with
  | ok result => exact .inl ⟨result.1, result.2, rfl, rfl⟩
  | error error => exact .inr ⟨error, rfl, rfl⟩

/-- A committed transaction makes at most the delivery it stores. -/
theorem keptDelivery_of_ok {isBase64 : String → Bool} {db next : Database}
    {action : DatabaseAction} {outcome : DatabaseOutcome} (key : ObservationKey)
    (moved : step isBase64 db action = (.ok outcome, next)) :
    (action.delivered = none ∨ outcome.isKept = false → keptDelivery isBase64 key db action = []) ∧
    ∀ observation, action.delivered = some observation → outcome.isKept = true →
      keptDelivery isBase64 key db action = if sameIdentity observation.key key then
        [{ observation, afterOpening := db.isFrozen key }] else [] := by
  unfold keptDelivery
  rw [moved]
  constructor
  · intro undelivered
    rcases undelivered with none | rolledBack
    · rw [none]
    · cases action.delivered with
      | none => rfl
      | some observation => simp [rolledBack]
  · intro observation delivered kept
    rw [delivered]
    simp [kept]

/-- A failed transaction makes no delivery. -/
theorem keptDelivery_of_error {isBase64 : String → Bool} {db next : Database}
    {action : DatabaseAction} {error : PersistenceError} (key : ObservationKey)
    (failed : step isBase64 db action = (.error error, next)) :
    keptDelivery isBase64 key db action = [] := by
  unfold keptDelivery
  rw [failed]
  cases action.delivered <;> rfl

/-- The frozen receipt is not counted and an unfrozen receipt is the least one. -/
theorem IsLeast.delivered {deliveries : List KeptDelivery} {db : Database} {id : Int}
    {row : ObservationRow} (observation : Observation)
    (least : IsLeast { receipt | ∃ delivery ∈ deliveries, delivery.afterOpening = false ∧
      delivery.observation.receivedTimeUnixMs = receipt } row.normalized.receivedTimeUnixMs) :
    IsLeast { receipt | ∃ delivery ∈ deliveries ++
        [{ observation, afterOpening := db.opensWindow id : KeptDelivery }],
      delivery.afterOpening = false ∧ delivery.observation.receivedTimeUnixMs = receipt }
      (db.receiptAfter id row observation) := by
  obtain ⟨⟨oldest, member, unfrozen, equal⟩, lower⟩ := least
  unfold Database.receiptAfter
  cases opens : db.opensWindow id with
  | true =>
      refine ⟨⟨oldest, List.mem_append_left _ member, unfrozen, equal⟩, ?_⟩
      intro receipt ⟨delivery, inside, counted, same⟩
      rcases List.mem_append.mp inside with before | last
      · exact lower ⟨delivery, before, counted, same⟩
      · rw [List.mem_singleton.mp last] at counted
        cases counted
  | false =>
      rw [if_neg Bool.false_ne_true]
      constructor
      · rcases le_total row.normalized.receivedTimeUnixMs observation.receivedTimeUnixMs with
          earlier | later
        · rw [min_eq_left earlier]
          exact ⟨oldest, List.mem_append_left _ member, unfrozen, equal⟩
        · rw [min_eq_right later]
          exact ⟨_, List.mem_append_right _ (List.mem_singleton_self _), rfl, rfl⟩
      · intro receipt ⟨delivery, inside, counted, same⟩
        rcases List.mem_append.mp inside with before | last
        · exact min_le_of_left_le (lower ⟨delivery, before, counted, same⟩)
        · rw [List.mem_singleton.mp last] at same
          rw [← same]
          exact min_le_right _ _

namespace DeliveryHistory

variable {key : ObservationKey} {db next : Database} {deliveries : List KeptDelivery}

/-- A transaction that stores nothing of the identity keeps the history. -/
theorem quiet (history : DeliveryHistory key db deliveries)
    (absent : db.findObservation key = none → next.findObservation key = none)
    (stored : ∀ first id row, DeliveryStored db key first id row →
      DeliveryStored next key first id row)
    (opens : ∀ id, db.opensWindow id = true → next.opensWindow id = true) :
    DeliveryHistory key next deliveries := by
  cases history with
  | absent none => exact .absent (absent none)
  | @stored first rest id row fact least unopened =>
      refine .stored (stored _ id row fact) least ?_
      intro unopen
      apply unopened
      by_contra already
      rw [Bool.not_eq_false] at already
      rw [opens id already] at unopen
      cases unopen

/-- A delivery of the identity is added to the history. -/
theorem delivered {now : Int} {observation : Observation} {inserted : ObservationInsert}
    {after : Database} (history : DeliveryHistory key db deliveries)
    (storage : ObservationStored now db observation inserted after)
    (observations : next.observations = after.observations)
    (same : sameIdentity observation.key key = true)
    (queued : inserted.isNew = true → ∃! workId, next.IsDiscoveryWork inserted.id workId)
    (work : ∀ id, (∃! workId, db.IsDiscoveryWork id workId) →
      ∃! workId, next.IsDiscoveryWork id workId)
    (opens : ∀ id, db.opensWindow id = true → next.opensWindow id = true) :
    DeliveryHistory key next
      (deliveries ++ [{ observation, afterOpening := db.isFrozen key }]) := by
  cases history with
  | absent none =>
      have frozen : db.isFrozen key = false := by
        unfold Database.isFrozen
        rw [none]
        rfl
      rw [frozen]
      refine .stored (DeliveryStored.added none storage observations same queued) ?_ ?_
      · refine ⟨⟨_, List.mem_singleton_self _, rfl, rfl⟩, ?_⟩
        intro receipt ⟨delivery, inside, _, equal⟩
        rw [List.mem_singleton.mp inside] at equal
        exact le_of_eq equal
      · intro _ delivery inside
        rw [List.mem_singleton.mp inside]
  | @stored first rest id row fact least unopened =>
      have frozen : db.isFrozen key = db.opensWindow id := by
        unfold Database.isFrozen
        rw [fact.found]
        rfl
      rw [frozen]
      refine .stored (fact.replayed storage observations same (work id fact.work))
        (IsLeast.delivered observation least) ?_
      intro unopen
      have before : db.opensWindow id = false := by
        by_contra already
        rw [Bool.not_eq_false] at already
        rw [opens id already] at unopen
        cases unopen
      intro delivery (inside : delivery ∈ (first :: rest) ++ _)
      rcases List.mem_append.mp inside with old | last
      · exact unopened before delivery old
      · rw [List.mem_singleton.mp last]
        exact before

end DeliveryHistory

/-- Each step keeps the history of each identity. -/
theorem step_deliveryHistory (isBase64 : String → Bool) {key : ObservationKey} {db : Database}
    {deliveries : List KeptDelivery} {action : DatabaseAction}
    (history : DeliveryHistory key db deliveries) (consistent : TokensConsistent db)
    (keeps : action.prunes = false) :
    DeliveryHistory key (step isBase64 db action).2
      (deliveries ++ keptDelivery isBase64 key db action) := by
  rcases step_cases isBase64 db action with ⟨outcome, next, moved, accepted⟩ | ⟨error, failed, -⟩
  · have committed := transact_eq_ok accepted
    have works : ∀ id, (∃! workId, db.IsDiscoveryWork id workId) →
        ∃! workId, next.IsDiscoveryWork id workId :=
      fun id => (committed.workChange consistent keeps).discoveryWork
    have opens : ∀ id, db.opensWindow id = true → next.opensWindow id = true :=
      fun id => (committed.decisionChange consistent).opensWindow keeps
    rw [moved]
    cases transact_factChange accepted consistent keeps with
    | same undelivered observations =>
        rw [(keptDelivery_of_ok key moved).1 undelivered, List.append_nil]
        refine history.quiet ?_ ?_ opens
        · intro none
          exact (Database.findObservation_of_same observations key).trans none
        · intro first id row fact
          exact fact.of_same observations (works id fact.work)
    | @stored now observation inserted after delivered kept storage observations queued =>
        rw [(keptDelivery_of_ok key moved).2 observation delivered kept]
        cases same : sameIdentity observation.key key with
        | true => exact history.delivered storage observations same queued works opens
        | false =>
            rw [if_neg Bool.false_ne_true, List.append_nil]
            refine history.quiet ?_ ?_ opens
            · intro none
              exact (Database.findObservation_of_same observations key).trans
                (storage.absent_other same none)
            · intro first id row fact
              exact fact.other storage observations same (works id fact.work)
  · rw [keptDelivery_of_error key failed, failed, List.append_nil]
    exact history

/-- The history holds after each run that prunes nothing. -/
theorem deliveryHistory_run (isBase64 : String → Bool) {key : ObservationKey} {db : Database}
    (counters : CountersInvariant db) (absent : db.findObservation key = none)
    {actions : List DatabaseAction} (keeps : ∀ action ∈ actions, action.prunes = false) :
    DeliveryHistory key (Transition.run (step isBase64) db actions)
      (keptDeliveries isBase64 key db actions) := by
  have along : Transition.Along (step isBase64) (fun _ action => action.prunes = false) db
      actions := Transition.along_of_forall db fun _ => keeps
  have invariant := Transition.collect_invariant (step isBase64)
    (fun db deliveries => CountersInvariant db ∧ DeliveryHistory key db deliveries)
    (fun db deliveries action ⟨counters, history⟩ keeps =>
      ⟨step_countersInvariant isBase64 db action counters,
        step_deliveryHistory isBase64 history counters.tokens keeps⟩)
    ⟨counters, .absent absent⟩ along
  exact invariant.2

/-- A step keeps the row of an observation that opens a window. -/
theorem step_frozen (isBase64 : String → Bool) {key : ObservationKey} {db : Database}
    {action : DatabaseAction} (consistent : TokensConsistent db) (keeps : action.prunes = false)
    {id : Int} {row : ObservationRow} (found : db.findObservation key = some (id, row))
    (opens : db.opensWindow id = true) :
    (step isBase64 db action).2.findObservation key = some (id, row) ∧
      (step isBase64 db action).2.opensWindow id = true := by
  rcases step_cases isBase64 db action with ⟨outcome, next, moved, accepted⟩ | ⟨error, failed, -⟩
  · rw [moved]
    refine ⟨?_, ((transact_eq_ok accepted).decisionChange consistent).opensWindow keeps opens⟩
    cases transact_factChange accepted consistent keeps with
    | same _ observations =>
        exact (Database.findObservation_of_same observations key).trans found
    | @stored now observation inserted after _ _ storage observations =>
        refine (Database.findObservation_of_same observations key).trans ?_
        cases same : sameIdentity observation.key key with
        | true =>
            rw [(storage.replayed same found).2]
            unfold Database.receiptAfter
            rw [opens]
            rfl
        | false => exact storage.findObservation_other same found
  · rw [failed]
    exact ⟨found, opens⟩

theorem run_frozen (isBase64 : String → Bool) {key : ObservationKey} {db : Database}
    (counters : CountersInvariant db) {actions : List DatabaseAction}
    (keeps : ∀ action ∈ actions, action.prunes = false) {id : Int} {row : ObservationRow}
    (found : db.findObservation key = some (id, row)) (opens : db.opensWindow id = true) :
    (Transition.run (step isBase64) db actions).findObservation key = some (id, row) := by
  induction actions generalizing db with
  | nil => exact found
  | cons action rest ih =>
      obtain ⟨later, still⟩ := step_frozen isBase64 counters.tokens
        (keeps action List.mem_cons_self) found opens
      exact ih (step_countersInvariant isBase64 db action counters)
        (fun other member => keeps other (List.mem_cons_of_mem _ member)) later still

/-- The error of a delivery that conflicts with the stored observation. -/
def evidenceConflict (observation : Observation) : PersistenceError :=
  .observationEvidenceConflict observation.key.network observation.key.program
    observation.key.coordinate.signature observation.key.coordinate.instructionIndex
    observation.key.coordinate.eventIndex

/-- A checked delivery of a stored identity is answered by the replay check alone. -/
theorem insertChainObservation_found {isBase64 : String → Bool} (now : Int) {db : Database}
    {observation : Observation} (checked : ChainChecked isBase64 db observation) {id : Int}
    {row : ObservationRow} (found : db.findObservation observation.key = some (id, row)) :
    (compatibleReplay row.normalized observation = true →
      ∃ next, insertChainObservation isBase64 now db observation =
        .ok ({ id, isNew := false }, next)) ∧
    (compatibleReplay row.normalized observation = false →
      insertChainObservation isBase64 now db observation =
        .error (evidenceConflict observation)) := by
  obtain ⟨slot, fits⟩ := checked.slot
  obtain ⟨transactionIndex, indexFits⟩ := checked.transactionIndex
  have checks : insertChainObservation isBase64 now db observation = (do
      require (compatibleReplay row.normalized observation) (evidenceConflict observation)
      if observation.receivedTimeUnixMs < row.normalized.receivedTimeUnixMs ∧
          db.opensWindow id = false then
        return ({ id, isNew := false }, db.lowerReceipt id observation.receivedTimeUnixMs)
      else return ({ id, isNew := false }, db)) := by
    unfold insertChainObservation Database.enforceBoundNetwork require
    rw [if_pos checked.network, checked.evidence, fits, indexFits, if_pos checked.bound,
      if_pos checked.schema, found]
    rfl
  rw [checks]
  constructor
  · intro compatible
    unfold require
    rw [if_pos compatible]
    by_cases lowers : observation.receivedTimeUnixMs < row.normalized.receivedTimeUnixMs ∧
        db.opensWindow id = false
    · exact ⟨db.lowerReceipt id observation.receivedTimeUnixMs, if_pos lowers⟩
    · exact ⟨db, if_neg lowers⟩
  · intro conflict
    unfold require
    rw [conflict, if_neg Bool.false_ne_true]
    rfl

/-- A failed match names its field in the given error. -/
theorem requireMatches_eq_error {mismatch : String → PersistenceError}
    {checks : List (Bool × String)} {error : PersistenceError}
    (failed : requireMatches mismatch checks = .error error) : ∃ field, error = mismatch field := by
  induction checks with
  | nil => cases failed
  | cons check rest ih =>
      obtain ⟨holds, field⟩ := check
      cases holds with
      | true => exact ih failed
      | false =>
          cases failed
          exact ⟨field, rfl⟩

/-- The membership check has its own errors. -/
theorem validateWindowMembership_ne_conflict (window : WindowIdentityRow)
    (admitted observation : Observation) :
    validateWindowMembership window admitted ≠ .error (evidenceConflict observation) := by
  intro failed
  unfold validateWindowMembership require at failed
  split at failed
  · obtain ⟨field, impossible⟩ := requireMatches_eq_error failed
    cases impossible
  · cases failed

/-- The replay check of every later delivery compares it with the first delivery. -/
structure DecidesReplays (isBase64 : String → Bool) (db : Database) (key : ObservationKey)
    (first : Observation) : Prop where
  accepted : ∀ now observation, sameIdentity observation.key key = true →
    ChainChecked isBase64 db observation →
      ((∃ next, insertObservation isBase64 now db observation = .ok (false, next)) ↔
        AgreesWith first observation)
  rejected : ∀ now observation, sameIdentity observation.key key = true →
    ChainChecked isBase64 db observation →
      (insertObservation isBase64 now db observation = .error (evidenceConflict observation) ↔
        ¬ AgreesWith first observation)
  rejectedInWindow : ∀ now observation, sameIdentity observation.key key = true →
    ChainChecked isBase64 db observation → ∀ windowId, db.windows.lookup windowId ≠ none →
      (insertWindowObservation isBase64 now db windowId observation =
          .error (evidenceConflict observation) ↔ ¬ AgreesWith first observation)

theorem DeliveryStored.decidesReplays (isBase64 : String → Bool) {db : Database}
    {key : ObservationKey} {first : Observation} {id : Int} {row : ObservationRow}
    (stored : DeliveryStored db key first id row) : DecidesReplays isBase64 db key first := by
  have decided : ∀ now observation, sameIdentity observation.key key = true →
      ChainChecked isBase64 db observation →
      (AgreesWith first observation ∧ ∃ next, insertChainObservation isBase64 now db observation =
        .ok ({ id, isNew := false }, next)) ∨
      (¬ AgreesWith first observation ∧ insertChainObservation isBase64 now db observation =
        .error (evidenceConflict observation)) := by
    intro now observation same checked
    have found := (db.findObservation_congr same).trans stored.found
    have answer := insertChainObservation_found now checked found
    have compared : compatibleReplay row.normalized observation =
        compatibleReplay first observation := by
      rw [stored.fact, compatibleReplay_storedAt]
    rw [compared] at answer
    by_cases agrees : AgreesWith first observation
    · exact .inl ⟨agrees, answer.1 (compatibleReplay_iff.mpr agrees)⟩
    · refine .inr ⟨agrees, answer.2 ?_⟩
      rw [← Bool.not_eq_true, compatibleReplay_iff]
      exact agrees
  constructor
  · intro now observation same checked
    unfold insertObservation
    rcases decided now observation same checked with ⟨agrees, next, chain⟩ | ⟨differs, chain⟩
    · rw [chain]
      exact ⟨fun _ => agrees, fun _ => ⟨next, rfl⟩⟩
    · rw [chain]
      refine ⟨?_, fun agrees => absurd agrees differs⟩
      intro ⟨next, impossible⟩
      cases impossible
  · intro now observation same checked
    unfold insertObservation
    rcases decided now observation same checked with ⟨agrees, next, chain⟩ | ⟨differs, chain⟩
    · rw [chain]
      refine ⟨?_, fun differs => absurd agrees differs⟩
      intro impossible
      cases impossible
    · rw [chain]
      exact ⟨fun _ => differs, fun _ => rfl⟩
  · intro now observation same checked windowId present
    obtain ⟨window, opened⟩ := Option.ne_none_iff_exists'.mp present
    unfold insertWindowObservation
    rw [opened]
    dsimp only
    rcases decided now observation same checked with ⟨agrees, next, chain⟩ | ⟨differs, chain⟩
    · refine ⟨?_, fun differs => absurd agrees differs⟩
      rw [chain]
      intro failed
      change (if _ then _ else _) = _ at failed
      split at failed
      · cases failed
      · split at failed
        · cases failed
        · rename_i admitted stored
          have errors := validateWindowMembership_ne_conflict window.toWindowIdentityRow
            admitted.normalized observation
          change (validateWindowMembership window.toWindowIdentityRow admitted.normalized >>=
            fun _ => _) = _ at failed
          cases member : validateWindowMembership window.toWindowIdentityRow
              admitted.normalized with
          | error error =>
              rw [member] at failed errors
              have same : error = evidenceConflict observation := Except.error.inj failed
              exact absurd (congrArg Except.error same) errors
          | ok done =>
              rw [member] at failed
              cases failed
    · rw [chain]
      exact ⟨fun _ => differs, fun _ => rfl⟩

/-- What the deliveries of one identity leave behind. -/
structure DeliveriesConverge (isBase64 : String → Bool) (key : ObservationKey) (start : Database)
    (actions : List DatabaseAction) (first : Observation) (id : Int) (row : ObservationRow) :
    Prop where
  stored : (Transition.run (step isBase64) start actions).observations.lookup id = some row
  only : ∀ other otherRow,
    (Transition.run (step isBase64) start actions).observations.lookup other = some otherRow →
      sameIdentity otherRow.normalized.key key = true → other = id
  work : ∃! workId, (Transition.run (step isBase64) start actions).IsDiscoveryWork id workId
  fact : row.normalized = { first with
    receivedTimeUnixMs := row.normalized.receivedTimeUnixMs }
  receipt : IsLeast { receipt | ∃ delivery ∈ keptDeliveries isBase64 key start actions,
    delivery.afterOpening = false ∧ delivery.observation.receivedTimeUnixMs = receipt }
    row.normalized.receivedTimeUnixMs
  unopened : (Transition.run (step isBase64) start actions).opensWindow id = false →
    ∀ delivery ∈ keptDeliveries isBase64 key start actions, delivery.afterOpening = false
  frozen : ∀ before after, actions = before ++ after →
    (Transition.run (step isBase64) start before).isFrozen key = true →
      (Transition.run (step isBase64) start before).findObservation key = some (id, row)
  replays : DecidesReplays isBase64 (Transition.run (step isBase64) start actions) key first

end Soldisco.Persistence

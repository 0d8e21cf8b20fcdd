import Soldisco.Proof.Persistence.FrozenWindows
import Soldisco.Proof.Snapshot.Conservation

/-
This file proves that the members of an active window stay inside the window as long as no
delivery moves a stored receipt out of it.
-/

namespace Soldisco.Persistence
open Domain MachineInteger Accumulation Snapshot

/-- The observation belongs to the market of the window and was received while it was open. -/
structure InWindow (window : WindowIdentityRow) (observation : Observation) : Prop where
  opened : window.openedAtUnixMs ≤ observation.receivedTimeUnixMs
  closes : observation.receivedTimeUnixMs < window.closesAtUnixMs
  market : observation.market = window.market

/-- A replay that lowers a stored receipt does not move it before an active window of it. -/
def LowersInside (db : Database) (observation : Observation) : Prop :=
  ∀ id row, db.findObservation observation.key = some (id, row) →
    compatibleReplay row.normalized observation = true →
    observation.receivedTimeUnixMs < row.normalized.receivedTimeUnixMs →
    db.opensWindow id = false →
    ∀ windowId window, (windowId, id) ∈ db.memberPairs →
      db.windows.lookup windowId = some window → window.status = .active →
      window.openedAtUnixMs ≤ observation.receivedTimeUnixMs

/-- The observation that opens a new window is not stored with an earlier receipt. -/
def OpensInside (db : Database) (observation : Observation) : Prop :=
  ∀ id row, db.findObservation observation.key = some (id, row) →
    observation.receivedTimeUnixMs ≤ row.normalized.receivedTimeUnixMs

/-- The deliveries that keep the members of the active windows inside. -/
def DeliversInside (db : Database) : DatabaseAction → Prop
  | .insertObservation _ observation => LowersInside db observation
  | .insertWindowObservation _ _ observation =>
      LowersInside db observation ∧ observation.market.quoteMint ≠ some ""
  | .openDiscoveryWindow _ observation window =>
      db.findWindowByOpening observation window.targetKind window.targetAddress = none →
        LowersInside db observation ∧ observation.market.quoteMint ≠ some "" ∧
          OpensInside db observation
  | .pruneRetainedHistory _ => False
  | _ => True

theorem DeliversInside.keeps {db : Database} {action : DatabaseAction}
    (delivers : DeliversInside db action) : action.prunes = false := by
  cases action with
  | pruneRetainedHistory => exact delivers.elim
  | _ => rfl

/-- The columns of a market determine it unless its quote mint is an empty text. -/
theorem InMarket.market_eq {window : WindowIdentityRow} {observation : Observation}
    (inside : InMarket window observation)
    (network : observation.key.network = observation.market.network)
    (quoted : observation.market.quoteMint ≠ some "") : observation.market = window.market := by
  obtain ⟨sameNetwork, -, venue, address, mint, quote⟩ := inside
  have quoteMint : observation.market.quoteMint =
      if window.quoteMint.isEmpty then none else some window.quoteMint := by
    rw [quote]
    unfold quoteMintColumn
    cases named : observation.market.quoteMint with
    | none => rfl
    | some text =>
        rw [named] at quoted
        have filled : text.isEmpty = false := by
          rw [Bool.eq_false_iff]
          intro empty
          exact quoted (congrArg some (String.isEmpty_iff.mp empty))
        rw [Option.getD_some, filled]
        rfl
  unfold WindowIdentityRow.market
  rw [sameNetwork, network, venue, address, mint, ← quoteMint]

section Stored

variable {now : Int} {db stored : Database} {observation : Observation}
  {inserted : ObservationInsert}

/-- A delivery keeps an old row or lowers its receipt. -/
theorem ObservationStored.row_cases (storage : ObservationStored now db observation inserted stored)
    {id : Int} {before row : ObservationRow} (old : db.observations.lookup id = some before)
    (present : stored.observations.lookup id = some row) :
    row = before ∨
      db.findObservation observation.key = some (id, before) ∧
        compatibleReplay before.normalized observation = true ∧
        observation.receivedTimeUnixMs < before.normalized.receivedTimeUnixMs ∧
        db.opensWindow id = false ∧ row = before.receivedAt observation.receivedTimeUnixMs := by
  cases storage with
  | added _ free =>
      rw [Database.lookup_addObservation, if_neg, old] at present
      · exact .inl (Option.some_inj.mp present).symm
      · intro same
        rw [← same, old] at free
        cases free
  | @lowered loweredId loweredRow found compatible earlier opensNone =>
      rw [Database.lookup_lowerReceipt] at present
      split at present
      · rename_i same
        subst same
        rw [(Database.findObservation_eq_some found).1] at old present
        cases old
        exact .inr ⟨found, compatible, earlier, opensNone, (Option.some_inj.mp present).symm⟩
      · rw [old] at present
        exact .inl (Option.some_inj.mp present).symm
  | kept =>
      rw [old] at present
      exact .inl (Option.some_inj.mp present).symm

/-- The row of a delivery has the receipt of the delivery unless an earlier one is stored. -/
theorem ObservationStored.receipt (storage : ObservationStored now db observation inserted stored)
    (opensNone : db.opensWindow inserted.id = false) (inside : OpensInside db observation)
    {row : ObservationRow} (present : stored.observations.lookup inserted.id = some row) :
    row.normalized.receivedTimeUnixMs = observation.receivedTimeUnixMs := by
  cases storage with
  | added =>
      rw [Database.lookup_addObservation, if_pos rfl] at present
      cases present
      rfl
  | lowered found =>
      rw [Database.lookup_lowerReceipt, if_pos rfl,
        (Database.findObservation_eq_some found).1] at present
      cases present
      rfl
  | kept found _ stays =>
      rw [(Database.findObservation_eq_some found).1] at present
      cases present
      rcases stays with earlier | opens
      · exact le_antisymm earlier (inside _ _ found)
      · rw [opensNone] at opens
        cases opens

/-- The columns of a window and of a stored delivery determine the same market. -/
theorem ObservationStored.market_eq (storage : ObservationStored now db observation inserted stored)
    (network : observation.key.network = observation.market.network)
    (quoted : observation.market.quoteMint ≠ some "") {row : ObservationRow}
    (present : stored.observations.lookup inserted.id = some row) {window : WindowIdentityRow}
    (inside : InMarket window row.normalized) : row.normalized.market = window.market := by
  obtain ⟨own, found, market, identity⟩ := storage.lookup
  rw [present] at found
  cases found
  apply inside.market_eq
  · rw [(sameIdentity_iff.mp identity).1, market]
    exact network
  · rw [market]
    exact quoted

end Stored

section Joined

variable {isBase64 : String → Bool} {now : Int} {db next : Database} {observation : Observation}

/-- A pair is old or it is the pair of the inserted membership. -/
theorem mem_memberPairs_insertMembership {windowId observationId admittedAtUnixMs : Int}
    {pair : Int × Int}
    (member : pair ∈ (db.insertMembership windowId observationId admittedAtUnixMs).memberPairs) :
    pair ∈ db.memberPairs ∨ pair = (windowId, observationId) := by
  rw [memberPairs_insertMembership] at member
  split at member
  · exact .inl member
  · exact (List.mem_append.mp member).imp_right List.mem_singleton.mp

theorem insertWindowObservation_network {windowId : Int} {isNew : Bool}
    (accepted : insertWindowObservation isBase64 now db windowId observation = .ok (isNew, next)) :
    observation.key.network = observation.market.network := by
  unfold insertWindowObservation at accepted
  split at accepted
  · cases accepted
  · obtain ⟨⟨inserted, stored⟩, chain, -⟩ := bind_eq_ok.mp accepted
    exact (insertChainObservation_eq_ok chain).2.1

/-- A new member is checked against its window as it is stored. -/
theorem insertWindowObservation_inWindow {windowId : Int} {isNew : Bool}
    (accepted : insertWindowObservation isBase64 now db windowId observation = .ok (isNew, next))
    (quoted : observation.market.quoteMint ≠ some "") {pair : Int × Int}
    (member : pair ∈ next.memberPairs) (fresh : pair ∉ db.memberPairs) {window : WindowRow}
    {row : ObservationRow} (present : next.windows.lookup pair.1 = some window)
    (stored : next.observations.lookup pair.2 = some row) :
    InWindow window.toWindowIdentityRow row.normalized := by
  have network := insertWindowObservation_network accepted
  obtain ⟨-, checked, inserted, chained, found, storage, branch⟩ :=
    insertWindowObservation_eq_ok accepted
  rcases branch with ⟨-, rfl⟩ | ⟨admitted, queued, admittedPresent, valid, work, rfl⟩
  · have same : next.memberPairs = db.memberPairs := storage.memberships
    exact absurd (same ▸ member) fresh
  · have pairs : queued.memberPairs = db.memberPairs := by
      unfold Database.memberPairs
      rw [work.frame]
      exact storage.memberships
    rcases mem_memberPairs_insertMembership member with old | rfl
    · exact absurd (pairs ▸ old) fresh
    · rw [Database.insertMembership_frame] at present stored
      dsimp only at present stored
      rw [work.frame] at present stored
      dsimp only at present stored
      rw [storage.frame] at present
      change db.windows.lookup windowId = some window at present
      rw [found] at present
      rw [admittedPresent] at stored
      cases present
      cases stored
      obtain ⟨-, -, -, -, -, -, -, opened, closes⟩ := validateWindowMembership_eq_ok valid
      exact ⟨opened, closes, storage.market_eq network quoted admittedPresent
        (validateWindowMembership_inMarket valid)⟩

/-- The opening of a new window is received when the window opens. -/
theorem openDiscoveryWindow_inWindow {new : NewDiscoveryWindow} {opened : OpenedDiscoveryWindow}
    (accepted : openDiscoveryWindow isBase64 now db observation new = .ok (opened, next))
    (delivers : DeliversInside db (.openDiscoveryWindow now observation new)) {pair : Int × Int}
    (member : pair ∈ next.memberPairs) (fresh : pair ∉ db.memberPairs) {window : WindowRow}
    {row : ObservationRow} (present : next.windows.lookup pair.1 = some window)
    (stored : next.observations.lookup pair.2 = some row) :
    InWindow window.toWindowIdentityRow row.normalized := by
  rcases openDiscoveryWindow_eq_ok accepted with
    ⟨-, rfl⟩ | ⟨-, -, network, valid, absent, free, inserted, chained, queued, prefilterRevision,
      qualificationRevision, storage, work, opensNone, rfl⟩
  · exact absurd member fresh
  · obtain ⟨-, quoted, inside⟩ := delivers absent
    obtain ⟨bounds, received⟩ := validateNewWindow_eq_ok valid
    have pairs : queued.memberPairs = db.memberPairs := by
      unfold Database.memberPairs
      rw [work.frame]
      exact storage.memberships
    have nextWindowId : queued.nextWindowId = db.nextWindowId := by
      rw [work.frame]
      dsimp only
      rw [storage.frame]
    rcases mem_memberPairs_insertMembership member with old | rfl
    · exact absurd (pairs ▸ old) fresh
    · unfold Database.openWindow at present stored
      rw [Database.insertMembership_frame] at present stored
      change AList.lookup db.nextWindowId (queued.windows.insert queued.nextWindowId _) = _
        at present
      rw [nextWindowId, AList.lookup_insert] at present
      cases present
      change queued.observations.lookup inserted.id = some row at stored
      rw [work.frame] at stored
      have receipt := storage.receipt opensNone inside stored
      refine ⟨?_, ?_, storage.market_eq network quoted stored ?_⟩
      · rw [receipt, received]
        exact le_refl _
      · rw [receipt, received]
        exact bounds
      · obtain ⟨own, found, market, identity⟩ := storage.lookup
        change chained.observations.lookup inserted.id = some row at stored
        rw [stored] at found
        cases found
        obtain ⟨sameNetwork, sameProgram, -⟩ := sameIdentity_iff.mp identity
        constructor <;> simp only [newWindowRow, sameNetwork, sameProgram, market]

end Joined

/-- The members of the active windows are inside and the windows carry their identifiers. -/
structure MembersInvariant (db : Database) : Prop where
  references : ReferencesInvariant db
  identified : ∀ id window, db.windows.lookup id = some window → window.id = id
  inside : ∀ pair ∈ db.memberPairs, ∀ window row, db.windows.lookup pair.1 = some window →
    window.status = .active → db.observations.lookup pair.2 = some row →
    InWindow window.toWindowIdentityRow row.normalized

theorem membersInvariant_migrated : MembersInvariant Database.migrated where
  references := referencesInvariant_migrated
  identified := fun _ _ present => by cases present
  inside := fun _ member => by cases member

section Step

variable {isBase64 : String → Bool} {clamp : Int → Int} {db next : Database}
  {action : DatabaseAction} {outcome : DatabaseOutcome}

/-- A kept delivery of an accepted action meets the condition on replays. -/
theorem DeliversInside.lowersInside (delivers : DeliversInside db action)
    (accepted : transact isBase64 clamp db action = .ok (outcome, next))
    {observation : Observation} (delivered : action.delivered = some observation)
    (kept : outcome.isKept = true) : LowersInside db observation := by
  cases action with
  | insertObservation =>
      cases delivered
      exact delivers
  | insertWindowObservation =>
      cases delivered
      exact delivers.1
  | openDiscoveryWindow now other window =>
      cases delivered
      obtain ⟨⟨opened, _⟩, accepted, done⟩ := bind_eq_ok.mp accepted
      cases done
      rcases openDiscoveryWindow_eq_ok accepted with ⟨replayed, -⟩ | ⟨-, -, -, -, absent, -⟩
      · simp [DatabaseOutcome.isKept, replayed] at kept
      · exact (delivers absent).1
  | _ => cases delivered

theorem InWindow.sameWindow {window after : WindowRow} {observation : Observation}
    (inside : InWindow window.toWindowIdentityRow observation) (same : SameWindow window after) :
    InWindow after.toWindowIdentityRow observation := by
  rw [same]
  exact ⟨inside.opened, inside.closes, inside.market⟩

/-- A committed action joins only members that are inside their window. -/
theorem transact_joined (accepted : transact isBase64 clamp db action = .ok (outcome, next))
    (consistent : TokensConsistent db) (delivers : DeliversInside db action) {pair : Int × Int}
    (member : pair ∈ next.memberPairs) (fresh : pair ∉ db.memberPairs) {window : WindowRow}
    {row : ObservationRow} (present : next.windows.lookup pair.1 = some window)
    (stored : next.observations.lookup pair.2 = some row) :
    InWindow window.toWindowIdentityRow row.normalized := by
  have committed := transact_eq_ok accepted
  cases joins : action.joins with
  | false =>
      rw [committed.memberPairs consistent delivers.keeps joins] at member
      exact absurd member fresh
  | true =>
      cases committed with
      | openedWindow accepted =>
          exact openDiscoveryWindow_inWindow accepted delivers member fresh present stored
      | insertedMember accepted =>
          exact insertWindowObservation_inWindow accepted delivers.2 member fresh present stored
      | _ => cases joins

/-- A committed action leaves an old member inside its window. -/
theorem transact_inWindow (accepted : transact isBase64 clamp db action = .ok (outcome, next))
    (consistent : TokensConsistent db) (delivers : DeliversInside db action)
    {windowId observationId : Int} (member : (windowId, observationId) ∈ db.memberPairs)
    {window : WindowRow} (present : db.windows.lookup windowId = some window)
    (active : window.status = .active) {before row : ObservationRow}
    (old : db.observations.lookup observationId = some before)
    (inside : InWindow window.toWindowIdentityRow before.normalized)
    (stored : next.observations.lookup observationId = some row) :
    InWindow window.toWindowIdentityRow row.normalized := by
  rcases transact_factChange accepted consistent delivers.keeps with
    ⟨-, observations⟩ | ⟨delivered, kept, storage, observations, -⟩
  · rw [observations, old] at stored
    cases stored
    exact inside
  · rw [observations] at stored
    rcases storage.row_cases old stored with rfl | ⟨found, compatible, earlier, opensNone, rfl⟩
    · exact inside
    · have opened := delivers.lowersInside accepted delivered kept observationId before found
        compatible earlier opensNone windowId window member present active
      exact ⟨opened, earlier.trans inside.closes, inside.market⟩

/-- An action that delivers inside keeps the invariant. -/
theorem MembersInvariant.stepped (invariant : MembersInvariant db) (isBase64 : String → Bool)
    (delivers : DeliversInside db action) : MembersInvariant (step isBase64 db action).2 := by
  have references := step_referencesInvariant isBase64 db action invariant.references
  rcases step_cases isBase64 db action with ⟨outcome, next, moved, accepted⟩ | ⟨error, failed, -⟩
  swap
  · rw [failed]
    exact invariant
  rw [moved] at references ⊢
  have consistent := invariant.references.counters.tokens
  have change := (transact_eq_ok accepted).decisionChange consistent
  refine ⟨references, ?_, ?_⟩
  · intro id window present
    rcases change.window_origin present with
      ⟨_, _, _, _, _, -, -, -, rfl⟩ | ⟨before, _, found, -, rfl⟩ | ⟨before, _, found, rfl⟩
    · rfl
    · exact invariant.identified id before found
    · exact invariant.identified id before found
  · intro pair member window row present active stored
    by_cases old : pair ∈ db.memberPairs
    · obtain ⟨before, fact, found, known, -⟩ := invariant.references.members _ _ old
      obtain ⟨after, later, same⟩ := change.sameWindow found
      rw [present] at later
      cases later
      have running : before.status = .active := by
        cases status : before.status with
        | active => rfl
        | finalized =>
            obtain ⟨opening, frozen⟩ := change.finalized_window found status
            rw [present] at frozen
            cases frozen
            exact status.symm.trans active
      have held := invariant.inside pair old before fact found running known
      exact (transact_inWindow accepted consistent delivers old found running known held
        stored).sameWindow same
    · exact transact_joined accepted consistent delivers member old present stored

end Step

/-- The error of a window whose membership count has changed. -/
def PersistenceError.isEvidenceChanged : PersistenceError → Bool
  | .discoveryWindowEvidenceChanged _ => true
  | _ => false

section Errors

variable (db : Database) (payload : FinalizeDiscoveryWindow)

theorem require_avoids {avoided : PersistenceError → Bool} {condition : Prop}
    [Decidable condition] {error : PersistenceError} (other : condition ∨ avoided error = false) :
    Avoids avoided (require condition error) := by
  unfold require
  refine .ite (fun _ => .ok _) fun fails => .error (other.resolve_left fails)

theorem validateFinalization_avoids :
    Avoids PersistenceError.isEvidenceChanged (validateFinalization payload) := by
  unfold validateFinalization
  dsimp only
  refine .ite (fun _ => .error rfl) fun _ => .ite (fun _ => .error rfl) fun _ => ?_
  refine .bind (.foldlM fun ruleIds result _ => ?_) fun _ _ => ?_
  · unfold validateRule
    exact .ite (fun _ => .error rfl) fun _ => .ite (fun _ => .error rfl)
      fun _ => .ok _
  refine .ite (fun _ => .error rfl) fun _ => ?_
  have agrees : Avoids PersistenceError.isEvidenceChanged
      (if aggregateDecision payload.rules ≠ payload.decision then
        throw PersistenceError.screeningDecisionMismatch else pure () :
        Except PersistenceError Unit) :=
    .ite (fun _ => .error rfl) fun _ => .ok _
  cases payload.completeness with
  | complete => exact .ite (fun _ => .error rfl) fun _ => agrees
  | incomplete => exact .ite (fun _ => .error rfl) fun _ => agrees

theorem checkedDecimalSum_avoids (left right field : String) :
    Avoids PersistenceError.isEvidenceChanged (checkedDecimalSum left right field) := by
  unfold checkedDecimalSum
  split
  · split
    · exact .ok _
    · exact .error rfl
  · exact .error rfl

theorem toU64_avoids (value : Int) (field : String) :
    Avoids PersistenceError.isEvidenceChanged (toU64 value field) :=
  .ite (fun _ => .ok _) fun _ => .error rfl

theorem validateFinalizationForWindow_avoids (window : WindowIdentityRow) :
    Avoids PersistenceError.isEvidenceChanged
      (validateFinalizationForWindow window payload) := by
  unfold validateFinalizationForWindow
  dsimp only
  refine .ite (fun _ => .error rfl) fun _ => .bind (.ok _) fun _ _ => ?_
  refine .bind (toU64_avoids _ _) fun _ _ => ?_
  refine .ite (fun _ => .error rfl) fun _ => .ite (fun _ => .error rfl) fun _ => ?_
  refine .bind (checkedDecimalSum_avoids _ _ _) fun _ _ => ?_
  exact .bind (checkedDecimalSum_avoids _ _ _) fun _ _ => .ok _

theorem insertRow_avoids {Row : Type} (table : Table Int Row) (id : Int) (row : Row) :
    Avoids PersistenceError.isEvidenceChanged (insertRow table id row) := by
  unfold insertRow
  refine .bind (require_avoids (.inr rfl)) fun _ _ => ?_
  exact .bind (require_avoids (.inr rfl)) fun _ _ => .ok _

theorem toI64_avoids (value : Nat) (field : String) :
    Avoids PersistenceError.isEvidenceChanged (toI64 value field) :=
  .ite (fun _ => .ok _) fun _ => .error rfl

theorem intoRecord_avoids (window : WindowIdentityRow) (observations : List Observation) :
    Avoids PersistenceError.isEvidenceChanged (window.intoRecord observations) := by
  unfold WindowIdentityRow.intoRecord
  refine .bind (.mapError fun _ => rfl) fun _ _ => ?_
  refine .bind (.mapError fun _ => rfl) fun _ _ => ?_
  refine .bind (toU64_avoids _ _) fun _ _ => ?_
  exact .bind (toU64_avoids _ _) fun _ _ => .ok _

theorem buildDiscoveryWindowFinalization_avoids (window : DiscoveryWindowRecord)
    (finalizedAtUnixMs : Int) (reason : Option String) :
    Avoids PersistenceError.isEvidenceChanged
      (buildDiscoveryWindowFinalization window finalizedAtUnixMs reason) := by
  unfold buildDiscoveryWindowFinalization
  dsimp only
  refine .bind (.mapError fun _ => rfl) fun _ _ => ?_
  refine .bind (.mapError fun _ => rfl) fun _ _ => ?_
  refine .bind ?_ fun _ _ => .ok _
  unfold canonicalDiscoverySummary
  exact .ite (fun _ => .error rfl) fun _ => .ok _

theorem mapM_avoids {Item Result : Type} {visit : Item → Except PersistenceError Result}
    {avoided : PersistenceError → Bool} (items : List Item)
    (pass : ∀ item, Avoids avoided (visit item)) : Avoids avoided (items.mapM visit) := by
  induction items with
  | nil => exact .ok _
  | cons item rest ih =>
      rw [List.mapM_cons]
      exact .bind (pass item) fun _ _ => .bind ih fun _ _ => .ok _

theorem freezeEvidence_avoids (window : WindowRow)
    (same : db.countMemberships payload.windowId = payload.observationCount) :
    Avoids PersistenceError.isEvidenceChanged (freezeEvidence db window payload) := by
  unfold freezeEvidence
  dsimp only
  refine .bind (require_avoids (.inr rfl)) fun _ _ => ?_
  refine .bind (require_avoids (.inr rfl)) fun _ _ => ?_
  refine .bind (toI64_avoids _ _) fun column converted => ?_
  refine .bind (require_avoids (.inl ?_)) fun _ _ => ?_
  · rw [same, (toI64_eq_ok.mp converted).2]
  refine .bind (intoRecord_avoids _ _) fun _ _ => ?_
  refine .bind (buildDiscoveryWindowFinalization_avoids _ _ _) fun _ _ => ?_
  refine .bind (require_avoids (.inr rfl)) fun _ _ => ?_
  refine .bind (insertRow_avoids _ _ _) fun _ _ => ?_
  refine .bind (insertRow_avoids _ _ _) fun _ _ => ?_
  exact .bind (mapM_avoids _ fun _ => toI64_avoids _ _) fun _ _ => .ok _

theorem publishDecision_avoids (clamp : Int → Int) (now : Int) (window : WindowRow) :
    Avoids PersistenceError.isEvidenceChanged
      (publishDecision clamp now db window payload) := by
  unfold publishDecision
  dsimp only
  refine .bind ?_ fun _ _ => .ok _
  cases currentProjection db payload.windowId window.toWindowIdentityRow with
  | none => exact .ok _
  | some row =>
      change Avoids _ (applyToProjection db window.toWindowIdentityRow payload row)
      unfold applyToProjection validateProjectionMatchesWindow
      refine .bind (require_avoids (.inr rfl)) fun _ _ => ?_
      refine .bind (checkedDecimalSum_avoids _ _ _) fun _ _ => ?_
      exact .bind (checkedDecimalSum_avoids _ _ _) fun _ _ => .ok _

/-- A finalization with the current number of members does not fail for a changed membership. -/
theorem finalizeDiscoveryWindow_avoids (clamp : Int → Int) (now : Int)
    (same : db.countMemberships payload.windowId = payload.observationCount) :
    Avoids PersistenceError.isEvidenceChanged
      (finalizeDiscoveryWindow clamp now db payload) := by
  unfold finalizeDiscoveryWindow
  refine .bind (validateFinalization_avoids payload) fun _ _ => ?_
  split
  · exact .error rfl
  · refine .bind (validateFinalizationForWindow_avoids payload _) fun _ _ => ?_
    refine .ite (fun _ => .ite (fun _ => .ok _) fun _ => .error rfl) fun _ => ?_
    refine .bind (freezeEvidence_avoids db payload _ same) fun _ _ => ?_
    exact .bind (publishDecision_avoids _ payload clamp now _) fun _ _ => .ok _

end Errors

section Count

variable {db : Database} {windowId : Int} {window : WindowRow}

/-- The loaded observations are the members of the window, one for each membership. -/
theorem MembersInvariant.loaded (invariant : MembersInvariant db)
    (present : db.windows.lookup windowId = some window) (active : window.status = .active) :
    (∀ observation ∈ loadWindowObservations db windowId,
        InWindow window.toWindowIdentityRow observation) ∧
      (loadWindowObservations db windowId).length = db.countMemberships windowId := by
  have pairs : ∀ member ∈ db.memberships.filter (fun member => member.windowId = windowId),
      (windowId, member.observationId) ∈ db.memberPairs := by
    intro member selected
    obtain ⟨listed, own⟩ := List.mem_filter.mp selected
    exact List.mem_map.mpr ⟨member, listed, by rw [of_decide_eq_true own]⟩
  unfold loadWindowObservations
  constructor
  · intro observation loaded
    obtain ⟨member, selected, found⟩ :=
      List.mem_filterMap.mp ((List.mem_insertionSort _).mp loaded)
    obtain ⟨row, stored, rfl⟩ := Option.map_eq_some_iff.mp found
    exact invariant.inside _ (pairs member selected) window row present active stored
  · rw [List.length_insertionSort, List.length_filterMap_eq_countP, List.countP_eq_length.mpr]
    · exact List.countP_eq_length_filter.symm
    · intro member selected
      obtain ⟨-, row, -, stored, -⟩ := invariant.references.members _ _ (pairs member selected)
      rw [stored]
      rfl

/-- The count of a payload is the number of memberships of its window. -/
theorem MembersInvariant.observationCount (invariant : MembersInvariant db)
    (present : db.windows.lookup windowId = some window) (active : window.status = .active)
    {record : DiscoveryWindowRecord} (loaded : loadDiscoveryWindow db windowId = .ok record)
    {finalizedAtUnixMs : Int} {reason : Option String} {payload : FinalizeDiscoveryWindow}
    (built : buildDiscoveryWindowFinalization record finalizedAtUnixMs reason = .ok payload) :
    payload.windowId = windowId ∧ payload.observationCount = db.countMemberships windowId := by
  obtain ⟨inside, count⟩ := invariant.loaded present active
  unfold loadDiscoveryWindow at loaded
  rw [present] at loaded
  dsimp only at loaded
  unfold WindowIdentityRow.intoRecord at loaded
  simp only [bind_eq_ok] at loaded
  obtain ⟨-, -, -, -, prefilterRevision, -, qualificationRevision, -, done⟩ := loaded
  cases done
  obtain ⟨snapshot, assessment, summary, snapshotBuilt, -, -, rfl⟩ :=
    buildDiscoveryWindowFinalization_eq_ok built
  refine ⟨invariant.identified windowId window present, ?_⟩
  change snapshot.metrics.observations = _
  rw [buildMarketWindowSnapshot_observations snapshotBuilt, List.filter_eq_self.mpr,
    List.length_map, count]
  intro normalized member
  obtain ⟨observation, listed, rfl⟩ := List.mem_map.mp member
  obtain ⟨opened, closes, market⟩ := inside observation listed
  unfold inSlice
  simp [opened, closes, market]

/-- The memberships of a window are counted by their observations. -/
theorem Database.length_memberIds (db : Database) (windowId : Int) :
    (db.memberIds windowId).length = db.countMemberships windowId := by
  unfold Database.memberIds Database.memberPairs Database.countMemberships
  rw [List.length_map, ← List.countP_eq_length_filter, List.countP_map]
  rfl

end Count

/-- The members of an active window are inside it, its payload counts them, and its finalization
is not refused for a change of them while they stay the same. -/
structure EvidenceStands (isBase64 : String → Bool) (db : Database) (windowId : Int)
    (window : WindowIdentityRow) : Prop where
  members : ∀ observationId ∈ db.memberIds windowId,
    ∃ row, db.observations.lookup observationId = some row ∧ InWindow window row.normalized
  counted : ∀ record finalizedAtUnixMs reason payload,
    loadDiscoveryWindow db windowId = .ok record →
    buildDiscoveryWindowFinalization record finalizedAtUnixMs reason = .ok payload →
    payload.observationCount = db.countMemberships windowId
  accepted : ∀ record finalizedAtUnixMs reason payload,
    loadDiscoveryWindow db windowId = .ok record →
    buildDiscoveryWindowFinalization record finalizedAtUnixMs reason = .ok payload →
    ∀ later, (Transition.run (step isBase64) db later).memberIds windowId =
        db.memberIds windowId →
      ∀ now id, (step isBase64 (Transition.run (step isBase64) db later)
        (.finalizeDiscoveryWindow now payload)).1 ≠ .error (.discoveryWindowEvidenceChanged id)

theorem MembersInvariant.evidenceStands {db : Database} (invariant : MembersInvariant db)
    (isBase64 : String → Bool) {windowId : Int} {window : WindowRow}
    (present : db.windows.lookup windowId = some window) (active : window.status = .active) :
    EvidenceStands isBase64 db windowId window.toWindowIdentityRow where
  members := by
    intro observationId member
    obtain ⟨⟨own, _⟩, selected, rfl⟩ := List.mem_map.mp member
    obtain ⟨listed, same⟩ := List.mem_filter.mp selected
    obtain rfl : own = windowId := of_decide_eq_true same
    obtain ⟨-, row, -, stored, -⟩ := invariant.references.members _ _ listed
    exact ⟨row, stored, invariant.inside _ listed window row present active stored⟩
  counted := by
    intro record finalizedAtUnixMs reason payload loaded built
    exact (invariant.observationCount present active loaded built).2
  accepted := by
    intro record finalizedAtUnixMs reason payload loaded built later same now id refused
    obtain ⟨own, counted⟩ := invariant.observationCount present active loaded built
    have current : (Transition.run (step isBase64) db later).countMemberships payload.windowId =
        payload.observationCount := by
      rw [own, counted, ← Database.length_memberIds, same, Database.length_memberIds]
    have avoids : Avoids PersistenceError.isEvidenceChanged (transact isBase64 greatestZero
        (Transition.run (step isBase64) db later) (.finalizeDiscoveryWindow now payload)) :=
      .bind (finalizeDiscoveryWindow_avoids _ payload greatestZero now current) fun _ _ => .ok _
    rcases step_cases isBase64 (Transition.run (step isBase64) db later)
        (.finalizeDiscoveryWindow now payload) with
      ⟨outcome, next, moved, -⟩ | ⟨error, moved, failed⟩
    · rw [moved] at refused
      cases refused
    · rw [moved] at refused
      cases refused
      cases avoids _ failed

/-- In every run whose accepted deliveries keep the stored receipts inside, the evidence of every
active window stands. -/
theorem members_stay_inside (isBase64 : String → Bool) {actions : List DatabaseAction}
    (delivers : AcceptedAlong isBase64 DeliversInside actions)
    {windowId : Int} {window : WindowRow}
    (present : (databaseAfter isBase64 actions).windows.lookup windowId = some window)
    (active : window.status = .active) :
    EvidenceStands isBase64 (databaseAfter isBase64 actions) windowId
      window.toWindowIdentityRow := by
  have invariant : MembersInvariant (databaseAfter isBase64 actions) :=
    delivers.keeps membersInvariant_migrated fun db action invariant delivers =>
      invariant.stepped isBase64 delivers
  exact invariant.evidenceStands isBase64 present active

/-- A trade joins the window of its launch and is delivered again with a receipt before it. -/
def launchLowered : List DatabaseAction := [
  .bindNetwork .solanaMainnet,
  .addQualificationRevision 1,
  .openDiscoveryWindow 100 launchCreation launchWindow,
  .insertWindowObservation 150 1 (launchTrade 150),
  .insertObservation 160 (launchTrade 90)]

theorem launchLowered_left :
    (((databaseAfter (fun _ => true) launchLowered).windows.lookup 1).any fun window =>
        window.status = .active && window.openedAtUnixMs = 100) = true ∧
      2 ∈ (databaseAfter (fun _ => true) launchLowered).memberIds 1 ∧
      (((databaseAfter (fun _ => true) launchLowered).observations.lookup 2).any fun row =>
        row.normalized.receivedTimeUnixMs = 90) = true := by
  decide

/-- A replay with an earlier receipt moves a member out of its active window. -/
theorem member_leaves_window :
    ¬ ∀ (isBase64 : String → Bool) (actions : List DatabaseAction),
      (∀ action ∈ actions, action.prunes = false) →
      ∀ (windowId : Int) (window : WindowRow),
        (databaseAfter isBase64 actions).windows.lookup windowId = some window →
        window.status = .active →
        EvidenceStands isBase64 (databaseAfter isBase64 actions) windowId
          window.toWindowIdentityRow := by
  intro always
  obtain ⟨opened, member, received⟩ := launchLowered_left
  obtain ⟨window, present, facts⟩ := (Option.any_eq_true _ _).mp opened
  obtain ⟨row, stored, early⟩ := (Option.any_eq_true _ _).mp received
  simp only [Bool.and_eq_true, decide_eq_true_iff] at facts early
  have stands := always (fun _ => true) launchLowered (by decide) 1 window present facts.1
  obtain ⟨found, foundStored, inside⟩ := stands.members 2 member
  rw [stored] at foundStored
  cases foundStored
  have opens := inside.opened
  rw [facts.2, early] at opens
  exact absurd opens (by decide)

theorem lowersInside_of_absent {db : Database} {observation : Observation}
    (absent : db.findObservation observation.key = none) :
    LowersInside db observation ∧ OpensInside db observation := by
  constructor
  · intro id row found
    rw [absent] at found
    cases found
  · intro id row found
    rw [absent] at found
    cases found

/-- The window of a launch holds its creation and its trade. -/
theorem members_stay_inside_launch : ∃ window,
    (databaseAfter (fun _ => true) launchActions).windows.lookup 1 = some window ∧
      EvidenceStands (fun _ => true) (databaseAfter (fun _ => true) launchActions) 1
        window.toWindowIdentityRow := by
  have opened : ((databaseAfter (fun _ => true) launchActions).windows.lookup 1).any
      (fun window => window.status = .active) = true := by decide +kernel
  have created : (databaseAfter (fun _ => true) (launchActions.take 2)).findObservation
      launchCreation.key = none := by decide +kernel
  have traded : (databaseAfter (fun _ => true) (launchActions.take 3)).findObservation
      (launchTrade 150).key = none := by decide +kernel
  obtain ⟨window, present, active⟩ := (Option.any_eq_true _ _).mp opened
  have delivers : Transition.Along (step fun _ => true) DeliversInside .migrated
      launchActions := by
    refine ⟨trivial, trivial, fun _ => ?_, ?_, trivial, trivial, trivial, trivial⟩
    · have absent := lowersInside_of_absent created
      exact ⟨absent.1, by decide, absent.2⟩
    · exact ⟨(lowersInside_of_absent traded).1, by decide⟩
  exact ⟨window, present,
    members_stay_inside (fun _ => true) (Transition.along_whenAccepted _ delivers) present
      (of_decide_eq_true active)⟩

end Soldisco.Persistence

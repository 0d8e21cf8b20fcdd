import Soldisco.Proof.Persistence.Decisions

/-
This file states which facts, work and memberships a transaction keeps and to what they refer.
-/

namespace Soldisco.Persistence
open Domain MachineInteger Accumulation

/-- Only pruning deletes rows. -/
def DatabaseAction.prunes : DatabaseAction → Bool
  | .pruneRetainedHistory _ => true
  | _ => false

/-- The windows and the observations that the memberships pair. -/
def Database.memberPairs (db : Database) : List (Int × Int) :=
  db.memberships.map fun member => (member.windowId, member.observationId)

/-- The observation belongs to the market of the window. -/
structure InMarket (window : WindowIdentityRow) (observation : Observation) : Prop where
  network : window.network = observation.key.network
  sourceProgram : window.sourceProgram = observation.key.program
  venue : window.venue = observation.market.venue
  marketAddress : window.marketAddress = observation.market.marketAddress
  mint : window.mint = observation.market.mint
  quoteMint : window.quoteMint = quoteMintColumn observation.market

/-- A stored observation keeps everything but a receipt that may become earlier. -/
structure SameFact (row after : ObservationRow) : Prop where
  normalized : after.normalized =
    { row.normalized with receivedTimeUnixMs := after.normalized.receivedTimeUnixMs }
  received : after.normalized.receivedTimeUnixMs ≤ row.normalized.receivedTimeUnixMs

theorem SameFact.refl (row : ObservationRow) : SameFact row row := ⟨rfl, le_refl _⟩

theorem SameFact.market {row after : ObservationRow} (same : SameFact row after) :
    after.normalized.market = row.normalized.market := by
  rw [same.normalized]

theorem SameFact.key {row after : ObservationRow} (same : SameFact row after) :
    after.normalized.key = row.normalized.key := by
  rw [same.normalized]

theorem InMarket.sameFact {window : WindowIdentityRow} {row after : ObservationRow}
    (inside : InMarket window row.normalized) (same : SameFact row after) :
    InMarket window after.normalized := by
  obtain ⟨network, program, venue, address, mint, quote⟩ := inside
  have market := same.market
  have key := same.key
  constructor <;> simp only [market, key, network, program, venue, address, mint, quote]

/-- Observations and work stay; work keeps its observation. -/
structure FactsKept (db next : Database) : Prop where
  observation : ∀ id row, db.observations.lookup id = some row →
    ∃ after, next.observations.lookup id = some after ∧ SameFact row after
  work : ∀ id row, db.work.lookup id = some row →
    ∃ after, next.work.lookup id = some after ∧ after.observationId = row.observationId

namespace FactsKept

variable {db middle next : Database}

theorem of_same (observations : next.observations = db.observations) (work : next.work = db.work) :
    FactsKept db next where
  observation := by
    rw [observations]
    exact fun _ row present => ⟨row, present, .refl row⟩
  work := by
    rw [work]
    exact fun _ row present => ⟨row, present, rfl⟩

theorem trans (first : FactsKept db middle) (second : FactsKept middle next) :
    FactsKept db next where
  observation := by
    intro id row present
    obtain ⟨between, found, same⟩ := first.observation id row present
    obtain ⟨after, stored, again⟩ := second.observation id between found
    refine ⟨after, stored, ?_, le_trans again.received same.received⟩
    rw [again.normalized, same.normalized]
  work := by
    intro id row present
    obtain ⟨between, found, same⟩ := first.work id row present
    obtain ⟨after, stored, again⟩ := second.work id between found
    exact ⟨after, stored, again.trans same⟩

/-- A change of one row of work keeps its observation. -/
theorem of_modify (observations : next.observations = db.observations) {workId : Int}
    {change : WorkRow → WorkRow} (work : next.work = db.work.modify workId change)
    (same : ∀ row, (change row).observationId = row.observationId) : FactsKept db next where
  observation := by
    rw [observations]
    exact fun _ row present => ⟨row, present, .refl row⟩
  work := by
    intro id row present
    rw [work, Table.lookup_modify]
    by_cases changed : id = workId
    · subst changed
      rw [if_pos rfl, present]
      exact ⟨change row, rfl, same row⟩
    · rw [if_neg changed]
      exact ⟨row, present, rfl⟩

end FactsKept

theorem ObservationStored.factsKept {now : Int} {db next : Database} {observation : Observation}
    {inserted : ObservationInsert} (stored : ObservationStored now db observation inserted next) :
    FactsKept db next where
  work := by
    rw [stored.frame]
    exact fun _ row present => ⟨row, present, rfl⟩
  observation := by
    intro id row present
    cases stored with
    | added absent free =>
        have other : id ≠ db.nextObservationId := by
          rintro rfl
          rw [free] at present
          cases present
        rw [Database.lookup_addObservation, if_neg other]
        exact ⟨row, present, .refl row⟩
    | @lowered loweredId lowered found _ earlier =>
        rw [Database.lookup_lowerReceipt]
        by_cases changed : id = loweredId
        · subst changed
          have same := (Database.findObservation_eq_some found).1
          rw [present] at same
          cases same
          rw [if_pos rfl, present]
          exact ⟨row.receivedAt observation.receivedTimeUnixMs, rfl, rfl, le_of_lt earlier⟩
        · rw [if_neg changed]
          exact ⟨row, present, .refl row⟩
    | kept => exact ⟨row, present, .refl row⟩

theorem WorkQueued.factsKept {now : Int} {db next : Database} {observation : Observation}
    {inserted : ObservationInsert} (queued : WorkQueued now db observation inserted next) :
    FactsKept db next where
  observation := by
    rw [queued.frame]
    exact fun _ row present => ⟨row, present, .refl row⟩
  work := by
    intro id row present
    cases queued with
    | @queued observationId free =>
        have other : id ≠ db.nextWorkId := by
          rintro rfl
          rw [free] at present
          cases present
        refine ⟨row, ?_, rfl⟩
        change AList.lookup id (db.work.insert db.nextWorkId (pendingWork now observationId)) = _
        rw [AList.lookup_insert_ne other, present]
    | replayed => exact ⟨row, present, rfl⟩

/-- The pair of a repeated membership stays and the pair of a new membership is added. -/
theorem memberPairs_insertMembership (db : Database)
    (windowId observationId admittedAtUnixMs : Int) :
    (db.insertMembership windowId observationId admittedAtUnixMs).memberPairs =
      if (windowId, observationId) ∈ db.memberPairs then db.memberPairs
      else db.memberPairs ++ [(windowId, observationId)] := by
  have found : (db.memberships.any fun member =>
      member.windowId = windowId && member.observationId = observationId) = true ↔
      (windowId, observationId) ∈ db.memberPairs := by
    simp [Database.memberPairs, List.any_eq_true]
  unfold Database.insertMembership
  by_cases member : (windowId, observationId) ∈ db.memberPairs
  · rw [if_pos (found.mpr member), if_pos member]
    unfold Database.memberPairs
    rw [List.map_map]
    apply List.map_congr_left
    intro row _
    simp only [Function.comp_apply]
    split <;> rfl
  · rw [if_neg (mt found.mp member), if_neg member]
    exact List.map_append

/-- A membership is added to an active window of the market, or the pairs stay. -/
inductive MembersChanged (db next : Database) : Prop
  | same (pairs : next.memberPairs = db.memberPairs)
  | joined {windowId observationId : Int} {window : WindowRow} {row : ObservationRow}
      (fresh : (windowId, observationId) ∉ db.memberPairs)
      (pairs : next.memberPairs = db.memberPairs ++ [(windowId, observationId)])
      (present : next.windows.lookup windowId = some window) (active : window.status = .active)
      (stored : next.observations.lookup observationId = some row)
      (inside : InMarket window.toWindowIdentityRow row.normalized)

/-- The columns of a window stay; its status may change. -/
def SameWindow (window after : WindowRow) : Prop :=
  after.toWindowIdentityRow = { window.toWindowIdentityRow with status := after.status }

theorem InMarket.sameWindow {window after : WindowRow} {observation : Observation}
    (inside : InMarket window.toWindowIdentityRow observation) (same : SameWindow window after) :
    InMarket after.toWindowIdentityRow observation := by
  rw [same]
  exact ⟨inside.network, inside.sourceProgram, inside.venue, inside.marketAddress, inside.mint,
    inside.quoteMint⟩

theorem DecisionChange.sameWindow {db next : Database} {action : DatabaseAction}
    (change : DecisionChange db action next) {id : Int} {window : WindowRow}
    (present : db.windows.lookup id = some window) :
    ∃ after, next.windows.lookup id = some after ∧ SameWindow window after := by
  have kept : ∀ windows, windows = db.windows →
      ∃ after, AList.lookup id windows = some after ∧ SameWindow window after := by
    rintro _ rfl
    exact ⟨window, present, rfl⟩
  cases change with
  | quiet same => exact kept _ same.windows
  | bound => exact kept _ rfl
  | opened _ _ _ free _ windows =>
      have other : id ≠ db.nextWindowId := by
        rintro rfl
        rw [free] at present
        cases present
      rw [windows, AList.lookup_insert_ne other]
      exact kept _ rfl
  | observed _ _ _ _ _ _ same => exact kept _ same.windows
  | approved _ _ _ _ _ _ same => exact kept _ same.windows
  | @finalized _ payload _ _ _ _ _ _ _ _ _ _ _ _ _ _ windows =>
      rw [windows, Table.lookup_modify]
      split
      · rename_i same
        rw [← same, present]
        exact ⟨finalizeRow payload window, rfl, rfl⟩
      · exact kept _ rfl
  | pruned _ _ windows =>
      rw [windows, Table.lookup_modifyAll, present]
      dsimp only [Option.map_some]
      split
      · exact ⟨_, rfl, rfl⟩
      · exact ⟨_, rfl, rfl⟩

theorem Database.claimWork_factsKept (db : Database) (now : Int) (claimed : List Int)
    (workerId : String) (leaseMillis : Int) :
    FactsKept db (db.claimWork now claimed workerId leaseMillis) where
  observation := fun _ row present => ⟨row, present, .refl row⟩
  work := by
    intro id row present
    unfold Database.claimWork
    dsimp only
    rw [Table.lookup_modifyAll, present]
    refine ⟨_, rfl, ?_⟩
    split <;> rfl

theorem Database.openWindow_factsKept (db : Database) (now : Int) (row : WindowRow)
    (observationId : Int) (qualificationRevision : Nat) :
    FactsKept db (db.openWindow now row observationId qualificationRevision) := by
  unfold Database.openWindow
  rw [Database.insertMembership_frame]
  exact .of_same rfl rfl

theorem Database.insertMembership_factsKept (db : Database)
    (windowId observationId admittedAtUnixMs : Int) :
    FactsKept db (db.insertMembership windowId observationId admittedAtUnixMs) := by
  rw [Database.insertMembership_frame]
  exact .of_same rfl rfl

/-- The evidence and the decision of a finalization leave facts, work and memberships alone. -/
theorem finalizeDiscoveryWindow_frame {clamp : Int → Int} {now : Int} {db next : Database}
    {finalized : FinalizeDiscoveryWindow} {changed : Bool}
    (accepted : finalizeDiscoveryWindow clamp now db finalized = .ok (changed, next)) :
    next.observations = db.observations ∧ next.work = db.work ∧
      next.memberships = db.memberships := by
  obtain ⟨-, window, -, -, branch⟩ := finalizeDiscoveryWindow_eq_ok accepted
  rcases branch with ⟨-, -, rfl, -⟩ | ⟨-, -, frozen, froze, publishing⟩
  · exact ⟨rfl, rfl, rfl⟩
  · obtain ⟨-, -, -, -, rfl⟩ := freezeEvidence_eq_ok froze
    obtain ⟨delta, applied, projectionApplied, decision, rfl⟩ := publishDecision_eq_ok publishing
    unfold Database.finishWindow
    rw [summarizeDecision_frame, decision.frame]
    exact ⟨rfl, rfl, rfl⟩

theorem Transacted.factsKept {isBase64 : String → Bool} {clamp : Int → Int} {db next : Database}
    {action : DatabaseAction} (committed : Transacted isBase64 clamp db action next)
    (consistent : TokensConsistent db) (keeps : action.prunes = false) : FactsKept db next := by
  cases committed with
  | bound | boundBefore | addedRevision | skippedSequences => exact .of_same rfl rfl
  | insertedObservation accepted =>
      obtain ⟨-, inserted, stored, storage, work⟩ := insertObservation_eq_ok accepted
      exact storage.factsKept.trans work.factsKept
  | openedWindow accepted =>
      rcases openDiscoveryWindow_eq_ok accepted with
        ⟨-, rfl⟩ | ⟨-, -, -, -, -, -, inserted, stored, queued, prefilterRevision, qualificationRevision,
          storage, work, -, rfl⟩
      · exact .of_same rfl rfl
      · exact (storage.factsKept.trans work.factsKept).trans
          (queued.openWindow_factsKept _ _ inserted.id _)
  | insertedMember accepted =>
      obtain ⟨-, window, inserted, stored, -, storage, branch⟩ :=
        insertWindowObservation_eq_ok accepted
      rcases branch with ⟨-, rfl⟩ | ⟨row, queued, -, -, work, rfl⟩
      · exact storage.factsKept
      · exact (storage.factsKept.trans work.factsKept).trans
          (queued.insertMembership_factsKept _ inserted.id _)
  | claimedWork accepted =>
      obtain ⟨leaseMillis, rfl⟩ := claimObservationWork_eq_ok accepted
      exact db.claimWork_factsKept _ _ _ leaseMillis
  | renewedLease accepted =>
      rw [renewObservationWorkLease_eq_ok accepted]
      exact .of_modify rfl rfl fun _ => rfl
  | committedObservation accepted =>
      obtain ⟨-, -, work, recorded, projected, tokens, activity, traders, -, -, -, -, -, -, rfl⟩ :=
        commitDiscoveryObservation_eq_ok consistent accepted
      exact .of_modify rfl rfl fun _ => rfl
  | committedApproval accepted =>
      obtain ⟨-, -, row, observedSlot, -, -, -, -, rfl⟩ := commitDiscoveryApproval_eq_ok accepted
      exact .of_same rfl rfl
  | committedRejection accepted =>
      obtain ⟨work, -, -, rfl⟩ := commitDiscoveryRejection_eq_ok accepted
      exact .of_modify rfl rfl fun _ => rfl
  | releasedWork accepted =>
      obtain ⟨work, retryMillis, -, branch⟩ := retryOrFailObservationWork_eq_ok accepted
      rcases branch with ⟨-, -, rfl⟩ | ⟨-, -, -, rfl⟩ | ⟨-, -, -, rfl⟩ <;>
        exact .of_modify rfl rfl fun _ => rfl
  | finalizedWindow accepted =>
      obtain ⟨observations, work, -⟩ := finalizeDiscoveryWindow_frame accepted
      exact .of_same observations work
  | prunedHistory => cases keeps
  | rebuiltProjection accepted =>
      unfold rebuildDiscoveryProjection at accepted
      simp only [bind_eq_ok] at accepted
      obtain ⟨_, _, done⟩ := accepted
      cases done
      exact .of_same rfl rfl

/-- A new window gets the membership of its opening. -/
theorem openDiscoveryWindow_members {isBase64 : String → Bool} {now : Int} {db next : Database}
    {observation : Observation} {window : NewDiscoveryWindow} {opened : OpenedDiscoveryWindow}
    (windows : ∀ windowId observationId, (windowId, observationId) ∈ db.memberPairs →
      db.windows.lookup windowId ≠ none)
    (accepted : openDiscoveryWindow isBase64 now db observation window = .ok (opened, next)) :
    MembersChanged db next := by
  rcases openDiscoveryWindow_eq_ok accepted with
    ⟨-, rfl⟩ | ⟨-, -, -, -, -, free, inserted, stored, queued, prefilterRevision, qualificationRevision,
      storage, work, -, rfl⟩
  · exact .same rfl
  · obtain ⟨row, found, market, identity⟩ := storage.lookup
    have pairs : queued.memberPairs = db.memberPairs := by
      unfold Database.memberPairs
      rw [work.frame]
      exact storage.memberships
    have fresh : (db.nextWindowId, inserted.id) ∉ db.memberPairs :=
      fun member => windows _ _ member free
    have nextWindowId : queued.nextWindowId = db.nextWindowId := by
      rw [work.frame]
      dsimp only
      rw [storage.frame]
    have observations : queued.observations = stored.observations := by rw [work.frame]
    have joined := memberPairs_insertMembership
      { queued with
        windows := queued.windows.insert queued.nextWindowId (newWindowRow db.nextWindowId
          inserted.id prefilterRevision qualificationRevision observation window)
        nextWindowId := queued.nextWindowId + 1 }
      db.nextWindowId inserted.id window.openedAtUnixMs
    change _ = if (db.nextWindowId, inserted.id) ∈ queued.memberPairs then queued.memberPairs
      else queued.memberPairs ++ [(db.nextWindowId, inserted.id)] at joined
    rw [pairs, if_neg fresh] at joined
    have frame := (queued.openWindow_factsKept now (newWindowRow db.nextWindowId inserted.id
      prefilterRevision qualificationRevision observation window) inserted.id
      window.qualification.revision)
    rw [← observations] at found
    obtain ⟨after, stays, same⟩ := frame.observation _ _ found
    refine @MembersChanged.joined _ _ _ _ (newWindowRow db.nextWindowId inserted.id
      prefilterRevision qualificationRevision observation window) _ fresh joined ?_ rfl stays ?_
    · unfold Database.openWindow
      rw [Database.insertMembership_frame, nextWindowId]
      exact AList.lookup_insert _
    · simp only [sameIdentity, Bool.and_eq_true, decide_eq_true_iff] at identity
      have inside : InMarket (newWindowRow db.nextWindowId inserted.id prefilterRevision
          qualificationRevision observation window).toWindowIdentityRow row.normalized := by
        constructor <;> simp only [newWindowRow, identity, market]
      exact inside.sameFact same

theorem validateWindowMembership_inMarket {window : WindowIdentityRow} {observation : Observation}
    {done : Unit} (valid : validateWindowMembership window observation = .ok done) :
    InMarket window observation := by
  obtain ⟨-, network, program, venue, address, mint, quote, -, -⟩ :=
    validateWindowMembership_eq_ok valid
  exact ⟨network, program, venue, address, mint, quote⟩

theorem insertWindowObservation_members {isBase64 : String → Bool} {now : Int}
    {db next : Database} {windowId : Int} {observation : Observation} {isNew : Bool}
    (accepted : insertWindowObservation isBase64 now db windowId observation =
      .ok (isNew, next)) : MembersChanged db next := by
  obtain ⟨-, window, inserted, stored, present, storage, branch⟩ :=
    insertWindowObservation_eq_ok accepted
  rcases branch with ⟨-, rfl⟩ | ⟨row, queued, found, valid, work, rfl⟩
  · exact .same storage.memberships
  · have pairs : queued.memberPairs = db.memberPairs := by
      unfold Database.memberPairs
      rw [work.frame]
      exact storage.memberships
    have joined := memberPairs_insertMembership queued windowId inserted.id
      row.normalized.receivedTimeUnixMs
    rw [pairs] at joined
    have frame := queued.insertMembership_frame windowId inserted.id
      row.normalized.receivedTimeUnixMs
    by_cases member : (windowId, inserted.id) ∈ db.memberPairs
    · rw [if_pos member] at joined
      exact .same joined
    · rw [if_neg member] at joined
      refine .joined member joined ?_ (validateWindowMembership_eq_ok valid).1 ?_
        (validateWindowMembership_inMarket valid)
      · rw [frame]
        dsimp only
        rw [work.frame]
        dsimp only
        rw [storage.frame]
        exact present
      · rw [frame]
        dsimp only
        rw [work.frame]
        exact found

/-- Only an opening and a window observation add memberships. -/
def DatabaseAction.joins : DatabaseAction → Bool
  | .openDiscoveryWindow _ _ _ | .insertWindowObservation _ _ _ => true
  | _ => false

theorem Transacted.memberPairs {isBase64 : String → Bool} {clamp : Int → Int}
    {db next : Database} {action : DatabaseAction}
    (committed : Transacted isBase64 clamp db action next) (consistent : TokensConsistent db)
    (keeps : action.prunes = false) (quiet : action.joins = false) :
    next.memberPairs = db.memberPairs := by
  cases committed with
  | bound | boundBefore | addedRevision | skippedSequences => rfl
  | insertedObservation accepted =>
      obtain ⟨-, inserted, stored, storage, work⟩ := insertObservation_eq_ok accepted
      unfold Database.memberPairs
      rw [work.frame]
      exact storage.memberships
  | openedWindow | insertedMember => cases quiet
  | claimedWork accepted =>
      obtain ⟨leaseMillis, rfl⟩ := claimObservationWork_eq_ok accepted
      rfl
  | renewedLease accepted =>
      rw [renewObservationWorkLease_eq_ok accepted]
      rfl
  | committedObservation accepted =>
      obtain ⟨-, -, work, recorded, projected, tokens, activity, traders, -, -, -, -, -, -, rfl⟩ :=
        commitDiscoveryObservation_eq_ok consistent accepted
      rfl
  | committedApproval accepted =>
      obtain ⟨-, -, row, observedSlot, -, -, -, -, rfl⟩ := commitDiscoveryApproval_eq_ok accepted
      rfl
  | committedRejection accepted =>
      obtain ⟨work, -, -, rfl⟩ := commitDiscoveryRejection_eq_ok accepted
      rfl
  | releasedWork accepted =>
      obtain ⟨work, retryMillis, -, branch⟩ := retryOrFailObservationWork_eq_ok accepted
      rcases branch with ⟨-, -, rfl⟩ | ⟨-, -, -, rfl⟩ | ⟨-, -, -, rfl⟩ <;> rfl
  | finalizedWindow accepted =>
      obtain ⟨-, -, memberships⟩ := finalizeDiscoveryWindow_frame accepted
      unfold Database.memberPairs
      rw [memberships]
  | prunedHistory => cases keeps
  | rebuiltProjection accepted =>
      unfold rebuildDiscoveryProjection at accepted
      simp only [bind_eq_ok] at accepted
      obtain ⟨_, _, done⟩ := accepted
      cases done
      rfl

theorem Transacted.membersChanged {isBase64 : String → Bool} {clamp : Int → Int}
    {db next : Database} {action : DatabaseAction}
    (committed : Transacted isBase64 clamp db action next) (consistent : TokensConsistent db)
    (windows : ∀ windowId observationId, (windowId, observationId) ∈ db.memberPairs →
      db.windows.lookup windowId ≠ none)
    (keeps : action.prunes = false) : MembersChanged db next := by
  cases joins : action.joins with
  | false => exact .same (committed.memberPairs consistent keeps joins)
  | true =>
      cases committed with
      | openedWindow accepted => exact openDiscoveryWindow_members windows accepted
      | insertedMember accepted => exact insertWindowObservation_members accepted
      | _ => cases joins

/-- The market of a candidate is the market of the observation that it was projected from. -/
def SourcedBy (db : Database) (row : TokenRow) (workId : Int) : Prop :=
  ∃ work fact, db.work.lookup workId = some work ∧
    db.observations.lookup work.observationId = some fact ∧
    tokenMatchesObservationMarket row.token fact.normalized = true

/-- Memberships and candidates refer to stored rows of their own market. -/
structure ReferencesInvariant (db : Database) : Prop where
  counters : CountersInvariant db
  members : ∀ windowId observationId, (windowId, observationId) ∈ db.memberPairs →
    ∃ window row, db.windows.lookup windowId = some window ∧
      db.observations.lookup observationId = some row ∧
      InMarket window.toWindowIdentityRow row.normalized
  sources : ∀ mint row, db.tokens.lookup mint = some row →
    ∀ workId, row.sourceWorkId = some workId → SourcedBy db row workId

theorem SourcedBy.kept {db next : Database} {row : TokenRow} {workId : Int}
    (sourced : SourcedBy db row workId) (facts : FactsKept db next) :
    SourcedBy next row workId := by
  obtain ⟨work, fact, present, stored, market⟩ := sourced
  obtain ⟨after, found, same⟩ := facts.work workId work present
  obtain ⟨later, kept, fact⟩ := facts.observation _ _ stored
  refine ⟨after, later, found, ?_, ?_⟩
  · rw [same]
    exact kept
  · unfold tokenMatchesObservationMarket at market ⊢
    rw [fact.market, fact.key]
    exact market

theorem SourcedBy.of_same {db : Database} {row other : TokenRow} {workId : Int}
    (sourced : SourcedBy db row workId) (mint : other.token.mint = row.token.mint)
    (venue : other.token.primaryVenue = row.token.primaryVenue)
    (address : other.token.marketAddress = row.token.marketAddress)
    (quote : other.token.quoteMint = row.token.quoteMint)
    (program : other.token.sourceProgram = row.token.sourceProgram) :
    SourcedBy db other workId := by
  obtain ⟨work, fact, present, stored, market⟩ := sourced
  refine ⟨work, fact, present, stored, ?_⟩
  unfold tokenMatchesObservationMarket at market ⊢
  rw [mint, venue, address, quote, program]
  exact market

theorem validateTokenSource_eq_ok {token : DiscoveryToken} {observation : Observation}
    {done : Unit} (valid : validateTokenSource token observation = .ok done) :
    tokenMatchesObservationMarket token observation = true ∧
      token.observedSlot = observation.key.coordinate.slot := by
  unfold validateTokenSource at valid
  simp only [requireMatches_eq_ok, List.forall_mem_cons, decide_eq_true_iff] at valid
  obtain ⟨mint, venue, address, quote, program, -, slot, -⟩ := valid
  refine ⟨?_, slot⟩
  unfold tokenMatchesObservationMarket
  simp only [mint, venue, address, quote, program, decide_true, Bool.and_self]

/-- A stored candidate names the work of its observation or keeps the source it had. -/
theorem CandidateStored.sources {db : Database} {before tokens : Table String TokenRow}
    {workId : Int} {candidate : DiscoveryObservation} {observation : Observation}
    {recorded : DiscoveryActivity} {projected : ProjectedToken}
    (stored : CandidateStored before workId candidate observation recorded projected tokens)
    (named : SourcedBy db (discoveryTokenRow observation candidate.token 0 workId
      candidate.validationSource candidate.validationVersion) workId)
    (sources : ∀ mint row, before.lookup mint = some row →
      ∀ other, row.sourceWorkId = some other → SourcedBy db row other) :
    ∀ mint row, tokens.lookup mint = some row →
      ∀ other, row.sourceWorkId = some other → SourcedBy db row other := by
  cases stored with
  | inserted | replaced =>
      refine forall_insert sources fun other sourced => ?_
      cases sourced
      exact named.of_same rfl rfl rfl rfl rfl
  | enriched present =>
      exact forall_insert sources fun other sourced =>
        (sources _ _ present other sourced).of_same rfl rfl rfl rfl rfl
  | ignored => exact sources

/-- The candidates keep a source of their own market. -/
theorem DecisionChange.sources {db next : Database} {action : DatabaseAction}
    (change : DecisionChange db action next) (keeps : action.prunes = false)
    (facts : FactsKept db next)
    (sources : ∀ mint row, db.tokens.lookup mint = some row →
      ∀ workId, row.sourceWorkId = some workId → SourcedBy db row workId) :
    ∀ mint row, next.tokens.lookup mint = some row →
      ∀ workId, row.sourceWorkId = some workId → SourcedBy next row workId := by
  have before : ∀ mint row, db.tokens.lookup mint = some row →
      ∀ workId, row.sourceWorkId = some workId → SourcedBy next row workId :=
    fun mint row present workId sourced => (sources mint row present workId sourced).kept facts
  have kept : next.tokens = db.tokens → ∀ mint row, next.tokens.lookup mint = some row →
      ∀ workId, row.sourceWorkId = some workId → SourcedBy next row workId := by
    intro same
    rw [same]
    exact before
  cases change with
  | quiet same => exact kept same.tokens
  | bound => exact kept rfl
  | opened _ _ _ _ same => exact kept same.tokens
  | @observed _ workId _ candidate work _ _ _ _ _ owned source _ stored _ =>
      have market := (validateTokenSource_eq_ok source).1
      obtain ⟨-, present, ⟨fact, found, observed⟩, -⟩ := lockOwnedWork_eq_ok owned
      rw [observed] at market
      have named : SourcedBy next (discoveryTokenRow work.observation candidate.token 0 workId
          candidate.validationSource candidate.validationVersion) workId :=
        SourcedBy.kept ⟨work.row, fact, present, found, market⟩ facts
      exact stored.sources named before
  | @approved _ _ token _ _ row _ _ pass present _ identity tokens =>
      rw [tokens]
      obtain ⟨mint, venue, address, quote, program, -⟩ := mergeApproval_same identity pass
      obtain ⟨mint', venue', address', quote', program'⟩ :=
        validatePromotionIdentity_eq_ok.mp identity
      exact forall_insert before fun other sourced =>
        (before _ _ present other sourced).of_same (mint.trans mint'.symm)
          (venue.trans venue'.symm) (address.trans address'.symm) (quote.trans quote'.symm)
          (program.trans program'.symm)
  | finalized _ _ _ _ _ _ _ _ decision _ same =>
      have tokens := same.tokens
      cases decision with
      | withheld => exact kept tokens
      | applied _ _ present _ =>
          rw [tokens]
          dsimp only
          rw [Table.modify_of_lookup present]
          exact forall_insert before fun other sourced =>
            (before _ _ present other sourced).of_same rfl rfl rfl rfl rfl
  | pruned => cases keeps

/-- Pruning deletes an observation together with its work, its memberships and each reference. -/
theorem ReferencesInvariant.pruned {db next : Database} {policy : RetentionPolicy}
    {result : RetentionPruneResult} (invariant : ReferencesInvariant db)
    (counters : CountersInvariant next)
    (accepted : pruneRetainedHistory db policy = .ok (result, next)) :
    ReferencesInvariant next := by
  obtain ⟨events, rfl⟩ := pruneRetainedHistory_eq_ok accepted
  have observations : ∀ id row, id ∉ pruneCandidates db policy →
      db.observations.lookup id = some row →
      (deleteObservations db (pruneCandidates db policy)).observations.lookup id = some row :=
    fun id row spared present => Table.lookup_deleteWhere_eq_some.mpr
      ⟨present, decide_eq_false spared⟩
  refine ⟨counters, ?_, ?_⟩
  · intro windowId observationId member
    have kept : (windowId, observationId) ∈ db.memberPairs ∧
        observationId ∉ pruneCandidates db policy := by
      simp only [Database.memberPairs, deleteObservations, List.mem_map, List.mem_filter,
        decide_eq_true_iff, Prod.mk.injEq] at member ⊢
      obtain ⟨row, ⟨stored, spared⟩, rfl, rfl⟩ := member
      exact ⟨⟨row, stored, rfl, rfl⟩, spared⟩
    obtain ⟨window, row, present, stored, inside⟩ := invariant.members _ _ kept.1
    have windows : ∃ opening, (deleteObservations db (pruneCandidates db policy)).windows.lookup
        windowId = some (window.withOpening opening) := by
      unfold deleteObservations
      dsimp only
      rw [Table.lookup_modifyAll, present]
      dsimp only [Option.map_some]
      split
      · exact ⟨none, rfl⟩
      · exact ⟨window.openingObservationId, rfl⟩
    obtain ⟨opening, found⟩ := windows
    exact ⟨_, row, found, observations _ row kept.2 stored, inside⟩
  · intro mint row present workId sourced
    change AList.lookup mint (Table.modifyAll db.tokens _) = _ at present
    rw [Table.lookup_modifyAll] at present
    obtain ⟨before, found, rfl⟩ := Option.map_eq_some_iff.mp present
    split at sourced
    · cases sourced
    · rename_i spared
      rw [if_neg spared]
      obtain ⟨work, fact, working, stored, market⟩ := invariant.sources mint before found workId sourced
      have alive : work.observationId ∉ pruneCandidates db policy := by
        rw [sourced, Option.any_some, working, Option.any_some, decide_eq_true_iff] at spared
        exact spared
      exact ⟨work, fact, Table.lookup_deleteWhere_eq_some.mpr ⟨working, decide_eq_false alive⟩,
        observations _ fact alive stored, market⟩

theorem Transacted.references {isBase64 : String → Bool} {clamp : Int → Int} {db next : Database}
    {action : DatabaseAction} (committed : Transacted isBase64 clamp db action next)
    (invariant : ReferencesInvariant db) (counters : CountersInvariant next) :
    ReferencesInvariant next := by
  cases pruning : action.prunes with
  | true =>
      cases committed with
      | prunedHistory accepted => exact invariant.pruned counters accepted
      | _ => cases pruning
  | false =>
      have consistent := invariant.counters.tokens
      have facts := committed.factsKept consistent pruning
      have change := committed.decisionChange consistent
      have windows : ∀ windowId observationId, (windowId, observationId) ∈ db.memberPairs →
          db.windows.lookup windowId ≠ none := by
        intro windowId observationId member absent
        obtain ⟨window, -, present, -⟩ := invariant.members _ _ member
        rw [absent] at present
        cases present
      have before : ∀ windowId observationId, (windowId, observationId) ∈ db.memberPairs →
          ∃ window row, next.windows.lookup windowId = some window ∧
            next.observations.lookup observationId = some row ∧
            InMarket window.toWindowIdentityRow row.normalized := by
        intro windowId observationId member
        obtain ⟨window, row, present, stored, inside⟩ := invariant.members _ _ member
        obtain ⟨after, found, same⟩ := change.sameWindow present
        obtain ⟨later, kept, fact⟩ := facts.observation _ _ stored
        exact ⟨after, later, found, kept, (inside.sameWindow same).sameFact fact⟩
      refine ⟨counters, ?_, change.sources pruning facts invariant.sources⟩
      intro windowId observationId member
      cases committed.membersChanged consistent windows pruning with
      | same pairs =>
          rw [pairs] at member
          exact before _ _ member
      | joined fresh pairs present _ stored inside =>
          rw [pairs, List.mem_append, List.mem_singleton] at member
          rcases member with old | new
          · exact before _ _ old
          · cases new
            exact ⟨_, _, present, stored, inside⟩

theorem referencesInvariant_migrated : ReferencesInvariant Database.migrated where
  counters := countersInvariant_migrated
  members := fun _ _ member => by cases member
  sources := fun _ _ present => by cases present

theorem step_referencesInvariant (isBase64 : String → Bool) (db : Database)
    (action : DatabaseAction) (invariant : ReferencesInvariant db) :
    ReferencesInvariant (step isBase64 db action).2 := by
  have counters := step_countersInvariant isBase64 db action invariant.counters
  unfold step at counters ⊢
  rcases stepWith_cases isBase64 greatestZero db action with
    ⟨_, next, moved, committed⟩ | ⟨_, same⟩
  · rw [moved] at counters ⊢
    exact committed.references invariant counters
  · rw [same]
    exact invariant

theorem databaseAfter_references (isBase64 : String → Bool) (actions : List DatabaseAction) :
    ReferencesInvariant (databaseAfter isBase64 actions) :=
  Transition.invariant_run (step isBase64) ReferencesInvariant
    (step_referencesInvariant isBase64) referencesInvariant_migrated actions

/-- The source of a candidate that belongs to a window gives the candidate its market. -/
theorem ReferencesInvariant.projectionMatches {db : Database} (invariant : ReferencesInvariant db)
    {windowId : Int} {window : WindowRow} {mint : String} {row : TokenRow}
    (present : db.windows.lookup windowId = some window)
    (found : db.tokens.lookup mint = some row) (belongs : belongsToWindow db windowId row = true) :
    validateProjectionMatchesWindow row.token window.toWindowIdentityRow = .ok () := by
  unfold belongsToWindow at belongs
  obtain ⟨workId, sourced, belongs⟩ := (Option.any_eq_true _ _).mp belongs
  obtain ⟨work, working, belongs⟩ := (Option.any_eq_true _ _).mp belongs
  have member : (windowId, work.observationId) ∈ db.memberPairs := by
    simpa [Database.memberPairs] using belongs
  obtain ⟨work', fact, working', stored, market⟩ := invariant.sources mint row found workId sourced
  rw [working] at working'
  cases working'
  obtain ⟨window', fact', present', stored', inside⟩ := invariant.members _ _ member
  rw [present] at present'
  rw [stored] at stored'
  cases present'
  cases stored'
  simp only [tokenMatchesObservationMarket, Bool.and_eq_true, decide_eq_true_iff] at market
  obtain ⟨⟨⟨⟨mint, venue⟩, address⟩, quote⟩, program⟩ := market
  rw [validateProjectionMatchesWindow_eq_ok, mint, venue, address, quote, program]
  exact ⟨inside.mint.symm, inside.sourceProgram.symm, inside.venue.symm, inside.marketAddress.symm,
    inside.quoteMint.symm⟩

end Soldisco.Persistence

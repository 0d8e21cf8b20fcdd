import Soldisco.Construction.Persistence.Candidate
import Soldisco.Proof.Persistence.Finalization
import Soldisco.Proof.Persistence.Counters

/-
This file reduces a committed transaction to what it changes in windows, evidence and candidates.
-/

namespace Soldisco.Persistence
open Domain MachineInteger Accumulation

/-- Two states with the same network, windows, evidence and candidates. -/
structure SameDecisions (db next : Database) : Prop where
  boundNetwork : next.boundNetwork = db.boundNetwork
  windows : next.windows = db.windows
  snapshots : next.snapshots = db.snapshots
  assessments : next.assessments = db.assessments
  tokens : next.tokens = db.tokens

theorem SameDecisions.trans {first second third : Database} (left : SameDecisions first second)
    (right : SameDecisions second third) : SameDecisions first third where
  boundNetwork := right.boundNetwork.trans left.boundNetwork
  windows := right.windows.trans left.windows
  snapshots := right.snapshots.trans left.snapshots
  assessments := right.assessments.trans left.assessments
  tokens := right.tokens.trans left.tokens

/-- The reference of a window to its opening may be cleared. -/
def WindowRow.withOpening (row : WindowRow) (openingObservationId : Option Int) : WindowRow :=
  { row with openingObservationId }

/-- The reference of a candidate to its work may be cleared. -/
def TokenRow.withSource (row : TokenRow) (sourceWorkId : Option Int) : TokenRow :=
  { row with sourceWorkId }

/-- The ways in which a transaction changes windows, evidence and candidates. -/
inductive DecisionChange (db : Database) : DatabaseAction → Database → Prop
  | quiet {action : DatabaseAction} {next : Database} (same : SameDecisions db next) :
      DecisionChange db action next
  | bound {network : Network} (free : db.boundNetwork = none) :
      DecisionChange db (.bindNetwork network) { db with boundNetwork := some network }
  | opened {now : Int} {observation : Observation} {window : NewDiscoveryWindow}
      {observationId prefilterRevision qualificationRevision : Int} {next : Database}
      (bound : db.boundNetwork = some observation.key.network)
      (network : observation.key.network = observation.market.network)
      (bounds : window.openedAtUnixMs < window.closesAtUnixMs)
      (free : db.windows.lookup db.nextWindowId = none)
      (same : SameDecisions { db with windows := next.windows } next)
      (windows : next.windows = db.windows.insert db.nextWindowId (newWindowRow db.nextWindowId
        observationId prefilterRevision qualificationRevision observation window)) :
      DecisionChange db (.openDiscoveryWindow now observation window) next
  | observed {now workId : Int} {workerId : String} {candidate : DiscoveryObservation}
      {work : OwnedWork} {recorded : DiscoveryActivity} {projected : ProjectedToken}
      {next : Database}
      (shape : validateTokenShape candidate.token = .ok ())
      (stage : candidate.token.stage = .observed)
      (owned : lockOwnedWork now db workId workerId = .ok work)
      (source : validateTokenSource candidate.token work.observation = .ok ())
      (bound : db.boundNetwork = some work.observation.key.network)
      (stored : CandidateStored db.tokens workId candidate work.observation recorded projected
        next.tokens)
      (same : SameDecisions { db with tokens := next.tokens } next) :
      DecisionChange db (.commitDiscoveryObservation now workId workerId candidate) next
  | approved {now observedSlot : Int} {token : DiscoveryToken}
      {decisionSource decisionVersion : String} {row : TokenRow} {next : Database}
      (shape : validateTokenShape token = .ok ())
      (pass : isCompletePass token.qualification = true)
      (present : db.tokens.lookup token.mint = some row)
      (qualified : row.token.stage.isQualified = true)
      (identity : validatePromotionIdentity row.token token = .ok ())
      (tokens : next.tokens = db.tokens.insert token.mint (approveRow (mergeApproval row.token token)
        observedSlot decisionSource decisionVersion row))
      (same : SameDecisions { db with tokens := next.tokens } next) :
      DecisionChange db (.commitDiscoveryApproval now token decisionSource decisionVersion) next
  | finalized {now : Int} {payload : FinalizeDiscoveryWindow} {window : WindowRow}
      {canonicalWindow : DiscoveryWindowRecord} {delta : Int × Int} {applied next : Database}
      (valid : validateFinalization payload = .ok ())
      (present : db.windows.lookup payload.windowId = some window)
      (active : window.status = .active)
      (identity : validateFinalizationForWindow window.toWindowIdentityRow payload = .ok ())
      (record : window.intoRecord (loadWindowObservations db payload.windowId) = .ok canonicalWindow)
      (built : buildDiscoveryWindowFinalization canonicalWindow payload.finalizedAtUnixMs
        payload.completenessReason = .ok payload)
      (snapshotFree : db.snapshots.lookup payload.windowId = none)
      (assessmentFree : db.assessments.lookup payload.windowId = none)
      (decision : DecisionApplied (db.storeEvidence window.qualificationRevision payload)
        window.toWindowIdentityRow payload delta applied)
      (windows : next.windows = db.windows.modify payload.windowId (finalizeRow payload))
      (same : SameDecisions { applied with windows := next.windows } next) :
      DecisionChange db (.finalizeDiscoveryWindow now payload) next
  | pruned {policy : RetentionPolicy} {next : Database}
      (deletedWork : Option Int → Bool) (deletedOpening : Option Int → Bool)
      (windows : next.windows = db.windows.modifyAll fun _ row =>
        if deletedOpening row.openingObservationId then row.withOpening none else row)
      (tokens : next.tokens = db.tokens.modifyAll fun _ row =>
        if deletedWork row.sourceWorkId then row.withSource none else row)
      (same : SameDecisions { db with windows := next.windows, tokens := next.tokens } next) :
      DecisionChange db (.pruneRetainedHistory policy) next

theorem ObservationStored.sameDecisions {now : Int} {db next : Database}
    {observation : Observation} {inserted : ObservationInsert}
    (stored : ObservationStored now db observation inserted next) : SameDecisions db next := by
  cases stored <;> exact ⟨rfl, rfl, rfl, rfl, rfl⟩

theorem WorkQueued.sameDecisions {now : Int} {db next : Database} {observation : Observation}
    {inserted : ObservationInsert} (queued : WorkQueued now db observation inserted next) :
    SameDecisions db next := by
  cases queued <;> exact ⟨rfl, rfl, rfl, rfl, rfl⟩

theorem sameDecisions_insertMembership (db : Database)
    (windowId observationId admittedAtUnixMs : Int) :
    SameDecisions db (db.insertMembership windowId observationId admittedAtUnixMs) := by
  rw [Database.insertMembership_frame]
  exact ⟨rfl, rfl, rfl, rfl, rfl⟩

theorem Transacted.decisionChange {isBase64 : String → Bool} {clamp : Int → Int}
    {db next : Database} {action : DatabaseAction}
    (committed : Transacted isBase64 clamp db action next) (consistent : TokensConsistent db) :
    DecisionChange db action next := by
  cases committed with
  | bound free => exact .bound free
  | boundBefore => exact .quiet ⟨rfl, rfl, rfl, rfl, rfl⟩
  | addedRevision => exact .quiet ⟨rfl, rfl, rfl, rfl, rfl⟩
  | skippedSequences => exact .quiet ⟨rfl, rfl, rfl, rfl, rfl⟩
  | insertedObservation accepted =>
      obtain ⟨-, inserted, stored, storage, work⟩ := insertObservation_eq_ok accepted
      exact .quiet (storage.sameDecisions.trans work.sameDecisions)
  | @openedWindow now observation window opened _ accepted =>
      rcases openDiscoveryWindow_eq_ok accepted with
        ⟨-, rfl⟩ | ⟨-, bound, network, valid, -, free, inserted, stored, queued, prefilterRevision,
          qualificationRevision, storage, work, -, rfl⟩
      · exact .quiet ⟨rfl, rfl, rfl, rfl, rfl⟩
      · have before := storage.sameDecisions.trans work.sameDecisions
        have nextWindowId : queued.nextWindowId = db.nextWindowId := by
          rw [work.frame]
          dsimp only
          rw [storage.frame]
        have windows : (queued.openWindow now (newWindowRow db.nextWindowId inserted.id
            prefilterRevision qualificationRevision observation window) inserted.id
            window.qualification.revision).windows = db.windows.insert db.nextWindowId
              (newWindowRow db.nextWindowId inserted.id prefilterRevision qualificationRevision
                observation window) := by
          unfold Database.openWindow
          rw [Database.insertMembership_frame, nextWindowId, before.windows]
          rfl
        refine .opened bound network (validateNewWindow_eq_ok valid).1 free ?_ windows
        unfold Database.openWindow
        rw [Database.insertMembership_frame]
        exact ⟨before.boundNetwork, rfl, before.snapshots, before.assessments, before.tokens⟩
  | insertedMember accepted =>
      obtain ⟨-, window, inserted, stored, -, storage, branch⟩ :=
        insertWindowObservation_eq_ok accepted
      rcases branch with ⟨-, rfl⟩ | ⟨row, queued, -, -, work, rfl⟩
      · exact .quiet storage.sameDecisions
      · exact .quiet ((storage.sameDecisions.trans work.sameDecisions).trans
          (sameDecisions_insertMembership queued _ _ _))
  | claimedWork accepted =>
      obtain ⟨leaseMillis, rfl⟩ := claimObservationWork_eq_ok accepted
      exact .quiet ⟨rfl, rfl, rfl, rfl, rfl⟩
  | renewedLease accepted =>
      rw [renewObservationWorkLease_eq_ok accepted]
      exact .quiet ⟨rfl, rfl, rfl, rfl, rfl⟩
  | committedObservation accepted =>
      obtain ⟨shape, stage, work, recorded, projected, tokens, activity, traders, owned, -, source,
        bound, stored, -, rfl⟩ := commitDiscoveryObservation_eq_ok consistent accepted
      exact .observed shape stage owned source bound stored ⟨rfl, rfl, rfl, rfl, rfl⟩
  | committedApproval accepted =>
      obtain ⟨pass, shape, row, observedSlot, present, -, qualified, identity, rfl⟩ :=
        commitDiscoveryApproval_eq_ok accepted
      exact .approved shape pass present qualified identity rfl ⟨rfl, rfl, rfl, rfl, rfl⟩
  | committedRejection accepted =>
      obtain ⟨work, -, -, rfl⟩ := commitDiscoveryRejection_eq_ok accepted
      exact .quiet ⟨rfl, rfl, rfl, rfl, rfl⟩
  | releasedWork accepted =>
      obtain ⟨work, retryMillis, -, branch⟩ := retryOrFailObservationWork_eq_ok accepted
      rcases branch with ⟨-, -, rfl⟩ | ⟨-, -, -, rfl⟩ | ⟨-, -, -, rfl⟩ <;>
        exact .quiet ⟨rfl, rfl, rfl, rfl, rfl⟩
  | finalizedWindow accepted =>
      obtain ⟨valid, window, present, identity, branch⟩ := finalizeDiscoveryWindow_eq_ok accepted
      rcases branch with ⟨-, -, rfl, -⟩ | ⟨active, -, frozen, froze, publishing⟩
      · exact .quiet ⟨rfl, rfl, rfl, rfl, rfl⟩
      · obtain ⟨-, ⟨canonicalWindow, record, built⟩, snapshotFree, assessmentFree, rfl⟩ :=
          freezeEvidence_eq_ok froze
        obtain ⟨delta, applied, projectionApplied, decision, rfl⟩ :=
          publishDecision_eq_ok publishing
        have windows : applied.windows = db.windows := by
          rw [decision.frame]
          rfl
        refine .finalized valid present active identity record built snapshotFree assessmentFree
          decision ?_ ?_
        · unfold Database.finishWindow
          rw [summarizeDecision_frame, ← windows]
          rfl
        · unfold Database.finishWindow
          rw [summarizeDecision_frame]
          exact ⟨rfl, rfl, rfl, rfl, rfl⟩
  | prunedHistory accepted =>
      obtain ⟨events, rfl⟩ := pruneRetainedHistory_eq_ok accepted
      exact .pruned _ _ rfl rfl ⟨rfl, rfl, rfl, rfl, rfl⟩
  | rebuiltProjection accepted =>
      unfold rebuildDiscoveryProjection at accepted
      simp only [bind_eq_ok] at accepted
      obtain ⟨_, _, done⟩ := accepted
      cases done
      exact .quiet ⟨rfl, rfl, rfl, rfl, rfl⟩

/-- What holds of each row before and of the stored row holds of each row after. -/
theorem forall_insert {tokens : Table String TokenRow} {mint : String} {row : TokenRow}
    {property : TokenRow → Prop} (before : ∀ mint row, tokens.lookup mint = some row → property row)
    (stored : property row) :
    ∀ other found, (tokens.insert mint row).lookup other = some found → property found := by
  intro other found present
  by_cases same : other = mint
  · subst same
    rw [AList.lookup_insert] at present
    cases present
    exact stored
  · rw [AList.lookup_insert_ne same] at present
    exact before other found present

/-- The actions that write the table of candidates. -/
def DatabaseAction.writesTokens : DatabaseAction → Bool
  | .commitDiscoveryObservation _ _ _ _ | .commitDiscoveryApproval _ _ _ _
  | .finalizeDiscoveryWindow _ _ | .pruneRetainedHistory _ => true
  | _ => false

namespace DecisionChange

variable {db next : Database} {action : DatabaseAction}

theorem tokens_same (change : DecisionChange db action next)
    (keeps : action.writesTokens = false) : next.tokens = db.tokens := by
  cases change with
  | quiet same => exact same.tokens
  | bound => rfl
  | opened _ _ _ _ same => exact same.tokens
  | observed | approved | finalized | pruned => cases keeps

/-- A finalized window keeps everything but the reference to its opening. -/
theorem finalized_window (change : DecisionChange db action next) {id : Int} {window : WindowRow}
    (present : db.windows.lookup id = some window) (finalized : window.status = .finalized) :
    ∃ opening, next.windows.lookup id = some (window.withOpening opening) := by
  have kept : ∀ windows, windows = db.windows →
      ∃ opening, AList.lookup id windows = some (window.withOpening opening) := by
    rintro _ rfl
    exact ⟨window.openingObservationId, present⟩
  cases change with
  | quiet same => exact kept _ same.windows
  | bound => exact kept _ rfl
  | opened _ _ _ free _ windows =>
      have other : id ≠ db.nextWindowId := by
        rintro rfl
        rw [free] at present
        cases present
      rw [windows, AList.lookup_insert_ne other]
      exact kept _ rfl
  | observed _ _ _ _ _ _ same => exact kept _ same.windows
  | approved _ _ _ _ _ _ same => exact kept _ same.windows
  | @finalized _ payload running _ _ _ _ _ runningPresent active _ _ _ _ _ _ windows =>
      have other : id ≠ payload.windowId := by
        rintro rfl
        rw [present] at runningPresent
        cases runningPresent
        rw [finalized] at active
        cases active
      rw [windows, Table.lookup_modify, if_neg other]
      exact kept _ rfl
  | pruned _ _ windows =>
      rw [windows, Table.lookup_modifyAll, present]
      dsimp only [Option.map_some]
      split
      · exact ⟨none, rfl⟩
      · exact ⟨window.openingObservationId, rfl⟩

/-- A stored assessment stays. -/
theorem assessment (change : DecisionChange db action next) {id : Int} {row : AssessmentRow}
    (present : db.assessments.lookup id = some row) : next.assessments.lookup id = some row := by
  cases change with
  | quiet same => rw [same.assessments, present]
  | bound => exact present
  | opened _ _ _ _ same => rw [same.assessments, present]
  | observed _ _ _ _ _ _ same => rw [same.assessments, present]
  | approved _ _ _ _ _ _ same => rw [same.assessments, present]
  | @finalized _ payload window _ _ _ _ _ _ _ _ _ _ _ free decision _ same =>
      have other : id ≠ payload.windowId := by
        rintro rfl
        rw [free] at present
        cases present
      have frame := decision.frame
      rw [same.assessments]
      change AList.lookup id _ = _
      rw [frame]
      exact (AList.lookup_insert_ne other).trans present
  | pruned _ _ _ _ same => rw [same.assessments, present]

/-- A bound network stays. -/
theorem boundNetwork (change : DecisionChange db action next) {network : Network}
    (bound : db.boundNetwork = some network) : next.boundNetwork = some network := by
  cases change with
  | quiet same => rw [same.boundNetwork, bound]
  | bound free =>
      rw [free] at bound
      cases bound
  | opened _ _ _ _ same => rw [same.boundNetwork, bound]
  | observed _ _ _ _ _ _ same => rw [same.boundNetwork, bound]
  | approved _ _ _ _ _ _ same => rw [same.boundNetwork, bound]
  | finalized _ _ _ _ _ _ _ _ decision _ same =>
      rw [same.boundNetwork]
      dsimp only
      rw [decision.frame]
      exact bound
  | pruned _ _ _ _ same => rw [same.boundNetwork, bound]

/-- A window is new and active, has just been finalized, or was there before. -/
theorem window_origin (change : DecisionChange db action next) {id : Int} {window : WindowRow}
    (present : next.windows.lookup id = some window) :
    (∃ observationId prefilterRevision qualificationRevision observation opened,
        db.boundNetwork = some observation.key.network ∧
        observation.key.network = observation.market.network ∧
        opened.openedAtUnixMs < opened.closesAtUnixMs ∧
        window = newWindowRow id observationId prefilterRevision qualificationRevision observation
          opened) ∨
      (∃ before payload, db.windows.lookup id = some before ∧ before.status = .active ∧
        window = finalizeRow payload before) ∨
      ∃ before opening, db.windows.lookup id = some before ∧ window = before.withOpening opening := by
  have kept : ∀ windows, windows = db.windows → AList.lookup id windows = some window →
      ∃ before opening, db.windows.lookup id = some before ∧
        window = before.withOpening opening := by
    rintro _ rfl found
    exact ⟨window, window.openingObservationId, found, rfl⟩
  cases change with
  | quiet same => exact .inr (.inr (kept _ same.windows present))
  | bound => exact .inr (.inr (kept _ rfl present))
  | @opened _ observation opening _ _ _ _ bound network bounds free _ windows =>
      rw [windows] at present
      by_cases created : id = db.nextWindowId
      · subst created
        rw [AList.lookup_insert] at present
        cases present
        exact .inl ⟨_, _, _, observation, opening, bound, network, bounds, rfl⟩
      · rw [AList.lookup_insert_ne created] at present
        exact .inr (.inr (kept _ rfl present))
  | observed _ _ _ _ _ _ same => exact .inr (.inr (kept _ same.windows present))
  | approved _ _ _ _ _ _ same => exact .inr (.inr (kept _ same.windows present))
  | @finalized _ payload running _ _ _ _ _ runningPresent active _ _ _ _ _ _ windows =>
      rw [windows, Table.lookup_modify] at present
      split at present
      · rename_i same
        subst same
        rw [runningPresent] at present
        cases present
        exact .inr (.inl ⟨running, payload, runningPresent, active, rfl⟩)
      · exact .inr (.inr (kept _ rfl present))
  | pruned _ _ windows =>
      rw [windows, Table.lookup_modifyAll] at present
      obtain ⟨before, found, rfl⟩ := Option.map_eq_some_iff.mp present
      refine .inr (.inr ⟨before, ?_⟩)
      split
      · exact ⟨none, found, rfl⟩
      · exact ⟨before.openingObservationId, found, rfl⟩

end DecisionChange

def launchMarket : MarketIdentity where
  network := .solanaMainnet
  mint := "mint"
  venue := .pumpBondingCurve
  marketAddress := "curve"
  quoteMint := some Qualification.wrappedSolMint

def launchFact (signature eventKind : String) (slot : Nat) (receivedTimeUnixMs : Int)
    (payload : ObservationPayload) : Observation where
  key := {
    network := .solanaMainnet
    program := .pump
    coordinate := {
      slot
      transactionIndex := none
      signature
      instructionIndex := 0
      eventIndex := 0 } }
  market := launchMarket
  sourceEventTimeUnixMs := none
  receivedTimeUnixMs
  payload
  commitment := .confirmed
  schemaVersion := 1
  decoderVersion := "decoder-v1"
  eventKind
  rawEvidenceHash := "hash"
  sourceEvidenceBase64 := "ZXZpZGVuY2U="
  sourceDetails := "null"

def launchCreation : Observation :=
  launchFact "creation" "CREATE" 7 100 (.tokenCreated "Name" "SYM" "uri" "creator" "user")

def launchTrade (receivedTimeUnixMs : Int) : Observation :=
  launchFact "trade" "TRADE" 8 receivedTimeUnixMs (.trade .buy "wallet" 5 6 none none)

/-- One trade qualifies the market. -/
def launchQualification : StoredQualificationDefaults where
  values := {
    minimumTrades := 1
    minimumUniqueTraders := 1
    minimumBuys := 0
    minimumSells := 0
    minimumNativeQuoteVolumeUnits := 0
    minimumStableQuoteVolumeUnits := 0
    maximumSingleWalletQuoteShareBps := 10000 }
  revision := 1

def launchWindow : NewDiscoveryWindow where
  targetKind := .pumpMint
  targetAddress := "mint"
  openedAtUnixMs := 100
  closesAtUnixMs := 200
  collectorRunId := "run"
  prefilterRevision := 1
  prefilterValues := samplePrefilter
  qualification := launchQualification

/-- A creation opens a window, a trade joins it, and a worker commits both. -/
def launchActions : List DatabaseAction := [
  .bindNetwork .solanaMainnet,
  .addQualificationRevision 1,
  .openDiscoveryWindow 100 launchCreation launchWindow,
  .insertWindowObservation 150 1 (launchTrade 150),
  .claimObservationWork 160 "DISCOVERY" "worker" 10 1000000000,
  .commitDiscoveryObservation 170 1 "worker" (discoveryCandidate launchCreation),
  .commitDiscoveryObservation 180 2 "worker" (discoveryCandidate (launchTrade 150))]

/-- The canonical finalization of a loaded window. -/
def finalizeLoaded (db : Database) (windowId finalizedAtUnixMs : Int) (reason : Option String) :
    List DatabaseAction :=
  match (loadDiscoveryWindow db windowId).bind fun window =>
      buildDiscoveryWindowFinalization window finalizedAtUnixMs reason with
  | .ok payload => [.finalizeDiscoveryWindow finalizedAtUnixMs payload]
  | .error _ => []

/-- The window of the launch passes after it has closed. -/
def launchPassed : List DatabaseAction :=
  launchActions ++
    finalizeLoaded (databaseAfter (fun _ => true) launchActions) 1 300 none

end Soldisco.Persistence

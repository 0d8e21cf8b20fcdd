import Soldisco.Proof.Persistence.Decisions
import Soldisco.Proof.Persistence.Token

/-
This file proves where the qualification of a stored candidate comes from.
-/

namespace Soldisco.Persistence
open Domain MachineInteger Accumulation

/-- The qualification of a candidate is the stored summary of a finalized window of its market
that passed with complete evidence. -/
def HasProvenance (db : Database) (network : Network) (token : DiscoveryToken) : Prop :=
  ∃ windowId window assessment, db.windows.lookup windowId = some window ∧
    db.assessments.lookup windowId = some assessment ∧ window.status = .finalized ∧
    window.completeness = some .complete ∧ assessment.decision = .pass ∧
    token.qualification = some assessment.summary ∧ window.sourceProgram = token.sourceProgram ∧
    window.market = {
      network
      mint := token.mint
      venue := token.primaryVenue
      marketAddress := token.marketAddress
      quoteMint := token.quoteMint }

/-- An approval repeats the stored qualification or the stored summary of another window. -/
def approvesStored (db : Database) : DatabaseAction → Prop
  | .commitDiscoveryApproval _ token _ _ => ∀ row, db.tokens.lookup token.mint = some row →
      token.qualification = row.token.qualification ∨ HasProvenance db row.network token
  | _ => True

/-- A candidate of the bound network with a proven qualification. -/
structure ProvenRow (db : Database) (row : TokenRow) : Prop where
  network : db.boundNetwork = some row.network
  quoteMint : row.token.quoteMint ≠ some ""
  provenance : row.stage.isQualified = true → HasProvenance db row.network row.token

structure ProvenanceInvariant (db : Database) : Prop where
  counters : CountersInvariant db
  windows : ∀ id window, db.windows.lookup id = some window →
    db.boundNetwork = some window.network
  rows : ∀ mint row, db.tokens.lookup mint = some row → ProvenRow db row

theorem DecisionChange.hasProvenance {db next : Database} {action : DatabaseAction}
    (change : DecisionChange db action next) {network : Network} {token : DiscoveryToken}
    (proven : HasProvenance db network token) : HasProvenance next network token := by
  obtain ⟨windowId, window, assessment, present, assessed, finalized, rest⟩ := proven
  obtain ⟨opening, kept⟩ := change.finalized_window present finalized
  exact ⟨windowId, window.withOpening opening, assessment, kept, change.assessment assessed,
    finalized, rest⟩

/-- The provenance reads the market and the qualification of the document. -/
theorem HasProvenance.of_same {db : Database} {network : Network} {token other : DiscoveryToken}
    (proven : HasProvenance db network token) (qualification : other.qualification = token.qualification)
    (mint : other.mint = token.mint) (venue : other.primaryVenue = token.primaryVenue)
    (address : other.marketAddress = token.marketAddress) (quote : other.quoteMint = token.quoteMint)
    (program : other.sourceProgram = token.sourceProgram) : HasProvenance db network other := by
  unfold HasProvenance at proven ⊢
  rw [qualification, mint, venue, address, quote, program]
  exact proven

/-- A payload that passes was built from complete evidence. -/
theorem buildDiscoveryWindowFinalization_pass {window : DiscoveryWindowRecord}
    {finalizedAtUnixMs : Int} {reason : Option String} {finalized : FinalizeDiscoveryWindow}
    (built : buildDiscoveryWindowFinalization window finalizedAtUnixMs reason = .ok finalized)
    (pass : finalized.decision = .pass) : finalized.completeness = .complete := by
  obtain ⟨snapshot, assessment, summary, -, evaluated, -, rfl⟩ :=
    buildDiscoveryWindowFinalization_eq_ok built
  change windowCompleteness snapshot = .complete
  unfold windowCompleteness
  cases complete : snapshot.completeness.isComplete with
  | true => rfl
  | false =>
      obtain ⟨_, valid, -⟩ := bind_eq_ok.mp evaluated
      rw [Qualification.evaluateQualification_incomplete valid complete] at evaluated
      cases evaluated
      cases pass

theorem provenanceInvariant_migrated : ProvenanceInvariant Database.migrated where
  counters := countersInvariant_migrated
  windows := fun _ _ present => by cases present
  rows := fun _ _ present => by cases present

/-- A candidate of an accepted shape has no empty quote mint. -/
theorem validateTokenShape_quoteMint {token : DiscoveryToken}
    (shape : validateTokenShape token = .ok ()) : token.quoteMint ≠ some "" := by
  intro empty
  have visible := (validateTokenShape_eq_ok.mp shape).quoteMint
  rw [empty] at visible
  cases visible

theorem DecisionChange.provenRow {db next : Database} {action : DatabaseAction}
    (change : DecisionChange db action next) {row : TokenRow} (proven : ProvenRow db row) :
    ProvenRow next row where
  network := change.boundNetwork proven.network
  quoteMint := proven.quoteMint
  provenance := fun qualified => change.hasProvenance (proven.provenance qualified)

/-- The windows stay in the bound network. -/
theorem DecisionChange.windowNetwork {db next : Database} {action : DatabaseAction}
    (change : DecisionChange db action next)
    (windows : ∀ id window, db.windows.lookup id = some window →
      db.boundNetwork = some window.network) :
    ∀ id window, next.windows.lookup id = some window →
      next.boundNetwork = some window.network := by
  intro id window present
  apply change.boundNetwork
  rcases change.window_origin present with
    ⟨_, _, _, observation, _, bound, _, _, rfl⟩ | ⟨before, payload, found, _, rfl⟩ |
    ⟨before, opening, found, rfl⟩
  · exact bound
  · exact windows id before found
  · exact windows id before found

/-- An observation keeps a proven decision on the same market and drops it otherwise. -/
theorem CandidateStored.provenRow {db next : Database} {workId : Int}
    {candidate : DiscoveryObservation} {observation : Observation} {recorded : DiscoveryActivity}
    {projected : ProjectedToken} {tokens : Table String TokenRow}
    (stored : CandidateStored db.tokens workId candidate observation recorded projected tokens)
    (shape : validateTokenShape candidate.token = .ok ())
    (stage : candidate.token.stage = .observed)
    (bound : next.boundNetwork = some observation.key.network)
    (consistent : TokensConsistent db)
    (rows : ∀ mint row, db.tokens.lookup mint = some row → ProvenRow next row) :
    ∀ mint row, tokens.lookup mint = some row → ProvenRow next row := by
  have quote := validateTokenShape_quoteMint shape
  cases stored with
  | inserted absent observedSlot =>
      refine forall_insert rows ⟨bound, quote, fun qualified => ?_⟩
      change candidate.token.stage.isQualified = true at qualified
      rw [stage] at qualified
      cases qualified
  | @replaced row present newer mutation observedSlot activity =>
      have before := rows _ _ present
      obtain ⟨mint, same⟩ := consistent _ _ present
      refine forall_insert rows ⟨bound, quote, fun qualified => ?_⟩
      change (mergeObservation row.token candidate.token).stage.isQualified = true at qualified
      by_cases preserved : (row.token.stage.isQualified && sameMarket row.token candidate.token) = true
      · rw [Bool.and_eq_true] at preserved
        have market := preserved.2
        unfold sameMarket at market
        simp only [Bool.and_eq_true, decide_eq_true_iff] at market
        obtain ⟨⟨⟨venue, address⟩, quoteMint⟩, program⟩ := market
        have network : observation.key.network = row.network := by
          have networks := bound.symm.trans before.network
          injection networks
        have proven := before.provenance (by rw [same]; exact preserved.1)
        have decision : (mergeObservation row.token candidate.token).qualification =
            row.token.qualification := by
          unfold mergeObservation
          dsimp only
          rw [if_pos (by rw [preserved.1, preserved.2]; rfl)]
        change HasProvenance next observation.key.network _
        rw [network]
        exact proven.of_same decision mint.symm venue.symm address.symm quoteMint.symm program.symm
      · unfold mergeObservation at qualified
        dsimp only at qualified
        rw [if_neg preserved, stage] at qualified
        cases qualified
  | enriched present =>
      have before := rows _ _ present
      exact forall_insert rows ⟨before.network, before.quoteMint, fun qualified =>
        (before.provenance qualified).of_same rfl rfl rfl rfl rfl rfl⟩
  | ignored => exact rows

/-- The finalized window of a passed decision is the provenance of its candidate. -/
theorem finalized_hasProvenance {db next applied : Database} {payload : FinalizeDiscoveryWindow}
    {window : WindowRow} {canonicalWindow : DiscoveryWindowRecord} {delta : Int × Int}
    {row : TokenRow} (present : db.windows.lookup payload.windowId = some window)
    (built : buildDiscoveryWindowFinalization canonicalWindow payload.finalizedAtUnixMs
      payload.completenessReason = .ok payload)
    (pass : payload.decision = .pass)
    (decision : DecisionApplied (db.storeEvidence window.qualificationRevision payload)
      window.toWindowIdentityRow payload delta applied)
    (windows : next.windows = db.windows.modify payload.windowId (finalizeRow payload))
    (same : SameDecisions { applied with windows := next.windows } next)
    (identity : validateProjectionMatchesWindow row.token window.toWindowIdentityRow = .ok ())
    (quote : row.token.quoteMint ≠ some "") (network : window.network = row.network)
    (baseVolumeUnits quoteVolumeUnits : String) :
    HasProvenance next row.network
      (qualifyToken payload baseVolumeUnits quoteVolumeUnits row.token) := by
  obtain ⟨mint, program, venue, address, quoteMint⟩ :=
    validateProjectionMatchesWindow_eq_ok.mp identity
  have frame := decision.frame
  refine ⟨payload.windowId, finalizeRow payload window,
    AssessmentRow.mk window.qualificationRevision payload.decision payload.assessment
      payload.summary payload.rules, ?_, ?_, rfl, ?_, pass, rfl, program.symm, ?_⟩
  · rw [windows, Table.lookup_modify, if_pos rfl, present]
    rfl
  · rw [same.assessments]
    dsimp only
    rw [frame]
    exact AList.lookup_insert _
  · exact congrArg some (buildDiscoveryWindowFinalization_pass built pass)
  · change WindowIdentityRow.market window.toWindowIdentityRow = _
    unfold WindowIdentityRow.market
    rw [network, ← mint, ← venue, ← address, ← quoteMint]
    dsimp only [qualifyToken]
    congr 1
    cases stored : row.token.quoteMint with
    | none => rfl
    | some text =>
        have visible : text.isEmpty = false := by
          cases empty : text.isEmpty with
          | false => rfl
          | true =>
              rw [String.isEmpty_iff.mp empty] at stored
              exact absurd stored quote
        rw [Option.getD_some, visible]
        rfl

/-- Each transaction that approves stored qualifications keeps the provenance. -/
theorem DecisionChange.provenanceInvariant {db next : Database} {action : DatabaseAction}
    (change : DecisionChange db action next) (approves : approvesStored db action)
    (invariant : ProvenanceInvariant db) (counters : CountersInvariant next) :
    ProvenanceInvariant next where
  counters := counters
  windows := change.windowNetwork invariant.windows
  rows := by
    have rows : ∀ mint row, db.tokens.lookup mint = some row → ProvenRow next row :=
      fun mint row present => change.provenRow (invariant.rows mint row present)
    have kept : next.tokens = db.tokens →
        ∀ mint row, next.tokens.lookup mint = some row → ProvenRow next row := by
      intro same
      rw [same]
      exact rows
    have bounds := fun network => @DecisionChange.boundNetwork db next action change network
    have proofs := fun network token => @DecisionChange.hasProvenance db next action change network token
    cases change with
    | quiet same => exact kept same.tokens
    | bound => exact kept rfl
    | opened _ _ _ _ same => exact kept same.tokens
    | observed shape stage _ _ bound stored =>
        exact stored.provenRow shape stage (bounds _ bound) invariant.counters.tokens rows
    | @approved _ observedSlot token _ _ row _ shape pass present qualified identity tokens =>
        rw [tokens]
        have before := rows _ _ present
        obtain ⟨mint, venue, address, quote, program, decision⟩ := mergeApproval_same identity pass
        refine forall_insert rows ⟨before.network, ?_, fun _ => ?_⟩
        · change (mergeApproval row.token token).quoteMint ≠ some ""
          rw [quote]
          exact validateTokenShape_quoteMint shape
        · change HasProvenance next row.network (mergeApproval row.token token)
          obtain ⟨mint', venue', address', quote', program'⟩ :=
            validatePromotionIdentity_eq_ok.mp identity
          rcases approves row present with repeated | other
          · have stage := (invariant.counters.tokens _ _ present).2
            exact (before.provenance (by rw [stage]; exact qualified)).of_same
              (decision.trans repeated) (mint.trans mint'.symm) (venue.trans venue'.symm)
              (address.trans address'.symm) (quote.trans quote'.symm) (program.trans program'.symm)
          · exact (proofs _ _ other).of_same decision mint venue address quote program
    | @finalized _ payload window _ _ _ _ _ present _ _ _ built _ _ decision windows same =>
        have tokens := same.tokens
        have network := invariant.windows _ _ present
        cases published : decision with
        | withheld => exact kept tokens
        | @applied row baseVolumeUnits quoteVolumeUnits stored identity =>
            have before := invariant.rows _ _ stored
            rw [tokens]
            dsimp only
            rw [Table.modify_of_lookup stored]
            have after := rows _ _ stored
            refine forall_insert rows ⟨after.network, after.quoteMint, fun qualified => ?_⟩
            have pass : payload.decision = .pass := by
              by_contra failed
              change (if payload.decision = .pass then _ else DiscoveryStage.observed).isQualified =
                true at qualified
              rw [if_neg failed] at qualified
              cases qualified
            have networks : window.network = row.network := by
              have bound := network.symm.trans before.network
              injection bound
            exact finalized_hasProvenance present built pass decision windows same identity
              before.quoteMint networks baseVolumeUnits quoteVolumeUnits
    | pruned deletedWork _ _ tokens =>
        intro mint row present
        rw [tokens, Table.lookup_modifyAll] at present
        obtain ⟨before, found, rfl⟩ := Option.map_eq_some_iff.mp present
        have proven := rows mint before found
        split
        · exact ⟨proven.network, proven.quoteMint, proven.provenance⟩
        · exact proven

/-- In every run whose accepted approvals repeat stored qualifications, each qualified candidate
carries the stored summary of a finalized window of its market that passed with complete evidence. -/
theorem databaseAfter_hasProvenance (isBase64 : String → Bool) (actions : List DatabaseAction)
    (approvals : AcceptedAlong isBase64 approvesStored actions)
    (mint : String) (row : TokenRow)
    (present : (databaseAfter isBase64 actions).tokens.lookup mint = some row)
    (qualified : row.stage.isQualified = true) :
    HasProvenance (databaseAfter isBase64 actions) row.network row.token := by
  have invariant : ProvenanceInvariant (databaseAfter isBase64 actions) := by
    refine approvals.keeps provenanceInvariant_migrated fun db action before approves => ?_
    rcases stepWith_cases isBase64 greatestZero db action with
      ⟨_, next, moved, committed⟩ | ⟨_, same⟩
    · have counters := step_countersInvariant isBase64 db action before.counters
      unfold step at counters ⊢
      rw [moved] at counters ⊢
      exact (committed.decisionChange before.counters.tokens).provenanceInvariant approves before
        counters
    · unfold step
      rw [same]
      exact before
  exact (invariant.rows mint row present).provenance qualified

/-- The launched candidate as its approval submits it. -/
def launchApproval (trades : Nat) : DiscoveryToken :=
  { discoveryToken (launchTrade 150) with
    stage := .approved
    qualification := some {
      windowRevision := 1
      rulesetRevision := 1
      openedUnixMs := 100
      closedUnixMs := 200
      evaluatedUnixMs := 300
      decision := .pass
      completeness := .complete
      reasonCodes := ["MINIMUM_BUYS_MET", "MINIMUM_QUOTE_VOLUME_MET", "MINIMUM_SELLS_MET",
        "MINIMUM_TRADES_MET", "MINIMUM_UNIQUE_TRADERS_MET", "SUPPORTED_NATIVE_QUOTE_ASSET",
        "WALLET_CONCENTRATION_WITHIN_LIMIT", "WINDOW_COMPLETE"]
      trades
      buys := trades
      sells := 0
      uniqueTraders := 1
      uniqueBuyers := 1
      uniqueSellers := 0
      buyBaseVolumeUnits := "5"
      sellBaseVolumeUnits := "0"
      buyQuoteVolumeUnits := "6"
      sellQuoteVolumeUnits := "0"
      maximumSingleWalletQuoteShareBps := some 10000
      priceChangeBps := some 0
      firstBaseReserveUnits := none
      firstQuoteReserveUnits := none
      latestBaseReserveUnits := none
      latestQuoteReserveUnits := none } }

/-- The passed launch is approved with the given number of trades. -/
def launchApproved (trades : Nat) : List DatabaseAction :=
  launchPassed ++ [.commitDiscoveryApproval 400 (launchApproval trades) "source" "version"]

theorem approvesStored_launchPassed (db : Database) :
    ∀ action ∈ launchPassed, approvesStored db action := by
  intro action member
  rcases List.mem_append.mp member with launched | finalized
  · simp only [launchActions, List.mem_cons, List.not_mem_nil, or_false] at launched
    rcases launched with rfl | rfl | rfl | rfl | rfl | rfl | rfl <;> exact trivial
  · unfold finalizeLoaded at finalized
    split at finalized
    · rw [List.mem_singleton.mp finalized]
      exact trivial
    · cases finalized

/-- The approvals of the passed launch with the stored and with another number of trades. -/
theorem launchApproved_stored :
    ((databaseAfter (fun _ => true) launchPassed).tokens.lookup "mint").all
      (fun row => (launchApproval 1).qualification = row.token.qualification) = true ∧
    ((databaseAfter (fun _ => true) (launchApproved 1)).tokens.lookup "mint").any
      (fun row => row.stage = .approved) = true ∧
    ((databaseAfter (fun _ => true) (launchApproved 9)).tokens.lookup "mint").any
      (fun row => row.stage.isQualified &&
        !(databaseAfter (fun _ => true) (launchApproved 9)).assessments.any fun _ assessment =>
          row.token.qualification = some assessment.summary) = true := by
  decide +kernel

/-- An approval that repeats the stored qualification. -/
theorem databaseAfter_hasProvenance_launch :
    ∃ row, (databaseAfter (fun _ => true) (launchApproved 1)).tokens.lookup "mint" = some row ∧
      row.stage = .approved ∧
      HasProvenance (databaseAfter (fun _ => true) (launchApproved 1)) row.network row.token := by
  obtain ⟨same, approved, -⟩ := launchApproved_stored
  obtain ⟨row, present, stage⟩ := (Option.any_eq_true _ _).mp approved
  rw [decide_eq_true_iff] at stage
  refine ⟨row, present, stage, databaseAfter_hasProvenance (fun _ => true) (launchApproved 1) ?_
    "mint" row present (by rw [stage]; rfl)⟩
  refine Transition.along_whenAccepted _ ((Transition.along_append _).mpr
    ⟨Transition.along_of_forall _ fun db => approvesStored_launchPassed db, ?_, trivial⟩)
  intro stored found
  change (databaseAfter (fun _ => true) launchPassed).tokens.lookup "mint" = some stored at found
  rw [found] at same
  exact .inl (of_decide_eq_true same)

/-- An approval with its own number of trades is stored although no window has them. -/
theorem databaseAfter_without_provenance :
    ¬ ∀ (isBase64 : String → Bool) (actions : List DatabaseAction) (mint : String)
      (row : TokenRow), (databaseAfter isBase64 actions).tokens.lookup mint = some row →
      row.stage.isQualified = true →
      HasProvenance (databaseAfter isBase64 actions) row.network row.token := by
  intro always
  obtain ⟨-, -, approved⟩ := launchApproved_stored
  obtain ⟨row, present, forged⟩ := (Option.any_eq_true _ _).mp approved
  rw [Bool.and_eq_true, Bool.not_eq_true'] at forged
  obtain ⟨windowId, _, assessment, _, stored, _, _, _, same, _⟩ :=
    always _ _ _ row present forged.1
  have found : ((databaseAfter (fun _ => true) (launchApproved 9)).assessments.any
      fun _ assessment => row.token.qualification = some assessment.summary) = true :=
    Table.any_iff.mpr ⟨windowId, assessment, stored, decide_eq_true same⟩
  rw [forged.2] at found
  cases found

end Soldisco.Persistence

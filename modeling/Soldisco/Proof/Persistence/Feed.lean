import Soldisco.Proof.Persistence.Activity
import Soldisco.Proof.Persistence.Markets
import Soldisco.Proof.Persistence.Provenance

/-
This file proves that the stored candidates can be read as long as no window is finalized before it
opened.
-/

namespace Soldisco.Persistence
open Domain MachineInteger Accumulation

namespace TokenShape

variable {token : DiscoveryToken}

theorem activity (shape : TokenShape token) : ActivityShape token.activity :=
  ⟨shape.baseVolume, shape.quoteVolume, shape.trades, shape.traders⟩

theorem withActivity (shape : TokenShape token) {activity : DiscoveryActivity}
    (counted : ActivityShape activity) : TokenShape { token with activity } :=
  { shape with
    baseVolume := counted.baseVolume
    quoteVolume := counted.quoteVolume
    trades := counted.trades
    traders := counted.traders }

theorem withNames (shape : TokenShape token) {name symbol : Option String}
    (named : name.any Text.isBlank = false) (symbolized : symbol.any Text.isBlank = false) :
    TokenShape { token with name, symbol } :=
  { shape with
    name := named
    symbol := symbolized }

end TokenShape

theorem visible_orElse {first second : Option String} (left : first.any Text.isBlank = false)
    (right : second.any Text.isBlank = false) : (first <|> second).any Text.isBlank = false := by
  rcases orElse_cases first second with same | same
  · rw [same]
    exact left
  · rw [same]
    exact right

/-- A merged observation takes a decision of an accepted shape from one of its two sides. -/
theorem mergeObservation_shape {existing observed : DiscoveryToken} (before : TokenShape existing)
    (shape : TokenShape observed) : TokenShape (mergeObservation existing observed) where
  mint := shape.mint
  marketAddress := shape.marketAddress
  lastEventKind := shape.lastEventKind
  latestSignature := shape.latestSignature
  name := visible_orElse shape.name before.name
  symbol := visible_orElse shape.symbol before.symbol
  quoteMint := shape.quoteMint
  baseVolume := shape.baseVolume
  quoteVolume := shape.quoteVolume
  trades := shape.trades
  traders := shape.traders
  observed := le_trans (min_le_left _ _) (le_trans shape.observed (le_max_left _ _))
  venue := shape.venue
  qualification := by
    intro qualification present
    unfold mergeObservation at present
    dsimp only at present
    split at present
    · exact before.qualification qualification present
    · exact shape.qualification qualification present
  stage := by
    unfold mergeObservation
    dsimp only
    split
    · exact before.stage
    · exact shape.stage

/-- An approval submits a qualification of an accepted shape that passes. -/
theorem mergeApproval_shape {existing approved : DiscoveryToken} (before : TokenShape existing)
    (shape : TokenShape approved) (pass : isCompletePass approved.qualification = true) :
    TokenShape (mergeApproval existing approved) := by
  have submitted : (approved.qualification <|> existing.qualification) = approved.qualification := by
    cases present : approved.qualification with
    | some qualification => rfl
    | none =>
        rw [present] at pass
        cases pass
  unfold mergeApproval
  split
  · exact { before with
      qualification := by
        rw [submitted]
        exact shape.qualification
      stage := fun _ => by
        dsimp only
        rw [submitted]
        exact pass }
  · exact { shape with
      name := visible_orElse shape.name before.name
      symbol := visible_orElse shape.symbol before.symbol
      observed := le_trans (min_le_left _ _) shape.observed
      qualification := by
        rw [submitted]
        exact shape.qualification
      stage := fun _ => by
        dsimp only
        rw [submitted]
        exact pass }

/-- The summary of an accepted payload repeats its window and counts consistently. -/
theorem validateFinalizationForWindow_eq_ok {window : WindowIdentityRow}
    {finalized : FinalizeDiscoveryWindow} {done : Unit}
    (valid : validateFinalizationForWindow window finalized = .ok done) :
    finalized.summary.openedUnixMs = window.openedAtUnixMs ∧
      finalized.summary.closedUnixMs = window.closesAtUnixMs ∧
      finalized.summary.evaluatedUnixMs = finalized.finalizedAtUnixMs ∧
      finalized.summary.completeness = finalized.completeness ∧
      MachineInteger.checkedAdd u64Size finalized.summary.buys finalized.summary.sells =
        some finalized.summary.trades ∧
      finalized.summary.uniqueTraders ≤ finalized.summary.trades ∧
      finalized.summary.uniqueBuyers ≤ finalized.summary.buys ∧
      finalized.summary.uniqueSellers ≤ finalized.summary.sells ∧
      finalized.summary.maximumSingleWalletQuoteShareBps.any (· > 10000) = false := by
  unfold validateFinalizationForWindow at valid
  dsimp only at valid
  split at valid
  · cases valid
  · simp only [bind_eq_ok, throwUnless_eq_ok, not_or, not_not, not_lt, gt_iff_lt, ne_eq,
      Bool.not_eq_true] at valid
    obtain ⟨_, -, _, -, ⟨-, -, opened, closed, evaluated, completeness⟩,
      ⟨-, -, trades, traders, buyers, sellers, share⟩, -⟩ := valid
    exact ⟨opened, closed, evaluated, completeness, trades, traders, buyers, sellers, share⟩

theorem checkedDecimalSum_eq_ok {left right field sum : String}
    (summed : checkedDecimalSum left right field = .ok sum) : IsUnsignedDecimal sum := by
  unfold checkedDecimalSum at summed
  split at summed
  · split at summed
    · cases summed
      exact isUnsignedDecimal_toString _
    · cases summed
  · cases summed

/-- The summary of an accepted canonical payload has an accepted shape when the window had opened. -/
theorem finalized_qualificationShape {window : WindowIdentityRow}
    {canonicalWindow : DiscoveryWindowRecord} {finalized : FinalizeDiscoveryWindow}
    (identity : validateFinalizationForWindow window finalized = .ok ())
    (built : buildDiscoveryWindowFinalization canonicalWindow finalized.finalizedAtUnixMs
      finalized.completenessReason = .ok finalized)
    (bounds : window.openedAtUnixMs < window.closesAtUnixMs)
    (opened : window.openedAtUnixMs ≤ finalized.finalizedAtUnixMs) :
    QualificationShape finalized.summary := by
  obtain ⟨starts, closes, evaluated, -, trades, traders, buyers, sellers, share⟩ :=
    validateFinalizationForWindow_eq_ok identity
  obtain ⟨snapshot, assessment, summary, -, -, summarized, same⟩ :=
    buildDiscoveryWindowFinalization_eq_ok built
  have canonical : finalized.summary = summary := congrArg FinalizeDiscoveryWindow.summary same
  have volumes : IsUnsignedDecimal summary.buyBaseVolumeUnits ∧
      IsUnsignedDecimal summary.sellBaseVolumeUnits ∧
      IsUnsignedDecimal summary.buyQuoteVolumeUnits ∧
      IsUnsignedDecimal summary.sellQuoteVolumeUnits := by
    unfold canonicalDiscoverySummary at summarized
    split at summarized
    · cases summarized
    · cases summarized
      exact ⟨isUnsignedDecimal_toString _, isUnsignedDecimal_toString _,
        isUnsignedDecimal_toString _, isUnsignedDecimal_toString _⟩
  rw [← canonical] at volumes
  obtain ⟨buyBase, sellBase, buyQuote, sellQuote⟩ := volumes
  refine ⟨buyBase, sellBase, buyQuote, sellQuote, trades, traders, buyers, sellers, ?_, ?_, share⟩
  · rw [starts, closes]
    exact bounds
  · rw [starts, evaluated]
    exact opened

/-- The candidate takes the decision of its window in an accepted shape. -/
theorem qualifyToken_shape {token : DiscoveryToken} {finalized : FinalizeDiscoveryWindow}
    {baseVolumeUnits quoteVolumeUnits : String} (shape : TokenShape token)
    (summary : QualificationShape finalized.summary)
    (pass : finalized.decision = .pass → isCompletePass (some finalized.summary) = true)
    (base : IsUnsignedDecimal baseVolumeUnits) (quote : IsUnsignedDecimal quoteVolumeUnits) :
    TokenShape (qualifyToken finalized baseVolumeUnits quoteVolumeUnits token) :=
  { shape with
    baseVolume := base
    quoteVolume := quote
    trades := summary.trades
    traders := summary.traders
    qualification := by
      intro qualification present
      cases present
      exact summary
    stage := by
      intro qualified
      by_cases passed : finalized.decision = .pass
      · exact pass passed
      · unfold qualifyToken at qualified
        dsimp only at qualified
        rw [if_neg passed] at qualified
        cases qualified }

theorem finalized_isCompletePass {window : WindowIdentityRow}
    {canonicalWindow : DiscoveryWindowRecord} {finalized : FinalizeDiscoveryWindow}
    (identity : validateFinalizationForWindow window finalized = .ok ())
    (built : buildDiscoveryWindowFinalization canonicalWindow finalized.finalizedAtUnixMs
      finalized.completenessReason = .ok finalized)
    (pass : finalized.decision = .pass) : isCompletePass (some finalized.summary) = true := by
  obtain ⟨-, -, -, completeness, -⟩ := validateFinalizationForWindow_eq_ok identity
  have complete := buildDiscoveryWindowFinalization_pass built pass
  obtain ⟨snapshot, assessment, summary, -, -, summarized, same⟩ :=
    buildDiscoveryWindowFinalization_eq_ok built
  have canonical : finalized.summary = summary := congrArg FinalizeDiscoveryWindow.summary same
  have decided : finalized.decision = assessment.decision :=
    congrArg FinalizeDiscoveryWindow.decision same
  have decision : finalized.summary.decision = .pass := by
    rw [canonical, (canonicalDiscoverySummary_eq_ok summarized).2.2.2.2.2.2.1, ← decided, pass]
    rfl
  simp [isCompletePass, decision, completeness, complete]

/-- A finalization that reaches a candidate does not end before its window has opened. -/
def finalizesAfterOpening (db : Database) : DatabaseAction → Prop
  | .finalizeDiscoveryWindow _ payload => ∀ window,
      db.windows.lookup payload.windowId = some window → window.status = .active →
      (currentProjection db payload.windowId window.toWindowIdentityRow).isSome = true →
      window.openedAtUnixMs ≤ payload.finalizedAtUnixMs
  | _ => True

/-- The stored candidates have an accepted shape. -/
structure FeedInvariant (db : Database) : Prop where
  counters : CountersInvariant db
  activity : ActivitySound db.activity db.traders
  windows : ∀ id window, db.windows.lookup id = some window →
    window.openedAtUnixMs < window.closesAtUnixMs
  tokens : ∀ mint row, db.tokens.lookup mint = some row → TokenShape row.token

theorem feedInvariant_migrated : FeedInvariant Database.migrated where
  counters := countersInvariant_migrated
  activity := activitySound_empty
  windows := fun _ _ present => by cases present
  tokens := fun _ _ present => by cases present

theorem DecisionChange.windowBounds {db next : Database} {action : DatabaseAction}
    (change : DecisionChange db action next)
    (windows : ∀ id window, db.windows.lookup id = some window →
      window.openedAtUnixMs < window.closesAtUnixMs) :
    ∀ id window, next.windows.lookup id = some window →
      window.openedAtUnixMs < window.closesAtUnixMs := by
  intro id window present
  rcases change.window_origin present with
    ⟨_, _, _, _, opened, _, _, bounds, rfl⟩ | ⟨before, payload, found, _, rfl⟩ |
    ⟨before, opening, found, rfl⟩
  · exact bounds
  · exact windows id before found
  · exact windows id before found

theorem CandidateStored.tokenShape {before tokens : Table String TokenRow} {workId : Int}
    {candidate : DiscoveryObservation} {observation : Observation} {recorded : DiscoveryActivity}
    {projected : ProjectedToken}
    (stored : CandidateStored before workId candidate observation recorded projected tokens)
    (shape : TokenShape candidate.token) (counted : ActivityShape recorded)
    (shapes : ∀ mint row, before.lookup mint = some row → TokenShape row.token) :
    ∀ mint row, tokens.lookup mint = some row → TokenShape row.token := by
  cases stored with
  | inserted _ _ chosen =>
      refine @forall_insert before _ _ (fun row => TokenShape row.token) shapes ?_
      rcases chosen with rfl | rfl
      · exact shape
      · exact shape.withActivity counted
  | @replaced row present _ _ _ _ chosen =>
      have merged := mergeObservation_shape (shapes _ _ present) shape
      refine @forall_insert before _ _ (fun row => TokenShape row.token) shapes ?_
      rcases chosen with rfl | rfl
      · exact merged.withActivity shape.activity
      · exact merged.withActivity counted
  | @enriched row present _ _ name symbol _ named symbolized chosen =>
      have old := shapes _ _ present
      have visible : name.any Text.isBlank = false := by
        rcases named with rfl | rfl
        · exact old.name
        · exact shape.name
      have shown : symbol.any Text.isBlank = false := by
        rcases symbolized with rfl | rfl
        · exact old.symbol
        · exact shape.symbol
      have enriched := old.withNames visible shown
      refine @forall_insert before _ _ (fun row => TokenShape row.token) shapes ?_
      rcases chosen with rfl | rfl
      · exact enriched
      · exact enriched.withActivity counted
  | ignored => exact shapes

/-- Each writer stores a candidate that the reader accepts. -/
theorem Transacted.tokenShape {isBase64 : String → Bool} {clamp : Int → Int} {db next : Database}
    {action : DatabaseAction} (committed : Transacted isBase64 clamp db action next)
    (invariant : FeedInvariant db) (opened : finalizesAfterOpening db action) :
    ∀ mint row, next.tokens.lookup mint = some row → TokenShape row.token := by
  have consistent := invariant.counters.tokens
  have change := committed.decisionChange consistent
  cases committed with
  | committedObservation accepted =>
      obtain ⟨shape, -, work, recorded, projected, tokens, activity, traders, -, -, -, -, stored,
        record, rfl⟩ := commitDiscoveryObservation_eq_ok consistent accepted
      exact stored.tokenShape (validateTokenShape_eq_ok.mp shape)
        (record.sound invariant.activity).2 invariant.tokens
  | committedApproval accepted =>
      obtain ⟨pass, shape, row, observedSlot, present, -, -, -, rfl⟩ :=
        commitDiscoveryApproval_eq_ok accepted
      exact @forall_insert db.tokens _ _ (fun row => TokenShape row.token) invariant.tokens
        (mergeApproval_shape (invariant.tokens _ _ present) (validateTokenShape_eq_ok.mp shape)
          pass)
  | @finalizedWindow now payload changed _ accepted =>
      rcases finalizeDiscoveryWindow_tokens accepted with
        same | ⟨changes, window, row, baseVolumeUnits, quoteVolumeUnits, present, current, base,
          quote, tokens⟩
      · rw [same]
        exact invariant.tokens
      · obtain ⟨-, stored, found, identity, branch⟩ := finalizeDiscoveryWindow_eq_ok accepted
        rw [present] at found
        cases found
        rcases branch with ⟨-, kept, -⟩ | ⟨active, -, frozen, froze, -⟩
        · rw [changes] at kept
          cases kept
        · obtain ⟨-, ⟨canonicalWindow, -, built⟩, -⟩ := freezeEvidence_eq_ok froze
          have late := opened window present active (by rw [current]; rfl)
          have summary := finalized_qualificationShape identity built
            (invariant.windows _ _ present) late
          unfold currentProjection at current
          have shape := invariant.tokens _ _ (Option.filter_eq_some_iff.mp current).1
          rw [tokens]
          exact @forall_insert db.tokens _ _ (fun row => TokenShape row.token) invariant.tokens
            (qualifyToken_shape shape summary (finalized_isCompletePass identity built)
              (checkedDecimalSum_eq_ok base) (checkedDecimalSum_eq_ok quote))
  | prunedHistory accepted =>
      obtain ⟨events, rfl⟩ := pruneRetainedHistory_eq_ok accepted
      intro mint row present
      change AList.lookup mint (Table.modifyAll db.tokens _) = _ at present
      rw [Table.lookup_modifyAll] at present
      obtain ⟨before, found, rfl⟩ := Option.map_eq_some_iff.mp present
      have shape := invariant.tokens mint before found
      split <;> exact shape
  | _ =>
      rw [change.tokens_same rfl]
      exact invariant.tokens

theorem step_feedInvariant (isBase64 : String → Bool) (db : Database) (action : DatabaseAction)
    (invariant : FeedInvariant db) (opened : finalizesAfterOpening db action) :
    FeedInvariant (step isBase64 db action).2 := by
  have counters := step_countersInvariant isBase64 db action invariant.counters
  unfold step at counters ⊢
  rcases stepWith_cases isBase64 greatestZero db action with
    ⟨_, next, moved, committed⟩ | ⟨_, same⟩
  · rw [moved] at counters ⊢
    have consistent := invariant.counters.tokens
    exact ⟨counters, (committed.activityChange consistent).sound invariant.activity,
      (committed.decisionChange consistent).windowBounds invariant.windows,
      committed.tokenShape invariant opened⟩
  · rw [same]
    exact invariant

/-- A list is loaded when each of its items is read. -/
theorem mapM_ok {Item Result : Type} {read : Item → Except PersistenceError Result}
    (items : List Item) (readable : ∀ item ∈ items, ∃ result, read item = .ok result) :
    ∃ results, items.mapM read = .ok results := by
  induction items with
  | nil => exact ⟨[], rfl⟩
  | cons item rest ih =>
      obtain ⟨result, first⟩ := readable item List.mem_cons_self
      obtain ⟨results, others⟩ := ih fun later member =>
        readable later (List.mem_cons_of_mem _ member)
      refine ⟨result :: results, ?_⟩
      rw [List.mapM_cons, first, others]
      rfl

/-- Readable rows of consistent stages make up a snapshot. -/
theorem loadDiscoveryTokens_ok {db : Database} (consistent : TokensConsistent db)
    (shapes : ∀ mint row, db.tokens.lookup mint = some row → TokenShape row.token)
    (mode : DiscoveryMode) {limit : Nat} (positive : limit ≠ 0)
    (bounded : limit ≤ maxDiscoverySnapshotLimit) :
    ∃ tokens, loadDiscoveryTokens db mode limit = .ok tokens := by
  have readable : ∀ entry ∈ db.tokens.entries.filter fun entry => isVisible mode entry.2.stage,
      ∃ token, readDiscoveryToken mode entry.2.token = .ok token := by
    intro entry member
    obtain ⟨stored, shown⟩ := List.mem_filter.mp member
    have present := AList.mem_lookup_iff.mpr stored
    have shape : validateTokenShape entry.2.token = .ok () :=
      validateTokenShape_eq_ok.mpr (shapes _ _ present)
    rw [(consistent _ _ present).2] at shown
    refine ⟨entry.2.token, ?_⟩
    unfold readDiscoveryToken
    simp only [bind_eq_ok, require_eq_ok, exists_const]
    exact ⟨(), shape, shown, rfl⟩
  unfold loadDiscoveryTokens
  simp only [bind_eq_ok, require_eq_ok, exists_const]
  refine Exists.imp (fun tokens read => ⟨positive, bounded, read⟩) (mapM_ok _ ?_)
  intro entry member
  have sorted := List.mem_of_mem_take member
  rw [List.mem_insertionSort] at sorted
  exact readable entry sorted

/-- In every run whose accepted finalizations do not end before their window has opened, the reader
accepts each stored candidate and loads every snapshot. -/
theorem databaseAfter_loadable (isBase64 : String → Bool) (actions : List DatabaseAction)
    (opened : AcceptedAlong isBase64 finalizesAfterOpening actions) :
    (∀ mint row, (databaseAfter isBase64 actions).tokens.lookup mint = some row →
      validateTokenShape row.token = .ok ()) ∧
    ∀ mode limit, limit ≠ 0 → limit ≤ maxDiscoverySnapshotLimit →
      ∃ tokens, loadDiscoveryTokens (databaseAfter isBase64 actions) mode limit = .ok tokens := by
  have invariant : FeedInvariant (databaseAfter isBase64 actions) :=
    opened.keeps feedInvariant_migrated fun db action before late =>
      step_feedInvariant isBase64 db action before late
  constructor
  · intro mint row present
    exact validateTokenShape_eq_ok.mpr (invariant.tokens mint row present)
  · intro mode limit positive bounded
    exact loadDiscoveryTokens_ok invariant.counters.tokens invariant.tokens mode positive bounded

/-- A canonical payload keeps the time of its request. -/
theorem finalizeLoaded_along {isBase64 : String → Bool} {db : Database}
    {windowId finalizedAtUnixMs : Int} {reason : Option String}
    (opened : ∀ id window, db.windows.lookup id = some window →
      window.openedAtUnixMs ≤ finalizedAtUnixMs) :
    Transition.Along (step isBase64) finalizesAfterOpening db
      (finalizeLoaded db windowId finalizedAtUnixMs reason) := by
  unfold finalizeLoaded
  split
  · rename_i payload finalizable
    obtain ⟨window, -, built⟩ := bind_eq_ok.mp finalizable
    obtain ⟨snapshot, assessment, summary, -, -, -, rfl⟩ :=
      buildDiscoveryWindowFinalization_eq_ok built
    exact ⟨fun window present _ _ => opened _ window present, trivial⟩
  · exact trivial

theorem launchPassed_along : AcceptedAlong (fun _ => true) finalizesAfterOpening launchPassed := by
  refine Transition.along_whenAccepted _
    ((Transition.along_append _).mpr ⟨?_, finalizeLoaded_along ?_⟩)
  · refine ⟨trivial, trivial, trivial, trivial, trivial, trivial, trivial, trivial⟩
  · intro id window present
    have early : ((databaseAfter (fun _ => true) launchActions).windows.entries.all fun entry =>
        decide (entry.2.openedAtUnixMs ≤ 300)) = true := by decide
    exact of_decide_eq_true (List.all_eq_true.mp early ⟨id, window⟩ (AList.mem_lookup_iff.mp present))

/-- The launched candidate stays readable when its window passes. -/
theorem databaseAfter_loadable_launch :
    ∃ tokens, loadDiscoveryTokens (databaseAfter (fun _ => true) launchPassed) .qualifiedOnly 100 =
      .ok tokens :=
  (databaseAfter_loadable (fun _ => true) launchPassed launchPassed_along).2 .qualifiedOnly 100
    (by decide) (by decide)

/-- The window of the launch is given up at a time before it opened. -/
def launchGivenUp : List DatabaseAction :=
  launchActions ++
    finalizeLoaded (databaseAfter (fun _ => true) launchActions) 1 50 (some "RESTARTED")

/-- The candidate of a window that ended before it opened cannot be read again. -/
theorem databaseAfter_unreadable :
    ¬ ∀ (isBase64 : String → Bool) (actions : List DatabaseAction) (mint : String)
      (row : TokenRow), (databaseAfter isBase64 actions).tokens.lookup mint = some row →
      validateTokenShape row.token = .ok () := by
  intro always
  have unreadable : ((databaseAfter (fun _ => true) launchGivenUp).tokens.lookup "mint").any
      (fun row => !(validateTokenShape row.token).isOk) = true := by decide +kernel
  obtain ⟨row, present, refused⟩ := (Option.any_eq_true _ _).mp unreadable
  rw [always _ _ _ row present] at refused
  cases refused

end Soldisco.Persistence

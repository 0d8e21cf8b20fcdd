import Soldisco.Construction.Web.Parsers
import Soldisco.Proof.Persistence.Finalization

/-
This file proves when the browser accepts the summary of a finalized window.
-/

namespace Soldisco.Web
open Domain MachineInteger Snapshot Qualification
open Persistence (DiscoveryWindowRecord QualificationDecision WindowCompleteness
  canonicalDiscoverySummary)

variable {path : String}

/-- The values of a summary as the numbers and texts of the browser. -/
def contractOf (summary : Persistence.DiscoveryWindowSummary) : DiscoveryWindowSummary where
  windowRevision := summary.windowRevision
  rulesetRevision := summary.rulesetRevision
  openedUnixMs := summary.openedUnixMs
  closedUnixMs := summary.closedUnixMs
  evaluatedUnixMs := summary.evaluatedUnixMs
  decision := summary.decision
  completeness := summary.completeness
  reasonCodes := summary.reasonCodes
  trades := summary.trades
  buys := summary.buys
  sells := summary.sells
  uniqueTraders := summary.uniqueTraders
  uniqueBuyers := summary.uniqueBuyers
  uniqueSellers := summary.uniqueSellers
  buyBaseVolumeUnits := summary.buyBaseVolumeUnits
  sellBaseVolumeUnits := summary.sellBaseVolumeUnits
  buyQuoteVolumeUnits := summary.buyQuoteVolumeUnits
  sellQuoteVolumeUnits := summary.sellQuoteVolumeUnits
  maximumSingleWalletQuoteShareBps :=
    summary.maximumSingleWalletQuoteShareBps.map fun share : Nat => (share : Int)
  priceChangeBps := summary.priceChangeBps
  firstBaseReserveUnits := summary.firstBaseReserveUnits
  firstQuoteReserveUnits := summary.firstQuoteReserveUnits
  latestBaseReserveUnits := summary.latestBaseReserveUnits
  latestQuoteReserveUnits := summary.latestQuoteReserveUnits

/-- A safe integer of at least the minimum is read back. -/
theorem safeIntegerAt_ok {value minimum : Int} (safe : Binary64.isSafeInteger value = true)
    (least : minimum ≤ value) : safeIntegerAt (.ofInteger value) path minimum = .ok value := by
  have accepted : ¬ (!Binary64.isSafeInteger value || decide (value < minimum)) = true := by
    rw [safe]
    simpa using least
  rw [JsonValue.ofInteger, Binary64.ofInt_eq_self safe, safeIntegerAt, if_neg accepted]

theorem safeIntegerAt_count {count : Nat} (safe : count < 2 ^ 53) :
    safeIntegerAt (.ofInteger count) path 0 = .ok (count : Int) :=
  safeIntegerAt_ok (decide_eq_true safe) (Int.natCast_nonneg count)

theorem safeIntegerAt_revision {revision : Nat} (positive : 1 ≤ revision)
    (safe : revision < 2 ^ 53) :
    safeIntegerAt (.ofInteger revision) path 1 = .ok (revision : Int) :=
  safeIntegerAt_ok (decide_eq_true safe) (Int.ofNat_le.mpr positive)

theorem safeIntegerAt_time {time : Int} (lower : 0 ≤ time) (upper : time ≤ 2 ^ 53 - 1) :
    safeIntegerAt (.ofInteger time) path 0 = .ok time := by
  apply safeIntegerAt_ok _ lower
  apply decide_eq_true
  omega

/-- An integer that is not safe is rejected at its path. -/
theorem safeIntegerAt_error {value minimum : Int} (beyond : Binary64.isSafeInteger value = false) :
    safeIntegerAt (.ofInteger value) path minimum =
      .error { path, expected := "a safe integer" } := by
  have refused : (!Binary64.isSafeInteger (Binary64.ofInt value) ||
      decide (Binary64.ofInt value < minimum)) = true := by
    rw [Binary64.isSafeInteger_ofInt, beyond]
    rfl
  rw [JsonValue.ofInteger, safeIntegerAt, if_pos refused]

theorem nullableStringAt_ofOption (text : Option String) :
    nullableStringAt (.ofOption .string text) path = .ok text := by
  cases text with
  | none => rfl
  | some content => rfl

theorem nullableCountAt_ofOption {count : Option Nat}
    (safe : ∀ value ∈ count, value < 2 ^ 53) :
    nullableCountAt (.ofOption (fun value : Nat => .ofInteger value) count) path =
      .ok (count.map fun value : Nat => (value : Int)) := by
  cases count with
  | none => rfl
  | some value =>
      change some <$> safeIntegerAt (.ofInteger value) path 0 = _
      rw [safeIntegerAt_count (safe value rfl)]
      rfl

theorem nullableSafeIntegerAt_ofOption {change : Option Int}
    (safe : ∀ value ∈ change, Binary64.isSafeInteger value = true) :
    nullableSafeIntegerAt (.ofOption .ofInteger change) path = .ok change := by
  cases change with
  | none => rfl
  | some value =>
      have least : minSafeInteger ≤ value := by
        have small : value.natAbs < 2 ^ 53 := of_decide_eq_true (safe value rfl)
        unfold minSafeInteger
        omega
      change some <$> safeIntegerAt (.ofInteger value) path minSafeInteger = _
      rw [safeIntegerAt_ok (safe value rfl) least]
      rfl

/-- A decision is found under its own name. -/
theorem enumAt_decisionName (decision : QualificationDecision) :
    enumAt (.string (decisionName decision)) path decisionName [.pass, .reject, .unknown] =
      .ok decision := by
  cases decision with
  | pass => rfl
  | reject => rfl
  | unknown => rfl

theorem enumAt_completenessName (completeness : WindowCompleteness) :
    enumAt (.string (completenessName completeness)) path completenessName
      [.complete, .incomplete] = .ok completeness := by
  cases completeness with
  | complete => rfl
  | incomplete => rfl

theorem arrayAt_string (texts : List String) :
    arrayAt (.array (texts.map .string)) path stringAt = .ok texts := by
  have each : ∀ (start : Nat), ((texts.map JsonValue.string).zipIdx start).mapM
      (fun entry => stringAt entry.1 (path ++ "[" ++ toString entry.2 ++ "]")) =
        (.ok texts : Except ContractParseError (List String)) := by
    induction texts with
    | nil => intro start; rfl
    | cons text rest ih =>
        intro start
        rw [List.map_cons, List.zipIdx_cons, List.mapM_cons, ih]
        rfl
  exact each 0

/-- The bounds of a summary save for its price change. -/
structure IsReadable (summary : Persistence.DiscoveryWindowSummary) : Prop where
  windowRevision : 1 ≤ summary.windowRevision ∧ summary.windowRevision < 2 ^ 53
  rulesetRevision : 1 ≤ summary.rulesetRevision ∧ summary.rulesetRevision < 2 ^ 53
  opened : 0 ≤ summary.openedUnixMs ∧ summary.openedUnixMs ≤ 2 ^ 53 - 1
  closed : 0 ≤ summary.closedUnixMs ∧ summary.closedUnixMs ≤ 2 ^ 53 - 1
  evaluated : 0 ≤ summary.evaluatedUnixMs ∧ summary.evaluatedUnixMs ≤ 2 ^ 53 - 1
  trades : summary.trades < 2 ^ 53
  buys : summary.buys < 2 ^ 53
  sells : summary.sells < 2 ^ 53
  uniqueTraders : summary.uniqueTraders < 2 ^ 53
  uniqueBuyers : summary.uniqueBuyers < 2 ^ 53
  uniqueSellers : summary.uniqueSellers < 2 ^ 53
  share : ∀ share ∈ summary.maximumSingleWalletQuoteShareBps, share ≤ 10000

/-- The members before and after the price change are read back. -/
theorem parseQualificationSummary_eq {summary : Persistence.DiscoveryWindowSummary}
    (readable : IsReadable summary) :
    parseQualificationSummary (serializeSummary summary) path = do
      let priceChangeBps ← nullableSafeIntegerAt (.ofOption .ofInteger summary.priceChangeBps)
        (path ++ ".price_change_bps")
      return { contractOf summary with priceChangeBps } := by
  have share : nullableCountAt (.ofOption (fun share : Nat => .ofInteger share)
      summary.maximumSingleWalletQuoteShareBps)
        (path ++ ".maximum_single_wallet_quote_share_bps") =
      .ok (summary.maximumSingleWalletQuoteShareBps.map fun share : Nat => (share : Int)) := by
    apply nullableCountAt_ofOption
    intro value present
    have bound := readable.share value present
    omega
  have checked : checkWalletShare
      (summary.maximumSingleWalletQuoteShareBps.map fun share : Nat => (share : Int))
        (path ++ ".maximum_single_wallet_quote_share_bps") = .ok () := by
    unfold checkWalletShare
    cases found : summary.maximumSingleWalletQuoteShareBps with
    | none => rfl
    | some value =>
        have bound := readable.share value found
        rw [if_neg]
        simp
        omega
  have revision := readable.windowRevision
  have ruleset := readable.rulesetRevision
  have opened := readable.opened
  have closed := readable.closed
  have evaluated := readable.evaluated
  simp only [parseQualificationSummary, serializeSummary, recordAt, ok_bind, member,
    List.reverse_cons, List.reverse_nil, List.nil_append, List.cons_append, List.lookup_cons,
    String.reduceBEq, Option.getD_some, share, checked, enumAt_decisionName,
    enumAt_completenessName, arrayAt_string, nullableStringAt_ofOption, stringAt,
    safeIntegerAt_time opened.1 opened.2, safeIntegerAt_time closed.1 closed.2,
    safeIntegerAt_time evaluated.1 evaluated.2,
    safeIntegerAt_revision revision.1 revision.2, safeIntegerAt_revision ruleset.1 ruleset.2,
    safeIntegerAt_count readable.trades, safeIntegerAt_count readable.buys,
    safeIntegerAt_count readable.sells, safeIntegerAt_count readable.uniqueTraders,
    safeIntegerAt_count readable.uniqueBuyers, safeIntegerAt_count readable.uniqueSellers]
  rfl

section Window

variable {window : DiscoveryWindowRecord} {requested : SnapshotCompleteness}
  {snapshot : MarketWindowSnapshot} {assessment : QualificationAssessment} {evaluatedUnixMs : Int}
  {summary : Persistence.DiscoveryWindowSummary}

/-- The summary of a built snapshot is readable. -/
theorem canonicalDiscoverySummary_isReadable
    (built : buildMarketWindowSnapshot window.market window.openedAtUnixMs window.closesAtUnixMs
      requested (window.observations.map Persistence.Observation.toNormalizedObservation) =
        .ok snapshot)
    (summarized : canonicalDiscoverySummary window snapshot assessment evaluatedUnixMs =
      .ok summary)
    (opened : 0 ≤ window.openedAtUnixMs) (ordered : window.openedAtUnixMs < window.closesAtUnixMs)
    (closes : window.closesAtUnixMs ≤ 2 ^ 53 - 1)
    (evaluated : 0 ≤ evaluatedUnixMs ∧ evaluatedUnixMs ≤ 2 ^ 53 - 1)
    (identity : 1 ≤ window.windowId ∧ window.windowId ≤ 2 ^ 53 - 1)
    (revision : 1 ≤ window.qualificationRevision ∧ window.qualificationRevision ≤ 2 ^ 53 - 1)
    (length : window.observations.length < 2 ^ 53) : IsReadable summary := by
  have observed : (window.observations.map
      Persistence.Observation.toNormalizedObservation).length < 2 ^ 53 := by
    rwa [List.length_map]
  have wide : (window.observations.map
      Persistence.Observation.toNormalizedObservation).length < 2 ^ 63 :=
    observed.trans (by decide)
  obtain ⟨-, consistent⟩ := buildMarketWindowSnapshot_consistent built wide
  have trades := (buildMarketWindowSnapshot_trades_le built wide).trans_lt observed
  have sides := consistent.sides
  have traders := consistent.uniqueTraders
  have buyers := consistent.uniqueBuyers
  have sellers := consistent.uniqueSellers
  unfold canonicalDiscoverySummary at summarized
  split at summarized
  · cases summarized
  cases summarized
  exact {
    windowRevision := by
      change 1 ≤ window.windowId.toNat ∧ window.windowId.toNat < 2 ^ 53
      omega
    rulesetRevision := by
      change 1 ≤ window.qualificationRevision ∧ window.qualificationRevision < 2 ^ 53
      omega
    opened := by
      change 0 ≤ window.openedAtUnixMs ∧ window.openedAtUnixMs ≤ 2 ^ 53 - 1
      omega
    closed := by
      change 0 ≤ window.closesAtUnixMs ∧ window.closesAtUnixMs ≤ 2 ^ 53 - 1
      omega
    evaluated := evaluated
    trades := trades
    buys := by
      change snapshot.metrics.buys < 2 ^ 53
      omega
    sells := by
      change snapshot.metrics.sells < 2 ^ 53
      omega
    uniqueTraders := traders.trans_lt trades
    uniqueBuyers := by
      change snapshot.metrics.uniqueBuyers < 2 ^ 53
      omega
    uniqueSellers := by
      change snapshot.metrics.uniqueSellers < 2 ^ 53
      omega
    share := by
      intro share present
      obtain ⟨largest, found, same⟩ := Option.map_eq_some_iff.mp present
      rw [← same]
      exact consistent.share largest found }

/-- The price change is a safe integer or does not fit into the field of the summary. -/
def HasReadablePriceChange (snapshot : MarketWindowSnapshot) : Prop :=
  ∀ change ∈ snapshot.prices.bind PriceSummary.changeBps,
    change.natAbs ≤ 2 ^ 53 - 1 ∨ change < -2 ^ 63 ∨ 2 ^ 63 ≤ change

theorem checkedI64_eq_some_iff {value kept : Int} :
    checkedI64 value = some kept ↔ value = kept ∧ -2 ^ 63 ≤ value ∧ value < 2 ^ 63 := by
  unfold checkedI64 i64Max i64Min
  split
  · simp only [reduceCtorEq, false_iff]
    omega
  · split
    · simp only [reduceCtorEq, false_iff]
      omega
    · simp only [Option.some.injEq]
      omega

theorem priceChangeBps_eq
    (summarized : canonicalDiscoverySummary window snapshot assessment evaluatedUnixMs =
      .ok summary) :
    summary.priceChangeBps = (snapshot.prices.bind PriceSummary.changeBps).bind checkedI64 := by
  unfold canonicalDiscoverySummary at summarized
  split at summarized
  · cases summarized
  · cases summarized
    rfl

/-- The browser accepts the summary of a window with its values if and only if the price change is
a safe integer or is left out. -/
theorem parseQualificationSummary_canonical
    (built : buildMarketWindowSnapshot window.market window.openedAtUnixMs window.closesAtUnixMs
      requested (window.observations.map Persistence.Observation.toNormalizedObservation) =
        .ok snapshot)
    (summarized : canonicalDiscoverySummary window snapshot assessment evaluatedUnixMs =
      .ok summary)
    (opened : 0 ≤ window.openedAtUnixMs) (ordered : window.openedAtUnixMs < window.closesAtUnixMs)
    (closes : window.closesAtUnixMs ≤ 2 ^ 53 - 1)
    (evaluated : 0 ≤ evaluatedUnixMs ∧ evaluatedUnixMs ≤ 2 ^ 53 - 1)
    (identity : 1 ≤ window.windowId ∧ window.windowId ≤ 2 ^ 53 - 1)
    (revision : 1 ≤ window.qualificationRevision ∧ window.qualificationRevision ≤ 2 ^ 53 - 1)
    (length : window.observations.length < 2 ^ 53) (path : String) :
    parseQualificationSummary (serializeSummary summary) path = .ok (contractOf summary) ↔
      HasReadablePriceChange snapshot := by
  have readable := canonicalDiscoverySummary_isReadable built summarized opened ordered closes
    evaluated identity revision length
  have change := priceChangeBps_eq summarized
  rw [parseQualificationSummary_eq readable]
  constructor
  · intro accepted value present
    by_contra outside
    have fits : -2 ^ 63 ≤ value ∧ value < 2 ^ 63 := by omega
    have kept : summary.priceChangeBps = some value := by
      rw [change, Option.mem_def.mp present, Option.bind_some]
      exact checkedI64_eq_some_iff.mpr ⟨rfl, fits⟩
    have beyond : Binary64.isSafeInteger value = false := by
      apply decide_eq_false
      omega
    rw [kept, JsonValue.ofOption] at accepted
    change (some <$> safeIntegerAt (.ofInteger value) (path ++ ".price_change_bps")
      minSafeInteger >>= _) = _ at accepted
    rw [safeIntegerAt_error beyond] at accepted
    cases accepted
  · intro safe
    have parsed : nullableSafeIntegerAt (.ofOption .ofInteger summary.priceChangeBps)
        (path ++ ".price_change_bps") = .ok summary.priceChangeBps := by
      apply nullableSafeIntegerAt_ofOption
      intro value kept
      rw [change, Option.mem_def, Option.bind_eq_some_iff] at kept
      obtain ⟨whole, present, narrowed⟩ := kept
      obtain ⟨rfl, fits⟩ := checkedI64_eq_some_iff.mp narrowed
      have bound := safe whole present
      apply decide_eq_true
      omega
    rw [parsed]
    rfl

/-- A payload comes from a built snapshot and its summary. -/
theorem summary_of_finalization {change : Option Int}
    (evaluated : (Persistence.buildDiscoveryWindowFinalization window evaluatedUnixMs none).map
      (fun finalized => finalized.summary.priceChangeBps) = .ok change) :
    ∃ snapshot assessment summary,
      buildMarketWindowSnapshot window.market window.openedAtUnixMs window.closesAtUnixMs .complete
        (window.observations.map Persistence.Observation.toNormalizedObservation) = .ok snapshot ∧
      canonicalDiscoverySummary window snapshot assessment evaluatedUnixMs = .ok summary ∧
      summary.priceChangeBps = change := by
  cases built : Persistence.buildDiscoveryWindowFinalization window evaluatedUnixMs none with
  | error error =>
      rw [built] at evaluated
      cases evaluated
  | ok finalized =>
      obtain ⟨snapshot, assessment, summary, snapshotBuilt, -, summarized, rfl⟩ :=
        Persistence.buildDiscoveryWindowFinalization_eq_ok built
      rw [built] at evaluated
      cases evaluated
      exact ⟨snapshot, assessment, summary, snapshotBuilt, summarized, rfl⟩

end Window

/-- A purchase of one base unit. -/
def pricedTrade (eventIndex : Nat) (quoteAmountUnits : UInt64) : Persistence.Observation :=
  { Persistence.storedTrade eventIndex "u" with
    payload := .trade .buy "u" 1 quoteAmountUnits none none }

/-- A window with a purchase at each of two prices. -/
def pricedWindow (first last : UInt64) : DiscoveryWindowRecord :=
  { Persistence.sampleWindow with observations := [pricedTrade 0 first, pricedTrade 1 last] }

/-- A constant price is accepted. -/
theorem parseQualificationSummary_constant :
    ∃ summary, summary.priceChangeBps = some 0 ∧
      parseQualificationSummary (serializeSummary summary) "$" = .ok (contractOf summary) := by
  have evaluated : (Persistence.buildDiscoveryWindowFinalization (pricedWindow 1 1) 10 none).map
      (fun finalized => finalized.summary.priceChangeBps) = .ok (some 0) := by decide +kernel
  obtain ⟨snapshot, assessment, summary, built, summarized, change⟩ :=
    summary_of_finalization evaluated
  have accepted := parseQualificationSummary_canonical built summarized (by decide) (by decide)
    (by decide) (by decide) (by decide) (by decide) (by decide) "$"
  refine ⟨summary, change, accepted.mpr ?_⟩
  intro value present
  rw [priceChangeBps_eq summarized, Option.mem_def.mp present] at change
  obtain ⟨rfl, -⟩ := checkedI64_eq_some_iff.mp change
  exact .inl (by decide)

/-- A price that rises from one unit to 10^12 + 1 units changes by 10^16 basis points, and the summary
is rejected. -/
theorem parseQualificationSummary_steep : ¬ ∀ (window : DiscoveryWindowRecord)
    (requested : SnapshotCompleteness) (snapshot : MarketWindowSnapshot)
    (assessment : QualificationAssessment) (evaluatedUnixMs : Int)
    (summary : Persistence.DiscoveryWindowSummary) (path : String),
    buildMarketWindowSnapshot window.market window.openedAtUnixMs window.closesAtUnixMs requested
      (window.observations.map Persistence.Observation.toNormalizedObservation) = .ok snapshot →
    canonicalDiscoverySummary window snapshot assessment evaluatedUnixMs = .ok summary →
    0 ≤ window.openedAtUnixMs → window.openedAtUnixMs < window.closesAtUnixMs →
    window.closesAtUnixMs ≤ 2 ^ 53 - 1 → 0 ≤ evaluatedUnixMs ∧ evaluatedUnixMs ≤ 2 ^ 53 - 1 →
    1 ≤ window.windowId ∧ window.windowId ≤ 2 ^ 53 - 1 →
    1 ≤ window.qualificationRevision ∧ window.qualificationRevision ≤ 2 ^ 53 - 1 →
    window.observations.length < 2 ^ 53 →
    parseQualificationSummary (serializeSummary summary) path = .ok (contractOf summary) := by
  intro claim
  have evaluated : (Persistence.buildDiscoveryWindowFinalization
      (pricedWindow 1 1000000000001) 10 none).map
        (fun finalized => finalized.summary.priceChangeBps) =
          .ok (some 10000000000000000) := by decide +kernel
  obtain ⟨snapshot, assessment, summary, built, summarized, change⟩ :=
    summary_of_finalization evaluated
  have accepted := claim _ _ snapshot assessment 10 summary "$" built summarized (by decide)
    (by decide) (by decide) (by decide) (by decide) (by decide) (by decide)
  have readable := canonicalDiscoverySummary_isReadable built summarized (by decide) (by decide)
    (by decide) (by decide) (by decide) (by decide) (by decide)
  rw [parseQualificationSummary_eq readable, change] at accepted
  cases accepted

end Soldisco.Web

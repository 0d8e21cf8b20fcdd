import Soldisco.Construction.Web.ResponseParsers
import Soldisco.Proof.Web.Parsers

/-
This file proves which served snapshots the browser accepts and that it reads them back.
-/

namespace Soldisco.Web
open Domain Accumulation Snapshot
open Persistence (DiscoveryMode DiscoveryStage discoveryStageName isCompletePass Score)

variable {path : String}

theorem pure_eq_ok {Content : Type} {content parsed : Content} :
    (pure content : Except ContractParseError Content) = .ok parsed ↔ content = parsed :=
  Except.ok.injEq content parsed ▸ Iff.rfl

section Readers

/-- A number that reaches the browser unchanged and is at least the minimum. -/
def SafeFrom (minimum value : Int) : Prop := Binary64.isSafeInteger value = true ∧ minimum ≤ value

theorem safeFrom_count {count : Nat} : SafeFrom 0 count ↔ count < 2 ^ 53 := by
  unfold SafeFrom Binary64.isSafeInteger
  rw [decide_eq_true_iff]
  omega

theorem safeFrom_positive {count : Nat} : SafeFrom 1 count ↔ 1 ≤ count ∧ count < 2 ^ 53 := by
  unfold SafeFrom Binary64.isSafeInteger
  rw [decide_eq_true_iff]
  omega

theorem safeFrom_least {value : Int} :
    SafeFrom minSafeInteger value ↔ Binary64.isSafeInteger value = true := by
  unfold SafeFrom Binary64.isSafeInteger minSafeInteger
  rw [decide_eq_true_iff]
  omega

/-- Exactly the safe integers from the minimum on are read, and with their value. -/
theorem safeIntegerAt_eq_ok {value minimum parsed : Int} :
    safeIntegerAt (.ofInteger value) path minimum = .ok parsed ↔
      SafeFrom minimum value ∧ value = parsed := by
  by_cases safe : Binary64.isSafeInteger value = true
  · by_cases least : minimum ≤ value
    · rw [safeIntegerAt_ok safe least, Except.ok.injEq]
      exact (and_iff_right ⟨safe, least⟩).symm
    · have refused : (!Binary64.isSafeInteger value || decide (value < minimum)) = true := by
        rw [decide_eq_true (not_le.mp least), Bool.or_true]
      rw [JsonValue.ofInteger, Binary64.ofInt_eq_self safe, safeIntegerAt, if_pos refused]
      constructor
      · intro impossible
        cases impossible
      · rintro ⟨⟨-, enough⟩, -⟩
        exact absurd enough least
  · rw [safeIntegerAt_error (Bool.not_eq_true _ ▸ safe)]
    constructor
    · intro impossible
      cases impossible
    · rintro ⟨⟨lossless, -⟩, -⟩
      exact absurd lossless safe

theorem nullable_eq_ok {Content Parsed : Type} {read : Except ContractParseError Content}
    {wrap : Content → Parsed} {parsed : Parsed} :
    (wrap <$> read) = .ok parsed ↔ ∃ content, read = .ok content ∧ wrap content = parsed := by
  cases read with
  | error error =>
      constructor
      · intro impossible
        cases impossible
      · rintro ⟨_, impossible, -⟩
        cases impossible
  | ok content =>
      constructor
      · intro same
        exact ⟨content, rfl, Except.ok.inj same⟩
      · rintro ⟨_, same, rfl⟩
        cases same
        rfl

theorem nullableCountAt_eq_ok {count : Option Nat} {parsed : Option Int} :
    nullableCountAt (.ofOption (fun value : Nat => .ofInteger value) count) path = .ok parsed ↔
      (∀ value ∈ count, value < 2 ^ 53) ∧
        (count.map fun value : Nat => (value : Int)) = parsed := by
  cases count with
  | none =>
      change Except.ok none = Except.ok parsed ↔ _
      simp
  | some value =>
      change (some <$> safeIntegerAt (.ofInteger value) path 0) = .ok parsed ↔ _
      simp [nullable_eq_ok, safeIntegerAt_eq_ok, safeFrom_count]

theorem nullableSafeIntegerAt_eq_ok {change parsed : Option Int} :
    nullableSafeIntegerAt (.ofOption .ofInteger change) path = .ok parsed ↔
      (∀ value ∈ change, Binary64.isSafeInteger value = true) ∧ change = parsed := by
  cases change with
  | none =>
      change Except.ok none = Except.ok parsed ↔ _
      simp
  | some value =>
      change (some <$> safeIntegerAt (.ofInteger value) path minSafeInteger) = .ok parsed ↔ _
      simp [nullable_eq_ok, safeIntegerAt_eq_ok, safeFrom_least]

/-- A score is always read back. -/
theorem nullableScoreAt_serializeScore (score : Option Score) :
    nullableScoreAt (serializeScore score) path =
      .ok (score.map fun score => (score.value : Int)) := by
  cases score with
  | none => rfl
  | some score =>
      have within := score.within
      have small : score.value < 2 ^ 53 := within.trans_lt (by decide)
      have checked : checkScore score.value path = .ok () := by
        unfold checkScore
        rw [if_neg]
        omega
      change (safeIntegerAt (.ofInteger score.value) path 0 >>= fun parsed =>
        checkScore parsed path >>= fun _ => pure (some parsed)) = _
      rw [safeIntegerAt_count small]
      change (checkScore score.value path >>= fun _ => pure (some (score.value : Int))) = _
      rw [checked]
      rfl

/-- A variant of the allowed list is found under a name that no other variant has. -/
theorem enumAt_name {Variant : Type} {name : Variant → String} {allowed : List Variant}
    (distinct : ∀ left ∈ allowed, ∀ right ∈ allowed, name left = name right → left = right)
    {variant : Variant} (known : variant ∈ allowed) :
    enumAt (.string (name variant)) path name allowed = .ok variant := by
  unfold enumAt
  dsimp only
  cases found : allowed.find? fun other => name other == name variant with
  | none =>
      have missed := List.find?_eq_none.mp found variant known
      exact absurd (beq_self_eq_true (name variant)) missed
  | some other =>
      have same : name other = name variant := by
        simpa using List.find?_some found
      have own := distinct other (List.mem_of_find?_eq_some found) variant known same
      exact congrArg Except.ok own

theorem enumAt_venueName (venue : Venue) :
    enumAt (.string (venueName venue)) path venueName venues = .ok venue :=
  enumAt_name (by decide) (by cases venue <;> decide)

theorem enumAt_sourceProgramName (program : SourceProgram) :
    enumAt (.string (sourceProgramName program)) path sourceProgramName sourcePrograms =
      .ok program :=
  enumAt_name (by decide) (by cases program <;> decide)

theorem enumAt_discoveryStageName (stage : DiscoveryStage) :
    enumAt (.string (discoveryStageName stage)) path discoveryStageName discoveryStages =
      .ok stage :=
  enumAt_name (by decide) (by cases stage <;> decide)

theorem enumAt_discoveryModeName (mode : DiscoveryMode) :
    enumAt (.string (discoveryModeName mode)) path discoveryModeName discoveryModes = .ok mode :=
  enumAt_name (by decide) (by cases mode <;> decide)

/-- An array is read when each of its items is, whatever their positions are. -/
theorem arrayAt_eq_ok {Item Parsed : Type} {serialize : Item → JsonValue}
    {parseItem : JsonValue → String → Except ContractParseError Parsed} {Readable : Item → Prop}
    {contract : Item → Parsed}
    (each : ∀ item path parsed, parseItem (serialize item) path = .ok parsed ↔
      Readable item ∧ contract item = parsed)
    {items : List Item} {parsed : List Parsed} :
    arrayAt (.array (items.map serialize)) path parseItem = .ok parsed ↔
      (∀ item ∈ items, Readable item) ∧ items.map contract = parsed := by
  -- The induction is on the items after any number of earlier ones.
  have remaining : ∀ (items : List Item) (start : Nat) (parsed : List Parsed),
      ((items.map serialize).zipIdx start).mapM (fun entry =>
        parseItem entry.1 (path ++ "[" ++ toString entry.2 ++ "]")) = .ok parsed ↔
          (∀ item ∈ items, Readable item) ∧ items.map contract = parsed := by
    intro items
    induction items with
    | nil =>
        intro start parsed
        change Except.ok [] = Except.ok parsed ↔ _
        simp
    | cons item rest ih =>
        intro start parsed
        rw [List.map_cons, List.zipIdx_cons, List.mapM_cons]
        simp only [bind_eq_ok, each, ih, pure_eq_ok, and_assoc, exists_and_left, exists_eq_left',
          List.forall_mem_cons, List.map_cons]
  exact remaining items 0 parsed

end Readers

/-- The numbers of a summary reach the browser unchanged. -/
structure SummarySafe (summary : Persistence.DiscoveryWindowSummary) : Prop where
  windowRevision : SafeFrom 1 summary.windowRevision
  rulesetRevision : SafeFrom 1 summary.rulesetRevision
  openedUnixMs : SafeFrom 0 summary.openedUnixMs
  closedUnixMs : SafeFrom 0 summary.closedUnixMs
  evaluatedUnixMs : SafeFrom 0 summary.evaluatedUnixMs
  trades : SafeFrom 0 summary.trades
  buys : SafeFrom 0 summary.buys
  sells : SafeFrom 0 summary.sells
  uniqueTraders : SafeFrom 0 summary.uniqueTraders
  uniqueBuyers : SafeFrom 0 summary.uniqueBuyers
  uniqueSellers : SafeFrom 0 summary.uniqueSellers
  priceChangeBps : ∀ change ∈ summary.priceChangeBps, Binary64.isSafeInteger change = true

/-- The share of a wallet is at most the whole. -/
def ShareBounded (summary : Persistence.DiscoveryWindowSummary) : Prop :=
  ∀ share ∈ summary.maximumSingleWalletQuoteShareBps, share ≤ 10000

theorem checkWalletShare_eq_ok {share : Option Nat} {done : Unit} :
    checkWalletShare (share.map fun share : Nat => (share : Int)) path = .ok done ↔
      ∀ value ∈ share, value ≤ 10000 := by
  unfold checkWalletShare
  cases share with
  | none => simp
  | some value =>
      by_cases within : value ≤ 10000
      · simp [within]
      · simp [within]

theorem parseQualificationSummary_eq_ok (summary : Persistence.DiscoveryWindowSummary)
    (path : String) (parsed : DiscoveryWindowSummary) :
    parseQualificationSummary (serializeSummary summary) path = .ok parsed ↔
      (SummarySafe summary ∧ ShareBounded summary) ∧ contractOf summary = parsed := by
  simp only [parseQualificationSummary, serializeSummary, recordAt, ok_bind, member,
    List.reverse_cons, List.reverse_nil, List.nil_append, List.cons_append, List.lookup_cons,
    String.reduceBEq, Option.getD_some, bind_eq_ok, nullableCountAt_eq_ok, enumAt_decisionName,
    enumAt_completenessName, arrayAt_string, nullableStringAt_ofOption, stringAt,
    safeIntegerAt_eq_ok, nullableSafeIntegerAt_eq_ok, pure_eq_ok, and_assoc, exists_and_left,
    exists_eq_left', checkWalletShare_eq_ok, exists_const]
  constructor
  · rintro ⟨-, share, window, ruleset, opened, closed, evaluated, trades, buys, sells, traders,
      buyers, sellers, change, same⟩
    exact ⟨⟨window, ruleset, opened, closed, evaluated, trades, buys, sells, traders, buyers,
      sellers, change⟩, share, same⟩
  · rintro ⟨safe, share, same⟩
    have small : ∀ value ∈ summary.maximumSingleWalletQuoteShareBps, value < 2 ^ 53 :=
      fun value present => (share value present).trans_lt (by decide)
    exact ⟨small, share, safe.windowRevision, safe.rulesetRevision, safe.openedUnixMs,
      safe.closedUnixMs, safe.evaluatedUnixMs, safe.trades, safe.buys, safe.sells,
      safe.uniqueTraders, safe.uniqueBuyers, safe.uniqueSellers, safe.priceChangeBps, same⟩

structure ActivitySafe (activity : Persistence.DiscoveryActivity) : Prop where
  trades : SafeFrom 0 activity.trades
  buys : SafeFrom 0 activity.buys
  sells : SafeFrom 0 activity.sells
  uniqueTraders : SafeFrom 0 activity.uniqueTraders

def activityContract (activity : Persistence.DiscoveryActivity) : DiscoveryActivity where
  trades := activity.trades
  buys := activity.buys
  sells := activity.sells
  uniqueTraders := activity.uniqueTraders
  baseVolumeUnits := activity.baseVolumeUnits
  quoteVolumeUnits := activity.quoteVolumeUnits

theorem parseActivity_eq_ok (activity : Persistence.DiscoveryActivity) (path : String)
    (parsed : DiscoveryActivity) :
    parseActivity (serializeActivity activity) path = .ok parsed ↔
      ActivitySafe activity ∧ activityContract activity = parsed := by
  simp only [parseActivity, serializeActivity, recordAt, ok_bind, member, List.reverse_cons,
    List.reverse_nil, List.nil_append, List.cons_append, List.lookup_cons, String.reduceBEq,
    Option.getD_some, bind_eq_ok, stringAt, safeIntegerAt_eq_ok, pure_eq_ok, and_assoc,
    exists_and_left, exists_eq_left']
  constructor
  · rintro ⟨trades, buys, sells, traders, same⟩
    exact ⟨⟨trades, buys, sells, traders⟩, same⟩
  · rintro ⟨safe, same⟩
    exact ⟨safe.trades, safe.buys, safe.sells, safe.uniqueTraders, same⟩

/-- The numbers of a token and of its qualification reach the browser unchanged. -/
structure TokenSafe (token : Persistence.DiscoveryToken) : Prop where
  qualification : ∀ summary ∈ token.qualification, SummarySafe summary
  observedSlot : SafeFrom 0 token.observedSlot
  firstObservedUnixMs : Binary64.isSafeInteger token.firstObservedUnixMs = true
  lastObservedUnixMs : Binary64.isSafeInteger token.lastObservedUnixMs = true
  activity : ActivitySafe token.activity

/-- A token carries the evidence of its stage. -/
structure TokenEvident (token : Persistence.DiscoveryToken) : Prop where
  share : ∀ summary ∈ token.qualification, ShareBounded summary
  stage : token.stage.isQualified = true → isCompletePass token.qualification = true

def tokenContract (token : Persistence.DiscoveryToken) : DiscoveryToken where
  mint := token.mint
  name := token.name
  symbol := token.symbol
  primaryVenue := token.primaryVenue
  marketAddress := token.marketAddress
  quoteMint := token.quoteMint
  sourceProgram := token.sourceProgram
  stage := token.stage
  lastEventKind := token.lastEventKind
  observedSlot := token.observedSlot
  firstObservedUnixMs := token.firstObservedUnixMs
  lastObservedUnixMs := token.lastObservedUnixMs
  latestSignature := token.latestSignature
  activity := activityContract token.activity
  qualification := token.qualification.map contractOf
  riskScore := token.riskScore.map fun score => (score.value : Int)
  opportunityScore := token.opportunityScore.map fun score => (score.value : Int)

theorem parseQualification_eq_ok {qualification : Option Persistence.DiscoveryWindowSummary}
    {parsed : Option DiscoveryWindowSummary} :
    parseQualification (.ofOption serializeSummary qualification) path = .ok parsed ↔
      (∀ summary ∈ qualification, SummarySafe summary ∧ ShareBounded summary) ∧
        qualification.map contractOf = parsed := by
  cases qualification with
  | none =>
      change Except.ok none = Except.ok parsed ↔ _
      simp
  | some summary =>
      change (some <$> parseQualificationSummary (serializeSummary summary) path) = .ok parsed ↔ _
      simp [nullable_eq_ok, parseQualificationSummary_eq_ok]

/-- The evidence that the browser checks is the one that the server checks. -/
theorem checkEvidence_eq_ok {stage : DiscoveryStage}
    {qualification : Option Persistence.DiscoveryWindowSummary} {done : Unit} :
    checkEvidence stage (qualification.map contractOf) path = .ok done ↔
      (stage.isQualified = true → isCompletePass qualification = true) := by
  have passed : ((qualification.map contractOf).any fun summary =>
      summary.decision = .pass && summary.completeness = .complete) =
        isCompletePass qualification := by
    cases qualification with
    | none => rfl
    | some summary => rfl
  unfold checkEvidence
  dsimp only
  rw [passed]
  cases stage <;> cases isCompletePass qualification <;> simp [DiscoveryStage.isQualified]

theorem parseDiscoveryToken_eq_ok (token : Persistence.DiscoveryToken) (path : String)
    (parsed : DiscoveryToken) :
    parseDiscoveryToken (serializeToken token) path = .ok parsed ↔
      (TokenSafe token ∧ TokenEvident token) ∧ tokenContract token = parsed := by
  simp only [parseDiscoveryToken, serializeToken, recordAt, ok_bind, member, List.reverse_cons,
    List.reverse_nil, List.nil_append, List.cons_append, List.lookup_cons, String.reduceBEq,
    Option.getD_some, bind_eq_ok, enumAt_discoveryStageName, enumAt_venueName,
    enumAt_sourceProgramName, parseQualification_eq_ok, checkEvidence_eq_ok, stringAt,
    nullableStringAt_ofOption, safeIntegerAt_eq_ok, safeFrom_least, parseActivity_eq_ok,
    nullableScoreAt_serializeScore, pure_eq_ok, and_assoc, exists_and_left, exists_eq_left',
    exists_const]
  constructor
  · rintro ⟨summaries, stage, slot, first, last, activity, same⟩
    exact ⟨⟨fun summary present => (summaries summary present).1, slot, first, last, activity⟩,
      ⟨fun summary present => (summaries summary present).2, stage⟩, same⟩
  · rintro ⟨safe, evident, same⟩
    exact ⟨fun summary present => ⟨safe.qualification summary present,
      evident.share summary present⟩, evident.stage, safe.observedSlot, safe.firstObservedUnixMs,
      safe.lastObservedUnixMs, safe.activity, same⟩

structure CountersSafe (counters : Projections.DiscoveryCounters) : Prop where
  observed : SafeFrom 0 counters.observed
  pending : SafeFrom 0 counters.pending
  approved : SafeFrom 0 counters.approved
  rejected : SafeFrom 0 counters.rejected
  qualified : SafeFrom 0 counters.qualified
  qualificationPending : SafeFrom 0 counters.qualificationPending
  qualificationRejected : SafeFrom 0 counters.qualificationRejected
  qualificationUnknown : SafeFrom 0 counters.qualificationUnknown
  processingFailures : SafeFrom 0 counters.processingFailures
  flowPerMinute : ∀ flow ∈ counters.flowPerMinute, flow < 2 ^ 53

def countersContract (counters : Projections.DiscoveryCounters) : DiscoveryCounters where
  observed := counters.observed
  pending := counters.pending
  approved := counters.approved
  rejected := counters.rejected
  qualified := counters.qualified
  qualificationPending := counters.qualificationPending
  qualificationRejected := counters.qualificationRejected
  qualificationUnknown := counters.qualificationUnknown
  processingFailures := counters.processingFailures
  flowPerMinute := counters.flowPerMinute.map fun flow : Nat => (flow : Int)

theorem parseCounters_eq_ok (counters : Projections.DiscoveryCounters) (path : String)
    (parsed : DiscoveryCounters) :
    parseCounters (serializeCounters counters) path = .ok parsed ↔
      CountersSafe counters ∧ countersContract counters = parsed := by
  simp only [parseCounters, serializeCounters, recordAt, ok_bind, member, List.reverse_cons,
    List.reverse_nil, List.nil_append, List.cons_append, List.lookup_cons, String.reduceBEq,
    Option.getD_some, bind_eq_ok, safeIntegerAt_eq_ok, nullableCountAt_eq_ok, pure_eq_ok,
    and_assoc, exists_and_left, exists_eq_left']
  constructor
  · rintro ⟨observed, pending, approved, rejected, qualified, active, refused, unknown, failures,
      flow, same⟩
    exact ⟨⟨observed, pending, approved, rejected, qualified, active, refused, unknown, failures,
      flow⟩, same⟩
  · rintro ⟨safe, same⟩
    exact ⟨safe.observed, safe.pending, safe.approved, safe.rejected, safe.qualified,
      safe.qualificationPending, safe.qualificationRejected, safe.qualificationUnknown,
      safe.processingFailures, safe.flowPerMinute, same⟩

structure RejectionSafe (rejection : Projections.RejectionSummary) : Prop where
  count : SafeFrom 0 rejection.count
  lastSeenUnixMs : Binary64.isSafeInteger rejection.lastSeenUnixMs = true

def rejectionContract (rejection : Projections.RejectionSummary) : RejectionSummary where
  reasonCode := rejection.reasonCode
  count := rejection.count
  lastSeenUnixMs := rejection.lastSeenUnixMs

theorem parseRejection_eq_ok (rejection : Projections.RejectionSummary) (path : String)
    (parsed : RejectionSummary) :
    parseRejection (serializeRejection rejection) path = .ok parsed ↔
      RejectionSafe rejection ∧ rejectionContract rejection = parsed := by
  simp only [parseRejection, serializeRejection, recordAt, ok_bind, member, List.reverse_cons,
    List.reverse_nil, List.nil_append, List.cons_append, List.lookup_cons, String.reduceBEq,
    Option.getD_some, bind_eq_ok, stringAt, safeIntegerAt_eq_ok, safeFrom_least, pure_eq_ok,
    and_assoc, exists_and_left, exists_eq_left']
  constructor
  · rintro ⟨count, seen, same⟩
    exact ⟨⟨count, seen⟩, same⟩
  · rintro ⟨safe, same⟩
    exact ⟨safe.count, safe.lastSeenUnixMs, same⟩

/-- All numbers of a snapshot reach the browser unchanged. -/
structure SnapshotSafe (snapshot : Projections.DiscoverySnapshot) : Prop where
  sequence : SafeFrom 0 snapshot.sequence
  tokens : ∀ token ∈ snapshot.tokens, TokenSafe token
  tokensTotal : SafeFrom 0 snapshot.tokensTotal
  counters : CountersSafe snapshot.counters
  rejectionReasons : ∀ rejection ∈ snapshot.rejectionReasons, RejectionSafe rejection

def snapshotContract (snapshot : Projections.DiscoverySnapshot) : DiscoverySnapshot where
  sequence := snapshot.sequence
  mode := snapshot.mode
  tokens := snapshot.tokens.map tokenContract
  tokensTotal := snapshot.tokensTotal
  tokensTruncated := snapshot.tokensTruncated
  counters := countersContract snapshot.counters
  rejectionReasons := snapshot.rejectionReasons.map rejectionContract

/-- A snapshot is read back as it was sent, or it is refused because one of its numbers is not safe
or one of its tokens lacks its evidence. -/
theorem parseDiscoverySnapshot_eq_ok (snapshot : Projections.DiscoverySnapshot)
    (parsed : DiscoverySnapshot) :
    parseDiscoverySnapshot (serializeSnapshot snapshot) = .ok parsed ↔
      (SnapshotSafe snapshot ∧ ∀ token ∈ snapshot.tokens, TokenEvident token) ∧
        snapshotContract snapshot = parsed := by
  simp only [parseDiscoverySnapshot, serializeSnapshot, recordAt, ok_bind, member,
    List.reverse_cons, List.reverse_nil, List.nil_append, List.cons_append, List.lookup_cons,
    String.reduceBEq, Option.getD_some, bind_eq_ok, safeIntegerAt_eq_ok, enumAt_discoveryModeName,
    arrayAt_eq_ok parseDiscoveryToken_eq_ok, booleanAt, parseCounters_eq_ok,
    arrayAt_eq_ok parseRejection_eq_ok, pure_eq_ok, and_assoc, exists_and_left, exists_eq_left']
  constructor
  · rintro ⟨sequence, tokens, total, counters, rejections, same⟩
    exact ⟨⟨sequence, fun token listed => (tokens token listed).1, total, counters, rejections⟩,
      fun token listed => (tokens token listed).2, same⟩
  · rintro ⟨safe, evident, same⟩
    exact ⟨safe.sequence, fun token listed => ⟨safe.tokens token listed, evident token listed⟩,
      safe.tokensTotal, safe.counters, safe.rejectionReasons, same⟩

end Soldisco.Web

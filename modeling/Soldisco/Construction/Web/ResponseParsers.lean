import Soldisco.Construction.Web.Contracts

/-
This file embeds the parsers of the browser for the snapshot, the settings and the live events.
-/

namespace Soldisco.Web
open Domain
open Persistence (DiscoveryMode DiscoveryStage discoveryStageName)
open Supervisor (StreamStatus)
open LiveEvents (LiveEvent)

def streamStatuses : List StreamStatus :=
  [.stopped, .starting, .running, .degraded, .error, .stopping]

def discoveryModes : List DiscoveryMode := [.observeAll, .qualifiedOnly, .approvedOnly]

def discoveryStages : List DiscoveryStage := [.observed, .qualified, .approved]

def venues : List Venue := [.pumpBondingCurve, .pumpSwap, .raydiumCpmm, .raydiumClmm, .raydiumAmmV4]

def sourcePrograms : List SourceProgram :=
  [.pump, .pumpSwap, .raydiumCpmm, .raydiumClmm, .raydiumAmmV4]

def booleanAt (value : JsonValue) (path : String) : Except ContractParseError Bool :=
  match value with
  | .boolean value => .ok value
  | _ => .error { path, expected := "a boolean" }

def checkScore (score : Int) (path : String) : Except ContractParseError Unit :=
  if score > 100 then .error { path, expected := "an integer from 0 through 100" } else .ok ()

def nullableScoreAt (value : JsonValue) (path : String) : Except ContractParseError (Option Int) :=
  match value with
  | .null => .ok none
  | value => do
      let score ← safeIntegerAt value path 0
      checkScore score path
      return some score

structure DiscoveryActivity where
  trades : Int
  buys : Int
  sells : Int
  uniqueTraders : Int
  baseVolumeUnits : String
  quoteVolumeUnits : String
deriving DecidableEq, Repr

def parseActivity (value : JsonValue) (path : String) :
    Except ContractParseError DiscoveryActivity := do
  let activity ← recordAt value path
  let count (name : String) := safeIntegerAt (member activity name) (path ++ "." ++ name) 0
  return {
    trades := ← count "trades"
    buys := ← count "buys"
    sells := ← count "sells"
    uniqueTraders := ← count "unique_traders"
    baseVolumeUnits := ← stringAt (member activity "base_volume_units")
      (path ++ ".base_volume_units")
    quoteVolumeUnits := ← stringAt (member activity "quote_volume_units")
      (path ++ ".quote_volume_units") }

structure DiscoveryToken where
  mint : String
  name : Option String
  symbol : Option String
  primaryVenue : Venue
  marketAddress : String
  quoteMint : Option String
  sourceProgram : SourceProgram
  stage : DiscoveryStage
  lastEventKind : String
  observedSlot : Int
  firstObservedUnixMs : Int
  lastObservedUnixMs : Int
  latestSignature : String
  activity : DiscoveryActivity
  qualification : Option DiscoveryWindowSummary
  riskScore : Option Int
  opportunityScore : Option Int
deriving DecidableEq, Repr

def parseQualification (value : JsonValue) (path : String) :
    Except ContractParseError (Option DiscoveryWindowSummary) :=
  match value with
  | .null | .undefined => .ok none
  | value => some <$> parseQualificationSummary value path

/-- A qualified or approved token needs the summary of a complete pass. -/
def checkEvidence (stage : DiscoveryStage) (qualification : Option DiscoveryWindowSummary)
    (path : String) : Except ContractParseError Unit :=
  let passed := qualification.any fun summary =>
    summary.decision = .pass && summary.completeness = .complete
  if (stage = .qualified || stage = .approved) && !passed then
    .error { path, expected := "complete PASS evidence for a QUALIFIED or APPROVED token" }
  else .ok ()

/-- The stage and the qualification are parsed and checked before the other members. -/
def parseDiscoveryToken (value : JsonValue) (path : String) :
    Except ContractParseError DiscoveryToken := do
  let token ← recordAt value path
  let text (name : String) := stringAt (member token name) (path ++ "." ++ name)
  let nullableText (name : String) := nullableStringAt (member token name) (path ++ "." ++ name)
  let stage ← enumAt (member token "stage") (path ++ ".stage") discoveryStageName discoveryStages
  let qualification ← parseQualification (member token "qualification") (path ++ ".qualification")
  checkEvidence stage qualification (path ++ ".qualification")
  return {
    mint := ← text "mint"
    name := ← nullableText "name"
    symbol := ← nullableText "symbol"
    primaryVenue := ← enumAt (member token "primary_venue") (path ++ ".primary_venue") venueName
      venues
    marketAddress := ← text "market_address"
    quoteMint := ← nullableText "quote_mint"
    sourceProgram := ← enumAt (member token "source_program") (path ++ ".source_program")
      sourceProgramName sourcePrograms
    stage
    lastEventKind := ← text "last_event_kind"
    observedSlot := ← safeIntegerAt (member token "observed_slot") (path ++ ".observed_slot") 0
    firstObservedUnixMs := ← safeIntegerAt (member token "first_observed_unix_ms")
      (path ++ ".first_observed_unix_ms") minSafeInteger
    lastObservedUnixMs := ← safeIntegerAt (member token "last_observed_unix_ms")
      (path ++ ".last_observed_unix_ms") minSafeInteger
    latestSignature := ← text "latest_signature"
    activity := ← parseActivity (member token "activity") (path ++ ".activity")
    qualification
    riskScore := ← nullableScoreAt (member token "risk_score") (path ++ ".risk_score")
    opportunityScore := ← nullableScoreAt (member token "opportunity_score")
      (path ++ ".opportunity_score") }

structure DiscoveryCounters where
  observed : Int
  pending : Int
  approved : Int
  rejected : Int
  qualified : Int
  qualificationPending : Int
  qualificationRejected : Int
  qualificationUnknown : Int
  processingFailures : Int
  flowPerMinute : Option Int
deriving DecidableEq, Repr

def parseCounters (value : JsonValue) (path : String) :
    Except ContractParseError DiscoveryCounters := do
  let counters ← recordAt value path
  let count (name : String) := safeIntegerAt (member counters name) (path ++ "." ++ name) 0
  return {
    observed := ← count "observed"
    pending := ← count "pending"
    approved := ← count "approved"
    rejected := ← count "rejected"
    qualified := ← count "qualified"
    qualificationPending := ← count "qualification_pending"
    qualificationRejected := ← count "qualification_rejected"
    qualificationUnknown := ← count "qualification_unknown"
    processingFailures := ← count "processing_failures"
    flowPerMinute := ← nullableCountAt (member counters "flow_per_minute")
      (path ++ ".flow_per_minute") }

structure RejectionSummary where
  reasonCode : String
  count : Int
  lastSeenUnixMs : Int
deriving DecidableEq, Repr

def parseRejection (value : JsonValue) (path : String) :
    Except ContractParseError RejectionSummary := do
  let rejection ← recordAt value path
  return {
    reasonCode := ← stringAt (member rejection "reason_code") (path ++ ".reason_code")
    count := ← safeIntegerAt (member rejection "count") (path ++ ".count") 0
    lastSeenUnixMs := ← safeIntegerAt (member rejection "last_seen_unix_ms")
      (path ++ ".last_seen_unix_ms") minSafeInteger }

structure DiscoverySnapshot where
  sequence : Int
  mode : DiscoveryMode
  tokens : List DiscoveryToken
  tokensTotal : Int
  tokensTruncated : Bool
  counters : DiscoveryCounters
  rejectionReasons : List RejectionSummary
deriving DecidableEq, Repr

def parseDiscoverySnapshot (value : JsonValue) : Except ContractParseError DiscoverySnapshot := do
  let snapshot ← recordAt value "$"
  return {
    sequence := ← safeIntegerAt (member snapshot "sequence") "$.sequence" 0
    mode := ← enumAt (member snapshot "mode") "$.mode" discoveryModeName discoveryModes
    tokens := ← arrayAt (member snapshot "tokens") "$.tokens" parseDiscoveryToken
    tokensTotal := ← safeIntegerAt (member snapshot "tokens_total") "$.tokens_total" 0
    tokensTruncated := ← booleanAt (member snapshot "tokens_truncated") "$.tokens_truncated"
    counters := ← parseCounters (member snapshot "counters") "$.counters"
    rejectionReasons := ← arrayAt (member snapshot "rejection_reasons") "$.rejection_reasons"
      parseRejection }

structure IntegerSettingBounds where
  minimum : Int
  maximum : Int
deriving DecidableEq, Repr

def parseIntegerBounds (value : JsonValue) (path : String) :
    Except ContractParseError IntegerSettingBounds := do
  let bounds ← recordAt value path
  let minimum ← safeIntegerAt (member bounds "minimum") (path ++ ".minimum") 0
  let maximum ← safeIntegerAt (member bounds "maximum") (path ++ ".maximum") 0
  if maximum < minimum then
    throw {
      path := path ++ ".maximum"
      expected := "an integer greater than or equal to minimum" }
  return { minimum, maximum }

/-- An object is made of the entries of its fields. -/
def parseSettingsBounds (fields : List String) (value : JsonValue) (path : String) :
    Except ContractParseError (List (String × IntegerSettingBounds)) := do
  let source ← recordAt value path
  fields.mapM fun field => do
    let bounds ← parseIntegerBounds (member source field) (path ++ "." ++ field)
    return (field, bounds)

/-- A number is checked against its parsed bounds. -/
def parseSetting (least : Int) (source : List (String × JsonValue))
    (bounds : List (String × IntegerSettingBounds)) (path field : String) :
    Except ContractParseError (String × Int) := do
  let fieldPath := path ++ "." ++ field
  let parsed ← safeIntegerAt (member source field) fieldPath least
  let allowed := (bounds.lookup field).getD ⟨0, 0⟩
  if parsed < allowed.minimum || parsed > allowed.maximum then
    throw {
      path := fieldPath
      expected := "an integer from " ++ toString allowed.minimum ++ " through " ++
        toString allowed.maximum }
  return (field, parsed)

def parseSettings (fields : List String) (least : Int) (value : JsonValue)
    (bounds : List (String × IntegerSettingBounds)) (path : String) :
    Except ContractParseError (List (String × Int)) := do
  let source ← recordAt value path
  fields.mapM (parseSetting least source bounds path)

def settingOf (values : List (String × Int)) (field : String) : Int := (values.lookup field).getD 0

def prefilterDefaultFields : List String := [
  "max_event_age_ms", "observation_window_ms", "max_active_windows", "rpc_requests_per_second",
  "rpc_max_in_flight", "rpc_request_timeout_ms", "rpc_rate_limit_cooldown_ms"]

def qualificationDefaultFields : List String := [
  "minimum_trades", "minimum_unique_traders", "minimum_buys", "minimum_sells",
  "minimum_native_quote_volume_units", "minimum_stable_quote_volume_units",
  "maximum_single_wallet_quote_share_bps"]

def parsePrefilterBounds (value : JsonValue) (path : String) :
    Except ContractParseError (List (String × IntegerSettingBounds)) :=
  parseSettingsBounds prefilterDefaultFields value path

def parseQualificationBounds (value : JsonValue) (path : String) :
    Except ContractParseError (List (String × IntegerSettingBounds)) :=
  parseSettingsBounds qualificationDefaultFields value path

def parsePrefilterValues (value : JsonValue) (bounds : List (String × IntegerSettingBounds))
    (path : String) : Except ContractParseError (List (String × Int)) := do
  let values ← parseSettings prefilterDefaultFields 1 value bounds path
  if settingOf values "rpc_request_timeout_ms" > settingOf values "max_event_age_ms" then
    throw {
      path := path ++ ".rpc_request_timeout_ms"
      expected := "a timeout no greater than max_event_age_ms" }
  if settingOf values "observation_window_ms" < settingOf values "rpc_request_timeout_ms" then
    throw {
      path := path ++ ".observation_window_ms"
      expected := "a duration no shorter than rpc_request_timeout_ms" }
  return values

/-- The counts that the trades of a window bound. -/
def tradeBoundedFields : List String := ["minimum_unique_traders", "minimum_buys", "minimum_sells"]

def parseQualificationValues (value : JsonValue) (bounds : List (String × IntegerSettingBounds))
    (path : String) : Except ContractParseError (List (String × Int)) := do
  let values ← parseSettings qualificationDefaultFields 0 value bounds path
  tradeBoundedFields.forM fun field => do
    if settingOf values field > settingOf values "minimum_trades" then
      throw {
        path := path ++ "." ++ field
        expected := "a value no greater than minimum_trades" }
  return values

structure SettingsResponse where
  revision : Int
  values : List (String × Int)
  bounds : List (String × IntegerSettingBounds)
  applyRequirement : SettingsApplyRequirement
deriving DecidableEq, Repr

/-- The bounds are parsed before the revision and the values. -/
def parseSettingsResponse
    (parseBounds : JsonValue → String →
      Except ContractParseError (List (String × IntegerSettingBounds)))
    (parseValues : JsonValue → List (String × IntegerSettingBounds) → String →
      Except ContractParseError (List (String × Int)))
    (requirement : SettingsApplyRequirement) (value : JsonValue) :
    Except ContractParseError SettingsResponse := do
  let response ← recordAt value "$"
  let bounds ← parseBounds (member response "bounds") "$.bounds"
  return {
    revision := ← safeIntegerAt (member response "revision") "$.revision" 1
    values := ← parseValues (member response "values") bounds "$.values"
    bounds
    applyRequirement := ← enumAt (member response "apply_requirement") "$.apply_requirement"
      applyRequirementName [requirement] }

def parsePrefilterDefaults (value : JsonValue) : Except ContractParseError SettingsResponse :=
  parseSettingsResponse parsePrefilterBounds parsePrefilterValues .streamRestart value

def parseQualificationDefaults (value : JsonValue) : Except ContractParseError SettingsResponse :=
  parseSettingsResponse parseQualificationBounds parseQualificationValues .newWindows value

def parseStreamStatus (value : JsonValue) (path : String) :
    Except ContractParseError StreamStatus :=
  enumAt value path streamStatusName streamStatuses

def parseLiveEvent (value : JsonValue) (path : String) : Except ContractParseError LiveEvent := do
  let event ← recordAt value path
  let type ← stringAt (member event "type") (path ++ ".type")
  if type = "STREAM_STATUS_CHANGED" then
    let status ← parseStreamStatus (member event "payload") (path ++ ".payload")
    return .streamStatusChanged status
  else if type = "DISCOVERY_PROJECTION_CHANGED" then return .discoveryProjectionChanged
  else if type = "RESYNC_REQUIRED" then return .resyncRequired
  else throw { path := path ++ ".type", expected := "a supported live-event type" }

structure LiveEnvelope where
  sequence : Int
  event : LiveEvent
deriving DecidableEq, Repr

def parseLiveEnvelope (value : JsonValue) : Except ContractParseError LiveEnvelope := do
  let envelope ← recordAt value "$"
  return {
    sequence := ← safeIntegerAt (member envelope "sequence") "$.sequence" 0
    event := ← parseLiveEvent (member envelope "event") "$.event" }

end Soldisco.Web

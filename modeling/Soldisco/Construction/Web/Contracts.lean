import Soldisco.Construction.LiveEvents
import Soldisco.Construction.Projections
import Soldisco.Construction.Web.Parsers

/-
This file embeds the serialized responses of the server.
-/

namespace Soldisco.Web
open Domain
open Persistence (DiscoveryMode DiscoveryStage DiscoveryToken discoveryStageName IntegerBounds
  PrefilterDefaults QualificationDefaults Score)
open Projections (DiscoverySnapshot)
open Supervisor (StreamStatus)
open LiveEvents (LiveEnvelope LiveEvent)

def venueName : Venue → String
  | .pumpBondingCurve => "PUMP_BONDING_CURVE"
  | .pumpSwap => "PUMP_SWAP"
  | .raydiumCpmm => "RAYDIUM_CPMM"
  | .raydiumClmm => "RAYDIUM_CLMM"
  | .raydiumAmmV4 => "RAYDIUM_AMM_V4"

def sourceProgramName : SourceProgram → String
  | .pump => "PUMP"
  | .pumpSwap => "PUMP_SWAP"
  | .raydiumCpmm => "RAYDIUM_CPMM"
  | .raydiumClmm => "RAYDIUM_CLMM"
  | .raydiumAmmV4 => "RAYDIUM_AMM_V4"

def discoveryModeName : DiscoveryMode → String
  | .observeAll => "OBSERVE_ALL"
  | .qualifiedOnly => "QUALIFIED_ONLY"
  | .approvedOnly => "APPROVED_ONLY"

def streamStatusName : StreamStatus → String
  | .stopped => "STOPPED"
  | .starting => "STARTING"
  | .running => "RUNNING"
  | .degraded => "DEGRADED"
  | .error => "ERROR"
  | .stopping => "STOPPING"

def serializeActivity (activity : Persistence.DiscoveryActivity) : JsonValue :=
  .object [
    ("trades", .ofInteger activity.trades),
    ("buys", .ofInteger activity.buys),
    ("sells", .ofInteger activity.sells),
    ("unique_traders", .ofInteger activity.uniqueTraders),
    ("base_volume_units", .string activity.baseVolumeUnits),
    ("quote_volume_units", .string activity.quoteVolumeUnits)]

def serializeScore (score : Option Score) : JsonValue :=
  .ofOption (fun score : Score => .ofInteger score.value) score

def serializeToken (token : DiscoveryToken) : JsonValue :=
  .object [
    ("mint", .string token.mint),
    ("name", .ofOption .string token.name),
    ("symbol", .ofOption .string token.symbol),
    ("primary_venue", .string (venueName token.primaryVenue)),
    ("market_address", .string token.marketAddress),
    ("quote_mint", .ofOption .string token.quoteMint),
    ("source_program", .string (sourceProgramName token.sourceProgram)),
    ("stage", .string (discoveryStageName token.stage)),
    ("last_event_kind", .string token.lastEventKind),
    ("observed_slot", .ofInteger token.observedSlot),
    ("first_observed_unix_ms", .ofInteger token.firstObservedUnixMs),
    ("last_observed_unix_ms", .ofInteger token.lastObservedUnixMs),
    ("latest_signature", .string token.latestSignature),
    ("activity", serializeActivity token.activity),
    ("qualification", .ofOption serializeSummary token.qualification),
    ("risk_score", serializeScore token.riskScore),
    ("opportunity_score", serializeScore token.opportunityScore)]

def serializeCounters (counters : Projections.DiscoveryCounters) : JsonValue :=
  .object [
    ("observed", .ofInteger counters.observed),
    ("pending", .ofInteger counters.pending),
    ("qualified", .ofInteger counters.qualified),
    ("qualification_pending", .ofInteger counters.qualificationPending),
    ("qualification_rejected", .ofInteger counters.qualificationRejected),
    ("qualification_unknown", .ofInteger counters.qualificationUnknown),
    ("processing_failures", .ofInteger counters.processingFailures),
    ("approved", .ofInteger counters.approved),
    ("rejected", .ofInteger counters.rejected),
    ("flow_per_minute", .ofOption (fun flow : Nat => .ofInteger flow) counters.flowPerMinute)]

def serializeRejection (rejection : Projections.RejectionSummary) : JsonValue :=
  .object [
    ("reason_code", .string rejection.reasonCode),
    ("count", .ofInteger rejection.count),
    ("last_seen_unix_ms", .ofInteger rejection.lastSeenUnixMs)]

def serializeSnapshot (snapshot : DiscoverySnapshot) : JsonValue :=
  .object [
    ("sequence", .ofInteger snapshot.sequence),
    ("mode", .string (discoveryModeName snapshot.mode)),
    ("tokens", .array (snapshot.tokens.map serializeToken)),
    ("tokens_total", .ofInteger snapshot.tokensTotal),
    ("tokens_truncated", .boolean snapshot.tokensTruncated),
    ("counters", serializeCounters snapshot.counters),
    ("rejection_reasons", .array (snapshot.rejectionReasons.map serializeRejection))]

def serializeBounds (bounds : IntegerBounds) : JsonValue :=
  .object [("minimum", .ofInteger bounds.minimum), ("maximum", .ofInteger bounds.maximum)]

/-- A settings object has one number for each of its fields. -/
abbrev Settings : Type := List (String × Nat)

/-- The bounds of a settings object stand under the same fields. -/
abbrev SettingsBounds : Type := List (String × IntegerBounds)

def prefilterSettings (values : PrefilterDefaults) : Settings := [
  ("max_event_age_ms", values.maxEventAgeMs),
  ("observation_window_ms", values.observationWindowMs),
  ("max_active_windows", values.maxActiveWindows),
  ("rpc_requests_per_second", values.rpcRequestsPerSecond),
  ("rpc_max_in_flight", values.rpcMaxInFlight),
  ("rpc_request_timeout_ms", values.rpcRequestTimeoutMs),
  ("rpc_rate_limit_cooldown_ms", values.rpcRateLimitCooldownMs)]

/-- The constant `PrefilterDefaultsBounds::SUPPORTED`. -/
def prefilterSupported : SettingsBounds := [
  ("max_event_age_ms", { minimum := 1000, maximum := 300000 }),
  ("observation_window_ms", { minimum := 1000, maximum := 3600000 }),
  ("max_active_windows", { minimum := 1, maximum := 100000 }),
  ("rpc_requests_per_second", { minimum := 1, maximum := 1000 }),
  ("rpc_max_in_flight", { minimum := 1, maximum := 128 }),
  ("rpc_request_timeout_ms", { minimum := 1, maximum := 300000 }),
  ("rpc_rate_limit_cooldown_ms", { minimum := 100, maximum := 300000 })]

def qualificationSettings (values : QualificationDefaults) : Settings := [
  ("minimum_trades", values.minimumTrades),
  ("minimum_unique_traders", values.minimumUniqueTraders),
  ("minimum_buys", values.minimumBuys),
  ("minimum_sells", values.minimumSells),
  ("minimum_native_quote_volume_units", values.minimumNativeQuoteVolumeUnits),
  ("minimum_stable_quote_volume_units", values.minimumStableQuoteVolumeUnits),
  ("maximum_single_wallet_quote_share_bps", values.maximumSingleWalletQuoteShareBps)]

/-- The constant `QualificationDefaultsBounds::SUPPORTED`. -/
def qualificationSupported : SettingsBounds := [
  ("minimum_trades", { minimum := 1, maximum := 10000 }),
  ("minimum_unique_traders", { minimum := 1, maximum := 10000 }),
  ("minimum_buys", { minimum := 0, maximum := 10000 }),
  ("minimum_sells", { minimum := 0, maximum := 10000 }),
  ("minimum_native_quote_volume_units", { minimum := 0, maximum := 9007199254740991 }),
  ("minimum_stable_quote_volume_units", { minimum := 0, maximum := 9007199254740991 }),
  ("maximum_single_wallet_quote_share_bps", { minimum := 1000, maximum := 10000 })]

inductive SettingsApplyRequirement where
  | streamRestart
  | newWindows
deriving DecidableEq, Repr

def applyRequirementName : SettingsApplyRequirement → String
  | .streamRestart => "STREAM_RESTART"
  | .newWindows => "NEW_WINDOWS"

def serializeSettingsResponse (values : Settings) (bounds : SettingsBounds) (revision : Nat)
    (applyRequirement : SettingsApplyRequirement) : JsonValue :=
  .object [
    ("values", .object (values.map fun entry => (entry.1, .ofInteger entry.2))),
    ("bounds", .object (bounds.map fun entry => (entry.1, serializeBounds entry.2))),
    ("revision", .ofInteger revision),
    ("apply_requirement", .string (applyRequirementName applyRequirement))]

def prefilterDefaultsResponse (stored : Supervisor.StoredPrefilterDefaults) : JsonValue :=
  serializeSettingsResponse (prefilterSettings stored.values) prefilterSupported stored.revision
    .streamRestart

def qualificationDefaultsResponse (stored : Persistence.StoredQualificationDefaults) : JsonValue :=
  serializeSettingsResponse (qualificationSettings stored.values) qualificationSupported
    stored.revision .newWindows

/-- The tag stands beside the payload; an event without a payload has the tag only. -/
def serializeLiveEvent : LiveEvent → JsonValue
  | .streamStatusChanged status => .object [
      ("type", .string "STREAM_STATUS_CHANGED"),
      ("payload", .string (streamStatusName status))]
  | .discoveryProjectionChanged => .object [("type", .string "DISCOVERY_PROJECTION_CHANGED")]
  | .resyncRequired => .object [("type", .string "RESYNC_REQUIRED")]

def serializeEnvelope (envelope : LiveEnvelope) : JsonValue :=
  .object [
    ("sequence", .ofInteger envelope.sequence),
    ("event", serializeLiveEvent envelope.event)]

end Soldisco.Web

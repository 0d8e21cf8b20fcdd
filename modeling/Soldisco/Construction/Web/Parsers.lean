import Soldisco.Construction.Persistence.Finalization
import Soldisco.Library.Binary64

/-
This file embeds the serialized window summary and the parser of the browser for it.
-/

namespace Soldisco.Web
open Persistence (QualificationDecision WindowCompleteness)

/-- The values that the browser reads from a document. An absent member is undefined. -/
inductive JsonValue where
  | undefined
  | null
  | boolean (value : Bool)
  | number (value : Int)
  | string (text : String)
  | array (items : List JsonValue)
  | object (members : List (String × JsonValue))

namespace JsonValue

/-- The digits of an integer are read as the number that stands for it. -/
def ofInteger (value : Int) : JsonValue := .number (Binary64.ofInt value)

def ofOption {Content : Type} (encode : Content → JsonValue) : Option Content → JsonValue
  | some content => encode content
  | none => .null

end JsonValue

def decisionName : QualificationDecision → String
  | .pass => "PASS"
  | .reject => "REJECT"
  | .unknown => "UNKNOWN"

def completenessName : WindowCompleteness → String
  | .complete => "COMPLETE"
  | .incomplete => "INCOMPLETE"

/-- The value that the browser reads from the serialized summary. -/
def serializeSummary (summary : Persistence.DiscoveryWindowSummary) : JsonValue :=
  .object [
    ("window_revision", .ofInteger summary.windowRevision),
    ("ruleset_revision", .ofInteger summary.rulesetRevision),
    ("opened_unix_ms", .ofInteger summary.openedUnixMs),
    ("closed_unix_ms", .ofInteger summary.closedUnixMs),
    ("evaluated_unix_ms", .ofInteger summary.evaluatedUnixMs),
    ("decision", .string (decisionName summary.decision)),
    ("completeness", .string (completenessName summary.completeness)),
    ("reason_codes", .array (summary.reasonCodes.map .string)),
    ("trades", .ofInteger summary.trades),
    ("buys", .ofInteger summary.buys),
    ("sells", .ofInteger summary.sells),
    ("unique_traders", .ofInteger summary.uniqueTraders),
    ("unique_buyers", .ofInteger summary.uniqueBuyers),
    ("unique_sellers", .ofInteger summary.uniqueSellers),
    ("buy_base_volume_units", .string summary.buyBaseVolumeUnits),
    ("sell_base_volume_units", .string summary.sellBaseVolumeUnits),
    ("buy_quote_volume_units", .string summary.buyQuoteVolumeUnits),
    ("sell_quote_volume_units", .string summary.sellQuoteVolumeUnits),
    ("maximum_single_wallet_quote_share_bps",
      .ofOption (fun share : Nat => .ofInteger share) summary.maximumSingleWalletQuoteShareBps),
    ("price_change_bps", .ofOption .ofInteger summary.priceChangeBps),
    ("first_base_reserve_units", .ofOption .string summary.firstBaseReserveUnits),
    ("first_quote_reserve_units", .ofOption .string summary.firstQuoteReserveUnits),
    ("latest_base_reserve_units", .ofOption .string summary.latestBaseReserveUnits),
    ("latest_quote_reserve_units", .ofOption .string summary.latestQuoteReserveUnits)]

structure ContractParseError where
  path : String
  expected : String
deriving DecidableEq, Repr

def minSafeInteger : Int := -9007199254740991

def recordAt (value : JsonValue) (path : String) :
    Except ContractParseError (List (String × JsonValue)) :=
  match value with
  | .object members => .ok members
  | _ => .error { path, expected := "an object" }

/-- The last of the members with one name counts. -/
def member (members : List (String × JsonValue)) (name : String) : JsonValue :=
  (members.reverse.lookup name).getD .undefined

def stringAt (value : JsonValue) (path : String) : Except ContractParseError String :=
  match value with
  | .string text => .ok text
  | _ => .error { path, expected := "a string" }

def nullableStringAt (value : JsonValue) (path : String) :
    Except ContractParseError (Option String) :=
  match value with
  | .null => .ok none
  | value => some <$> stringAt value path

def safeIntegerAt (value : JsonValue) (path : String) (minimum : Int) :
    Except ContractParseError Int :=
  match value with
  | .number value =>
      if !Binary64.isSafeInteger value || value < minimum then
        .error { path, expected := "a safe integer" }
      else .ok value
  | _ => .error { path, expected := "a safe integer" }

def nullableCountAt (value : JsonValue) (path : String) : Except ContractParseError (Option Int) :=
  match value with
  | .null => .ok none
  | value => some <$> safeIntegerAt value path 0

def nullableSafeIntegerAt (value : JsonValue) (path : String) :
    Except ContractParseError (Option Int) :=
  match value with
  | .null => .ok none
  | value => some <$> safeIntegerAt value path minSafeInteger

/-- The allowed texts stand for the values of the enumeration. -/
def enumAt {Variant : Type} (value : JsonValue) (path : String) (name : Variant → String)
    (allowed : List Variant) : Except ContractParseError Variant :=
  let refused : ContractParseError :=
    { path, expected := String.intercalate " or " (allowed.map name) }
  match value with
  | .string text =>
      match allowed.find? fun variant => name variant == text with
      | some variant => .ok variant
      | none => .error refused
  | _ => .error refused

def arrayAt {Item : Type} (value : JsonValue) (path : String)
    (parseItem : JsonValue → String → Except ContractParseError Item) :
    Except ContractParseError (List Item) :=
  match value with
  | .array items => items.zipIdx.mapM fun entry =>
      parseItem entry.1 (path ++ "[" ++ toString entry.2 ++ "]")
  | _ => .error { path, expected := "an array" }

/-- The numbers of the contract are integers. -/
structure DiscoveryWindowSummary where
  windowRevision : Int
  rulesetRevision : Int
  openedUnixMs : Int
  closedUnixMs : Int
  evaluatedUnixMs : Int
  decision : QualificationDecision
  completeness : WindowCompleteness
  reasonCodes : List String
  trades : Int
  buys : Int
  sells : Int
  uniqueTraders : Int
  uniqueBuyers : Int
  uniqueSellers : Int
  buyBaseVolumeUnits : String
  sellBaseVolumeUnits : String
  buyQuoteVolumeUnits : String
  sellQuoteVolumeUnits : String
  maximumSingleWalletQuoteShareBps : Option Int
  priceChangeBps : Option Int
  firstBaseReserveUnits : Option String
  firstQuoteReserveUnits : Option String
  latestBaseReserveUnits : Option String
  latestQuoteReserveUnits : Option String
deriving DecidableEq, Repr

def checkWalletShare (maximumWalletShare : Option Int) (path : String) :
    Except ContractParseError Unit :=
  if maximumWalletShare.any (· > 10000) then
    .error { path, expected := "an integer from 0 through 10000 or null" }
  else .ok ()

/-- The share is parsed before the other members. -/
def parseQualificationSummary (value : JsonValue) (path : String) :
    Except ContractParseError DiscoveryWindowSummary := do
  let summary ← recordAt value path
  let maximumWalletShare ← nullableCountAt (member summary "maximum_single_wallet_quote_share_bps")
    (path ++ ".maximum_single_wallet_quote_share_bps")
  checkWalletShare maximumWalletShare (path ++ ".maximum_single_wallet_quote_share_bps")
  let count (name : String) (minimum : Int) :=
    safeIntegerAt (member summary name) (path ++ "." ++ name) minimum
  let text (name : String) := stringAt (member summary name) (path ++ "." ++ name)
  let nullableText (name : String) :=
    nullableStringAt (member summary name) (path ++ "." ++ name)
  return {
    windowRevision := ← count "window_revision" 1
    rulesetRevision := ← count "ruleset_revision" 1
    openedUnixMs := ← count "opened_unix_ms" 0
    closedUnixMs := ← count "closed_unix_ms" 0
    evaluatedUnixMs := ← count "evaluated_unix_ms" 0
    decision := ← enumAt (member summary "decision") (path ++ ".decision") decisionName
      [.pass, .reject, .unknown]
    completeness := ← enumAt (member summary "completeness") (path ++ ".completeness")
      completenessName [.complete, .incomplete]
    reasonCodes := ← arrayAt (member summary "reason_codes") (path ++ ".reason_codes") stringAt
    trades := ← count "trades" 0
    buys := ← count "buys" 0
    sells := ← count "sells" 0
    uniqueTraders := ← count "unique_traders" 0
    uniqueBuyers := ← count "unique_buyers" 0
    uniqueSellers := ← count "unique_sellers" 0
    buyBaseVolumeUnits := ← text "buy_base_volume_units"
    sellBaseVolumeUnits := ← text "sell_base_volume_units"
    buyQuoteVolumeUnits := ← text "buy_quote_volume_units"
    sellQuoteVolumeUnits := ← text "sell_quote_volume_units"
    maximumSingleWalletQuoteShareBps := maximumWalletShare
    priceChangeBps := ← nullableSafeIntegerAt (member summary "price_change_bps")
      (path ++ ".price_change_bps")
    firstBaseReserveUnits := ← nullableText "first_base_reserve_units"
    firstQuoteReserveUnits := ← nullableText "first_quote_reserve_units"
    latestBaseReserveUnits := ← nullableText "latest_base_reserve_units"
    latestQuoteReserveUnits := ← nullableText "latest_quote_reserve_units" }

end Soldisco.Web

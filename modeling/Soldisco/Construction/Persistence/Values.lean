import Soldisco.Construction.Qualification

/-
This file gives the errors, the pinned settings and the checked conversions of the database crate.
-/

namespace Soldisco.Persistence
open Domain MachineInteger

structure IntegerBounds where
  minimum : Nat
  maximum : Nat
deriving DecidableEq, Repr

/-- Each bounded setting is reported by its field, its value and its bounds. -/
def validateInteger {Error : Type} (outOfBounds : String → Nat → IntegerBounds → Error)
    (field : String) (value : Nat) (bounds : IntegerBounds) : Except Error Unit :=
  if bounds.minimum ≤ value ∧ value ≤ bounds.maximum then .ok ()
  else .error (outOfBounds field value bounds)

structure PrefilterDefaults where
  maxEventAgeMs : Nat
  observationWindowMs : Nat
  maxActiveWindows : Nat
  rpcRequestsPerSecond : Nat
  rpcMaxInFlight : Nat
  rpcRequestTimeoutMs : Nat
  rpcRateLimitCooldownMs : Nat
deriving DecidableEq, Repr

inductive PrefilterDefaultsValidationError where
  | outOfBounds (field : String) (value : Nat) (bounds : IntegerBounds)
  | rpcTimeoutExceedsMaximumEventAge
  | observationWindowShorterThanRpcTimeout
deriving DecidableEq, Repr

def PrefilterDefaults.validate (values : PrefilterDefaults) :
    Except PrefilterDefaultsValidationError Unit := do
  validateInteger .outOfBounds "max_event_age_ms" values.maxEventAgeMs
    { minimum := 1000, maximum := 300000 }
  validateInteger .outOfBounds "observation_window_ms" values.observationWindowMs
    { minimum := 1000, maximum := 3600000 }
  validateInteger .outOfBounds "max_active_windows" values.maxActiveWindows
    { minimum := 1, maximum := 100000 }
  validateInteger .outOfBounds "rpc_requests_per_second" values.rpcRequestsPerSecond
    { minimum := 1, maximum := 1000 }
  validateInteger .outOfBounds "rpc_max_in_flight" values.rpcMaxInFlight
    { minimum := 1, maximum := 128 }
  validateInteger .outOfBounds "rpc_request_timeout_ms" values.rpcRequestTimeoutMs
    { minimum := 1, maximum := 300000 }
  validateInteger .outOfBounds "rpc_rate_limit_cooldown_ms" values.rpcRateLimitCooldownMs
    { minimum := 100, maximum := 300000 }
  if values.rpcRequestTimeoutMs > values.maxEventAgeMs then
    .error .rpcTimeoutExceedsMaximumEventAge
  else if values.observationWindowMs < values.rpcRequestTimeoutMs then
    .error .observationWindowShorterThanRpcTimeout
  else .ok ()

structure QualificationDefaults where
  minimumTrades : Nat
  minimumUniqueTraders : Nat
  minimumBuys : Nat
  minimumSells : Nat
  minimumNativeQuoteVolumeUnits : Nat
  minimumStableQuoteVolumeUnits : Nat
  maximumSingleWalletQuoteShareBps : Nat
deriving DecidableEq, Repr

inductive QualificationDefaultsValidationError where
  | outOfBounds (field : String) (value : Nat) (bounds : IntegerBounds)
  | minimumUniqueTradersExceedMinimumTrades
  | minimumBuysExceedMinimumTrades
  | minimumSellsExceedMinimumTrades
deriving DecidableEq, Repr

namespace QualificationDefaults

def safeInitial : QualificationDefaults where
  minimumTrades := 5
  minimumUniqueTraders := 3
  minimumBuys := 1
  minimumSells := 1
  minimumNativeQuoteVolumeUnits := 50000000
  minimumStableQuoteVolumeUnits := 5000000
  maximumSingleWalletQuoteShareBps := 9000

def validate (values : QualificationDefaults) :
    Except QualificationDefaultsValidationError Unit := do
  validateInteger .outOfBounds "minimum_trades" values.minimumTrades
    { minimum := 1, maximum := 10000 }
  validateInteger .outOfBounds "minimum_unique_traders" values.minimumUniqueTraders
    { minimum := 1, maximum := 10000 }
  validateInteger .outOfBounds "minimum_buys" values.minimumBuys
    { minimum := 0, maximum := 10000 }
  validateInteger .outOfBounds "minimum_sells" values.minimumSells
    { minimum := 0, maximum := 10000 }
  validateInteger .outOfBounds "minimum_native_quote_volume_units"
    values.minimumNativeQuoteVolumeUnits { minimum := 0, maximum := 9007199254740991 }
  validateInteger .outOfBounds "minimum_stable_quote_volume_units"
    values.minimumStableQuoteVolumeUnits { minimum := 0, maximum := 9007199254740991 }
  validateInteger .outOfBounds "maximum_single_wallet_quote_share_bps"
    values.maximumSingleWalletQuoteShareBps { minimum := 1000, maximum := 10000 }
  if values.minimumUniqueTraders > values.minimumTrades then
    .error .minimumUniqueTradersExceedMinimumTrades
  else if values.minimumBuys > values.minimumTrades then .error .minimumBuysExceedMinimumTrades
  else if values.minimumSells > values.minimumTrades then .error .minimumSellsExceedMinimumTrades
  else .ok ()

/-- The initial settings pass their own check. -/
theorem validate_safeInitial : safeInitial.validate = .ok () := by decide

end QualificationDefaults

structure StoredQualificationDefaults where
  values : QualificationDefaults
  revision : Nat
deriving DecidableEq, Repr

/-- The error of the database stands for every failure of a statement or a constraint. -/
inductive PersistenceError where
  | database
  | networkMismatch
  | observationEvidenceConflict (network : Network) (sourceProgram : SourceProgram)
      (signature : String) (instructionIndex eventIndex : Nat)
  | valueOutOfRange (field : String)
  | emptyField (field : String)
  | mustBePositive (field : String)
  | limitTooLarge (field : String) (maximum : Nat)
  | invalidPrefilterDefaults (error : PrefilterDefaultsValidationError)
  | invalidQualificationDefaults (error : QualificationDefaultsValidationError)
  | invalidDiscoveryWindowSnapshot (error : Snapshot.SnapshotError)
  | invalidQualificationPolicy (error : Qualification.QualificationPolicyError)
  | invalidBase64 (field : String)
  | fieldTooLong (field : String) (maximum : Nat)
  | workLeaseLost (workId : Int) (workerId : String)
  | unexpectedWorkKind (workId : Int) (expected actual : String)
  | invalidStoredValue (field value : String)
  | discoverySourceMismatch (field : String)
  | observationMustBeUnapproved
  | approvalMustBeExplicit
  | candidateNotObserved (mint : String)
  | candidateNotQualified (mint : String)
  | invalidActivityTotals
  | invalidUnsignedDecimal (field : String)
  | screeningDecisionMismatch
  | invalidDiscoveryWindowBounds
  | discoveryWindowIdentityConflict (windowId : Int)
  | discoveryWindowObservationMismatch (windowId : Int) (field : String)
  | discoveryWindowNotActive (windowId : Int)
  | discoveryWindowFinalizationConflict (windowId : Int)
  | discoveryWindowFinalizationEvidenceMismatch (windowId : Int)
  | discoveryWindowEvidenceChanged (windowId : Int)
  | discoveryWindowProjectionMissing (windowId : Int)
deriving DecidableEq, Repr

/-- A signed 64-bit column holds the smaller half of the unsigned 64-bit values. -/
def toI64 (value : Nat) (field : String) : Except PersistenceError Int :=
  if (value : Int) ≤ i64Max then .ok value else .error (.valueOutOfRange field)

def toU64 (value : Int) (field : String) : Except PersistenceError Nat :=
  if 0 ≤ value then .ok value.toNat else .error (.invalidStoredValue field (toString value))

def requireNonEmpty (value field : String) : Except PersistenceError Unit :=
  if Text.isBlank value then .error (.emptyField field) else .ok ()

/-- A duration counts nanoseconds; only some callers take a zero. -/
def durationMillis (duration : Nat) (field : String) (allowZero : Bool) :
    Except PersistenceError Int :=
  if !allowZero && duration == 0 then .error (.mustBePositive field)
  else if (duration / 1000000 : Nat) ≤ i64Max then .ok (duration / 1000000 : Nat)
  else .error (.valueOutOfRange field)

inductive Commitment where
  | processed
  | confirmed
  | finalized
deriving DecidableEq, Repr

/-- A durable observation carries the facts that the engine reads and its provenance. -/
structure Observation extends NormalizedObservation where
  commitment : Commitment
  schemaVersion : Nat
  decoderVersion : String
  eventKind : String
  rawEvidenceHash : String
  sourceEvidenceBase64 : String
  sourceDetails : String
deriving DecidableEq, Repr

end Soldisco.Persistence

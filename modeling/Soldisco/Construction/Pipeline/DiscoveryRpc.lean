import Soldisco.Construction.Pipeline.Collector
import Soldisco.Library.Table
import Soldisco.Library.Transition

/-
This file embeds the signature claims and the pacing of the discovery gate and the deliveries that
ask for them. Durations and instants count nanoseconds.
-/

namespace Soldisco.Pipeline
open Domain MachineInteger Window Intake

def nanosPerMilli : Nat := 1000000

def nanosPerSecond : Nat := 1000000000

/-- A duration has unsigned 64-bit seconds. -/
def durationMax : Nat := u64Size * nanosPerSecond - 1

/-- An instant has signed 64-bit seconds. -/
def instantSize : Nat := 2 ^ 63 * nanosPerSecond

def durationSaturatingAdd (left right : Nat) : Nat := min (left + right) durationMax

def discoverySignatureRetentionMargin : Nat := 11 * nanosPerSecond

/-- The wall clock is read in whole milliseconds; a time before the epoch or too late for 64 bits
reads as the largest one. -/
def unixTimeMillis (wallNanos : Int) : Int :=
  if 0 ≤ wallNanos ∧ wallNanos / nanosPerMilli ≤ i64Max then wallNanos / nanosPerMilli else i64Max

/-- The claims expire in the order of the queue. -/
structure RecentSignatures where
  retention : Nat
  expirations : List (Nat × String)
  values : Table String Nat

namespace RecentSignatures

/-- The gate retains a claim for the maximum age of a discovery and the margin. -/
def discoveryRpcGate (maximumDiscoveryAge : Nat) : RecentSignatures where
  retention := durationSaturatingAdd maximumDiscoveryAge discoverySignatureRetentionMargin
  expirations := []
  values := ∅

/-- The expired claims leave the front of the queue, and the set unless they were renewed. -/
def expire (now : Nat) : List (Nat × String) → Table String Nat →
    List (Nat × String) × Table String Nat
  | [], values => ([], values)
  | (expiresAt, signature) :: rest, values =>
      if expiresAt > now then ((expiresAt, signature) :: rest, values)
      else expire now rest
        (if values.lookup signature = some expiresAt then values.erase signature else values)

/-- A claim at an instant succeeds once until it expires. The sum of the instant and the retention
panics when it overflows. -/
def claimAt (signatures : RecentSignatures) (signature : String) (now : Nat) :
    Option Bool × RecentSignatures :=
  let (expirations, values) := expire now signatures.expirations signatures.values
  let current := { signatures with expirations, values }
  if (values.lookup signature).isSome then (some false, current)
  else if now + signatures.retention < instantSize then
    (some true, { current with
      values := values.insert signature (now + signatures.retention)
      expirations := expirations ++ [(now + signatures.retention, signature)] })
  else (none, current)

end RecentSignatures

/-- No request starts before the next slot or within the cooldown of the provider. -/
structure PacingState where
  nextAllowed : Option Nat
  cooldownUntil : Option Nat
deriving DecidableEq, Repr

/-- A waiter asks for the next slot, or a rate limit of the provider comes back. -/
inductive PacingCall where
  | reserve (now : Nat)
  | rateLimit (now : Nat)
deriving DecidableEq, Repr

/-- A call panics when its sum passes the last instant. -/
inductive PacingReply where
  | granted
  | waitUntil (readyAt : Nat)
  | recorded
  | overflowed
deriving DecidableEq, Repr

namespace PacingState

def new : PacingState where
  nextAllowed := none
  cooldownUntil := none

/-- The later one of the two deadlines, or now when there is none. -/
def readyAt (pacing : PacingState) (now : Nat) : Nat :=
  match pacing.nextAllowed, pacing.cooldownUntil with
  | none, none => now
  | some next, none => next
  | none, some cooldown => cooldown
  | some next, some cooldown => max next cooldown

/-- A grant takes the slot and drops a cooldown that is over. -/
def reserveIfReady (pacing : PacingState) (now interval : Nat) : PacingReply × PacingState :=
  if pacing.readyAt now > now then (.waitUntil (pacing.readyAt now), pacing)
  else if now + interval < instantSize then
    (.granted, {
      nextAllowed := some (now + interval)
      cooldownUntil :=
        if pacing.cooldownUntil.any (fun cooldown => cooldown ≤ now) then none
        else pacing.cooldownUntil })
  else (.overflowed, pacing)

/-- The cooldown only moves to a later end. -/
def recordRateLimit (pacing : PacingState) (now rateLimitCooldown : Nat) :
    PacingReply × PacingState :=
  if now + rateLimitCooldown < instantSize then
    (.recorded, { pacing with
      cooldownUntil := some ((pacing.cooldownUntil.map
        (max · (now + rateLimitCooldown))).getD (now + rateLimitCooldown)) })
  else (.overflowed, pacing)

/-- The waiters and the rate limits reach the pacing one after the other. -/
def step (interval rateLimitCooldown : Nat) (pacing : PacingState) :
    PacingCall → PacingReply × PacingState
  | .reserve now => pacing.reserveIfReady now interval
  | .rateLimit now => pacing.recordRateLimit now rateLimitCooldown

/-- The calls of a run with their replies. -/
def trace (interval rateLimitCooldown : Nat) (pacing : PacingState) (calls : List PacingCall) :
    List (PacingCall × PacingReply) :=
  Transition.collect (step interval rateLimitCooldown)
    (fun current call => [(call, (current.step interval rateLimitCooldown call).1)]) pacing calls

end PacingState

/-- A delivery to a collector with the windows that it meets and the instants of its clock reads. -/
structure Delivery where
  windows : System
  received : ReceivedProgramLogNotification
  classifiedAt : Nat
  claimedAt : Nat
  timeoutAt : Nat

section Deliveries

variable (network : Network) (maximumDiscoveryAge : Nat) (clock : Int)

namespace Delivery

def signature (delivery : Delivery) : String := delivery.received.notification.signature

def events (delivery : Delivery) : List PumpEvent :=
  delivery.received.notification.pump.events ++ delivery.received.notification.pumpSwap.events

/-- The wall clock runs ahead of the monotonic clock by a constant. -/
def nowUnixMs (delivery : Delivery) : Int := unixTimeMillis (clock + delivery.classifiedAt)

def disposition (delivery : Delivery) : NotificationDisposition :=
  (classifyNotification network (maximumDiscoveryAge / nanosPerMilli)
    delivery.received.receivedTimeUnixMs (delivery.nowUnixMs clock) delivery.received.notification
    { delivery.windows with
      registry := delivery.windows.registry.recordSourceProgress
        delivery.received.subscriptionProgram delivery.received.receivedTimeUnixMs }).1

/-- Only a delivery with fresh discoveries asks for its signature. -/
def seeds (delivery : Delivery) : List DiscoverySeed :=
  match delivery.disposition network maximumDiscoveryAge clock with
  | .fetchDiscovery seeds _ => seeds
  | _ => []

/-- The HTTP attempt is only admitted while there is time left. -/
def admissionTimeout (delivery : Delivery) : Option Int :=
  discoveryAdmissionTimeout (delivery.seeds network maximumDiscoveryAge clock)
    (maximumDiscoveryAge / nanosPerMilli) delivery.received.receivedTimeUnixMs
    (unixTimeMillis (clock + delivery.timeoutAt))

end Delivery

/-- The deliveries in the order of their claims leave those that pass the freshness filter and get
the claim. -/
def claimingDeliveries : RecentSignatures → List Delivery → List Delivery
  | _, [] => []
  | signatures, delivery :: rest =>
      if (delivery.seeds network maximumDiscoveryAge clock).isEmpty then
        claimingDeliveries signatures rest
      else
        match signatures.claimAt delivery.signature delivery.claimedAt with
        | (some true, next) => delivery :: claimingDeliveries next rest
        | (_, next) => claimingDeliveries next rest

end Deliveries

end Soldisco.Pipeline

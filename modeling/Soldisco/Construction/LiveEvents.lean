import Soldisco.Construction.Supervisor
import Soldisco.Library.Transition

/-
This file embeds the bus of live events. The callers and the delayed publish tasks interleave at each
operation of the pending flag, spawn, end of sleep and broadcast.
-/

namespace Soldisco.LiveEvents
open Supervisor (StreamStatus)

inductive LiveEvent where
  | streamStatusChanged (status : StreamStatus)
  | discoveryProjectionChanged
  | resyncRequired
deriving DecidableEq, Repr

structure LiveEnvelope where
  sequence : Nat
  event : LiveEvent
deriving DecidableEq, Repr

/-- A delayed publish sleeps, clears the pending flag and broadcasts. -/
inductive PublishTask where
  | sleeping
  | clearing
  | broadcasting
  | finished
deriving DecidableEq, Repr

/-- A call exchanges the pending flag and spawns a task when it has set the flag. The record counts
the invalidations that were broadcast before the exchange. -/
inductive InvalidationCall where
  | exchanging
  | spawning (broadcastsBefore : Nat)
  | completed (broadcastsBefore : Nat)
deriving DecidableEq, Repr

/-- The envelopes that the channel has sent stand in their order. -/
structure LiveEventBus where
  discoveryInvalidationPending : Bool
  sequence : Nat
  sent : List LiveEnvelope
  calls : List InvalidationCall
  tasks : List PublishTask
deriving DecidableEq, Repr

namespace LiveEventBus

def new : LiveEventBus where
  discoveryInvalidationPending := false
  sequence := 0
  sent := []
  calls := []
  tasks := []

/-- The counter of 64 bits wraps around. -/
def nextSequence (bus : LiveEventBus) : Nat := (bus.sequence + 1) % 2 ^ 64

def publish (bus : LiveEventBus) (event : LiveEvent) : LiveEventBus :=
  { bus with
    sequence := bus.nextSequence
    sent := bus.sent ++ [{ sequence := bus.nextSequence, event }] }

def resyncEnvelope (bus : LiveEventBus) : LiveEnvelope where
  sequence := bus.sequence
  event := .resyncRequired

/-- The number of invalidations that were broadcast. -/
def broadcasts (bus : LiveEventBus) : Nat :=
  bus.sent.countP fun envelope => envelope.event = .discoveryProjectionChanged

/-- A step of one call of `publish_discovery_projection_changed`. -/
def advanceCall (bus : LiveEventBus) (index : Nat) : LiveEventBus :=
  match bus.calls[index]? with
  | some .exchanging =>
      if bus.discoveryInvalidationPending then
        { bus with calls := bus.calls.set index (.completed bus.broadcasts) }
      else
        { bus with
          discoveryInvalidationPending := true
          calls := bus.calls.set index (.spawning bus.broadcasts) }
  | some (.spawning broadcastsBefore) =>
      { bus with
        calls := bus.calls.set index (.completed broadcastsBefore)
        tasks := bus.tasks ++ [.sleeping] }
  | _ => bus

/-- A step of one spawned task. -/
def advanceTask (bus : LiveEventBus) (index : Nat) : LiveEventBus :=
  match bus.tasks[index]? with
  | some .sleeping => { bus with tasks := bus.tasks.set index .clearing }
  | some .clearing =>
      { bus with
        discoveryInvalidationPending := false
        tasks := bus.tasks.set index .broadcasting }
  | some .broadcasting =>
      { bus with tasks := bus.tasks.set index .finished }.publish .discoveryProjectionChanged
  | _ => bus

inductive Action where
  | publishDiscoveryProjectionChanged
  | advanceCall (index : Nat)
  | advanceTask (index : Nat)
  | publishStatus (status : StreamStatus)
deriving DecidableEq, Repr

def step (bus : LiveEventBus) : Action → Unit × LiveEventBus
  | .publishDiscoveryProjectionChanged => ((), { bus with calls := bus.calls ++ [.exchanging] })
  | .advanceCall index => ((), bus.advanceCall index)
  | .advanceTask index => ((), bus.advanceTask index)
  | .publishStatus status => ((), bus.publish (.streamStatusChanged status))

end LiveEventBus
end Soldisco.LiveEvents

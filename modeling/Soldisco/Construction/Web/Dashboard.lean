import Soldisco.Construction.Web.DiscoveryRefresh
import Soldisco.Construction.Web.EventStream
import Mathlib.Logic.Function.Basic

/-
This file embeds the page that follows the server: its refreshes, their fresh responses and the
handling of live events. A task of the page runs with all its microtasks.
-/

namespace Soldisco.Web
open LiveEvents (LiveEventBus LiveEvent)
open Supervisor (StreamStatus)

structure ResponseTicket (Key : Type) where
  key : Key
  generation : Nat
deriving DecidableEq, Repr

/-- The coordinator knows the latest generation of each key. -/
structure ResponseFreshness (Key : Type) where
  nextGeneration : Nat
  latestByKey : Key → Option Nat

namespace ResponseFreshness

variable {Key : Type} [DecidableEq Key]

def create : ResponseFreshness Key where
  nextGeneration := 0
  latestByKey := fun _ => none

def begin (freshness : ResponseFreshness Key) (key : Key) :
    ResponseTicket Key × ResponseFreshness Key :=
  ({ key, generation := freshness.nextGeneration + 1 },
    { nextGeneration := freshness.nextGeneration + 1
      latestByKey := Function.update freshness.latestByKey key
        (some (freshness.nextGeneration + 1)) })

def isCurrent (freshness : ResponseFreshness Key) (ticket : ResponseTicket Key) : Bool :=
  freshness.latestByKey ticket.key = some ticket.generation

end ResponseFreshness

namespace RefreshCoordinator

/-- The promise of the read settles, and its microtasks run. -/
def settleRead (coordinator : RefreshCoordinator) (result : ReadResult) : RefreshCoordinator :=
  ((coordinator.settle result).runMicrotask .done false none).runMicrotask .done false none

end RefreshCoordinator

namespace Dashboard

inductive ResponseSurface where
  | connection
  | health
  | stream
deriving DecidableEq, Repr

structure StreamStateResponse where
  status : StreamStatus
  requestedRunning : Bool
deriving DecidableEq, Repr

/-- A value that the server gave when its bus had sent a number of envelopes. -/
structure Reading (Value : Type) where
  value : Value
  readAt : Nat
deriving DecidableEq, Repr

/-- The server has handled an outstanding request when there is an answer. -/
inductive Request (Value : Type) where
  | outstanding (answer : Option (Reading Value))
  | fulfilled (reading : Reading Value)
  | rejected
deriving DecidableEq, Repr

namespace Request

variable {Value : Type}

def isSettled : Request Value → Bool
  | .outstanding _ => false
  | .fulfilled _ | .rejected => true

def isFulfilled : Request Value → Bool
  | .fulfilled _ => true
  | .outstanding _ | .rejected => false

def serve (request : Request Value) (value : Value) (readAt : Nat) : Request Value :=
  match request with
  | .outstanding none => .outstanding (some { value, readAt })
  | request => request

/-- An answer that is not delivered, or not given in time, rejects the request. -/
def settle (request : Request Value) (delivered : Bool) : Request Value :=
  match request with
  | .outstanding (some reading) => if delivered then .fulfilled reading else .rejected
  | .outstanding none => .rejected
  | request => request

end Request

/-- A refresh of everything waits for the run of the discovery coordinator. -/
inductive DiscoveryPart where
  | unneeded
  | awaited
  | settled (fulfilled : Bool)
deriving DecidableEq, Repr

/-- An iteration of `refreshAll` or a call of `refreshStream`. -/
structure Refresh where
  healthTicket : ResponseTicket ResponseSurface
  streamTicket : ResponseTicket ResponseSurface
  connectionTicket : ResponseTicket ResponseSurface
  health : Request StreamStatus
  stream : Request StreamStateResponse
  discovery : DiscoveryPart
deriving DecidableEq, Repr

namespace Refresh

def isAll (refresh : Refresh) : Bool := refresh.discovery ≠ .unneeded

def isSettled (refresh : Refresh) : Bool :=
  refresh.health.isSettled && refresh.stream.isSettled && refresh.discovery ≠ .awaited

def anySuccess (refresh : Refresh) : Bool :=
  refresh.health.isFulfilled || refresh.stream.isFulfilled || refresh.discovery = .settled true

end Refresh

inductive BackendConnectionStatus where
  | connecting
  | connected
  | unavailable
deriving DecidableEq, Repr

inductive LiveConnectionStatus where
  | connecting
  | opened
  | retrying
deriving DecidableEq, Repr

/-- The answer to the outstanding read of the coordinator stands beside it, and callers of
`refreshDiscovery` may wait for its run. The last three fields record when the last stream refresh
and the last read began and whether the last finished read failed. -/
structure Browser where
  freshness : ResponseFreshness ResponseSurface
  refreshes : List Refresh
  refreshAllQueued : Bool
  coordinator : RefreshCoordinator
  discoveryAnswer : Option (Reading Nat)
  discoveryCallers : Bool
  connection : BackendConnectionStatus
  liveUpdates : LiveConnectionStatus
  health : Option (Reading StreamStatus)
  stream : Option (Reading StreamStateResponse)
  snapshot : Option (Reading Nat)
  healthError : Bool
  streamError : Bool
  discoveryError : Bool
  eventsError : Bool
  streamBegun : Nat
  readBegun : Nat
  lastReadFailed : Bool

namespace Browser

def callCoordinator (browser : Browser) (clock : Nat) : Browser :=
  { browser with
    coordinator := browser.coordinator.refresh none
    readBegun := if browser.coordinator.inFlight then browser.readBegun else clock }

def refreshDiscovery (browser : Browser) (clock : Nat) : Browser :=
  { browser.callCoordinator clock with discoveryCallers := true }

def refreshStream (browser : Browser) (clock : Nat) : Browser :=
  let stream := browser.freshness.begin .stream
  let health := stream.2.begin .health
  let connection := health.2.begin .connection
  let begun : Refresh := {
    healthTicket := health.1
    streamTicket := stream.1
    connectionTicket := connection.1
    health := .outstanding none
    stream := .outstanding none
    discovery := .unneeded }
  { browser with
    freshness := connection.2
    refreshes := browser.refreshes ++ [begun]
    streamBegun := clock }

/-- One iteration of the loop of `refreshAll`. -/
def beginAll (browser : Browser) (clock : Nat) : Browser :=
  let health := browser.freshness.begin .health
  let stream := health.2.begin .stream
  let connection := stream.2.begin .connection
  let begun : Refresh := {
    healthTicket := health.1
    streamTicket := stream.1
    connectionTicket := connection.1
    health := .outstanding none
    stream := .outstanding none
    discovery := .awaited }
  { browser with
    freshness := connection.2
    refreshes := browser.refreshes ++ [begun]
    refreshAllQueued := false
    streamBegun := clock }.callCoordinator clock

def refreshAll (browser : Browser) (clock : Nat) : Browser :=
  if browser.refreshes.any Refresh.isAll then { browser with refreshAllQueued := true }
  else browser.beginAll clock

def applyHealth (browser : Browser) (refresh : Refresh) : Browser :=
  if browser.freshness.isCurrent refresh.healthTicket then
    match refresh.health with
    | .fulfilled reading => { browser with health := some reading, healthError := false }
    | _ => { browser with healthError := true }
  else browser

def applyStream (browser : Browser) (refresh : Refresh) : Browser :=
  if browser.freshness.isCurrent refresh.streamTicket then
    match refresh.stream with
    | .fulfilled reading => { browser with stream := some reading, streamError := false }
    | _ => { browser with streamError := true }
  else browser

/-- The result of the run is applied without a ticket. -/
def applyDiscovery (browser : Browser) (refresh : Refresh) : Browser :=
  match refresh.discovery with
  | .settled fulfilled => { browser with discoveryError := !fulfilled }
  | _ => browser

def applyConnection (browser : Browser) (refresh : Refresh) : Browser :=
  if browser.freshness.isCurrent refresh.connectionTicket then
    { browser with connection := if refresh.anySuccess then .connected else .unavailable }
  else browser

/-- The results of a refresh on the page. -/
def applied (browser : Browser) (refresh : Refresh) : Browser :=
  (((browser.applyHealth refresh).applyStream refresh).applyDiscovery refresh).applyConnection
    refresh

/-- The code after the settled requests, up to the next iteration or the end. -/
def finish (browser : Browser) (clock : Nat) (refresh : Refresh) : Browser :=
  if refresh.isAll && (browser.applied refresh).refreshAllQueued then
    (browser.applied refresh).beginAll clock
  else browser.applied refresh

def remove (browser : Browser) (index : Nat) : Browser :=
  { browser with refreshes := browser.refreshes.eraseIdx index }

/-- A refresh continues when all of its promises have settled. -/
def update (browser : Browser) (clock index : Nat) (change : Refresh → Refresh) : Browser :=
  match browser.refreshes[index]? with
  | none => browser
  | some refresh =>
      if (change refresh).isSettled then (browser.remove index).finish clock (change refresh)
      else { browser with refreshes := browser.refreshes.set index (change refresh) }

/-- The page keeps the snapshot with the higher sequence. -/
def acceptSnapshot (current : Option (Reading Nat)) (next : Reading Nat) : Option (Reading Nat) :=
  if current.any fun shown => next.value < shown.value then current else some next

/-- The callers that wait for the run alone get its result. -/
def tellCallers (browser : Browser) (fulfilled : Bool) : Browser :=
  { browser with
    discoveryCallers := false
    discoveryError := if browser.discoveryCallers then !fulfilled else browser.discoveryError }

/-- The end of a run settles the promise for all that wait for it. -/
def endRun (browser : Browser) (clock : Nat) (fulfilled : Bool) : Browser :=
  match browser.refreshes.findIdx? fun refresh => refresh.discovery = .awaited with
  | some index => (browser.tellCallers fulfilled).update clock index fun refresh =>
      { refresh with discovery := .settled fulfilled }
  | none => browser.tellCallers fulfilled

/-- The outstanding read settles with its answer or fails. -/
def settleRead (browser : Browser) (answer : Option (Reading Nat)) : Browser :=
  { browser with
    coordinator := browser.coordinator.settleRead
      (answer.elim .rejected fun reading => .resolved reading.value)
    discoveryAnswer := none
    snapshot := (answer.filter fun reading => !browser.coordinator.disposed &&
        browser.coordinator.highestAcceptedSequence ≤ reading.value).elim browser.snapshot
      (acceptSnapshot browser.snapshot)
    lastReadFailed := answer.isNone }

/-- A read that settles is followed by the next one when a call has queued it. -/
def settleDiscovery (browser : Browser) (clock : Nat) (delivered : Bool) : Browser :=
  if browser.coordinator.unsettled = 0 then browser
  else
    let answer := if delivered then browser.discoveryAnswer else none
    let read := browser.settleRead answer
    if read.coordinator.inFlight then { read with readBegun := clock }
    else read.endRun clock answer.isSome

def handleLiveEnvelope (browser : Browser) (clock : Nat) (event : LiveEvent) : Browser :=
  let heard := { browser with eventsError := false }
  match event with
  | .streamStatusChanged _ => heard.refreshStream clock
  | .discoveryProjectionChanged => heard.refreshDiscovery clock
  | .resyncRequired => heard.refreshAll clock

/-- The page parses the text of an event before it handles it. -/
def receive (browser : Browser) (clock : Nat) (envelope : LiveEvents.LiveEnvelope) : Browser :=
  match parseLiveEnvelope (serializeEnvelope envelope) with
  | .ok parsed => browser.handleLiveEnvelope clock parsed.event
  | .error _ => { browser with eventsError := true }

/-- The page is mounted and refreshes everything. -/
def mount (clock : Nat) : Browser :=
  { freshness := .create
    refreshes := []
    refreshAllQueued := false
    coordinator := .create
    discoveryAnswer := none
    discoveryCallers := false
    connection := .connecting
    liveUpdates := .connecting
    health := none
    stream := none
    snapshot := none
    healthError := false
    streamError := false
    discoveryError := false
    eventsError := false
    streamBegun := clock
    readBegun := clock
    lastReadFailed := false : Browser }.refreshAll clock

end Browser

/-- The server shows the state of its stream and the sequence of its projection. They are recorded
with the number of envelopes that the bus had sent when they last changed, if they have. -/
structure State where
  bus : LiveEventBus
  stream : StreamStateResponse
  streamChangedAt : Option Nat
  projection : Nat
  projectionChangedAt : Option Nat
  connection : Option EventStream
  browser : Browser

/-- The bus and the server move at any time. The connection is made, carries events and fails. The
server handles requests in any order, each of them is answered or fails, and the user acts. -/
inductive Action where
  | bus (action : LiveEventBus.Action)
  | changeStream (stream : StreamStateResponse)
  | changeProjection (growth : Nat)
  | connect
  | subscribe
  | emit
  | openConnection
  | receive
  | failConnection
  | serveHealth (index : Nat)
  | serveStream (index : Nat)
  | serveDiscovery
  | settleHealth (index : Nat) (delivered : Bool)
  | settleStream (index : Nat) (delivered : Bool)
  | settleDiscovery (delivered : Bool)
  | refreshAll
  | commandFinished
deriving DecidableEq, Repr

namespace State

/-- The envelopes that the bus has sent count the time. -/
def clock (state : State) : Nat := state.bus.sent.length

def start (bus : LiveEventBus) (stream : StreamStateResponse) (projection : Nat) : State where
  bus
  stream
  streamChangedAt := none
  projection
  projectionChangedAt := none
  connection := none
  browser := .mount bus.sent.length

def withStream (state : State) (change : EventStream → EventStream) : State :=
  { state with connection := state.connection.map change }

/-- A page without a connection asks for one. -/
def connect (state : State) : State :=
  match state.connection with
  | none => { state with connection := some (.get state.bus) }
  | some _ => state

/-- The page takes the first event from the wire of an open connection. -/
def receive (state : State) : State :=
  match state.connection with
  | some { opened := true, initial, next, wire := envelope :: rest } =>
      { state with
        connection := some { opened := true, initial, next, wire := rest }
        browser := state.browser.receive state.clock envelope }
  | _ => state

/-- A connection opens once, and the page then refreshes everything. -/
def openConnection (state : State) : State :=
  match state.connection with
  | some { opened := false, initial, next, wire } =>
      { state with
        connection := some { opened := true, initial, next, wire }
        browser := ({ state.browser with
          liveUpdates := .opened
          eventsError := false } : Browser).refreshAll state.clock }
  | _ => state

def serveRefresh (state : State) (index : Nat) (change : Refresh → Refresh) : State :=
  { state with browser := { state.browser with
      refreshes := state.browser.refreshes.modify index change } }

end State

def step (state : State) : Action → Unit × State
  | .bus action => ((), { state with bus := (LiveEventBus.step state.bus action).2 })
  | .changeStream stream =>
      ((), { state with stream, streamChangedAt := some state.clock })
  | .changeProjection growth =>
      ((), { state with
        projection := state.projection + growth
        projectionChangedAt := some state.clock })
  | .connect => ((), state.connect)
  | .subscribe => ((), state.withStream (.subscribe state.bus))
  | .emit => ((), state.withStream (.emit state.bus))
  | .openConnection => ((), state.openConnection)
  | .receive => ((), state.receive)
  | .failConnection => ((), { state with
      connection := none
      browser := ({ state.browser with liveUpdates := .retrying } : Browser).refreshAll
        state.clock })
  | .serveHealth index => ((), state.serveRefresh index fun refresh =>
      { refresh with health := refresh.health.serve state.stream.status state.clock })
  | .serveStream index => ((), state.serveRefresh index fun refresh =>
      { refresh with stream := refresh.stream.serve state.stream state.clock })
  | .serveDiscovery => ((), { state with browser := { state.browser with
      discoveryAnswer :=
        if state.browser.coordinator.unsettled = 0 then none
        else state.browser.discoveryAnswer <|> some ⟨state.projection, state.clock⟩ } })
  | .settleHealth index delivered => ((), { state with
      browser := state.browser.update state.clock index fun refresh =>
        { refresh with health := refresh.health.settle delivered } })
  | .settleStream index delivered => ((), { state with
      browser := state.browser.update state.clock index fun refresh =>
        { refresh with stream := refresh.stream.settle delivered } })
  | .settleDiscovery delivered => ((), { state with
      browser := state.browser.settleDiscovery state.clock delivered })
  | .refreshAll => ((), { state with browser := state.browser.refreshAll state.clock })
  | .commandFinished => ((), { state with browser := state.browser.refreshStream state.clock })

end Dashboard
end Soldisco.Web

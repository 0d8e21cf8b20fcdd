import Soldisco.Construction.Web.ResponseParsers

/-
This file embeds the stream of live events that the server keeps for a page.
-/

namespace Soldisco.Web
open LiveEvents (LiveEventBus)

/-- The first event waits until the stream is built. The receiver stands before its next position in
the channel, and the sent envelopes stay on the wire until the page takes them. -/
structure EventStream where
  opened : Bool
  initial : Option LiveEvents.LiveEnvelope
  next : Option Nat
  wire : List LiveEvents.LiveEnvelope
deriving DecidableEq, Repr

def liveEventBuffer : Nat := 256

namespace EventStream

/-- The first event is made before the receiver subscribes. -/
def get (bus : LiveEventBus) : EventStream where
  opened := false
  initial := some bus.resyncEnvelope
  next := none
  wire := []

/-- A receiver gets the envelopes that are sent from now on. -/
def subscribe (bus : LiveEventBus) (stream : EventStream) : EventStream :=
  match stream.next with
  | none => { stream with next := some bus.sent.length }
  | some _ => stream

/-- The channel keeps the last envelopes. A receiver that has missed some goes to the oldest kept
one, and its stream asks for a resync. -/
def emit (bus : LiveEventBus) (stream : EventStream) : EventStream :=
  match stream.next, stream.initial with
  | none, _ => stream
  | some _, some envelope => { stream with initial := none, wire := stream.wire ++ [envelope] }
  | some next, none =>
      if next + liveEventBuffer < bus.sent.length then
        { stream with
          next := some (bus.sent.length - liveEventBuffer)
          wire := stream.wire ++ [bus.resyncEnvelope] }
      else match bus.sent[next]? with
        | some envelope =>
            { stream with next := some (next + 1), wire := stream.wire ++ [envelope] }
        | none => stream

end EventStream
end Soldisco.Web

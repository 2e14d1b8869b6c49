import RouteDiscovery.Stream

/-!
All streams of a node, one for each remote socket and local address. Streams do not affect each
other; packets come out in the order of the streams' keys.
-/
namespace RouteDiscovery
open Wire

structure StreamKey where
  sender : SocketAddress
  recipient : Address
  deriving DecidableEq, Inhabited

/-- Keys are ordered by sending address, then sending port, then receiving address. -/
def StreamKey.rank (key : StreamKey) : Nat :=
  (key.sender.address.bits.toNat * 0x10000 + key.sender.port.toNat) * 0x100000000 +
    key.recipient.bits.toNat

/-- The packets that one stream yields at a time. -/
structure Batch where
  key : StreamKey
  packets : List Packet
  deriving DecidableEq

structure InboxMetrics where
  received : Nat := 0
  decoded : Nat := 0
  discarded : Nat := 0
  created : Nat := 0
  evicted : Nat := 0
  deriving DecidableEq, Inhabited

/-- The streams stand in ascending order of their keys. -/
structure Inbox where
  streams : List (StreamKey × Stream) := []
  metrics : InboxMetrics := {}
  deriving DecidableEq, Inhabited

namespace Inbox

def stream? (inbox : Inbox) (key : StreamKey) : Option Stream :=
  (inbox.streams.find? fun entry => entry.1 == key).map (·.2)

/-- Feeds the stream of `key`, which is put in its place if it is new. -/
def feed (key : StreamKey) (bytes : Bytes) (now : Time) :
    List (StreamKey × Stream) → List (StreamKey × Stream)
  | [] => [(key, ({} : Stream).receive bytes now)]
  | (other, stream) :: rest =>
    if key = other then (other, stream.receive bytes now) :: rest
    else if key.rank < other.rank then
      (key, ({} : Stream).receive bytes now) :: (other, stream) :: rest
    else (other, stream) :: feed key bytes now rest

def receive (key : StreamKey) (bytes : Bytes) (now : Time) (inbox : Inbox) : Inbox :=
  let fresh := if (inbox.stream? key).isSome then 0 else 1
  { streams := feed key bytes now inbox.streams
    metrics := { inbox.metrics with
      received := inbox.metrics.received + bytes.length
      created := inbox.metrics.created + fresh } }

/-- Drains every stream; streams without a whole packet yield no batch. -/
def process (inbox : Inbox) : List Batch × Inbox :=
  let drained := inbox.streams.map fun (key, stream) => (key, stream.drain)
  let batches := drained.filterMap fun (key, packets, _) =>
    if packets.isEmpty then none else some ⟨key, packets⟩
  let streams := drained.map fun (key, _, stream) => (key, stream)
  let given (streams : List (StreamKey × Stream)) := total (streams.map (·.2.discarded))
  (batches,
    { streams
      metrics := { inbox.metrics with
        decoded := inbox.metrics.decoded + total (batches.map (·.packets.length))
        discarded := inbox.metrics.discarded + (given streams - given inbox.streams) } })

/-- Drops the idle streams and counts them. -/
def evictIdle (now : Time) (timeout : Nat) (inbox : Inbox) : Nat × Inbox :=
  let kept := inbox.streams.filter fun (_, stream) => !stream.isIdle now timeout
  let dropped := inbox.streams.length - kept.length
  (dropped,
    { streams := kept
      metrics := { inbox.metrics with evicted := inbox.metrics.evicted + dropped } })

def backlog? (inbox : Inbox) (key : StreamKey) : Option Nat :=
  (inbox.stream? key).map (·.backlog.length)

end Inbox
end RouteDiscovery

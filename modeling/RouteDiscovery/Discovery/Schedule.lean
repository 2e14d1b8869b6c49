import RouteDiscovery.Discovery.Partition
import RouteDiscovery.Link
import RouteDiscovery.Packet.Codec
import RouteDiscovery.Route.Choice

/-!
Rounds of announcements at a fixed pace. A round tells, on every usable adapter, the routes chosen
for it, in datagrams that fit the link.
-/
namespace RouteDiscovery

/-- The bytes that the IP and UDP headers take from the MTU. -/
def datagramOverhead : Nat := 28

structure Schedule where
  interval : Nat := 20000
  /-- When the latest round was. -/
  last : Option Time := none
  rounds : Nat := 0
  deriving DecidableEq, Inhabited

namespace Schedule

/-- The first round is due at once; a clock that was set back is not due. -/
def isDue (now : Time) (schedule : Schedule) : Bool :=
  match schedule.last with
  | none => true
  | some last => schedule.interval ≤ elapsed now last

/-- The datagrams of one round on one adapter; what cannot be encoded is left out. -/
def announcements (sender : UInt16) (routes : RouteTable) (adapter : Adapter) : List Datagram :=
  let entries := (routes.announced adapter.id).map (·.entry hopCost)
  let messages := Discovery.partition sender (adapter.mtu - datagramOverhead) entries
  messages.filterMap fun message =>
    match (Packet.ofMessage (.discovery message)).encode with
    | .ok bytes => some ⟨.multicast adapter.id, bytes⟩
    | .error _ => none

def round (sender : UInt16) (routes : RouteTable) (adapters : AdapterTable) : List Datagram :=
  adapters.usable.flatMap (announcements sender routes)

/-- The datagrams to send now: a round if one is due. -/
def plan (now : Time) (sender : UInt16) (routes : RouteTable) (adapters : AdapterTable)
    (schedule : Schedule) : List Datagram × Schedule :=
  if schedule.isDue now then
    (round sender routes adapters,
      { schedule with last := some now, rounds := schedule.rounds + 1 })
  else ([], schedule)

/-- Hands the round that is due to the link and counts the datagrams that it took. -/
def tick {σ : Type} (link : Link σ) (now : Time) (sender : UInt16) (routes : RouteTable)
    (adapters : AdapterTable) (schedule : Schedule) (state : σ) : Nat × Schedule × σ :=
  let (datagrams, next) := schedule.plan now sender routes adapters
  let (sent, after) := link.transmit datagrams state
  (sent, next, after)

end Schedule
end RouteDiscovery

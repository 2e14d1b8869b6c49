import RouteDiscovery.Adapter
import RouteDiscovery.Clock
import RouteDiscovery.Message

/-!
A route: which node it leads to, on which local adapter it was learned and which neighbour
reported it. A route stays known for ever; it is online while it is heard of.
-/
namespace RouteDiscovery

/-- A node as it names itself: its number and the address that it sends from. -/
structure NodeIdentity where
  id : UInt16
  address : Address
  deriving DecidableEq, Hashable, Inhabited

instance : ToString NodeIdentity where
  toString node := s!"{node.id.toNat}@{node.address}"

/-- Nodes are ordered by number, then by address. -/
def NodeIdentity.rank (node : NodeIdentity) : Nat :=
  node.id.toNat * 0x100000000 + node.address.bits.toNat

/-- Routes to one node through different neighbours are different routes. -/
structure RouteKey where
  node : NodeIdentity
  adapter : AdapterId
  reporter : Address
  deriving DecidableEq, Inhabited

namespace RouteKey

/-- The node itself reported the route. -/
def isDirect (key : RouteKey) : Bool :=
  key.node.address == key.reporter

instance : ToString RouteKey where
  toString key := s!"{key.node} via {key.reporter} on {key.adapter.name}"

end RouteKey

/-- What a node adds to the path of a route that it passes on. -/
def hopCost : UInt16 := 256

structure Route where
  key : RouteKey
  /-- The costs of the hops, fixed when the route is first heard of. -/
  path : List UInt16
  mtu : Nat
  online : Bool := true
  /-- Set by the administrator; such a route is always online. -/
  persistent : Bool := false
  /-- Used here but not announced to others. -/
  silent : Bool := false
  lastDiscovery : Time
  lastData : Option Time := none
  deriving DecidableEq, Inhabited

namespace Route

def cost (route : Route) : UInt32 :=
  pathCost route.path

/-- Something was heard of the route less than `timeout` ago. -/
def isFresh (now : Time) (timeout : Nat) (route : Route) : Bool :=
  decide (elapsed now route.lastDiscovery < timeout) ||
    match route.lastData with
    | none => false
    | some last => decide (elapsed now last < timeout)

def shouldBeOnline (now : Time) (timeout : Nat) (route : Route) : Bool :=
  route.persistent || route.isFresh now timeout

/-- The route as it is told to others, with one more hop at the end of its path. -/
def entry (hop : UInt16) (route : Route) : NodeEntry :=
  ⟨route.key.node.id, route.key.node.address, route.path ++ [hop]⟩

end Route

inductive RouteEvent where
  | discovered (route : Route)
  /-- The route, already in its new state, was `wasOnline` before. -/
  | livenessChanged (wasOnline : Bool) (route : Route)
  deriving DecidableEq

inductive RouteError where
  | unknownLocalAddress (address : Address)
  | unknownAdapter (id : AdapterId)
  | noRoute (node : NodeIdentity)
  | notDirect (node : NodeIdentity)
  deriving DecidableEq

def RouteError.message : RouteError → String
  | unknownLocalAddress address => s!"no adapter owns local address {address}"
  | unknownAdapter id => s!"unknown adapter {id.name}"
  | noRoute node => s!"no online route to node {node}"
  | notDirect node => s!"node {node} is reachable only through a relay"

end RouteDiscovery

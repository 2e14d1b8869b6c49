import RouteDiscovery.Route.Table

/-!
Which of several routes to a node is used: the cheapest that is online, and of equally cheap ones
the first in the table.
-/
namespace RouteDiscovery

/-- The first of the cheapest routes. -/
def Route.cheapest? (routes : List Route) : Option Route :=
  routes.foldl (fun best route =>
    match best with
    | none => some route
    | some current => if current.cost ≤ route.cost then some current else some route) none

namespace RouteTable

def best? (table : RouteTable) (node : NodeIdentity) : Option Route :=
  Route.cheapest? (table.routes.filter fun route => route.online && route.key.node == node)

/-- The best route on which the node itself is the neighbour. -/
def bestDirect? (table : RouteTable) (node : NodeIdentity) : Option Route :=
  Route.cheapest? (table.routes.filter fun route =>
    route.online && route.key.isDirect && route.key.node == node)

/-- The nodes with an online route, in ascending order. -/
def reachable (table : RouteTable) : List NodeIdentity :=
  let nodes := (table.routes.filter (·.online)).map (·.key.node)
  (nodes.mergeSort fun a b => a.rank ≤ b.rank).eraseReps

/-- Adds a candidate to a selection that holds one route for each node: a strictly cheaper route
takes the place of the one selected before. -/
def select (candidate : Route) : List Route → List Route
  | [] => [candidate]
  | route :: rest =>
    if route.key.node = candidate.key.node then
      (if candidate.cost < route.cost then candidate else route) :: rest
    else route :: select candidate rest

/-- The routes to announce on an adapter: one for each node, none that was learned there. -/
def announced (table : RouteTable) (outbound : AdapterId) : List Route :=
  let candidates := ((table.buckets.filter (·.1 != outbound)).flatMap (·.2)).filter
    fun route => route.online && !route.silent
  candidates.foldl (fun selection candidate => select candidate selection) []

end RouteTable
end RouteDiscovery

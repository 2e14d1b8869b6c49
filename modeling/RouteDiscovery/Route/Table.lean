import RouteDiscovery.Route

/-!
The route table: one bucket of routes for each adapter, both in the order in which they were first
heard of. Routes are added and refreshed, never removed; what changed is kept as events until it
is taken.
-/
namespace RouteDiscovery

/-- Where and when a message arrived. -/
structure Reception where
  sender : SocketAddress
  /-- The local address that it was sent to. -/
  recipient : Address
  time : Time
  deriving DecidableEq, Inhabited

structure RouteTable where
  buckets : List (AdapterId × List Route) := []
  /-- How long a route stays online without being heard of. -/
  timeout : Nat := 90000
  events : List RouteEvent := []
  deriving DecidableEq, Inhabited

namespace RouteTable

def empty (timeout : Nat) : RouteTable :=
  { timeout }

def onAdapter (table : RouteTable) (id : AdapterId) : List Route :=
  match table.buckets.find? (·.1 == id) with
  | none => []
  | some bucket => bucket.2

/-- All routes, adapter by adapter. -/
def routes (table : RouteTable) : List Route :=
  table.buckets.flatMap (·.2)

def size (table : RouteTable) : Nat :=
  total (table.buckets.map (·.2.length))

def find? (table : RouteTable) (key : RouteKey) : Option Route :=
  (table.onAdapter key.adapter).find? (·.key == key)

/-- Changes the routes of one adapter. -/
def adjust (id : AdapterId) (change : List Route → List Route) (table : RouteTable) : RouteTable :=
  { table with
    buckets := table.buckets.map fun bucket =>
      if bucket.1 = id then (bucket.1, change bucket.2) else bucket }

/-- Changes the route with the given key. -/
def modify (key : RouteKey) (change : Route → Route) (table : RouteTable) : RouteTable :=
  table.adjust key.adapter (·.map fun route => if route.key = key then change route else route)

def record (event : RouteEvent) (table : RouteTable) : RouteTable :=
  { table with events := table.events ++ [event] }

/-- Puts a route behind the others of its adapter. -/
def insert (route : Route) (table : RouteTable) : RouteTable :=
  let id := route.key.adapter
  let placed :=
    if table.buckets.any (·.1 == id) then table.adjust id (· ++ [route])
    else { table with buckets := table.buckets ++ [(id, [route])] }
  placed.record (.discovered route)

/-- Hears of a route: a new one is inserted, a known one is refreshed and keeps its path. -/
def hear (adapters : AdapterTable) (key : RouteKey) (path : List UInt16) (now : Time)
    (table : RouteTable) : Except RouteError RouteTable :=
  match adapters.find? key.adapter with
  | none => .error (.unknownAdapter key.adapter)
  | some adapter =>
    match table.find? key with
    | some _ => .ok (table.modify key fun route => { route with lastDiscovery := now })
    | none => .ok (table.insert { key, path, mtu := adapter.mtu, lastDiscovery := now })

/-- The routes that a discovery tells of: to its sender, and through it to the nodes it lists. -/
def told (message : Discovery) (adapter : AdapterId) (reporter : Address) :
    List (RouteKey × List UInt16) :=
  (⟨⟨message.sender, reporter⟩, adapter, reporter⟩, [hopCost]) ::
    message.nodes.map fun entry =>
      (⟨⟨entry.id, entry.address⟩, adapter, reporter⟩, hopCost :: entry.path)

/-- Hears of every route in turn, and gives the first error if there is one. -/
def hearAll (adapters : AdapterTable) (now : Time) (told : List (RouteKey × List UInt16))
    (table : RouteTable) : Except RouteError Unit × RouteTable :=
  told.foldl (fun (result, table) (key, path) =>
    match table.hear adapters key path now with
    | .ok next => (result, next)
    | .error error =>
      (match result with
        | .ok _ => .error error
        | .error first => .error first, table)) (.ok (), table)

def learn (adapters : AdapterTable) (message : Discovery) (reception : Reception)
    (table : RouteTable) : Except RouteError Unit × RouteTable :=
  match adapters.owner? reception.recipient with
  | none => (.error (.unknownLocalAddress reception.recipient), table)
  | some adapter =>
    table.hearAll adapters reception.time (told message adapter.id reception.sender.address)

/-- Hears of a route and makes it persistent, or takes that back. -/
def setPersistent (adapters : AdapterTable) (key : RouteKey) (path : List UInt16)
    (persistent : Bool) (now : Time) (table : RouteTable) : Except RouteError RouteTable := do
  let heard ← table.hear adapters key path now
  match heard.find? key with
  | none => return heard
  | some route =>
    let marked := { route with persistent }
    let changed := { marked with online := marked.shouldBeOnline now table.timeout }
    let next := heard.modify key fun _ => changed
    return if route.online = changed.online then next
      else next.record (.livenessChanged route.online changed)

/-- Says whether the route is known. -/
def setSilent (key : RouteKey) (silent : Bool) (table : RouteTable) : Bool × RouteTable :=
  ((table.find? key).isSome, table.modify key fun route => { route with silent })

/-- A data message refreshes the routes to its sender on the adapter where it arrived. -/
def recordData (adapters : AdapterTable) (message : DataMessage) (reception : Reception)
    (table : RouteTable) : Nat × RouteTable :=
  match adapters.owner? reception.recipient with
  | none => (0, table)
  | some adapter =>
    let node : NodeIdentity := ⟨message.sender, reception.sender.address⟩
    (((table.onAdapter adapter.id).filter (·.key.node == node)).length,
      table.adjust adapter.id (·.map fun route =>
        if route.key.node = node then { route with lastData := some reception.time } else route))

/-- The route with the online flag that it should have. -/
def swept (now : Time) (timeout : Nat) (route : Route) : Route :=
  { route with online := route.shouldBeOnline now timeout }

/-- Sets every online flag to what it should be, and counts the changes. -/
def sweep (now : Time) (table : RouteTable) : Nat × RouteTable :=
  let changes := table.routes.filterMap fun route =>
    let next := swept now table.timeout route
    if route.online = next.online then none
    else some (RouteEvent.livenessChanged route.online next)
  (changes.length,
    { table with
      buckets := table.buckets.map fun bucket =>
        (bucket.1, bucket.2.map (swept now table.timeout))
      events := table.events ++ changes })

def takeEvents (table : RouteTable) : List RouteEvent × RouteTable :=
  (table.events, { table with events := [] })

end RouteTable
end RouteDiscovery

import RouteDiscovery.Discovery.Schedule
import RouteDiscovery.Error
import RouteDiscovery.Inbox

/-!
A node: its adapters, the streams that reach it, the routes that it knows and the pace of its
announcements. A poll hears what has arrived, updates liveness, announces and forgets idle streams.
-/
namespace RouteDiscovery
open Wire

structure Node where
  config : Config
  adapters : AdapterTable := {}
  inbox : Inbox := {}
  routes : RouteTable := {}
  schedule : Schedule := {}
  deriving DecidableEq, Inhabited

/-- What a node tells its listener. -/
inductive Notice where
  | route (event : RouteEvent)
  | discovery (message : Discovery) (reception : Reception)
  | data (message : DataMessage) (reception : Reception)
  deriving DecidableEq

/-- The work done by one poll. -/
structure PollReport where
  packets : Nat := 0
  discoveries : Nat := 0
  data : Nat := 0
  /-- Discoveries that no adapter of the node had received. -/
  ingestErrors : Nat := 0
  routesChanged : Nat := 0
  sent : Nat := 0
  evicted : Nat := 0
  deriving DecidableEq, Inhabited

/-- A poll under way. -/
structure Polling where
  node : Node
  notices : Array Notice := #[]
  report : PollReport := {}
  deriving DecidableEq

namespace Polling

def tell (notice : Notice) (polling : Polling) : Polling :=
  { polling with notices := polling.notices.push notice }

/-- Passes the pending route events on to the listener. -/
def dispatch (polling : Polling) : Polling :=
  let (events, routes) := polling.node.routes.takeEvents
  { polling with
    node := { polling.node with routes }
    notices := polling.notices ++ events.map Notice.route }

/-- A discovery that one of the node's own addresses sent is an echo and tells nothing. -/
def hearDiscovery (message : Discovery) (reception : Reception) (polling : Polling) : Polling :=
  let node := polling.node
  let report := { polling.report with discoveries := polling.report.discoveries + 1 }
  if (node.adapters.owner? reception.sender.address).isSome then { polling with report }
  else
    let (result, routes) := node.routes.learn node.adapters message reception
    let failed := match result with
      | .ok _ => 0
      | .error _ => 1
    let heard : Polling :=
      { polling with
        node := { node with routes }
        report := { report with ingestErrors := report.ingestErrors + failed } }
    heard.dispatch.tell (.discovery message reception)

def hearData (message : DataMessage) (reception : Reception) (polling : Polling) : Polling :=
  let node := polling.node
  let (_, routes) := node.routes.recordData node.adapters message reception
  let heard : Polling :=
    { polling with
      node := { node with routes }
      report := { polling.report with data := polling.report.data + 1 } }
  heard.tell (.data message reception)

def hear (polling : Polling) : Message × Reception → Polling
  | (.discovery message, reception) => polling.hearDiscovery message reception
  | (.data message, reception) => polling.hearData message reception

end Polling

/-- The messages of a batch in stream order, all received when they are polled. -/
def Batch.messages (now : Time) (batch : Batch) : List (Message × Reception) :=
  batch.packets.flatMap fun packet => packet.messages.map fun message =>
    (message, ⟨batch.key.sender, batch.key.recipient, now⟩)

namespace Node

def create (config : Config) : Except Error Node :=
  match config.fault? with
  | some fault => .error (.ofConfigFault fault)
  | none => .ok { config, schedule := { interval := config.discoveryInterval } }

/-- Bytes from the link, to be looked at by the next poll. -/
def receive (key : StreamKey) (bytes : Bytes) (now : Time) (node : Node) : Node :=
  { node with inbox := node.inbox.receive key bytes now }

def updateAdapters (listed : List Adapter) (node : Node) : AdapterChanges × Node :=
  let (changes, adapters) := node.adapters.update listed
  (changes, { node with adapters })

/-- The first part of a poll: hears the messages that have arrived and sweeps the routes. -/
def listen (now : Time) (node : Node) : Polling :=
  let (batches, inbox) := node.inbox.process
  let start : Polling :=
    { node := { node with inbox }
      report := { packets := total (batches.map (·.packets.length)) } }
  let heard := (batches.flatMap (·.messages now)).foldl Polling.hear start
  let (changed, routes) := heard.node.routes.sweep now
  let swept : Polling :=
    { heard with
      node := { heard.node with routes }
      report := { heard.report with routesChanged := changed } }
  swept.dispatch

/-- The second part of a poll: the datagrams of the round that is due, if one is. -/
def announce (now : Time) (node : Node) : List Datagram × Node :=
  let (datagrams, schedule) :=
    node.schedule.plan now node.config.nodeId node.routes node.adapters
  (datagrams, { node with schedule })

/-- The last part of a poll: forgets the streams that have been idle too long. -/
def forgetIdle (now : Time) (node : Node) : Nat × Node :=
  let (evicted, inbox) := node.inbox.evictIdle now node.config.idleTimeout
  (evicted, { node with inbox })

/-- A whole poll on a link that feeds nothing back into the node while it sends. -/
def poll {σ : Type} (link : Link σ) (now : Time) (node : Node) (state : σ) : Polling × σ :=
  let listened := node.listen now
  let (datagrams, announced) := listened.node.announce now
  let (sent, after) := link.transmit datagrams state
  let (evicted, rest) := announced.forgetIdle now
  ({ listened with node := rest, report := { listened.report with sent, evicted } }, after)

/-- The datagram that takes a payload straight to a node. Data is not relayed, so only a direct
route will do. -/
def address (destination : NodeIdentity) (payload : Bytes) (node : Node) :
    Except Error Datagram :=
  match node.routes.bestDirect? destination with
  | none =>
    match node.routes.best? destination with
    | some _ => .error (.route (.notDirect destination))
    | none => .error (.route (.noRoute destination))
  | some route =>
    match (Packet.ofMessage (.data ⟨node.config.nodeId, payload⟩)).encode with
    | .error fault => .error (.codec fault)
    | .ok bytes => .ok ⟨.unicast route.key.adapter destination.address, bytes⟩

/-- Sends a payload and gives the number of bytes that the link took. -/
def sendData {σ : Type} (link : Link σ) (destination : NodeIdentity) (payload : Bytes)
    (node : Node) (state : σ) : Except Error Nat × σ :=
  match node.address destination payload with
  | .error error => (.error error, state)
  | .ok datagram =>
    let (result, after) := link.send datagram state
    (result.mapError .link, after)

/-- Makes a route persistent, or takes that back, and tells the listener what changed. -/
def setPersistent (key : RouteKey) (path : List UInt16) (persistent : Bool) (now : Time)
    (node : Node) : Except Error Polling :=
  match node.routes.setPersistent node.adapters key path persistent now with
  | .error error => .error (.route error)
  | .ok routes => .ok (Polling.dispatch { node := { node with routes } })

end Node
end RouteDiscovery

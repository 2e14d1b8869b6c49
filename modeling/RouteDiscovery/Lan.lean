import RouteDiscovery.Node

/-!
Nodes on one local network. A datagram reaches its receivers at once: a unicast all ports with the
address of the peer, a multicast all other ports whose subnet has the sender in it. Addresses can
be cut off and sends can be made to fail.
-/
namespace RouteDiscovery
open Wire

/-- How a send is made to fail. -/
inductive SendFault where
  | io
  | send
  deriving DecidableEq

structure Station where
  node : Node
  /-- Whether somebody listens to the notices of the node. -/
  listening : Bool
  /-- The address from which each adapter sends. -/
  sources : List (AdapterId × Address) := []
  sendFaults : List (AdapterId × SendFault) := []
  updateFault : Bool := false

/-- A local address of a station, where datagrams arrive. -/
structure Port where
  station : Nat
  subnet : Subnet
  deriving DecidableEq

/-- What can be watched from outside. -/
inductive LanEvent where
  | sent (station : Nat) (datagram : Datagram) (outcome : Except LinkError (List Address))
  | told (station : Nat) (notice : Notice)

structure Lan where
  /-- A station whose configuration is at fault has no node, only the error. -/
  stations : Array (Except Error Station) := #[]
  /-- In the order in which they came up. -/
  ports : List Port := []
  /-- The addresses that are cut off. -/
  down : List Address := []
  trace : Array LanEvent := #[]

namespace Lan

/-- What injected failures say. -/
def injected : String := "injected"

/-- Arrivals are stamped with the zero of the clock. -/
def arrivalTime : Time := 0

def station? (lan : Lan) (index : Nat) : Option Station :=
  lan.stations[index]? >>= (·.toOption)

def setStation (index : Nat) (station : Station) (lan : Lan) : Lan :=
  { lan with stations := lan.stations.setIfInBounds index (.ok station) }

def setNode (index : Nat) (node : Node) (lan : Lan) : Lan :=
  match lan.station? index with
  | none => lan
  | some station => lan.setStation index { station with node }

def record (event : LanEvent) (lan : Lan) : Lan :=
  { lan with trace := lan.trace.push event }

/-- Tells the listener of a station, if it has one. -/
def tell (index : Nat) (notices : List Notice) (lan : Lan) : Lan :=
  match lan.station? index with
  | some station =>
    if station.listening then
      { lan with trace := lan.trace ++ notices.map (LanEvent.told index) }
    else lan
  | none => lan

def takeTrace (lan : Lan) : List LanEvent × Lan :=
  (lan.trace.toList, { lan with trace := #[] })

/-- Bytes for one station. -/
def receive (index : Nat) (key : StreamKey) (bytes : Bytes) (lan : Lan) : Lan :=
  match lan.station? index with
  | none => lan
  | some station => lan.setNode index (station.node.receive key bytes arrivalTime)

/-- The ports that a datagram from `source` reaches. -/
def reached (lan : Lan) (source : Address) (target : Target) : List Port :=
  let passes (port : Port) : Bool :=
    !lan.down.contains source && !lan.down.contains port.subnet.address
  let meant (port : Port) : Bool :=
    match target with
    | .unicast _ peer => port.subnet.address == peer
    | .multicast _ => port.subnet.address != source && port.subnet.contains source
  lan.ports.filter fun port => meant port && passes port

def deliver (sender : SocketAddress) (bytes : Bytes) (ports : List Port) (lan : Lan) : Lan :=
  ports.foldl (fun lan port =>
    lan.receive port.station ⟨sender, port.subnet.address⟩ bytes) lan

/-- What keeps a station from sending, or the address that it sends from. -/
def source? (station : Station) (target : Target) : Except LinkError Address :=
  match station.sendFaults.lookup target.adapter with
  | some .io => .error (.io injected)
  | some .send => .error (.sendFailed target injected)
  | none =>
    match station.sources.lookup target.adapter with
    | none => .error (.unknownAdapter target.adapter)
    | some source => .ok source

/-- The network as the link of one station. -/
def link (index : Nat) : Link Lan where
  send datagram lan :=
    match lan.station? index with
    | none => (.error (.unknownAdapter datagram.target.adapter), lan)
    | some station =>
      match source? station datagram.target with
      | .error error => (.error error, lan.record (.sent index datagram (.error error)))
      | .ok source =>
        let ports := lan.reached source datagram.target
        let addresses := ports.map (·.subnet.address)
        let delivered := lan.deliver ⟨source, station.node.config.port⟩ datagram.bytes ports
        (.ok datagram.bytes.length, delivered.record (.sent index datagram (.ok addresses)))

/-- Brings the ports of a station in line with its adapters. -/
def connect (index : Nat) (lan : Lan) : Except LinkError Unit × Lan :=
  match lan.station? index with
  | none => (.ok (), lan)
  | some station =>
    if station.updateFault then (.error (.bindFailed station.node.config.port injected), lan)
    else
      let usable := station.node.adapters.usable
      let sources := usable.filterMap fun adapter =>
        adapter.primary?.map fun address => (adapter.id, address)
      let added := usable.flatMap fun adapter => adapter.addresses.map (Port.mk index)
      let kept := lan.ports.filter fun port => port.station != index
      (.ok (), { lan.setStation index { station with sources } with ports := kept ++ added })

/-- The adapters of the node change even if its ports cannot follow. -/
def updateAdapters (index : Nat) (listed : List Adapter) (lan : Lan) :
    Except Error AdapterChanges × Lan :=
  match lan.station? index with
  | none => (.ok ⟨[], []⟩, lan)
  | some station =>
    let (changes, node) := station.node.updateAdapters listed
    let (result, connected) := (lan.setNode index node).connect index
    ((result.map fun _ => changes).mapError .link, connected)

/-- Adds a station behind the others. -/
def join (config : Config) (listening : Bool) (adapters : List Adapter) (lan : Lan) : Lan :=
  let index := lan.stations.size
  match Node.create config with
  | .error error => { lan with stations := lan.stations.push (.error error) }
  | .ok node =>
    let added := { lan with stations := lan.stations.push (.ok { node, listening }) }
    (added.updateAdapters index adapters).2

/-- Polls one station; what it sends may come back to it before it forgets idle streams. -/
def poll (index : Nat) (now : Time) (lan : Lan) : PollReport × Lan :=
  match lan.station? index with
  | none => ({}, lan)
  | some station =>
    let listened := station.node.listen now
    let (datagrams, node) := listened.node.announce now
    let told := (lan.setNode index node).tell index listened.notices.toList
    let (sent, after) := (link index).transmit datagrams told
    match after.station? index with
    | none => ({}, after)
    | some station =>
      let (evicted, rest) := station.node.forgetIdle now
      ({ listened.report with sent, evicted }, after.setNode index rest)

def sendData (index : Nat) (destination : NodeIdentity) (payload : Bytes) (lan : Lan) :
    Except Error Nat × Lan :=
  match lan.station? index with
  | none => (.error (.route (.noRoute destination)), lan)
  | some station => station.node.sendData (link index) destination payload lan

def setPersistent (index : Nat) (key : RouteKey) (path : List UInt16) (persistent : Bool)
    (now : Time) (lan : Lan) : Except Error Unit × Lan :=
  match lan.station? index with
  | none => (.ok (), lan)
  | some station =>
    match station.node.setPersistent key path persistent now with
    | .error error => (.error error, lan)
    | .ok polling =>
      (.ok (), (lan.setNode index polling.node).tell index polling.notices.toList)

end Lan
end RouteDiscovery

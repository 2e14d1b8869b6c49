import RouteDiscovery.Config
import RouteDiscovery.Endpoint.Sockets

/-!
The link of a node over UDP: a receiving socket, the sending sockets of the adapters and a callback
for what arrives. What the endpoint itself sent is dropped, and so is what comes from no subnet of
its adapters.
-/
namespace RouteDiscovery
open Wire

structure EndpointConfig where
  port : UInt16
  group : Address
  ttl : Nat := 1
  /-- How long the receiving socket waits at a time, in milliseconds. -/
  readTimeout : Nat := 100
  deriving DecidableEq

def EndpointConfig.ofConfig (config : Config) : EndpointConfig :=
  { port := config.port, group := config.group }

structure EndpointMetrics where
  received : Nat := 0
  bytesReceived : Nat := 0
  sent : Nat := 0
  bytesSent : Nat := 0
  dropped : Nat := 0
  callbackErrors : Nat := 0
  deriving DecidableEq

/-- Who is told of arrivals; one that fails is told nevertheless. -/
structure Callback where
  fails : Bool
  deriving DecidableEq

/-- The socket that a datagram came from. -/
structure Sender where
  address : Address
  port : Nat
  deriving DecidableEq

/-- What the callback is told. -/
structure Delivery where
  sender : Address
  recipient : Address
  bytes : Bytes
  deriving DecidableEq

structure Endpoint where
  config : EndpointConfig
  machine : Machine
  sockets : List SendSocket := []
  subnets : List Subnet := []
  callback : Option Callback := none
  receiving : Bool := true
  metrics : EndpointMetrics := {}

namespace Endpoint

/-- Binds the receiving socket; no group is joined before adapters are listed. -/
def bind (config : EndpointConfig) (machine : Machine) : Except LinkError Endpoint :=
  if machine.heldPorts.contains config.port then
    .error (.bindFailed config.port SocketFault.addressInUse.message)
  else .ok { config, machine }

/-- The adapters with an open socket, in ascending order. -/
def active (endpoint : Endpoint) : List AdapterId :=
  (endpoint.sockets.map (·.adapter)).mergeSort fun a b => a.name ≤ b.name

/-- Brings the sockets in line with the adapters, in some order; the first error that this meets is
given. -/
def updateAdapters (listed : List Adapter) (endpoint : Endpoint)
    (order : UpdateOrder listed endpoint.sockets) : Except LinkError Unit × Endpoint :=
  let ops := Machine.socketOps endpoint.config.group endpoint.config.ttl
  let (error, sockets, machine) :=
    SendSocket.align ops order.wanted order.stored endpoint.machine
  (match error with
    | none => .ok ()
    | some error => .error error,
    { endpoint with machine, sockets, subnets := SendSocket.subnets sockets listed })

/-- The local address whose subnet the sender is in. -/
def recipient? (endpoint : Endpoint) (sender : Address) : Option Address :=
  (endpoint.subnets.find? (·.contains sender)).map (·.address)

def isOwn (endpoint : Endpoint) (sender : Sender) : Bool :=
  endpoint.sockets.any fun socket => socket.address == sender.address && socket.port == sender.port

/-- Takes a datagram that arrived, and tells the callback of it unless it is to be dropped. -/
def arrive (sender : Sender) (bytes : Bytes) (endpoint : Endpoint) : Option Delivery × Endpoint :=
  if !endpoint.receiving then (none, endpoint)
  else
    let metrics :=
      { endpoint.metrics with
        received := endpoint.metrics.received + 1
        bytesReceived := endpoint.metrics.bytesReceived + bytes.length }
    let dropped := { metrics with dropped := metrics.dropped + 1 }
    if endpoint.isOwn sender then (none, { endpoint with metrics := dropped })
    else
      match endpoint.recipient? sender.address, endpoint.callback with
      | none, _ => (none, { endpoint with metrics := dropped })
      | some _, none => (none, { endpoint with metrics })
      | some recipient, some callback =>
        let failed := if callback.fails then 1 else 0
        (some ⟨sender.address, recipient, bytes⟩,
          { endpoint with
            metrics := { metrics with callbackErrors := metrics.callbackErrors + failed } })

/-- Sends from the socket of the target's adapter. On the loopback interface the datagram comes
back at once, a multicast as long as the interface is a member of the group. -/
def send (datagram : Datagram) (endpoint : Endpoint) : Except LinkError Sender × Endpoint :=
  let target := datagram.target
  match endpoint.sockets.find? (·.adapter == target.adapter) with
  | none => (.error (.unknownAdapter target.adapter), endpoint)
  | some socket =>
    if Machine.maxPayload < datagram.bytes.length then
      (.error (.sendFailed target SocketFault.messageTooLong.message), endpoint)
    else
      let sender : Sender := ⟨socket.address, socket.port⟩
      let counted : Endpoint :=
        { endpoint with
          metrics := { endpoint.metrics with
            sent := endpoint.metrics.sent + 1
            bytesSent := endpoint.metrics.bytesSent + datagram.bytes.length } }
      let back := match target.peer? with
        | some peer => endpoint.machine.returns peer
        | none => endpoint.machine.returnsMulticast socket.address
      (.ok sender, if back then (counted.arrive sender datagram.bytes).2 else counted)

/-- A datagram from a fresh socket of the machine to the loopback address of the receiving one. -/
def inject (source : Address) (bytes : Bytes) (endpoint : Endpoint) :
    Except SocketFault (Option Delivery) × Endpoint :=
  match endpoint.machine.bind source with
  | (.error fault, machine) => (.error fault, { endpoint with machine })
  | (.ok port, machine) =>
    let (delivery, after) := { endpoint with machine }.arrive ⟨source, port⟩ bytes
    (.ok delivery, after)

def setCallback (callback : Callback) (endpoint : Endpoint) : Endpoint :=
  { endpoint with callback := some callback }

/-- Ends receiving; sending goes on. -/
def stop (endpoint : Endpoint) : Endpoint :=
  { endpoint with receiving := false }

end Endpoint
end RouteDiscovery

import RouteDiscovery.Address

/-!
What a machine does with sockets: which interface has an address, and to which interfaces the
receiving socket has joined the group. Joining an interface twice fails; leaving it once is enough.
-/
namespace RouteDiscovery

inductive SocketFault where
  | noSuchDevice
  | invalidArgument
  | messageTooLong
  | addressInUse
  | addressNotAvailable
  deriving DecidableEq

def SocketFault.message : SocketFault → String
  | noSuchDevice => "No such device (os error 19)"
  | invalidArgument => "Invalid argument (os error 22)"
  | messageTooLong => "Message too long (os error 90)"
  | addressInUse => "Address already in use (os error 98)"
  | addressNotAvailable => "Cannot assign requested address (os error 99)"

structure Machine where
  /-- The interface that has the address, if one of the machine has it. -/
  interface? : Address → Option Nat
  /-- The interface whose datagrams all come back to the machine. -/
  loopback : Nat := 0
  /-- The interfaces on which the receiving socket is a member of the group. -/
  joined : List Nat := []
  /-- Ports that another socket holds. -/
  heldPorts : List UInt16 := []
  /-- Addresses on which another socket takes what is sent to the discovery port. -/
  listeners : List Address := []
  /-- The next port that a socket gets which does not ask for one. -/
  freePort : Nat := 1

namespace Machine

/-- The greatest payload of a datagram. -/
def maxPayload : Nat := 65507

/-- No interface is up. -/
def isolated : Machine :=
  { interface? := fun _ => none }

/-- Only the loopback interface is up, with all addresses whose first octet is 127. -/
def loopbackOnly : Machine :=
  { interface? := fun address => if address.bits >>> 24 = 127 then some 0 else none }

def join (group address : Address) (machine : Machine) : Except SocketFault Unit × Machine :=
  if !group.isMulticast then (.error .invalidArgument, machine)
  else
    match machine.interface? address with
    | none => (.error .noSuchDevice, machine)
    | some interface =>
      if machine.joined.contains interface then (.error .addressInUse, machine)
      else (.ok (), { machine with joined := interface :: machine.joined })

def leave (address : Address) (machine : Machine) : Machine :=
  match machine.interface? address with
  | none => machine
  | some interface => { machine with joined := machine.joined.filter (· != interface) }

/-- Opens a socket on an address and gives it a free port. -/
def bind (address : Address) (machine : Machine) : Except SocketFault Nat × Machine :=
  match machine.interface? address with
  | none => (.error .addressNotAvailable, machine)
  | some _ => (.ok machine.freePort, { machine with freePort := machine.freePort + 1 })

/-- Whether a unicast to the peer comes back to the receiving socket. -/
def returns (peer : Address) (machine : Machine) : Bool :=
  machine.interface? peer == some machine.loopback && !machine.listeners.contains peer

/-- Whether a multicast from the address comes back to the receiving socket, which takes it only
where it is a member of the group. -/
def returnsMulticast (source : Address) (machine : Machine) : Bool :=
  machine.interface? source == some machine.loopback && machine.joined.contains machine.loopback

end Machine
end RouteDiscovery

import RouteDiscovery.Adapter
import RouteDiscovery.Endpoint.Machine
import RouteDiscovery.Link

/-!
One sending socket for each usable adapter. When the adapters change, sockets whose adapter went
away or changed its address are closed, and missing ones are opened. A socket that cannot be
opened does not keep others from being opened. Neither the open sockets nor the wanted ones stand
in any order of their own, so each update is given one.
-/
namespace RouteDiscovery

/-- An open sending socket of an adapter. -/
structure SendSocket where
  adapter : AdapterId
  address : Address
  port : Nat
  deriving DecidableEq

/-- How sockets are opened and closed in states `σ`; opening gives the port that the socket got. -/
structure SocketOps (σ : Type) where
  openSocket : AdapterId → Address → σ → Except LinkError Nat × σ
  closeSocket : SendSocket → σ → σ

namespace SendSocket

/-- The address that each usable adapter should send from; the last adapter with an id counts. -/
def wanted : List Adapter → List (AdapterId × Address)
  | [] => []
  | adapter :: rest =>
    let later := wanted rest
    match adapter.primary? with
    | some address =>
      if adapter.isUsable && !later.any (·.1 == adapter.id) then (adapter.id, address) :: later
      else later
    | none => later

def isWanted (wanted : List (AdapterId × Address)) (socket : SendSocket) : Bool :=
  wanted.contains (socket.adapter, socket.address)

/-- Closes sockets one after the other. -/
def closeAll {σ : Type} (ops : SocketOps σ) (sockets : List SendSocket) (state : σ) : σ :=
  sockets.foldl (fun state socket => ops.closeSocket socket state) state

/-- Opens sockets one after the other, and gives the first error if there is one. -/
def openAll {σ : Type} (ops : SocketOps σ) :
    List (AdapterId × Address) → σ → List SendSocket × Option LinkError × σ
  | [], state => ([], none, state)
  | (id, address) :: rest, state =>
    match ops.openSocket id address state with
    | (.ok port, next) =>
      let (opened, error, last) := openAll ops rest next
      (⟨id, address, port⟩ :: opened, error, last)
    | (.error error, next) =>
      let (opened, _, last) := openAll ops rest next
      (opened, some error, last)

/-- The open sockets that are wanted as they are. -/
def kept (wanted : List (AdapterId × Address)) (sockets : List SendSocket) : List SendSocket :=
  sockets.filter (isWanted wanted)

def stale (wanted : List (AdapterId × Address)) (sockets : List SendSocket) : List SendSocket :=
  sockets.filter fun socket => !isWanted wanted socket

/-- What is wanted of adapters that keep no socket. -/
def missing (wanted : List (AdapterId × Address)) (sockets : List SendSocket) :
    List (AdapterId × Address) :=
  wanted.filter fun (id, _) => !(kept wanted sockets).any (·.adapter == id)

/-- Closes the stale sockets and opens the missing ones, each in the order of its list. -/
def align {σ : Type} (ops : SocketOps σ) (wanted : List (AdapterId × Address))
    (sockets : List SendSocket) (state : σ) : Option LinkError × List SendSocket × σ :=
  let (opened, error, last) :=
    openAll ops (missing wanted sockets) (closeAll ops (stale wanted sockets) state)
  (error, kept wanted sockets ++ opened, last)

/-- The subnets of the adapters that have an open socket, in the order of the list. -/
def subnets (sockets : List SendSocket) (listed : List Adapter) : List Subnet :=
  (listed.filter fun adapter => sockets.any (·.adapter == adapter.id)).flatMap (·.addresses)

end SendSocket

/-- An order in which an update goes through the open sockets and the wanted ones. -/
structure UpdateOrder (listed : List Adapter) (sockets : List SendSocket) where
  stored : List SendSocket
  wanted : List (AdapterId × Address)
  stored_perm : stored.Perm sockets
  wanted_perm : wanted.Perm (SendSocket.wanted listed)

/-- The order of the lists. -/
def UpdateOrder.asListed (listed : List Adapter) (sockets : List SendSocket) :
    UpdateOrder listed sockets :=
  ⟨sockets, SendSocket.wanted listed, .rfl, .rfl⟩

/-- Opening a socket on a machine joins the group on the interface of its address first; an
interface that is already a member is as good. -/
def Machine.socketOps (group : Address) (ttl : Nat) : SocketOps Machine where
  openSocket _ address machine :=
    let (result, joined) := machine.join group address
    match result with
    | .ok _ | .error .addressInUse =>
      match joined.bind address with
      | (.error fault, bound) => (.error (.io fault.message), bound)
      | (.ok port, bound) =>
        if 255 < ttl then (.error (.io SocketFault.invalidArgument.message), bound)
        else (.ok port, bound)
    | .error fault => (.error (.joinFailed group address fault.message), joined)
  closeSocket socket machine := machine.leave socket.address

end RouteDiscovery

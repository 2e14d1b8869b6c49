import RouteDiscovery.Adapter
import RouteDiscovery.Text.Quoted
import RouteDiscovery.Wire.BigEndian

/-!
The seam between a node and what carries its datagrams. A link takes one datagram at a time and
may refuse it; a refused datagram does not keep the next ones from being handed over.
-/
namespace RouteDiscovery
open Wire

/-- Where a datagram goes: to the group, or to one peer. -/
inductive Target where
  | multicast (adapter : AdapterId)
  | unicast (adapter : AdapterId) (peer : Address)
  deriving DecidableEq

namespace Target

def adapter : Target → AdapterId
  | multicast id => id
  | unicast id _ => id

def peer? : Target → Option Address
  | multicast _ => none
  | unicast _ peer => some peer

def describe (target : Target) : String :=
  let id := s!"adapter: AdapterId({Text.quote target.adapter.name})"
  match target with
  | multicast _ => "Multicast \x7b " ++ id ++ " \x7d"
  | unicast _ peer => "Unicast \x7b " ++ id ++ s!", peer: {peer}" ++ " \x7d"

end Target

structure Datagram where
  target : Target
  bytes : Bytes
  deriving DecidableEq

/-- Why a link did not do what it was asked; `reason` is what the system below it said. -/
inductive LinkError where
  | io (reason : String)
  | bindFailed (port : UInt16) (reason : String)
  | joinFailed (group address : Address) (reason : String)
  | sendFailed (target : Target) (reason : String)
  | unknownAdapter (id : AdapterId)
  deriving DecidableEq

namespace LinkError

def message : LinkError → String
  | io reason => s!"transport I/O error: {reason}"
  | bindFailed port reason => s!"failed to bind UDP port {port.toNat}: {reason}"
  | joinFailed group address reason =>
    s!"failed to join multicast group {group} on {address}: {reason}"
  | sendFailed target reason => s!"send to {target.describe} failed: {reason}"
  | unknownAdapter id => s!"no transport for adapter {id.name}"

def reason? : LinkError → Option String
  | io reason => some reason
  | bindFailed _ reason => some reason
  | joinFailed _ _ reason => some reason
  | sendFailed _ reason => some reason
  | unknownAdapter _ => none

end LinkError

/-- A link with states `σ`: sending gives the number of bytes taken, or the reason for refusal. -/
structure Link (σ : Type) where
  send : Datagram → σ → Except LinkError Nat × σ

namespace Link

/-- Hands over datagrams one after the other and counts those that were taken. -/
def transmit {σ : Type} (link : Link σ) (datagrams : List Datagram) (state : σ) : Nat × σ :=
  datagrams.foldl (fun (sent, state) datagram =>
    match link.send datagram state with
    | (.ok _, next) => (sent + 1, next)
    | (.error _, next) => (sent, next)) (0, state)

/-- Keeps what it takes, and refuses all that goes out on some adapters. -/
def recording (failing : List AdapterId) : Link (Array Datagram) where
  send datagram taken :=
    if failing.contains datagram.target.adapter then
      (.error (.sendFailed datagram.target "refused"), taken)
    else (.ok datagram.bytes.length, taken.push datagram)

end Link
end RouteDiscovery

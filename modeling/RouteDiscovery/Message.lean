import RouteDiscovery.Address
import RouteDiscovery.Total
import RouteDiscovery.Wire.BigEndian

/-!
What nodes tell each other: which nodes they can reach, and application data.
-/
namespace RouteDiscovery
open Wire

/-- A node that the sender can reach, with the cost of each hop on the way. -/
structure NodeEntry where
  id : UInt16
  address : Address
  path : List UInt16
  deriving DecidableEq, Inhabited

/-- The sum of the hop costs of a path, in a word of 32 bits. -/
def pathCost (path : List UInt16) : UInt32 :=
  path.foldl (fun sum hop => sum + hop.toUInt32) 0

theorem toNat_foldl_hops (path : List UInt16) (sum : UInt32) :
    (path.foldl (fun sum hop => sum + hop.toUInt32) sum).toNat =
      (sum.toNat + total (path.map UInt16.toNat)) % 0x100000000 := by
  induction path generalizing sum with
  | nil => simp
  | cons hop path ih =>
    rw [List.foldl_cons, ih, UInt32.toNat_add, UInt16.toNat_toUInt32, List.map_cons, total_cons]
    omega

/-- The cost is exact while the sum of the hops fits the word. -/
theorem toNat_pathCost (path : List UInt16) :
    (pathCost path).toNat = total (path.map UInt16.toNat) % 0x100000000 := by
  simpa [pathCost] using toNat_foldl_hops path 0

namespace NodeEntry

def cost (entry : NodeEntry) : UInt32 :=
  pathCost entry.path

/-- The bytes that the entry takes in a message. -/
def size (entry : NodeEntry) : Nat :=
  8 + 2 * entry.path.length

end NodeEntry

/-- The announcement of a node: its own number and the nodes behind it. -/
structure Discovery where
  sender : UInt16
  nodes : List NodeEntry
  deriving DecidableEq, Inhabited

structure DataMessage where
  sender : UInt16
  payload : Bytes
  deriving DecidableEq, Inhabited

inductive Message where
  | discovery (message : Discovery)
  | data (message : DataMessage)
  deriving DecidableEq, Inhabited

namespace Message

/-- The number that tells the kinds of message apart on the wire. -/
def tag : Message → UInt16
  | discovery _ => 1
  | data _ => 2

def bodySize : Message → Nat
  | discovery message => 4 + total (message.nodes.map NodeEntry.size)
  | data message => 4 + message.payload.length

/-- The bytes of the message with its header. -/
def size (message : Message) : Nat :=
  6 + message.bodySize

end Message

structure Packet where
  messages : List Message
  deriving DecidableEq, Inhabited

namespace Packet

def ofMessage (message : Message) : Packet :=
  ⟨[message]⟩

/-- Every packet pays ten bytes for its size, its message count and its checksum. -/
def size (packet : Packet) : Nat :=
  10 + total (packet.messages.map Message.size)

/-- The greatest size of a packet. -/
def maxSize : Nat := 65536

end Packet
end RouteDiscovery

import RouteDiscovery.Message

/-!
A list of entries is told in as few messages as greedy filling needs, so that each message fits a
datagram. The order of the entries is kept, and there is always at least one message.
-/
namespace RouteDiscovery
namespace Partition

/-- The bytes of a packet with one discovery that lists no node. -/
def emptySize : Nat := 20

/-- The greatest number of nodes in one message. -/
def maxNodes : Nat := 65535

/-- The groups that are complete, and the one that is being filled with the size of its packet. -/
structure Filling where
  complete : Array (List NodeEntry) := #[]
  current : Array NodeEntry := #[]
  size : Nat := emptySize

/-- An entry that does not fit starts a new group, unless the current one is still empty. -/
def Filling.add (budget : Nat) (filling : Filling) (entry : NodeEntry) : Filling :=
  if (budget < filling.size + entry.size || filling.current.size == maxNodes) &&
      !filling.current.isEmpty then
    { complete := filling.complete.push filling.current.toList
      current := #[entry]
      size := emptySize + entry.size }
  else
    { filling with
      current := filling.current.push entry
      size := filling.size + entry.size }

end Partition

/-- The messages of `sender` that list the entries, each in a packet of at most `budget` bytes if
its entries allow that. -/
def Discovery.partition (sender : UInt16) (budget : Nat) (entries : List NodeEntry) :
    List Discovery :=
  let filling := entries.foldl (Partition.Filling.add budget) {}
  (filling.complete.push filling.current.toList).toList.map fun nodes => ⟨sender, nodes⟩

end RouteDiscovery

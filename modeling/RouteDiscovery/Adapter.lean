import RouteDiscovery.Address

/-!
The local network adapters, in the order in which they were last listed. No two share an id.
-/
namespace RouteDiscovery

structure AdapterId where
  name : String
  deriving DecidableEq, Hashable, Inhabited

structure Adapter where
  id : AdapterId
  name : String
  enabled : Bool := true
  multicast : Bool := true
  /-- The greatest datagram that the link carries, with its IP and UDP headers. -/
  mtu : Nat := 1500
  gateway : Option Address := none
  addresses : List Subnet := []
  deriving DecidableEq, Inhabited

namespace Adapter

/-- The source address of what is sent on the adapter. -/
def primary? (adapter : Adapter) : Option Address :=
  adapter.addresses.head?.map (·.address)

def hasAddress (adapter : Adapter) (address : Address) : Bool :=
  adapter.addresses.any (·.address == address)

/-- Discovery runs on an adapter that is enabled, multicasts and has an address. -/
def isUsable (adapter : Adapter) : Bool :=
  adapter.enabled && adapter.multicast && !adapter.addresses.isEmpty

/-- Each adapter whose id no earlier one has. -/
def firstPerId : List Adapter → List Adapter
  | [] => []
  | adapter :: rest => adapter :: (firstPerId rest).filter (·.id != adapter.id)

end Adapter

/-- What a new list of adapters changes in the set of ids. -/
structure AdapterChanges where
  added : List AdapterId
  removed : List AdapterId
  deriving DecidableEq

def AdapterChanges.isEmpty (changes : AdapterChanges) : Bool :=
  changes.added.isEmpty && changes.removed.isEmpty

structure AdapterTable where
  adapters : List Adapter := []
  deriving DecidableEq, Inhabited

namespace AdapterTable

def find? (table : AdapterTable) (id : AdapterId) : Option Adapter :=
  table.adapters.find? (·.id == id)

/-- The first adapter that has the address. -/
def owner? (table : AdapterTable) (address : Address) : Option Adapter :=
  table.adapters.find? (·.hasAddress address)

def usable (table : AdapterTable) : List Adapter :=
  table.adapters.filter (·.isUsable)

/-- Takes a new list; of adapters with one id the first counts. -/
def update (listed : List Adapter) (table : AdapterTable) : AdapterChanges × AdapterTable :=
  let next : AdapterTable := ⟨Adapter.firstPerId listed⟩
  let absentFrom (other : AdapterTable) (id : AdapterId) : Bool := (other.find? id).isNone
  ({ added := (next.adapters.map (·.id)).filter (absentFrom table)
     removed := (table.adapters.map (·.id)).filter (absentFrom next) },
    next)

def ofList (listed : List Adapter) : AdapterTable :=
  (({} : AdapterTable).update listed).2

end AdapterTable
end RouteDiscovery

import RouteDiscovery.Text.Numeral

/-!
IPv4 addresses, sockets and subnets.
-/
namespace RouteDiscovery

structure Address where
  bits : UInt32
  deriving DecidableEq, Hashable, Inhabited

namespace Address

def ofOctets (a b c d : UInt8) : Address :=
  ⟨a.toUInt32 <<< 24 ||| b.toUInt32 <<< 16 ||| c.toUInt32 <<< 8 ||| d.toUInt32⟩

def octets (address : Address) : List Nat :=
  let n := address.bits.toNat
  [n >>> 24, n >>> 16 % 256, n >>> 8 % 256, n % 256]

instance : ToString Address where
  toString address := ".".intercalate (address.octets.map fun n => s!"{n}")

/-- An octet has one to three digits and no leading zero. -/
def octet? (text : String) : Option UInt8 :=
  match text.toList with
  | [] => none
  | '0' :: _ :: _ => none
  | digits =>
    if digits.length ≤ 3 then
      ((Text.digitsValue? digits).filter (· ≤ 255)).map UInt8.ofNat
    else none

/-- Four octets between dots. -/
def parse? (text : String) : Option Address :=
  match (text.splitOn ".").mapM octet? with
  | some [a, b, c, d] => some (ofOctets a b c d)
  | _ => none

/-- The addresses that name groups, from 224.0.0.0 to 239.255.255.255. -/
def isMulticast (address : Address) : Bool :=
  address.bits >>> 28 == 14

end Address

/-- A host with one of its ports. -/
structure SocketAddress where
  address : Address
  port : UInt16
  deriving DecidableEq, Hashable, Inhabited

instance : ToString SocketAddress where
  toString socket := s!"{socket.address}:{socket.port.toNat}"

/-- A local address together with the mask of its subnet. -/
structure Subnet where
  address : Address
  mask : Address
  deriving DecidableEq, Inhabited

/-- The peer agrees with the local address on every bit of the mask. -/
def Subnet.contains (subnet : Subnet) (peer : Address) : Bool :=
  subnet.address.bits &&& subnet.mask.bits == peer.bits &&& subnet.mask.bits

instance : ToString Subnet where
  toString subnet := s!"{subnet.address}/{subnet.mask}"

end RouteDiscovery

import RouteDiscovery.Wire.BigEndian

/-!
The integer types of the wire. A signed value is stored in two's complement.
-/
namespace RouteDiscovery.Wire

/-- An integer type: its width in bytes and whether its top bit is a sign. -/
structure Scalar where
  width : Nat
  signed : Bool
  deriving DecidableEq

namespace Scalar

def u8 : Scalar := ⟨1, false⟩
def u16 : Scalar := ⟨2, false⟩
def u32 : Scalar := ⟨4, false⟩
def u64 : Scalar := ⟨8, false⟩
def i8 : Scalar := ⟨1, true⟩
def i16 : Scalar := ⟨2, true⟩
def i32 : Scalar := ⟨4, true⟩
def i64 : Scalar := ⟨8, true⟩

/-- How many values the type has. -/
def count (type : Scalar) : Nat :=
  capacity type.width

def least (type : Scalar) : Int :=
  if type.signed then -(type.count / 2 : Nat) else 0

def Holds (type : Scalar) (value : Int) : Prop :=
  type.least ≤ value ∧ value < type.least + type.count

instance (type : Scalar) (value : Int) : Decidable (type.Holds value) :=
  inferInstanceAs (Decidable (_ ∧ _))

def encode (type : Scalar) (value : Int) : Bytes :=
  bigEndian type.width (value % type.count).toNat

def decode (type : Scalar) (bytes : Bytes) : Int :=
  let n := ofBigEndian bytes
  if type.signed ∧ type.count ≤ 2 * n then (n : Int) - type.count else n

@[simp] theorem length_encode (type : Scalar) (value : Int) :
    (type.encode value).length = type.width :=
  length_bigEndian _ _

end Scalar
end RouteDiscovery.Wire

import RouteDiscovery.Wire.BigEndian
import RouteDiscovery.Wire.Fault

/-!
A format is laid out as a list of fields. A field is written whole or not at all, and a value that
its field cannot hold refuses to be written.
-/
namespace RouteDiscovery.Wire

inductive Field where
  | bytes (content : Bytes)
  | refused (fault : Fault)
  deriving DecidableEq

namespace Field

/-- An unsigned number of `width` bytes; `what` names it if it does not fit. -/
def number (width : Nat) (what : String) (n : Nat) : Field :=
  if n < capacity width then bytes (bigEndian width n) else refused (.tooLarge what n)

def word16 (word : UInt16) : Field :=
  bytes (bigEndian 2 word.toNat)

def word32 (word : UInt32) : Field :=
  bytes (bigEndian 4 word.toNat)

def refusal? : Field → Option Fault
  | bytes _ => none
  | refused fault => some fault

def content : Field → Bytes
  | bytes content => content
  | refused _ => []

/-- All fields one after the other, or the first refusal. -/
def concat (fields : List Field) : Except Fault Bytes :=
  match fields.findSome? refusal? with
  | some fault => .error fault
  | none => .ok (fields.flatMap content)

end Field
end RouteDiscovery.Wire

import RouteDiscovery.Text.Numeral

/-!
Why bytes could not be written or read.
-/
namespace RouteDiscovery.Wire

inductive Fault where
  /-- A buffer has no room for what is to be written. -/
  | bufferFull (needed available : Nat)
  /-- The input ends before what is to be read at `offset`. -/
  | truncated (offset needed available : Nat)
  | checksumMismatch (carried computed : UInt32)
  /-- A declared size is not the number of bytes found. -/
  | sizeMismatch (declared actual : Nat)
  | unknownMessageType (tag : UInt16)
  /-- A count or size that its field, or the format, cannot hold. -/
  | tooLarge (what : String) (length : Nat)
  deriving DecidableEq

namespace Fault

def message : Fault → String
  | bufferFull needed available => s!"buffer full: need {needed} bytes, {available} available"
  | truncated offset needed available =>
    s!"truncated at offset {offset}: need {needed} bytes, {available} available"
  | checksumMismatch carried computed =>
    s!"checksum mismatch: carried 0x{Text.hexWord carried}, computed 0x{Text.hexWord computed}"
  | sizeMismatch declared actual => s!"size mismatch: declared {declared}, actual {actual}"
  | unknownMessageType tag => s!"unknown message type {tag.toNat}"
  | tooLarge what length => s!"{what} too large for its wire field: {length}"

/-- More input may mend a truncation and no other fault. -/
def isTruncation : Fault → Bool
  | truncated .. => true
  | _ => false

end Fault
end RouteDiscovery.Wire

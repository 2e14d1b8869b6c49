import RouteDiscovery.Wire.Buffer

/-!
How a buffer lies in memory: bytes that are there from the start, an offset up to which they are
written and one up to which they are read. Appending overwrites what stands behind the first offset,
and a new capacity keeps what was written before as bytes that count for nothing. An operation gives
`none` where it would reach out of the bytes or take a greater offset from a smaller one.
-/
namespace RouteDiscovery.Wire

/-- What is done to a buffer. -/
inductive BufferAction where
  | append (type : Scalar) (value : Int)
  | appendBytes (content : Bytes)
  | read (type : Scalar)
  /-- Reads without moving the cursor. -/
  | peek (type : Scalar)
  | readBytes (n : Nat)
  | seek (offset : Nat)
  | rewind
  | resize (capacity : Nat)
  deriving DecidableEq

inductive BufferReply where
  | done
  | number (value : Int)
  | bytes (content : Bytes)
  deriving DecidableEq

structure Storage where
  data : Array UInt8
  writeOffset : Nat
  readOffset : Nat
  deriving DecidableEq

namespace Storage

def minus? (m n : Nat) : Option Nat :=
  if n ≤ m then some (m - n) else none

/-- The bytes from one offset to another. -/
def slice? (start stop : Nat) (data : Array UInt8) : Option Bytes :=
  if start ≤ stop ∧ stop ≤ data.size then some (data.extract start stop).toList else none

/-- Puts bytes in the place of those from `i` on. -/
def overwrite : Nat → Bytes → Array UInt8 → Array UInt8
  | _, [], data => data
  | i, byte :: rest, data => overwrite (i + 1) rest (data.setIfInBounds i byte)

/-- Puts bytes in the place of as many. -/
def copy? (start stop : Nat) (content : Bytes) (data : Array UInt8) : Option (Array UInt8) :=
  if start ≤ stop ∧ stop ≤ data.size ∧ content.length = stop - start then
    some (overwrite start content data)
  else none

def empty (capacity : Nat) : Storage :=
  ⟨Array.replicate capacity 0, 0, 0⟩

/-- A full storage of which nothing has been read. -/
def ofBytes (bytes : Bytes) : Storage :=
  ⟨bytes.toArray, bytes.length, 0⟩

def room? (storage : Storage) : Option Nat :=
  minus? storage.data.size storage.writeOffset

def left? (storage : Storage) : Option Nat :=
  minus? storage.writeOffset storage.readOffset

def written? (storage : Storage) : Option Bytes :=
  slice? 0 storage.writeOffset storage.data

/-- The bytes written from an offset on; an offset past the end gives none. -/
def writtenSince? (start : Nat) (storage : Storage) : Option Bytes :=
  slice? (min start storage.writeOffset) storage.writeOffset storage.data

def unread? (storage : Storage) : Option Bytes :=
  slice? storage.readOffset storage.writeOffset storage.data

/-- Gives up the storage for what is written. -/
def intoBytes (storage : Storage) : Bytes :=
  storage.data.toList.take storage.writeOffset

/-- Where `n` more bytes would end. -/
def reserve? (n : Nat) (storage : Storage) : Option (Except Fault Nat) := do
  let available ← storage.room?
  return if available < n then .error (.bufferFull n available) else .ok (storage.writeOffset + n)

def append? (content : Bytes) (storage : Storage) : Option (Except Fault Unit × Storage) := do
  match ← storage.reserve? content.length with
  | .error fault => return (.error fault, storage)
  | .ok stop =>
    let data ← copy? storage.writeOffset stop content storage.data
    return (.ok (), { storage with data, writeOffset := stop })

/-- The next `n` bytes that are to be read. -/
def next? (n : Nat) (storage : Storage) : Option (Except Fault Bytes) := do
  let available ← storage.left?
  if available < n then return .error (.truncated storage.readOffset n available)
  else
    let content ← slice? storage.readOffset (storage.readOffset + n) storage.data
    return .ok content

def seek (offset : Nat) (storage : Storage) : Storage :=
  { storage with readOffset := min offset storage.writeOffset }

/-- Cuts the bytes off or adds zeros, and starts anew. -/
def resize (capacity : Nat) (storage : Storage) : Storage :=
  ⟨storage.data.take capacity ++ Array.replicate (capacity - storage.data.size) 0, 0, 0⟩

def step? : BufferAction → Storage → Option (Except Fault BufferReply × Storage)
  | .append type value, storage => do
    let (result, after) ← storage.append? (type.encode value)
    return (result.map fun _ => .done, after)
  | .appendBytes content, storage => do
    let (result, after) ← storage.append? content
    return (result.map fun _ => .done, after)
  | .read type, storage => do
    match ← storage.next? type.width with
    | .error fault => return (.error fault, storage)
    | .ok content =>
      return (.ok (.number (type.decode content)),
        { storage with readOffset := storage.readOffset + type.width })
  | .peek type, storage => do
    let result ← storage.next? type.width
    return (result.map fun content => .number (type.decode content), storage)
  | .readBytes n, storage => do
    match ← storage.next? n with
    | .error fault => return (.error fault, storage)
    | .ok content =>
      return (.ok (.bytes content), { storage with readOffset := storage.readOffset + n })
  | .seek offset, storage => some (.ok .done, storage.seek offset)
  | .rewind, storage => some (.ok .done, { storage with readOffset := 0 })
  | .resize capacity, storage => some (.ok .done, storage.resize capacity)

/-- The replies to actions that are taken one after the other. -/
def run? : List BufferAction → Storage → Option (List (Except Fault BufferReply) × Storage)
  | [], storage => some ([], storage)
  | action :: rest, storage => do
    let (reply, next) ← storage.step? action
    let (replies, last) ← run? rest next
    return (reply :: replies, last)

/-- The buffer that the storage stands for. -/
def toBuffer (storage : Storage) : Buffer :=
  ⟨storage.data.size, storage.data.take storage.writeOffset, storage.readOffset⟩

end Storage
end RouteDiscovery.Wire

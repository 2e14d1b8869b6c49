import RouteDiscovery.Wire.Field
import RouteDiscovery.Wire.Reader

/-!
A bounded byte buffer with a read cursor. Appends that do not fit and reads past the written bytes
fail and change nothing.
-/
namespace RouteDiscovery.Wire

structure Buffer where
  capacity : Nat
  written : Array UInt8
  position : Nat
  deriving DecidableEq

namespace Buffer
variable {α : Type}

def empty (capacity : Nat) : Buffer :=
  ⟨capacity, #[], 0⟩

/-- A full buffer of which nothing has been read. -/
def ofBytes (bytes : Bytes) : Buffer :=
  ⟨bytes.length, bytes.toArray, 0⟩

def size (buffer : Buffer) : Nat :=
  buffer.written.size

def room (buffer : Buffer) : Nat :=
  buffer.capacity - buffer.size

def left (buffer : Buffer) : Nat :=
  buffer.size - buffer.position

def toList (buffer : Buffer) : Bytes :=
  buffer.written.toList

def unread (buffer : Buffer) : Bytes :=
  buffer.toList.drop buffer.position

/-- The bytes written from offset `start` on; an offset past the end gives none. -/
def writtenSince (buffer : Buffer) (start : Nat) : Bytes :=
  buffer.toList.drop start

def append (bytes : Bytes) (buffer : Buffer) : Except Fault Unit × Buffer :=
  if bytes.length ≤ buffer.room then
    (.ok (), { buffer with written := buffer.written ++ bytes })
  else (.error (.bufferFull bytes.length buffer.room), buffer)

/-- Writes fields up to the first that is refused or does not fit. -/
def write : List Field → Buffer → Except Fault Unit × Buffer
  | [], buffer => (.ok (), buffer)
  | .refused fault :: _, buffer => (.error fault, buffer)
  | .bytes content :: rest, buffer =>
    match buffer.append content with
    | (.ok _, longer) => write rest longer
    | (.error fault, same) => (.error fault, same)

/-- Runs a reader on the unread bytes. -/
def read (reader : Reader α) (buffer : Buffer) : Except Fault α × Buffer :=
  let (result, cursor) := reader ⟨buffer.position, buffer.unread⟩
  (result, { buffer with position := cursor.position })

/-- Moves the read cursor, at most to the end of what is written. -/
def seek (offset : Nat) (buffer : Buffer) : Buffer :=
  { buffer with position := min offset buffer.size }

/-- Forgets the content and takes a new capacity. -/
def resize (capacity : Nat) (_ : Buffer) : Buffer :=
  empty capacity

end Buffer
end RouteDiscovery.Wire

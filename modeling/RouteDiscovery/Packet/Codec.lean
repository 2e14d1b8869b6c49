import RouteDiscovery.Digest.MD5
import RouteDiscovery.Message.Codec

/-!
Packets on the wire: the size of the whole packet, the number of messages, the messages, and a
checksum of all that stands before it. A packet is written field by field once nothing stands
against it, and a failed read leaves the cursor where it was.
-/
namespace RouteDiscovery
open Wire

/-- The last word of the MD5 digest. -/
def checksum (bytes : Bytes) : UInt32 :=
  (Digest.MD5.hash bytes).d

namespace Packet

/-- All fields but the checksum. -/
def fields (packet : Packet) : List Field :=
  .number 4 "packet" packet.size :: .number 2 "message count" packet.messages.length ::
    packet.messages.flatMap Message.fields

/-- Why the packet cannot be written where `room` bytes may be taken. -/
def refusal? (room : Nat) (packet : Packet) : Option Fault :=
  let counts := .number 4 "packet" packet.size ::
    .number 2 "message count" packet.messages.length :: packet.messages.flatMap Message.counts
  if room < packet.size then some (.bufferFull packet.size room)
  else match counts.findSome? Field.refusal? with
    | some fault => some fault
    | none => if maxSize < packet.size then some (.tooLarge "packet" packet.size) else none

def withChecksum (body : Bytes) : Bytes :=
  body ++ bigEndian 4 (checksum body).toNat

/-- The bytes of a packet, where `room` bytes may be taken. -/
def encodeWithin (room : Nat) (packet : Packet) : Except Fault Bytes := do
  if room < packet.size then throw (.bufferFull packet.size room)
  let body ← Field.concat packet.fields
  if maxSize < packet.size then throw (.tooLarge "packet" packet.size)
  return withChecksum body

def encode (packet : Packet) : Except Fault Bytes :=
  packet.encodeWithin packet.size

/-- Checks the declared size and the checksum of the packet ahead without moving. -/
def check : Reader Unit := Reader.peek do
  let size ← Reader.peek (Reader.number 4)
  if size < 10 then Reader.fail (.sizeMismatch size 10)
  else if maxSize < size then Reader.fail (.tooLarge "packet" size)
  else
    Reader.require size
    let body ← Reader.bytes (size - 4)
    let carried ← Reader.word32
    if carried = checksum body then return ()
    else Reader.fail (.checksumMismatch carried (checksum body))

/-- A packet must take exactly the bytes that it declares. -/
def reader : Reader Packet := Reader.atomically do
  check
  let start ← Reader.position
  let size ← Reader.number 4
  let count ← Reader.number 2
  let messages ← Message.reader.many count
  let stop ← Reader.position
  if stop - start + 4 = size then
    let _ ← Reader.word32
    return ⟨messages⟩
  else Reader.fail (.sizeMismatch size (stop - start + 4))

/-- Exactly one packet and nothing behind it. -/
def decode (bytes : Bytes) : Except Fault Packet :=
  match reader ⟨0, bytes⟩ with
  | (.ok packet, rest) =>
    if rest.unread.isEmpty then .ok packet
    else .error (.sizeMismatch rest.position bytes.length)
  | (.error fault, _) => .error fault

end Packet

/-- Appends a packet and gives its size. A fault between two fields would leave the first of them
behind. -/
def Wire.Buffer.writePacket (packet : Packet) (buffer : Buffer) : Except Fault Nat × Buffer :=
  match packet.refusal? buffer.room with
  | some fault => (.error fault, buffer)
  | none =>
    match buffer.write packet.fields with
    | (.error fault, torn) => (.error fault, torn)
    | (.ok _, body) =>
      let (result, whole) := body.write [.word32 (checksum (body.writtenSince buffer.size))]
      (result.map fun _ => packet.size, whole)

end RouteDiscovery

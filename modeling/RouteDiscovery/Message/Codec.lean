import RouteDiscovery.Message
import RouteDiscovery.Wire.Buffer

/-!
Messages on the wire: a header with the size of the whole message and its kind, then a body.
The body of a discovery counts its nodes and each node its hops; a payload is counted in bytes.
-/
namespace RouteDiscovery
open Wire

/-- What stands before the body of a message. -/
structure MessageHeader where
  size : UInt32
  tag : UInt16
  deriving DecidableEq

namespace MessageHeader

def fields (header : MessageHeader) : List Field :=
  [.word32 header.size, .word16 header.tag]

def reader : Reader MessageHeader := do
  let size ← Reader.word32
  let tag ← Reader.word16
  return ⟨size, tag⟩

end MessageHeader

namespace NodeEntry

def fields (entry : NodeEntry) : List Field :=
  .word16 entry.id :: .word32 entry.address.bits ::
    .number 2 "jump count" entry.path.length :: entry.path.map .word16

/-- The hops are one block: where it is cut short, the fault names the whole block. -/
def reader : Reader NodeEntry := do
  let id ← Reader.word16
  let bits ← Reader.word32
  let count ← Reader.number 2
  Reader.require (2 * count)
  let path ← Reader.word16.many count
  return ⟨id, ⟨bits⟩, path⟩

end NodeEntry

namespace Discovery

def fields (message : Discovery) : List Field :=
  .word16 message.sender :: .number 2 "node count" message.nodes.length ::
    message.nodes.flatMap NodeEntry.fields

def reader : Reader Discovery := do
  let sender ← Reader.word16
  let count ← Reader.number 2
  let nodes ← NodeEntry.reader.many count
  return ⟨sender, nodes⟩

end Discovery

namespace DataMessage

def fields (message : DataMessage) : List Field :=
  [.word16 message.sender, .number 2 "payload length" message.payload.length,
    .bytes message.payload]

def reader : Reader DataMessage := do
  let sender ← Reader.word16
  let count ← Reader.number 2
  let payload ← Reader.bytes count
  return ⟨sender, payload⟩

end DataMessage

namespace Message

def bodyFields : Message → List Field
  | discovery message => message.fields
  | data message => message.fields

def fields (message : Message) : List Field :=
  .number 4 "message" message.size :: .word16 message.tag :: message.bodyFields

/-- The fields that count what follows them. -/
def counts : Message → List Field
  | discovery message =>
    .number 2 "node count" message.nodes.length ::
      message.nodes.map fun entry => .number 2 "jump count" entry.path.length
  | data message => [.number 2 "payload length" message.payload.length]

/-- The body of a message of the kind with the given number. -/
def bodyReader (tag : UInt16) : Reader Message :=
  if tag = 1 then discovery <$> Discovery.reader
  else if tag = 2 then data <$> DataMessage.reader
  else Reader.fail (.unknownMessageType tag)

/-- A message must take exactly the bytes that its header declares. -/
def reader : Reader Message := do
  let start ← Reader.position
  let header ← MessageHeader.reader
  let message ← bodyReader header.tag
  let stop ← Reader.position
  if stop - start = header.size.toNat then return message
  else Reader.fail (.sizeMismatch header.size.toNat (stop - start))

end Message
end RouteDiscovery

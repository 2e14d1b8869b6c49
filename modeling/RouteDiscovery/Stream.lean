import RouteDiscovery.Clock
import RouteDiscovery.Packet.Codec
import RouteDiscovery.Wire.Progress

/-!
Reassembly of packets from the bytes of one stream. Whole packets are taken off the front of the
backlog; what cannot be the start of a packet loses the whole backlog.
-/
namespace RouteDiscovery
open Wire

theorem NodeEntry.takes_reader : Reader.Takes 0 NodeEntry.reader :=
  (Reader.takes_word16.bind fun _ => Reader.takes_word32.bind fun _ =>
    (Reader.takes_number 2).bind fun n => (Reader.takes_require (2 * n)).bind fun _ =>
      ((Reader.takes_word16.mono (Nat.zero_le _)).many n).bind fun _ =>
        Reader.takes_pure _).mono (Nat.zero_le _)

theorem Message.takes_reader : Reader.Takes 0 Message.reader := by
  have hbody (tag : UInt16) : Reader.Takes 0 (Message.bodyReader tag) := by
    refine Reader.Takes.ite (Reader.Takes.map _ ?_) (Reader.Takes.ite (Reader.Takes.map _ ?_)
      (Reader.takes_fail _))
    · exact (Reader.takes_word16.bind fun _ => (Reader.takes_number 2).bind fun n =>
        (NodeEntry.takes_reader.many n).bind fun _ => Reader.takes_pure _).mono (Nat.zero_le _)
    · exact (Reader.takes_word16.bind fun _ => (Reader.takes_number 2).bind fun n =>
        ((Reader.takes_bytes n).mono (Nat.zero_le _)).bind fun _ =>
          Reader.takes_pure _).mono (Nat.zero_le _)
  have hheader : Reader.Takes 0 MessageHeader.reader :=
    (Reader.takes_word32.bind fun _ => Reader.takes_word16.bind fun _ =>
      Reader.takes_pure _).mono (Nat.zero_le _)
  exact (Reader.takes_position.bind fun _ => hheader.bind fun header => (hbody header.tag).bind
    fun _ => Reader.takes_position.bind fun _ =>
      Reader.Takes.ite (Reader.takes_pure _) (Reader.takes_fail _)).mono (Nat.zero_le _)

/-- A packet takes at least the four bytes of its size. -/
theorem Packet.takes_reader : Reader.Takes 4 Packet.reader := by
  refine Reader.Takes.atomically (Reader.Takes.mono ((Reader.takes_peek _).bind fun _ =>
    Reader.takes_position.bind fun _ => (Reader.takes_number 4).bind fun _ =>
      (Reader.takes_number 2).bind fun n => (Message.takes_reader.many n).bind fun _ =>
        Reader.takes_position.bind fun _ => Reader.Takes.ite (k := 0)
          ((Reader.takes_word32.bind fun _ => Reader.takes_pure _).mono (Nat.zero_le _))
          (Reader.takes_fail _)) (by decide))

theorem Packet.unread_lt_of_reader {bytes : Bytes} {packet : Packet} {rest : Cursor}
    (h : Packet.reader ⟨0, bytes⟩ = (.ok packet, rest)) :
    rest.unread.length < bytes.length := by
  obtain ⟨m, hm, hl, rfl⟩ := Packet.takes_reader _ _ _ h
  simp only at hl
  simp only [Cursor.advance, List.length_drop]
  omega

/-- What a backlog yields: packets, the bytes kept for later, and how many bytes were given up. -/
structure Unpacked where
  packets : List Packet
  backlog : Bytes
  discarded : Nat
  deriving DecidableEq

/-- More bytes may still make this the start of a packet: its size is not there yet, or fewer
bytes than that size are. -/
def isWaiting (backlog : Bytes) : Bool :=
  !hasLength 10 backlog ||
    let size := ofBigEndian (backlog.take 4)
    decide (size ≤ Packet.maxSize) && !hasLength size backlog

def unpackBehind (found : Array Packet) (backlog : Bytes) : Unpacked :=
  if isWaiting backlog then ⟨found.toList, backlog, 0⟩
  else
    match _h : Packet.reader ⟨0, backlog⟩ with
    | (.ok packet, rest) => unpackBehind (found.push packet) rest.unread
    | (.error _, _) => ⟨found.toList, [], backlog.length⟩
termination_by backlog.length
decreasing_by exact Packet.unread_lt_of_reader _h

def unpack (backlog : Bytes) : Unpacked :=
  unpackBehind #[] backlog

structure Stream where
  backlog : Bytes := []
  /-- When bytes last arrived, if any did. -/
  lastReceived : Option Time := none
  decoded : Nat := 0
  discarded : Nat := 0
  deriving DecidableEq, Inhabited

namespace Stream

def receive (bytes : Bytes) (now : Time) (stream : Stream) : Stream :=
  { stream with backlog := stream.backlog ++ bytes, lastReceived := some now }

/-- Takes the whole packets off the backlog. -/
def drain (stream : Stream) : List Packet × Stream :=
  let unpacked := unpack stream.backlog
  (unpacked.packets,
    { stream with
      backlog := unpacked.backlog
      decoded := stream.decoded + unpacked.packets.length
      discarded := stream.discarded + unpacked.discarded })

/-- A stream is idle once nothing has arrived for `timeout`. -/
def isIdle (now : Time) (timeout : Nat) (stream : Stream) : Bool :=
  match stream.lastReceived with
  | none => true
  | some last => timeout ≤ elapsed now last

end Stream
end RouteDiscovery

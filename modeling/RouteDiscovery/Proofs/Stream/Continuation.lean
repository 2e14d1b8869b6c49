import RouteDiscovery.Proofs.Stream.Remainder
import RouteDiscovery.Proofs.Wire.Steady

/-!
What more input can change. A packet that was read is read again, and a fault that is no truncation
is met again, whatever stands behind the bytes. The bytes that a drain gives up are the start of no
packet, even where reading them ran out of input.
-/
namespace RouteDiscovery
open Wire Reader

theorem NodeEntry.steady_reader : Steady reader :=
  steady_word16.bind fun _ => steady_word32.bind fun _ => (steady_number 2).bind fun n =>
    (steady_require (2 * n)).bind fun _ => (steady_word16.many n).bind fun _ => steady_pure _

namespace Message

theorem steady_bodyReader (tag : UInt16) : Steady (bodyReader tag) := by
  have hdiscovery : Steady Discovery.reader :=
    steady_word16.bind fun _ => (steady_number 2).bind fun n =>
      (NodeEntry.steady_reader.many n).bind fun _ => steady_pure _
  have hdata : Steady DataMessage.reader :=
    steady_word16.bind fun _ => (steady_number 2).bind fun n =>
      (steady_bytes n).bind fun _ => steady_pure _
  exact (hdiscovery.map discovery).ite ((hdata.map data).ite (steady_fail _))

theorem steady_reader : Steady reader := by
  have hheader : Steady MessageHeader.reader :=
    steady_word32.bind fun _ => steady_word16.bind fun _ => steady_pure _
  exact steady_position.bind fun _ => hheader.bind fun header =>
    (steady_bodyReader header.tag).bind fun _ => steady_position.bind fun _ =>
      (steady_pure _).ite (steady_fail _)

end Message

namespace Packet

/-- Only a packet that is not all there leaves the check open. -/
theorem steady_check : Steady check := by
  have hsealed (size : Nat) : Steady (sealedReader size) :=
    (steady_fail _).ite ((steady_fail _).ite ((steady_require size).bind fun _ =>
      (steady_bytes (size - 4)).bind fun _ => steady_word32.bind fun _ =>
        (steady_pure _).ite (steady_fail _)))
  exact ((steady_number 4).peek.bind hsealed).peek

/-- Message readers look past the end of the packet, but what they find there is not final. -/
theorem steady_reader : Steady reader :=
  (steady_check.bind fun _ => steady_position.bind fun _ => (steady_number 4).bind fun _ =>
    (steady_number 2).bind fun n => (Message.steady_reader.many n).bind fun _ =>
      steady_position.bind fun _ =>
        (steady_word32.bind fun _ => steady_pure _).ite (steady_fail _)).atomically

theorem read_eq_error {buffer : Buffer} {fault : Fault}
    (h : (buffer.read reader).1 = .error fault) : buffer.read reader = (.error fault, buffer) := by
  unfold Buffer.read at h ⊢
  rcases hread : reader ⟨buffer.position, buffer.unread⟩ with ⟨result, after⟩
  rw [hread] at h
  obtain rfl : result = .error fault := h
  rw [reader_error hread]

end Packet

section Barren
variable {rest : Bytes}

theorem Barren.exists_fault (h : Barren rest) :
    ∃ fault, ((Buffer.ofBytes rest).read Packet.reader).1 = .error fault := by
  unfold Buffer.read
  rcases hread : Packet.reader ⟨_, (Buffer.ofBytes rest).unread⟩ with ⟨fault | packet, after⟩
  · exact ⟨fault, rfl⟩
  · obtain ⟨code, hcode, hfront, -⟩ := Packet.reads_reader.split hread
    exact absurd ⟨after.unread, hfront.symm⟩ (h packet code hcode)

/-- Bytes that no packet starts stay so if they are not incomplete: a packet at the front of the
longer bytes would be no longer than the shorter ones. -/
theorem Barren.append (h : Barren rest) (hhopeless : ¬ Incomplete rest) (more : Bytes) :
    Barren (rest ++ more) := by
  intro packet code hcode hfront
  have hten : 10 ≤ rest.length := by
    by_contra hshort
    exact hhopeless (.inl (Nat.lt_of_not_le hshort))
  have hsize : ofBigEndian (rest.take 4) = packet.size := by
    obtain ⟨tail, htail⟩ := hfront
    rw [← declared_size_of_encode hcode tail, htail, List.take_append_of_le_length (by omega)]
  have hlength : code.length ≤ rest.length := by
    rw [Packet.length_of_encode hcode, ← hsize]
    by_contra hshort
    exact hhopeless (.inr ⟨Nat.lt_of_not_le hshort, hsize ▸ Packet.size_le_of_encode hcode⟩)
  exact h packet code hcode
    (List.prefix_of_prefix_length_le hfront (List.prefix_append rest more) hlength)

end Barren

namespace Stream
variable {stream : Stream} {codes : List Bytes} {rest : Bytes}

/-- What stands behind the packets of a drain is what it gave up, if it gave up anything. -/
theorem given_up (hcodes : Packet.Codes stream.drain.1 codes)
    (hbacklog : stream.backlog = codes.flatten ++ rest)
    (hdiscarded : stream.drain.2.discarded ≠ stream.discarded) :
    Barren rest ∧ ¬ Incomplete rest ∧ stream.drain.2.backlog = [] ∧
      stream.drain.2.discarded = stream.discarded + rest.length := by
  obtain ⟨packets, remainder, hparses⟩ := exists_parses stream.backlog
  have hdrain := drain_of_parses hparses
  rw [hdrain] at hcodes hdiscarded ⊢
  have hrest : rest = remainder := by
    obtain ⟨codes', hcodes', hsplit⟩ := hparses.exists_codes
    rw [hcodes.unique hcodes', hbacklog] at hsplit
    exact List.append_cancel_left hsplit
  subst hrest
  have hhopeless : ¬ Incomplete rest := by
    intro hwaits
    simp [hwaits] at hdiscarded
  exact ⟨hparses.barren, hhopeless, if_neg hhopeless, by simp only [if_neg hhopeless]⟩

/-- Whatever follows some bytes: a packet that is read from them is read all the same, with the
cursor at the same offset; a fault other than a truncation is met all the same; and where a drain
gives the bytes up, be the fault in them a truncation or not, no packet starts the longer bytes. -/
theorem verdict_lasts (bytes more : Bytes) :
    (∀ packet position, (Buffer.ofBytes bytes).read Packet.reader =
          (.ok packet, { Buffer.ofBytes bytes with position }) →
        (Buffer.ofBytes (bytes ++ more)).read Packet.reader =
          (.ok packet, { Buffer.ofBytes (bytes ++ more) with position })) ∧
      (∀ fault, ((Buffer.ofBytes bytes).read Packet.reader).1 = .error fault →
        fault.isTruncation = false →
          (Buffer.ofBytes (bytes ++ more)).read Packet.reader =
            (.error fault, Buffer.ofBytes (bytes ++ more))) ∧
      ∀ (stream : Stream) (codes : List Bytes), Packet.Codes stream.drain.1 codes →
        stream.backlog = codes.flatten ++ bytes →
        stream.drain.2.discarded ≠ stream.discarded →
          stream.drain.2.backlog = [] ∧
          stream.drain.2.discarded = stream.discarded + bytes.length ∧
          (∃ fault, ((Buffer.ofBytes bytes).read Packet.reader).1 = .error fault) ∧
          ∀ (packet : Packet) (code : Bytes), packet.encode = .ok code →
            ¬ code <+: bytes ++ more := by
  refine ⟨fun packet position hread => ?_, fun fault hread hfinal => ?_,
    fun stream codes hcodes hbacklog hdiscarded => ?_⟩
  · exact Packet.steady_reader.read_ofBytes hread (isFinal_ok packet) more
  · refine Packet.steady_reader.read_ofBytes (Packet.read_eq_error hread) ?_ more
    intro other hother
    cases hother
    exact hfinal
  · obtain ⟨hbarren, hhopeless, hempty, hcount⟩ := given_up hcodes hbacklog hdiscarded
    exact ⟨hempty, hcount, hbarren.exists_fault, hbarren.append hhopeless more⟩

/-- An empty packet, and behind it one that is all there but for a payload said to have 100 bytes:
reading it ends inside the message for want of input, and no input will do. -/
theorem verdict_lasts_torn :
    let whole : Bytes := [0, 0, 0, 10, 0, 0, 117, 115, 251, 181]
    let torn : Bytes := [0, 0, 0, 20, 0, 1, 0, 0, 0, 110, 0, 2, 0, 7, 0, 100, 103, 193, 127, 208]
    let stream : Stream := { backlog := whole ++ torn }
    (Packet.Codes stream.drain.1 [whole] ∧ stream.backlog = [whole].flatten ++ torn ∧
        stream.drain.2.discarded ≠ stream.discarded) ∧
      ((Buffer.ofBytes torn).read Packet.reader).1 = .error (.truncated 16 100 4) ∧
      stream.drain.2.discarded = 20 ∧
      ∀ (packet : Packet) (code : Bytes), packet.encode = .ok code →
        ¬ code <+: torn ++ List.replicate 100 0 := by
  intro whole torn stream
  have hcodes : Packet.Codes stream.drain.1 [whole] := by
    have hdrained : stream.drain.1 = [⟨[]⟩] := by decide +kernel
    rw [hdrained]
    exact .cons (by decide +kernel) .nil
  have hdiscarded : stream.drain.2.discarded ≠ stream.discarded := by decide +kernel
  have hlasts :=
    (verdict_lasts torn (List.replicate 100 0)).2.2 stream [whole] hcodes rfl hdiscarded
  exact ⟨⟨hcodes, rfl, hdiscarded⟩, by decide +kernel, hlasts.2.1, hlasts.2.2.2⟩

end Stream
end RouteDiscovery

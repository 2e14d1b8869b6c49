import RouteDiscovery.Proofs.Packet.Layout

/-!
A message by itself, written to a buffer and read from it without a packet around. It may be longer
than any packet: only its own fields bound it.
-/
namespace RouteDiscovery
open Wire

namespace Wire.Buffer

/-- Fields are all written exactly if none is refused and there is room for all of them. -/
theorem write_eq_ok_iff {fields : List Field} {buffer after : Buffer} :
    buffer.write fields = (.ok (), after) ↔
      ∃ code, Field.concat fields = .ok code ∧ code.length ≤ buffer.room ∧
        after = { buffer with written := buffer.written ++ code } := by
  induction fields generalizing buffer with
  | nil => simp [write, Field.concat_nil, eq_comm]
  | cons field rest ih =>
    cases field with
    | refused fault => simp [write, Field.concat_refused]
    | bytes content =>
      by_cases hroom : content.length ≤ buffer.room
      · have hwrite : buffer.write (.bytes content :: rest) =
            ({ buffer with written := buffer.written ++ content } : Buffer).write rest := by
          rw [write, append_of_le hroom]
        simp only [hwrite, ih, room_append, append_append, Field.concat_bytes_eq_ok]
        constructor
        · rintro ⟨others, hothers, hlength, rfl⟩
          refine ⟨content ++ others, ⟨others, hothers, rfl⟩, ?_, rfl⟩
          rw [List.length_append]
          omega
        · rintro ⟨_, ⟨others, hothers, rfl⟩, hlength, rfl⟩
          rw [List.length_append] at hlength
          exact ⟨others, hothers, by omega, rfl⟩
      · have hwrite : buffer.write (.bytes content :: rest) =
            (.error (.bufferFull content.length buffer.room), buffer) := by
          rw [write, append, if_neg hroom]
        rw [hwrite]
        constructor
        · rintro ⟨⟩
        · rintro ⟨_, hcode, hlength, -⟩
          obtain ⟨others, -, rfl⟩ := Field.concat_bytes_eq_ok.mp hcode
          rw [List.length_append] at hlength
          omega

end Wire.Buffer

namespace Message
variable {message : Message} {code : Bytes} {buffer after : Buffer}

/-- The code is what the message writes into an empty buffer, whatever its capacity is if only the
message fits. -/
def Writes (message : Message) (code : Bytes) : Prop :=
  ∀ capacity, message.size ≤ capacity →
    (Buffer.empty capacity).write message.fields = (.ok (), ⟨capacity, code.toArray, 0⟩)

theorem write_eq_ok_iff :
    buffer.write message.fields = (.ok (), after) ↔
      (message.size ≤ buffer.room ∧ message.size < capacity 4 ∧ message.CountsFit) ∧
        after = { buffer with written := buffer.written ++ message.layout } := by
  have hspells (code : Bytes) := message.spells_iff_layout code
  unfold Field.spells at hspells
  simp only [Buffer.write_eq_ok_iff, hspells]
  constructor
  · rintro ⟨_, ⟨hfits, rfl⟩, hroom, rfl⟩
    rw [length_layout] at hroom
    exact ⟨⟨hroom, hfits⟩, rfl⟩
  · rintro ⟨⟨hroom, hfits⟩, rfl⟩
    rw [← length_layout] at hroom
    exact ⟨_, ⟨hfits, rfl⟩, hroom, rfl⟩

/-- What is written into an empty buffer spells the message. -/
theorem writes_iff_spells : message.Writes code ↔ Field.spells fields message code := by
  have hempty (capacity : Nat) (code : Bytes) :
      { Buffer.empty capacity with written := (Buffer.empty capacity).written ++ code } =
        (⟨capacity, code.toArray, 0⟩ : Buffer) := by
    simp [Buffer.empty]
  rw [spells_iff_layout]
  constructor
  · intro h
    obtain ⟨⟨-, hfits⟩, hwritten⟩ := write_eq_ok_iff.mp (h message.size (Nat.le_refl _))
    rw [hempty] at hwritten
    exact ⟨hfits, congrArg Buffer.toList hwritten⟩
  · rintro ⟨hfits, rfl⟩ capacity hcapacity
    rw [write_eq_ok_iff, hempty]
    exact ⟨⟨hcapacity, hfits⟩, rfl⟩

theorem read_eq_ok_iff :
    buffer.read reader = (.ok message, after) ↔
      ∃ code rest, Field.spells fields message code ∧ buffer.unread = code ++ rest ∧
        after = { buffer with position := buffer.position + message.size } := by
  unfold Buffer.read
  constructor
  · intro h
    rcases hread : reader ⟨buffer.position, buffer.unread⟩ with ⟨result, cursor⟩
    rw [hread] at h
    obtain ⟨rfl, rfl⟩ := Prod.mk.inj h
    obtain ⟨code, rest, hcode, hunread, rfl⟩ := (reads_reader _ _ _).mp hread
    exact ⟨code, rest, hcode, hunread, by rw [length_of_spells hcode]⟩
  · rintro ⟨code, rest, hcode, hunread, rfl⟩
    rw [hunread, reads_reader.apply hcode, length_of_spells hcode]

/-- A message is read just where the unread bytes start with those that it writes into an empty
buffer, and the cursor moves behind them. Writing succeeds just if there is room for the message,
its counts fit two bytes and its size fits four, and appends the bytes of its layout, as many as its
size says. No packet bounds the size. -/
theorem read_iff_writes (message : Message) :
    (∀ buffer after : Buffer, buffer.read reader = (.ok message, after) ↔
      ∃ code rest, message.Writes code ∧ code.length = message.size ∧
        buffer.unread = code ++ rest ∧
        after = { buffer with position := buffer.position + message.size }) ∧
    (∀ buffer after : Buffer, buffer.write message.fields = (.ok (), after) ↔
      (message.size ≤ buffer.room ∧ message.size < 0x100000000 ∧ message.CountsFit) ∧
        after = { buffer with written := buffer.written ++ message.layout }) ∧
    message.layout.length = message.size := by
  refine ⟨fun buffer after => ?_, fun buffer after => write_eq_ok_iff, message.length_layout⟩
  simp only [read_eq_ok_iff, writes_iff_spells]
  constructor
  · rintro ⟨code, rest, hcode, hunread, rfl⟩
    exact ⟨code, rest, hcode, length_of_spells hcode, hunread, rfl⟩
  · rintro ⟨code, rest, hcode, -, hunread, rfl⟩
    exact ⟨code, rest, hcode, hunread, rfl⟩

end Message
end RouteDiscovery

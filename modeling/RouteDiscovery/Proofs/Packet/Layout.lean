import RouteDiscovery.Proofs.Packet.Exact

/-!
The bytes of a packet as its format lays them out, and what the writer makes of a packet in any
buffer. The writer checks before it writes: the size that it works out beforehand is the length of
the layout, and no field is refused once the counts fit, so nothing is left behind half written.
-/
namespace RouteDiscovery
open Wire

/-- Where each item can be spelled in one way only, so can they all in turn. -/
theorem Wire.Grammar.inTurn_iff_flatMap {α : Type} {grammar : Grammar α} {allowed : α → Prop}
    {spelling : α → Bytes} (h : ∀ a code, grammar a code ↔ allowed a ∧ code = spelling a)
    (items : List α) (code : Bytes) :
    grammar.inTurn items code ↔ (∀ a ∈ items, allowed a) ∧ code = items.flatMap spelling := by
  induction items generalizing code with
  | nil => simp [Grammar.inTurn]
  | cons a rest ih =>
    rw [List.forall_mem_cons, List.flatMap_cons, Grammar.inTurn]
    constructor
    · intro hcode
      obtain ⟨first, others, hfirst, hothers, rfl⟩ := hcode
      obtain ⟨ha, rfl⟩ := (h a first).mp hfirst
      obtain ⟨hrest, rfl⟩ := (ih others).mp hothers
      exact ⟨⟨ha, hrest⟩, rfl⟩
    · intro hcode
      obtain ⟨⟨ha, hrest⟩, rfl⟩ := hcode
      exact ⟨_, _, (h a _).mpr ⟨ha, rfl⟩, (ih _).mpr ⟨hrest, rfl⟩, rfl⟩

theorem length_flatMap_eq_total {α : Type} {spelling : α → Bytes} {size : α → Nat}
    (h : ∀ a, (spelling a).length = size a) (items : List α) :
    (items.flatMap spelling).length = total (items.map size) := by
  induction items with
  | nil => rfl
  | cons a rest ih => rw [List.flatMap_cons, List.length_append, h, ih, List.map_cons, total_cons]

theorem lt_capacity_two_iff {n : Nat} : n < capacity 2 ↔ n ≤ 65535 :=
  Nat.lt_succ_iff

theorem inTurn_hops_iff (path : List UInt16) (code : Bytes) :
    Grammar.inTurn (fun (hop : UInt16) code => code = bigEndian 2 hop.toNat) path code ↔
      code = path.flatMap fun hop => bigEndian 2 hop.toNat := by
  have hhop (hop : UInt16) (code : Bytes) :
      code = bigEndian 2 hop.toNat ↔ True ∧ code = bigEndian 2 hop.toNat :=
    (and_iff_right trivial).symm
  rw [Grammar.inTurn_iff_flatMap hhop]
  exact and_iff_right fun _ _ => trivial

/-! ### The layout -/

namespace NodeEntry

def layout (entry : NodeEntry) : Bytes :=
  bigEndian 2 entry.id.toNat ++ (bigEndian 4 entry.address.bits.toNat ++
    (bigEndian 2 entry.path.length ++ entry.path.flatMap fun hop => bigEndian 2 hop.toNat))

theorem length_layout (entry : NodeEntry) : entry.layout.length = entry.size := by
  have hhops := length_hops ((inTurn_hops_iff entry.path _).mpr rfl)
  simp only [layout, List.length_append, length_bigEndian, hhops, size]
  omega

theorem spells_iff_layout (entry : NodeEntry) (code : Bytes) :
    Field.spells fields entry code ↔ entry.path.length ≤ 65535 ∧ code = entry.layout := by
  simp only [spells_iff, lt_capacity_two_iff, inTurn_hops_iff, layout]
  constructor
  · intro h
    obtain ⟨hlen, _, rfl, rfl⟩ := h
    exact ⟨hlen, rfl⟩
  · intro h
    obtain ⟨hlen, rfl⟩ := h
    exact ⟨hlen, _, rfl, rfl⟩

end NodeEntry

namespace Message

/-- Every count in the message fits two bytes. -/
def CountsFit : Message → Prop
  | discovery message =>
    message.nodes.length ≤ 65535 ∧ ∀ entry ∈ message.nodes, entry.path.length ≤ 65535
  | data message => message.payload.length ≤ 65535

def bodyLayout : Message → Bytes
  | discovery message =>
    bigEndian 2 message.sender.toNat ++
      (bigEndian 2 message.nodes.length ++ message.nodes.flatMap NodeEntry.layout)
  | data message =>
    bigEndian 2 message.sender.toNat ++
      (bigEndian 2 message.payload.length ++ message.payload)

/-- The size is measured: six bytes of header and the body. -/
def layout (message : Message) : Bytes :=
  bigEndian 4 (6 + message.bodyLayout.length) ++
    (bigEndian 2 message.tag.toNat ++ message.bodyLayout)

theorem length_bodyLayout (message : Message) : message.bodyLayout.length = message.bodySize := by
  cases message with
  | discovery message =>
    simp only [bodyLayout, List.length_append, length_bigEndian,
      length_flatMap_eq_total NodeEntry.length_layout, bodySize]
    omega
  | data message =>
    simp only [bodyLayout, List.length_append, length_bigEndian, bodySize]
    omega

theorem length_layout (message : Message) : message.layout.length = message.size := by
  simp only [layout, List.length_append, length_bigEndian, length_bodyLayout, size]
  omega

theorem spells_body_iff_layout (message : Message) (body : Bytes) :
    Field.spells bodyFields message body ↔ message.CountsFit ∧ body = message.bodyLayout := by
  cases message with
  | discovery message =>
    have hnodes := Grammar.inTurn_iff_flatMap NodeEntry.spells_iff_layout message.nodes
    refine Discovery.spells_iff.trans ?_
    simp only [lt_capacity_two_iff, hnodes, CountsFit, bodyLayout]
    constructor
    · intro h
      obtain ⟨hlen, _, ⟨hpaths, rfl⟩, rfl⟩ := h
      exact ⟨⟨hlen, hpaths⟩, rfl⟩
    · intro h
      obtain ⟨⟨hlen, hpaths⟩, rfl⟩ := h
      exact ⟨hlen, _, ⟨hpaths, rfl⟩, rfl⟩
  | data message =>
    refine DataMessage.spells_iff.trans ?_
    rw [lt_capacity_two_iff]
    rfl

theorem spells_iff_layout (message : Message) (code : Bytes) :
    Field.spells fields message code ↔
      (message.size < capacity 4 ∧ message.CountsFit) ∧ code = message.layout := by
  have hsize : message.size = 6 + message.bodyLayout.length := by
    rw [length_bodyLayout, size]
  simp only [spells_iff, spells_body_iff_layout, layout, ← hsize]
  constructor
  · intro h
    obtain ⟨hlen, _, ⟨hcounts, rfl⟩, rfl⟩ := h
    exact ⟨⟨hlen, hcounts⟩, rfl⟩
  · intro h
    obtain ⟨⟨hlen, hcounts⟩, rfl⟩ := h
    exact ⟨hlen, _, ⟨hcounts, rfl⟩, rfl⟩

end Message

namespace Packet
variable (packet : Packet)

/-- Everything but the checksum; the size is measured, with four bytes each for itself and the
checksum. -/
def bodyLayout : Bytes :=
  let rest := bigEndian 2 packet.messages.length ++ packet.messages.flatMap Message.layout
  bigEndian 4 (8 + rest.length) ++ rest

def layout : Bytes :=
  packet.bodyLayout ++ bigEndian 4 (checksum packet.bodyLayout).toNat

/-- A packet is allowed, and there is room for it. -/
structure Fits (room : Nat) : Prop where
  size_le_room : packet.size ≤ room
  size_le_max : packet.size ≤ maxSize
  count_le : packet.messages.length ≤ 65535
  counts_fit : ∀ message ∈ packet.messages, message.CountsFit

theorem length_bodyLayout : packet.bodyLayout.length + 4 = packet.size := by
  simp only [bodyLayout, List.length_append, length_bigEndian,
    length_flatMap_eq_total Message.length_layout, size]
  omega

theorem length_layout : packet.layout.length = packet.size := by
  rw [layout, List.length_append, length_bigEndian, length_bodyLayout]

theorem message_size_lt {packet : Packet} {message : Message} (h : packet.size < capacity 4)
    (hmessage : message ∈ packet.messages) : message.size < capacity 4 := by
  have hle := le_total_of_mem (List.mem_map_of_mem (f := Message.size) hmessage)
  refine Nat.lt_of_le_of_lt (Nat.le_trans hle ?_) h
  rw [size]
  exact Nat.le_add_left _ _

theorem spells_iff_layout (body : Bytes) :
    Field.spells fields packet body ↔
      (packet.size < capacity 4 ∧ packet.messages.length ≤ 65535 ∧
        ∀ message ∈ packet.messages, message.CountsFit) ∧ body = packet.bodyLayout := by
  have hmessages := Grammar.inTurn_iff_flatMap Message.spells_iff_layout packet.messages
  have hsize : packet.size =
      8 + (bigEndian 2 packet.messages.length ++
        packet.messages.flatMap Message.layout).length := by
    have hlen := packet.length_bodyLayout
    simp only [bodyLayout, List.length_append, length_bigEndian] at hlen ⊢
    omega
  simp only [spells_iff, lt_capacity_two_iff, hmessages, bodyLayout, ← hsize]
  constructor
  · intro h
    obtain ⟨hlen, hcount, _, ⟨hall, rfl⟩, rfl⟩ := h
    exact ⟨⟨hlen, hcount, fun message hmessage => (hall message hmessage).2⟩, rfl⟩
  · intro h
    obtain ⟨⟨hlen, hcount, hcounts⟩, rfl⟩ := h
    exact ⟨hlen, hcount, _, ⟨fun message hmessage =>
      ⟨message_size_lt hlen hmessage, hcounts message hmessage⟩, rfl⟩, rfl⟩

end Packet

/-! ### Refusals -/

namespace Wire.Field
variable {α : Type}

def refusals (fields : List Field) : List Fault :=
  fields.filterMap refusal?

theorem head?_refusals (fields : List Field) :
    (refusals fields).head? = fields.findSome? refusal? :=
  List.head?_filterMap

@[simp] theorem refusals_nil : refusals [] = [] := rfl

@[simp] theorem refusals_bytes (content : Bytes) (rest : List Field) :
    refusals (bytes content :: rest) = refusals rest := rfl

theorem refusals_cons (field : Field) (rest : List Field) :
    refusals (field :: rest) = field.refusal?.toList ++ refusals rest := by
  rw [refusals, List.filterMap_cons]
  cases field.refusal? <;> rfl

theorem refusals_flatMap (fields : α → List Field) (items : List α) :
    refusals (items.flatMap fields) = items.flatMap fun a => refusals (fields a) :=
  List.filterMap_flatMap

theorem number_of_lt {width n : Nat} {what : String} (h : n < capacity width) :
    number width what n = bytes (bigEndian width n) :=
  if_pos h

theorem concat_eq_error_iff {fields : List Field} {fault : Fault} :
    concat fields = .error fault ↔ fields.findSome? refusal? = some fault := by
  unfold concat
  cases fields.findSome? refusal? <;> simp

end Wire.Field

theorem NodeEntry.refusals_fields (entry : NodeEntry) :
    Field.refusals entry.fields =
      (Field.number 2 "jump count" entry.path.length).refusal?.toList := by
  have hpath : Field.refusals (entry.path.map Field.word16) = [] := by
    simp [Field.refusals, Field.word16, Field.refusal?]
  rw [NodeEntry.fields, Field.word16, Field.word32, Field.refusals_bytes, Field.refusals_bytes,
    Field.refusals_cons, hpath, List.append_nil]

/-- A message whose size fits is refused for its counts only. -/
theorem Message.refusals_fields {message : Message} (h : message.size < capacity 4) :
    Field.refusals message.fields = Field.refusals message.counts := by
  rw [Message.fields, Field.number_of_lt h, Field.word16, Field.refusals_bytes,
    Field.refusals_bytes]
  cases message with
  | discovery message =>
    rw [Message.bodyFields, Discovery.fields, Message.counts, Field.word16, Field.refusals_bytes,
      List.map_eq_flatMap]
    simp only [Field.refusals_cons, Field.refusals_flatMap, NodeEntry.refusals_fields,
      Field.refusals_nil, List.append_nil]
  | data message =>
    rw [Message.bodyFields, DataMessage.fields, Message.counts, Field.word16,
      Field.refusals_bytes, Field.refusals_cons, Field.refusals_bytes, Field.refusals_cons]

namespace Packet
variable {packet : Packet} {room : Nat}

/-- The fault that the fields are refused for first is the one that the counts are. -/
theorem findSome?_counts_eq (packet : Packet) :
    List.findSome? Field.refusal? (.number 4 "packet" packet.size ::
        .number 2 "message count" packet.messages.length ::
        packet.messages.flatMap Message.counts) =
      packet.fields.findSome? Field.refusal? := by
  by_cases hsize : packet.size < capacity 4
  · have hmessages : Field.refusals (packet.messages.flatMap Message.counts) =
        Field.refusals (packet.messages.flatMap Message.fields) := by
      rw [Field.refusals_flatMap, Field.refusals_flatMap, List.flatMap_def, List.flatMap_def]
      refine congrArg List.flatten (List.map_congr_left fun message hmessage => ?_)
      exact (Message.refusals_fields (message_size_lt hsize hmessage)).symm
    rw [fields, ← Field.head?_refusals, ← Field.head?_refusals]
    simp only [Field.refusals_cons, hmessages]
  · rw [fields, Field.number, if_neg hsize]
    rfl

theorem encodeWithin_eq_error_iff {fault : Fault} :
    packet.encodeWithin room = .error fault ↔ packet.refusal? room = some fault := by
  unfold encodeWithin refusal?
  by_cases hroom : room < packet.size
  · simp [hroom, throw, throwThe, MonadExceptOf.throw, bind, Except.bind]
  · simp only [if_neg hroom, findSome?_counts_eq]
    cases hconcat : Field.concat packet.fields with
    | error fault' =>
      rw [Field.concat_eq_error_iff.mp hconcat]
      simp [bind, Except.bind]
    | ok body =>
      have hnone : packet.fields.findSome? Field.refusal? = none := by
        cases hfind : packet.fields.findSome? Field.refusal? with
        | none => rfl
        | some fault' =>
          rw [Field.concat_eq_error_iff.mpr hfind] at hconcat
          cases hconcat
      rw [hnone]
      by_cases hmax : maxSize < packet.size <;>
        simp [hmax, throw, throwThe, MonadExceptOf.throw, bind, Except.bind, pure, Except.pure]

theorem encodeWithin_eq_ok_iff {code : Bytes} :
    packet.encodeWithin room = .ok code ↔ packet.Fits room ∧ code = packet.layout := by
  have hroom : packet.encodeWithin room = .ok code ↔
      packet.size ≤ room ∧ packet.encode = .ok code := by
    unfold encode encodeWithin
    rw [if_neg (Nat.lt_irrefl packet.size)]
    by_cases h : room < packet.size
    · simp [h, Nat.not_le.mpr h, throw, throwThe, MonadExceptOf.throw, bind, Except.bind]
    · rw [if_neg h, and_iff_right (Nat.not_lt.mp h)]
  rw [hroom, encode_eq_ok_iff]
  simp only [spells_iff_layout]
  constructor
  · intro h
    obtain ⟨hle, hmax, _, ⟨⟨_, hcount, hcounts⟩, rfl⟩, rfl⟩ := h
    exact ⟨⟨hle, hmax, hcount, hcounts⟩, rfl⟩
  · intro h
    obtain ⟨⟨hle, hmax, hcount, hcounts⟩, rfl⟩ := h
    exact ⟨hle, hmax, _, ⟨⟨Nat.lt_of_le_of_lt hmax (by decide), hcount, hcounts⟩, rfl⟩, rfl⟩

theorem refusal?_eq_none_iff : packet.refusal? room = none ↔ packet.Fits room := by
  constructor
  · intro h
    cases hencode : packet.encodeWithin room with
    | error fault =>
      rw [encodeWithin_eq_error_iff.mp hencode] at h
      cases h
    | ok code => exact (encodeWithin_eq_ok_iff.mp hencode).1
  · intro h
    have hencode := encodeWithin_eq_ok_iff.mpr ⟨h, rfl⟩
    cases hrefusal : packet.refusal? room with
    | none => rfl
    | some fault =>
      rw [encodeWithin_eq_error_iff.mpr hrefusal] at hencode
      cases hencode

end Packet

/-! ### The writer -/

namespace Wire.Buffer

theorem append_of_le {content : Bytes} {buffer : Buffer} (h : content.length ≤ buffer.room) :
    buffer.append content = (.ok (), { buffer with written := buffer.written ++ content }) :=
  if_pos h

theorem room_append (buffer : Buffer) (content : Bytes) :
    ({ buffer with written := buffer.written ++ content } : Buffer).room =
      buffer.room - content.length := by
  have hsize : (buffer.written ++ content).size = buffer.written.size + content.length := by
    rw [← Array.length_toList, Array.toList_appendList, List.length_append, Array.length_toList]
  simp only [room, size, hsize]
  omega

theorem append_append (written : Array UInt8) (first second : Bytes) :
    written ++ first ++ second = written ++ (first ++ second) := by
  simp only [← Array.toList_inj, Array.toList_appendList, List.append_assoc]

/-- Fields of which none is refused are all written where they fit together. -/
theorem write_of_concat {fields : List Field} {code : Bytes} (buffer : Buffer)
    (hcode : Field.concat fields = .ok code) (hroom : code.length ≤ buffer.room) :
    buffer.write fields = (.ok (), { buffer with written := buffer.written ++ code }) := by
  induction fields generalizing buffer code with
  | nil =>
    obtain rfl : [] = code := Except.ok.inj hcode
    simp [write]
  | cons field rest ih =>
    cases field with
    | refused fault => cases hcode
    | bytes content =>
      obtain ⟨others, hothers, rfl⟩ := Field.concat_bytes_eq_ok.mp hcode
      rw [List.length_append] at hroom
      rw [write, append_of_le (by omega)]
      refine (ih _ hothers ?_).trans ?_
      · rw [room_append]
        omega
      · rw [append_append]

/-- What is written behind a buffer is all that the buffer with it holds from there on. -/
theorem writtenSince_append (buffer : Buffer) (content : Bytes) :
    ({ buffer with written := buffer.written ++ content } : Buffer).writtenSince buffer.size =
      content := by
  simp [writtenSince, toList, size]

end Wire.Buffer

section Writing
variable {packet : Packet} {buffer : Buffer}

theorem Wire.Buffer.writePacket_of_refusal {fault : Fault}
    (h : packet.refusal? buffer.room = some fault) :
    buffer.writePacket packet = (.error fault, buffer) := by
  rw [writePacket, h]

theorem Wire.Buffer.writePacket_of_fits (h : packet.Fits buffer.room) :
    buffer.writePacket packet =
      (.ok packet.size, { buffer with written := buffer.written ++ packet.layout }) := by
  have hbody : Field.concat packet.fields = .ok packet.bodyLayout :=
    (Packet.spells_iff_layout packet _).mpr
      ⟨⟨Nat.lt_of_le_of_lt h.size_le_max (by decide), h.count_le, h.counts_fit⟩, rfl⟩
  have hsize := packet.length_bodyLayout
  have hroom := h.size_le_room
  rw [writePacket, Packet.refusal?_eq_none_iff.mpr h]
  simp only [write_of_concat buffer hbody (by omega), writtenSince_append]
  have hsum : Field.concat [.word32 (checksum packet.bodyLayout)] =
      .ok (bigEndian 4 (checksum packet.bodyLayout).toNat) := by
    simp [Field.concat, Field.word32, Field.refusal?, Field.content]
  rw [write_of_concat _ hsum (by rw [room_append, length_bigEndian]; omega)]
  simp only [append_append, Packet.layout]
  rfl

/-- A packet written into the buffer is written whole, as its layout says, behind all that the
buffer holds; a packet that is refused leaves the buffer as it was. -/
theorem Wire.Buffer.writePacket_exact (packet : Packet) (buffer : Buffer) :
    (∀ n after, buffer.writePacket packet = (.ok n, after) ↔
      packet.Fits buffer.room ∧ n = packet.size ∧
        after = { buffer with written := buffer.written ++ packet.layout }) ∧
    (∀ after, (∃ fault, buffer.writePacket packet = (.error fault, after)) ↔
      ¬ packet.Fits buffer.room ∧ after = buffer) ∧
    packet.layout.length = packet.size := by
  cases hrefusal : packet.refusal? buffer.room with
  | none =>
    have hfits := Packet.refusal?_eq_none_iff.mp hrefusal
    rw [writePacket_of_fits hfits]
    refine ⟨fun n after => ?_, fun after => ?_, packet.length_layout⟩
    · simp [hfits, eq_comm]
    · simp [hfits]
  | some fault =>
    have hfits : ¬ packet.Fits buffer.room := by
      intro h
      rw [Packet.refusal?_eq_none_iff.mpr h] at hrefusal
      cases hrefusal
    rw [writePacket_of_refusal hrefusal]
    refine ⟨fun n after => ?_, fun after => ?_, packet.length_layout⟩
    · simp [hfits]
    · simp [hfits, eq_comm]

/-- An announcement of one node and five bytes of data, behind a byte that has been read. -/
example : ((⟨48, #[7], 1⟩ : Buffer).writePacket
      ⟨[.discovery ⟨1024, [⟨1025, ⟨0xC0C80101⟩, [512, 256]⟩]⟩, .data ⟨1, [1, 2, 3, 4, 5]⟩]⟩).2 =
    ⟨48, #[7, 0, 0, 0, 0x2F, 0, 2, 0, 0, 0, 0x16, 0, 1, 4, 0, 0, 1, 4, 1, 0xC0, 0xC8, 1, 1, 0, 2,
      2, 0, 1, 0, 0, 0, 0, 0x0F, 0, 2, 0, 1, 0, 5, 1, 2, 3, 4, 5, 0xF0, 0x75, 0xB0, 0x16], 1⟩ := by
  decide +kernel

/-- The code of a packet is what the writer makes of a fresh buffer of its size. -/
theorem Packet.encode_eq_writePacket (packet : Packet) :
    packet.encode = match (Buffer.empty packet.size).writePacket packet with
      | (.ok _, whole) => .ok whole.toList
      | (.error fault, _) => .error fault := by
  have hroom : (Buffer.empty packet.size).room = packet.size := Nat.sub_zero _
  cases hrefusal : packet.refusal? packet.size with
  | none =>
    have hfits := Packet.refusal?_eq_none_iff.mp hrefusal
    rw [Buffer.writePacket_of_fits (hroom.symm ▸ hfits), Packet.encode,
      Packet.encodeWithin_eq_ok_iff.mpr ⟨hfits, rfl⟩]
    simp [Buffer.toList, Buffer.empty]
  | some fault =>
    rw [Buffer.writePacket_of_refusal (hroom.symm ▸ hrefusal), Packet.encode,
      Packet.encodeWithin_eq_error_iff.mpr hrefusal]

end Writing
end RouteDiscovery

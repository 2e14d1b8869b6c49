import RouteDiscovery.Packet.Codec
import RouteDiscovery.Proofs.Message.Exact

/-! Packets are read exactly where they were written. The message readers look past the end that a
packet declares; it is the declared size together with the checksum that ties what they took to
the bytes that were checked. -/
namespace RouteDiscovery
open Wire Reader
namespace Packet

theorem spells_iff {packet : Packet} {body : Bytes} :
    Field.spells fields packet body ↔ packet.size < capacity 4 ∧
      packet.messages.length < capacity 2 ∧
      ∃ messages, (Field.spells Message.fields).inTurn packet.messages messages ∧
        body = bigEndian 4 packet.size ++ (bigEndian 2 packet.messages.length ++ messages) := by
  simp only [Field.spells, fields, Field.concat_number_eq_ok, Field.concat_flatMap_eq_ok]
  constructor
  · intro h
    obtain ⟨hsize, _, ⟨hcount, messages, hmessages, rfl⟩, rfl⟩ := h
    exact ⟨hsize, hcount, messages, hmessages, rfl⟩
  · intro h
    obtain ⟨hsize, hcount, messages, hmessages, rfl⟩ := h
    exact ⟨hsize, _, ⟨hcount, messages, hmessages, rfl⟩, rfl⟩

theorem length_of_spells {packet : Packet} {body : Bytes} (h : Field.spells fields packet body) :
    body.length + 4 = packet.size := by
  obtain ⟨_, _, messages, hmessages, rfl⟩ := spells_iff.mp h
  have hlen := Grammar.inTurn_length Message.size (fun _ _ => Message.length_of_spells) hmessages
  simp only [List.length_append, length_bigEndian, hlen, size]
  omega

@[simp] theorem length_withChecksum (body : Bytes) :
    (withChecksum body).length = body.length + 4 := by
  simp [withChecksum]

theorem encode_eq_ok_iff {packet : Packet} {code : Bytes} :
    packet.encode = .ok code ↔ packet.size ≤ maxSize ∧
      ∃ body, Field.spells fields packet body ∧ code = withChecksum body := by
  unfold encode encodeWithin
  rw [if_neg (Nat.lt_irrefl _)]
  unfold Field.spells
  cases Field.concat packet.fields with
  | error fault => simp [bind, Except.bind]
  | ok body =>
    by_cases hsize : maxSize < packet.size
    · simp [bind, Except.bind, hsize, Nat.not_le.mpr hsize, throw, throwThe, MonadExceptOf.throw]
    · simp [bind, Except.bind, hsize, Nat.not_lt.mp hsize, pure, Except.pure, eq_comm]

theorem length_of_encode {packet : Packet} {code : Bytes} (h : packet.encode = .ok code) :
    code.length = packet.size := by
  obtain ⟨_, body, hbody, rfl⟩ := encode_eq_ok_iff.mp h
  rw [length_withChecksum, length_of_spells hbody]

/-- A packet can be written just if it is not too large: its counts fit when its size does. -/
theorem exists_encode {packet : Packet} (h : packet.size ≤ maxSize) :
    ∃ code, packet.encode = .ok code := by
  have hcount : 10 * (packet.messages.map Message.size).length ≤
      total (packet.messages.map Message.size) := by
    apply mul_length_le_total
    intro count hcount
    obtain ⟨message, -, rfl⟩ := List.mem_map.mp hcount
    cases message <;> simp only [Message.size, Message.bodySize] <;> omega
  have htotal : total (packet.messages.map Message.size) ≤ 65536 := by
    unfold size at h
    exact Nat.le_trans (Nat.le_add_left _ 10) h
  have hmessages : ∀ message ∈ packet.messages,
      ∃ code, Field.spells Message.fields message code := by
    intro message hmessage
    have hle := le_total_of_mem (List.mem_map_of_mem (f := Message.size) hmessage)
    exact Message.exists_spells (Nat.le_trans hle htotal)
  obtain ⟨messages, hmessages⟩ := Grammar.exists_inTurn hmessages
  refine ⟨_, encode_eq_ok_iff.mpr ⟨h, _, spells_iff.mpr ⟨?_, ?_, messages, hmessages, rfl⟩, rfl⟩⟩
  · exact Nat.lt_of_le_of_lt h (by decide)
  · rw [List.length_map] at hcount
    show packet.messages.length < 65536
    omega

theorem ten_le_size (packet : Packet) : 10 ≤ packet.size :=
  Nat.le_add_right 10 _

/-- What the check asks for once the declared size is known. -/
def sealedReader (size : Nat) : Reader Unit :=
  if size < 10 then Reader.fail (.sizeMismatch size 10)
  else if maxSize < size then Reader.fail (.tooLarge "packet" size)
  else Reader.require size >>= fun _ => Reader.bytes (size - 4) >>= fun body =>
    Reader.word32 >>= fun carried =>
      if carried = checksum body then pure ()
      else Reader.fail (.checksumMismatch carried (checksum body))

theorem reads_sealed (size : Nat) :
    Reads (fun _ code => 10 ≤ size ∧ size ≤ maxSize ∧
      ∃ body, body.length + 4 = size ∧ code = withChecksum body) (sealedReader size) := by
  have hword (body : Bytes) : Reads
      (fun (_ : Unit) code => code = bigEndian 4 (checksum body).toNat)
      (Reader.word32 >>= fun carried =>
        if carried = checksum body then pure ()
        else Reader.fail (.checksumMismatch carried (checksum body))) := by
    refine (reads_word32.bind fun carried => (reads_pure ()).ite (p := carried = checksum body)
      (reads_fail _)).congr fun _ code => ?_
    constructor
    · intro hcode
      obtain ⟨carried, first, second, rfl, hsecond, rfl⟩ := hcode
      split at hsecond
      · next hcarried => rw [hcarried, hsecond.2, List.append_nil]
      · exact hsecond.elim
    · intro hsame
      subst hsame
      exact ⟨checksum body, _, [], rfl, by rw [if_pos rfl]; exact ⟨rfl, rfl⟩,
        (List.append_nil _).symm⟩
  have hbody : Reads (fun (_ : Unit) code => ∃ body, body.length = size - 4 ∧
      code = withChecksum body)
      (Reader.bytes (size - 4) >>= fun body => Reader.word32 >>= fun carried =>
        if carried = checksum body then pure ()
        else Reader.fail (.checksumMismatch carried (checksum body))) := by
    apply ((reads_bytes (size - 4)).bind hword).congr
    intro _ code
    constructor
    · intro hcode
      obtain ⟨body, _, _, ⟨rfl, hlen⟩, rfl, rfl⟩ := hcode
      exact ⟨body, hlen, rfl⟩
    · intro hcode
      obtain ⟨body, hlen, rfl⟩ := hcode
      exact ⟨body, _, _, ⟨rfl, hlen⟩, rfl, rfl⟩
  unfold sealedReader
  by_cases hsmall : size < 10
  · rw [if_pos hsmall]
    exact (reads_fail _).congr fun _ _ => ⟨False.elim, fun h => by omega⟩
  by_cases hlarge : maxSize < size
  · rw [if_neg hsmall, if_pos hlarge]
    exact (reads_fail _).congr fun _ _ => ⟨False.elim, fun h => by omega⟩
  rw [if_neg hsmall, if_neg hlarge]
  refine (hbody.require fun _ code => ?_).congr fun _ code => ?_
  · intro hcode
    obtain ⟨body, hlen, rfl⟩ := hcode
    rw [length_withChecksum]
    omega
  · constructor
    · intro hcode
      obtain ⟨body, hlen, rfl⟩ := hcode
      exact ⟨by omega, by omega, body, by omega, rfl⟩
    · intro hcode
      obtain ⟨_, _, body, hlen, rfl⟩ := hcode
      exact ⟨body, by omega, rfl⟩

theorem check_eq (cursor : Cursor) :
    check cursor = (((Reader.peek (Reader.number 4) >>= sealedReader) cursor).1, cursor) := rfl

theorem check_eq_ok_iff {cursor after : Cursor} :
    check cursor = (.ok (), after) ↔ after = cursor ∧ ∃ body rest tail,
      cursor.unread = withChecksum body ++ rest ∧
      cursor.unread = bigEndian 4 (body.length + 4) ++ tail ∧
      10 ≤ body.length + 4 ∧ body.length + 4 ≤ maxSize := by
  rw [check_eq, Prod.mk.injEq, eq_comm (a := cursor), bind_apply, Reader.peek, and_comm]
  apply and_congr_right
  intro _
  constructor
  · intro h
    split at h
    · next size same hpeek =>
      obtain ⟨hnumber, rfl⟩ := Prod.mk.inj hpeek
      obtain ⟨_, ⟨_, rfl⟩, hhead, _⟩ := (reads_number 4).split (Prod.ext hnumber rfl)
      obtain ⟨_, ⟨hten, hmax, body, rfl, rfl⟩, hu, _⟩ :=
        (reads_sealed size).split (Prod.ext h rfl)
      exact ⟨body, _, _, hu, hhead, hten, hmax⟩
    · cases h
  · intro hcode
    obtain ⟨body, rest, tail, hu, hhead, hten, hmax⟩ := hcode
    have hcap : body.length + 4 < capacity 4 := Nat.lt_of_le_of_lt hmax (by decide)
    have hnumber : Reader.number 4 cursor =
        (.ok (body.length + 4), ⟨cursor.position + (bigEndian 4 (body.length + 4)).length, tail⟩) :=
      (reads_number 4 _ _ _).mpr ⟨_, tail, ⟨hcap, rfl⟩, hhead, rfl⟩
    have hsealed : sealedReader (body.length + 4) cursor =
        (.ok (), ⟨cursor.position + (withChecksum body).length, rest⟩) :=
      (reads_sealed _ _ _ _).mpr ⟨_, rest, ⟨hten, hmax, body, rfl, rfl⟩, hu, rfl⟩
    rw [hnumber]
    simp only
    rw [hsealed]

/-- The reader behind the check. -/
def bodyReader : Reader Packet :=
  position >>= fun start =>
    (Reader.number 4 >>= fun size => Reader.number 2 >>= fun count =>
      Message.reader.many count >>= fun messages => pure (size, messages)) >>= fun read =>
    position >>= fun stop =>
      (fun (read : Nat × List Message) n =>
        if n + 4 = read.1 then Reader.word32 >>= fun _ => pure ⟨read.2⟩
        else Reader.fail (.sizeMismatch read.1 (n + 4))) read (stop - start)

theorem reads_body :
    Reads (fun packet code => ∃ body, Field.spells fields packet body ∧
      ∃ word : UInt32, code = body ++ bigEndian 4 word.toNat) bodyReader := by
  have hread : Reads (fun (read : Nat × List Message) code => read.1 < capacity 4 ∧
      read.2.length < capacity 2 ∧
      ∃ messages, (Field.spells Message.fields).inTurn read.2 messages ∧
        code = bigEndian 4 read.1 ++ (bigEndian 2 read.2.length ++ messages))
      (Reader.number 4 >>= fun size => Reader.number 2 >>= fun count =>
        Message.reader.many count >>= fun messages => pure (size, messages)) := by
    refine ((reads_number 4).bind fun size => (reads_number 2).bind fun count =>
      (Message.reads_reader.many count).bind fun messages =>
        reads_pure (size, messages)).congr fun read code => ?_
    constructor
    · intro hcode
      obtain ⟨_, _, _, ⟨hsize, rfl⟩, ⟨_, _, _, ⟨hcount, rfl⟩, ⟨_, messages, _, ⟨rfl, hmessages⟩,
        ⟨rfl, rfl⟩, rfl⟩, rfl⟩, rfl⟩ := hcode
      exact ⟨hsize, hcount, messages, hmessages, by rw [List.append_nil]⟩
    · intro hcode
      obtain ⟨hsize, hcount, messages, hmessages, rfl⟩ := hcode
      exact ⟨_, _, _, ⟨hsize, rfl⟩, ⟨_, _, _, ⟨hcount, rfl⟩, ⟨_, messages, [], ⟨rfl, hmessages⟩,
        ⟨rfl, rfl⟩, (List.append_nil _).symm⟩, rfl⟩, rfl⟩
  have hlength (messages : List Message) (code : Bytes)
      (h : (Field.spells Message.fields).inTurn messages code) :
      code.length = total (messages.map Message.size) :=
    Grammar.inTurn_length Message.size (fun _ _ => Message.length_of_spells) h
  unfold bodyReader
  refine (hread.measured fun read n => Reads.ite (p := n + 4 = read.1)
    (reads_word32.bind fun _ => reads_pure (⟨read.2⟩ : Packet))
    (reads_fail (.sizeMismatch read.1 (n + 4)))).congr fun packet code => ?_
  constructor
  · intro hcode
    obtain ⟨read, body, _, ⟨hsize, hcount, messages, hmessages, rfl⟩, hsecond, rfl⟩ := hcode
    split at hsecond
    · next hn =>
      obtain ⟨word, _, _, rfl, ⟨rfl, rfl⟩, rfl⟩ := hsecond
      simp only [List.length_append, length_bigEndian, hlength _ _ hmessages] at hn
      have hdeclared : read.1 = (⟨read.2⟩ : Packet).size := by
        show read.1 = 10 + total (read.2.map Message.size)
        omega
      refine ⟨_, spells_iff.mpr ⟨hdeclared ▸ hsize, hcount, messages, hmessages, rfl⟩, word, ?_⟩
      rw [hdeclared, List.append_nil]
    · exact hsecond.elim
  · intro hcode
    obtain ⟨body, hbody, word, rfl⟩ := hcode
    have hlen := length_of_spells hbody
    obtain ⟨hsize, hcount, messages, hmessages, rfl⟩ := spells_iff.mp hbody
    refine ⟨(packet.size, packet.messages), _, _, ⟨hsize, hcount, messages, hmessages, rfl⟩, ?_,
      rfl⟩
    rw [if_pos hlen]
    exact ⟨word, _, [], rfl, ⟨rfl, rfl⟩, (List.append_nil _).symm⟩

theorem reader_eq : reader = Reader.atomically (check >>= fun _ => bodyReader) := by
  unfold reader bodyReader
  simp only [bind_assoc, pure_bind]

theorem reads_reader : Reads (fun packet code => packet.encode = .ok code) reader := by
  intro cursor packet after
  have hatomic : reader cursor = (.ok packet, after) ↔
      check cursor = (.ok (), cursor) ∧ bodyReader cursor = (.ok packet, after) := by
    rw [reader_eq, Reader.atomically, bind_apply, check_eq]
    rcases ((Reader.peek (Reader.number 4) >>= sealedReader) cursor).1 with fault | ⟨⟩
    · simp
    · rcases hbody : bodyReader cursor with ⟨fault | read, middle⟩ <;> simp [hbody]
  rw [hatomic, check_eq_ok_iff]
  constructor
  · intro h
    obtain ⟨⟨_, body, rest, tail, hu, hhead, _, hmax⟩, hbody⟩ := h
    obtain ⟨_, rest', ⟨body', hspells, word, rfl⟩, hu', rfl⟩ := (reads_body _ _ _).mp hbody
    obtain ⟨hcap, _, messages, _, hlayout⟩ := spells_iff.mp hspells
    -- Both views of the input start with the declared size, so they end at the same byte.
    have hsize : body.length + 4 = packet.size := by
      have hsame : bigEndian 4 (body.length + 4) = bigEndian 4 packet.size := by
        have hviews := hhead.symm.trans hu'
        rw [hlayout, List.append_assoc, List.append_assoc, List.append_assoc] at hviews
        exact (List.append_inj hviews (by simp)).1
      have hvalue := congrArg ofBigEndian hsame
      rwa [ofBigEndian_bigEndian, ofBigEndian_bigEndian, Nat.mod_eq_of_lt hcap,
        Nat.mod_eq_of_lt (Nat.lt_of_le_of_lt hmax (by decide))] at hvalue
    have hlen := length_of_spells hspells
    have hviews := hu.symm.trans hu'
    rw [withChecksum, List.append_assoc, List.append_assoc] at hviews
    obtain ⟨rfl, hseals⟩ := List.append_inj hviews (by omega)
    obtain ⟨hseal, rfl⟩ := List.append_inj hseals (by simp)
    refine ⟨withChecksum body, rest, encode_eq_ok_iff.mpr ⟨hsize ▸ hmax, body, hspells, rfl⟩, hu,
      ?_⟩
    rw [withChecksum, hseal]
  · intro h
    obtain ⟨code, rest, hencode, hu, rfl⟩ := h
    obtain ⟨hmax, body, hspells, rfl⟩ := encode_eq_ok_iff.mp hencode
    have hlen := length_of_spells hspells
    obtain ⟨_, _, messages, _, hlayout⟩ := spells_iff.mp hspells
    refine ⟨⟨rfl, body, rest, (bigEndian 2 packet.messages.length ++ messages) ++
      (bigEndian 4 (checksum body).toNat ++ rest), hu, ?_, hlen ▸ packet.ten_le_size,
      hlen ▸ hmax⟩, ?_⟩
    · rw [hu, hlen, withChecksum, List.append_assoc, ← List.append_assoc (bigEndian 4 packet.size),
        ← hlayout]
    · exact (reads_body _ _ _).mpr ⟨_, rest, ⟨body, hspells, checksum body, rfl⟩, hu, rfl⟩

theorem reader_error {cursor after : Cursor} {fault : Fault}
    (h : reader cursor = (.error fault, after)) : after = cursor := by
  unfold reader Reader.atomically at h
  split at h <;> cases h
  rfl

theorem decode_eq_ok_iff {bytes : Bytes} {packet : Packet} :
    decode bytes = .ok packet ↔ packet.encode = .ok bytes := by
  unfold decode
  constructor
  · intro h
    split at h
    · next read after hread =>
      obtain ⟨code, rest, hencode, hu, rfl⟩ := (reads_reader _ _ _).mp hread
      split at h
      · next hempty =>
        cases h
        obtain rfl := List.isEmpty_iff.mp hempty
        rw [List.append_nil] at hu
        rw [show bytes = code from hu]
        exact hencode
      · cases h
    · cases h
  · intro h
    have hread := reads_reader.apply h [] 0
    rw [List.append_nil] at hread
    rw [hread]
    rfl

theorem eq_of_encode {first second : Packet} {code : Bytes} (h : first.encode = .ok code)
    (h' : second.encode = .ok code) : first = second := by
  have hdecode := decode_eq_ok_iff.mpr h
  rw [decode_eq_ok_iff.mpr h'] at hdecode
  exact (Except.ok.inj hdecode).symm

/-- Reading a packet undoes writing it and nothing else: a read from any buffer succeeds just where
the unread bytes start with the code of the packet, a whole byte string is decoded just if it is
that code, and a failed read changes nothing. -/
theorem read_iff_encode (buffer : Buffer) (packet : Packet) (bytes : Bytes) :
    (∀ position, buffer.read reader = (.ok packet, { buffer with position }) ↔
      ∃ code rest, packet.encode = .ok code ∧ buffer.unread = code ++ rest ∧
        position = buffer.position + code.length) ∧
    (decode bytes = .ok packet ↔ packet.encode = .ok bytes) ∧
    (∀ fault after, buffer.read reader = (.error fault, after) → after = buffer) := by
  refine ⟨fun position => ?_, decode_eq_ok_iff, fun fault after h => ?_⟩
  · unfold Buffer.read
    constructor
    · rcases hread : reader ⟨buffer.position, buffer.unread⟩ with ⟨result, after⟩
      intro h
      obtain ⟨rfl, hbuffer⟩ := Prod.mk.inj h
      obtain ⟨code, rest, hencode, hu, rfl⟩ := (reads_reader _ _ _).mp hread
      exact ⟨code, rest, hencode, hu, (Buffer.mk.inj hbuffer).2.2.symm⟩
    · intro hcode
      obtain ⟨code, rest, hencode, hu, rfl⟩ := hcode
      rw [hu, reads_reader.apply hencode]
  · unfold Buffer.read at h
    rcases hread : reader ⟨buffer.position, buffer.unread⟩ with ⟨result, middle⟩
    rw [hread] at h
    obtain ⟨rfl, rfl⟩ := Prod.mk.inj h
    rw [reader_error hread]

/-- A packet cannot be smaller than its own frame, and the cursor stays before the bad size. -/
theorem read_iff_encode_small :
    (⟨8, #[7, 7, 0, 0, 0, 9, 1, 2], 2⟩ : Buffer).read reader =
        (.error (.sizeMismatch 9 10), ⟨8, #[7, 7, 0, 0, 0, 9, 1, 2], 2⟩) ∧
      (⟨8, #[7, 7, 0, 0, 0, 9, 1, 2], 2⟩ : Buffer) = ⟨8, #[7, 7, 0, 0, 0, 9, 1, 2], 2⟩ :=
  ⟨rfl, (read_iff_encode _ ⟨[]⟩ []).2.2 (.sizeMismatch 9 10) _ rfl⟩

end Packet
end RouteDiscovery

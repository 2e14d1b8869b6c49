import RouteDiscovery.Message.Codec
import RouteDiscovery.Proofs.Wire.Exact

/-! Messages are read exactly where they were written: each reader accepts the codes that the
fields of its values spell, and a code has the length that the value declares. -/
namespace RouteDiscovery
open Wire Reader

theorem spells_hop {hop : UInt16} {code : Bytes} :
    Field.spells (fun hop => [Field.word16 hop]) hop code ↔ code = bigEndian 2 hop.toNat := by
  simp [Field.spells, Field.word16, Field.concat_nil]

theorem concat_hops_eq_ok {path : List UInt16} {code : Bytes} :
    Field.concat (path.map .word16) = .ok code ↔
      Grammar.inTurn (fun hop code => code = bigEndian 2 hop.toNat) path code := by
  have hgrammar : Field.spells (fun hop => [Field.word16 hop]) =
      fun hop code => code = bigEndian 2 hop.toNat := by
    funext hop code
    exact propext spells_hop
  rw [← hgrammar, ← Field.concat_flatMap_eq_ok, List.map_eq_flatMap]

theorem length_hops {path : List UInt16} {code : Bytes}
    (h : Grammar.inTurn (fun hop code => code = bigEndian 2 hop.toNat) path code) :
    code.length = 2 * path.length := by
  have hlen := Grammar.inTurn_length (fun _ => 2) (fun hop code hc => by simp [hc]) h
  rw [hlen]
  clear h hlen
  induction path with
  | nil => rfl
  | cons hop path ih => rw [List.map_cons, total_cons, ih, List.length_cons]; omega

namespace NodeEntry

theorem spells_iff {entry : NodeEntry} {code : Bytes} :
    Field.spells fields entry code ↔ entry.path.length < capacity 2 ∧
      ∃ hops, Grammar.inTurn (fun hop code => code = bigEndian 2 hop.toNat) entry.path hops ∧
        code = bigEndian 2 entry.id.toNat ++ (bigEndian 4 entry.address.bits.toNat ++
          (bigEndian 2 entry.path.length ++ hops)) := by
  simp only [Field.spells, fields, Field.word16, Field.word32, Field.concat_bytes_eq_ok,
    Field.concat_number_eq_ok, concat_hops_eq_ok]
  constructor
  · intro h
    obtain ⟨_, ⟨_, ⟨hlen, hops, hhops, rfl⟩, rfl⟩, rfl⟩ := h
    exact ⟨hlen, hops, hhops, rfl⟩
  · intro h
    obtain ⟨hlen, hops, hhops, rfl⟩ := h
    exact ⟨_, ⟨_, ⟨hlen, hops, hhops, rfl⟩, rfl⟩, rfl⟩

theorem length_of_spells {entry : NodeEntry} {code : Bytes}
    (h : Field.spells fields entry code) : code.length = entry.size := by
  obtain ⟨_, hops, hhops, rfl⟩ := spells_iff.mp h
  simp only [List.length_append, length_bigEndian, length_hops hhops, size]
  omega

theorem reads_reader : Reads (Field.spells fields) reader := by
  have hpath (id : UInt16) (bits : UInt32) (count : Nat) :
      Reads (fun entry code => entry.id = id ∧ entry.address = ⟨bits⟩ ∧
          entry.path.length = count ∧
          Grammar.inTurn (fun hop code => code = bigEndian 2 hop.toNat) entry.path code)
        (Reader.require (2 * count) >>= fun _ => word16.many count >>= fun path =>
          pure (⟨id, ⟨bits⟩, path⟩ : NodeEntry)) := by
    apply Reads.require
    · refine ((reads_word16.many count).bind fun path => reads_pure _).congr fun entry code => ?_
      constructor
      · intro h
        obtain ⟨path, first, _, ⟨hlen, hhops⟩, ⟨rfl, rfl⟩, rfl⟩ := h
        exact ⟨rfl, rfl, hlen, by rwa [List.append_nil]⟩
      · intro h
        obtain ⟨rfl, haddress, hlen, hhops⟩ := h
        exact ⟨entry.path, code, [], ⟨hlen, hhops⟩, ⟨by rw [← haddress], rfl⟩,
          (List.append_nil code).symm⟩
    · rintro entry code ⟨_, _, rfl, hhops⟩
      exact Nat.le_of_eq (length_hops hhops).symm
  refine (reads_word16.bind fun id => reads_word32.bind fun bits => (reads_number 2).bind
    fun count => hpath id bits count).congr fun entry code => ?_
  rw [spells_iff]
  constructor
  · intro h
    obtain ⟨id, _, _, rfl, ⟨bits, _, _, rfl, ⟨count, _, hops, ⟨hcount, rfl⟩, ⟨rfl, haddress, rfl,
      hhops⟩, rfl⟩, rfl⟩, rfl⟩ := h
    exact ⟨hcount, hops, hhops, by rw [haddress]⟩
  · intro h
    obtain ⟨hlen, hops, hhops, rfl⟩ := h
    exact ⟨_, _, _, rfl, ⟨_, _, _, rfl, ⟨_, _, hops, ⟨hlen, rfl⟩, ⟨rfl, rfl, rfl, hhops⟩, rfl⟩,
      rfl⟩, rfl⟩

/-- What fits a packet fits its fields. -/
theorem exists_spells {entry : NodeEntry} (h : entry.size ≤ 65536) :
    ∃ code, Field.spells fields entry code := by
  have hpath : ∃ hops, Grammar.inTurn (fun (hop : UInt16) code => code = bigEndian 2 hop.toNat)
      entry.path hops := Grammar.exists_inTurn fun _ _ => ⟨_, rfl⟩
  obtain ⟨hops, hhops⟩ := hpath
  refine ⟨_, spells_iff.mpr ⟨?_, hops, hhops, rfl⟩⟩
  unfold size at h
  show entry.path.length < 65536
  omega

end NodeEntry

namespace Discovery

theorem spells_iff {message : Discovery} {code : Bytes} :
    Field.spells fields message code ↔ message.nodes.length < capacity 2 ∧
      ∃ nodes, (Field.spells NodeEntry.fields).inTurn message.nodes nodes ∧
        code = bigEndian 2 message.sender.toNat ++
          (bigEndian 2 message.nodes.length ++ nodes) := by
  simp only [Field.spells, fields, Field.word16, Field.concat_bytes_eq_ok,
    Field.concat_number_eq_ok, Field.concat_flatMap_eq_ok]
  constructor
  · intro h
    obtain ⟨_, ⟨hlen, nodes, hnodes, rfl⟩, rfl⟩ := h
    exact ⟨hlen, nodes, hnodes, rfl⟩
  · intro h
    obtain ⟨hlen, nodes, hnodes, rfl⟩ := h
    exact ⟨_, ⟨hlen, nodes, hnodes, rfl⟩, rfl⟩

theorem reads_reader : Reads (Field.spells fields) reader := by
  refine (reads_word16.bind fun sender => (reads_number 2).bind fun count =>
    (NodeEntry.reads_reader.many count).bind fun nodes =>
      reads_pure (⟨sender, nodes⟩ : Discovery)).congr fun message code => ?_
  rw [spells_iff]
  constructor
  · intro h
    obtain ⟨_, _, _, rfl, ⟨_, _, _, ⟨hcount, rfl⟩, ⟨nodes, code, _, ⟨rfl, hnodes⟩, ⟨rfl, rfl⟩,
      rfl⟩, rfl⟩, rfl⟩ := h
    exact ⟨hcount, code, hnodes, by rw [List.append_nil]⟩
  · intro h
    obtain ⟨hlen, nodes, hnodes, rfl⟩ := h
    exact ⟨_, _, _, rfl, ⟨_, _, _, ⟨hlen, rfl⟩, ⟨_, nodes, [], ⟨rfl, hnodes⟩, ⟨rfl, rfl⟩,
      (List.append_nil nodes).symm⟩, rfl⟩, rfl⟩

theorem exists_spells {message : Discovery}
    (h : total (message.nodes.map NodeEntry.size) ≤ 65536) :
    ∃ code, Field.spells fields message code := by
  have hcount : 8 * (message.nodes.map NodeEntry.size).length ≤
      total (message.nodes.map NodeEntry.size) := by
    apply mul_length_le_total
    intro count hcount
    obtain ⟨entry, -, rfl⟩ := List.mem_map.mp hcount
    exact Nat.le_add_right 8 _
  have hnodes : ∀ entry ∈ message.nodes, ∃ code, Field.spells NodeEntry.fields entry code := by
    intro entry hentry
    have hle := le_total_of_mem (List.mem_map_of_mem (f := NodeEntry.size) hentry)
    exact NodeEntry.exists_spells (Nat.le_trans hle h)
  obtain ⟨nodes, hnodes⟩ := Grammar.exists_inTurn hnodes
  refine ⟨_, spells_iff.mpr ⟨?_, nodes, hnodes, rfl⟩⟩
  rw [List.length_map] at hcount
  show message.nodes.length < 65536
  omega

end Discovery

namespace DataMessage

theorem spells_iff {message : DataMessage} {code : Bytes} :
    Field.spells fields message code ↔ message.payload.length < capacity 2 ∧
      code = bigEndian 2 message.sender.toNat ++
        (bigEndian 2 message.payload.length ++ message.payload) := by
  simp only [Field.spells, fields, Field.word16, Field.concat_bytes_eq_ok,
    Field.concat_number_eq_ok, Field.concat_nil]
  constructor
  · intro h
    obtain ⟨_, ⟨hlen, _, ⟨_, ⟨rfl⟩, rfl⟩, rfl⟩, rfl⟩ := h
    exact ⟨hlen, by rw [List.append_nil]⟩
  · intro h
    obtain ⟨hlen, rfl⟩ := h
    exact ⟨_, ⟨hlen, _, ⟨[], rfl, (List.append_nil _).symm⟩, rfl⟩, rfl⟩

theorem reads_reader : Reads (Field.spells fields) reader := by
  refine (reads_word16.bind fun sender => (reads_number 2).bind fun count =>
    (reads_bytes count).bind fun payload =>
      reads_pure (⟨sender, payload⟩ : DataMessage)).congr fun message code => ?_
  rw [spells_iff]
  constructor
  · intro h
    obtain ⟨_, _, _, rfl, ⟨_, _, _, ⟨hcount, rfl⟩, ⟨payload, _, _, ⟨rfl, rfl⟩, ⟨rfl, rfl⟩, rfl⟩,
      rfl⟩, rfl⟩ := h
    exact ⟨hcount, by rw [List.append_nil]⟩
  · intro h
    obtain ⟨hlen, rfl⟩ := h
    exact ⟨_, _, _, rfl, ⟨_, _, _, ⟨hlen, rfl⟩, ⟨_, _, [], ⟨rfl, rfl⟩, ⟨rfl, rfl⟩,
      (List.append_nil _).symm⟩, rfl⟩, rfl⟩

end DataMessage

namespace Message

theorem length_of_spells_body {message : Message} {code : Bytes}
    (h : Field.spells bodyFields message code) : code.length = message.bodySize := by
  cases message with
  | discovery message =>
    obtain ⟨_, nodes, hnodes, rfl⟩ := Discovery.spells_iff.mp h
    have hlen := Grammar.inTurn_length NodeEntry.size
      (fun _ _ => NodeEntry.length_of_spells) hnodes
    simp only [List.length_append, length_bigEndian, hlen, bodySize]
    omega
  | data message =>
    obtain ⟨_, rfl⟩ := DataMessage.spells_iff.mp h
    simp only [List.length_append, length_bigEndian, bodySize]
    omega

theorem spells_iff {message : Message} {code : Bytes} :
    Field.spells fields message code ↔ message.size < capacity 4 ∧
      ∃ body, Field.spells bodyFields message body ∧
        code = bigEndian 4 message.size ++ (bigEndian 2 message.tag.toNat ++ body) := by
  simp only [Field.spells, fields, Field.word16, Field.concat_bytes_eq_ok,
    Field.concat_number_eq_ok]
  constructor
  · intro h
    obtain ⟨hsize, _, ⟨body, hbody, rfl⟩, rfl⟩ := h
    exact ⟨hsize, body, hbody, rfl⟩
  · intro h
    obtain ⟨hsize, body, hbody, rfl⟩ := h
    exact ⟨hsize, _, ⟨body, hbody, rfl⟩, rfl⟩

theorem length_of_spells {message : Message} {code : Bytes}
    (h : Field.spells fields message code) : code.length = message.size := by
  obtain ⟨_, body, hbody, rfl⟩ := spells_iff.mp h
  simp only [List.length_append, length_bigEndian, length_of_spells_body hbody, size]
  omega

theorem reads_bodyReader (tag : UInt16) :
    Reads (fun message code => message.tag = tag ∧ Field.spells bodyFields message code)
      (bodyReader tag) := by
  refine (Reads.ite (Discovery.reads_reader.map discovery) (Reads.ite
    (DataMessage.reads_reader.map data) (reads_fail _))).congr fun message code => ?_
  constructor
  · intro h
    split at h
    · next htag =>
      obtain ⟨body, hbody, rfl⟩ := h
      exact ⟨htag.symm, hbody⟩
    · split at h
      · next htag =>
        obtain ⟨body, hbody, rfl⟩ := h
        exact ⟨htag.symm, hbody⟩
      · exact h.elim
  · intro h
    obtain ⟨rfl, hbody⟩ := h
    cases message with
    | discovery message => exact ⟨message, hbody, rfl⟩
    | data message => exact ⟨message, hbody, rfl⟩

theorem reads_header :
    Reads (fun header code => code = bigEndian 4 header.size.toNat ++ bigEndian 2 header.tag.toNat)
      MessageHeader.reader := by
  refine (reads_word32.bind fun size => reads_word16.bind fun tag =>
    reads_pure (⟨size, tag⟩ : MessageHeader)).congr fun header code => ?_
  constructor
  · intro h
    obtain ⟨_, _, _, rfl, ⟨_, _, _, rfl, ⟨rfl, rfl⟩, rfl⟩, rfl⟩ := h
    rw [List.append_nil]
  · intro hsame
    subst hsame
    exact ⟨_, _, _, rfl, ⟨_, _, [], rfl, ⟨rfl, rfl⟩, (List.append_nil _).symm⟩, rfl⟩

theorem reader_eq_measured :
    reader = position >>= fun start =>
      (MessageHeader.reader >>= fun header => bodyReader header.tag >>= fun message =>
        pure (header, message)) >>= fun read => position >>= fun stop =>
          (fun (read : MessageHeader × Message) n =>
            if n = read.1.size.toNat then pure read.2
            else Reader.fail (.sizeMismatch read.1.size.toNat n)) read (stop - start) := by
  simp only [bind_assoc, pure_bind]
  rfl

/-- The declared size is the one thing that a message says twice: a code whose header declares
another size than the body has is the code of no message. -/
theorem reads_reader : Reads (Field.spells fields) reader := by
  rw [reader_eq_measured]
  refine ((reads_header.bind fun header => (reads_bodyReader header.tag).bind fun message =>
    reads_pure (header, message)).measured fun read n =>
      (reads_pure read.2).ite (p := n = read.1.size.toNat) (reads_fail _)).congr
    fun message code => ?_
  rw [spells_iff]
  constructor
  · intro h
    obtain ⟨⟨header, message'⟩, _, second, ⟨_, _, _, rfl, ⟨_, body, _, ⟨htag, hbody⟩, ⟨hread, rfl⟩,
      rfl⟩, rfl⟩, hsecond, rfl⟩ := h
    obtain ⟨rfl, rfl⟩ := Prod.mk.inj hread
    split at hsecond
    · next hsize =>
      obtain ⟨rfl, rfl⟩ := hsecond
      have hlen := length_of_spells_body hbody
      simp only [List.append_nil, List.length_append, length_bigEndian, hlen] at hsize
      have hdeclared : message.size = header.size.toNat := by
        rw [← hsize, size]
      refine ⟨hdeclared ▸ header.size.toNat_lt, body, hbody, ?_⟩
      rw [hdeclared, ← htag, List.append_nil, List.append_nil, List.append_assoc]
    · exact hsecond.elim
  · intro h
    obtain ⟨hsize, body, hbody, rfl⟩ := h
    have hword : (UInt32.ofNat message.size).toNat = message.size :=
      Nat.mod_eq_of_lt hsize
    refine ⟨(⟨UInt32.ofNat message.size, message.tag⟩, message), _, [], ⟨_, _, body, rfl,
      ⟨_, body, [], ⟨rfl, hbody⟩, ⟨rfl, rfl⟩, (List.append_nil _).symm⟩, rfl⟩, ?_, ?_⟩
    · rw [if_pos]
      · exact ⟨rfl, rfl⟩
      · rw [hword]
        simp only [List.length_append, length_bigEndian, length_of_spells_body hbody, size]
    · rw [hword, List.append_nil, List.append_assoc]

theorem exists_spells {message : Message} (h : message.size ≤ 65536) :
    ∃ code, Field.spells fields message code := by
  have hbody : ∃ body, Field.spells bodyFields message body := by
    unfold size at h
    cases message with
    | discovery message =>
      simp only [bodySize] at h
      exact Discovery.exists_spells (by omega)
    | data message =>
      simp only [bodySize] at h
      refine ⟨_, DataMessage.spells_iff.mpr ⟨?_, rfl⟩⟩
      show message.payload.length < 65536
      omega
  obtain ⟨body, hbody⟩ := hbody
  refine ⟨_, spells_iff.mpr ⟨?_, body, hbody, rfl⟩⟩
  exact Nat.lt_of_le_of_lt h (by decide)

end Message
end RouteDiscovery

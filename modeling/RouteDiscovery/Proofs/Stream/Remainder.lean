import RouteDiscovery.Proofs.Stream.Reassembly

/-!
A drain of any backlog. Every byte string consists, in one way only, of the codes of some packets
and a remainder that no packet starts. A drain takes the packets, and keeps the remainder just if
it is short of a size that it may declare.
-/
namespace RouteDiscovery
open Wire

/-- No packet starts the bytes. -/
def Barren (rest : Bytes) : Prop :=
  ∀ (packet : Packet) (code : Bytes), packet.encode = .ok code → ¬ code <+: rest

/-- The codes of the packets make up the front of the backlog, and no packet starts the rest. -/
structure Parses (backlog : Bytes) (packets : List Packet) (rest : Bytes) : Prop where
  exists_codes : ∃ codes, Packet.Codes packets codes ∧ backlog = codes.flatten ++ rest
  barren : Barren rest

/-- Fewer bytes than any packet has, or fewer than a size that is allowed. -/
def Incomplete (rest : Bytes) : Prop :=
  rest.length < 10 ∨
    rest.length < ofBigEndian (rest.take 4) ∧ ofBigEndian (rest.take 4) ≤ Packet.maxSize

instance (rest : Bytes) : Decidable (Incomplete rest) :=
  inferInstanceAs (Decidable (_ ∨ _ ∧ _))

section Remainder
variable {backlog rest : Bytes} {packets : List Packet}

theorem isWaiting_iff : isWaiting backlog = true ↔ Incomplete backlog := by
  have hten : (!hasLength 10 backlog) = true ↔ backlog.length < 10 := by
    rw [Bool.not_eq_true', Bool.eq_false_iff, Ne, hasLength_iff, Nat.not_le]
  have hsize : (!hasLength (ofBigEndian (backlog.take 4)) backlog) = true ↔
      backlog.length < ofBigEndian (backlog.take 4) := by
    rw [Bool.not_eq_true', Bool.eq_false_iff, Ne, hasLength_iff, Nat.not_le]
  simp only [isWaiting, Incomplete, Bool.or_eq_true, Bool.and_eq_true, decide_eq_true_eq, hten,
    hsize]
  exact or_congr_right and_comm

theorem Incomplete.length_lt (h : Incomplete rest) : rest.length < Packet.maxSize := by
  rcases h with hshort | ⟨hless, hallowed⟩
  · exact Nat.lt_trans hshort (by decide)
  · exact Nat.lt_of_lt_of_le hless hallowed

/-- Bytes that no packet starts are kept whole or given up whole. -/
theorem unpackBehind_of_barren (h : Barren rest) (found : Array Packet) :
    unpackBehind found rest = ⟨found.toList, if Incomplete rest then rest else [],
      if Incomplete rest then 0 else rest.length⟩ := by
  by_cases hwaits : Incomplete rest
  · rw [unpackBehind_of_isWaiting (isWaiting_iff.mpr hwaits), if_pos hwaits, if_pos hwaits]
  · rw [unpackBehind, if_neg fun hwaiting => hwaits (isWaiting_iff.mp hwaiting), if_neg hwaits,
      if_neg hwaits]
    split
    · next packet after hread =>
      obtain ⟨code, hcode, hfront, -⟩ := Packet.reads_reader.split hread
      exact absurd ⟨after.unread, hfront.symm⟩ (h packet code hcode)
    · rfl

theorem Parses.unpack (h : Parses backlog packets rest) :
    unpack backlog = ⟨packets, if Incomplete rest then rest else [],
      if Incomplete rest then 0 else rest.length⟩ := by
  obtain ⟨codes, hcodes, rfl⟩ := h.exists_codes
  have hbehind (found : Array Packet) : unpackBehind found (codes.flatten ++ rest) =
      ⟨found.toList ++ packets, if Incomplete rest then rest else [],
        if Incomplete rest then 0 else rest.length⟩ := by
    have hrest := h.barren
    clear h
    induction hcodes generalizing found with
    | nil => rw [List.append_nil, List.flatten_nil, List.nil_append, unpackBehind_of_barren hrest]
    | @cons packet code packets codes hcode _ ih =>
      rw [List.flatten_cons, List.append_assoc, unpackBehind_code hcode, ih, Array.toList_push,
        List.append_assoc, List.singleton_append]
  exact hbehind #[]

theorem Packet.Codes.unique {codes codes' : List Bytes} (h : Packet.Codes packets codes)
    (h' : Packet.Codes packets codes') : codes' = codes := by
  refine List.right_unique_forall₂' (fun packet code code' hcode hcode' => ?_) h' h
  exact Except.ok.inj (hcode.symm.trans hcode')

/-- The packets are those that a drain finds, and their codes leave one remainder. -/
theorem Parses.unique {packets' : List Packet} {rest' : Bytes} (h : Parses backlog packets rest)
    (h' : Parses backlog packets' rest') : packets' = packets ∧ rest' = rest := by
  have hpackets : packets' = packets := by
    have hunpacked := h'.unpack.symm.trans h.unpack
    exact (Unpacked.mk.inj hunpacked).1
  subst hpackets
  obtain ⟨codes, hcodes, hsplit⟩ := h.exists_codes
  obtain ⟨codes', hcodes', hsplit'⟩ := h'.exists_codes
  rw [hcodes.unique hcodes'] at hsplit'
  exact ⟨rfl, List.append_cancel_left (hsplit'.symm.trans hsplit)⟩

theorem Barren.parses (h : Barren rest) : Parses rest [] rest :=
  ⟨⟨[], .nil, rfl⟩, h⟩

theorem barren_nil : Barren [] := by
  intro packet code hcode hfront
  have hten := packet.ten_le_size
  rw [← Packet.length_of_encode hcode, List.prefix_nil.mp hfront] at hten
  exact absurd hten (by decide)

theorem exists_parses (backlog : Bytes) : ∃ packets rest, Parses backlog packets rest := by
  by_cases hbarren : Barren backlog
  · exact ⟨[], backlog, hbarren.parses⟩
  · simp only [Barren, not_forall, not_not] at hbarren
    obtain ⟨packet, code, hcode, tail, rfl⟩ := hbarren
    have hshorter : tail.length < (code ++ tail).length := by
      have hten := packet.ten_le_size
      rw [List.length_append, Packet.length_of_encode hcode]
      omega
    obtain ⟨packets, rest, ⟨codes, hcodes, rfl⟩, hrest⟩ := exists_parses tail
    refine ⟨packet :: packets, rest, ⟨code :: codes, .cons hcode hcodes, ?_⟩, hrest⟩
    rw [List.flatten_cons, List.append_assoc]
termination_by backlog.length

end Remainder

namespace Stream
variable {stream : Stream} {packets : List Packet} {rest : Bytes}

theorem drain_of_parses (h : Parses stream.backlog packets rest) :
    stream.drain = (packets, { stream with
      backlog := if Incomplete rest then rest else []
      decoded := stream.decoded + packets.length
      discarded := stream.discarded + if Incomplete rest then 0 else rest.length }) := by
  simp only [drain, h.unpack]

/-- What is kept yields nothing and is kept again. -/
theorem drain_of_kept (h : Parses stream.backlog [] stream.backlog)
    (hwaits : Incomplete stream.backlog) : stream.drain = ([], stream) := by
  rw [drain_of_parses h, if_pos hwaits, if_pos hwaits]
  rfl

/-- A drain of any bytes ends. It yields the packets at their front; the remainder, which is the
only one, is kept if it is incomplete and given up whole if not. So less than the greatest packet
stays behind, and a second drain changes nothing. -/
theorem drain_eq_parse (stream : Stream) : ∃ packets rest, Parses stream.backlog packets rest ∧
    (∀ packets' rest', Parses stream.backlog packets' rest' →
      packets' = packets ∧ rest' = rest) ∧
    stream.drain = (packets, { stream with
      backlog := if Incomplete rest then rest else []
      decoded := stream.decoded + packets.length
      discarded := stream.discarded + if Incomplete rest then 0 else rest.length }) ∧
    stream.drain.2.backlog.length < Packet.maxSize ∧
    stream.drain.2.drain = ([], stream.drain.2) := by
  obtain ⟨packets, rest, h⟩ := exists_parses stream.backlog
  have hdrain := drain_of_parses h
  refine ⟨packets, rest, h, fun packets' rest' h' => h.unique h', hdrain, ?_⟩
  have hkept : Parses stream.drain.2.backlog [] stream.drain.2.backlog ∧
      Incomplete stream.drain.2.backlog := by
    rw [hdrain]
    by_cases hwaits : Incomplete rest
    · simp only [if_pos hwaits]
      exact ⟨h.barren.parses, hwaits⟩
    · simp only [if_neg hwaits]
      exact ⟨barren_nil.parses, .inl (by decide)⟩
  exact ⟨hkept.2.length_lt, drain_of_kept hkept.1 hkept.2⟩

end Stream
end RouteDiscovery

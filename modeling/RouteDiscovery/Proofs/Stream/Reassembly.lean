import Mathlib.Data.List.Forall2
import Mathlib.Data.List.Induction
import Mathlib.Data.List.Infix
import Mathlib.Order.Bounds.Defs
import RouteDiscovery.Proofs.Packet.Exact
import RouteDiscovery.Stream

/-! Reassembly does not depend on how the bytes of a stream were cut or on when they were drained:
what has been drained is always the longest list of packets whose codes have fully arrived. -/
namespace RouteDiscovery
open Wire

/-- Packets together with their codes. -/
abbrev Packet.Codes : List Packet → List Bytes → Prop :=
  List.Forall₂ fun packet code => packet.encode = .ok code

section Backlog
variable {packet : Packet} {code : Bytes}

theorem Packet.take_four_of_encode (h : packet.encode = .ok code) (rest : Bytes) :
    (code ++ rest).take 4 = bigEndian 4 packet.size := by
  obtain ⟨_, body, hbody, rfl⟩ := Packet.encode_eq_ok_iff.mp h
  obtain ⟨_, _, messages, _, rfl⟩ := Packet.spells_iff.mp hbody
  rw [Packet.withChecksum, List.append_assoc, List.append_assoc]
  exact List.take_left' (length_bigEndian 4 _)

theorem Packet.size_le_of_encode (h : packet.encode = .ok code) : packet.size ≤ Packet.maxSize :=
  (Packet.encode_eq_ok_iff.mp h).1

theorem declared_size_of_encode (h : packet.encode = .ok code) (rest : Bytes) :
    ofBigEndian ((code ++ rest).take 4) = packet.size := by
  rw [Packet.take_four_of_encode h, ofBigEndian_bigEndian]
  exact Nat.mod_eq_of_lt (Nat.lt_of_le_of_lt (Packet.size_le_of_encode h) (by decide))

/-- A whole packet is not waited for. -/
theorem not_isWaiting_of_encode (h : packet.encode = .ok code) (rest : Bytes) :
    isWaiting (code ++ rest) = false := by
  have hlen := Packet.length_of_encode h
  have hten : hasLength 10 (code ++ rest) = true := by
    rw [hasLength_iff, List.length_append, hlen]
    exact Nat.le_add_right_of_le packet.ten_le_size
  have hwhole : hasLength packet.size (code ++ rest) = true := by
    rw [hasLength_iff, List.length_append, hlen]
    exact Nat.le_add_right _ _
  simp only [isWaiting, hten, declared_size_of_encode h, hwhole, Bool.not_true, Bool.and_false,
    Bool.or_false]

/-- What is short of a packet by some bytes is waited for, even at the greatest size. -/
theorem isWaiting_of_encode (h : packet.encode = .ok code) {backlog : Bytes}
    (hpart : backlog <+: code) (hshort : backlog.length < code.length) :
    isWaiting backlog = true := by
  unfold isWaiting
  by_cases hten : hasLength 10 backlog = true
  · obtain ⟨rest, rfl⟩ := hpart
    have hfour : 4 ≤ backlog.length := by
      have := hasLength_iff.mp hten
      omega
    have hsize : ofBigEndian (backlog.take 4) = packet.size := by
      have hwhole := declared_size_of_encode h []
      rwa [List.append_nil, List.take_append_of_le_length hfour] at hwhole
    have hlacks : hasLength packet.size backlog = false := by
      rw [Bool.eq_false_iff, Ne, hasLength_iff]
      rw [Packet.length_of_encode h] at hshort
      omega
    simp only [hsize, hlacks, Packet.size_le_of_encode h, decide_true, Bool.not_false,
      Bool.and_true, Bool.or_true]
  · simp [hten]

theorem unpackBehind_of_isWaiting {backlog : Bytes} (h : isWaiting backlog = true)
    (found : Array Packet) : unpackBehind found backlog = ⟨found.toList, backlog, 0⟩ := by
  rw [unpackBehind, if_pos h]

theorem unpackBehind_code (h : packet.encode = .ok code) (found : Array Packet) (rest : Bytes) :
    unpackBehind found (code ++ rest) = unpackBehind (found.push packet) rest := by
  have hread := Packet.reads_reader.apply h rest 0
  rw [unpackBehind, if_neg (by rw [not_isWaiting_of_encode h]; exact Bool.false_ne_true)]
  split
  · next other after hother =>
    rw [hread] at hother
    cases hother
    rfl
  · next fault after hfault =>
    rw [hread] at hfault
    cases hfault

end Backlog

/-- The front of a sequence of codes yields the packets that lie whole in it and keeps the rest. -/
theorem unpackBehind_codes {packets : List Packet} {codes : List Bytes}
    (h : Packet.Codes packets codes) {backlog : Bytes} (hpart : backlog <+: codes.flatten)
    (found : Array Packet) :
    ∃ k rest, k ≤ packets.length ∧ backlog = (codes.take k).flatten ++ rest ∧
      (∀ j ≤ packets.length, (codes.take j).flatten <+: backlog → j ≤ k) ∧
      unpackBehind found backlog = ⟨found.toList ++ packets.take k, rest, 0⟩ := by
  induction h generalizing backlog found with
  | nil =>
    obtain rfl := List.prefix_nil.mp hpart
    exact ⟨0, [], Nat.le_refl _, rfl, fun _ hj _ => hj,
      by rw [unpackBehind_of_isWaiting rfl, List.take_nil, List.append_nil]⟩
  | @cons packet code packets codes hcode _ ih =>
    by_cases hwhole : code <+: backlog
    · obtain ⟨rest, rfl⟩ := hwhole
      rw [List.flatten_cons, List.prefix_append_right_inj] at hpart
      obtain ⟨k, kept, hk, rfl, hmax, hunpack⟩ := ih hpart (found.push packet)
      refine ⟨k + 1, kept, Nat.succ_le_succ hk, ?_, fun j hj hfits => ?_, ?_⟩
      · rw [List.take_succ_cons, List.flatten_cons, List.append_assoc]
      · cases j with
        | zero => exact Nat.zero_le _
        | succ j =>
          rw [List.take_succ_cons, List.flatten_cons, List.prefix_append_right_inj] at hfits
          exact Nat.succ_le_succ (hmax j (Nat.le_of_succ_le_succ hj) hfits)
      · rw [unpackBehind_code hcode, hunpack, List.take_succ_cons, Array.toList_push,
          List.append_assoc, List.singleton_append]
    · have hfront : backlog <+: code := by
        refine (List.prefix_or_prefix_of_prefix hpart ?_).resolve_right hwhole
        exact List.prefix_append code codes.flatten
      have hshort : backlog.length < code.length := by
        refine Nat.lt_of_le_of_ne hfront.length_le fun hlen => hwhole ?_
        rw [hfront.eq_of_length hlen]
      refine ⟨0, backlog, Nat.zero_le _, rfl, fun j _ hfits => ?_, ?_⟩
      · cases j with
        | zero => exact Nat.le_refl _
        | succ j =>
          rw [List.take_succ_cons, List.flatten_cons] at hfits
          exact absurd ((List.prefix_append code _).trans hfits) hwhole
      · rw [unpackBehind_of_isWaiting (isWaiting_of_encode hcode hfront hshort), List.take_zero,
          List.append_nil]

/-- Whole codes leave nothing behind. -/
theorem unpack_codes {packets : List Packet} {codes : List Bytes} (h : Packet.Codes packets codes) :
    unpack codes.flatten = ⟨packets, [], 0⟩ := by
  obtain ⟨k, rest, hk, hbacklog, hmax, hunpack⟩ := unpackBehind_codes h (List.prefix_refl _) #[]
  have hlast : packets.length = k := by
    refine Nat.le_antisymm (hmax _ (Nat.le_refl _) ?_) hk
    rw [h.length_eq, List.take_length]
  rw [← hlast, h.length_eq, List.take_length] at hbacklog
  have hrest : rest = [] := List.append_cancel_left (hbacklog.symm.trans (List.append_nil _).symm)
  rw [unpack, hunpack, hrest, ← hlast, List.take_length, List.nil_append]

/-- What can happen to a stream. -/
inductive StreamAction where
  | receive (bytes : Bytes) (now : Time)
  | drain

/-- A stream and all packets drained from it so far. -/
structure StreamRun where
  stream : Stream := {}
  drained : List Packet := []

namespace StreamRun

def step (run : StreamRun) : StreamAction → StreamRun
  | .receive bytes now => { run with stream := run.stream.receive bytes now }
  | .drain =>
    let (packets, stream) := run.stream.drain
    { stream, drained := run.drained ++ packets }

/-- A fresh stream after some actions. -/
def after (actions : List StreamAction) : StreamRun :=
  actions.foldl step {}

def received (actions : List StreamAction) : Bytes :=
  actions.flatMap fun action =>
    match action with
    | .receive bytes _ => bytes
    | .drain => []

theorem after_append_singleton (actions : List StreamAction) (action : StreamAction) :
    after (actions ++ [action]) = (after actions).step action := by
  simp [after]

theorem received_append (first second : List StreamAction) :
    received (first ++ second) = received first ++ received second :=
  List.flatMap_append

/-- The first packets have been drained, and the bytes behind their codes are the backlog. -/
structure Holds (packets : List Packet) (codes : List Bytes) (arrived : Bytes) (k : Nat)
    (run : StreamRun) : Prop where
  le_length : k ≤ packets.length
  arrived_eq : arrived = (codes.take k).flatten ++ run.stream.backlog
  drained_eq : run.drained = packets.take k
  decoded_eq : run.stream.decoded = k
  discarded_eq : run.stream.discarded = 0

section Run
variable {packets : List Packet} {codes : List Bytes} {arrived : Bytes} {k : Nat} {run : StreamRun}

theorem Holds.receive (h : run.Holds packets codes arrived k) (bytes : Bytes) (now : Time) :
    (run.step (.receive bytes now)).Holds packets codes (arrived ++ bytes) k where
  le_length := h.le_length
  arrived_eq := by
    rw [h.arrived_eq, List.append_assoc]
    rfl
  drained_eq := h.drained_eq
  decoded_eq := h.decoded_eq
  discarded_eq := h.discarded_eq

/-- A drain takes off every packet that has arrived whole. -/
theorem Holds.drain (hcodes : Packet.Codes packets codes) (h : run.Holds packets codes arrived k)
    (hpart : arrived <+: codes.flatten) :
    ∃ n, (run.step .drain).Holds packets codes arrived n ∧
      ∀ j ≤ packets.length, (codes.take j).flatten <+: arrived → j ≤ n := by
  have hsplit : codes.flatten = (codes.take k).flatten ++ (codes.drop k).flatten := by
    rw [← List.flatten_append, List.take_append_drop]
  have hbacklog : run.stream.backlog <+: (codes.drop k).flatten := by
    rwa [h.arrived_eq, hsplit, List.prefix_append_right_inj] at hpart
  obtain ⟨m, rest, hm, hrest, hmax, hunpack⟩ :=
    unpackBehind_codes (List.forall₂_drop k hcodes) hbacklog #[]
  have hle : k + m ≤ packets.length := by
    have := h.le_length
    rw [List.length_drop] at hm
    omega
  have hdrain : run.step .drain =
      { stream := { run.stream with backlog := rest, decoded := run.stream.decoded + m }
        drained := run.drained ++ (packets.drop k).take m } := by
    rw [step, Stream.drain, unpack, hunpack]
    have hlen : ((packets.drop k).take m).length = m := List.length_take_of_le hm
    simp [hlen]
  refine ⟨k + m, ⟨hle, ?_, ?_, ?_, ?_⟩, fun j hj hfits => ?_⟩
  · rw [hdrain, h.arrived_eq, hrest, List.take_add, List.flatten_append, List.append_assoc]
  · rw [hdrain, h.drained_eq, List.take_add]
  · rw [hdrain, ← h.decoded_eq]
  · rw [hdrain]
    exact h.discarded_eq
  · rcases Nat.le_total j k with hjk | hkj
    · exact Nat.le_add_right_of_le hjk
    · obtain ⟨i, rfl⟩ := Nat.exists_eq_add_of_le hkj
      rw [h.arrived_eq, List.take_add, List.flatten_append, List.prefix_append_right_inj] at hfits
      refine Nat.add_le_add_left (hmax i ?_ hfits) k
      rw [List.length_drop]
      omega

theorem holds_after (hcodes : Packet.Codes packets codes) (actions : List StreamAction)
    (hpart : received actions <+: codes.flatten) :
    ∃ k, (after actions).Holds packets codes (received actions) k := by
  induction actions using List.reverseRecOn with
  | nil => exact ⟨0, Nat.zero_le _, rfl, rfl, rfl, rfl⟩
  | append_singleton actions action ih =>
    rw [received_append] at hpart
    obtain ⟨k, hk⟩ := ih ((List.prefix_append _ _).trans hpart)
    rw [after_append_singleton, received_append]
    cases action with
    | receive bytes now =>
      have hbytes : received [.receive bytes now] = bytes := by simp [received]
      rw [hbytes]
      exact ⟨k, hk.receive bytes now⟩
    | drain =>
      have hnone : received [.drain] = [] := rfl
      rw [hnone, List.append_nil] at hpart ⊢
      obtain ⟨n, hn, _⟩ := hk.drain hcodes hpart
      exact ⟨n, hn⟩

end Run

/-- After every drain in a run over the codes of some packets, the packets drained so far are the
longest list whose codes have fully arrived, and what arrived behind them is the backlog. A drain
after everything has arrived has yielded all packets. -/
theorem drained_eq_longest_arrived {packets : List Packet} {codes : List Bytes}
    (hcodes : Packet.Codes packets codes) (earlier later : List StreamAction)
    (hrun : received (earlier ++ .drain :: later) = codes.flatten) :
    ∃ k, IsGreatest {k | k ≤ packets.length ∧ (codes.take k).flatten <+: received earlier} k ∧
      (after (earlier ++ [.drain])).drained = packets.take k ∧
      received earlier =
        (codes.take k).flatten ++ (after (earlier ++ [.drain])).stream.backlog ∧
      (after (earlier ++ [.drain])).stream.decoded = k ∧
      (after (earlier ++ [.drain])).stream.discarded = 0 ∧
      (received earlier = codes.flatten →
        (after (earlier ++ [.drain])).drained = packets ∧
        (after (earlier ++ [.drain])).stream.backlog = []) := by
  have hpart : received earlier <+: codes.flatten := by
    rw [← hrun, received_append]
    exact List.prefix_append _ _
  obtain ⟨j, hj⟩ := holds_after hcodes earlier hpart
  obtain ⟨k, hk, hmax⟩ := hj.drain hcodes hpart
  rw [← after_append_singleton] at hk
  refine ⟨k, ⟨⟨hk.le_length, ?_⟩, fun i hi => hmax i hi.1 hi.2⟩, hk.drained_eq, hk.arrived_eq,
    hk.decoded_eq, hk.discarded_eq, fun hall => ?_⟩
  · rw [hk.arrived_eq]
    exact List.prefix_append _ _
  · have hlast : packets.length = k := by
      refine Nat.le_antisymm (hmax _ (Nat.le_refl _) ?_) hk.le_length
      rw [hcodes.length_eq, List.take_length, hall]
    refine ⟨by rw [hk.drained_eq, ← hlast, List.take_length], ?_⟩
    have hbacklog := hk.arrived_eq
    rw [hall, ← hlast, hcodes.length_eq, List.take_length] at hbacklog
    exact List.append_cancel_left (hbacklog.symm.trans (List.append_nil _).symm)

/-- A data packet of 22 bytes and an empty one of ten, cut inside both. -/
theorem drained_eq_longest_arrived_cut :
    let packets : List Packet := [⟨[.data ⟨7, [1, 2]⟩]⟩, ⟨[]⟩]
    let first : Bytes := [0, 0, 0, 22, 0, 1, 0, 0, 0]
    let second : Bytes := [12, 0, 2, 0, 7, 0, 2, 1, 2, 165, 202, 187, 206, 0, 0, 0, 10, 0, 0, 117]
    let codes : List Bytes := [first ++ second.take 13, [0, 0, 0, 10, 0, 0, 117, 115, 251, 181]]
    let earlier : List StreamAction :=
      [.receive first 5, .drain, .receive [] 3, .receive second 9]
    let later : List StreamAction := [.receive [115, 251, 181] 9, .drain]
    Packet.Codes packets codes ∧ received (earlier ++ .drain :: later) = codes.flatten ∧
      ∃ k, IsGreatest {k | k ≤ packets.length ∧ (codes.take k).flatten <+: received earlier} k ∧
        (after (earlier ++ [.drain])).drained = packets.take k ∧
        received earlier =
          (codes.take k).flatten ++ (after (earlier ++ [.drain])).stream.backlog := by
  have hcodes : Packet.Codes [⟨[.data ⟨7, [1, 2]⟩]⟩, ⟨[]⟩]
      [[0, 0, 0, 22, 0, 1, 0, 0, 0, 12, 0, 2, 0, 7, 0, 2, 1, 2, 165, 202, 187, 206],
        [0, 0, 0, 10, 0, 0, 117, 115, 251, 181]] :=
    .cons (by decide +kernel) (.cons (by decide +kernel) .nil)
  obtain ⟨k, hk, hdrained, hbacklog, _⟩ := drained_eq_longest_arrived hcodes
    [.receive [0, 0, 0, 22, 0, 1, 0, 0, 0] 5, .drain, .receive [] 3, .receive
      [12, 0, 2, 0, 7, 0, 2, 1, 2, 165, 202, 187, 206, 0, 0, 0, 10, 0, 0, 117] 9]
    [.receive [115, 251, 181] 9, .drain] rfl
  exact ⟨hcodes, rfl, k, hk, hdrained, hbacklog⟩

end StreamRun
end RouteDiscovery

import RouteDiscovery.Inbox
import RouteDiscovery.Proofs.Stream.Reassembly

/-!
What waits in an inbox to which only whole packets were delivered. Draining takes all of it.
-/
namespace RouteDiscovery
open Wire

/-- The backlog consists of the codes of the packets. -/
def Stream.Whole (packets : List Packet) (stream : Stream) : Prop :=
  ∃ codes, Packet.Codes packets codes ∧ stream.backlog = codes.flatten

section Stream
variable {stream : Stream} {packets : List Packet} {packet : Packet} {code : Bytes}

theorem Stream.whole_new : ({} : Stream).Whole [] :=
  ⟨[], List.Forall₂.nil, rfl⟩

theorem Stream.Whole.receive (h : stream.Whole packets) (hcode : packet.encode = .ok code)
    (now : Time) : (stream.receive code now).Whole (packets ++ [packet]) := by
  obtain ⟨codes, hcodes, hbacklog⟩ := h
  refine ⟨codes ++ [code], List.rel_append hcodes (.cons hcode .nil), ?_⟩
  rw [Stream.receive, hbacklog, List.flatten_append]
  simp

theorem Stream.Whole.unpack (h : stream.Whole packets) :
    unpack stream.backlog = ⟨packets, [], 0⟩ := by
  obtain ⟨codes, hcodes, hbacklog⟩ := h
  rw [hbacklog, unpack_codes hcodes]

theorem Stream.Whole.drain (h : stream.Whole packets) :
    stream.drain.1 = packets ∧ stream.drain.2.Whole [] := by
  unfold Stream.drain
  rw [h.unpack]
  exact ⟨rfl, [], List.Forall₂.nil, rfl⟩

end Stream

namespace Inbox
variable {inbox : Inbox} {key other : StreamKey} {packet : Packet} {bytes code : Bytes}
  {now : Time} {P Q : StreamKey → Packet → Prop}

theorem mem_feed {streams : List (StreamKey × Stream)} {entry : StreamKey × Stream}
    (h : entry ∈ feed key bytes now streams) :
    entry ∈ streams ∨ ∃ stream : Stream, (stream = {} ∨ (key, stream) ∈ streams) ∧
      entry = (key, stream.receive bytes now) := by
  induction streams with
  | nil => exact .inr ⟨{}, .inl rfl, List.mem_singleton.mp h⟩
  | cons first rest ih =>
    obtain ⟨other, stream⟩ := first
    unfold feed at h
    split at h
    · next hkey =>
      subst hkey
      rcases List.mem_cons.mp h with hfirst | hrest
      · exact .inr ⟨stream, .inr List.mem_cons_self, hfirst⟩
      · exact .inl (List.mem_cons_of_mem _ hrest)
    · split at h
      · rcases List.mem_cons.mp h with hfirst | hrest
        · exact .inr ⟨{}, .inl rfl, hfirst⟩
        · exact .inl hrest
      · rcases List.mem_cons.mp h with hfirst | hrest
        · exact .inl (hfirst ▸ List.mem_cons_self)
        · rcases ih hrest with hold | ⟨before, hbefore, hentry⟩
          · exact .inl (List.mem_cons_of_mem _ hold)
          · exact .inr ⟨before, hbefore.imp_right (List.mem_cons_of_mem _), hentry⟩

/-- The stream that is fed is in the inbox afterwards. -/
theorem exists_mem_feed (key : StreamKey) (bytes : Bytes) (now : Time)
    (streams : List (StreamKey × Stream)) :
    ∃ stream : Stream, (stream = {} ∨ (key, stream) ∈ streams) ∧
      (key, stream.receive bytes now) ∈ feed key bytes now streams := by
  induction streams with
  | nil => exact ⟨{}, .inl rfl, List.mem_singleton.mpr rfl⟩
  | cons first rest ih =>
    obtain ⟨other, stream⟩ := first
    unfold feed
    split
    · next hkey =>
      subst hkey
      exact ⟨stream, .inr List.mem_cons_self, List.mem_cons_self⟩
    · split
      · exact ⟨{}, .inl rfl, List.mem_cons_self⟩
      · obtain ⟨before, hbefore, hmem⟩ := ih
        exact ⟨before, hbefore.imp_right (List.mem_cons_of_mem _), List.mem_cons_of_mem _ hmem⟩

/-- A stream stays as it is or is the one that is fed. -/
theorem mem_feed_of_mem (key : StreamKey) (bytes : Bytes) (now : Time)
    {streams : List (StreamKey × Stream)} {stream : Stream} (h : (other, stream) ∈ streams) :
    (other, stream) ∈ feed key bytes now streams ∨
      other = key ∧ (other, stream.receive bytes now) ∈ feed key bytes now streams := by
  induction streams with
  | nil => exact absurd h List.not_mem_nil
  | cons first rest ih =>
    obtain ⟨label, front⟩ := first
    unfold feed
    split
    · next hkey =>
      subst hkey
      rcases List.mem_cons.mp h with hfirst | hrest
      · cases hfirst
        exact .inr ⟨rfl, List.mem_cons_self⟩
      · exact .inl (List.mem_cons_of_mem _ hrest)
    · split
      · exact .inl (List.mem_cons_of_mem _ h)
      · rcases List.mem_cons.mp h with hfirst | hrest
        · exact .inl (hfirst ▸ List.mem_cons_self)
        · rcases ih hrest with hold | ⟨hkey, hfed⟩
          · exact .inl (List.mem_cons_of_mem _ hold)
          · exact .inr ⟨hkey, List.mem_cons_of_mem _ hfed⟩

/-- Only whole packets wait in the inbox, and they have a property. -/
def Carries (P : StreamKey → Packet → Prop) (inbox : Inbox) : Prop :=
  ∀ entry ∈ inbox.streams, ∃ packets, entry.2.Whole packets ∧ ∀ packet ∈ packets, P entry.1 packet

/-- A packet waits in the inbox. -/
def Holds (key : StreamKey) (packet : Packet) (inbox : Inbox) : Prop :=
  ∃ stream packets, (key, stream) ∈ inbox.streams ∧ stream.Whole packets ∧ packet ∈ packets

theorem carries_new : ({} : Inbox).Carries P :=
  fun _ hentry => absurd hentry List.not_mem_nil

theorem Carries.mono (h : inbox.Carries P) (himp : ∀ key packet, P key packet → Q key packet) :
    inbox.Carries Q := by
  intro entry hentry
  obtain ⟨packets, hwhole, hall⟩ := h entry hentry
  exact ⟨packets, hwhole, fun packet hpacket => himp _ _ (hall packet hpacket)⟩

theorem Carries.receive (h : inbox.Carries P) (hcode : packet.encode = .ok code)
    (hpacket : P key packet) (now : Time) : (inbox.receive key code now).Carries P := by
  intro entry hentry
  rcases mem_feed hentry with hold | ⟨stream, hstream, hentry⟩
  · exact h entry hold
  · have hbefore : ∃ packets, stream.Whole packets ∧ ∀ packet ∈ packets, P key packet := by
      rcases hstream with hnew | hmem
      · exact ⟨[], hnew ▸ Stream.whole_new, fun _ hnone => absurd hnone List.not_mem_nil⟩
      · exact h (key, stream) hmem
    obtain ⟨packets, hwhole, hall⟩ := hbefore
    subst hentry
    refine ⟨packets ++ [packet], hwhole.receive hcode now, fun other hother => ?_⟩
    rcases List.mem_append.mp hother with hold | hnew
    · exact hall other hold
    · exact List.mem_singleton.mp hnew ▸ hpacket

theorem Carries.evictIdle (h : inbox.Carries P) (now : Time) (timeout : Nat) :
    (inbox.evictIdle now timeout).2.Carries P :=
  fun entry hentry => h entry (List.mem_of_mem_filter hentry)

/-- Nothing is left behind by a drain. -/
theorem Carries.process (h : inbox.Carries P) : inbox.process.2.Carries Q := by
  intro entry hentry
  obtain ⟨drained, hdrained, rfl⟩ := List.mem_map.mp hentry
  obtain ⟨⟨key, stream⟩, hmem, rfl⟩ := List.mem_map.mp hdrained
  obtain ⟨packets, hwhole, -⟩ := h (key, stream) hmem
  exact ⟨[], hwhole.drain.2, fun _ hnone => absurd hnone List.not_mem_nil⟩

theorem Carries.of_mem_batches (h : inbox.Carries P) {batch : Batch}
    (hbatch : batch ∈ inbox.process.1) (hpacket : packet ∈ batch.packets) : P batch.key packet := by
  obtain ⟨drained, hdrained, hsome⟩ := List.mem_filterMap.mp hbatch
  obtain ⟨⟨key, stream⟩, hmem, rfl⟩ := List.mem_map.mp hdrained
  obtain ⟨packets, hwhole, hall⟩ := h (key, stream) hmem
  simp only [hwhole.drain.1] at hsome
  split at hsome
  · cases hsome
  · cases hsome
    exact hall packet hpacket

theorem Holds.exists_batch (h : inbox.Holds key packet) :
    ∃ batch ∈ inbox.process.1, batch.key = key ∧ packet ∈ batch.packets := by
  obtain ⟨stream, packets, hmem, hwhole, hpacket⟩ := h
  refine ⟨⟨key, packets⟩, List.mem_filterMap.mpr
    ⟨(key, stream.drain), List.mem_map.mpr ⟨(key, stream), hmem, rfl⟩, ?_⟩, rfl, hpacket⟩
  have hsome : packets.isEmpty = false := by
    cases packets with
    | nil => exact absurd hpacket List.not_mem_nil
    | cons first rest => rfl
  simp only [hwhole.drain.1, hsome]
  rfl

theorem Holds.receive (h : inbox.Holds other packet) {arrived : Packet}
    (hcode : arrived.encode = .ok code) (key : StreamKey) (now : Time) :
    (inbox.receive key code now).Holds other packet := by
  obtain ⟨stream, packets, hmem, hwhole, hpacket⟩ := h
  rcases mem_feed_of_mem key code now hmem with hold | ⟨-, hfed⟩
  · exact ⟨stream, packets, hold, hwhole, hpacket⟩
  · exact ⟨_, _, hfed, hwhole.receive hcode now, List.mem_append_left _ hpacket⟩

theorem Carries.holds_receive (h : inbox.Carries P) (hcode : packet.encode = .ok code)
    (key : StreamKey) (now : Time) : (inbox.receive key code now).Holds key packet := by
  obtain ⟨stream, hstream, hfed⟩ := exists_mem_feed key code now inbox.streams
  have hbefore : ∃ packets, stream.Whole packets := by
    rcases hstream with hnew | hmem
    · exact ⟨[], hnew ▸ Stream.whole_new⟩
    · obtain ⟨packets, hwhole, -⟩ := h (key, stream) hmem
      exact ⟨packets, hwhole⟩
  obtain ⟨packets, hwhole⟩ := hbefore
  exact ⟨_, _, hfed, hwhole.receive hcode now,
    List.mem_append_right _ (List.mem_singleton.mpr rfl)⟩

end Inbox
end RouteDiscovery

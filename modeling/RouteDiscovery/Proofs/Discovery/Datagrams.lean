import Mathlib.Data.List.Flatten
import RouteDiscovery.Proofs.Adapter.Lookup
import RouteDiscovery.Proofs.Discovery.Round
import RouteDiscovery.Proofs.Packet.Exact

/-!
The datagrams of a round. Each holds one discovery; on an adapter they list no announced route
twice, and there is one at all just if a message of the partition fits a packet.
-/
namespace RouteDiscovery
open Wire

section Link
variable {σ : Type}

/-- The link with a record of all that it is handed, taken or not. -/
def Link.overheard (link : Link σ) : Link (σ × List Datagram) where
  send datagram state :=
    let (result, next) := link.send datagram state.1
    (result, next, state.2 ++ [datagram])

/-- The link makes no difference to what it is handed. -/
theorem Link.transmit_overheard (link : Link σ) (datagrams : List Datagram) (state : σ)
    (handed : List Datagram) :
    link.overheard.transmit datagrams (state, handed) =
      ((link.transmit datagrams state).1, (link.transmit datagrams state).2,
        handed ++ datagrams) := by
  unfold transmit
  generalize 0 = count
  induction datagrams generalizing count state handed with
  | nil => simp
  | cons datagram rest ih =>
    have hsend : link.overheard.send datagram (state, handed) =
      ((link.send datagram state).1, (link.send datagram state).2, handed ++ [datagram]) := rfl
    simp only [List.foldl_cons, hsend]
    rcases link.send datagram state with ⟨fault | taken, next⟩
    · simpa using ih next (handed ++ [datagram]) count
    · simpa using ih next (handed ++ [datagram]) (count + 1)

end Link

/-- The node that an entry is about. -/
def NodeEntry.node (entry : NodeEntry) : NodeIdentity :=
  ⟨entry.id, entry.address⟩

@[simp] theorem Route.node_entry (hop : UInt16) (route : Route) :
    (route.entry hop).node = route.key.node := rfl

namespace Datagram
variable {datagram : Datagram} {message : Discovery}

/-- The discovery in a datagram that holds just that. -/
def discovery? (datagram : Datagram) : Option Discovery :=
  match Packet.decode datagram.bytes with
  | .ok ⟨[.discovery message]⟩ => some message
  | _ => none

theorem discovery?_of_decode
    (h : Packet.decode datagram.bytes = .ok (.ofMessage (.discovery message))) :
    datagram.discovery? = some message := by
  simp [discovery?, h, Packet.ofMessage]

/-- The entries that some datagrams list on an adapter, in the order in which they are sent. -/
def listed (id : AdapterId) (datagrams : List Datagram) : List NodeEntry :=
  ((datagrams.filter fun datagram => datagram.target = .multicast id).filterMap
    discovery?).flatMap (·.nodes)

end Datagram

namespace Partition

/-- Only a group that is being filled can be empty. -/
theorem Filling.ne_nil_add {budget : Nat} {filling : Filling}
    (h : ∀ group ∈ filling.complete.toList, group ≠ []) (entry : NodeEntry) :
    ∀ group ∈ (filling.add budget entry).groups, group ≠ [] := by
  intro group hgroup
  rcases filling.add_cases budget entry with ⟨hused, -, hadd⟩ | ⟨-, hadd⟩
  · simp only [hadd, groups, Array.toList_push, List.mem_append, List.mem_singleton] at hgroup
    rcases hgroup with (hcomplete | rfl) | rfl
    · exact h group hcomplete
    · simpa using hused
    · simp
  · simp only [hadd, groups, Array.toList_push, List.mem_append, List.mem_singleton] at hgroup
    rcases hgroup with hcomplete | rfl
    · exact h group hcomplete
    · simp

theorem Filling.ne_nil_foldl {budget : Nat} {filling : Filling}
    (h : ∀ group ∈ filling.groups, group ≠ []) (entries : List NodeEntry) :
    ∀ group ∈ (entries.foldl (Filling.add budget) filling).groups, group ≠ [] := by
  induction entries generalizing filling with
  | nil => exact h
  | cons entry rest ih =>
    apply ih
    exact ne_nil_add (fun group hgroup => h group (List.mem_append_left _ hgroup)) entry

end Partition

namespace Discovery
variable {sender : UInt16} {budget : Nat} {entries : List NodeEntry} {message : Discovery}

/-- A message lists nothing only if there is nothing to list. -/
theorem nodes_ne_nil_of_mem_partition (h : message ∈ partition sender budget entries)
    (hentries : entries ≠ []) : message.nodes ≠ [] := by
  rw [partition_eq] at h
  obtain ⟨nodes, hnodes, rfl⟩ := List.mem_map.mp h
  obtain ⟨entry, rest, rfl⟩ := List.exists_cons_of_ne_nil hentries
  apply Partition.Filling.ne_nil_foldl _ rest nodes hnodes
  apply Partition.Filling.ne_nil_add
  simp

/-- Within a budget that a packet can hold, some message fits a packet just if there is nothing to
list or an entry that fits one on its own. -/
theorem exists_fits_iff (hbudget : budget ≤ Packet.maxSize) :
    (∃ message ∈ partition sender budget entries,
        (Packet.ofMessage (.discovery message)).size ≤ Packet.maxSize) ↔
      entries = [] ∨ ∃ entry ∈ entries, Partition.emptySize + entry.size ≤ Packet.maxSize := by
  constructor
  · rintro ⟨message, hmessage, hsize⟩
    by_cases hentries : entries = []
    · exact .inl hentries
    · obtain ⟨entry, hentry⟩ :=
        List.exists_mem_of_ne_nil _ (nodes_ne_nil_of_mem_partition hmessage hentries)
      have hle := le_total_of_mem (List.mem_map_of_mem (f := NodeEntry.size) hentry)
      rw [size_packet] at hsize
      exact .inr ⟨entry, mem_entries_of_mem_partition hmessage hentry, by omega⟩
  · rintro (rfl | ⟨entry, hentry, hsize⟩)
    · exact ⟨⟨sender, []⟩, by simp [partition], by simp [size_packet]; decide⟩
    · obtain ⟨message, hmessage, hmem⟩ :
          ∃ message ∈ partition sender budget entries, entry ∈ message.nodes :=
        exists_mem_partition hentry
      refine ⟨message, hmessage, ?_⟩
      rcases size_le_of_mem_partition hmessage with hsingle | hfits
      · -- The entry has the message to itself.
        obtain ⟨other, hother⟩ : ∃ other, message.nodes = [other] :=
          List.length_eq_one_iff.mp (Nat.le_antisymm hsingle (List.length_pos_of_mem hmem))
        rw [hother, List.mem_singleton] at hmem
        rw [size_packet, hother, ← hmem]
        simpa using hsize
      · exact Nat.le_trans hfits hbudget

end Discovery

namespace Schedule
variable {sender : UInt16} {routes : RouteTable} {adapter : Adapter} {adapters : AdapterTable}
  {datagram : Datagram}

/-- Something is sent on an adapter just if one of the messages for it fits a packet. -/
theorem exists_announcement_iff :
    (∃ datagram, datagram ∈ announcements sender routes adapter) ↔
      ∃ message ∈ Discovery.partition sender (adapter.mtu - datagramOverhead)
          ((routes.announced adapter.id).map (·.entry hopCost)),
        (Packet.ofMessage (.discovery message)).size ≤ Packet.maxSize := by
  constructor
  · rintro ⟨datagram, hdatagram⟩
    obtain ⟨message, hmessage, hencode, -⟩ := mem_announcements.mp hdatagram
    exact ⟨message, hmessage, (Packet.encode_eq_ok_iff.mp hencode).1⟩
  · rintro ⟨message, hmessage, hsize⟩
    obtain ⟨bytes, hencode⟩ := Packet.exists_encode hsize
    exact ⟨⟨.multicast adapter.id, bytes⟩,
      mem_announcements.mpr ⟨message, hmessage, hencode, rfl⟩⟩

/-- Where the datagrams are no larger than a packet, something is sent just if there is nothing to
tell or a route whose path, with the hop that is added to it, fits a packet on its own. -/
theorem exists_announcement_iff_path (hmtu : adapter.mtu ≤ 65564) :
    (∃ datagram, datagram ∈ announcements sender routes adapter) ↔
      routes.announced adapter.id = [] ∨
        ∃ route ∈ routes.announced adapter.id, route.path.length ≤ 32753 := by
  have hbudget : adapter.mtu - datagramOverhead ≤ Packet.maxSize := by
    unfold datagramOverhead Packet.maxSize
    omega
  have hsize (route : Route) :
      Partition.emptySize + (route.entry hopCost).size ≤ Packet.maxSize ↔
        route.path.length ≤ 32753 := by
    simp only [Partition.emptySize, NodeEntry.size, Route.entry, List.length_append,
      List.length_singleton, Packet.maxSize]
    omega
  rw [exists_announcement_iff, Discovery.exists_fits_iff hbudget]
  simp [hsize]

/-- The discoveries that are sent on an adapter are those of its messages that fit a packet. -/
theorem discoveries_announcements (sender : UInt16) (routes : RouteTable) (adapter : Adapter) :
    (announcements sender routes adapter).filterMap Datagram.discovery? =
      (Discovery.partition sender (adapter.mtu - datagramOverhead)
        ((routes.announced adapter.id).map (·.entry hopCost))).filter fun message =>
          (Packet.ofMessage (.discovery message)).size ≤ Packet.maxSize := by
  simp only [announcements]
  generalize Discovery.partition sender (adapter.mtu - datagramOverhead)
    ((routes.announced adapter.id).map (·.entry hopCost)) = messages
  induction messages with
  | nil => rfl
  | cons message rest ih =>
    cases hencode : (Packet.ofMessage (.discovery message)).encode with
    | error fault =>
      have hsize : ¬ (Packet.ofMessage (.discovery message)).size ≤ Packet.maxSize := by
        intro hfits
        obtain ⟨bytes, hbytes⟩ := Packet.exists_encode hfits
        rw [hencode] at hbytes
        cases hbytes
      simpa [List.filterMap_cons, hencode, List.filter_cons, hsize] using ih
    | ok bytes =>
      have hsize := (Packet.encode_eq_ok_iff.mp hencode).1
      have hdecode : Datagram.discovery? ⟨.multicast adapter.id, bytes⟩ = some message :=
        Datagram.discovery?_of_decode (Packet.decode_eq_ok_iff.mpr hencode)
      simpa [List.filterMap_cons, hencode, List.filter_cons, hsize, hdecode] using ih

theorem target_of_mem_announcements (h : datagram ∈ announcements sender routes adapter) :
    datagram.target = .multicast adapter.id := by
  obtain ⟨message, -, -, htarget⟩ := mem_announcements.mp h
  exact htarget

/-- Nothing is sent on an adapter that is not in the list. -/
theorem filter_flatMap_announcements {id : AdapterId} {usable : List Adapter}
    (h : ∀ adapter ∈ usable, adapter.id ≠ id) :
    (usable.flatMap (announcements sender routes)).filter
      (fun datagram => datagram.target = .multicast id) = [] := by
  rw [List.filter_eq_nil_iff]
  intro datagram hdatagram
  obtain ⟨adapter, hadapter, hmem⟩ := List.mem_flatMap.mp hdatagram
  simpa [target_of_mem_announcements hmem] using h adapter hadapter

/-- What a round sends on an adapter are the announcements for it. -/
theorem filter_round (hids : (adapters.adapters.map (·.id)).Nodup)
    (hadapter : adapter ∈ adapters.usable) :
    (round sender routes adapters).filter
        (fun datagram => datagram.target = .multicast adapter.id) =
      announcements sender routes adapter := by
  have husable : (adapters.usable.map (·.id)).Nodup := hids.sublist (List.filter_sublist.map _)
  obtain ⟨front, back, hsplit⟩ := List.append_of_mem hadapter
  rw [hsplit, List.map_append, List.map_cons, List.nodup_append, List.nodup_cons] at husable
  obtain ⟨-, ⟨hback, -⟩, hfront⟩ := husable
  have hown : (announcements sender routes adapter).filter
      (fun datagram => datagram.target = .multicast adapter.id) =
        announcements sender routes adapter := by
    rw [List.filter_eq_self]
    exact fun datagram hdatagram => decide_eq_true (target_of_mem_announcements hdatagram)
  rw [round, hsplit, List.flatMap_append, List.flatMap_cons, List.filter_append,
    List.filter_append, hown, filter_flatMap_announcements, filter_flatMap_announcements,
    List.nil_append, List.append_nil]
  · intro other hother hsame
    exact hback (List.mem_map.mpr ⟨other, hother, hsame⟩)
  · intro other hother
    exact hfront other.id (List.mem_map_of_mem hother) adapter.id List.mem_cons_self

/-- What a round lists on an adapter are the nodes of the messages that fit a packet. -/
theorem listed_round (hids : (adapters.adapters.map (·.id)).Nodup)
    (hadapter : adapter ∈ adapters.usable) :
    Datagram.listed adapter.id (round sender routes adapters) =
      ((Discovery.partition sender (adapter.mtu - datagramOverhead)
        ((routes.announced adapter.id).map (·.entry hopCost))).filter fun message =>
          (Packet.ofMessage (.discovery message)).size ≤ Packet.maxSize).flatMap (·.nodes) := by
  rw [Datagram.listed, filter_round hids hadapter, discoveries_announcements]

/-- No node is listed twice on an adapter, over all datagrams of a round. -/
theorem nodup_listed_round (hids : (adapters.adapters.map (·.id)).Nodup) (id : AdapterId) :
    ((Datagram.listed id (round sender routes adapters)).map (·.node)).Nodup := by
  by_cases husable : ∃ adapter ∈ adapters.usable, adapter.id = id
  · obtain ⟨adapter, hadapter, rfl⟩ := husable
    have hlisted : (Datagram.listed adapter.id (round sender routes adapters)).Sublist
        ((routes.announced adapter.id).map (·.entry hopCost)) := by
      rw [listed_round hids hadapter]
      conv => right; rw [← Discovery.nodes_partition sender (adapter.mtu - datagramOverhead)
        ((routes.announced adapter.id).map (·.entry hopCost))]
      exact List.filter_sublist.flatMap _
    have hnodes := (routes.selects_announced adapter.id).nodup
    refine (hlisted.map (·.node)).nodup ?_
    simpa [List.map_map, Function.comp_def] using hnodes
  · push Not at husable
    rw [Datagram.listed, round, filter_flatMap_announcements husable]
    exact List.nodup_nil

end Schedule
end RouteDiscovery

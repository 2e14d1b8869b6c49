import RouteDiscovery.Discovery.Schedule
import RouteDiscovery.Proofs.Route.Selection

/-!
What a round of announcements tells: on each adapter one route for every node that is online
elsewhere, spread over messages that together list each of them once.
-/
namespace RouteDiscovery

namespace Partition

/-- The groups so far, the one that is being filled last. -/
def Filling.groups (filling : Filling) : List (List NodeEntry) :=
  filling.complete.toList ++ [filling.current.toList]

/-- An entry begins a new group if the current one is in use and has no room for it. Otherwise it
goes into the current group. -/
theorem Filling.add_cases (budget : Nat) (filling : Filling) (entry : NodeEntry) :
    (filling.current ≠ #[] ∧
        (budget < filling.size + entry.size ∨ filling.current.size = maxNodes) ∧
        filling.add budget entry =
          ⟨filling.complete.push filling.current.toList, #[entry], emptySize + entry.size⟩) ∨
      ((filling.current = #[] ∨
          filling.size + entry.size ≤ budget ∧ filling.current.size ≠ maxNodes) ∧
        filling.add budget entry =
          ⟨filling.complete, filling.current.push entry, filling.size + entry.size⟩) := by
  unfold add
  split_ifs with hfull
  · left
    simp only [Bool.and_eq_true, Bool.or_eq_true, decide_eq_true_eq, beq_iff_eq,
      Bool.not_eq_true', Array.isEmpty_eq_false_iff] at hfull
    exact ⟨hfull.2, hfull.1, rfl⟩
  · right
    refine ⟨?_, rfl⟩
    by_cases hempty : filling.current = #[]
    · exact .inl hempty
    · right
      simpa [hempty] using hfull

theorem Filling.flatten_groups_add (budget : Nat) (filling : Filling) (entry : NodeEntry) :
    (filling.add budget entry).groups.flatten = filling.groups.flatten ++ [entry] := by
  rcases filling.add_cases budget entry with ⟨-, -, hadd⟩ | ⟨-, hadd⟩
  · simp [hadd, groups]
  · simp [hadd, groups]

theorem Filling.flatten_groups_foldl (budget : Nat) (entries : List NodeEntry)
    (filling : Filling) :
    (entries.foldl (Filling.add budget) filling).groups.flatten =
      filling.groups.flatten ++ entries := by
  induction entries generalizing filling with
  | nil => rw [List.append_nil]; rfl
  | cons entry rest ih =>
    rw [List.foldl_cons, ih, flatten_groups_add, List.append_assoc, List.singleton_append]

/-- Each group takes at most the budget or has a single entry. -/
structure Filling.Fits (budget : Nat) (filling : Filling) : Prop where
  complete : ∀ group ∈ filling.complete.toList,
    group.length ≤ 1 ∨ emptySize + total (group.map NodeEntry.size) ≤ budget
  size_eq : filling.size = emptySize + total (filling.current.toList.map NodeEntry.size)
  current : filling.current.size ≤ 1 ∨ filling.size ≤ budget

theorem Filling.fits_new (budget : Nat) : ({} : Filling).Fits budget :=
  ⟨fun _ hgroup => absurd hgroup List.not_mem_nil, rfl, .inl (Nat.zero_le 1)⟩

theorem Filling.Fits.add {budget : Nat} {filling : Filling} (h : filling.Fits budget)
    (entry : NodeEntry) : (filling.add budget entry).Fits budget := by
  rcases filling.add_cases budget entry with ⟨-, -, hadd⟩ | ⟨hroom, hadd⟩
  · rw [hadd]
    refine ⟨fun group hgroup => ?_, by simp, .inl (Nat.le_refl 1)⟩
    rw [Array.toList_push] at hgroup
    rcases List.mem_append.mp hgroup with hold | hnew
    · exact h.complete group hold
    · rw [List.mem_singleton.mp hnew, ← h.size_eq]
      exact h.current
  · rw [hadd]
    refine ⟨h.complete, ?_, ?_⟩
    · simp only [h.size_eq, Array.toList_push, List.map_append, total_append, List.map_cons,
        List.map_nil, total_cons, total_nil]
      omega
    · rcases hroom with hempty | ⟨hsize, -⟩
      · left
        simp [hempty]
      · exact .inr hsize

theorem Filling.Fits.foldl {budget : Nat} {filling : Filling} (h : filling.Fits budget)
    (entries : List NodeEntry) : (entries.foldl (Filling.add budget) filling).Fits budget := by
  induction entries generalizing filling with
  | nil => exact h
  | cons entry rest ih => exact ih (h.add entry)

end Partition

namespace Discovery
variable {sender : UInt16} {budget : Nat} {entries : List NodeEntry} {message : Discovery}

theorem partition_eq (sender : UInt16) (budget : Nat) (entries : List NodeEntry) :
    partition sender budget entries =
      (entries.foldl (Partition.Filling.add budget) {}).groups.map
        fun nodes => ⟨sender, nodes⟩ := by
  rw [partition, Partition.Filling.groups, Array.toList_push]

/-- The messages list all entries, in their order. -/
theorem nodes_partition (sender : UInt16) (budget : Nat) (entries : List NodeEntry) :
    (partition sender budget entries).flatMap (·.nodes) = entries := by
  rw [partition_eq, List.flatMap_map, List.flatMap_id', Partition.Filling.flatten_groups_foldl]
  rfl

theorem sender_of_mem_partition (h : message ∈ partition sender budget entries) :
    message.sender = sender := by
  rw [partition_eq] at h
  obtain ⟨nodes, -, rfl⟩ := List.mem_map.mp h
  rfl

theorem mem_entries_of_mem_partition (h : message ∈ partition sender budget entries)
    {entry : NodeEntry} (hentry : entry ∈ message.nodes) : entry ∈ entries := by
  rw [← nodes_partition sender budget entries]
  exact List.mem_flatMap_of_mem h hentry

theorem exists_mem_partition {entry : NodeEntry} (h : entry ∈ entries) :
    ∃ message ∈ partition sender budget entries, entry ∈ message.nodes := by
  rw [← nodes_partition sender budget entries] at h
  exact List.mem_flatMap.mp h

theorem exists_partition (sender : UInt16) (budget : Nat) (entries : List NodeEntry) :
    ∃ message, message ∈ partition sender budget entries := by
  rw [partition_eq]
  exact ⟨_, List.mem_map_of_mem (List.mem_append_right _ (List.mem_singleton.mpr rfl))⟩

theorem size_packet (message : Discovery) : (Packet.ofMessage (.discovery message)).size =
    Partition.emptySize + total (message.nodes.map NodeEntry.size) := by
  simp only [Packet.size, Packet.ofMessage, Message.size, Message.bodySize, List.map_cons,
    List.map_nil, total_cons, total_nil, Partition.emptySize]
  omega

/-- A message with several entries makes a packet within the budget. -/
theorem size_le_of_mem_partition (h : message ∈ partition sender budget entries) :
    message.nodes.length ≤ 1 ∨ (Packet.ofMessage (.discovery message)).size ≤ budget := by
  have hfits := (Partition.Filling.fits_new budget).foldl entries
  rw [partition_eq] at h
  obtain ⟨nodes, hnodes, rfl⟩ := List.mem_map.mp h
  rw [size_packet]
  rcases List.mem_append.mp hnodes with hcomplete | hcurrent
  · exact hfits.complete nodes hcomplete
  · rw [List.mem_singleton.mp hcurrent, ← hfits.size_eq]
    exact hfits.current

end Discovery

namespace Schedule
variable {sender : UInt16} {routes : RouteTable} {adapter : Adapter} {datagram : Datagram}

theorem mem_announcements : datagram ∈ announcements sender routes adapter ↔
    ∃ message ∈ Discovery.partition sender (adapter.mtu - datagramOverhead)
        ((routes.announced adapter.id).map (·.entry hopCost)),
      (Packet.ofMessage (.discovery message)).encode = .ok datagram.bytes ∧
        datagram.target = .multicast adapter.id := by
  unfold announcements
  rw [List.mem_filterMap]
  refine exists_congr fun message => and_congr_right fun _ => ?_
  cases hencode : (Packet.ofMessage (.discovery message)).encode with
  | error fault => simp
  | ok bytes =>
    obtain ⟨target, content⟩ := datagram
    simp [eq_comm, and_comm]

/-- What a datagram of a round says, and of which routes. -/
theorem of_mem_round {adapters : AdapterTable} (h : datagram ∈ round sender routes adapters) :
    ∃ adapter ∈ adapters.usable, ∃ message : Discovery,
      datagram.target = .multicast adapter.id ∧
      (Packet.ofMessage (.discovery message)).encode = .ok datagram.bytes ∧
      message.sender = sender ∧ ∀ entry ∈ message.nodes,
        ∃ route ∈ routes.candidates adapter.id, entry = route.entry hopCost := by
  obtain ⟨adapter, hadapter, hmem⟩ := List.mem_flatMap.mp h
  obtain ⟨message, hmessage, hencode, htarget⟩ := mem_announcements.mp hmem
  refine ⟨adapter, hadapter, message, htarget, hencode,
    Discovery.sender_of_mem_partition hmessage, fun entry hentry => ?_⟩
  obtain ⟨route, hroute, rfl⟩ :=
    List.mem_map.mp (Discovery.mem_entries_of_mem_partition hmessage hentry)
  exact ⟨route, RouteTable.mem_candidates_of_announced hroute, rfl⟩

theorem mem_round_of_mem_plan {now : Time} {adapters : AdapterTable} {schedule : Schedule}
    (h : datagram ∈ (schedule.plan now sender routes adapters).1) :
    datagram ∈ round sender routes adapters := by
  unfold plan at h
  split at h
  · exact h
  · exact absurd h List.not_mem_nil

end Schedule
end RouteDiscovery

import Mathlib.Data.List.Chain
import RouteDiscovery.Proofs.Discovery.Datagrams

/-!
The partition of entries into messages is greedy: no entry is lost, doubled or moved, a message with
several entries keeps to the budget, and no message could have taken the first entry of the next.
-/
namespace RouteDiscovery

namespace Partition
variable {budget : Nat} {filling : Filling} {earlier later : List NodeEntry}

/-- The later group begins with an entry that the earlier one had no room for. -/
def Overflows (budget : Nat) (earlier later : List NodeEntry) : Prop :=
  ∃ entry rest, later = entry :: rest ∧
    (budget < emptySize + total ((earlier ++ [entry]).map NodeEntry.size) ∨
      maxNodes < (earlier ++ [entry]).length)

/-- What comes behind the first entry of a group does not matter. -/
theorem Overflows.append (h : Overflows budget earlier later) (more : List NodeEntry) :
    Overflows budget earlier (later ++ more) := by
  obtain ⟨entry, rest, rfl, hfull⟩ := h
  exact ⟨entry, rest ++ more, rfl, hfull⟩

/-- An entry either has no room in the current group and begins another one, or the current group is
not full and takes it. -/
theorem Filling.Fits.groups_add (h : filling.Fits budget) (entry : NodeEntry) :
    (Overflows budget filling.current.toList [entry] ∧
        (filling.add budget entry).groups = filling.groups ++ [[entry]]) ∨
      (filling.current.size ≠ maxNodes ∧
        (filling.add budget entry).groups =
          filling.complete.toList ++ [filling.current.toList ++ [entry]]) := by
  rcases filling.add_cases budget entry with ⟨-, hfull, hadd⟩ | ⟨hroom, hadd⟩
  · left
    refine ⟨⟨entry, [], rfl, ?_⟩, by simp [hadd, groups]⟩
    rcases hfull with hsize | hcount
    · left
      rw [h.size_eq] at hsize
      simp only [List.map_append, List.map_singleton, total_append, total_cons, total_nil]
      omega
    · right
      simp [hcount]
  · right
    refine ⟨?_, by simp [hadd, groups]⟩
    rcases hroom with hempty | ⟨-, hcount⟩
    · simp [hempty, maxNodes]
    · exact hcount

/-- The groups are short enough, and each begins with what the one before it had no room for. -/
structure Filling.Greedy (budget : Nat) (filling : Filling) : Prop where
  short : ∀ group ∈ filling.groups, group.length ≤ maxNodes
  chain : filling.groups.IsChain (Overflows budget)

theorem Filling.greedy_new (budget : Nat) : ({} : Filling).Greedy budget := by
  constructor
  · simp [groups]
  · exact List.isChain_singleton _

theorem Filling.Greedy.add (h : filling.Greedy budget) (hfits : filling.Fits budget)
    (entry : NodeEntry) : (filling.add budget entry).Greedy budget := by
  have hcurrent : filling.current.size ≤ maxNodes :=
    h.short filling.current.toList (List.mem_append_right _ (List.mem_singleton.mpr rfl))
  rcases hfits.groups_add entry with ⟨hfull, hgroups⟩ | ⟨hroom, hgroups⟩
  · constructor
    · rw [hgroups]
      intro group hgroup
      rcases List.mem_append.mp hgroup with hold | hnew
      · exact h.short group hold
      · rw [List.mem_singleton.mp hnew]
        simp [maxNodes]
    · rw [hgroups]
      apply h.chain.append (List.isChain_singleton _)
      simpa [groups] using hfull
  · constructor
    · rw [hgroups]
      intro group hgroup
      rcases List.mem_append.mp hgroup with hold | hnew
      · exact h.short group (List.mem_append_left _ hold)
      · rw [List.mem_singleton.mp hnew, List.length_append, List.length_singleton,
          Array.length_toList]
        omega
    · obtain ⟨hcomplete, -, hlink⟩ := List.isChain_append.mp h.chain
      rw [hgroups]
      apply hcomplete.append (List.isChain_singleton _)
      intro last hlast next hnext
      obtain rfl : filling.current.toList ++ [entry] = next := by simpa using hnext
      exact (hlink last hlast _ rfl).append [entry]

theorem Filling.Greedy.foldl (h : filling.Greedy budget) (hfits : filling.Fits budget)
    (entries : List NodeEntry) : (entries.foldl (Filling.add budget) filling).Greedy budget := by
  induction entries generalizing filling with
  | nil => exact h
  | cons entry rest ih => exact ih (h.add hfits entry) (hfits.add entry)

end Partition

namespace Discovery

/-- For every sender, budget and list of entries there is a message, each has the sender and no more
nodes than can be counted, and together they list the entries in order. A message without nodes
occurs only alone. A message of several entries keeps to the budget, and so does one of a single
entry that can. The first entry of a message would not have fitted the message before it. -/
theorem partition_greedy (sender : UInt16) (budget : Nat) (entries : List NodeEntry) :
    let messages := partition sender budget entries
    let size (message : Discovery) := (Packet.ofMessage (.discovery message)).size
    messages ≠ [] ∧
      (∀ message ∈ messages, message.sender = sender ∧ message.nodes.length ≤ 65535) ∧
      messages.flatMap (·.nodes) = entries ∧
      (entries = [] → messages = [⟨sender, []⟩]) ∧
      (entries ≠ [] → ∀ message ∈ messages, message.nodes ≠ []) ∧
      (∀ message ∈ messages, 2 ≤ message.nodes.length → size message ≤ budget) ∧
      (∀ message ∈ messages, ∀ entry, message.nodes = [entry] →
        Partition.emptySize + entry.size ≤ budget → size message ≤ budget) ∧
      messages.IsChain fun earlier later => ∃ entry rest, later.nodes = entry :: rest ∧
        (budget < size ⟨sender, earlier.nodes ++ [entry]⟩ ∨
          65535 < (earlier.nodes ++ [entry]).length) := by
  intro messages size
  have hgreedy := (Partition.Filling.greedy_new budget).foldl
    (Partition.Filling.fits_new budget) entries
  have hmessages : messages =
      (entries.foldl (Partition.Filling.add budget) {}).groups.map fun nodes => ⟨sender, nodes⟩ :=
    partition_eq sender budget entries
  refine ⟨?_, fun message hmessage => ⟨sender_of_mem_partition hmessage, ?_⟩,
    nodes_partition sender budget entries, ?_,
    fun hentries message hmessage => nodes_ne_nil_of_mem_partition hmessage hentries, ?_, ?_, ?_⟩
  · obtain ⟨message, hmessage⟩ := exists_partition sender budget entries
    exact List.ne_nil_of_mem hmessage
  · rw [hmessages] at hmessage
    obtain ⟨nodes, hnodes, rfl⟩ := List.mem_map.mp hmessage
    exact hgreedy.short nodes hnodes
  · rintro rfl
    rfl
  · intro message hmessage hseveral
    exact (size_le_of_mem_partition hmessage).resolve_left (by omega)
  · intro message _ entry hnodes hfits
    simpa only [size, size_packet, hnodes, List.map_singleton, total_cons, total_nil,
      Nat.add_zero] using hfits
  · rw [hmessages, List.isChain_map]
    apply hgreedy.chain.imp
    rintro earlier later ⟨entry, rest, rfl, hfull⟩
    refine ⟨entry, rest, rfl, ?_⟩
    simp only [size, size_packet]
    exact hfull

/-- The second entry exceeds every packet of the budget. -/
example : (partition 1 60 [⟨2, ⟨2⟩, [256]⟩, ⟨3, ⟨3⟩, List.replicate 30 256⟩, ⟨4, ⟨4⟩, [256]⟩,
    ⟨5, ⟨5⟩, [256]⟩, ⟨6, ⟨6⟩, [256]⟩, ⟨7, ⟨7⟩, [256]⟩, ⟨8, ⟨8⟩, [256]⟩]).map (·.nodes.length) =
      [1, 1, 4, 1] := by
  decide +kernel

end Discovery
end RouteDiscovery

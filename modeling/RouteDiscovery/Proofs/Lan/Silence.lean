import Mathlib.Data.List.Nodup
import Mathlib.Data.List.Perm.Subperm
import RouteDiscovery.Proofs.Lan.Run

/-!
A station that is not polled any more is given up by each other one, at the latest 120 seconds later
for each station there is, if its reports come there over no more stations than there are. A report
that has come over `k` stations is heard at most 110001 milliseconds later than one that has come
over `k - 1`: it is told for as long as the route is online, and its receiver is polled within the
next window.
-/
namespace RouteDiscovery
open Wire

/-- The message, when it comes from the address, tells of a node. -/
def Discovery.Mentions (message : Discovery) (address : Address) (who : NodeIdentity) : Prop :=
  who = ⟨message.sender, address⟩ ∨
    ∃ entry ∈ message.nodes, who = ⟨entry.id, entry.address⟩

namespace Lan

/-- The stations that a report of station `d` can pass, the latest first, and the adapter on which
it comes in there: the first station hears `d`, each leaves out the adapter where it heard, and `d`
itself passes nothing on. -/
inductive Chain (lan : Lan) (d : Nat) : List Nat → Nat → AdapterId → Prop where
  | heard {out into : AdapterId} {j : Nat} : lan.Hears d out j into → Chain lan d [j] j into
  | passed {visited : List Nat} {i j : Nat} {via out into : AdapterId} :
    Chain lan d visited i via → i ≠ d → out ≠ via → lan.Hears i out j into →
      Chain lan d (j :: visited) j into

section Polls
variable {stations d i : Nat} {t₀ now : Time} {front back : List (Nat × Time)}

end Polls

/-- Station 0 is polled once, then each of the given ones at the start of every 20 seconds. -/
def rounds (stations : List Nat) : Nat → List (Nat × Time)
  | 0 => [(0, 0)]
  | n + 1 => rounds stations n ++ stations.map fun i => (i, 20000 * (n : Int))

section Rounds
variable {stations : List Nat} {n : Nat}

end Rounds

/-- What may wait at station `i` in a run: discoveries, and of those that tell of `who` there is a
chain, and the station was not polled since a time that the chain bounds. -/
def Timely (base : Lan) (d : Nat) (t₀ : Time) (who : NodeIdentity) (polled : List (Nat × Time))
    (i : Nat) (key : StreamKey) (packet : Packet) : Prop :=
  ∃ message, packet = Packet.ofMessage (.discovery message) ∧
    (message.Mentions key.sender.address who → ∀ station adapter, base.station? i = some station →
      station.node.adapters.owner? key.sender.address = none →
      station.node.adapters.owner? key.recipient = some adapter →
      ∃ visited, base.Chain d visited i adapter.id ∧
        ∀ poll ∈ polled, poll.1 = i → poll.2 ≤ t₀ + 110001 * (visited.length : Int) - 110001)

section Run
variable {base lan : Lan} {d i : Nat} {t₀ now : Time} {who : NodeIdentity}
  {front back : List (Nat × Time)} {station : Station}

theorem Chain.mem_lt {visited : List Nat} {id : AdapterId} (h : base.Chain d visited i id) :
    ∀ j ∈ visited, j < base.stations.size := by
  have hreceiver {i j : Nat} {out into : AdapterId} (h : base.Hears i out j into) :
      j < base.stations.size := by
    obtain ⟨_, _, _, _, _, -, -, -, -, hstation, -⟩ := h
    exact lt_size_of_station? hstation
  induction h with
  | heard hhears =>
    intro j hj
    rw [List.mem_singleton.mp hj]
    exact hreceiver hhears
  | passed _ _ _ hhears ih =>
    intro j hj
    rcases List.mem_cons.mp hj with hlast | hbefore
    · rw [hlast]
      exact hreceiver hhears
    · exact ih j hbefore

/-- A chain that passes no station twice is no longer than there are stations. -/
theorem Chain.length_le {visited : List Nat} {id : AdapterId} (h : base.Chain d visited i id)
    (hnodup : visited.Nodup) : visited.length ≤ base.stations.size := by
  have hsubset : visited ⊆ List.range base.stations.size :=
    fun j hj => List.mem_range.mpr (h.mem_lt j hj)
  have hle := (hnodup.subperm hsubset).length_le
  rwa [List.length_range] at hle

/-- A poll of another station leaves the times as they are. -/
theorem Timely.poll_other {j : Nat} {key : StreamKey} {packet : Packet}
    (h : base.Timely d t₀ who front j key packet) (hother : j ≠ i) (now : Time) :
    base.Timely d t₀ who (front ++ [(i, now)]) j key packet := by
  obtain ⟨message, hmessage, hchains⟩ := h
  refine ⟨message, hmessage, fun hmentions receiver adapter hreceiver hecho howner => ?_⟩
  obtain ⟨visited, hvisited, hpolls⟩ := hchains hmentions receiver adapter hreceiver hecho howner
  refine ⟨visited, hvisited, fun poll hpoll hmine => ?_⟩
  rcases List.mem_append.mp hpoll with hfront | hlast
  · exact hpolls poll hfront hmine
  · obtain rfl := List.mem_singleton.mp hlast
    exact absurd hmine.symm hother

end Run

/-- An adapter on the segment of an address. -/
def attached (name : String) (address : Address) : Adapter :=
  { id := ⟨name⟩, name, addresses := [⟨address, .ofOctets 255 255 255 0⟩] }

end Lan
end RouteDiscovery

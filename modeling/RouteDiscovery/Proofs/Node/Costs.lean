import RouteDiscovery.Proofs.Node.Announcement
import RouteDiscovery.Proofs.Node.Dispatch
import RouteDiscovery.Proofs.Route.Horizon
import RouteDiscovery.Proofs.Stream.Remainder

/-!
What the costs of routes can come to. A path that arrives has no more hops than a packet has room
for, so with the hops that nodes add to it the sum stays far below a word, and costs are compared as
the exact sums would be. This holds for a node that is never told of a route by hand.
-/
namespace RouteDiscovery
open Wire

/-- The cost of a path is the exact sum of its hops, which fits the word, and so is every sum on the
way to it. -/
def HasExactCost (path : List UInt16) : Prop :=
  total (path.map UInt16.toNat) < 0x100000000 ∧
    ∀ front, front <+: path → (pathCost front).toNat = total (front.map UInt16.toNat)

section Path
variable {path front : List UInt16}

theorem total_hops_le (path : List UInt16) :
    total (path.map UInt16.toNat) ≤ 65535 * path.length := by
  rw [← List.length_map UInt16.toNat]
  apply total_le_mul_length
  intro count hcount
  obtain ⟨hop, -, rfl⟩ := List.mem_map.mp hcount
  exact Nat.le_of_lt_succ hop.toNat_lt

/-- Up to this length every path has an exact cost, whatever its hops are. -/
theorem hasExactCost_of_length_le (h : path.length ≤ 65536) : HasExactCost path := by
  have hfits {front : List UInt16} (hlength : front.length ≤ 65536) :
      total (front.map UInt16.toNat) < 0x100000000 := by
    have hsum := total_hops_le front
    omega
  refine ⟨hfits h, fun front hfront => ?_⟩
  rw [toNat_pathCost, Nat.mod_eq_of_lt (hfits (Nat.le_trans hfront.length_le h))]

end Path

/-- The greatest number of hops of an entry in a packet. -/
def Packet.maxHops : Nat := 32754

/-- A route is a hop longer than the entry that told of it, and so is what is told of the route. -/
theorem Route.hasExactCost_of_length_le {route : Route}
    (h : route.path.length ≤ Packet.maxHops + 1) :
    HasExactCost route.path ∧ HasExactCost (route.entry 256).path := by
  constructor
  · exact RouteDiscovery.hasExactCost_of_length_le (Nat.le_trans h (by decide))
  · apply RouteDiscovery.hasExactCost_of_length_le
    rw [entry, List.length_append, List.length_singleton]
    exact Nat.le_trans (Nat.succ_le_succ h) (by decide)

/-- The entries of the message are no longer than a packet has room for. -/
def Message.IsShort (message : Message) : Prop :=
  ∀ discovery, message = .discovery discovery →
    ∀ entry ∈ discovery.nodes, entry.path.length ≤ Packet.maxHops

theorem Packet.isShort_of_mem {packet : Packet} {message : Message} (h : packet.size ≤ maxSize)
    (hmessage : message ∈ packet.messages) : message.IsShort := by
  rintro discovery rfl entry hentry
  have hmessages := le_total_of_mem (List.mem_map_of_mem (f := Message.size) hmessage)
  have hentries := le_total_of_mem (List.mem_map_of_mem (f := NodeEntry.size) hentry)
  simp only [size, maxSize, Message.size, Message.bodySize, NodeEntry.size] at h hmessages hentries
  unfold maxHops
  omega

/-- Whatever bytes have arrived, a drained packet is one that can be written. -/
theorem Stream.exists_encode_of_mem_drain {stream : Stream} {packet : Packet}
    (h : packet ∈ stream.drain.1) : ∃ code, packet.encode = .ok code := by
  obtain ⟨packets, rest, hparses⟩ := exists_parses stream.backlog
  obtain ⟨codes, hcodes, -⟩ := hparses.exists_codes
  rw [drain_of_parses hparses] at h
  obtain ⟨i, hi, rfl⟩ := List.getElem_of_mem h
  exact ⟨_, hcodes.get hi (hcodes.length_eq ▸ hi)⟩

namespace Node
variable {node : Node} {now : Time}

/-- All that a poll hears came in packets. -/
theorem isShort_of_mem_heard {heard : Message × Reception} (h : heard ∈ node.heard now) :
    heard.1.IsShort := by
  obtain ⟨batch, hbatch, hmessages⟩ := List.mem_flatMap.mp h
  obtain ⟨packet, hpacket, hmem⟩ := List.mem_flatMap.mp hmessages
  obtain ⟨message, hmessage, rfl⟩ := List.mem_map.mp hmem
  rw [Inbox.process_fst] at hbatch
  obtain ⟨⟨key, stream⟩, -, hsome⟩ := List.mem_filterMap.mp hbatch
  rw [(Inbox.key_of_batch? hsome).2.1] at hpacket
  obtain ⟨code, hcode⟩ := Stream.exists_encode_of_mem_drain hpacket
  exact Packet.isShort_of_mem (Packet.encode_eq_ok_iff.mp hcode).1 hmessage

/-- A poll adds one hop to what it hears. -/
theorem all_length_listen
    (h : node.routes.All fun _ route => route.path.length ≤ Packet.maxHops + 1) (now : Time) :
    (node.listen now).node.routes.All fun _ route => route.path.length ≤ Packet.maxHops + 1 := by
  refine all_listen h (fun heard hheard => ?_) fun _ _ _ hroute => hroute
  have hshort := isShort_of_mem_heard hheard
  obtain ⟨message | message, reception⟩ := heard
  · intro adapter _ _ key path htold
    refine ⟨fun _ => ?_, fun _ _ hroute => hroute⟩
    show path.length ≤ Packet.maxHops + 1
    rcases (RouteTable.lookup_told htold).2.2 with ⟨-, rfl⟩ | ⟨-, entry, hentry, -, rfl⟩
    · decide
    · exact Nat.succ_le_succ (hshort message rfl entry hentry)
  · exact fun _ _ _ hroute => hroute

end Node

namespace NodeRun
variable {run : NodeRun}

/-- All paths that the node knows, or that its listener was told of, came in packets. -/
structure Bounded (run : NodeRun) : Prop where
  taken : run.node.routes.events = []
  routes : run.node.routes.All fun _ route => route.path.length ≤ Packet.maxHops + 1
  told : ∀ heard ∈ Notice.messages run.notices, heard.1.IsShort

theorem bounded_of_create {config : Config} {node : Node} (h : Node.create config = .ok node) :
    Bounded { node } := by
  obtain rfl := Node.eq_of_create h
  exact ⟨rfl, fun _ hbucket => absurd hbucket List.not_mem_nil,
    fun _ hheard => absurd hheard List.not_mem_nil⟩

theorem Bounded.poll (h : run.Bounded) (now : Time) (arriving : List Arrival) :
    (run.poll now arriving).Bounded where
  taken := rfl
  routes := Node.all_length_listen h.routes now
  told := by
    intro heard hheard
    have hnotices : (run.poll now arriving).notices =
        run.notices ++ (run.node.listen now).notices.toList := rfl
    rw [hnotices, Notice.messages_append, Node.listen_notices h.taken, Notice.messages_append,
      Notice.messages_route, List.append_nil, (Node.conveys_afterHearing h.taken now).messages_eq]
      at hheard
    rcases List.mem_append.mp hheard with hold | hnew
    · exact h.told heard hold
    · exact Node.isShort_of_mem_heard (List.mem_of_mem_filter hnew)

/-- Only a route that is set by hand can have a longer path. -/
theorem Bounded.step (h : run.Bounded) {action : NodeAction}
    (haction : ∀ key path persistent now, action ≠ .setPersistent key path persistent now) :
    (run.step action).Bounded := by
  cases action with
  | receive arrival => exact ⟨h.taken, h.routes, h.told⟩
  | updateAdapters listed => exact ⟨h.taken, h.routes, h.told⟩
  | setPersistent key path persistent now => exact absurd rfl (haction key path persistent now)
  | poll now arriving => exact h.poll now arriving

theorem bounded_after {config : Config} {node : Node} (hcreate : Node.create config = .ok node)
    {actions : List NodeAction}
    (hactions : ∀ key path persistent now, .setPersistent key path persistent now ∉ actions) :
    (after actions node).Bounded := by
  refine List.foldlRecOn actions step (bounded_of_create hcreate) fun run hrun action haction =>
    hrun.step fun key path persistent now hsame => ?_
  exact hactions key path persistent now (hsame ▸ haction)

/-- Whatever bytes a node receives, if no route is set by hand then no path cost overflows: not of a
route that it knows, not of an entry that its listener is told of, and not of an entry that it
announces. So costs are compared as the exact sums are, and of any routes of the table the choice is
the first of the truly cheapest. -/
theorem costs_exact {config : Config} {node : Node} (hcreate : Node.create config = .ok node)
    {actions : List NodeAction}
    (hactions : ∀ key path persistent now, .setPersistent key path persistent now ∉ actions)
    (now : Time) {σ : Type} (link : Link σ) (state : σ) :
    let run := after actions node
    let routes := run.node.routes.routes
    let sent := (run.node.poll link.overheard now (state, [])).2.2
    (∀ route ∈ routes, HasExactCost route.path ∧ HasExactCost (route.entry 256).path) ∧
      (∀ message reception, .discovery message reception ∈ run.notices →
        ∀ entry ∈ message.nodes, HasExactCost entry.path) ∧
      (∀ datagram ∈ sent, ∀ message,
        Packet.decode datagram.bytes = .ok (.ofMessage (.discovery message)) →
          ∀ entry ∈ message.nodes, HasExactCost entry.path) ∧
      (∀ first ∈ routes, ∀ second ∈ routes,
        (first.cost < second.cost ↔ first.pathSum < second.pathSum) ∧
          (first.cost ≤ second.cost ↔ first.pathSum ≤ second.pathSum)) ∧
      ∀ (p : Route → Bool) (best : Route), Route.cheapest? (routes.filter p) = some best ↔
        ∃ front back, routes.filter p = front ++ best :: back ∧
          (∀ route ∈ front, best.pathSum < route.pathSum) ∧
            ∀ route ∈ back, best.pathSum ≤ route.pathSum := by
  intro run routes sent
  have hbounded : run.Bounded := bounded_after hcreate hactions
  have hlength : ∀ route ∈ routes, route.path.length ≤ Packet.maxHops + 1 := by
    intro route hroute
    obtain ⟨-, hlength⟩ := hbounded.routes.of_mem hroute
    exact hlength
  have hsums : ∀ route ∈ routes, route.pathSum < 0x100000000 := fun route hroute =>
    (Route.hasExactCost_of_length_le (hlength route hroute)).1.1
  refine ⟨fun route hroute => Route.hasExactCost_of_length_le (hlength route hroute),
    ?_, ?_, ?_, ?_⟩
  · intro message reception hnotice entry hentry
    have htold : (.discovery message, reception) ∈ Notice.messages run.notices :=
      List.mem_filterMap.mpr ⟨_, hnotice, rfl⟩
    have hshort := hbounded.told _ htold message rfl entry hentry
    exact hasExactCost_of_length_le (Nat.le_trans hshort (by decide))
  · intro datagram hdatagram message hdecode entry hentry
    rw [show sent = run.node.handed now from Node.poll_overheard link now run.node state]
      at hdatagram
    obtain ⟨adapter, -, announced, -, hencode, -, hentries⟩ :=
      Schedule.of_mem_round (Node.mem_round_of_mem_handed hdatagram)
    cases hdecode.symm.trans (Packet.decode_eq_ok_iff.mpr hencode)
    obtain ⟨route, hroute, rfl⟩ := hentries entry hentry
    obtain ⟨⟨bucket, hbucket, -, hmem⟩, -⟩ := RouteTable.mem_candidates.mp hroute
    exact (Route.hasExactCost_of_length_le
      (Node.all_length_listen hbounded.routes now bucket hbucket route hmem)).2
  · exact fun first hfirst second hsecond =>
      ⟨Route.cost_lt_iff (hsums first hfirst) (hsums second hsecond),
        Route.cost_le_iff (hsums first hfirst) (hsums second hsecond)⟩
  · exact fun p best => Route.cheapest?_eq_some_iff_pathSum fun route hroute =>
      hsums route (List.mem_of_mem_filter hroute)

/-- A neighbour tells of a node in the costliest hops. -/
def costly : List NodeAction :=
  [.updateAdapters [
      { id := ⟨"e0"⟩, name := "e0", addresses := [⟨⟨1⟩, ⟨0xffffff00⟩⟩] },
      { id := ⟨"e1"⟩, name := "e1", addresses := [⟨⟨0x101⟩, ⟨0xffffff00⟩⟩] }],
    .receive ⟨⟨⟨⟨2⟩, 7171⟩, ⟨1⟩⟩,
      (Packet.encode ⟨[.discovery ⟨2, [⟨9, ⟨9⟩, [65535, 65535, 65535]⟩]⟩]⟩).toOption.getD [], 5⟩,
    .poll 5 []]

/-- The route is known at a cost above that of any single hop, and announced at a greater one. -/
theorem costs_exact_costly :
    let run := after costly { config := {}, schedule := { interval := 20000 } }
    let routes := run.node.routes.routes
    let sent := (run.node.poll (Link.recording []).overheard 20005 (#[], [])).2.2
    ((∀ key path persistent now, .setPersistent key path persistent now ∉ costly) ∧
        routes.map Route.pathSum = [256, 196861] ∧
        (Datagram.listed ⟨"e1"⟩ sent).map (·.cost) = [512, 197117]) ∧
      (∀ route ∈ routes, HasExactCost route.path ∧ HasExactCost (route.entry 256).path) ∧
      (∀ message reception, .discovery message reception ∈ run.notices →
        ∀ entry ∈ message.nodes, HasExactCost entry.path) ∧
      ∀ datagram ∈ sent, ∀ message,
        Packet.decode datagram.bytes = .ok (.ofMessage (.discovery message)) →
          ∀ entry ∈ message.nodes, HasExactCost entry.path := by
  intro run routes sent
  have hcreate : Node.create {} = .ok { config := {}, schedule := { interval := 20000 } } := rfl
  have hactions : ∀ key path persistent now,
      .setPersistent key path persistent now ∉ costly := by
    simp [costly]
  have hroutes : routes.map Route.pathSum = [256, 196861] := by decide +kernel
  have hlisted : (Datagram.listed ⟨"e1"⟩ sent).map (·.cost) = [512, 197117] := by decide +kernel
  obtain ⟨hexact, htold, hsent, -⟩ :=
    costs_exact hcreate hactions 20005 (Link.recording []) #[]
  exact ⟨⟨hactions, hroutes, hlisted⟩, hexact, htold, hsent⟩

end NodeRun
end RouteDiscovery

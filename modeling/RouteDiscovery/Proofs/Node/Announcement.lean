import RouteDiscovery.Proofs.Discovery.Datagrams
import RouteDiscovery.Proofs.Node.Invariant
import RouteDiscovery.Proofs.Route.Liveness

/-!
What a node announces. All that a poll hands to the link is live elsewhere, and on no adapter is a
node told of twice. A poll that is due is heard on a usable adapter unless everything that it has to
tell there is too large for a packet.
-/
namespace RouteDiscovery
open Wire

/-- The route was heard of less than `timeout` ago, by a discovery or by data. A time that is still
to come counts as just now. -/
theorem Route.isFresh_iff_sub {route : Route} {now : Time} {timeout : Nat}
    (htimeout : 0 < timeout) :
    route.isFresh now timeout = true ↔ now - route.lastDiscovery < timeout ∨
      ∃ last, route.lastData = some last ∧ now - last < timeout := by
  have helapsed (since : Time) : elapsed now since < timeout ↔ now - since < timeout :=
    Int.toNat_lt' htimeout
  simp only [isFresh_iff, helapsed]

namespace Node
variable {node : Node} {now : Time} {datagram : Datagram}

/-- What a poll hands to the link. -/
def handed (now : Time) (node : Node) : List Datagram :=
  ((node.listen now).node.announce now).1

theorem poll_overheard {σ : Type} (link : Link σ) (now : Time) (node : Node) (state : σ) :
    (node.poll link.overheard now (state, [])).2.2 = node.handed now := by
  simp [poll, Link.transmit_overheard, handed]

theorem mem_handed_of_recorded {failing : List AdapterId}
    (h : datagram ∈ (node.poll (Link.recording failing) now #[]).2) : datagram ∈ node.handed now :=
  (Link.mem_transmit_recording h).resolve_right (Array.not_mem_empty datagram)

theorem handed_of_isDue (hdue : node.schedule.isDue now = true) : node.handed now =
    Schedule.round node.config.nodeId (node.listen now).node.routes node.adapters := by
  unfold handed
  rw [listen_node]
  simp [announce, Schedule.plan, hdue]

theorem handed_of_not_isDue (hdue : ¬ node.schedule.isDue now = true) : node.handed now = [] := by
  unfold handed
  rw [listen_node]
  simp [announce, Schedule.plan, hdue]

theorem mem_round_of_mem_handed (h : datagram ∈ node.handed now) : datagram ∈
    Schedule.round node.config.nodeId (node.listen now).node.routes node.adapters :=
  of_mem_announce h

/-- What is handed to the link on an adapter is what is announced there. -/
theorem mem_handed_iff (hids : (node.adapters.adapters.map (·.id)).Nodup)
    (hdue : node.schedule.isDue now = true) {adapter : Adapter}
    (husable : adapter ∈ node.adapters.usable) :
    (datagram ∈ node.handed now ∧ datagram.target = .multicast adapter.id) ↔ datagram ∈
      Schedule.announcements node.config.nodeId (node.listen now).node.routes adapter := by
  rw [handed_of_isDue hdue, ← Schedule.filter_round hids husable, List.mem_filter,
    decide_eq_true_eq]

/-- The datagrams announce the node on an adapter. -/
def IsAnnounced (sender : UInt16) (id : AdapterId) (datagrams : List Datagram) : Prop :=
  ∃ datagram ∈ datagrams, datagram.target = .multicast id ∧ ∃ message,
    Packet.decode datagram.bytes = .ok (.ofMessage (.discovery message)) ∧
      message.sender = sender

theorem isAnnounced_handed_iff (hids : (node.adapters.adapters.map (·.id)).Nodup)
    (hdue : node.schedule.isDue now = true) {adapter : Adapter}
    (husable : adapter ∈ node.adapters.usable) :
    IsAnnounced node.config.nodeId adapter.id (node.handed now) ↔ ∃ datagram, datagram ∈
      Schedule.announcements node.config.nodeId (node.listen now).node.routes adapter := by
  constructor
  · rintro ⟨datagram, hdatagram, htarget, -⟩
    exact ⟨datagram, (mem_handed_iff hids hdue husable).mp ⟨hdatagram, htarget⟩⟩
  · rintro ⟨datagram, hmem⟩
    obtain ⟨message, hmessage, hencode, -⟩ := Schedule.mem_announcements.mp hmem
    obtain ⟨hdatagram, htarget⟩ := (mem_handed_iff hids hdue husable).mpr hmem
    exact ⟨datagram, hdatagram, htarget, message, Packet.decode_eq_ok_iff.mpr hencode,
      Discovery.sender_of_mem_partition hmessage⟩

theorem nodup_listed_handed (hids : (node.adapters.adapters.map (·.id)).Nodup) (id : AdapterId) :
    ((Datagram.listed id (node.handed now)).map (·.node)).Nodup := by
  by_cases hdue : node.schedule.isDue now = true
  · rw [handed_of_isDue hdue]
    exact Schedule.nodup_listed_round hids id
  · simp [handed_of_not_isDue hdue, Datagram.listed]

/-- What a poll may tell on an adapter was learned elsewhere, is not silent, and is persistent or
was heard of less than 90 seconds ago. -/
theorem Regular.of_mem_candidates {config : Config} (h : Regular config node) {id : AdapterId}
    {route : Route} (hroute : route ∈ (node.listen now).node.routes.candidates id) :
    route ∈ (node.listen now).node.routes.routes ∧ route.key.adapter ≠ id ∧
      route.silent = false ∧ (route.persistent = true ∨ now - route.lastDiscovery < 90000 ∨
        ∃ last, route.lastData = some last ∧ now - last < 90000) := by
  obtain ⟨hmem, hadapter, honline, hsilent⟩ :=
    (coherent_listen h.coherent now).mem_candidates_iff.mp hroute
  obtain ⟨-, hswept⟩ := (all_listen_online now node).of_mem hmem
  rw [h.timeout_eq, honline, Route.shouldBeOnline, eq_comm, Bool.or_eq_true,
    Route.isFresh_iff_sub (by decide)] at hswept
  exact ⟨hmem, hadapter, hsilent, hswept⟩

end Node

namespace NodeRun

theorem poll_routes (now : Time) (arriving : List Arrival) (run : NodeRun) :
    (run.poll now arriving).node.routes = (run.node.listen now).node.routes := by
  obtain ⟨schedule, hnode⟩ := poll_node now arriving run
  rw [hnode]

/-- In whatever state a node is, each datagram that a poll hands to the link goes to the group and
holds one discovery with the number of the node. Each entry is a route of the table behind the poll,
with one hop more: it was learned on another adapter, is not silent, and is persistent or was heard
of less than 90 seconds ago. On no adapter is a node listed twice. -/
theorem announces_live {config : Config} {node : Node} (hcreate : Node.create config = .ok node)
    (actions : List NodeAction) (now : Time) (arriving : List Arrival) {σ : Type} (link : Link σ)
    (state : σ) :
    let run := after actions node
    let sent := (run.node.poll link.overheard now (state, [])).2.2
    let table := (run.poll now arriving).node.routes
    (∀ datagram ∈ sent, ∃ id message, datagram.target = .multicast id ∧
      Packet.decode datagram.bytes = .ok (.ofMessage (.discovery message)) ∧
      message.sender = config.nodeId ∧ ∀ entry ∈ message.nodes, ∃ route ∈ table.routes,
        route.key.adapter ≠ id ∧ route.silent = false ∧
        (route.persistent = true ∨ now - route.lastDiscovery < 90000 ∨
          ∃ last, route.lastData = some last ∧ now - last < 90000) ∧
        entry = ⟨route.key.node.id, route.key.node.address, route.path ++ [256]⟩) ∧
      ∀ id, ((Datagram.listed id sent).map (·.node)).Nodup := by
  intro run sent table
  have hregular : Node.Regular config run.node := regular_after hcreate actions
  have hsent : sent = run.node.handed now := Node.poll_overheard link now run.node state
  have htable : table = (run.node.listen now).node.routes := poll_routes now arriving run
  constructor
  · intro datagram hdatagram
    rw [hsent] at hdatagram
    obtain ⟨adapter, -, message, htarget, hencode, hsender, hentries⟩ :=
      Schedule.of_mem_round (Node.mem_round_of_mem_handed hdatagram)
    refine ⟨adapter.id, message, htarget, Packet.decode_eq_ok_iff.mpr hencode, ?_, ?_⟩
    · rw [hsender, hregular.config_eq]
    · intro entry hentry
      obtain ⟨route, hroute, rfl⟩ := hentries entry hentry
      obtain ⟨hmem, hadapter, hsilent, hlive⟩ := hregular.of_mem_candidates hroute
      rw [← htable] at hmem
      exact ⟨route, hmem, hadapter, hsilent, hlive, rfl⟩
  · intro id
    rw [hsent]
    exact Node.nodup_listed_handed hregular.nodup_adapters id

/-- A node with two adapters gets a persistent route on the first. -/
def marked (path : List UInt16) : List NodeAction :=
  [.updateAdapters [
      { id := ⟨"e0"⟩, name := "e0", addresses := [⟨⟨1⟩, ⟨0xffffff00⟩⟩] },
      { id := ⟨"e1"⟩, name := "e1", addresses := [⟨⟨0x101⟩, ⟨0xffffff00⟩⟩] }],
    .setPersistent ⟨⟨7, ⟨2⟩⟩, ⟨"e0"⟩, ⟨2⟩⟩ path true 0]

/-- The route is told on the second adapter only. -/
theorem announces_live_marked :
    let run := after (marked [hopCost]) { config := {}, schedule := { interval := 20000 } }
    let sent := (run.node.poll (Link.recording []).overheard 5 (#[], [])).2.2
    let table := (run.poll 5 []).node.routes
    (Datagram.listed ⟨"e0"⟩ sent = [] ∧
        Datagram.listed ⟨"e1"⟩ sent = [⟨7, ⟨2⟩, [hopCost, hopCost]⟩]) ∧
      (∀ datagram ∈ sent, ∃ id message, datagram.target = .multicast id ∧
        Packet.decode datagram.bytes = .ok (.ofMessage (.discovery message)) ∧
        message.sender = ({} : Config).nodeId ∧ ∀ entry ∈ message.nodes, ∃ route ∈ table.routes,
          route.key.adapter ≠ id ∧ route.silent = false ∧
          (route.persistent = true ∨ (5 : Time) - route.lastDiscovery < 90000 ∨
            ∃ last, route.lastData = some last ∧ (5 : Time) - last < 90000) ∧
          entry = ⟨route.key.node.id, route.key.node.address, route.path ++ [256]⟩) ∧
        ∀ id, ((Datagram.listed id sent).map (·.node)).Nodup := by
  have hcreate : Node.create {} = .ok { config := {}, schedule := { interval := 20000 } } := rfl
  have hlive := announces_live hcreate (marked [hopCost]) 5 [] (Link.recording []) #[]
  refine ⟨⟨?_, ?_⟩, hlive⟩
  · decide +kernel
  · decide +kernel

/-- A poll that is due announces the node on a usable adapter just if one of the messages for it
fits a packet. Where the datagrams of the link are no larger than a packet, that is so just if there
is no route to tell there or one whose path, with the hop of the node, fits a packet on its own. -/
theorem announced_iff_fits {config : Config} {node : Node}
    (hcreate : Node.create config = .ok node) (actions : List NodeAction) (now : Time)
    (hdue : (after actions node).node.schedule.isDue now = true) {adapter : Adapter}
    (husable : adapter ∈ (after actions node).node.adapters.usable) {σ : Type} (link : Link σ)
    (state : σ) :
    let polled := (after actions node).node.poll link.overheard now (state, [])
    let told := polled.1.node.routes.announced adapter.id
    (Node.IsAnnounced config.nodeId adapter.id polled.2.2 ↔
      ∃ message ∈ Discovery.partition config.nodeId (adapter.mtu - datagramOverhead)
          (told.map (·.entry hopCost)),
        (Packet.ofMessage (.discovery message)).size ≤ Packet.maxSize) ∧
      (adapter.mtu ≤ 65564 → (Node.IsAnnounced config.nodeId adapter.id polled.2.2 ↔
        told = [] ∨ ∃ route ∈ told, route.path.length ≤ 32753)) := by
  intro polled told
  have hregular : Node.Regular config (after actions node).node := regular_after hcreate actions
  have hsent : polled.2.2 = (after actions node).node.handed now :=
    Node.poll_overheard link now (after actions node).node state
  have hannounced := Node.isAnnounced_handed_iff hregular.nodup_adapters hdue husable
  rw [hregular.config_eq] at hannounced
  rw [hsent, hannounced]
  exact ⟨Schedule.exists_announcement_iff, Schedule.exists_announcement_iff_path⟩

/-- The second adapter is usable and the first round is due, so the node is announced there. -/
theorem announced_iff_fits_marked :
    let node : Node := { config := {}, schedule := { interval := 20000 } }
    let adapter : Adapter :=
      { id := ⟨"e1"⟩, name := "e1", addresses := [⟨⟨0x101⟩, ⟨0xffffff00⟩⟩] }
    let run := after (marked [hopCost]) node
    let polled := run.node.poll (Link.recording []).overheard 5 (#[], [])
    let told := polled.1.node.routes.announced adapter.id
    (run.node.schedule.isDue 5 = true ∧ adapter ∈ run.node.adapters.usable ∧ told.length = 1) ∧
      (Node.IsAnnounced ({} : Config).nodeId adapter.id polled.2.2 ↔
        ∃ message ∈ Discovery.partition ({} : Config).nodeId (adapter.mtu - datagramOverhead)
            (told.map (·.entry hopCost)),
          (Packet.ofMessage (.discovery message)).size ≤ Packet.maxSize) ∧
        (adapter.mtu ≤ 65564 →
          (Node.IsAnnounced ({} : Config).nodeId adapter.id polled.2.2 ↔
            told = [] ∨ ∃ route ∈ told, route.path.length ≤ 32753)) := by
  intro node adapter
  have hcreate : Node.create {} = .ok node := rfl
  have hdue : (after (marked [hopCost]) node).node.schedule.isDue 5 = true := by decide +kernel
  have husable : adapter ∈ (after (marked [hopCost]) node).node.adapters.usable := by
    decide +kernel
  have hiff := announced_iff_fits hcreate (marked [hopCost]) 5 hdue husable (Link.recording []) #[]
  exact ⟨⟨hdue, husable, by decide +kernel⟩, hiff⟩

/-- The route is the only one to tell on the second adapter. -/
theorem announced_marked (path : List UInt16) (now : Time) :
    ((after (marked path) { config := {}, schedule := { interval := 20000 } }).node.listen
        now).node.routes.announced ⟨"e1"⟩ =
      [{ key := ⟨⟨7, ⟨2⟩⟩, ⟨"e0"⟩, ⟨2⟩⟩, path, mtu := 1500, persistent := true,
         lastDiscovery := 0 }] := by
  rfl

/-- A path that is too long for a packet keeps the node from being announced on the second adapter:
the only message for it cannot be encoded. -/
theorem not_isAnnounced_marked {path : List UInt16} (hpath : 32753 < path.length) :
    ¬ Node.IsAnnounced ({} : Config).nodeId ⟨"e1"⟩ ((after (marked path)
      { config := {}, schedule := { interval := 20000 } }).node.poll
        (Link.recording []) 0 #[]).2.toList := by
  rintro ⟨datagram, htaken, htarget, -⟩
  have hregular := regular_after (rfl : Node.create {} = .ok _) (marked path)
  have hhanded := Node.mem_handed_of_recorded (Array.mem_toList_iff.mp htaken)
  have hsent := (Node.mem_handed_iff hregular.nodup_adapters rfl
    (List.mem_cons_of_mem _ List.mem_cons_self)).mp ⟨hhanded, htarget⟩
  rcases (Schedule.exists_announcement_iff_path (by decide)).mp ⟨datagram, hsent⟩ with
    hnone | ⟨route, hroute, hlength⟩
  · rw [announced_marked] at hnone
    cases hnone
  · rw [announced_marked, List.mem_singleton] at hroute
    subst hroute
    exact Nat.not_le_of_lt hpath hlength

/-- There are nodes and paths for which a due round announces nothing on a usable adapter. -/
theorem not_announced_everywhere :
    ¬ ∀ (config : Config) (node : Node), Node.create config = .ok node →
      ∀ (actions : List NodeAction) (now : Time) (adapter : Adapter),
        adapter ∈ (after actions node).node.adapters.usable →
        (after actions node).node.schedule.isDue now = true →
        Node.IsAnnounced config.nodeId adapter.id
          ((after actions node).node.poll (Link.recording []) now #[]).2.toList := by
  intro hall
  obtain ⟨path, hpath⟩ : ∃ path : List UInt16, 32753 < path.length := by
    use List.replicate 32754 hopCost
    rw [List.length_replicate]
    omega
  have hannounced := hall {} { config := {}, schedule := { interval := 20000 } } rfl (marked path) 0
    { id := ⟨"e1"⟩, name := "e1", addresses := [⟨⟨0x101⟩, ⟨0xffffff00⟩⟩] }
    (List.mem_cons_of_mem _ List.mem_cons_self) rfl
  exact not_isAnnounced_marked hpath hannounced

end NodeRun
end RouteDiscovery

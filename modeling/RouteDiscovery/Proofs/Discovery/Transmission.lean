import RouteDiscovery.Proofs.Discovery.Datagrams

/-!
A round leaves nothing out. Where every entry for an adapter fits its datagrams on its own, each
datagram there keeps to the size that the adapter can carry, and together they list the announced
routes in their order. The datagrams come adapter by adapter, and a link that takes them all counts
each of them.
-/
namespace RouteDiscovery
open Wire

section Link
variable {σ : Type} {link : Link σ}

/-- The link refuses nothing. -/
def Link.Accepts (link : Link σ) : Prop :=
  ∀ datagram state, ∃ taken, (link.send datagram state).1 = .ok taken

theorem Link.Accepts.transmit_fst (h : link.Accepts) (datagrams : List Datagram) (state : σ) :
    (link.transmit datagrams state).1 = datagrams.length := by
  rw [transmit, ← Nat.zero_add datagrams.length]
  generalize 0 = count
  induction datagrams generalizing count state with
  | nil => rfl
  | cons datagram rest ih =>
    obtain ⟨taken, htaken⟩ := h datagram state
    rcases hsend : link.send datagram state with ⟨fault | size, next⟩
    · simp [hsend] at htaken
    · simp only [List.foldl_cons, hsend, ih, List.length_cons]
      omega

/-- A link that refuses on no adapter takes everything. -/
theorem Link.accepts_recording : (recording []).Accepts :=
  fun datagram _ => ⟨datagram.bytes.length, rfl⟩

end Link

/-- Where each entry keeps to the budget on its own, every message does. -/
theorem Discovery.size_le_of_fits {sender : UInt16} {budget : Nat} {entries : List NodeEntry}
    {message : Discovery} (h : message ∈ partition sender budget entries)
    (hbudget : Partition.emptySize ≤ budget)
    (hfits : ∀ entry ∈ entries, Partition.emptySize + entry.size ≤ budget) :
    (Packet.ofMessage (.discovery message)).size ≤ budget := by
  rcases size_le_of_mem_partition h with hfew | hsize
  · rw [size_packet]
    match hnodes : message.nodes with
    | [] => exact hbudget
    | [entry] =>
      have hentry : entry ∈ entries := mem_entries_of_mem_partition h (by simp [hnodes])
      exact hfits entry hentry
    | _ :: _ :: _ => simp [hnodes] at hfew
  · exact hsize

namespace Schedule
variable {σ : Type} {link : Link σ} {now : Time} {sender : UInt16} {routes : RouteTable}
  {adapter : Adapter} {adapters : AdapterTable} {schedule : Schedule}

/-- A due round hands over its datagrams in order, whatever becomes of them. -/
theorem tick_overheard (hdue : schedule.isDue now = true) (state : σ) :
    (schedule.tick link.overheard now sender routes adapters (state, [])).2.2.2 =
      round sender routes adapters := by
  simp only [tick, plan, hdue, if_true, Link.transmit_overheard, List.nil_append]

theorem tick_fst (hdue : schedule.isDue now = true) (state : σ) :
    (schedule.tick link now sender routes adapters state).1 =
      (link.transmit (round sender routes adapters) state).1 := by
  simp only [tick, plan, hdue, if_true]

theorem length_round (sender : UInt16) (routes : RouteTable) (adapters : AdapterTable) :
    (round sender routes adapters).length =
      total (adapters.usable.map fun adapter => (announcements sender routes adapter).length) := by
  unfold round
  generalize adapters.usable = usable
  induction usable with
  | nil => rfl
  | cons adapter rest ih =>
    rw [List.flatMap_cons, List.length_append, ih, List.map_cons, total_cons]

/-- In a round that is due, the datagrams handed over on a usable adapter whose entries fit one by
one are no larger than it can carry, each holds one discovery from the node, and together they list
the announced routes, each once and in their order, with one more hop. The round goes through the
usable adapters in order and sends nothing else, and what it counts on a link that takes everything
is the number of these datagrams. -/
theorem tick_tells_all (haccepts : link.Accepts) (hdue : schedule.isDue now = true)
    (adapterList : List Adapter) (routes : RouteTable) (sender : UInt16) (state : σ) :
    let adapters := AdapterTable.ofList adapterList
    let sent :=
      (schedule.tick link.overheard now sender routes adapters (state, [])).2.2.2
    let sentOn (adapter : Adapter) :=
      sent.filter fun datagram => datagram.target = .multicast adapter.id
    (∀ adapter ∈ adapters.usable, 48 ≤ adapter.mtu → adapter.mtu ≤ 65564 →
        (∀ route ∈ routes.announced adapter.id,
          20 + (route.entry 256).size ≤ adapter.mtu - 28) →
        (∀ datagram ∈ sentOn adapter, datagram.bytes.length ≤ adapter.mtu - 28 ∧
          ∃ message : Discovery, message.sender = sender ∧
            Packet.decode datagram.bytes = .ok (.ofMessage (.discovery message))) ∧
        Datagram.listed adapter.id sent = (routes.announced adapter.id).map (·.entry 256)) ∧
      sent = adapters.usable.flatMap sentOn ∧
      (schedule.tick link now sender routes adapters state).1 =
        total (adapters.usable.map fun adapter => (sentOn adapter).length) := by
  intro adapters sent sentOn
  have hids : (adapters.adapters.map (·.id)).Nodup := AdapterTable.nodup_update adapterList {}
  have hsent : sent = round sender routes adapters := tick_overheard hdue state
  have hsentOn : ∀ adapter ∈ adapters.usable,
      sentOn adapter = announcements sender routes adapter := by
    intro adapter hadapter
    simp only [sentOn, hsent]
    exact filter_round hids hadapter
  refine ⟨fun adapter hadapter hleast hgreatest hentries => ?_, ?_, ?_⟩
  · have hfits : ∀ message ∈ Discovery.partition sender (adapter.mtu - datagramOverhead)
        ((routes.announced adapter.id).map (·.entry hopCost)),
        (Packet.ofMessage (.discovery message)).size ≤ adapter.mtu - 28 := by
      intro message hmessage
      apply Discovery.size_le_of_fits hmessage
      · show 20 ≤ adapter.mtu - 28
        omega
      · intro entry hentry
        obtain ⟨route, hroute, rfl⟩ := List.mem_map.mp hentry
        exact hentries route hroute
    constructor
    · intro datagram hdatagram
      rw [hsentOn adapter hadapter] at hdatagram
      obtain ⟨message, hmessage, hencode, -⟩ := mem_announcements.mp hdatagram
      rw [Packet.length_of_encode hencode]
      exact ⟨hfits message hmessage, message, Discovery.sender_of_mem_partition hmessage,
        Packet.decode_eq_ok_iff.mpr hencode⟩
    · rw [hsent, listed_round hids hadapter, List.filter_eq_self.mpr, Discovery.nodes_partition]
      · rfl
      · intro message hmessage
        have hsize := hfits message hmessage
        exact decide_eq_true (by unfold Packet.maxSize; omega)
  · rw [hsent, round]
    exact List.flatMap_congr fun adapter hadapter => (hsentOn adapter hadapter).symm
  · rw [tick_fst hdue, haccepts.transmit_fst, length_round]
    apply congrArg total
    exact List.map_congr_left fun adapter hadapter => by rw [hsentOn adapter hadapter]

/-- The second adapter carries datagrams of 48 bytes, which have room for two of the three nodes
that are known on the first one. -/
theorem tick_tells_all_narrow :
    let first : Adapter :=
      { id := ⟨"e0"⟩, name := "e0", addresses := [⟨⟨0x0a000001⟩, ⟨0xffffff00⟩⟩] }
    let narrow : Adapter :=
      { id := ⟨"e1"⟩, name := "e1", mtu := 76, addresses := [⟨⟨0x0a000101⟩, ⟨0xffffff00⟩⟩] }
    let route (id : UInt16) (address : Address) : Route :=
      { key := ⟨⟨id, address⟩, ⟨"e0"⟩, address⟩, path := [hopCost], mtu := 1500
        lastDiscovery := 0 }
    let routes : RouteTable :=
      { buckets := [(⟨"e0"⟩, [route 2 ⟨0x0a000002⟩, route 3 ⟨0x0a000003⟩, route 4 ⟨0x0a000004⟩])] }
    let sent := (({} : Schedule).tick (Link.recording []).overheard 0 1 routes
      (AdapterTable.ofList [first, narrow]) (#[], [])).2.2.2
    let sentOn (adapter : Adapter) :=
      sent.filter fun datagram => datagram.target = .multicast adapter.id
    ((Link.recording []).Accepts ∧ ({} : Schedule).isDue 0 = true ∧
        narrow ∈ (AdapterTable.ofList [first, narrow]).usable ∧
        ∀ route ∈ routes.announced narrow.id, 20 + (route.entry 256).size ≤ narrow.mtu - 28) ∧
      (∀ datagram ∈ sentOn narrow, datagram.bytes.length ≤ narrow.mtu - 28 ∧
        ∃ message : Discovery, message.sender = 1 ∧
          Packet.decode datagram.bytes = .ok (.ofMessage (.discovery message))) ∧
      Datagram.listed narrow.id sent = (routes.announced narrow.id).map (·.entry 256) ∧
      sent = (AdapterTable.ofList [first, narrow]).usable.flatMap sentOn ∧
      (({} : Schedule).tick (Link.recording []) 0 1 routes
          (AdapterTable.ofList [first, narrow]) #[]).1 =
        total ((AdapterTable.ofList [first, narrow]).usable.map fun adapter =>
          (sentOn adapter).length) ∧
      (routes.announced narrow.id).length = 3 ∧ (sentOn narrow).length = 2 := by
  intro first narrow route routes sent sentOn
  have hdue : ({} : Schedule).isDue 0 = true := rfl
  have hnarrow : narrow ∈ (AdapterTable.ofList [first, narrow]).usable := by decide +kernel
  have hentries : ∀ route ∈ routes.announced narrow.id,
      20 + (route.entry 256).size ≤ narrow.mtu - 28 := by
    decide +kernel
  obtain ⟨htold, hsent, hcount⟩ :=
    tick_tells_all Link.accepts_recording hdue [first, narrow] routes 1 #[]
  obtain ⟨hdatagrams, hlisted⟩ := htold narrow hnarrow (by decide) (by decide) hentries
  have hroutes : (routes.announced narrow.id).length = 3 := by decide +kernel
  have hsplit : (sentOn narrow).length = 2 := by decide +kernel
  exact ⟨⟨Link.accepts_recording, hdue, hnarrow, hentries⟩, hdatagrams, hlisted, hsent, hcount,
    hroutes, hsplit⟩

end Schedule
end RouteDiscovery

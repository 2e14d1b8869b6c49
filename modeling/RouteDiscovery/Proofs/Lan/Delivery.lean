import RouteDiscovery.Lan
import RouteDiscovery.Proofs.Node.Poll

/-!
What a poll does on a network: the wiring stays, the polled node hears what waits for it, and what
it sends waits at the receivers.
-/
namespace RouteDiscovery
open Wire

/-- What a run of polls does not change in a station. -/
def Station.fixed (station : Station) :
    Config × AdapterTable × List (AdapterId × Address) × List (AdapterId × SendFault) :=
  (station.node.config, station.node.adapters, station.sources, station.sendFaults)

namespace Lan
variable {lan base next : Lan} {i j : Nat} {node : Node} {station : Station}

theorem station?_setStation (i : Nat) (station : Station) (lan : Lan) (j : Nat) :
    (lan.setStation i station).station? j =
      if i = j ∧ i < lan.stations.size then some station else lan.station? j := by
  unfold station? setStation
  rw [Array.getElem?_setIfInBounds]
  by_cases hij : i = j
  · by_cases hsize : i < lan.stations.size
    · simp [hij, hij ▸ hsize, Except.toOption]
    · simp [hij, hij ▸ hsize]
  · simp [hij]

theorem lt_size_of_station? (h : lan.station? i = some station) : i < lan.stations.size := by
  unfold station? at h
  by_contra hsize
  rw [Array.getElem?_eq_none (Nat.le_of_not_lt hsize)] at h
  cases h

theorem station?_setNode (i : Nat) (node : Node) (lan : Lan) (j : Nat) :
    (lan.setNode i node).station? j =
      if j = i then (lan.station? i).map fun station => { station with node }
      else lan.station? j := by
  unfold setNode
  cases hstation : lan.station? i with
  | none =>
    by_cases hj : j = i
    · rw [if_pos hj, hj, hstation]
      rfl
    · rw [if_neg hj]
  | some station =>
    have hsize := lt_size_of_station? hstation
    simp only [station?_setStation, hsize, and_true]
    by_cases hj : j = i
    · rw [if_pos hj.symm, if_pos hj]
      rfl
    · rw [if_neg (Ne.symm hj), if_neg hj]

theorem station?_receive (i : Nat) (key : StreamKey) (bytes : Bytes) (lan : Lan) (j : Nat) :
    (lan.receive i key bytes).station? j =
      if j = i then (lan.station? i).map fun station =>
        { station with node := station.node.receive key bytes arrivalTime }
      else lan.station? j := by
  unfold receive
  cases hstation : lan.station? i with
  | none =>
    by_cases hj : j = i
    · rw [if_pos hj, hj, hstation]
      rfl
    · rw [if_neg hj]
  | some station =>
    simp only [station?_setNode, hstation]
    rfl

theorem station?_tell (i : Nat) (notices : List Notice) (lan : Lan) (j : Nat) :
    (lan.tell i notices).station? j = lan.station? j := by
  unfold tell
  split
  · split <;> rfl
  · rfl

/-- Two states of one network: they differ in the state of the nodes and in the trace only. -/
structure SameWiring (base lan : Lan) : Prop where
  ports : lan.ports = base.ports
  down : lan.down = base.down
  fixed : ∀ i, (lan.station? i).map Station.fixed = (base.station? i).map Station.fixed

theorem sameWiring_refl (lan : Lan) : lan.SameWiring lan :=
  ⟨rfl, rfl, fun _ => rfl⟩

theorem SameWiring.trans (h : base.SameWiring lan) (h' : lan.SameWiring next) :
    base.SameWiring next :=
  ⟨h'.ports.trans h.ports, h'.down.trans h.down, fun i => (h'.fixed i).trans (h.fixed i)⟩

theorem SameWiring.exists_station (h : base.SameWiring lan)
    (hstation : base.station? i = some station) :
    ∃ current, lan.station? i = some current ∧ current.fixed = station.fixed := by
  have hfixed := h.fixed i
  rw [hstation, Option.map_some] at hfixed
  exact Option.map_eq_some_iff.mp hfixed

theorem SameWiring.symm (h : base.SameWiring lan) : lan.SameWiring base :=
  ⟨h.ports.symm, h.down.symm, fun i => (h.fixed i).symm⟩

theorem sameWiring_record (event : LanEvent) (lan : Lan) : lan.SameWiring (lan.record event) :=
  ⟨rfl, rfl, fun _ => rfl⟩

theorem sameWiring_tell (i : Nat) (notices : List Notice) (lan : Lan) :
    lan.SameWiring (lan.tell i notices) := by
  unfold tell
  split
  · split
    · exact ⟨rfl, rfl, fun _ => rfl⟩
    · exact sameWiring_refl lan
  · exact sameWiring_refl lan

theorem sameWiring_setNode (hstation : lan.station? i = some station)
    (hconfig : node.config = station.node.config)
    (hadapters : node.adapters = station.node.adapters) : lan.SameWiring (lan.setNode i node) := by
  refine ⟨?_, ?_, fun j => ?_⟩
  · unfold setNode
    rw [hstation]
    rfl
  · unfold setNode
    rw [hstation]
    rfl
  · rw [station?_setNode]
    by_cases hj : j = i
    · rw [if_pos hj, hj, hstation]
      simp [Station.fixed, hconfig, hadapters]
    · rw [if_neg hj]

theorem sameWiring_receive (i : Nat) (key : StreamKey) (bytes : Bytes) (lan : Lan) :
    lan.SameWiring (lan.receive i key bytes) := by
  unfold receive
  cases hstation : lan.station? i with
  | none => exact sameWiring_refl lan
  | some station => exact sameWiring_setNode hstation rfl rfl

theorem SameWiring.reached (h : base.SameWiring lan) (source : Address) (target : Target) :
    lan.reached source target = base.reached source target := by
  unfold Lan.reached
  rw [h.ports, h.down]

theorem SameWiring.source? {current : Station} (h : current.fixed = station.fixed)
    (target : Target) : source? current target = source? station target := by
  simp only [Station.fixed, Prod.mk.injEq] at h
  unfold Lan.source?
  rw [h.2.2.1, h.2.2.2]

end Lan

/-- Takes all the mail in turn. -/
def Station.receiveAll (mail : List (StreamKey × Bytes)) (station : Station) : Station :=
  { station with
    node := mail.foldl (fun node (key, bytes) => node.receive key bytes Lan.arrivalTime)
      station.node }

theorem Station.receiveAll_append (first second : List (StreamKey × Bytes)) (station : Station) :
    station.receiveAll (first ++ second) = (station.receiveAll first).receiveAll second := by
  unfold receiveAll
  rw [List.foldl_append]

section ReceiveAll
variable {station : Station} {mail : List (StreamKey × Bytes)} {P : StreamKey → Packet → Prop}

theorem Station.receiveAll_cons (first : StreamKey × Bytes) (rest : List (StreamKey × Bytes))
    (station : Station) : station.receiveAll (first :: rest) =
      ({ station with
        node := station.node.receive first.1 first.2 Lan.arrivalTime }).receiveAll rest := rfl

/-- Mail only goes into the inbox. -/
theorem Station.receiveAll_eq (mail : List (StreamKey × Bytes)) (station : Station) :
    station.receiveAll mail = { station with
      node := { station.node with inbox := (station.receiveAll mail).node.inbox } } := by
  induction mail generalizing station with
  | nil => rfl
  | cons first rest ih =>
    rw [receiveAll_cons, ih]
    rfl

theorem Station.carries_receiveAll (h : station.node.inbox.Carries P)
    (hmail : ∀ item ∈ mail, ∃ packet, packet.encode = .ok item.2 ∧ P item.1 packet) :
    (station.receiveAll mail).node.inbox.Carries P := by
  induction mail generalizing station with
  | nil => exact h
  | cons first rest ih =>
    obtain ⟨packet, hencode, hpacket⟩ := hmail first List.mem_cons_self
    rw [receiveAll_cons]
    exact ih (h.receive hencode hpacket Lan.arrivalTime)
      fun item hitem => hmail item (List.mem_cons_of_mem _ hitem)

theorem Station.holds_receiveAll {key : StreamKey} {packet : Packet}
    (h : station.node.inbox.Holds key packet)
    (hmail : ∀ item ∈ mail, ∃ packet : Packet, packet.encode = .ok item.2) :
    (station.receiveAll mail).node.inbox.Holds key packet := by
  induction mail generalizing station with
  | nil => exact h
  | cons first rest ih =>
    obtain ⟨arrived, hencode⟩ := hmail first List.mem_cons_self
    rw [receiveAll_cons]
    exact ih (h.receive hencode first.1 Lan.arrivalTime)
      fun item hitem => hmail item (List.mem_cons_of_mem _ hitem)

/-- Each packet of the mail waits behind it. -/
theorem Station.holds_of_mem_mail (h : station.node.inbox.Carries P)
    (hmail : ∀ item ∈ mail, ∃ packet, packet.encode = .ok item.2 ∧ P item.1 packet)
    {item : StreamKey × Bytes} (hitem : item ∈ mail) {packet : Packet}
    (hencode : packet.encode = .ok item.2) :
    (station.receiveAll mail).node.inbox.Holds item.1 packet := by
  obtain ⟨front, back, rfl⟩ := List.append_of_mem hitem
  have hfront := Station.carries_receiveAll h
    fun other hother => hmail other (List.mem_append_left _ hother)
  rw [receiveAll_append, receiveAll_cons]
  refine Station.holds_receiveAll (hfront.holds_receive hencode item.1 Lan.arrivalTime)
    fun other hother => ?_
  obtain ⟨arrived, harrived, -⟩ :=
    hmail other (List.mem_append_right _ (List.mem_cons_of_mem _ hother))
  exact ⟨arrived, harrived⟩

end ReceiveAll

namespace Lan
variable {lan base : Lan} {i : Nat} {station : Station}

/-- What the ports of station `j` among the given ones get. -/
def mailAt (sender : SocketAddress) (bytes : Bytes) (ports : List Port) (j : Nat) :
    List (StreamKey × Bytes) :=
  (ports.filter (·.station == j)).map fun port => (⟨sender, port.subnet.address⟩, bytes)

/-- What station `j` gets of a datagram that a station sends. -/
def mailOf (lan : Lan) (station : Station) (datagram : Datagram) (j : Nat) :
    List (StreamKey × Bytes) :=
  match source? station datagram.target with
  | .error _ => []
  | .ok source =>
    mailAt ⟨source, station.node.config.port⟩ datagram.bytes (lan.reached source datagram.target) j

theorem station?_deliver (sender : SocketAddress) (bytes : Bytes) (ports : List Port) (lan : Lan)
    (j : Nat) : (lan.deliver sender bytes ports).station? j =
      (lan.station? j).map (Station.receiveAll (mailAt sender bytes ports j)) := by
  induction ports generalizing lan with
  | nil => exact Option.map_id'.symm
  | cons port rest ih =>
    show ((lan.receive port.station ⟨sender, port.subnet.address⟩ bytes).deliver sender bytes
      rest).station? j = _
    rw [ih, station?_receive]
    unfold mailAt
    by_cases hj : j = port.station
    · rw [if_pos hj, List.filter_cons_of_pos (by simp [hj]), ← hj, Option.map_map]
      rfl
    · rw [if_neg hj, List.filter_cons_of_neg (by simpa using Ne.symm hj)]

theorem sameWiring_deliver (sender : SocketAddress) (bytes : Bytes) (ports : List Port)
    (lan : Lan) : lan.SameWiring (lan.deliver sender bytes ports) := by
  induction ports generalizing lan with
  | nil => exact sameWiring_refl lan
  | cons port rest ih => exact (sameWiring_receive _ _ _ lan).trans (ih _)

/-- What a send leaves behind, but for the trace. -/
theorem send_eq (hwired : base.SameWiring lan) (hstation : base.station? i = some station)
    (datagram : Datagram) :
    ∃ event, ((link i).send datagram lan).2 =
      (match source? station datagram.target with
        | .error _ => lan
        | .ok source => lan.deliver ⟨source, station.node.config.port⟩ datagram.bytes
          (base.reached source datagram.target)).record event := by
  obtain ⟨current, hcurrent, hfixed⟩ := hwired.exists_station hstation
  have hconfig : current.node.config = station.node.config := (Prod.mk.inj hfixed).1
  simp only [link, hcurrent, SameWiring.source? hfixed, hconfig, hwired.reached]
  cases source? station datagram.target with
  | error error => exact ⟨_, rfl⟩
  | ok source => exact ⟨_, rfl⟩

theorem sameWiring_send (hwired : base.SameWiring lan) (hstation : base.station? i = some station)
    (datagram : Datagram) : base.SameWiring ((link i).send datagram lan).2 := by
  obtain ⟨event, hsend⟩ := send_eq hwired hstation datagram
  rw [hsend]
  refine hwired.trans (SameWiring.trans ?_ (sameWiring_record event _))
  split
  · exact sameWiring_refl lan
  · exact sameWiring_deliver _ _ _ lan

theorem station?_send (hwired : base.SameWiring lan) (hstation : base.station? i = some station)
    (datagram : Datagram) (j : Nat) : ((link i).send datagram lan).2.station? j =
      (lan.station? j).map (Station.receiveAll (base.mailOf station datagram j)) := by
  obtain ⟨event, hsend⟩ := send_eq hwired hstation datagram
  rw [hsend]
  unfold mailOf
  cases source? station datagram.target with
  | error error => exact Option.map_id'.symm
  | ok source => exact station?_deliver _ _ _ lan j

theorem transmit_snd {σ : Type} (link : Link σ) (datagrams : List Datagram) (state : σ) :
    (link.transmit datagrams state).2 =
      datagrams.foldl (fun state datagram => (link.send datagram state).2) state := by
  unfold Link.transmit
  generalize 0 = count
  induction datagrams generalizing count state with
  | nil => rfl
  | cons datagram rest ih =>
    simp only [List.foldl_cons]
    rcases link.send datagram state with ⟨fault | taken, next⟩
    · exact ih next count
    · exact ih next (count + 1)

theorem sameWiring_transmit (hwired : base.SameWiring lan)
    (hstation : base.station? i = some station) (datagrams : List Datagram) :
    base.SameWiring ((link i).transmit datagrams lan).2 := by
  rw [transmit_snd]
  induction datagrams generalizing lan with
  | nil => exact hwired
  | cons first rest ih => exact ih (sameWiring_send hwired hstation first)

/-- Every receiver gets every datagram, and nothing else happens to it. -/
theorem station?_transmit (hwired : base.SameWiring lan)
    (hstation : base.station? i = some station) (datagrams : List Datagram) (j : Nat) :
    ((link i).transmit datagrams lan).2.station? j = (lan.station? j).map
      (Station.receiveAll (datagrams.flatMap fun datagram => base.mailOf station datagram j)) := by
  rw [transmit_snd]
  induction datagrams generalizing lan with
  | nil => exact Option.map_id'.symm
  | cons first rest ih =>
    rw [List.foldl_cons, ih (sameWiring_send hwired hstation first), station?_send hwired hstation,
      Option.map_map, List.flatMap_cons]
    apply Option.map_congr
    intro current _
    exact (Station.receiveAll_append _ _ current).symm

/-- What station `j` gets of the round of a poll. -/
def mailOfPoll (lan : Lan) (station : Station) (now : Time) (j : Nat) : List (StreamKey × Bytes) :=
  ((station.node.listen now).node.announce now).1.flatMap fun datagram =>
    lan.mailOf station datagram j

theorem sameWiring_announce (hstation : lan.station? i = some station) (now : Time) :
    lan.SameWiring (lan.setNode i ((station.node.listen now).node.announce now).2) := by
  have hlisten := Node.listen_node now station.node
  refine sameWiring_setNode hstation ?_ ?_
  · show (station.node.listen now).node.config = _
    rw [hlisten]
  · show (station.node.listen now).node.adapters = _
    rw [hlisten]

theorem station?_poll (hstation : lan.station? i = some station) (now : Time) (j : Nat) :
    (lan.poll i now).2.station? j =
      if j = i then
        let after := ({ station with
          node := ((station.node.listen now).node.announce now).2 }).receiveAll
            (lan.mailOfPoll station now i)
        some { after with node := (after.node.forgetIdle now).2 }
      else (lan.station? j).map (Station.receiveAll (lan.mailOfPoll station now j)) := by
  have hwired := (sameWiring_announce hstation now).trans
    (sameWiring_tell i (station.node.listen now).notices.toList _)
  have hsent := station?_transmit hwired hstation ((station.node.listen now).node.announce now).1
  simp only [station?_tell, station?_setNode, hstation] at hsent
  have hself := hsent i
  rw [if_pos rfl] at hself
  simp only [poll, hstation]
  rw [hself]
  simp only [Option.map_some, station?_setNode, hself]
  by_cases hj : j = i
  · rw [if_pos hj, if_pos hj]
    rfl
  · rw [if_neg hj, if_neg hj, hsent, if_neg hj]
    rfl

theorem sameWiring_poll (i : Nat) (now : Time) (lan : Lan) :
    lan.SameWiring (lan.poll i now).2 := by
  cases hstation : lan.station? i with
  | none =>
    simp only [poll, hstation]
    exact sameWiring_refl lan
  | some station =>
    have hwired := sameWiring_transmit ((sameWiring_announce hstation now).trans
      (sameWiring_tell i (station.node.listen now).notices.toList _)) hstation
      ((station.node.listen now).node.announce now).1
    simp only [poll, hstation]
    split
    · exact hwired
    · next current hcurrent => exact hwired.trans (sameWiring_setNode hcurrent rfl rfl)

theorem mem_mailOf {datagram : Datagram} {j : Nat} {item : StreamKey × Bytes} :
    item ∈ lan.mailOf station datagram j ↔
      ∃ source port, source? station datagram.target = .ok source ∧
        port ∈ lan.reached source datagram.target ∧ port.station = j ∧
        item = (⟨⟨source, station.node.config.port⟩, port.subnet.address⟩, datagram.bytes) := by
  unfold mailOf
  cases source? station datagram.target with
  | error error => simp
  | ok source =>
    simp only [mailAt, List.mem_map, List.mem_filter, beq_iff_eq, Except.ok.injEq]
    constructor
    · intro h
      obtain ⟨port, ⟨hport, hj⟩, rfl⟩ := h
      exact ⟨source, port, rfl, hport, hj, rfl⟩
    · intro h
      obtain ⟨_, port, rfl, hport, hj, rfl⟩ := h
      exact ⟨port, ⟨hport, hj⟩, rfl⟩

theorem lookup_of_source? {target : Target} {source : Address}
    (h : source? station target = .ok source) :
    station.sources.lookup target.adapter = some source := by
  unfold source? at h
  split at h
  · cases h
  · cases h
  · split at h
    · cases h
    · next found hfound =>
      cases h
      exact hfound

/-- All that waits at the stations and all their routes have properties. -/
def Upholds (P : Nat → StreamKey → Packet → Prop) (Q : Nat → AdapterId → Route → Prop)
    (lan : Lan) : Prop :=
  ∀ i station, lan.station? i = some station → station.node.inbox.Carries (P i) ∧
    station.node.routes.All (Q i) ∧ station.node.routes.timeout = 90000

section Upholds
variable {P P' : Nat → StreamKey → Packet → Prop} {Q Q' : Nat → AdapterId → Route → Prop}
  {now : Time}

/-- What a discovery in a round says of the routes behind the poll. -/
def Announces (Q : AdapterId → Route → Prop) (now : Time) (station : Station) (adapter : AdapterId)
    (message : Discovery) : Prop :=
  message.sender = station.node.config.nodeId ∧ ∀ entry ∈ message.nodes, ∃ id route,
    id ≠ adapter ∧ Q id route ∧ route.shouldBeOnline now 90000 = true ∧ entry = route.entry hopCost

theorem of_mem_mailOfPoll {Q : AdapterId → Route → Prop} {j : Nat} {item : StreamKey × Bytes}
    (hroutes : (station.node.listen now).node.routes.All Q)
    (htimeout : station.node.routes.timeout = 90000)
    (h : item ∈ lan.mailOfPoll station now j) :
    ∃ adapter ∈ station.node.adapters.usable, ∃ message source port,
      Announces Q now station adapter.id message ∧
      (Packet.ofMessage (.discovery message)).encode = .ok item.2 ∧
      station.sources.lookup adapter.id = some source ∧
      port ∈ lan.reached source (.multicast adapter.id) ∧ port.station = j ∧
      item.1 = ⟨⟨source, station.node.config.port⟩, port.subnet.address⟩ := by
  obtain ⟨datagram, hdatagram, hitem⟩ := List.mem_flatMap.mp h
  obtain ⟨adapter, hadapter, message, htarget, hencode, hsender, hentries⟩ :=
    Schedule.of_mem_round (Node.of_mem_announce hdatagram)
  obtain ⟨source, port, hsource, hport, hj, rfl⟩ := mem_mailOf.mp hitem
  rw [htarget] at hsource hport
  refine ⟨adapter, hadapter, message, source, port, ⟨hsender, fun entry hentry => ?_⟩, hencode,
    lookup_of_source? hsource, hport, hj, rfl⟩
  obtain ⟨route, hroute, rfl⟩ := hentries entry hentry
  obtain ⟨⟨bucket, hbucket, hother, hmem⟩, honline, -⟩ := RouteTable.mem_candidates.mp hroute
  have hshould := Node.all_listen_online now station.node bucket hbucket route hmem
  rw [htimeout] at hshould
  exact ⟨bucket.1, route, hother, hroutes bucket hbucket route hmem, hshould ▸ honline, rfl⟩

/-- A poll keeps the properties if hearing keeps them and the round has them. -/
theorem Upholds.poll (h : lan.Upholds P Q) (hstation : lan.station? i = some station)
    (hpackets : ∀ j, j ≠ i → ∀ key packet, P j key packet → P' j key packet)
    (hroutes : ∀ j id route, Q j id route → Q' j id route)
    (hheard : ∀ heard ∈ station.node.heard now,
      RouteTable.Respects (Q' i) station.node.adapters heard)
    (honline : ∀ id (route : Route) online, Q' i id route → Q' i id { route with online })
    (hsent : ∀ adapter ∈ station.node.adapters.usable, ∀ message,
      Announces (Q' i) now station adapter.id message → ∀ source,
      station.sources.lookup adapter.id = some source →
      ∀ port ∈ lan.reached source (.multicast adapter.id),
        P' port.station ⟨⟨source, station.node.config.port⟩, port.subnet.address⟩
          (Packet.ofMessage (.discovery message))) :
    (lan.poll i now).2.Upholds P' Q' := by
  obtain ⟨hcarries, hall, htimeout⟩ := h i station hstation
  have hlistened : (station.node.listen now).node.routes.All (Q' i) :=
    Node.all_listen (hall.mono (hroutes i)) hheard honline
  have hmail (j : Nat) (item : StreamKey × Bytes) (hitem : item ∈ lan.mailOfPoll station now j) :
      ∃ packet : Packet, packet.encode = .ok item.2 ∧ P' j item.1 packet := by
    obtain ⟨adapter, hadapter, message, source, port, hannounces, hencode, hsource, hport, rfl,
      hkey⟩ := of_mem_mailOfPoll hlistened htimeout hitem
    rw [hkey]
    exact ⟨_, hencode, hsent adapter hadapter message hannounces source hsource port hport⟩
  intro j current hcurrent
  rw [station?_poll hstation] at hcurrent
  by_cases hj : j = i
  · rw [if_pos hj, Option.some.injEq] at hcurrent
    subst hj hcurrent
    have hdrained : ({ station with
        node := ((station.node.listen now).node.announce now).2 } : Station).node.inbox.Carries
          (P' j) := by
      show (station.node.listen now).node.inbox.Carries (P' j)
      rw [Node.listen_node]
      exact hcarries.process
    have hready := Station.carries_receiveAll hdrained (hmail j)
    rw [Station.receiveAll_eq]
    refine ⟨hready.evictIdle _ _, hlistened, ?_⟩
    exact (Node.timeout_listen now station.node).trans htimeout
  · rw [if_neg hj] at hcurrent
    obtain ⟨before, hbefore, rfl⟩ := Option.map_eq_some_iff.mp hcurrent
    obtain ⟨hcarries, hall, htimeout⟩ := h j before hbefore
    have hready := Station.carries_receiveAll (hcarries.mono (hpackets j hj)) (hmail j)
    rw [Station.receiveAll_eq]
    exact ⟨hready, hall.mono (hroutes j), htimeout⟩

end Upholds
end Lan
end RouteDiscovery

import RouteDiscovery.Proofs.Discovery.Datagrams
import RouteDiscovery.Proofs.Node.Poll
import RouteDiscovery.Proofs.Route.Horizon

/-!
Data goes straight to its destination or not at all. What stands in the way is told in a fixed
order: that no route is online, that none of them is direct, that the payload is too large for a
packet. If nothing does, a single datagram goes out on the first of the cheapest direct routes.
-/
namespace RouteDiscovery
open Wire

section EraseReps
variable {α : Type} [DecidableEq α]

theorem mem_eraseReps_loop (item first : α) (rest seen : List α) :
    item ∈ List.eraseRepsBy.loop (· == ·) first rest seen ↔
      item ∈ seen ∨ item = first ∨ item ∈ rest := by
  induction rest generalizing first seen with
  | nil =>
    rw [List.eraseRepsBy.loop, List.mem_reverse, List.mem_cons]
    simp [or_comm]
  | cons second rest ih =>
    rw [List.eraseRepsBy.loop, List.mem_cons]
    split
    · next hsame =>
      obtain rfl := eq_of_beq hsame
      rw [ih]
      tauto
    · rw [ih, List.mem_cons]
      tauto

/-- Leaving out repetitions loses nothing. -/
theorem mem_eraseReps {item : α} {items : List α} : item ∈ items.eraseReps ↔ item ∈ items := by
  cases items with
  | nil => rfl
  | cons first rest =>
    rw [List.eraseReps, List.eraseRepsBy, mem_eraseReps_loop, List.mem_cons]
    simp

end EraseReps

namespace RouteTable
variable {table : RouteTable} {node : NodeIdentity} {route : Route}

theorem mem_reachable : node ∈ table.reachable ↔
    ∃ route ∈ table.routes, route.online = true ∧ route.key.node = node := by
  simp only [reachable, mem_eraseReps, List.mem_mergeSort, List.mem_map, List.mem_filter, and_assoc]

/-- The online routes on which the node itself is the neighbour, in the order of the table. -/
def direct (table : RouteTable) (node : NodeIdentity) : List Route :=
  table.routes.filter fun route =>
    route.online && route.key.node == node && route.key.reporter == node.address

theorem mem_direct : route ∈ table.direct node ↔ route ∈ table.routes ∧ route.online = true ∧
    route.key.node = node ∧ route.key.reporter = node.address := by
  simp [direct, and_assoc]

theorem bestDirect?_eq (table : RouteTable) (node : NodeIdentity) :
    table.bestDirect? node = Route.cheapest? (table.direct node) := by
  unfold bestDirect? direct
  congr 1
  apply List.filter_congr
  intro route _
  rw [Bool.eq_iff_iff]
  simp only [RouteKey.isDirect, Bool.and_eq_true, beq_iff_eq]
  constructor
  · rintro ⟨⟨honline, hdirect⟩, rfl⟩
    exact ⟨⟨honline, rfl⟩, hdirect.symm⟩
  · rintro ⟨⟨honline, rfl⟩, hdirect⟩
    exact ⟨⟨honline, hdirect.symm⟩, rfl⟩

/-- There is no best route just to the nodes that cannot be reached. -/
theorem best?_eq_none_iff : table.best? node = none ↔ node ∉ table.reachable := by
  rw [best?, Route.cheapest?_eq_none_iff, List.filter_eq_nil_iff, mem_reachable]
  simp

theorem mem_reachable_of_direct (h : table.direct node ≠ []) : node ∈ table.reachable := by
  obtain ⟨route, hroute⟩ := List.exists_mem_of_ne_nil _ h
  obtain ⟨hmem, honline, hnode, -⟩ := mem_direct.mp hroute
  exact mem_reachable.mpr ⟨route, hmem, honline, hnode⟩

end RouteTable

/-- A packet has room for a payload of 65516 bytes. -/
theorem Packet.size_data_le_iff (message : DataMessage) :
    (Packet.ofMessage (.data message)).size ≤ Packet.maxSize ↔ message.payload.length ≤ 65516 := by
  simp only [Packet.size, Packet.ofMessage, Message.size, Message.bodySize, List.map_cons,
    List.map_nil, total_cons, total_nil, Packet.maxSize]
  omega

/-- What a link says is never one of the other errors. -/
theorem Link.eq_link_of_mapError {result : Except LinkError Nat} {error : Error}
    (h : result.mapError .link = .error error) : ∃ fault, error = .link fault := by
  cases result with
  | ok taken => cases h
  | error fault => exact ⟨fault, (Except.error.inj h).symm⟩

namespace Node
variable {node : Node} {destination : NodeIdentity} {payload : Bytes}

/-- A payload cannot be addressed for one of three reasons, and otherwise goes to the destination
itself. -/
theorem address_cases (node : Node) (destination : NodeIdentity) (payload : Bytes) :
    (destination ∉ node.routes.reachable ∧
        node.address destination payload = .error (.route (.noRoute destination))) ∨
      (destination ∈ node.routes.reachable ∧ node.routes.direct destination = [] ∧
        node.address destination payload = .error (.route (.notDirect destination))) ∨
      (node.routes.direct destination ≠ [] ∧ 65516 < payload.length ∧
        ∃ fault, node.address destination payload = .error (.codec fault)) ∨
      (node.routes.direct destination ≠ [] ∧ payload.length ≤ 65516 ∧ ∃ route bytes,
        Route.cheapest? (node.routes.direct destination) = some route ∧
        (Packet.ofMessage (.data ⟨node.config.nodeId, payload⟩)).encode = .ok bytes ∧
        node.address destination payload =
          .ok ⟨.unicast route.key.adapter destination.address, bytes⟩) := by
  unfold address
  rw [RouteTable.bestDirect?_eq]
  cases hbest : Route.cheapest? (node.routes.direct destination) with
  | none =>
    have hnone := Route.cheapest?_eq_none_iff.mp hbest
    cases hany : node.routes.best? destination with
    | none => exact .inl ⟨RouteTable.best?_eq_none_iff.mp hany, rfl⟩
    | some route =>
      have hreachable : destination ∈ node.routes.reachable := by
        by_contra hunreachable
        rw [RouteTable.best?_eq_none_iff.mpr hunreachable] at hany
        cases hany
      exact .inr (.inl ⟨hreachable, hnone, rfl⟩)
  | some route =>
    have hdirect : node.routes.direct destination ≠ [] :=
      List.ne_nil_of_mem (Route.cheapest?_spec hbest).1
    by_cases hsize : payload.length ≤ 65516
    · obtain ⟨bytes, hencode⟩ := Packet.exists_encode
        ((Packet.size_data_le_iff ⟨node.config.nodeId, payload⟩).mpr hsize)
      refine .inr (.inr (.inr ⟨hdirect, hsize, route, bytes, rfl, hencode, ?_⟩))
      simp only [hencode]
    · cases hencode : (Packet.ofMessage (.data ⟨node.config.nodeId, payload⟩)).encode with
      | ok bytes =>
        have hfits := (Packet.encode_eq_ok_iff.mp hencode).1
        exact absurd ((Packet.size_data_le_iff _).mp hfits) hsize
      | error fault =>
        exact .inr (.inr (.inl ⟨hdirect, Nat.lt_of_not_le hsize, fault, rfl⟩))

section SendData
variable {σ : Type} {link : Link σ} {state : σ}

theorem sendData_of_error {error : Error} (h : node.address destination payload = .error error) :
    node.sendData link destination payload state = (.error error, state) := by
  simp only [sendData, h]

theorem sendData_overheard {datagram : Datagram}
    (h : node.address destination payload = .ok datagram) :
    node.sendData link.overheard destination payload (state, []) =
      ((link.send datagram state).1.mapError .link, (link.send datagram state).2, [datagram]) := by
  simp only [sendData, h]
  rfl

end SendData

/-- Sending fails for want of a route just if the destination cannot be reached, for want of a
direct one just if it can be but none of its online routes was reported by the destination itself,
and because of the payload just if there is such a route and the payload has more than 65516 bytes.
Then the link is not called. Otherwise it is handed a single datagram, for the destination, on the
adapter of the first of the cheapest such routes; this holds one data message with the number of the
node and the payload, and what the link says of it is the result. The node itself is only read. -/
theorem sendData_straight {σ : Type} (link : Link σ) (node : Node) (destination : NodeIdentity)
    (payload : Bytes) (state : σ) :
    let direct := node.routes.direct destination
    let sent := node.sendData link.overheard destination payload (state, [])
    (sent.1 = .error (.route (.noRoute destination)) ↔ destination ∉ node.routes.reachable) ∧
      (sent.1 = .error (.route (.notDirect destination)) ↔
        destination ∈ node.routes.reachable ∧ direct = []) ∧
      ((∃ fault, sent.1 = .error (.codec fault)) ↔ direct ≠ [] ∧ 65516 < payload.length) ∧
      (destination ∉ node.routes.reachable ∨ direct = [] ∨ 65516 < payload.length →
        sent.2 = (state, [])) ∧
      (direct ≠ [] → payload.length ≤ 65516 → ∃ front route back bytes,
        direct = front ++ route :: back ∧
        (∀ other ∈ front, route.cost < other.cost) ∧ (∀ other ∈ back, route.cost ≤ other.cost) ∧
        ((∀ other ∈ direct, other.pathSum < 0x100000000) →
          (∀ other ∈ front, route.pathSum < other.pathSum) ∧
            ∀ other ∈ back, route.pathSum ≤ other.pathSum) ∧
        Packet.decode bytes = .ok (.ofMessage (.data ⟨node.config.nodeId, payload⟩)) ∧
        let datagram : Datagram := ⟨.unicast route.key.adapter destination.address, bytes⟩
        let (result, next) := link.send datagram state
        sent = (result.mapError .link, next, [datagram])) := by
  intro direct sent
  rcases node.address_cases destination payload with ⟨hunreachable, haddress⟩ |
    ⟨hreachable, hnone, haddress⟩ | ⟨hdirect, hsize, fault, haddress⟩ |
    ⟨hdirect, hsize, route, bytes, hbest, hencode, haddress⟩
  · have hsent : sent = (.error (.route (.noRoute destination)), state, []) :=
      sendData_of_error haddress
    have hnone : direct = [] := by
      by_contra hdirect
      exact hunreachable (RouteTable.mem_reachable_of_direct hdirect)
    simp [hsent, hunreachable, hnone]
  · have hsent : sent = (.error (.route (.notDirect destination)), state, []) :=
      sendData_of_error haddress
    have hnone : direct = [] := hnone
    simp [hsent, hreachable, hnone]
  · have hsent : sent = (.error (.codec fault), state, []) := sendData_of_error haddress
    have hreachable := RouteTable.mem_reachable_of_direct hdirect
    have hdirect : direct ≠ [] := hdirect
    simp [hsent, hreachable, hdirect, hsize, Nat.not_le.mpr hsize]
  · have hsent : sent = (_, _, _) := sendData_overheard haddress
    have hreachable := RouteTable.mem_reachable_of_direct hdirect
    have hlink {error : Error} (herror : sent.1 = .error error) : ∃ fault, error = .link fault :=
      Link.eq_link_of_mapError ((congrArg Prod.fst hsent).symm.trans herror)
    refine ⟨⟨fun herror => ?_, absurd hreachable⟩, ⟨fun herror => ?_, fun h => absurd h.2 hdirect⟩,
      ⟨fun ⟨fault, herror⟩ => ?_, fun h => absurd hsize (Nat.not_le.mpr h.2)⟩, ?_, fun _ _ => ?_⟩
    · obtain ⟨fault, hfault⟩ := hlink herror
      cases hfault
    · obtain ⟨fault, hfault⟩ := hlink herror
      cases hfault
    · obtain ⟨_, hfault⟩ := hlink herror
      cases hfault
    · rintro (hunreachable | hnone | hlarge)
      · exact absurd hreachable hunreachable
      · exact absurd hnone hdirect
      · exact absurd hsize (Nat.not_le.mpr hlarge)
    · obtain ⟨front, back, hsplit, hfront, hback, hexact⟩ :=
        Route.exists_exact_split_of_cheapest? hbest
      exact ⟨front, route, back, bytes, hsplit, hfront, hback, hexact,
        Packet.decode_eq_ok_iff.mpr hencode, hsent⟩

/-- A cheaper route goes through a relay, another one is offline, and two direct ones cost alike. -/
example :
    let route (adapter : String) (reporter : Address) (path : List UInt16) (online : Bool) :
        Route :=
      { key := ⟨⟨8, ⟨9⟩⟩, ⟨adapter⟩, reporter⟩, path, mtu := 1500, online, lastDiscovery := 0 }
    let node : Node :=
      { config := {}
        routes := { buckets := [(⟨"e0"⟩, [route "e0" ⟨5⟩ [1] true]),
          (⟨"e1"⟩, [route "e1" ⟨9⟩ [2] false]), (⟨"e2"⟩, [route "e2" ⟨9⟩ [256] true]),
          (⟨"e3"⟩, [route "e3" ⟨9⟩ [256] true])] } }
    (node.sendData (Link.recording []) ⟨8, ⟨9⟩⟩ [7] #[]).2.map (·.target) =
      #[.unicast ⟨"e2"⟩ ⟨9⟩] := by
  decide +kernel

end Node
end RouteDiscovery

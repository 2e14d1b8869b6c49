import RouteDiscovery.Node
import RouteDiscovery.Proofs.Discovery.Round
import RouteDiscovery.Proofs.Inbox.Contents

/-!
What a poll does to a node: it hears the messages that wait in the inbox, which changes the routes
only, tells the listener of them, and hands a round of announcements to the link.
-/
namespace RouteDiscovery
open Wire

/-- Hearing the message leaves a property of routes standing. -/
def RouteTable.Respects (P : AdapterId → Route → Prop) (adapters : AdapterTable) :
    Message × Reception → Prop
  | (.discovery message, reception) => ∀ adapter,
    adapters.owner? reception.sender.address = none →
    adapters.owner? reception.recipient = some adapter → ∀ key path,
    (RouteTable.told message adapter.id reception.sender.address).lookup key = some path →
      (∀ mtu, P key.adapter { key, path, mtu, lastDiscovery := reception.time }) ∧
      ∀ route : Route, route.key = key → P key.adapter route →
        P key.adapter { route with lastDiscovery := reception.time }
  | (.data message, reception) => ∀ id (route : Route),
    route.key.node = ⟨message.sender, reception.sender.address⟩ → P id route →
      P id { route with lastData := some reception.time }

namespace Polling
variable {P : AdapterId → Route → Prop} {heard : Message × Reception} {polling : Polling}

theorem hear_node (heard : Message × Reception) (polling : Polling) :
    (polling.hear heard).node =
      { polling.node with routes := (polling.hear heard).node.routes } := by
  obtain ⟨message | message, reception⟩ := heard
  · simp only [hear, hearDiscovery]
    split <;> rfl
  · rfl

theorem hear_discovery_routes (message : Discovery) (reception : Reception) (polling : Polling) :
    (polling.hear (.discovery message, reception)).node.routes =
      if (polling.node.adapters.owner? reception.sender.address).isSome then polling.node.routes
      else (polling.node.routes.learn polling.node.adapters message reception).2.takeEvents.2 := by
  simp only [hear, hearDiscovery]
  split <;> rfl

theorem hear_data_routes (message : DataMessage) (reception : Reception) (polling : Polling) :
    (polling.hear (.data message, reception)).node.routes =
      (polling.node.routes.recordData polling.node.adapters message reception).2 := rfl

theorem foldl_hear_node (messages : List (Message × Reception)) (polling : Polling) :
    (messages.foldl hear polling).node =
      { polling.node with routes := (messages.foldl hear polling).node.routes } := by
  induction messages generalizing polling with
  | nil => rfl
  | cons first rest ih =>
    rw [List.foldl_cons, ih, hear_node]

theorem all_hear (h : polling.node.routes.All P)
    (hheard : RouteTable.Respects P polling.node.adapters heard) :
    (polling.hear heard).node.routes.All P := by
  obtain ⟨message | message, reception⟩ := heard
  · simp only [hear, hearDiscovery]
    split
    · exact h
    · next hecho =>
      have hsender : polling.node.adapters.owner? reception.sender.address = none := by
        simpa using hecho
      show (RouteTable.learn _ _ _ _).2.All P
      unfold RouteTable.learn
      cases howner : polling.node.adapters.owner? reception.recipient with
      | none => exact h
      | some adapter =>
        have htold := hheard adapter hsender howner
        exact h.hearAll (fun route path hlookup => (htold route.key path hlookup).2 route rfl)
          fun key path mtu hlookup => (htold key path hlookup).1 mtu
  · exact h.recordData hheard

theorem all_foldl_hear {messages : List (Message × Reception)} (h : polling.node.routes.All P)
    (hheard : ∀ heard ∈ messages, RouteTable.Respects P polling.node.adapters heard) :
    (messages.foldl hear polling).node.routes.All P := by
  induction messages generalizing polling with
  | nil => exact h
  | cons first rest ih =>
    apply ih (all_hear h (hheard first List.mem_cons_self))
    intro heard hmem
    rw [hear_node]
    exact hheard heard (List.mem_cons_of_mem _ hmem)

theorem timeout_hear (heard : Message × Reception) (polling : Polling) :
    (polling.hear heard).node.routes.timeout = polling.node.routes.timeout := by
  obtain ⟨message | message, reception⟩ := heard
  · simp only [hear, hearDiscovery]
    split
    · rfl
    · show (RouteTable.learn _ _ _ _).2.timeout = _
      unfold RouteTable.learn
      cases polling.node.adapters.owner? reception.recipient with
      | none => rfl
      | some adapter => exact RouteTable.timeout_hearAll _ _ _ _
  · exact RouteTable.timeout_recordData _ _ _ _

theorem timeout_foldl_hear (messages : List (Message × Reception)) (polling : Polling) :
    (messages.foldl hear polling).node.routes.timeout = polling.node.routes.timeout := by
  induction messages generalizing polling with
  | nil => rfl
  | cons first rest ih => rw [List.foldl_cons, ih, timeout_hear]

theorem notices_dispatch (polling : Polling) :
    polling.notices.toList <+: polling.dispatch.notices.toList := by
  simp only [dispatch, Array.toList_appendList, List.prefix_append]

/-- Hearing goes on with the notices. -/
theorem notices_hear (heard : Message × Reception) (polling : Polling) :
    polling.notices.toList <+: (polling.hear heard).notices.toList := by
  obtain ⟨message | message, reception⟩ := heard
  · simp only [hear, hearDiscovery]
    split
    · exact List.prefix_rfl
    · simp only [tell, dispatch, Array.toList_push, Array.toList_appendList, List.append_assoc,
        List.prefix_append]
  · simp only [hear, hearData, tell, Array.toList_push, List.prefix_append]

theorem notices_foldl_hear (messages : List (Message × Reception)) (polling : Polling) :
    polling.notices.toList <+: (messages.foldl hear polling).notices.toList := by
  induction messages generalizing polling with
  | nil => exact List.prefix_rfl
  | cons first rest ih => exact (notices_hear first polling).trans (ih (polling.hear first))

theorem told_foldl_hear {messages : List (Message × Reception)} {message : Discovery}
    {reception : Reception} (h : (.discovery message, reception) ∈ messages)
    (hsender : polling.node.adapters.owner? reception.sender.address = none) :
    Notice.discovery message reception ∈ (messages.foldl hear polling).notices := by
  induction messages generalizing polling with
  | nil => exact absurd h List.not_mem_nil
  | cons first rest ih =>
    rcases List.mem_cons.mp h with hfirst | hrest
    · have hself : Notice.discovery message reception ∈ (polling.hear first).notices := by
        rw [← hfirst]
        simp only [hear, hearDiscovery, hsender]
        exact Array.mem_push_self
      rw [List.foldl_cons, ← Array.mem_toList_iff]
      exact (notices_foldl_hear rest _).subset (Array.mem_toList_iff.mpr hself)
    · apply ih hrest
      rw [hear_node]
      exact hsender

section HeardAt
variable {now : Time} {key : RouteKey} {messages : List (Message × Reception)}

theorem heardAt_hear (h : polling.node.routes.HeardAt key now)
    (hheard : (∃ discovery, heard.1 = .discovery discovery) ∧ heard.2.time = now) :
    (polling.hear heard).node.routes.HeardAt key now := by
  obtain ⟨_, reception⟩ := heard
  obtain ⟨⟨discovery, rfl⟩, rfl⟩ := hheard
  simp only [hear, hearDiscovery]
  split
  · exact h
  · show (RouteTable.learn _ _ _ _).2.HeardAt key _
    unfold RouteTable.learn
    split
    · exact h
    · exact h.hearAll _

theorem heardAt_foldl_hear (h : polling.node.routes.HeardAt key now)
    (hall : ∀ heard ∈ messages, (∃ discovery, heard.1 = .discovery discovery) ∧
      heard.2.time = now) : (messages.foldl hear polling).node.routes.HeardAt key now := by
  induction messages generalizing polling with
  | nil => exact h
  | cons first rest ih =>
    exact ih (heardAt_hear h (hall first List.mem_cons_self))
      fun heard hheard => hall heard (List.mem_cons_of_mem _ hheard)

/-- A discovery that is no echo is learned when it is heard, and what follows it at the same time
does not undo that. -/
theorem heardAt_of_told {message : Discovery} {reception : Reception} {adapter found : Adapter}
    {path : List UInt16} (hall : ∀ heard ∈ messages, (∃ discovery, heard.1 = .discovery discovery) ∧
      heard.2.time = now)
    (hmem : (.discovery message, reception) ∈ messages)
    (hsender : polling.node.adapters.owner? reception.sender.address = none)
    (howner : polling.node.adapters.owner? reception.recipient = some adapter)
    (hfound : polling.node.adapters.find? key.adapter = some found)
    (htold : (RouteTable.told message adapter.id reception.sender.address).lookup key = some path) :
    (messages.foldl hear polling).node.routes.HeardAt key now := by
  have htime := (hall _ hmem).2
  obtain ⟨front, back, rfl⟩ := List.append_of_mem hmem
  have hadapters : (front.foldl hear polling).node.adapters = polling.node.adapters := by
    rw [foldl_hear_node]
  rw [List.foldl_append, List.foldl_cons]
  refine heardAt_foldl_hear ?_ fun heard hheard =>
    hall heard (List.mem_append_right _ (List.mem_cons_of_mem _ hheard))
  subst htime
  rw [← hadapters] at hsender howner hfound
  simp only [hear, hearDiscovery, hsender]
  show (RouteTable.learn _ _ _ _).2.HeardAt key _
  unfold RouteTable.learn
  rw [howner]
  exact RouteTable.heardAt_hearAll hfound htold

end HeardAt

end Polling

namespace Node
variable {P : AdapterId → Route → Prop} {node : Node} {now : Time}

theorem eq_of_create {config : Config} (h : create config = .ok node) :
    node = { config, schedule := { interval := config.discoveryInterval } } := by
  unfold create at h
  split at h
  · cases h
  · exact (Except.ok.inj h).symm

/-- The messages that a poll hears. -/
def heard (now : Time) (node : Node) : List (Message × Reception) :=
  node.inbox.process.1.flatMap (·.messages now)

theorem time_of_mem_heard {heard : Message × Reception} (h : heard ∈ node.heard now) :
    heard.2.time = now := by
  obtain ⟨batch, -, hmessages⟩ := List.mem_flatMap.mp h
  obtain ⟨packet, -, hmem⟩ := List.mem_flatMap.mp hmessages
  obtain ⟨message, -, rfl⟩ := List.mem_map.mp hmem
  rfl

/-- Every message of a packet that waits is heard. -/
theorem mem_heard_of_holds {key : StreamKey} {packet : Packet} (h : node.inbox.Holds key packet)
    {message : Message} (hmem : message ∈ packet.messages) (now : Time) :
    (message, ⟨key.sender, key.recipient, now⟩) ∈ node.heard now := by
  obtain ⟨batch, hbatch, rfl, hpacket⟩ := h.exists_batch
  exact List.mem_flatMap.mpr ⟨batch, hbatch, List.mem_flatMap.mpr
    ⟨packet, hpacket, List.mem_map.mpr ⟨message, hmem, rfl⟩⟩⟩

theorem of_mem_heard {Q : StreamKey → Packet → Prop} (h : node.inbox.Carries Q)
    {message : Message} {reception : Reception} (hheard : (message, reception) ∈ node.heard now) :
    reception.time = now ∧
      ∃ packet, Q ⟨reception.sender, reception.recipient⟩ packet ∧ message ∈ packet.messages := by
  obtain ⟨batch, hbatch, hmessages⟩ := List.mem_flatMap.mp hheard
  obtain ⟨packet, hpacket, hmem⟩ := List.mem_flatMap.mp hmessages
  obtain ⟨found, hfound, heq⟩ := List.mem_map.mp hmem
  cases heq
  exact ⟨rfl, packet, h.of_mem_batches hbatch hpacket, hfound⟩

/-- The state in which a poll is when it has heard all messages. -/
def afterHearing (now : Time) (node : Node) : Polling :=
  (node.heard now).foldl Polling.hear
    { node := { node with inbox := node.inbox.process.2 }
      report := { packets := total (node.inbox.process.1.map (·.packets.length)) } }

theorem listen_routes_buckets (now : Time) (node : Node) :
    (node.listen now).node.routes.buckets =
      ((node.afterHearing now).node.routes.sweep now).2.buckets := rfl

theorem mem_listen_notices {notice : Notice} (h : notice ∈ (node.afterHearing now).notices) :
    notice ∈ (node.listen now).notices := by
  rw [← Array.mem_toList_iff] at h ⊢
  exact (Polling.notices_dispatch { node.afterHearing now with
    node := { (node.afterHearing now).node with
      routes := ((node.afterHearing now).node.routes.sweep now).2 } }).subset h

theorem listen_node (now : Time) (node : Node) :
    (node.listen now).node =
      { node with inbox := node.inbox.process.2, routes := (node.listen now).node.routes } := by
  have hfold := Polling.foldl_hear_node (node.heard now)
    { node := { node with inbox := node.inbox.process.2 }
      report := { packets := total (node.inbox.process.1.map (·.packets.length)) } }
  show { (node.afterHearing now).node with routes := (node.listen now).node.routes } = _
  unfold afterHearing
  rw [hfold]

theorem all_listen (h : node.routes.All P)
    (hheard : ∀ heard ∈ node.heard now, RouteTable.Respects P node.adapters heard)
    (honline : ∀ id (route : Route) online, P id route → P id { route with online }) :
    (node.listen now).node.routes.All P := by
  unfold RouteTable.All
  rw [listen_routes_buckets]
  exact (Polling.all_foldl_hear h hheard).sweep honline now

theorem timeout_listen (now : Time) (node : Node) :
    (node.listen now).node.routes.timeout = node.routes.timeout :=
  Polling.timeout_foldl_hear (node.heard now) _

/-- Behind a poll every online flag is what it should be. -/
theorem all_listen_online (now : Time) (node : Node) :
    (node.listen now).node.routes.All fun _ route =>
      route.online = route.shouldBeOnline now node.routes.timeout := by
  have hswept := RouteTable.all_sweep_online now (node.afterHearing now).node.routes
  have htimeout : (node.afterHearing now).node.routes.timeout = node.routes.timeout :=
    Polling.timeout_foldl_hear (node.heard now) _
  rw [htimeout] at hswept
  exact hswept

theorem told_listen {message : Discovery} {reception : Reception}
    (h : (.discovery message, reception) ∈ node.heard now)
    (hsender : node.adapters.owner? reception.sender.address = none) :
    Notice.discovery message reception ∈ (node.listen now).notices :=
  mem_listen_notices (Polling.told_foldl_hear h hsender)

/-- A node that a waiting discovery tells of is online behind the poll. -/
theorem online_of_heard {message : Discovery} {reception : Reception} {adapter : Adapter}
    {who : NodeIdentity}
    (hall : ∀ heard ∈ node.heard now, ∃ discovery, heard.1 = .discovery discovery)
    (hheard : (.discovery message, reception) ∈ node.heard now)
    (hsender : node.adapters.owner? reception.sender.address = none)
    (howner : node.adapters.owner? reception.recipient = some adapter)
    (htells : who = ⟨message.sender, reception.sender.address⟩ ∨
      ∃ entry ∈ message.nodes, who = ⟨entry.id, entry.address⟩)
    (htimeout : 0 < node.routes.timeout) :
    ∃ bucket ∈ (node.listen now).node.routes.buckets, bucket.1 = adapter.id ∧
      ∃ route ∈ bucket.2, route.key.node = who ∧ route.online = true := by
  obtain ⟨path, htold⟩ := RouteTable.exists_lookup_told htells adapter.id
  have hfound : ∃ found, node.adapters.find? adapter.id = some found := by
    rw [← Option.isSome_iff_exists, AdapterTable.find?, List.find?_isSome]
    exact ⟨adapter, List.mem_of_find?_eq_some howner, beq_self_eq_true _⟩
  obtain ⟨found, hfound⟩ := hfound
  have hlearned : (node.afterHearing now).node.routes.HeardAt
      ⟨who, adapter.id, reception.sender.address⟩ now :=
    Polling.heardAt_of_told (fun heard hmem => ⟨hall heard hmem, time_of_mem_heard hmem⟩) hheard
      hsender howner hfound htold
  have hpositive : 0 < (node.afterHearing now).node.routes.timeout := by
    rw [show (node.afterHearing now).node.routes.timeout = node.routes.timeout from
      Polling.timeout_foldl_hear (node.heard now) _]
    exact htimeout
  obtain ⟨bucket, hbucket, hid, route, hroute, hkey, honline⟩ := hlearned.sweep hpositive
  exact ⟨bucket, hbucket, hid, route, hroute, by rw [hkey], honline⟩

section Poll
variable {σ : Type} {link : Link σ} {state : σ}

theorem poll_adapters : (node.poll link now state).1.node.adapters = node.adapters := by
  show (node.listen now).node.adapters = _
  rw [listen_node]

theorem poll_config : (node.poll link now state).1.node.config = node.config := by
  show (node.listen now).node.config = _
  rw [listen_node]

/-- Nothing waits behind a poll. -/
theorem carries_poll {Q R : StreamKey → Packet → Prop} (h : node.inbox.Carries Q) :
    (node.poll link now state).1.node.inbox.Carries R := by
  show (Inbox.evictIdle now _ (node.listen now).node.inbox).2.Carries R
  rw [listen_node]
  exact h.process.evictIdle _ _

theorem mem_announce {datagram : Datagram} (hdue : node.schedule.isDue now = true)
    (h : datagram ∈
      Schedule.round node.config.nodeId (node.listen now).node.routes node.adapters) :
    datagram ∈ ((node.listen now).node.announce now).1 := by
  rw [listen_node]
  simp only [announce, Schedule.plan, hdue, if_true]
  exact h

theorem of_mem_announce {datagram : Datagram}
    (h : datagram ∈ ((node.listen now).node.announce now).1) :
    datagram ∈ Schedule.round node.config.nodeId (node.listen now).node.routes node.adapters := by
  have hround := Schedule.mem_round_of_mem_plan h
  rwa [listen_node] at hround

end Poll
end Node

theorem Link.mem_transmit_recording {failing : List AdapterId} {datagrams : List Datagram}
    {taken : Array Datagram} {datagram : Datagram}
    (h : datagram ∈ ((Link.recording failing).transmit datagrams taken).2) :
    datagram ∈ datagrams ∨ datagram ∈ taken := by
  unfold transmit at h
  generalize 0 = count at h
  induction datagrams generalizing taken count with
  | nil => exact .inr h
  | cons first rest ih =>
    rw [List.foldl_cons] at h
    by_cases hfails : failing.contains first.target.adapter = true
    · simp only [recording, hfails, if_true] at h
      exact (ih _ h).imp_left (List.mem_cons_of_mem _)
    · simp only [recording, hfails] at h
      rcases ih _ h with hrest | htaken
      · exact .inl (List.mem_cons_of_mem _ hrest)
      · rcases Array.mem_push.mp htaken with hold | hfirst
        · exact .inr hold
        · exact .inl (hfirst ▸ List.mem_cons_self)

/-- A node sends at most one datagram for a payload. -/
theorem Node.of_mem_sendData {node : Node} {failing : List AdapterId} {destination : NodeIdentity}
    {payload : Bytes} {datagram : Datagram}
    (h : datagram ∈ (node.sendData (Link.recording failing) destination payload #[]).2) :
    ∃ message, (Packet.ofMessage (.data message)).encode = .ok datagram.bytes := by
  unfold sendData at h
  cases haddress : node.address destination payload with
  | error error => simp [haddress] at h
  | ok sent =>
    have hsame : datagram = sent := by
      simp only [haddress, Link.recording] at h
      split at h
      · exact absurd h (Array.not_mem_empty _)
      · exact (Array.mem_push.mp h).resolve_left (Array.not_mem_empty _)
    unfold address at haddress
    split at haddress
    · split at haddress <;> cases haddress
    · split at haddress
      · cases haddress
      · next bytes hencode =>
        cases haddress
        rw [hsame]
        exact ⟨_, hencode⟩

end RouteDiscovery

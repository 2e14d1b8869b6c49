import RouteDiscovery.Proofs.Node.Run
import RouteDiscovery.Proofs.Route.Apart

/-!
A peer has no say in what others report. Whatever it sends, the routes that it neither reports nor
is the end of are those that there would be without it.
-/
namespace RouteDiscovery
open Wire

namespace Inbox
variable {peer : Address} {streams : List (StreamKey × Stream)} {first second : Inbox}
  {key : StreamKey} {bytes : Bytes} {now : Time}

/-- The streams that come from others than the peer. -/
def apart (peer : Address) (streams : List (StreamKey × Stream)) : List (StreamKey × Stream) :=
  streams.filter fun entry => entry.1.sender.address != peer

theorem apart_feed_of_peer (hkey : key.sender.address = peer) :
    apart peer (feed key bytes now streams) = apart peer streams := by
  induction streams with
  | nil => simp [apart, feed, hkey]
  | cons first rest ih =>
    obtain ⟨other, stream⟩ := first
    unfold feed
    unfold apart at ih ⊢
    split_ifs with hsame hless
    · subst hsame
      simp [hkey]
    · simp [hkey]
    · simp [List.filter_cons, ih]

theorem feed_of_forall_lt (h : ∀ entry ∈ streams, key.rank < entry.1.rank) :
    feed key bytes now streams = (key, ({} : Stream).receive bytes now) :: streams := by
  cases streams with
  | nil => rfl
  | cons first rest =>
    have hless := h first List.mem_cons_self
    have hdiffers : key ≠ first.1 := by
      intro hsame
      rw [hsame] at hless
      exact Nat.lt_irrefl _ hless
    simp [feed, hless, hdiffers]

theorem Sorted.apart_feed (h : Sorted streams) (hkey : key.sender.address ≠ peer) :
    apart peer (Inbox.feed key bytes now streams) =
      Inbox.feed key bytes now (apart peer streams) := by
  induction streams with
  | nil => simp [apart, Inbox.feed, hkey]
  | cons first rest ih =>
    obtain ⟨other, stream⟩ := first
    have hrest := ih (List.Pairwise.of_cons h)
    unfold apart at hrest ⊢
    by_cases hsame : key = other
    · subst hsame
      simp [Inbox.feed, hkey]
    · by_cases hless : key.rank < other.rank
      · -- The new stream stands in front of all others, also of those that are left.
        have hfront : ∀ entry ∈ (other, stream) :: rest, key.rank < entry.1.rank := by
          intro entry hentry
          rcases List.mem_cons.mp hentry with rfl | hmem
          · exact hless
          · exact hless.trans ((List.pairwise_cons.mp h).1 entry hmem)
        rw [feed_of_forall_lt hfront, feed_of_forall_lt fun entry hentry =>
          hfront entry (List.mem_of_mem_filter hentry)]
        simp [hkey]
      · by_cases hother : other.sender.address = peer <;>
          simp [Inbox.feed, hsame, hless, hother, hrest]

/-- The inboxes hold the same streams that come from others than the peer. -/
structure Agree (peer : Address) (first second : Inbox) : Prop where
  sorted : Sorted first.streams
  sorted' : Sorted second.streams
  apart_eq : apart peer first.streams = apart peer second.streams

theorem Agree.symm (h : Agree peer first second) : Agree peer second first :=
  ⟨h.sorted', h.sorted, h.apart_eq.symm⟩

theorem Agree.trans {third : Inbox} (h : Agree peer first second) (h' : Agree peer second third) :
    Agree peer first third :=
  ⟨h.sorted, h'.sorted', h.apart_eq.trans h'.apart_eq⟩

theorem agree_new (peer : Address) : Agree peer {} {} :=
  ⟨List.Pairwise.nil, List.Pairwise.nil, rfl⟩

theorem Agree.receive (h : Agree peer first second) (key : StreamKey) (bytes : Bytes) (now : Time) :
    Agree peer (first.receive key bytes now) (second.receive key bytes now) where
  sorted := h.sorted.feed key bytes now
  sorted' := h.sorted'.feed key bytes now
  apart_eq := by
    by_cases hkey : key.sender.address = peer
    · simp only [Inbox.receive, apart_feed_of_peer hkey, h.apart_eq]
    · simp only [Inbox.receive, h.sorted.apart_feed hkey, h.sorted'.apart_feed hkey, h.apart_eq]

theorem Agree.receive_of_peer (h : Agree peer first second) (hkey : key.sender.address = peer)
    (bytes : Bytes) (now : Time) : Agree peer (first.receive key bytes now) second where
  sorted := h.sorted.feed key bytes now
  sorted' := h.sorted'
  apart_eq := by simp only [Inbox.receive, apart_feed_of_peer hkey, h.apart_eq]

theorem Agree.process (h : Agree peer first second) :
    Agree peer first.process.2 second.process.2 where
  sorted := h.sorted.process
  sorted' := h.sorted'.process
  apart_eq := by
    have hsame := h.apart_eq
    simp only [process_streams, apart, List.filter_map, Function.comp_def] at hsame ⊢
    rw [hsame]

theorem Agree.evictIdle (h : Agree peer first second) (now : Time) (timeout : Nat) :
    Agree peer (first.evictIdle now timeout).2 (second.evictIdle now timeout).2 where
  sorted := h.sorted.filter _
  sorted' := h.sorted'.filter _
  apart_eq := by
    have hsame := h.apart_eq
    simp only [Inbox.evictIdle, apart] at hsame ⊢
    rw [List.filter_comm, hsame, List.filter_comm]

end Inbox

/-- The bytes come from the peer, from whatever port. -/
def Arrival.isFrom (peer : Address) (arrival : Arrival) : Bool :=
  arrival.key.sender.address == peer

theorem Arrival.isFrom_iff {peer : Address} {arrival : Arrival} :
    arrival.isFrom peer = true ↔ arrival.key.sender.address = peer :=
  beq_iff_eq

section Arrivals
variable {peer : Address} {first second : Inbox}

/-- What arrives from the peer may as well be left out. -/
theorem Inbox.Agree.receiveAll (h : Inbox.Agree peer first second) (arrivals : List Arrival) :
    Inbox.Agree peer (first.receiveAll arrivals)
      (second.receiveAll (arrivals.filter fun arrival => !arrival.isFrom peer)) := by
  induction arrivals generalizing first second with
  | nil => exact h
  | cons arrival rest ih =>
    by_cases hpeer : arrival.isFrom peer = true
    · rw [List.filter_cons_of_neg (by simp [hpeer])]
      exact ih (h.receive_of_peer (Arrival.isFrom_iff.mp hpeer) arrival.bytes arrival.time)
    · rw [List.filter_cons_of_pos (by simp [hpeer])]
      exact ih (h.receive arrival.key arrival.bytes arrival.time)

end Arrivals

/-- The message was sent by another than the peer. -/
def Reception.isApart (peer : Address) (heard : Message × Reception) : Bool :=
  heard.2.sender.address != peer

namespace Polling
variable {peer : Address} {first second : Polling}

/-- Messages of the peer are not seen. -/
theorem agree_hear {heard : Message × Reception} (hpeer : ¬ Reception.isApart peer heard = true)
    (polling : Polling) :
    RouteTable.Agree peer (polling.hear heard).node.routes polling.node.routes := by
  have hsender : heard.2.sender.address = peer := by simpa [Reception.isApart] using hpeer
  obtain ⟨message | message, reception⟩ := heard
  · rw [hear_discovery_routes]
    split
    · exact RouteTable.agree_refl _ _
    · exact (RouteTable.agree_learn message hsender _).congr rfl rfl rfl rfl
  · exact RouteTable.agree_recordData message hsender _

theorem Agree.hear (hadapters : first.node.adapters = second.node.adapters)
    (h : RouteTable.Agree peer first.node.routes second.node.routes)
    (heard : Message × Reception) :
    RouteTable.Agree peer (first.hear heard).node.routes (second.hear heard).node.routes := by
  obtain ⟨message | message, reception⟩ := heard
  · rw [hear_discovery_routes, hear_discovery_routes, hadapters]
    split
    · exact h
    · exact (h.learn message reception).congr rfl rfl rfl rfl
  · rw [hear_data_routes, hear_data_routes, hadapters]
    exact h.recordData message reception

theorem agree_foldl_hear (hadapters : first.node.adapters = second.node.adapters)
    (h : RouteTable.Agree peer first.node.routes second.node.routes)
    (messages : List (Message × Reception)) :
    RouteTable.Agree peer (messages.foldl hear first).node.routes
      ((messages.filter (Reception.isApart peer)).foldl hear second).node.routes := by
  induction messages generalizing first second with
  | nil => exact h
  | cons heard rest ih =>
    by_cases hpeer : Reception.isApart peer heard = true
    · rw [List.filter_cons_of_pos hpeer]
      refine ih ?_ (Agree.hear hadapters h heard)
      rw [hear_node, hear_node heard second, hadapters]
    · rw [List.filter_cons_of_neg hpeer]
      refine ih ?_ ((agree_hear hpeer first).trans h)
      rw [hear_node, hadapters]

theorem Agree.foldl_hear (hadapters : first.node.adapters = second.node.adapters)
    (h : RouteTable.Agree peer first.node.routes second.node.routes)
    {messages messages' : List (Message × Reception)}
    (hsame : messages.filter (Reception.isApart peer) =
      messages'.filter (Reception.isApart peer)) :
    RouteTable.Agree peer (messages.foldl Polling.hear first).node.routes
      (messages'.foldl Polling.hear second).node.routes := by
  have hfirst := agree_foldl_hear hadapters h messages
  have hsecond := agree_foldl_hear rfl (RouteTable.agree_refl peer second.node.routes) messages'
  rw [hsame] at hfirst
  exact hfirst.trans hsecond.symm

end Polling

theorem Batch.filter_messages (peer : Address) (now : Time) (batch : Batch) :
    (batch.messages now).filter (Reception.isApart peer) =
      if batch.key.sender.address = peer then [] else batch.messages now := by
  have hsender : ∀ heard ∈ batch.messages now, heard.2.sender = batch.key.sender := by
    intro heard hheard
    obtain ⟨packet, -, hmem⟩ := List.mem_flatMap.mp hheard
    obtain ⟨message, -, rfl⟩ := List.mem_map.mp hmem
    rfl
  split_ifs with hpeer
  · rw [List.filter_eq_nil_iff]
    intro heard hheard
    simp [Reception.isApart, hsender heard hheard, hpeer]
  · rw [List.filter_eq_self]
    intro heard hheard
    simp [Reception.isApart, hsender heard hheard, hpeer]

/-- What a poll hears of others comes from their streams. -/
theorem Node.filter_heard (peer : Address) (now : Time) (node : Node) :
    (node.heard now).filter (Reception.isApart peer) =
      ((Inbox.apart peer node.inbox.streams).filterMap fun entry =>
        entry.2.batch? entry.1).flatMap (·.messages now) := by
  rw [Node.heard, Inbox.process_fst]
  generalize node.inbox.streams = streams
  induction streams with
  | nil => rfl
  | cons first rest ih =>
    unfold Inbox.apart at ih ⊢
    cases hbatch : first.2.batch? first.1 with
    | none => by_cases hpeer : first.1.sender.address = peer <;> simp [hbatch, hpeer, ih]
    | some batch =>
      have hkey := (Inbox.key_of_batch? hbatch).1
      by_cases hpeer : first.1.sender.address = peer <;>
        simp [hbatch, hpeer, ih, Batch.filter_messages, hkey]

/-- The nodes have the same configuration and adapters, and nothing but the peer makes a difference
between their streams and routes. -/
structure Node.Agree (peer : Address) (first second : Node) : Prop where
  config_eq : first.config = second.config
  adapters_eq : first.adapters = second.adapters
  inbox : Inbox.Agree peer first.inbox second.inbox
  routes : RouteTable.Agree peer first.routes second.routes

section Node
variable {peer : Address} {first second : Node}

theorem Node.Agree.symm (h : Node.Agree peer first second) : Node.Agree peer second first :=
  ⟨h.config_eq.symm, h.adapters_eq.symm, h.inbox.symm, h.routes.symm⟩

theorem Node.Agree.trans {third : Node} (h : Node.Agree peer first second)
    (h' : Node.Agree peer second third) : Node.Agree peer first third :=
  ⟨h.config_eq.trans h'.config_eq, h.adapters_eq.trans h'.adapters_eq, h.inbox.trans h'.inbox,
    h.routes.trans h'.routes⟩

theorem Node.agree_of_create {config : Config} {node : Node} (h : Node.create config = .ok node)
    (peer : Address) : Node.Agree peer node node := by
  obtain rfl := Node.eq_of_create h
  exact ⟨rfl, rfl, Inbox.agree_new peer, RouteTable.agree_refl peer _⟩

theorem Node.Agree.listen (h : Node.Agree peer first second) (now : Time) :
    RouteTable.Agree peer (first.listen now).node.routes (second.listen now).node.routes := by
  have hheard : (first.heard now).filter (Reception.isApart peer) =
      (second.heard now).filter (Reception.isApart peer) := by
    rw [Node.filter_heard, Node.filter_heard, h.inbox.apart_eq]
  have hlearned : RouteTable.Agree peer (first.afterHearing now).node.routes
      (second.afterHearing now).node.routes :=
    Polling.Agree.foldl_hear h.adapters_eq h.routes hheard
  exact (hlearned.sweep now).congr rfl rfl rfl rfl

end Node

/-- The action without what comes from the peer, if anything is left of it. -/
def NodeAction.without? (peer : Address) : NodeAction → Option NodeAction
  | .receive arrival => if arrival.isFrom peer then none else some (.receive arrival)
  | .updateAdapters listed => some (.updateAdapters listed)
  | .setPersistent key path persistent now => some (.setPersistent key path persistent now)
  | .poll now arriving => some (.poll now (arriving.filter fun arrival => !arrival.isFrom peer))

/-- The actions without what comes from the peer. -/
def NodeAction.without (peer : Address) (actions : List NodeAction) : List NodeAction :=
  actions.filterMap (without? peer)

namespace NodeRun
variable {peer : Address} {first second : NodeRun}

theorem Agree.setPersistent (h : Node.Agree peer first.node second.node) (key : RouteKey)
    (path : List UInt16) (persistent : Bool) (now : Time) :
    Node.Agree peer (first.setPersistent key path persistent now).node
      (second.setPersistent key path persistent now).node := by
  obtain ⟨events, hfirst⟩ := setPersistent_node key path persistent now first
  obtain ⟨events', hsecond⟩ := setPersistent_node key path persistent now second
  rw [hfirst, hsecond]
  refine ⟨h.config_eq, h.adapters_eq, h.inbox, ?_⟩
  rw [h.adapters_eq]
  exact (h.routes.settle_setPersistent persistent).congr rfl rfl rfl rfl

theorem Agree.poll (h : Node.Agree peer first.node second.node) (now : Time)
    (arriving : List Arrival) :
    Node.Agree peer (first.poll now arriving).node
      (second.poll now (arriving.filter fun arrival => !arrival.isFrom peer)).node := by
  obtain ⟨schedule, hfirst⟩ := poll_node now arriving first
  obtain ⟨schedule', hsecond⟩ :=
    poll_node now (arriving.filter fun arrival => !arrival.isFrom peer) second
  rw [hfirst, hsecond]
  refine ⟨h.config_eq, h.adapters_eq, ?_, h.listen now⟩
  rw [h.config_eq]
  exact (h.inbox.process.receiveAll arriving).evictIdle now _

/-- What a peer sends makes no difference to a step, and all else makes the same. -/
theorem Agree.step (h : Node.Agree peer first.node second.node) (action : NodeAction) :
    Node.Agree peer (first.step action).node
      ((action.without? peer).elim second second.step).node := by
  cases action with
  | receive arrival =>
    by_cases hpeer : arrival.isFrom peer = true
    · simp only [NodeAction.without?, if_pos hpeer]
      exact ⟨h.config_eq, h.adapters_eq,
        h.inbox.receive_of_peer (Arrival.isFrom_iff.mp hpeer) arrival.bytes arrival.time, h.routes⟩
    · simp only [NodeAction.without?, if_neg hpeer]
      exact ⟨h.config_eq, h.adapters_eq, h.inbox.receive arrival.key arrival.bytes arrival.time,
        h.routes⟩
  | updateAdapters listed => exact ⟨h.config_eq, rfl, h.inbox, h.routes⟩
  | setPersistent key path persistent now => exact Agree.setPersistent h key path persistent now
  | poll now arriving => exact Agree.poll h now arriving

theorem Agree.foldl_step (h : Node.Agree peer first.node second.node) (actions : List NodeAction) :
    Node.Agree peer (actions.foldl NodeRun.step first).node
      ((NodeAction.without peer actions).foldl NodeRun.step second).node := by
  induction actions generalizing first second with
  | nil => exact h
  | cons action rest ih =>
    have hstep := Agree.step h action
    unfold NodeAction.without at ih ⊢
    rw [List.filterMap_cons]
    cases hkept : action.without? peer with
    | none =>
      rw [hkept] at hstep
      exact ih hstep
    | some kept =>
      rw [hkept] at hstep
      exact ih hstep

/-- Two runs of a node that differ in nothing but what comes from one peer, in any number of pieces
and from any port, have the same routes that neither lead to the peer nor were reported by it: on
every adapter the same ones in the same order, equal in all that is known of them. The runs may be
cut off behind any of their steps. -/
theorem apart_unaffected {config : Config} {node : Node} (hcreate : Node.create config = .ok node)
    (peer : Address) {actions actions' : List NodeAction}
    (hsame : NodeAction.without peer actions = NodeAction.without peer actions')
    (id : AdapterId) :
    (((after actions node).node.routes.onAdapter id).filter fun route =>
        route.key.reporter != peer && route.key.node.address != peer) =
      ((after actions' node).node.routes.onAdapter id).filter fun route =>
        route.key.reporter != peer && route.key.node.address != peer := by
  have hpurged (actions : List NodeAction) : Node.Agree peer (after actions node).node
      (after (NodeAction.without peer actions) node).node :=
    Agree.foldl_step (Node.agree_of_create hcreate peer) actions
  have hfirst := hpurged actions
  rw [hsame] at hfirst
  exact (hfirst.trans (hpurged actions').symm).routes.apart_eq id

/-- The discovery of node 1, which lists no others. -/
def announcement : Bytes :=
  [0, 0, 0, 20, 0, 1, 0, 0, 0, 10, 0, 1, 0, 1, 0, 0, 6, 41, 30, 127]

/-- One neighbour announces itself and another sends some bytes. -/
def pestered (received : List Bytes) : List NodeAction :=
  [.updateAdapters [{ id := ⟨"e"⟩, name := "e", addresses := [⟨⟨1⟩, ⟨0xffffff00⟩⟩] }],
    .receive ⟨⟨⟨⟨3⟩, 7171⟩, ⟨1⟩⟩, announcement, 0⟩] ++
    received.map (fun bytes => .receive ⟨⟨⟨⟨2⟩, 7171⟩, ⟨1⟩⟩, bytes, 0⟩) ++ [.poll 10 []]

/-- The bytes of the other add a route to it, and nothing else. -/
theorem apart_unaffected_pestered :
    let node : Node := { config := {}, schedule := { interval := 20000 } }
    let first := (after (pestered [announcement, [5]]) node).node.routes
    let second := (after (pestered []) node).node.routes
    first.size = 2 ∧ second.size = 1 ∧
      ((first.onAdapter ⟨"e"⟩).filter fun route =>
        route.key.reporter != ⟨2⟩ && route.key.node.address != ⟨2⟩) =
      ((second.onAdapter ⟨"e"⟩).filter fun route =>
        route.key.reporter != ⟨2⟩ && route.key.node.address != ⟨2⟩) := by
  intro node first second
  have hcreate : Node.create {} = .ok node := rfl
  have hsame : NodeAction.without ⟨2⟩ (pestered [announcement, [5]]) =
      NodeAction.without ⟨2⟩ (pestered []) := rfl
  exact ⟨by decide +kernel, by decide +kernel, apart_unaffected hcreate ⟨2⟩ hsame ⟨"e"⟩⟩

end NodeRun
end RouteDiscovery

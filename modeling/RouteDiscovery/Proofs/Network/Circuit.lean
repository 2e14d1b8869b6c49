import RouteDiscovery.Proofs.Network.Soundness

/-!
Whether a node can learn a route to itself. It disregards what its own addresses send, but not what
others list, so all depends on how reports travel: each node that passes one on leaves out only the
adapter where the report came in. A node keeps a route to itself only where its own announcement can
come back to it.
-/
namespace RouteDiscovery
open Wire

/-- Which addresses of which nodes a datagram can get to that leaves a node on an adapter. -/
abbrev Topology (ι : Type) := ι → AdapterId → ι → Address → Prop

def NetworkAction.Follows {ι : Type} (reaches : Topology ι) : NetworkAction ι → Prop
  | .poll .. | .sendData .. => True
  | .deliver origin datagram i _ recipient _ =>
    reaches origin datagram.target.adapter i recipient

namespace Network
variable {ι : Type}

/-- What node `i` announces on its adapter `out` can come in on adapter `into` of node `j`. -/
def Hears (net : Network ι) (reaches : Topology ι) (i : ι) (out : AdapterId) (j : ι)
    (into : AdapterId) : Prop :=
  i ≠ j ∧ (∃ sending ∈ (net.node i).adapters.usable, sending.id = out) ∧
    ∃ recipient receiving, reaches i out j recipient ∧
      (net.node j).adapters.owner? recipient = some receiving ∧ receiving.id = into

/-- A report of what `origin` announces from `address` can come in at a node on an adapter: a first
node hears `origin`, and each next one hears the one before on another adapter than the one where
the report came in there. -/
inductive Arrives (net : Network ι) (reaches : Topology ι) (origin : ι) (address : Address) :
    ι → AdapterId → Prop where
  | heard {out into : AdapterId} {j : ι} :
    ((net.node origin).adapters.find? out).bind Adapter.primary? = some address →
      net.Hears reaches origin out j into → Arrives net reaches origin address j into
  | passed {i j : ι} {via out into : AdapterId} :
    Arrives net reaches origin address i via → out ≠ via → net.Hears reaches i out j into →
      Arrives net reaches origin address j into

section Reports
variable (base : Network ι) (reaches : Topology ι)

/-- The identity is that of a node of which a report can come in at node `i` on the adapter. -/
def Reported (i : ι) (into : AdapterId) (identity : NodeIdentity) : Prop :=
  ∃ origin, base.Names origin identity ∧ base.Arrives reaches origin identity.address i into

/-- The route leads to a node of which a report can come in on the adapter that it is kept for. -/
def Kept (i : ι) (into : AdapterId) (route : Route) : Prop :=
  route.key.adapter = into ∧ base.Reported reaches i into route.key.node

/-- Node `i` can send the discovery on its adapter `out`: it is usable, and all that is listed came
in on other ones. -/
structure Announces (i : ι) (out : AdapterId) (message : Discovery) : Prop where
  sender : message.sender = (base.node i).config.nodeId
  usable : ∃ adapter ∈ (base.node i).adapters.usable, adapter.id = out
  entries : ∀ entry ∈ message.nodes, ∃ via, out ≠ via ∧
    base.Reported reaches i via ⟨entry.id, entry.address⟩

/-- A datagram of node `i` is one message, and a discovery only if the node can send it. -/
def Passes (i : ι) (datagram : Datagram) : Prop :=
  ∃ message, (Packet.ofMessage message).encode = .ok datagram.bytes ∧
    ∀ discovery, message = .discovery discovery →
      base.Announces reaches i datagram.target.adapter discovery

/-- The packet is a datagram that could get to node `i` from the address of the stream. -/
def Brought (i : ι) (key : StreamKey) (packet : Packet) : Prop :=
  ∃ origin datagram, base.Passes reaches origin datagram ∧
    base.source? origin datagram = some key.sender.address ∧
    reaches origin datagram.target.adapter i key.recipient ∧
    packet.encode = .ok datagram.bytes

/-- The nodes are those of the base, and all that they keep and send got there as reports. -/
structure Traced (net : Network ι) : Prop where
  ids : ∀ i, ((base.node i).adapters.adapters.map (·.id)).Nodup
  adapters : ∀ i, (net.node i).adapters = (base.node i).adapters
  config : ∀ i, (net.node i).config = (base.node i).config
  sent : ∀ i datagram, (i, datagram) ∈ net.sent → base.Passes reaches i datagram
  inbox : ∀ i, (net.node i).inbox.Carries (base.Brought reaches i)
  routes : ∀ i, (net.node i).routes.All (base.Kept reaches i)

end Reports

section Hearing
variable {base net : Network ι} {reaches : Topology ι} {i origin : ι} {datagram : Datagram}

/-- What a node learns from a discovery that got to it is a report that came in there. -/
theorem Announces.reported {message : Discovery}
    (h : base.Announces reaches origin datagram.target.adapter message)
    (hids : ((base.node origin).adapters.adapters.map (·.id)).Nodup) (hother : origin ≠ i)
    {reporter recipient : Address} (hsource : base.source? origin datagram = some reporter)
    (hreaches : reaches origin datagram.target.adapter i recipient) {adapter : Adapter}
    (howner : (base.node i).adapters.owner? recipient = some adapter) {key : RouteKey}
    {path : List UInt16}
    (hlookup : (RouteTable.told message adapter.id reporter).lookup key = some path) :
    base.Reported reaches i key.adapter key.node := by
  obtain ⟨hadapter, -, htold⟩ := RouteTable.lookup_told hlookup
  have hhears : base.Hears reaches origin datagram.target.adapter i key.adapter :=
    ⟨hother, h.usable, recipient, adapter, hreaches, howner, hadapter.symm⟩
  rcases htold with ⟨hnode, -⟩ | ⟨-, entry, hentry, hnode, -⟩
  · obtain ⟨sending, hsending, htarget⟩ := h.usable
    have hnames : base.Names origin ⟨message.sender, reporter⟩ :=
      ⟨h.sender, sendsFrom_of_source? hids hsending htarget.symm hsource⟩
    rw [hnode]
    exact ⟨origin, hnames, .heard hsource hhears⟩
  · obtain ⟨via, hvia, first, hnames, harrives⟩ := h.entries entry hentry
    rw [hnode]
    exact ⟨first, hnames, .passed harrives hvia hhears⟩

theorem Traced.all_listen (h : base.Traced reaches net) (i : ι) (now : Time) :
    ((net.node i).listen now).node.routes.All (base.Kept reaches i) := by
  refine Node.all_listen (h.routes i) (fun heard hheard => ?_) fun _ _ _ hkept => hkept
  obtain ⟨message | message, reception⟩ := heard
  · intro adapter hecho howner key path hlookup
    refine ⟨fun mtu => ?_, fun _ _ hkept => hkept⟩
    obtain ⟨-, packet, ⟨origin, datagram, ⟨said, hsaid, hpasses⟩, hsource, hreaches, hencode⟩,
      hmem⟩ := Node.of_mem_heard (h.inbox i) hheard
    rw [Packet.eq_of_encode hencode hsaid] at hmem
    have hsame : Message.discovery message = said := List.mem_singleton.mp hmem
    rw [h.adapters] at hecho howner
    have hother : origin ≠ i := by
      intro hself
      rw [hself] at hsource
      exact AdapterTable.not_owns_iff.mpr hecho (owns_of_source? hsource)
    exact ⟨rfl, (hpasses message hsame.symm).reported (h.ids origin) hother hsource hreaches howner
      hlookup⟩
  · exact fun _ _ _ hkept => hkept

/-- A node passes on what it keeps, but not on the adapter where it came in. -/
theorem Traced.passes_of_mem_announce (h : base.Traced reaches net) {now : Time}
    (hdatagram : datagram ∈ (((net.node i).listen now).node.announce now).1) :
    base.Passes reaches i datagram := by
  obtain ⟨adapter, hadapter, message, htarget, hencode, hsender, hentries⟩ :=
    Schedule.of_mem_round (Node.of_mem_announce hdatagram)
  have hout : datagram.target.adapter = adapter.id := by
    rw [htarget]
    rfl
  refine ⟨.discovery message, hencode, fun discovery hdiscovery => ?_⟩
  obtain rfl := Message.discovery.inj hdiscovery
  rw [h.config] at hsender
  rw [h.adapters] at hadapter
  refine ⟨hsender, ⟨adapter, hadapter, hout.symm⟩, fun entry hentry => ?_⟩
  obtain ⟨route, hroute, rfl⟩ := hentries entry hentry
  obtain ⟨⟨bucket, hbucket, hvia, hmem⟩, -⟩ := RouteTable.mem_candidates.mp hroute
  rw [hout]
  exact ⟨bucket.1, hvia.symm, (h.all_listen i now bucket hbucket route hmem).2⟩

theorem IsFresh.traced (h : base.IsFresh) (reaches : Topology ι) : base.Traced reaches base where
  ids := h.honest.ids
  adapters _ := rfl
  config _ := rfl
  sent i datagram hsent := by
    rw [h.sent] at hsent
    exact absurd hsent List.not_mem_nil
  inbox i := by
    obtain ⟨config, fresh, listed, hcreate, hnode⟩ := h.created i
    obtain rfl := Node.eq_of_create hcreate
    rw [hnode]
    exact Inbox.carries_new
  routes i := by
    obtain ⟨config, fresh, listed, hcreate, hnode⟩ := h.created i
    obtain rfl := Node.eq_of_create hcreate
    rw [hnode]
    exact fun _ hbucket => absurd hbucket List.not_mem_nil

end Hearing

section Step
variable [DecidableEq ι] {base net : Network ι} {reaches : Topology ι}

theorem Traced.setNode (h : base.Traced reaches net) {i : ι} {node : Node}
    (hadapters : node.adapters = (net.node i).adapters)
    (hconfig : node.config = (net.node i).config)
    (hinbox : node.inbox.Carries (base.Brought reaches i))
    (hroutes : node.routes.All (base.Kept reaches i)) :
    base.Traced reaches (net.setNode i node) := by
  have hgrows := grows_setNode hadapters hconfig
  exact ⟨h.ids, fun j => (hgrows.adapters j).trans (h.adapters j),
    fun j => (hgrows.config j).trans (h.config j), h.sent,
    forall_setNode (P := fun j node => node.inbox.Carries (base.Brought reaches j)) hinbox h.inbox,
    forall_setNode (P := fun j node => node.routes.All (base.Kept reaches j)) hroutes h.routes⟩

theorem Traced.record (h : base.Traced reaches net) {i : ι} {datagrams : Array Datagram}
    (hdatagrams : ∀ datagram ∈ datagrams, base.Passes reaches i datagram)
    (notices : Array Notice) : base.Traced reaches (net.record i datagrams notices) := by
  refine ⟨h.ids, h.adapters, h.config, fun j datagram hsent => ?_, h.inbox, h.routes⟩
  rcases of_mem_sent_record hsent with hold | ⟨rfl, htaken⟩
  · exact h.sent j datagram hold
  · exact hdatagrams datagram htaken

theorem Traced.poll (h : base.Traced reaches net) (i : ι) (now : Time)
    (failing : List AdapterId) : base.Traced reaches (net.step (.poll i now failing)) := by
  refine Traced.record (h.setNode Node.poll_adapters Node.poll_config
    (Node.carries_poll (h.inbox i)) (h.all_listen i now)) (fun datagram htaken => ?_) _
  rcases Link.mem_transmit_recording htaken with hround | hnone
  · exact h.passes_of_mem_announce hround
  · exact absurd hnone (Array.not_mem_empty _)

theorem Traced.sendData (h : base.Traced reaches net) (i : ι) (destination : NodeIdentity)
    (payload : Bytes) (failing : List AdapterId) :
    base.Traced reaches (net.step (.sendData i destination payload failing)) := by
  refine h.record (fun datagram htaken => ?_) _
  obtain ⟨message, hencode⟩ := Node.of_mem_sendData htaken
  exact ⟨.data message, hencode, fun _ hdiscovery => by cases hdiscovery⟩

theorem Traced.deliver (h : base.Traced reaches net) {origin i : ι} {datagram : Datagram}
    {recipient : Address} (hreaches : reaches origin datagram.target.adapter i recipient)
    (port : UInt16) (now : Time) :
    base.Traced reaches (net.step (.deliver origin datagram i port recipient now)) := by
  simp only [Network.step]
  split
  · exact h
  · next source hsource =>
    by_cases hsent : (origin, datagram) ∈ net.sent
    · rw [if_pos hsent]
      have hpasses := h.sent origin datagram hsent
      have hbase : base.source? origin datagram = some source := by
        rw [← hsource, Network.source?, Network.source?, h.adapters]
      obtain ⟨message, hencode, -⟩ := id hpasses
      exact h.setNode rfl rfl
        ((h.inbox i).receive hencode ⟨origin, datagram, hpasses, hbase, hreaches, hencode⟩ now)
        (h.routes i)
    · rw [if_neg hsent]
      exact h

theorem Traced.step (h : base.Traced reaches net) {action : NetworkAction ι}
    (haction : action.Follows reaches) : base.Traced reaches (net.step action) := by
  cases action with
  | poll i now failing => exact h.poll i now failing
  | sendData i destination payload failing => exact h.sendData i destination payload failing
  | deliver origin datagram i port recipient now => exact h.deliver haction port now

theorem Traced.after (h : base.Traced reaches net) {actions : List (NetworkAction ι)}
    (hactions : ∀ action ∈ actions, action.Follows reaches) :
    base.Traced reaches (net.after actions) := by
  induction actions generalizing net with
  | nil => exact h
  | cons first rest ih =>
    exact ih (h.step (hactions first List.mem_cons_self))
      fun action haction => hactions action (List.mem_cons_of_mem _ haction)

/-- Whatever is lost, repeated, delayed or reordered on the way, a node keeps no route to itself on
an adapter where its own announcement cannot come back. -/
theorem no_route_to_self (h : net.IsFresh) {actions : List (NetworkAction ι)}
    (hactions : ∀ action ∈ actions, action.Follows reaches) {i : ι} {address : Address}
    {into : AdapterId} (howns : (net.node i).adapters.Owns address)
    (hopen : ¬ net.Arrives reaches i address i into) :
    ∀ route ∈ ((net.after actions).node i).routes.routes, route.key.adapter = into →
      route.key.node ≠ ⟨(net.node i).config.nodeId, address⟩ := by
  intro route hroute hinto hself
  have htraced := (h.traced reaches).after hactions
  obtain ⟨_, hadapter, origin, hnames, harrives⟩ := (htraced.routes i).of_mem hroute
  rw [hself] at hnames harrives
  rw [← hadapter, hinto] at harrives
  obtain rfl : origin = i := h.distinct origin i address hnames.2.owns howns
  exact hopen harrives

def twinAddress (i second : Bool) : Address :=
  .ofOctets 10 0 (if second then 1 else 0) (if i then 2 else 1)

def twinAdapter (i second : Bool) : Adapter :=
  let name := if second then "e1" else "e0"
  { id := ⟨name⟩, name, addresses := [⟨twinAddress i second, .ofOctets 255 255 255 0⟩] }

/-- Two nodes with two adapters each. -/
def twins : Network Bool where
  node i :=
    { config := { nodeId := if i then 2 else 1 }
      adapters := .ofList [twinAdapter i false, twinAdapter i true] }

/-- The twins are side by side on two segments. -/
def segments : Topology Bool := fun i out j recipient =>
  ∃ second, out = (twinAdapter i second).id ∧ recipient = twinAddress j second

theorem isFresh_twins : twins.IsFresh where
  created i := ⟨{ nodeId := if i then 2 else 1 }, { config := { nodeId := if i then 2 else 1 } },
    [twinAdapter i false, twinAdapter i true], by cases i <;> rfl, rfl⟩
  sent := rfl
  notices _ := rfl
  distinct i j address hi hj := by
    have howner (i : Bool) (h : (twins.node i).adapters.Owns address) :
        ∃ second, address = twinAddress i second := by
      obtain ⟨adapter, hadapter, haddress⟩ := AdapterTable.owns_iff.mp h
      have honly : adapter ∈ [twinAdapter i false, twinAdapter i true] := hadapter
      rcases List.mem_pair.mp honly with rfl | rfl
      all_goals
        simp only [Adapter.hasAddress, twinAdapter, List.any_cons, List.any_nil, Bool.or_false,
          beq_iff_eq] at haddress
        exact ⟨_, haddress.symm⟩
    obtain ⟨first, hfirst⟩ := howner i hi
    obtain ⟨second, hsecond⟩ := howner j hj
    have hapart : ∀ i j first second, twinAddress i first = twinAddress j second → i = j := by
      decide
    exact hapart i j first second (hfirst.symm.trans hsecond)

/-- What is sent on a segment comes in on it at the other twin. -/
theorem hears_twins {i j : Bool} {out into : AdapterId} (h : twins.Hears segments i out j into) :
    i ≠ j ∧ ∃ second, out = (twinAdapter i second).id ∧ into = (twinAdapter j second).id := by
  obtain ⟨hother, -, recipient, receiving, ⟨second, hout, rfl⟩, howner, rfl⟩ := h
  have hfound : ∀ j second, (twins.node j).adapters.owner? (twinAddress j second) =
      some (twinAdapter j second) := by
    decide
  rw [hfound] at howner
  exact ⟨hother, second, hout, congrArg Adapter.id (Option.some.inj howner).symm⟩

/-- What the first node announces on the first segment comes back to it on the second one. -/
theorem arrives_twins {j : Bool} {into : AdapterId}
    (h : twins.Arrives segments false (twinAddress false false) j into) :
    into = (twinAdapter j (!j)).id := by
  induction h with
  | @heard _ _ j hsource hhears =>
    obtain ⟨hother, second, rfl, rfl⟩ := hears_twins hhears
    have hfirst : ∀ second, ((twins.node false).adapters.find? (twinAdapter false second).id).bind
        Adapter.primary? = some (twinAddress false false) → second = false := by
      decide
    rw [hfirst second hsource, Bool.eq_not_of_ne hother.symm]
    rfl
  | @passed i j _ _ _ _ hvia hhears ih =>
    obtain ⟨hother, second, rfl, rfl⟩ := hears_twins hhears
    have hcrossed : ∀ i j second, i ≠ j →
        (twinAdapter i second).id ≠ (twinAdapter i (!i)).id →
          (twinAdapter j second).id = (twinAdapter j (!j)).id := by
      decide
    exact hcrossed i j second hother (ih ▸ hvia)

/-- The second node takes in the announcement of the first one from the second segment and lists it
on the first. -/
def roundTrip : List (NetworkAction Bool) :=
  [.poll false 0 [],
    .deliver false ⟨.multicast ⟨"e1"⟩,
      [0, 0, 0, 20, 0, 1, 0, 0, 0, 10, 0, 1, 0, 1, 0, 0, 6, 41, 30, 127]⟩ true 7171
      (twinAddress true true) 0,
    .poll true 0 [],
    .deliver true ⟨.multicast ⟨"e0"⟩,
      [0, 0, 0, 32, 0, 1, 0, 0, 0, 22, 0, 1, 0, 2, 0, 1, 0, 1, 10, 0, 1, 1, 0, 2, 1, 0, 1, 0, 25,
        91, 21, 252]⟩ false 7171 (twinAddress false false) 0,
    .poll false 0 []]

theorem follows_roundTrip : ∀ action ∈ roundTrip, action.Follows segments := by
  simp only [roundTrip, List.forall_mem_cons, NetworkAction.Follows]
  exact ⟨trivial, ⟨true, rfl, rfl⟩, trivial, ⟨false, rfl, rfl⟩, trivial,
    fun _ hnone => absurd hnone List.not_mem_nil⟩

theorem no_route_to_self_twins : twins.IsFresh ∧
    (∀ action ∈ roundTrip, action.Follows segments) ∧
    (twins.node false).adapters.Owns (twinAddress false false) ∧
    ∃ route ∈ ((twins.after roundTrip).node false).routes.routes, route.key.adapter = ⟨"e0"⟩ ∧
      route.key.node ≠ ⟨1, twinAddress false false⟩ := by
  have howns : (twins.node false).adapters.Owns (twinAddress false false) := by
    show (AdapterTable.owner? _ _).isSome = true
    decide
  have hsome : ∃ route ∈ ((twins.after roundTrip).node false).routes.routes,
      route.key.adapter = ⟨"e0"⟩ := by
    decide +kernel
  obtain ⟨route, hroute, hinto⟩ := hsome
  have hopen : ¬ twins.Arrives segments false (twinAddress false false) false ⟨"e0"⟩ :=
    fun harrives => absurd (arrives_twins harrives) (by decide)
  exact ⟨isFresh_twins, follows_roundTrip, howns, route, hroute, hinto,
    no_route_to_self isFresh_twins follows_roundTrip howns hopen route hroute hinto⟩

/-- A node learns a route to itself from another one that is with it on two segments. -/
theorem not_no_route_to_self : twins.IsFresh ∧
    (∀ action ∈ roundTrip, action.Follows segments) ∧
    (twins.node false).adapters.Owns (twinAddress false true) ∧
    ∃ route ∈ ((twins.after roundTrip).node false).routes.routes,
      route.key.node = ⟨(twins.node false).config.nodeId, twinAddress false true⟩ := by
  refine ⟨isFresh_twins, follows_roundTrip, ?_, by decide +kernel⟩
  show (AdapterTable.owner? _ _).isSome = true
  decide

end Step
end Network
end RouteDiscovery

import RouteDiscovery.Proofs.Network.Run

/-!
Every route that a node holds leads to a node of the network, along a chain of nodes each of which
took in a discovery of the one before it; the path counts the hops of that chain.
-/
namespace RouteDiscovery
open Wire

namespace Network
variable {ι : Type}

/-- The identity is the number of node `i` with an address that it sends from. -/
def Names (net : Network ι) (i : ι) (identity : NodeIdentity) : Prop :=
  identity.id = (net.node i).config.nodeId ∧ (net.node i).adapters.SendsFrom identity.address

/-- Node `j` took in a discovery that `i` sent: it reached an address of `j`, which told its
listener of it. -/
def Ingested (net : Network ι) (i j : ι) : Prop :=
  ∃ message reception datagram, (i, datagram) ∈ net.sent ∧
    net.source? i datagram = some reception.sender.address ∧
    (Packet.ofMessage (.discovery message)).encode = .ok datagram.bytes ∧
    (net.node j).adapters.Owns reception.recipient ∧
    Notice.discovery message reception ∈ net.notices j

/-- A chain of `h` hops leads from `origin` to a node: each took in a discovery of the one
before. -/
inductive Relayed (net : Network ι) (origin : ι) : Nat → ι → Prop where
  | start : Relayed net origin 0 origin
  | hop {h : Nat} {i j : ι} :
    Relayed net origin h i → net.Ingested i j → Relayed net origin (h + 1) j

/-- What an entry in a discovery of node `i` says holds. -/
def Told (net : Network ι) (i : ι) (entry : NodeEntry) : Prop :=
  ∃ origin h, 1 ≤ h ∧ net.Names origin ⟨entry.id, entry.address⟩ ∧
    entry.path = List.replicate (2 * h) 256 ∧ net.Relayed origin h i

/-- What a route of node `i` says holds. -/
def Sound (net : Network ι) (i : ι) (route : Route) : Prop :=
  ∃ origin reporter h, 1 ≤ h ∧ net.Names origin route.key.node ∧
    reporter ≠ i ∧ (net.node reporter).adapters.SendsFrom route.key.reporter ∧
    route.path = List.replicate (2 * h - 1) 256 ∧ (h = 1 ↔ route.key.isDirect = true) ∧
    net.Relayed origin h i

/-- A datagram of node `i` is one message; a discovery goes out on a usable adapter, under the
node's number, and lists what holds. -/
def Spoken (net : Network ι) (i : ι) (datagram : Datagram) : Prop :=
  ∃ message, (Packet.ofMessage message).encode = .ok datagram.bytes ∧
    ∀ discovery, message = .discovery discovery →
      discovery.sender = (net.node i).config.nodeId ∧
      (∃ adapter ∈ (net.node i).adapters.usable, datagram.target.adapter = adapter.id) ∧
      ∀ entry ∈ discovery.nodes, net.Told i entry

/-- The packet is a datagram that a node sent from the address of the stream. -/
def Carried (net : Network ι) (key : StreamKey) (packet : Packet) : Prop :=
  ∃ i datagram, (i, datagram) ∈ net.sent ∧ net.source? i datagram = some key.sender.address ∧
    packet.encode = .ok datagram.bytes

/-- Adapters stay apart, and all that is on its way or in a table is sound. -/
structure Honest (net : Network ι) : Prop where
  distinct : ∀ i j address, (net.node i).adapters.Owns address →
    (net.node j).adapters.Owns address → i = j
  ids : ∀ i, ((net.node i).adapters.adapters.map (·.id)).Nodup
  sent : ∀ i datagram, (i, datagram) ∈ net.sent → net.Spoken i datagram
  inbox : ∀ i, (net.node i).inbox.Carries net.Carried
  routes : ∀ i, (net.node i).routes.All fun _ route => net.Sound i route

section Grows
variable {net next : Network ι}

theorem Grows.names (h : net.Grows next) {i : ι} {identity : NodeIdentity}
    (hnames : net.Names i identity) : next.Names i identity := by
  unfold Names
  rw [h.adapters, h.config]
  exact hnames

theorem Grows.ingested (h : net.Grows next) {i j : ι} (hingested : net.Ingested i j) :
    next.Ingested i j := by
  obtain ⟨message, reception, datagram, hsent, hsource, hencode, howns, hnotice⟩ := hingested
  refine ⟨message, reception, datagram, h.sent _ hsent, ?_, hencode, ?_, h.notices j _ hnotice⟩
  · rw [h.source?]
    exact hsource
  · rw [h.adapters]
    exact howns

theorem Grows.relayed (h : net.Grows next) {origin i : ι} {hops : Nat}
    (hrelayed : net.Relayed origin hops i) : next.Relayed origin hops i := by
  induction hrelayed with
  | start => exact .start
  | hop _ hingested ih => exact .hop ih (h.ingested hingested)

theorem Grows.told (h : net.Grows next) {i : ι} {entry : NodeEntry} (htold : net.Told i entry) :
    next.Told i entry := by
  obtain ⟨origin, hops, hpos, hnames, hpath, hrelayed⟩ := htold
  exact ⟨origin, hops, hpos, h.names hnames, hpath, h.relayed hrelayed⟩

theorem Grows.sound (h : net.Grows next) {i : ι} {route : Route} (hsound : net.Sound i route) :
    next.Sound i route := by
  obtain ⟨origin, reporter, hops, hpos, hnames, hother, hsends, hpath, hdirect, hrelayed⟩ := hsound
  refine ⟨origin, reporter, hops, hpos, h.names hnames, hother, ?_, hpath, hdirect,
    h.relayed hrelayed⟩
  rw [h.adapters]
  exact hsends

theorem Grows.spoken (h : net.Grows next) {i : ι} {datagram : Datagram}
    (hspoken : net.Spoken i datagram) : next.Spoken i datagram := by
  obtain ⟨message, hencode, hall⟩ := hspoken
  refine ⟨message, hencode, fun discovery hdiscovery => ?_⟩
  obtain ⟨hsender, hadapter, hentries⟩ := hall discovery hdiscovery
  rw [h.config, h.adapters]
  exact ⟨hsender, hadapter, fun entry hentry => h.told (hentries entry hentry)⟩

theorem Grows.carried (h : net.Grows next) {key : StreamKey} {packet : Packet}
    (hcarried : net.Carried key packet) : next.Carried key packet := by
  obtain ⟨i, datagram, hsent, hsource, hencode⟩ := hcarried
  refine ⟨i, datagram, h.sent _ hsent, ?_, hencode⟩
  rw [h.source?]
  exact hsource

end Grows

section Hearing
variable {net : Network ι} {i origin : ι} {datagram : Datagram} {address : Address}

theorem owns_of_source? (h : net.source? i datagram = some address) :
    (net.node i).adapters.Owns address := by
  obtain ⟨adapter, hadapter, hprimary⟩ := Option.bind_eq_some_iff.mp h
  exact AdapterTable.owns_of_primary? (AdapterTable.mem_of_find? hadapter) hprimary

theorem sendsFrom_of_source? (hids : ((net.node i).adapters.adapters.map (·.id)).Nodup)
    {adapter : Adapter} (hadapter : adapter ∈ (net.node i).adapters.usable)
    (htarget : datagram.target.adapter = adapter.id)
    (h : net.source? i datagram = some address) : (net.node i).adapters.SendsFrom address := by
  have hfind := AdapterTable.find?_of_mem hids (AdapterTable.mem_of_mem_usable hadapter)
  rw [source?, htarget, hfind] at h
  exact ⟨adapter, hadapter, h⟩

/-- An entry with an address that the sender sends from names the sender. -/
theorem Told.id_eq {entry : NodeEntry} (h : net.Told i entry)
    (hdistinct : ∀ i j address, (net.node i).adapters.Owns address →
      (net.node j).adapters.Owns address → i = j)
    (hsends : (net.node origin).adapters.SendsFrom entry.address) :
    entry.id = (net.node origin).config.nodeId := by
  obtain ⟨first, -, -, hnames, -⟩ := h
  have hfirst : first = origin := hdistinct first origin entry.address hnames.2.owns hsends.owns
  rw [← hfirst]
  exact hnames.1

/-- What a node learns from a discovery that it takes in is sound. An entry with the address of
the sender names the sender, so it tells nothing new. -/
theorem sound_of_ingested (hdistinct : ∀ i j address, (net.node i).adapters.Owns address →
      (net.node j).adapters.Owns address → i = j)
    {message : Discovery} (hother : origin ≠ i) (hingested : net.Ingested origin i)
    (hsends : (net.node origin).adapters.SendsFrom address)
    (hsender : message.sender = (net.node origin).config.nodeId)
    (hentries : ∀ entry ∈ message.nodes, net.Told origin entry) {adapter : AdapterId}
    {route : Route}
    (hlookup : (RouteTable.told message adapter address).lookup route.key = some route.path) :
    net.Sound i route := by
  obtain ⟨-, hreporter, htold⟩ := RouteTable.lookup_told hlookup
  have hfrom : (net.node origin).adapters.SendsFrom route.key.reporter := by
    rw [hreporter]
    exact hsends
  rcases htold with ⟨hnode, hpath⟩ | ⟨hnode, entry, hentry, hnamed, hpath⟩
  · have hnames : net.Names origin route.key.node := by
      rw [hnode]
      exact ⟨hsender, hsends⟩
    have hdirect : route.key.isDirect = true := by
      rw [RouteKey.isDirect, hnode, hreporter]
      exact beq_self_eq_true _
    exact ⟨origin, origin, 1, Nat.le_refl 1, hnames, hother, hfrom, hpath, by simp [hdirect],
      .hop .start hingested⟩
  · obtain ⟨first, h, hpos, hnames, hsteps, hrelayed⟩ := hentries entry hentry
    have hindirect : route.key.isDirect = false := by
      rw [RouteKey.isDirect, hnamed, hreporter]
      refine beq_false_of_ne fun hsame => hnode ?_
      have haddress : entry.address = address := hsame
      subst haddress
      rw [hnamed, hsender, (hentries entry hentry).id_eq hdistinct hsends]
    have hlonger : route.path = List.replicate (2 * (h + 1) - 1) 256 := by
      rw [hpath, hsteps, show 2 * (h + 1) - 1 = 2 * h + 1 from rfl, List.replicate_succ]
      rfl
    refine ⟨first, origin, h + 1, Nat.le_add_left 1 h, ?_, hother, hfrom, hlonger, ?_,
      .hop hrelayed hingested⟩
    · rw [hnamed]
      exact hnames
    · rw [hindirect]
      simp
      omega

theorem told_of_sound {route : Route} (h : net.Sound i route) :
    net.Told i (route.entry hopCost) := by
  obtain ⟨first, -, hops, hpos, hnames, -, -, hpath, -, hrelayed⟩ := h
  refine ⟨first, hops, hpos, hnames, ?_, hrelayed⟩
  have hlength : 2 * hops = 2 * hops - 1 + 1 := by omega
  rw [hlength, List.replicate_succ', ← hpath]
  rfl

end Hearing

section Step
variable {net : Network ι}

theorem Honest.keeps_apart (h : net.Honest) {next : Network ι} (hgrows : net.Grows next) :
    (∀ i j address, (next.node i).adapters.Owns address → (next.node j).adapters.Owns address →
      i = j) ∧ ∀ i, ((next.node i).adapters.adapters.map (·.id)).Nodup := by
  constructor
  · intro i j address hi hj
    rw [hgrows.adapters] at hi hj
    exact h.distinct i j address hi hj
  · intro i
    rw [hgrows.adapters]
    exact h.ids i

/-- A discovery that a node heard from outside it took in, from another node that spoke true. -/
theorem Honest.exists_ingested (h : net.Honest) {next : Network ι} (hgrows : net.Grows next)
    {i : ι} {now : Time}
    (hnotices : ∀ notice ∈ ((net.node i).listen now).notices, notice ∈ next.notices i)
    {message : Discovery} {reception : Reception} {adapter : Adapter}
    (hheard : (.discovery message, reception) ∈ (net.node i).heard now)
    (hecho : (net.node i).adapters.owner? reception.sender.address = none)
    (howner : (net.node i).adapters.owner? reception.recipient = some adapter) :
    ∃ origin, origin ≠ i ∧ next.Ingested origin i ∧
      (next.node origin).adapters.SendsFrom reception.sender.address ∧
      message.sender = (next.node origin).config.nodeId ∧
      ∀ entry ∈ message.nodes, next.Told origin entry := by
  obtain ⟨-, packet, ⟨origin, datagram, hsent, hsource, hencode⟩, hmem⟩ :=
    Node.of_mem_heard (h.inbox i) hheard
  obtain ⟨said, hsaid, hspoken⟩ := hgrows.spoken (h.sent origin datagram hsent)
  have hpacket : packet = Packet.ofMessage said := Packet.eq_of_encode hencode hsaid
  have hsame : Message.discovery message = said := by
    rw [hpacket] at hmem
    exact List.mem_singleton.mp hmem
  obtain ⟨hsender, ⟨sending, husable, htarget⟩, hentries⟩ := hspoken message hsame.symm
  have hfrom : next.source? origin datagram = some reception.sender.address := by
    rw [hgrows.source?]
    exact hsource
  have hother : origin ≠ i := by
    intro hself
    rw [hself] at hsource
    exact AdapterTable.not_owns_iff.mpr hecho (owns_of_source? hsource)
  have hingested : next.Ingested origin i := by
    refine ⟨message, reception, datagram, hgrows.sent _ hsent, hfrom, ?_, ?_, ?_⟩
    · rw [hsame]
      exact hsaid
    · rw [hgrows.adapters, AdapterTable.Owns, howner]
      rfl
    · exact hnotices _ (Node.told_listen hheard hecho)
  obtain ⟨-, hids⟩ := h.keeps_apart hgrows
  exact ⟨origin, hother, hingested, sendsFrom_of_source? (hids origin) husable htarget hfrom,
    hsender, hentries⟩

/-- The routes of a node are sound behind a poll that told its listener of all that it heard. -/
theorem Honest.all_listen (h : net.Honest) {next : Network ι} (hgrows : net.Grows next) {i : ι}
    {now : Time}
    (hnotices : ∀ notice ∈ ((net.node i).listen now).notices, notice ∈ next.notices i) :
    ((net.node i).listen now).node.routes.All fun _ route => next.Sound i route := by
  obtain ⟨hdistinct, -⟩ := h.keeps_apart hgrows
  refine Node.all_listen ((h.routes i).mono fun _ _ => hgrows.sound) (fun heard hheard => ?_)
    fun _ _ _ hsound => hsound
  obtain ⟨message | message, reception⟩ := heard
  · intro adapter hecho howner key path hlookup
    refine ⟨fun mtu => ?_, fun _ _ hsound => hsound⟩
    obtain ⟨origin, hother, hingested, hsends, hsender, hentries⟩ :=
      h.exists_ingested hgrows hnotices hheard hecho howner
    exact sound_of_ingested hdistinct hother hingested hsends hsender hentries hlookup
  · exact fun _ _ _ hsound => hsound

/-- What a node announces of sound routes holds. -/
theorem Grows.spoken_of_mem_announce {next : Network ι} (h : net.Grows next) {i : ι} {now : Time}
    (hlistened : ((net.node i).listen now).node.routes.All fun _ route => next.Sound i route)
    {datagram : Datagram}
    (hdatagram : datagram ∈ (((net.node i).listen now).node.announce now).1) :
    next.Spoken i datagram := by
  obtain ⟨adapter, hadapter, message, htarget, hencode, hsender, hentries⟩ :=
    Schedule.of_mem_round (Node.of_mem_announce hdatagram)
  refine ⟨.discovery message, hencode, fun discovery hdiscovery => ?_⟩
  obtain rfl := Message.discovery.inj hdiscovery
  refine ⟨?_, ⟨adapter, ?_, ?_⟩, fun entry hentry => ?_⟩
  · rw [h.config]
    exact hsender
  · rw [h.adapters]
    exact hadapter
  · rw [htarget]
    rfl
  · obtain ⟨route, hroute, rfl⟩ := hentries entry hentry
    obtain ⟨⟨bucket, hbucket, -, hmem⟩, -⟩ := RouteTable.mem_candidates.mp hroute
    exact told_of_sound (hlistened bucket hbucket route hmem)

theorem IsFresh.honest (h : net.IsFresh) : net.Honest where
  distinct := h.distinct
  ids i := by
    obtain ⟨config, fresh, listed, -, hnode⟩ := h.created i
    rw [hnode]
    exact AdapterTable.nodup_update listed fresh.adapters
  sent i datagram hsent := by
    rw [h.sent] at hsent
    exact absurd hsent List.not_mem_nil
  inbox i := by
    obtain ⟨config, fresh, listed, hcreate, hnode⟩ := h.created i
    obtain rfl := Node.eq_of_create hcreate
    rw [hnode]
    exact Inbox.carries_new
  routes i := by
    obtain ⟨config, fresh, listed, hcreate, hnode⟩ := h.created i
    obtain rfl := Node.eq_of_create hcreate
    rw [hnode]
    exact fun _ hbucket => absurd hbucket List.not_mem_nil

variable [DecidableEq ι]

theorem Honest.poll (h : net.Honest) (i : ι) (now : Time) (failing : List AdapterId) :
    (net.step (.poll i now failing)).Honest := by
  have hgrows := net.grows_step (.poll i now failing)
  obtain ⟨hdistinct, hids⟩ := h.keeps_apart hgrows
  have hlistened : ((net.node i).listen now).node.routes.All fun _ route =>
      (net.step (.poll i now failing)).Sound i route := by
    apply h.all_listen hgrows
    intro notice hnotice
    simp only [step, record, setNode, if_true]
    exact List.mem_append_right _ (Array.mem_toList_iff.mpr hnotice)
  refine ⟨hdistinct, hids, fun j datagram hsent => ?_, fun j => ?_, fun j => ?_⟩
  · rcases of_mem_sent_record hsent with hold | ⟨rfl, htaken⟩
    · exact hgrows.spoken (h.sent j datagram hold)
    · rcases Link.mem_transmit_recording htaken with hround | hnone
      · exact hgrows.spoken_of_mem_announce hlistened hround
      · exact absurd hnone (Array.not_mem_empty _)
  · exact forall_setNode
      (P := fun _ node => node.inbox.Carries (net.step (.poll i now failing)).Carried)
      (Node.carries_poll (h.inbox i)) (fun j => (h.inbox j).mono fun _ _ => hgrows.carried) j
  · refine forall_setNode
      (P := fun j node => node.routes.All fun _ => (net.step (.poll i now failing)).Sound j)
      ?_ (fun j => (h.routes j).mono fun _ _ => hgrows.sound) j
    exact hlistened

theorem Honest.sendData (h : net.Honest) (i : ι) (destination : NodeIdentity) (payload : Bytes)
    (failing : List AdapterId) : (net.step (.sendData i destination payload failing)).Honest := by
  have hgrows := net.grows_step (.sendData i destination payload failing)
  refine ⟨h.distinct, h.ids, fun j datagram hsent => ?_,
    fun j => (h.inbox j).mono fun _ _ => hgrows.carried,
    fun j => (h.routes j).mono fun _ _ => hgrows.sound⟩
  rcases of_mem_sent_record hsent with hold | ⟨rfl, htaken⟩
  · exact hgrows.spoken (h.sent j datagram hold)
  · obtain ⟨message, hencode⟩ := Node.of_mem_sendData htaken
    exact ⟨.data message, hencode, fun _ hdiscovery => by cases hdiscovery⟩

theorem Honest.deliver (h : net.Honest) (origin : ι) (datagram : Datagram) (i : ι) (port : UInt16)
    (recipient : Address) (now : Time) :
    (net.step (.deliver origin datagram i port recipient now)).Honest := by
  simp only [step]
  split
  · exact h
  · next source hsource =>
    by_cases hsent : (origin, datagram) ∈ net.sent
    · rw [if_pos hsent]
      have hgrows : net.Grows (net.setNode i
          ((net.node i).receive ⟨⟨source, port⟩, recipient⟩ datagram.bytes now)) :=
        grows_setNode rfl rfl
      obtain ⟨hdistinct, hids⟩ := h.keeps_apart hgrows
      obtain ⟨message, hencode, -⟩ := h.sent origin datagram hsent
      have hcarried : net.Carried ⟨⟨source, port⟩, recipient⟩ (Packet.ofMessage message) :=
        ⟨origin, datagram, hsent, hsource, hencode⟩
      have hinbox (j : ι) := (h.inbox j).mono fun _ _ => hgrows.carried
      have hroutes (j : ι) := (h.routes j).mono fun _ _ => hgrows.sound
      exact ⟨hdistinct, hids, fun j sent hmem => hgrows.spoken (h.sent j sent hmem),
        forall_setNode (P := fun _ node => node.inbox.Carries _)
          ((hinbox i).receive hencode (hgrows.carried hcarried) now) hinbox,
        forall_setNode (P := fun j node => node.routes.All _) (hroutes i) hroutes⟩
    · rw [if_neg hsent]
      exact h

theorem Honest.step (h : net.Honest) (action : NetworkAction ι) : (net.step action).Honest := by
  cases action with
  | poll i now failing => exact h.poll i now failing
  | sendData i destination payload failing => exact h.sendData i destination payload failing
  | deliver origin datagram i port recipient now =>
    exact h.deliver origin datagram i port recipient now

theorem Honest.after (h : net.Honest) (actions : List (NetworkAction ι)) :
    (net.after actions).Honest := by
  induction actions generalizing net with
  | nil => exact h
  | cons first rest ih => exact ih (h.step first)

/-- Whatever the network loses, repeats, delays or reorders, each route of a node names a node of
the network, was reported by another one, counts the hops of a chain of discoveries that leads from
the one to the other, and is direct just if that is one hop. -/
theorem routes_sound (h : net.IsFresh) (actions : List (NetworkAction ι)) (i : ι) :
    ∀ route ∈ ((net.after actions).node i).routes.routes, (net.after actions).Sound i route := by
  intro route hroute
  obtain ⟨-, hsound⟩ := ((h.honest.after actions).routes i).of_mem hroute
  exact hsound

def pairAdapter (i : Bool) : Adapter :=
  { id := ⟨"e"⟩, name := "e", addresses := [⟨⟨if i then 2 else 1⟩, ⟨0xffffff00⟩⟩] }

/-- Two nodes side by side. -/
def pair : Network Bool where
  node i :=
    { config := { nodeId := if i then 2 else 1 }
      adapters := .ofList [pairAdapter i] }

/-- The first announces itself and the second hears of it. -/
def pairMeets : List (NetworkAction Bool) :=
  [.poll false 0 [],
    .deliver false ⟨.multicast ⟨"e"⟩,
      [0, 0, 0, 20, 0, 1, 0, 0, 0, 10, 0, 1, 0, 1, 0, 0, 6, 41, 30, 127]⟩ true 7171 ⟨2⟩ 0,
    .poll true 0 []]

theorem isFresh_pair : pair.IsFresh where
  created i := ⟨{ nodeId := if i then 2 else 1 }, { config := { nodeId := if i then 2 else 1 } },
    [pairAdapter i], by cases i <;> rfl, rfl⟩
  sent := rfl
  notices _ := rfl
  distinct i j address hi hj := by
    have howner (i : Bool) (h : (pair.node i).adapters.Owns address) :
        address = ⟨if i then 2 else 1⟩ := by
      obtain ⟨adapter, hadapter, haddress⟩ := AdapterTable.owns_iff.mp h
      have honly : adapter ∈ [pairAdapter i] := hadapter
      rw [List.mem_singleton.mp honly] at haddress
      simp only [Adapter.hasAddress, pairAdapter, List.any_cons, List.any_nil, Bool.or_false,
        beq_iff_eq] at haddress
      exact haddress.symm
    have hsame := (howner i hi).symm.trans (howner j hj)
    cases i <;> cases j <;> simp at hsame ⊢

theorem routes_sound_pair : pair.IsFresh ∧
    ∃ route ∈ ((pair.after pairMeets).node true).routes.routes,
      (pair.after pairMeets).Sound true route := by
  have hsome : ((pair.after pairMeets).node true).routes.routes ≠ [] := by decide +kernel
  obtain ⟨route, hroute⟩ := List.exists_mem_of_ne_nil _ hsome
  exact ⟨isFresh_pair, route, hroute, routes_sound isFresh_pair pairMeets true route hroute⟩

end Step
end Network
end RouteDiscovery

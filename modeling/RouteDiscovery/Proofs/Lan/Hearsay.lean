import RouteDiscovery.Proofs.Lan.Silence

/-!
What a station hears of it passes on, and so a report can travel in a circle: two stations that
share two segments keep a third one online for each other long after it has gone.
-/
namespace RouteDiscovery
open Wire

namespace Lan

/-- What waits everywhere is discoveries with short paths, and so are the routes, all of which may
be announced. -/
def Calm (limit : Nat) : Lan → Prop :=
  Upholds (fun _ _ packet => ∃ message, packet = Packet.ofMessage (.discovery message) ∧
      ∀ entry ∈ message.nodes, entry.path.length ≤ limit)
    (fun _ _ route => route.silent = false ∧ route.path.length ≤ limit + 1)

/-- A message that tells of a node waits at station `i`, where it came in on an adapter. -/
def Reports (lan : Lan) (who : NodeIdentity) (i : Nat) (into : AdapterId) : Prop :=
  ∃ station key message adapter, lan.station? i = some station ∧
    station.node.inbox.Holds key (Packet.ofMessage (.discovery message)) ∧
    message.Mentions key.sender.address who ∧
    station.node.adapters.owner? key.sender.address = none ∧
    station.node.adapters.owner? key.recipient = some adapter ∧ adapter.id = into

/-- Station `i` makes a round at any poll that is not before `due`. -/
def Paced (lan : Lan) (i : Nat) (due : Time) : Prop :=
  ∃ station, lan.station? i = some station ∧ station.node.schedule.interval = 20000 ∧
    ∀ last, station.node.schedule.last = some last → last + 20000 ≤ due

/-- Station `i` can send its rounds on an adapter. -/
def Speaks (lan : Lan) (i : Nat) (out : AdapterId) : Prop :=
  ∃ station, lan.station? i = some station ∧ station.sendFaults = [] ∧
    ∃ adapter ∈ station.node.adapters.usable, adapter.id = out ∧ adapter.mtu ≤ 65564

section Wiring
variable {base lan : Lan} {i j : Nat} {out into : AdapterId}

theorem SameWiring.hears (h : base.SameWiring lan) (hhears : base.Hears i out j into) :
    lan.Hears i out j into := by
  obtain ⟨sender, receiver, source, port, adapter, hsender, hsource, hport, hj, hreceiver, hecho,
    howner, hinto⟩ := hhears
  obtain ⟨sender', hsender', hsent⟩ := h.exists_station hsender
  obtain ⟨receiver', hreceiver', hreceived⟩ := h.exists_station hreceiver
  simp only [Station.fixed, Prod.mk.injEq] at hsent hreceived
  rw [← hsent.2.2.1] at hsource
  rw [← hreceived.2.1] at hecho howner
  exact ⟨sender', receiver', source, port, adapter, hsender', hsource, by rwa [h.reached], hj,
    hreceiver', hecho, howner, hinto⟩

theorem SameWiring.speaks (h : base.SameWiring lan) (hspeaks : base.Speaks i out) :
    lan.Speaks i out := by
  obtain ⟨station, hstation, hfaults, adapter, hadapter, hrest⟩ := hspeaks
  obtain ⟨current, hcurrent, hfixed⟩ := h.exists_station hstation
  simp only [Station.fixed, Prod.mk.injEq] at hfixed
  rw [← hfixed.2.2.2] at hfaults
  rw [← hfixed.2.1] at hadapter
  exact ⟨current, hcurrent, hfaults, adapter, hadapter, hrest⟩

end Wiring

section Calm
variable {lan : Lan} {limit i : Nat} {now : Time} {station : Station}

theorem Calm.mono (h : lan.Calm limit) {more : Nat} (hle : limit ≤ more) : lan.Calm more := by
  refine Upholds.mono h (fun _ _ _ packet _ hpacket => ?_) fun _ _ route hroute => ?_
  · obtain ⟨message, hmessage, hentries⟩ := hpacket
    exact ⟨message, hmessage, fun entry hentry => Nat.le_trans (hentries entry hentry) hle⟩
  · exact ⟨hroute.1, Nat.le_trans hroute.2 (Nat.add_le_add_right hle 1)⟩

theorem Calm.discoveries (h : lan.Calm limit) (hstation : lan.station? i = some station)
    {heard : Message × Reception} (hheard : heard ∈ station.node.heard now) :
    ∃ discovery, heard.1 = .discovery discovery ∧
      ∀ entry ∈ discovery.nodes, entry.path.length ≤ limit := by
  obtain ⟨message, reception⟩ := heard
  obtain ⟨hcarries, -⟩ := h i station hstation
  obtain ⟨-, packet, ⟨discovery, rfl, hentries⟩, hmem⟩ := Node.of_mem_heard hcarries hheard
  exact ⟨discovery, List.mem_singleton.mp hmem, hentries⟩

theorem Calm.respects (h : lan.Calm limit) (hstation : lan.station? i = some station)
    {heard : Message × Reception} (hheard : heard ∈ station.node.heard now) :
    RouteTable.Respects (fun _ route => route.silent = false ∧ route.path.length ≤ limit + 1)
      station.node.adapters heard := by
  obtain ⟨message, reception⟩ := heard
  obtain ⟨discovery, rfl, hentries⟩ := h.discoveries hstation hheard
  intro adapter _ _ key path hlookup
  obtain ⟨-, -, htold⟩ := RouteTable.lookup_told hlookup
  refine ⟨fun mtu => ⟨rfl, ?_⟩, fun _ _ hroute => hroute⟩
  rcases htold with ⟨-, hpath⟩ | ⟨-, entry, hentry, -, hpath⟩
  · rw [hpath]
    exact Nat.le_add_left 1 limit
  · rw [hpath, List.length_cons]
    exact Nat.succ_le_succ (hentries entry hentry)

theorem Calm.listened (h : lan.Calm limit) (hstation : lan.station? i = some station) (now : Time) :
    (station.node.listen now).node.routes.All fun _ route =>
      route.silent = false ∧ route.path.length ≤ limit + 1 :=
  Node.all_listen (h i station hstation).2.1 (fun _ hheard => h.respects hstation hheard)
    fun _ _ _ hroute => hroute

/-- A poll makes paths longer by the two hops of a station at most. -/
theorem Calm.poll (h : lan.Calm limit) (i : Nat) (now : Time) :
    (lan.poll i now).2.Calm (limit + 2) := by
  cases hstation : lan.station? i with
  | none =>
    simp only [Lan.poll, hstation]
    exact h.mono (Nat.le_add_right limit 2)
  | some station =>
    have hpolled : (lan.poll i now).2.Upholds
        (fun _ _ packet => ∃ message, packet = Packet.ofMessage (.discovery message) ∧
          ∀ entry ∈ message.nodes, entry.path.length ≤ limit + 2)
        (fun _ _ route => route.silent = false ∧ route.path.length ≤ limit + 1) := by
      refine Upholds.poll h hstation (fun _ _ _ packet hpacket => ?_) (fun _ _ _ hroute => hroute)
        (fun heard hheard => h.respects hstation hheard) (fun _ _ _ hroute => hroute)
        fun adapter _ message hannounces _ _ _ _ => ⟨message, rfl, fun entry hentry => ?_⟩
      · obtain ⟨message, hmessage, hentries⟩ := hpacket
        exact ⟨message, hmessage, fun entry hentry =>
          Nat.le_trans (hentries entry hentry) (Nat.le_add_right limit 2)⟩
      · obtain ⟨-, route, -, hroute, -, rfl⟩ := hannounces.2 entry hentry
        rw [Route.entry, List.length_append, List.length_singleton]
        exact Nat.succ_le_succ hroute.2
    exact hpolled.mono (fun _ _ _ _ _ hpacket => hpacket)
      fun _ _ route hroute => ⟨hroute.1, Nat.le_trans hroute.2 (Nat.le_add_right _ 2)⟩

/-- A message of the round of a station, on an adapter. -/
def Rounds (station : Station) (now : Time) (adapter : Adapter) (message : Discovery) : Prop :=
  message ∈ Discovery.partition station.node.config.nodeId (adapter.mtu - datagramOverhead)
    (((station.node.listen now).node.routes.announced adapter.id).map (·.entry hopCost))

theorem Calm.exists_encode (h : lan.Calm limit) (hlimit : limit ≤ 32000)
    (hstation : lan.station? i = some station) {adapter : Adapter} (hmtu : adapter.mtu ≤ 65564)
    {message : Discovery} (hmessage : Rounds station now adapter message) :
    ∃ code, (Packet.ofMessage (.discovery message)).encode = .ok code := by
  apply Packet.exists_encode
  rcases Discovery.size_le_of_mem_partition hmessage with hsingle | hbudget
  · -- A single entry has the path of a route and one hop more.
    have hentries (entry : NodeEntry) (hentry : entry ∈ message.nodes) :
        entry.size ≤ 8 + 2 * (limit + 2) := by
      obtain ⟨route, hroute, rfl⟩ :=
        List.mem_map.mp (Discovery.mem_entries_of_mem_partition hmessage hentry)
      obtain ⟨⟨bucket, hbucket, -, hmem⟩, -⟩ :=
        RouteTable.mem_candidates.mp (RouteTable.mem_candidates_of_announced hroute)
      have hpath := (h.listened hstation now bucket hbucket route hmem).2
      simp only [NodeEntry.size, Route.entry, List.length_append, List.length_singleton]
      omega
    obtain ⟨sender, nodes⟩ := message
    have htotal : total (nodes.map NodeEntry.size) ≤ 8 + 2 * (limit + 2) := by
      rcases nodes with _ | ⟨entry, rest⟩
      · exact Nat.zero_le _
      · have hnil : rest = [] := List.eq_nil_of_length_eq_zero (by simpa using hsingle)
        have hentry := hentries entry List.mem_cons_self
        rw [hnil]
        simpa using hentry
    simp only [Packet.size, Packet.ofMessage, Message.size, Message.bodySize, List.map_cons,
      List.map_nil, total_cons, total_nil, Packet.maxSize]
    omega
  · unfold datagramOverhead at hbudget
    unfold Packet.maxSize
    omega

/-- Each message of a round that is due waits at every station that is reached. -/
theorem Calm.holds_poll (h : lan.Calm limit) (hlimit : limit ≤ 32000)
    (hstation : lan.station? i = some station) (hdue : station.node.schedule.isDue now = true)
    (hfaults : station.sendFaults = []) {adapter : Adapter}
    (hadapter : adapter ∈ station.node.adapters.usable) (hmtu : adapter.mtu ≤ 65564)
    {source : Address} (hsource : station.sources.lookup adapter.id = some source) {port : Port}
    (hport : port ∈ lan.reached source (.multicast adapter.id)) (hother : port.station ≠ i)
    {receiver : Station} (hreceiver : lan.station? port.station = some receiver)
    {message : Discovery} (hmessage : Rounds station now adapter message) :
    ∃ after, (lan.poll i now).2.station? port.station = some after ∧
      after.node.adapters = receiver.node.adapters ∧
      after.node.inbox.Holds ⟨⟨source, station.node.config.port⟩, port.subnet.address⟩
        (Packet.ofMessage (.discovery message)) := by
  obtain ⟨code, hencode⟩ := h.exists_encode hlimit hstation hmtu hmessage
  have hdatagram : ⟨.multicast adapter.id, code⟩ ∈
      ((station.node.listen now).node.announce now).1 := by
    apply Node.mem_announce hdue
    exact List.mem_flatMap.mpr ⟨adapter, hadapter,
      Schedule.mem_announcements.mpr ⟨message, hmessage, hencode, rfl⟩⟩
  have hsends : source? station (.multicast adapter.id) = .ok source := by
    have htarget : station.sources.lookup (Target.multicast adapter.id).adapter = some source :=
      hsource
    simp only [source?, hfaults, List.lookup_nil, htarget]
  have hitem : (⟨⟨source, station.node.config.port⟩, port.subnet.address⟩, code) ∈
      lan.mailOfPoll station now port.station :=
    List.mem_flatMap.mpr ⟨_, hdatagram, mem_mailOf.mpr ⟨source, port, hsends, hport, rfl, rfl⟩⟩
  refine ⟨receiver.receiveAll (lan.mailOfPoll station now port.station), ?_, ?_, ?_⟩
  · rw [station?_poll hstation, if_neg hother, hreceiver]
    rfl
  · rw [Station.receiveAll_eq]
  · have hwhole : receiver.node.inbox.Carries fun _ _ => True :=
      (h _ receiver hreceiver).1.mono fun _ _ _ => trivial
    refine Station.holds_of_mem_mail hwhole (fun item hmem => ?_) hitem hencode
    have hroutes : (station.node.listen now).node.routes.All fun _ _ => True :=
      fun _ _ _ _ => trivial
    obtain ⟨_, -, sent, -, -, -, hsent, -⟩ :=
      of_mem_mailOfPoll hroutes (h i station hstation).2.2 hmem
    exact ⟨_, hsent, trivial⟩

/-- A report that waits makes its node online, where it came in. -/
theorem Calm.online_of_reports (h : lan.Calm limit) {who : NodeIdentity} {into : AdapterId}
    (hreports : lan.Reports who i into) (now : Time) :
    ∃ station, lan.station? i = some station ∧ ∃ bucket ∈
      (station.node.listen now).node.routes.buckets, bucket.1 = into ∧ ∃ route ∈ bucket.2,
        route.key.node = who ∧ route.online = true ∧ route.silent = false := by
  obtain ⟨station, key, message, adapter, hstation, hheld, hmentions, hecho, howner, rfl⟩ :=
    hreports
  have htimeout : 0 < station.node.routes.timeout := by
    rw [(h i station hstation).2.2]
    decide
  have hall (heard : Message × Reception) (hheard : heard ∈ station.node.heard now) :
      ∃ discovery, heard.1 = .discovery discovery := by
    obtain ⟨discovery, hdiscovery, -⟩ := h.discoveries hstation hheard
    exact ⟨discovery, hdiscovery⟩
  have hheard := Node.mem_heard_of_holds hheld (List.mem_singleton.mpr rfl) now
  obtain ⟨bucket, hbucket, hid, route, hroute, hnode, honline⟩ :=
    Node.online_of_heard hall hheard hecho howner hmentions htimeout
  exact ⟨station, hstation, bucket, hbucket, hid, route, hroute, hnode, honline,
    (h.listened hstation now bucket hbucket route hroute).1⟩

end Calm

section Paced
variable {lan : Lan} {i j : Nat} {now : Time}

theorem Paced.isDue (h : lan.Paced i now) {station : Station}
    (hstation : lan.station? i = some station) : station.node.schedule.isDue now = true := by
  obtain ⟨current, hcurrent, hinterval, hlast⟩ := h
  obtain rfl : current = station := Option.some.inj (hcurrent.symm.trans hstation)
  unfold Schedule.isDue
  cases hschedule : current.node.schedule.last with
  | none => rfl
  | some last =>
    have hpast := hlast last hschedule
    simp only [hinterval, elapsed, decide_eq_true_eq]
    lia

/-- After a round the next one is due in 20 seconds. -/
theorem Paced.poll_self (h : lan.Paced i now) : (lan.poll i now).2.Paced i (now + 20000) := by
  obtain ⟨station, hstation, hinterval, -⟩ := id h
  have hdue := h.isDue hstation
  refine ⟨_, by rw [station?_poll hstation, if_pos rfl], ?_⟩
  rw [Station.receiveAll_eq, Node.listen_node]
  simp only [Node.announce, Node.forgetIdle, Schedule.plan, hdue, if_true]
  refine ⟨hinterval, fun last hlast => ?_⟩
  obtain rfl := Option.some.inj hlast
  exact Int.le_refl _

theorem Paced.poll_other (h : lan.Paced j now) (hother : j ≠ i) (time : Time) :
    (lan.poll i time).2.Paced j now := by
  cases hpolled : lan.station? i with
  | none =>
    simp only [Lan.poll, hpolled]
    exact h
  | some station =>
    obtain ⟨current, hcurrent, hschedule⟩ := h
    refine ⟨current.receiveAll (lan.mailOfPoll station time j), ?_, ?_⟩
    · rw [station?_poll hpolled, if_neg hother, hcurrent]
      rfl
    · rw [Station.receiveAll_eq]
      exact hschedule

end Paced

section Reports
variable {lan : Lan} {limit i j : Nat} {now : Time} {out into : AdapterId} {who : NodeIdentity}

/-- What a round tells of a node is reported wherever the round is heard. -/
theorem Calm.reports_poll (h : lan.Calm limit) (hlimit : limit ≤ 32000) (hpaced : lan.Paced i now)
    (hspeaks : lan.Speaks i out) (hhears : lan.Hears i out j into) (hother : j ≠ i)
    (hround : ∀ station adapter source, lan.station? i = some station → adapter.id = out →
      station.sources.lookup out = some source →
      ∃ message, Rounds station now adapter message ∧ message.Mentions source who) :
    (lan.poll i now).2.Reports who j into := by
  obtain ⟨sender, receiver, source, port, found, hsender, hsource, hport, rfl, hreceiver, hecho,
    howner, hinto⟩ := hhears
  obtain ⟨station, hstation, hfaults, adapter, hadapter, rfl, hmtu⟩ := hspeaks
  obtain rfl : station = sender := Option.some.inj (hstation.symm.trans hsender)
  obtain ⟨message, hmessage, hmentions⟩ := hround station adapter source hstation rfl hsource
  obtain ⟨after, hafter, hadapters, hheld⟩ := h.holds_poll hlimit hstation (hpaced.isDue hstation)
    hfaults hadapter hmtu hsource hport hother hreceiver hmessage
  rw [← hadapters] at hecho howner
  exact ⟨after, _, message, found, hafter, hheld, hmentions, hecho, howner, hinto⟩

/-- What a station hears on one adapter it reports on the others. -/
theorem Reports.passes_on (hreports : lan.Reports who i into) (h : lan.Calm limit)
    (hlimit : limit ≤ 32000) (hpaced : lan.Paced i now) (hspeaks : lan.Speaks i out)
    {next : AdapterId} (hhears : lan.Hears i out j next) (hother : j ≠ i) (hout : out ≠ into) :
    (lan.poll i now).2.Reports who j next := by
  refine h.reports_poll hlimit hpaced hspeaks hhears hother
    fun station adapter source hstation hid _ => ?_
  obtain ⟨current, hcurrent, bucket, hbucket, rfl, route, hroute, rfl, honline, hsilent⟩ :=
    h.online_of_reports hreports now
  obtain rfl : current = station := Option.some.inj (hcurrent.symm.trans hstation)
  have hcandidate : route ∈ (current.node.listen now).node.routes.candidates adapter.id :=
    RouteTable.mem_candidates.mpr
      ⟨⟨bucket, hbucket, fun hsame => hout (by rw [← hid, hsame]), hroute⟩, honline, hsilent⟩
  obtain ⟨chosen, hchosen, hnode⟩ := RouteTable.exists_announced hcandidate
  have hlisted : chosen.entry hopCost ∈
      ((current.node.listen now).node.routes.announced adapter.id).map (·.entry hopCost) :=
    List.mem_map.mpr ⟨chosen, hchosen, rfl⟩
  have hround : ∃ message, Rounds current now adapter message ∧
      chosen.entry hopCost ∈ message.nodes := Discovery.exists_mem_partition hlisted
  obtain ⟨message, hmessage, hentry⟩ := hround
  exact ⟨message, hmessage, .inr ⟨_, hentry, hnode.symm⟩⟩

end Reports

/-- Three stations on one segment, two of them also on another. -/
def circle : List Site :=
  [⟨{ nodeId := 1 }, [attached "e0" (.ofOctets 10 0 0 1)], false⟩,
    ⟨{ nodeId := 2 },
      [attached "e0" (.ofOctets 10 0 0 2), attached "e1" (.ofOctets 10 0 1 2)], false⟩,
    ⟨{ nodeId := 3 },
      [attached "e0" (.ofOctets 10 0 0 3), attached "e1" (.ofOctets 10 0 1 3)], false⟩]

/-- The first station of the circle. -/
def departed : NodeIdentity := ⟨1, .ofOctets 10 0 0 1⟩

theorem second_hears : (build circle).Hears 1 ⟨"e1"⟩ 2 ⟨"e1"⟩ :=
  ⟨_, _, .ofOctets 10 0 1 2, ⟨2, ⟨.ofOctets 10 0 1 3, .ofOctets 255 255 255 0⟩⟩, _, rfl, rfl,
    by decide, rfl, rfl, rfl, rfl, rfl⟩

theorem third_hears : (build circle).Hears 2 ⟨"e0"⟩ 1 ⟨"e0"⟩ :=
  ⟨_, _, .ofOctets 10 0 0 3, ⟨1, ⟨.ofOctets 10 0 0 2, .ofOctets 255 255 255 0⟩⟩, _, rfl, rfl,
    by decide, rfl, rfl, rfl, rfl, rfl⟩

theorem circle_speaks : (build circle).Speaks 0 ⟨"e0"⟩ ∧ (build circle).Speaks 1 ⟨"e1"⟩ ∧
    (build circle).Speaks 2 ⟨"e0"⟩ :=
  ⟨⟨_, rfl, rfl, _, List.mem_cons_self, rfl, by decide⟩,
    ⟨_, rfl, rfl, _, List.mem_cons_of_mem _ List.mem_cons_self, rfl, by decide⟩,
    ⟨_, rfl, rfl, _, List.mem_cons_self, rfl, by decide⟩⟩

/-- The circle when the first station was polled once, and each of the others `n` times behind. -/
structure Circling (n : Nat) (lan : Lan) : Prop where
  wired : (build circle).SameWiring lan
  calm : lan.Calm (4 * n + 2)
  reported : lan.Reports departed 1 ⟨"e0"⟩
  second : lan.Paced 1 (20000 * (n : Int))
  third : lan.Paced 2 (20000 * (n : Int))

/-- The second station passes on what the third one told, and the third one tells it again. -/
theorem Circling.next {n : Nat} {lan : Lan} (h : Circling n lan) (hn : 4 * n + 4 ≤ 32000) :
    Circling (n + 1) (lan.run [(1, 20000 * (n : Int)), (2, 20000 * (n : Int))]) := by
  have hspeaks := circle_speaks
  have hwired := h.wired.trans (sameWiring_poll 1 (20000 * (n : Int)) lan)
  have hcalm := h.calm.poll 1 (20000 * (n : Int))
  have hpassed : (lan.poll 1 (20000 * (n : Int))).2.Reports departed 2 ⟨"e1"⟩ :=
    h.reported.passes_on h.calm (by omega) h.second (h.wired.speaks hspeaks.2.1)
      (h.wired.hears second_hears) (by decide) (by decide)
  have hthird := h.third.poll_other (i := 1) (by decide) (20000 * (n : Int))
  have hreturned : ((lan.poll 1 (20000 * (n : Int))).2.poll 2 (20000 * (n : Int))).2.Reports
      departed 1 ⟨"e0"⟩ :=
    hpassed.passes_on hcalm hn hthird (hwired.speaks hspeaks.2.2) (hwired.hears third_hears)
      (by decide) (by decide)
  have hdue : 20000 * (n : Int) + 20000 = 20000 * ((n + 1 : Nat) : Int) := by omega
  have hsecond : ((lan.poll 1 (20000 * (n : Int))).2.poll 2 (20000 * (n : Int))).2.Paced 1
      (20000 * (n : Int) + 20000) := h.second.poll_self.poll_other (by decide) _
  constructor
  · exact h.wired.trans (sameWiring_run _ lan)
  · exact hcalm.poll 2 (20000 * (n : Int))
  · exact hreturned
  · rw [← hdue]
    exact hsecond
  · rw [← hdue]
    exact hthird.poll_self

end Lan
end RouteDiscovery

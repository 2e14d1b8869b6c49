import RouteDiscovery.Proofs.Node.Notices
import RouteDiscovery.Proofs.Route.Commutation
import RouteDiscovery.Proofs.Route.Liveness

/-!
What a poll passes on. The messages of the packets that wait reach the listener in their order, each
once, behind the routes that it brought to light; only echoes are held back. What the sweep changes
comes last, and the report counts what was passed on.
-/
namespace RouteDiscovery

def Message.isDiscovery : Message → Bool
  | .discovery _ => true
  | .data _ => false

namespace Notice

/-- The notice that tells of a message. -/
def ofMessage : Message × Reception → Notice
  | (.discovery message, reception) => .discovery message reception
  | (.data message, reception) => .data message reception

def message? : Notice → Option (Message × Reception)
  | .route _ => none
  | .discovery message reception => some (.discovery message, reception)
  | .data message reception => some (.data message, reception)

/-- The messages that the notices tell of. -/
def messages (notices : List Notice) : List (Message × Reception) :=
  notices.filterMap message?

/-- The notice tells that a route came online or went offline. -/
def isFlip : Notice → Bool
  | .route (.livenessChanged ..) => true
  | _ => false

@[simp] theorem messages_append (front back : List Notice) :
    messages (front ++ back) = messages front ++ messages back :=
  List.filterMap_append

@[simp] theorem messages_route (told : List RouteEvent) : messages (told.map .route) = [] := by
  simp [messages, List.filterMap_map, Function.comp_def, message?]

@[simp] theorem messages_ofMessage (heard : Message × Reception) :
    messages [ofMessage heard] = [heard] := by
  obtain ⟨message | message, reception⟩ := heard <;> rfl

@[simp] theorem events_ofMessage (heard : Message × Reception) : events [ofMessage heard] = [] := by
  obtain ⟨message | message, reception⟩ := heard <;> rfl

/-- Where all events are discoveries, no notice tells of a change of liveness. -/
theorem not_isFlip {notices : List Notice} {notice : Notice}
    (h : ∀ event ∈ events notices, ∃ route, event = .discovered route) (hmem : notice ∈ notices) :
    ¬ notice.isFlip = true := by
  intro hflip
  match notice, hflip with
  | .route (.livenessChanged wasOnline changed), _ =>
    obtain ⟨_, hdiscovered⟩ := h _ (List.mem_filterMap.mpr ⟨_, hmem, rfl⟩)
    cases hdiscovered

end Notice

namespace AdapterTable

/-- A discovery that one of the own addresses sent. -/
def isEcho (adapters : AdapterTable) : Message × Reception → Bool
  | (.discovery _, reception) => (adapters.owner? reception.sender.address).isSome
  | (.data _, _) => false

/-- A discovery of another node that was sent to none of the own addresses. -/
def isStray (adapters : AdapterTable) : Message × Reception → Bool
  | (.discovery _, reception) => (adapters.owner? reception.sender.address).isNone &&
      (adapters.owner? reception.recipient).isNone
  | (.data _, _) => false

end AdapterTable

namespace RouteTable
variable {adapters : AdapterTable} {table : RouteTable}

/-- The table behind a message that is no echo. -/
def takeIn (adapters : AdapterTable) (table : RouteTable) : Message × Reception → RouteTable
  | (.discovery message, reception) => (table.learn adapters message reception).2
  | (.data message, reception) => (table.recordData adapters message reception).2

/-- The table with events that were taken from it put back. -/
def putBack (told : List RouteEvent) (table : RouteTable) : RouteTable :=
  { table with events := told ++ table.events }

section PutBack

theorem heard_putBack (told : List RouteEvent) (adapters : AdapterTable) (now : Time)
    (table : RouteTable) (pair : RouteKey × List UInt16) :
    (table.putBack told).heard adapters now pair =
      (table.heard adapters now pair).putBack told := by
  have hfind : (table.putBack told).find? pair.1 = table.find? pair.1 := rfl
  unfold heard hear
  rw [hfind]
  cases adapters.find? pair.1.adapter with
  | none => rfl
  | some adapter =>
    cases table.find? pair.1 with
    | some route => rfl
    | none =>
      simp only [insert, putBack, record, adjust]
      split_ifs <;> simp only [List.append_assoc]

/-- What is taken in does not depend on the events. -/
theorem takeIn_putBack (told : List RouteEvent) (table : RouteTable)
    (heard : Message × Reception) :
    (table.putBack told).takeIn adapters heard = (table.takeIn adapters heard).putBack told := by
  obtain ⟨message | message, reception⟩ := heard
  · simp only [takeIn, learn_snd]
    cases adapters.owner? reception.recipient with
    | none => rfl
    | some adapter =>
      exact List.foldl_hom (putBack told) fun table pair =>
        heard_putBack told adapters reception.time table pair
  · simp only [takeIn, recordData]
    cases adapters.owner? reception.recipient <;> rfl

theorem exists_events_heard (adapters : AdapterTable) (now : Time) (table : RouteTable)
    (pair : RouteKey × List UInt16) : ∃ found : List Route,
      (table.heard adapters now pair).events = table.events ++ found.map .discovered := by
  rw [events_heard]
  split
  · exact ⟨[_], rfl⟩
  · exact ⟨[], rfl⟩

/-- Only new routes are told of. -/
theorem exists_events_takeIn (adapters : AdapterTable) (table : RouteTable)
    (heard : Message × Reception) :
    ∃ found : List Route,
      (table.takeIn adapters heard).events = table.events ++ found.map .discovered := by
  obtain ⟨message | message, reception⟩ := heard
  · simp only [takeIn, learn_snd]
    cases adapters.owner? reception.recipient with
    | none => exact ⟨[], (List.append_nil _).symm⟩
    | some adapter =>
      simp only
      generalize told message adapter.id reception.sender.address = pairs
      induction pairs generalizing table with
      | nil => exact ⟨[], (List.append_nil _).symm⟩
      | cons pair rest ih =>
        obtain ⟨found, hfound⟩ := exists_events_heard adapters reception.time table pair
        obtain ⟨more, hmore⟩ := ih (table.heard adapters reception.time pair)
        refine ⟨found ++ more, ?_⟩
        rw [List.foldl_cons, hmore, hfound, List.append_assoc, List.map_append]
  · exact ⟨[], (events_recordData adapters message reception table).trans
      (List.append_nil _).symm⟩

end PutBack
end RouteTable

namespace Polling
variable {adapters : AdapterTable} {table : RouteTable} {front : List (Message × Reception)}
  {heard : Message × Reception} {polling other : Polling}

theorem hear_adapters (heard : Message × Reception) (polling : Polling) :
    (polling.hear heard).node.adapters = polling.node.adapters := by
  rw [hear_node]

theorem foldl_hear_adapters (messages : List (Message × Reception)) (polling : Polling) :
    (messages.foldl hear polling).node.adapters = polling.node.adapters := by
  rw [foldl_hear_node]

/-- An echo is counted and nothing else. -/
theorem hear_echo (hecho : polling.node.adapters.isEcho heard = true) :
    polling.hear heard = { polling with
      report := { polling.report with discoveries := polling.report.discoveries + 1 } } := by
  obtain ⟨message | message, reception⟩ := heard
  · exact if_pos hecho
  · cases hecho

/-- Any other message is taken in, and told behind the new routes that it brings. -/
theorem hear_told (htaken : polling.node.routes.events = [])
    (hecho : ¬ polling.node.adapters.isEcho heard = true) :
    let next := polling.node.routes.takeIn polling.node.adapters heard
    (polling.hear heard).node.routes = next.takeEvents.2 ∧
      (polling.hear heard).notices.toList =
        polling.notices.toList ++ next.events.map .route ++ [Notice.ofMessage heard] := by
  obtain ⟨message | message, reception⟩ := heard
  · have hown : ¬ (polling.node.adapters.owner? reception.sender.address).isSome = true := hecho
    simp only [hear, hearDiscovery, if_neg hown]
    constructor
    · rfl
    · simp [tell, dispatch, RouteTable.takeIn, RouteTable.takeEvents, Notice.ofMessage]
  · have hevents : (polling.node.routes.takeIn polling.node.adapters
        (.data message, reception)).events = [] :=
      (RouteTable.events_recordData _ _ _ _).trans htaken
    constructor
    · simp only [RouteTable.takeEvents, ← hevents]
      rfl
    · simp [hevents, hear, hearData, tell, Notice.ofMessage]

/-- The notices so far tell of the messages and of the new routes that these brought to the table,
and nothing is left to be told. -/
structure Conveys (table : RouteTable) (front : List (Message × Reception)) (polling : Polling) :
    Prop where
  taken : polling.node.routes.events = []
  messages_eq : Notice.messages polling.notices.toList = front
  routes_eq : polling.node.routes.putBack (Notice.events polling.notices.toList) =
    front.foldl (RouteTable.takeIn polling.node.adapters) table
  discovered : ∀ event ∈ Notice.events polling.notices.toList, ∃ route, event = .discovered route

section Conveys

theorem Conveys.hear (h : polling.Conveys table front)
    (hecho : ¬ polling.node.adapters.isEcho heard = true) :
    (polling.hear heard).Conveys table (front ++ [heard]) := by
  obtain ⟨hroutes, hnotices⟩ := hear_told h.taken hecho
  obtain ⟨found, hfound⟩ :=
    RouteTable.exists_events_takeIn polling.node.adapters polling.node.routes heard
  rw [h.taken, List.nil_append] at hfound
  constructor
  · rw [hroutes]
    rfl
  · rw [hnotices]
    simp [h.messages_eq]
  · have hnext : (polling.node.routes.takeIn polling.node.adapters heard).putBack
        (Notice.events polling.notices.toList) =
          (front ++ [heard]).foldl (RouteTable.takeIn polling.node.adapters) table := by
      rw [← RouteTable.takeIn_putBack, h.routes_eq, List.foldl_append]
      rfl
    rw [hear_adapters, ← hnext, hroutes, hnotices]
    simp [RouteTable.putBack, RouteTable.takeEvents]
  · have hevents : Notice.events (polling.hear heard).notices.toList =
        Notice.events polling.notices.toList ++ found.map .discovered := by
      rw [hnotices, hfound]
      simp only [Notice.events_append, Notice.events_route, Notice.events_ofMessage,
        List.append_nil]
    intro event hevent
    rw [hevents] at hevent
    rcases List.mem_append.mp hevent with hold | hnew
    · exact h.discovered event hold
    · obtain ⟨route, -, rfl⟩ := List.mem_map.mp hnew
      exact ⟨route, rfl⟩

theorem Conveys.echo (h : polling.Conveys table front)
    (hecho : polling.node.adapters.isEcho heard = true) :
    (polling.hear heard).Conveys table front := by
  rw [hear_echo hecho]
  exact ⟨h.taken, h.messages_eq, h.routes_eq, h.discovered⟩

theorem Conveys.foldl_hear (h : polling.Conveys table front)
    (messages : List (Message × Reception)) :
    (messages.foldl Polling.hear polling).Conveys table
      (front ++ messages.filter fun heard => !polling.node.adapters.isEcho heard) := by
  induction messages generalizing front polling with
  | nil => simpa using h
  | cons first rest ih =>
    by_cases hecho : polling.node.adapters.isEcho first = true
    · have hrest := ih (h.echo hecho)
      rw [hear_adapters] at hrest
      simpa [hecho] using hrest
    · have hrest := ih (h.hear hecho)
      rw [hear_adapters] at hrest
      simpa [hecho] using hrest

/-- Each message that is told of stands right behind the new routes that it brought. -/
theorem Conveys.exists_told (h : polling.Conveys table []) {messages : List (Message × Reception)}
    {back : List (Message × Reception)}
    (hsplit : messages.filter (fun heard => !polling.node.adapters.isEcho heard) =
      front ++ heard :: back) :
    ∃ earlier, ∃ found : List Route, ∃ later,
      (messages.foldl Polling.hear polling).notices.toList =
        earlier ++ found.map (.route ∘ .discovered) ++ Notice.ofMessage heard :: later ∧
      Notice.messages earlier = front ∧
      Notice.events earlier = (front.foldl (RouteTable.takeIn polling.node.adapters) table).events ∧
      ((front ++ [heard]).foldl (RouteTable.takeIn polling.node.adapters) table).events =
        (front.foldl (RouteTable.takeIn polling.node.adapters) table).events ++
          found.map .discovered := by
  obtain ⟨first, second, rfl, hfirst, hsecond⟩ := List.filter_eq_append_iff.mp hsplit
  obtain ⟨skipped, last, rfl, hskipped, hheard, -⟩ := List.filter_eq_cons_iff.mp hsecond
  -- The state in which the poll is when it comes to the message.
  have hbefore : ((first ++ skipped).foldl Polling.hear polling).Conveys table front := by
    have hconveys := h.foldl_hear (first ++ skipped)
    have hnone : skipped.filter (fun heard => !polling.node.adapters.isEcho heard) = [] := by
      simpa using hskipped
    rwa [List.filter_append, hfirst, hnone, List.append_nil, List.nil_append] at hconveys
  have hadapters : ((first ++ skipped).foldl Polling.hear polling).node.adapters =
      polling.node.adapters := foldl_hear_adapters _ _
  have hfold : (first ++ (skipped ++ heard :: last)).foldl Polling.hear polling =
      last.foldl Polling.hear (((first ++ skipped).foldl Polling.hear polling).hear heard) := by
    rw [← List.append_assoc, List.foldl_append, List.foldl_cons]
  generalize (first ++ skipped).foldl Polling.hear polling = before at hbefore hadapters hfold
  have hecho : ¬ before.node.adapters.isEcho heard = true := by
    rw [hadapters]
    simpa using hheard
  obtain ⟨-, hnotices⟩ := hear_told hbefore.taken hecho
  obtain ⟨found, hfound⟩ :=
    RouteTable.exists_events_takeIn before.node.adapters before.node.routes heard
  rw [hbefore.taken, List.nil_append] at hfound
  obtain ⟨later, hlater⟩ := notices_foldl_hear last (before.hear heard)
  have hevents : Notice.events before.notices.toList =
      (front.foldl (RouteTable.takeIn polling.node.adapters) table).events := by
    rw [← hadapters, ← hbefore.routes_eq]
    simp [RouteTable.putBack, hbefore.taken]
  refine ⟨before.notices.toList, found, later, ?_, hbefore.messages_eq, hevents, ?_⟩
  · rw [hfold, ← hlater, hnotices, hfound, List.map_map, List.append_assoc, List.singleton_append]
  · rw [← hevents, List.foldl_append, ← hadapters, ← hbefore.routes_eq, List.foldl_cons,
      List.foldl_nil, RouteTable.takeIn_putBack, ← hfound]
    rfl

end Conveys

/-- The report counts every message that is heard. -/
theorem report_hear (heard : Message × Reception) (polling : Polling) :
    (polling.hear heard).report = { polling.report with
      discoveries := polling.report.discoveries + (if heard.1.isDiscovery then 1 else 0)
      data := polling.report.data + (if heard.1.isDiscovery then 0 else 1)
      ingestErrors := polling.report.ingestErrors +
        (if polling.node.adapters.isStray heard then 1 else 0) } := by
  obtain ⟨message | message, reception⟩ := heard
  · by_cases hecho : polling.node.adapters.isEcho (.discovery message, reception) = true
    · have hsome : (polling.node.adapters.owner? reception.sender.address).isNone = false :=
        Option.isNone_eq_false_iff.mpr hecho
      simp [hear_echo hecho, AdapterTable.isStray, Message.isDiscovery, hsome]
    · have hown : ¬ (polling.node.adapters.owner? reception.sender.address).isSome = true := hecho
      have hnone : (polling.node.adapters.owner? reception.sender.address).isNone = true := by
        simpa using hown
      simp only [Polling.hear, hearDiscovery, if_neg hown, AdapterTable.isStray, hnone,
        Message.isDiscovery]
      cases howner : polling.node.adapters.owner? reception.recipient with
      | some adapter =>
        have hlearned := RouteTable.learn_fst message polling.node.routes howner
        simp [hlearned, tell, dispatch]
      | none =>
        have hfailed : (polling.node.routes.learn polling.node.adapters message reception).1 =
            .error (.unknownLocalAddress reception.recipient) := by
          simp only [RouteTable.learn, howner]
        simp [hfailed, tell, dispatch]
  · rfl

theorem report_foldl_hear (messages : List (Message × Reception)) (polling : Polling) :
    (messages.foldl Polling.hear polling).report = { polling.report with
      discoveries := polling.report.discoveries + messages.countP (·.1.isDiscovery)
      data := polling.report.data + messages.countP (!·.1.isDiscovery)
      ingestErrors := polling.report.ingestErrors +
        messages.countP polling.node.adapters.isStray } := by
  induction messages generalizing polling with
  | nil => rfl
  | cons first rest ih =>
    rw [List.foldl_cons, ih, report_hear, hear_adapters]
    simp only [List.countP_cons]
    cases hkind : first.1.isDiscovery <;> simp [Nat.add_assoc, Nat.add_comm 1]
    all_goals split_ifs <;> omega

end Polling

namespace Node
variable {node : Node} {now : Time}

/-- The state in which a poll is before it has heard any message. -/
def beforeHearing (node : Node) : Polling :=
  { node := { node with inbox := node.inbox.process.2 }
    report := { packets := total (node.inbox.process.1.map (·.packets.length)) } }

theorem conveys_beforeHearing (htaken : node.routes.events = []) :
    node.beforeHearing.Conveys node.routes [] where
  taken := htaken
  messages_eq := rfl
  routes_eq := rfl
  discovered := by simp [Notice.events, beforeHearing]

theorem conveys_afterHearing (htaken : node.routes.events = []) (now : Time) :
    (node.afterHearing now).Conveys node.routes
      ((node.heard now).filter fun heard => !node.adapters.isEcho heard) :=
  (conveys_beforeHearing htaken).foldl_hear (node.heard now)

/-- The table that the messages make, echoes left out, before it is swept. -/
def behindHeard (now : Time) (node : Node) : RouteTable :=
  ((node.heard now).filter fun heard => !node.adapters.isEcho heard).foldl
    (RouteTable.takeIn node.adapters) node.routes

theorem afterHearing_routes (htaken : node.routes.events = []) (now : Time) :
    (node.afterHearing now).node.routes.putBack
      (Notice.events (node.afterHearing now).notices.toList) = node.behindHeard now := by
  have hadapters : (node.afterHearing now).node.adapters = node.adapters :=
    Polling.foldl_hear_adapters (node.heard now) _
  rw [(conveys_afterHearing htaken now).routes_eq, hadapters]
  rfl

/-- The changes of liveness that the sweep of the poll makes. -/
def flips (now : Time) (node : Node) : List RouteEvent :=
  (node.behindHeard now).flips ((node.behindHeard now).sweep now).2

theorem flips_eq (htaken : node.routes.events = []) (now : Time) :
    (node.afterHearing now).node.routes.flips ((node.afterHearing now).node.routes.sweep now).2 =
      node.flips now := by
  unfold flips
  rw [← afterHearing_routes htaken now]
  rfl

theorem listen_routes (htaken : node.routes.events = []) (now : Time) :
    (node.listen now).node.routes = ((node.behindHeard now).sweep now).2.takeEvents.2 := by
  rw [← afterHearing_routes htaken now]
  rfl

/-- The listener is told of the changes of the sweep when it has been told of the messages. -/
theorem listen_notices (htaken : node.routes.events = []) (now : Time) :
    (node.listen now).notices.toList =
      (node.afterHearing now).notices.toList ++ (node.flips now).map .route := by
  have hevents : ((node.afterHearing now).node.routes.sweep now).2.events = node.flips now := by
    rw [RouteTable.events_sweep, (conveys_afterHearing htaken now).taken, List.nil_append,
      flips_eq htaken]
  rw [← hevents]
  exact Array.toList_appendList

/-- The report counts what was heard and what the sweep changed. -/
theorem listen_report (htaken : node.routes.events = []) (now : Time) :
    (node.listen now).report =
      { packets := total (node.inbox.process.1.map (·.packets.length))
        discoveries := (node.heard now).countP (·.1.isDiscovery)
        data := (node.heard now).countP (!·.1.isDiscovery)
        ingestErrors := (node.heard now).countP node.adapters.isStray
        routesChanged := (node.flips now).length } := by
  have hswept : (node.listen now).report = { (node.afterHearing now).report with
      routesChanged := ((node.afterHearing now).node.routes.sweep now).1 } := rfl
  have hheard : (node.afterHearing now).report = _ :=
    Polling.report_foldl_hear (node.heard now) node.beforeHearing
  rw [hswept, RouteTable.sweep_fst, flips_eq htaken, hheard]
  simp only [beforeHearing, Nat.zero_add]

/-- All that the sweep tells of are changes of liveness. -/
theorem countP_isFlip_flips (now : Time) (node : Node) :
    ((node.flips now).map Notice.route).countP Notice.isFlip = (node.flips now).length := by
  rw [← List.length_map Notice.route, List.countP_eq_length]
  intro notice hnotice
  obtain ⟨event, hevent, rfl⟩ := List.mem_map.mp hnotice
  obtain ⟨wasOnline, route, rfl⟩ := RouteTable.exists_of_mem_flips hevent
  rfl

end Node

namespace Inbox

theorem Sorted.receiveAll {inbox : Inbox} (h : Sorted inbox.streams) (arrivals : List Arrival) :
    Sorted (inbox.receiveAll arrivals).streams := by
  induction arrivals generalizing inbox with
  | nil => exact h
  | cons arrival rest ih => exact ih (h.feed arrival.key arrival.bytes arrival.time)

end Inbox

namespace NodeRun
variable {run : NodeRun}

theorem sorted_step (h : Inbox.Sorted run.node.inbox.streams) (action : NodeAction) :
    Inbox.Sorted (run.step action).node.inbox.streams := by
  cases action with
  | receive arrival => exact h.feed arrival.key arrival.bytes arrival.time
  | updateAdapters listed => exact h
  | setPersistent key path persistent now =>
    obtain ⟨events, hnode⟩ := setPersistent_node key path persistent now run
    rw [step, hnode]
    exact h
  | poll now arriving =>
    obtain ⟨schedule, hnode⟩ := poll_node now arriving run
    rw [step, hnode]
    exact (h.process.receiveAll arriving).filter _

/-- The streams of a node stand in the order of their keys. -/
theorem sorted_after {config : Config} {node : Node} (hcreate : Node.create config = .ok node)
    (actions : List NodeAction) : Inbox.Sorted (after actions node).node.inbox.streams := by
  have hfresh : Inbox.Sorted node.inbox.streams := by
    rw [Node.eq_of_create hcreate]
    exact List.Pairwise.nil
  exact foldl_step_induction (P := fun run => Inbox.Sorted run.node.inbox.streams)
    (fun _ action h => sorted_step h action) hfresh actions

/-- Between polls no event is left to be told. -/
theorem taken_after {config : Config} {node : Node} (hcreate : Node.create config = .ok node)
    (actions : List NodeAction) : (after actions node).node.routes.events = [] := by
  have hfresh : Logged { node } := by
    obtain rfl := Node.eq_of_create hcreate
    exact RouteTable.logged_empty _
  exact (hfresh.foldl_step actions).taken

/-- A poll hears the batches in ascending order of their keys, and in them the packets and messages
in stream order, all received when it is made. Its listener is told of these messages in this
order, each once, but not of echoes, and the routes are as if there were no echoes. Right before a
message stand the new routes that it brings to the table that the messages before it made, and
those changes of liveness that the sweep makes come behind the last one. The report counts the
packets, the messages of either kind with the echoes, the discoveries of others that none of the own
addresses received, and the changes of liveness. -/
theorem poll_dispatches {config : Config} {node : Node} (hcreate : Node.create config = .ok node)
    (actions : List NodeAction) {σ : Type} (link : Link σ) (now : Time) (state : σ) :
    let current := (after actions node).node
    let batches := current.inbox.process.1
    let messages := batches.flatMap (·.messages now)
    let told := messages.filter fun heard => !current.adapters.isEcho heard
    let behind (front : List (Message × Reception)) :=
      front.foldl (RouteTable.takeIn current.adapters) current.routes
    let polled := (current.poll link now state).1
    let notices := polled.notices.toList
    batches.Pairwise (fun first second => first.key.Before second.key) ∧
      Notice.messages notices = told ∧
      (∀ front heard back, told = front ++ heard :: back →
        ∃ earlier, ∃ found : List Route, ∃ later,
          notices = earlier ++ found.map (.route ∘ .discovered) ++
            Notice.ofMessage heard :: later ∧
          Notice.messages earlier = front ∧ Notice.events earlier = (behind front).events ∧
          (behind (front ++ [heard])).events = (behind front).events ++ found.map .discovered) ∧
      (∃ conveyed, ∃ flips : List RouteEvent, notices = conveyed ++ flips.map .route ∧
        (∀ event ∈ Notice.events conveyed, ∃ route, event = .discovered route) ∧
        flips = (behind told).flips ((behind told).sweep now).2) ∧
      polled.node.routes = ((behind told).sweep now).2.takeEvents.2 ∧
      polled.report.packets = total (batches.map (·.packets.length)) ∧
      polled.report.discoveries = messages.countP (·.1.isDiscovery) ∧
      polled.report.data = messages.countP (!·.1.isDiscovery) ∧
      polled.report.ingestErrors = messages.countP current.adapters.isStray ∧
      polled.report.routesChanged = notices.countP Notice.isFlip := by
  intro current batches messages told behind polled notices
  have htaken : current.routes.events = [] := taken_after hcreate actions
  have hconveys : (current.afterHearing now).Conveys current.routes told :=
    Node.conveys_afterHearing htaken now
  have hnotices : notices = (current.afterHearing now).notices.toList ++
      (current.flips now).map .route := Node.listen_notices htaken now
  have hreport : (current.listen now).report = _ := Node.listen_report htaken now
  refine ⟨(sorted_after hcreate actions).pairwise_process, ?_, ?_,
    ⟨_, _, hnotices, hconveys.discovered, rfl⟩, Node.listen_routes htaken now, ?_⟩
  · rw [hnotices, Notice.messages_append, Notice.messages_route, List.append_nil,
      hconveys.messages_eq]
  · intro front heard back hsplit
    obtain ⟨earlier, found, later, hlater, hrest⟩ :=
      (Node.conveys_beforeHearing htaken).exists_told hsplit
    refine ⟨earlier, found, later ++ (current.flips now).map .route, ?_, hrest⟩
    rw [hnotices, ← List.cons_append, ← List.append_assoc, ← hlater]
    rfl
  · have hconveyed : (current.afterHearing now).notices.toList.countP Notice.isFlip = 0 :=
      List.countP_eq_zero.mpr fun notice hnotice => Notice.not_isFlip hconveys.discovered hnotice
    rw [hnotices, List.countP_append, hconveyed, Node.countP_isFlip_flips, Nat.zero_add]
    show (current.listen now).report.packets = _ ∧ (current.listen now).report.discoveries = _ ∧
      (current.listen now).report.data = _ ∧ (current.listen now).report.ingestErrors = _ ∧
      (current.listen now).report.routesChanged = _
    rw [hreport]
    exact ⟨rfl, rfl, rfl, rfl, rfl⟩

/-- A route lapses while a discovery and data of another node, an echo and a discovery for an
address that the node does not have wait to be heard. -/
def mixed : List NodeAction :=
  let key : RouteKey := ⟨⟨7, ⟨7⟩⟩, ⟨"e"⟩, ⟨7⟩⟩
  let arrival (sender recipient : Address) (messages : List Message) : NodeAction :=
    .receive ⟨⟨⟨sender, 54321⟩, recipient⟩, (Packet.encode ⟨messages⟩).toOption.getD [], 89000⟩
  [.updateAdapters [{ id := ⟨"e"⟩, name := "e", addresses := [⟨⟨1⟩, ⟨0xffffff00⟩⟩] }],
    .setPersistent key [hopCost] true 0, .setPersistent key [hopCost] false 0,
    arrival ⟨3⟩ ⟨9⟩ [.discovery ⟨3, []⟩], arrival ⟨2⟩ ⟨1⟩ [.discovery ⟨2, []⟩, .data ⟨2, [5]⟩],
    arrival ⟨1⟩ ⟨1⟩ [.discovery ⟨0, []⟩]]

/-- Three of the four messages reach the listener, with a new route and the one that lapses. -/
theorem poll_dispatches_mixed :
    let current := (after mixed { config := {}, schedule := { interval := 20000 } }).node
    let batches := current.inbox.process.1
    let messages := batches.flatMap (·.messages 90000)
    let told := messages.filter fun heard => !current.adapters.isEcho heard
    let polled := (current.poll (Link.recording []) 90000 #[]).1
    let notices := polled.notices.toList
    (Node.create {} = .ok { config := {}, schedule := { interval := 20000 } } ∧
      messages.length = 4 ∧ notices.length = 5) ∧
      Notice.messages notices = told ∧
      polled.report.packets = total (batches.map (·.packets.length)) ∧
      polled.report.discoveries = messages.countP (·.1.isDiscovery) ∧
      polled.report.data = messages.countP (!·.1.isDiscovery) ∧
      polled.report.ingestErrors = messages.countP current.adapters.isStray ∧
      polled.report.routesChanged = notices.countP Notice.isFlip := by
  have hcreate : Node.create {} = .ok { config := {}, schedule := { interval := 20000 } } := rfl
  intro current batches messages told polled notices
  have hmessages : messages.length = 4 := by decide +kernel
  have hnotices : notices.length = 5 := by decide +kernel
  obtain ⟨-, htold, -, -, -, hreport⟩ :=
    poll_dispatches hcreate mixed (Link.recording []) 90000 #[]
  exact ⟨⟨hcreate, hmessages, hnotices⟩, htold, hreport⟩

end NodeRun
end RouteDiscovery

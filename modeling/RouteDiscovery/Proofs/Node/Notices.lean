import RouteDiscovery.Proofs.Node.Run
import RouteDiscovery.Proofs.Route.Replica

/-!
What a node tells its listener of routes is all that happens to them. Behind every step no event is
left to be told, and a listener that takes the notices as they come knows the keys of every adapter
in their order and which routes are online.
-/
namespace RouteDiscovery

def Notice.event? : Notice → Option RouteEvent
  | .route event => some event
  | .discovery .. => none
  | .data .. => none

/-- What the notices tell of routes. -/
def Notice.events (notices : List Notice) : List RouteEvent :=
  notices.filterMap event?

@[simp] theorem Notice.events_append (front back : List Notice) :
    events (front ++ back) = events front ++ events back :=
  List.filterMap_append

@[simp] theorem Notice.events_route (told : List RouteEvent) :
    events (told.map .route) = told := by
  simp [events, List.filterMap_map, Function.comp_def, event?]

/-- Nothing is left to be told, and the notices rebuild the table from nothing. -/
structure RouteTable.Logged (notices : List Notice) (table : RouteTable) : Prop where
  coherent : table.Coherent
  taken : table.events = []
  rebuilt : ∃ replica, Replica.replay {} (Notice.events notices) = some replica ∧
    replica.Shows table

section Table
variable {notices : List Notice} {table next : RouteTable}

theorem RouteTable.logged_empty (timeout : Nat) : (RouteTable.empty timeout).Logged [] where
  coherent := coherent_empty timeout
  taken := rfl
  rebuilt := ⟨{}, rfl, fun _ => rfl, by simp [RouteTable.routes, RouteTable.empty]⟩

/-- What an operation told is passed on. -/
theorem RouteTable.Logged.dispatch (h : table.Logged notices) (hcoherent : next.Coherent)
    (htells : table.Tells next) :
    next.takeEvents.2.Logged (notices ++ next.takeEvents.1.map .route) := by
  obtain ⟨events, hevents, hshown⟩ := htells
  obtain ⟨replica, hreplay, hshows⟩ := h.rebuilt
  obtain ⟨shown, hnext, hshows⟩ := hshown replica hshows
  refine ⟨hcoherent.congr rfl, rfl, shown, ?_, hshows.keys_eq, hshows.online_eq⟩
  rw [h.taken, List.nil_append] at hevents
  simp only [RouteTable.takeEvents, hevents, Notice.events_append, Notice.events_route,
    Replica.replay_append, hreplay]
  exact hnext

/-- What an operation did without an event leaves nothing to pass on. -/
theorem RouteTable.Logged.quiet (h : table.Logged notices) (hcoherent : next.Coherent)
    (htells : table.Tells next) (hevents : next.events = table.events) : next.Logged notices := by
  have htaken : next.events = [] := hevents.trans h.taken
  have hlogged := h.dispatch hcoherent htells
  simp only [RouteTable.takeEvents, htaken, List.map_nil, List.append_nil] at hlogged
  exact ⟨hcoherent, htaken, hlogged.rebuilt.imp fun _ h => ⟨h.1, h.2.keys_eq, h.2.online_eq⟩⟩

/-- A notice of a message tells nothing of routes. -/
theorem RouteTable.Logged.tell (h : table.Logged notices) {notice : Notice}
    (hnotice : notice.event? = none) : table.Logged (notices ++ [notice]) where
  coherent := h.coherent
  taken := h.taken
  rebuilt := by
    have hevents : Notice.events (notices ++ [notice]) = Notice.events notices := by
      simp [Notice.events, hnotice]
    rw [hevents]
    exact h.rebuilt

end Table

namespace Polling
variable {before : List Notice} {polling next : Polling}

/-- The notices so far, those before the poll first, are all that happened to the routes. -/
def Logged (before : List Notice) (polling : Polling) : Prop :=
  polling.node.routes.Logged (before ++ polling.notices.toList)

theorem Logged.dispatch (h : polling.Logged before) (hnotices : next.notices = polling.notices)
    (hcoherent : next.node.routes.Coherent)
    (htells : polling.node.routes.Tells next.node.routes) : next.dispatch.Logged before := by
  have hlogged := RouteTable.Logged.dispatch h hcoherent htells
  unfold Logged Polling.dispatch
  rw [Array.toList_appendList, hnotices, ← List.append_assoc]
  exact hlogged

theorem Logged.quiet (h : polling.Logged before) (hnotices : next.notices = polling.notices)
    (hcoherent : next.node.routes.Coherent) (htells : polling.node.routes.Tells next.node.routes)
    (hevents : next.node.routes.events = polling.node.routes.events) : next.Logged before := by
  unfold Logged
  rw [hnotices]
  exact RouteTable.Logged.quiet h hcoherent htells hevents

theorem Logged.tell (h : polling.Logged before) {notice : Notice} (hnotice : notice.event? = none) :
    (polling.tell notice).Logged before := by
  unfold Logged Polling.tell
  rw [Array.toList_push, ← List.append_assoc]
  exact RouteTable.Logged.tell h hnotice

theorem Logged.hear (h : polling.Logged before) (heard : Message × Reception) :
    (polling.hear heard).Logged before := by
  obtain ⟨message | message, reception⟩ := heard
  · simp only [Polling.hear, hearDiscovery]
    split
    · exact h
    · refine Logged.tell (Logged.dispatch h ?_ ?_ ?_) rfl
      · rfl
      · exact h.coherent.learn message reception
      · exact h.coherent.tells_learn message reception
  · simp only [Polling.hear, hearData]
    refine Logged.tell (Logged.quiet h ?_ ?_ ?_ ?_) rfl
    · rfl
    · exact h.coherent.recordData message reception
    · exact h.coherent.tells_recordData message reception
    · exact RouteTable.events_recordData _ _ _ _

theorem Logged.foldl_hear (h : polling.Logged before) (messages : List (Message × Reception)) :
    (messages.foldl Polling.hear polling).Logged before := by
  induction messages generalizing polling with
  | nil => exact h
  | cons heard rest ih => exact ih (h.hear heard)

end Polling

section Node
variable {before : List Notice} {node : Node}

/-- A poll begins without notices of its own. -/
theorem Polling.logged_begin (h : node.routes.Logged before) (inbox : Inbox) (report : PollReport) :
    Polling.Logged before { node := { node with inbox }, report } := by
  simpa [Polling.Logged] using h

theorem Node.logged_listen (h : node.routes.Logged before) (now : Time) :
    (node.listen now).Logged before := by
  have hheard : (node.afterHearing now).Logged before :=
    (Polling.logged_begin h _ _).foldl_hear (node.heard now)
  exact hheard.dispatch rfl (hheard.coherent.sweep now) (hheard.coherent.tells_sweep now)

end Node

namespace NodeRun
variable {run : NodeRun}

/-- The notices of the run are all that happened to the routes. -/
def Logged (run : NodeRun) : Prop :=
  run.node.routes.Logged run.notices

theorem Logged.setPersistent (h : run.Logged) (key : RouteKey) (path : List UInt16)
    (persistent : Bool) (now : Time) : (run.setPersistent key path persistent now).Logged := by
  unfold NodeRun.setPersistent Node.setPersistent
  cases hok : run.node.routes.setPersistent run.node.adapters key path persistent now with
  | error error => exact h
  | ok next =>
    exact (Polling.logged_begin h run.node.inbox {}).dispatch rfl (h.coherent.setPersistent hok)
      (h.coherent.tells_setPersistent hok)

theorem Logged.poll (h : run.Logged) (now : Time) (arriving : List Arrival) :
    (run.poll now arriving).Logged :=
  Node.logged_listen h now

theorem Logged.step (h : run.Logged) (action : NodeAction) : (run.step action).Logged := by
  cases action with
  | receive arrival => exact h
  | updateAdapters listed => exact h
  | setPersistent key path persistent now => exact h.setPersistent key path persistent now
  | poll now arriving => exact h.poll now arriving

theorem Logged.foldl_step (h : run.Logged) (actions : List NodeAction) :
    (actions.foldl NodeRun.step run).Logged :=
  foldl_step_induction (P := Logged) (fun _ action hrun => Logged.step hrun action) h actions

/-- Behind any run no event is left to be told. A replica can take all that the listener was told,
and ends up with the keys of every adapter in their order and with the flag of every route. So a
route that is known was discovered once, before any change of its liveness, and these changes
alternate from online up to what it is now. -/
theorem notices_rebuild_routes {config : Config} {node : Node}
    (hcreate : Node.create config = .ok node) (actions : List NodeAction) :
    let run := after actions node
    let told := Notice.events run.notices
    run.node.routes.events = [] ∧
      (∃ replica, Replica.replay {} told = some replica ∧ replica.Shows run.node.routes) ∧
      ∀ key, RouteEvent.Ordered (RouteEvent.about key told)
        ((run.node.routes.find? key).map (·.online)) := by
  intro run told
  have hfresh : NodeRun.Logged { node } := by
    obtain rfl := Node.eq_of_create hcreate
    exact RouteTable.logged_empty _
  have hlogged : run.Logged := hfresh.foldl_step actions
  obtain ⟨replica, hreplay, hshows⟩ := hlogged.rebuilt
  refine ⟨hlogged.taken, ⟨replica, hreplay, hshows⟩, fun key => ?_⟩
  have hordered : RouteEvent.Ordered (RouteEvent.about key told)
      (if replica.Knows key then some (replica.online key) else none) :=
    Replica.ordered_of_replay hreplay (by simp [Replica.Knows])
  rwa [hlogged.coherent.known_eq_find? hshows] at hordered

/-- A route is made persistent, which is taken back, and then nothing is heard of it. -/
def lapse (key : RouteKey) : List NodeAction :=
  [.updateAdapters [{ id := ⟨"e"⟩, name := "e", addresses := [⟨⟨1⟩, ⟨0xffffff00⟩⟩] }],
    .setPersistent key [hopCost] true 0, .setPersistent key [hopCost] false 0, .poll 90000 []]

/-- The listener is told of the route, and later that it is no longer online. -/
theorem notices_rebuild_routes_lapse :
    let key : RouteKey := ⟨⟨7, ⟨2⟩⟩, ⟨"e"⟩, ⟨2⟩⟩
    let run := after (lapse key) { config := {}, schedule := { interval := 20000 } }
    let told := Notice.events run.notices
    (told.length = 2 ∧ (run.node.routes.find? key).map (·.online) = some false) ∧
      run.node.routes.events = [] ∧
      (∃ replica, Replica.replay {} told = some replica ∧ replica.Shows run.node.routes) ∧
      ∀ key, RouteEvent.Ordered (RouteEvent.about key told)
        ((run.node.routes.find? key).map (·.online)) := by
  have hcreate : Node.create {} = .ok { config := {}, schedule := { interval := 20000 } } := rfl
  intro key run told
  refine ⟨⟨?_, ?_⟩, notices_rebuild_routes hcreate (lapse key)⟩
  · decide +kernel
  · decide +kernel

end NodeRun
end RouteDiscovery

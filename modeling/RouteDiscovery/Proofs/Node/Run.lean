import RouteDiscovery.Proofs.Inbox.Streams
import RouteDiscovery.Proofs.Node.Poll
import RouteDiscovery.Proofs.Route.Coherence

/-!
Runs of one node: bytes of any kind arrive, adapters come and go, routes are made persistent and the
node is polled, in any order and at any times.
-/
namespace RouteDiscovery
open Wire

/-- Bytes that a link brings. -/
structure Arrival where
  key : StreamKey
  bytes : Bytes
  time : Time

def Inbox.receiveAll (arrivals : List Arrival) (inbox : Inbox) : Inbox :=
  arrivals.foldl (fun inbox arrival => inbox.receive arrival.key arrival.bytes arrival.time) inbox

inductive NodeAction where
  | receive (arrival : Arrival)
  | updateAdapters (listed : List Adapter)
  | setPersistent (key : RouteKey) (path : List UInt16) (persistent : Bool) (now : Time)
  /-- More bytes may arrive behind those that the poll hears, before it drops the idle streams. -/
  | poll (now : Time) (arriving : List Arrival)

/-- A node and all that its listener was told, the earliest first. -/
structure NodeRun where
  node : Node
  notices : List Notice := []

namespace NodeRun

def setPersistent (key : RouteKey) (path : List UInt16) (persistent : Bool) (now : Time)
    (run : NodeRun) : NodeRun :=
  match run.node.setPersistent key path persistent now with
  | .error _ => run
  | .ok polling => { node := polling.node, notices := run.notices ++ polling.notices.toList }

def poll (now : Time) (arriving : List Arrival) (run : NodeRun) : NodeRun :=
  let listened := run.node.listen now
  let announced := (listened.node.announce now).2
  let receiving := { announced with inbox := announced.inbox.receiveAll arriving }
  { node := (receiving.forgetIdle now).2, notices := run.notices ++ listened.notices.toList }

/-- On a link that brings nothing during the poll. -/
theorem poll_quiet {σ : Type} (link : Link σ) (now : Time) (state : σ) (run : NodeRun) :
    run.poll now [] =
      { node := (run.node.poll link now state).1.node
        notices := run.notices ++ (run.node.poll link now state).1.notices.toList } := rfl

def step (run : NodeRun) : NodeAction → NodeRun
  | .receive arrival =>
    { run with node := run.node.receive arrival.key arrival.bytes arrival.time }
  | .updateAdapters listed => { run with node := (run.node.updateAdapters listed).2 }
  | .setPersistent key path persistent now => run.setPersistent key path persistent now
  | .poll now arriving => run.poll now arriving

/-- The run of a node through some actions. -/
def after (actions : List NodeAction) (node : Node) : NodeRun :=
  actions.foldl step { node }

/-- What every action preserves holds behind any run of them. -/
theorem foldl_step_induction {P : NodeRun → Prop}
    (hstep : ∀ run action, P run → P (step run action)) {run : NodeRun} (h : P run)
    (actions : List NodeAction) : P (actions.foldl step run) := by
  induction actions generalizing run with
  | nil => exact h
  | cons action rest ih => exact ih (hstep run action h)

/-- A poll keeps the adapters and the configuration, and goes on with the streams that are not
idle. -/
theorem poll_node (now : Time) (arriving : List Arrival) (run : NodeRun) :
    ∃ schedule, (run.poll now arriving).node = { run.node with
      inbox := ((run.node.inbox.process.2.receiveAll arriving).evictIdle now
        run.node.config.idleTimeout).2
      routes := (run.node.listen now).node.routes
      schedule } := by
  have hnode := Node.listen_node now run.node
  refine ⟨((run.node.listen now).node.announce now).2.schedule, ?_⟩
  simp only [poll, Node.forgetIdle, Node.announce]
  rw [hnode]

/-- An attempt that fails changes nothing, and the events of one that succeeds are taken. -/
theorem setPersistent_node (key : RouteKey) (path : List UInt16) (persistent : Bool) (now : Time)
    (run : NodeRun) : ∃ events, (run.setPersistent key path persistent now).node =
      { run.node with routes := { (run.node.routes.settle (run.node.routes.setPersistent
        run.node.adapters key path persistent now)).2 with events } } := by
  unfold setPersistent Node.setPersistent
  cases run.node.routes.setPersistent run.node.adapters key path persistent now with
  | ok next => exact ⟨[], rfl⟩
  | error error => exact ⟨run.node.routes.events, rfl⟩

end NodeRun
end RouteDiscovery

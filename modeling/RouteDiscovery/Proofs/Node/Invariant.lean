import RouteDiscovery.Proofs.Node.Run

/-!
What every run of a node keeps: its configuration, how long routes stay online, that ids tell its
adapters apart, and that its route table is coherent.
-/
namespace RouteDiscovery

namespace Polling
variable {polling : Polling}

theorem coherent_hear (h : polling.node.routes.Coherent) (heard : Message × Reception) :
    (polling.hear heard).node.routes.Coherent := by
  obtain ⟨message | message, reception⟩ := heard
  · rw [hear_discovery_routes]
    split
    · exact h
    · exact (h.learn message reception).congr rfl
  · exact h.recordData message reception

theorem coherent_foldl_hear (h : polling.node.routes.Coherent)
    (messages : List (Message × Reception)) :
    (messages.foldl hear polling).node.routes.Coherent := by
  induction messages generalizing polling with
  | nil => exact h
  | cons heard rest ih => exact ih (coherent_hear h heard)

end Polling

/-- What a node has from its creation on, whatever it goes through. -/
structure Node.Regular (config : Config) (node : Node) : Prop where
  config_eq : node.config = config
  timeout_eq : node.routes.timeout = 90000
  nodup_adapters : (node.adapters.adapters.map (·.id)).Nodup
  coherent : node.routes.Coherent

namespace Node
variable {config : Config} {node : Node}

theorem coherent_listen (h : node.routes.Coherent) (now : Time) :
    (node.listen now).node.routes.Coherent := by
  have hheard : (node.afterHearing now).node.routes.Coherent :=
    Polling.coherent_foldl_hear h (node.heard now)
  exact (hheard.sweep now).congr (listen_routes_buckets now node)

theorem regular_of_create (h : create config = .ok node) : Regular config node := by
  obtain rfl := eq_of_create h
  exact ⟨rfl, rfl, List.nodup_nil, RouteTable.coherent_empty _⟩

theorem Regular.listen (h : Regular config node) (now : Time) :
    Regular config (node.listen now).node where
  config_eq := by
    rw [listen_node]
    exact h.config_eq
  timeout_eq := by rw [timeout_listen, h.timeout_eq]
  nodup_adapters := by
    rw [listen_node]
    exact h.nodup_adapters
  coherent := coherent_listen h.coherent now

end Node

namespace NodeRun
variable {config : Config} {node : Node} {run : NodeRun}

theorem regular_setPersistent (h : Node.Regular config run.node) (key : RouteKey)
    (path : List UInt16) (persistent : Bool) (now : Time) :
    Node.Regular config (run.setPersistent key path persistent now).node := by
  obtain ⟨events, hnode⟩ := setPersistent_node key path persistent now run
  rw [hnode]
  cases hok : run.node.routes.setPersistent run.node.adapters key path persistent now with
  | error error => exact ⟨h.config_eq, h.timeout_eq, h.nodup_adapters, h.coherent.congr rfl⟩
  | ok next =>
    have htimeout := RouteTable.timeout_setPersistent hok
    exact ⟨h.config_eq, htimeout.trans h.timeout_eq, h.nodup_adapters,
      (h.coherent.setPersistent hok).congr rfl⟩

theorem regular_step (h : Node.Regular config run.node) (action : NodeAction) :
    Node.Regular config (run.step action).node := by
  cases action with
  | receive arrival => exact ⟨h.config_eq, h.timeout_eq, h.nodup_adapters, h.coherent⟩
  | updateAdapters listed =>
    exact ⟨h.config_eq, h.timeout_eq, AdapterTable.nodup_update listed run.node.adapters,
      h.coherent⟩
  | setPersistent key path persistent now => exact regular_setPersistent h key path persistent now
  | poll now arriving =>
    obtain ⟨schedule, hnode⟩ := poll_node now arriving run
    rw [step, hnode]
    exact ⟨h.config_eq, (h.listen now).timeout_eq, h.nodup_adapters, (h.listen now).coherent⟩

theorem regular_after (hcreate : Node.create config = .ok node) (actions : List NodeAction) :
    Node.Regular config (after actions node).node :=
  foldl_step_induction (P := fun run => Node.Regular config run.node)
    (fun _ action h => regular_step h action) (Node.regular_of_create hcreate) actions

end NodeRun
end RouteDiscovery

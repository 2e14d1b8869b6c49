import RouteDiscovery.Proofs.Adapter.Lookup
import RouteDiscovery.Proofs.Node.Poll

/-!
A network of nodes that may lose, repeat, delay and reorder datagrams and bring them to any
endpoint, but brings only whole datagrams that were sent, under the address that sent them.
-/
namespace RouteDiscovery
open Wire

/-- The nodes, all datagrams that their links took and all that they told their listeners. -/
structure Network (ι : Type) where
  node : ι → Node
  sent : List (ι × Datagram) := []
  notices : ι → List Notice := fun _ => []

inductive NetworkAction (ι : Type) where
  /-- The link takes nothing on the failing adapters. -/
  | poll (i : ι) (now : Time) (failing : List AdapterId)
  | sendData (i : ι) (destination : NodeIdentity) (payload : Bytes) (failing : List AdapterId)
  /-- What `origin` sent reaches `i`. -/
  | deliver (origin : ι) (datagram : Datagram) (i : ι) (port : UInt16) (recipient : Address)
      (now : Time)

namespace Network
variable {ι : Type}

/-- The address that a datagram comes from: the primary one of the adapter that it leaves on. -/
def source? (net : Network ι) (i : ι) (datagram : Datagram) : Option Address :=
  ((net.node i).adapters.find? datagram.target.adapter).bind Adapter.primary?

section Step
variable [DecidableEq ι]

def setNode (i : ι) (node : Node) (net : Network ι) : Network ι :=
  { net with node := fun j => if j = i then node else net.node j }

theorem setNode_self (i : ι) (node : Node) (net : Network ι) : (net.setNode i node).node i = node :=
  if_pos rfl

theorem setNode_other {i j : ι} (h : j ≠ i) (node : Node) (net : Network ι) :
    (net.setNode i node).node j = net.node j :=
  if_neg h

/-- What holds of the new node and of all old ones holds of every node. -/
theorem forall_setNode {P : ι → Node → Prop} {i : ι} {node : Node} {net : Network ι}
    (hnode : P i node) (hothers : ∀ j, P j (net.node j)) (j : ι) :
    P j ((net.setNode i node).node j) := by
  by_cases hj : j = i
  · subst hj
    rw [setNode_self]
    exact hnode
  · rw [setNode_other hj]
    exact hothers j

/-- Adds what a node sent and told. -/
def record (i : ι) (datagrams : Array Datagram) (notices : Array Notice) (net : Network ι) :
    Network ι :=
  { net with
    sent := net.sent ++ datagrams.toList.map (i, ·)
    notices := fun j => if j = i then net.notices i ++ notices.toList else net.notices j }

theorem of_mem_sent_record {i j : ι} {datagram : Datagram} {datagrams : Array Datagram}
    {notices : Array Notice} {net : Network ι}
    (h : (j, datagram) ∈ (net.record i datagrams notices).sent) :
    (j, datagram) ∈ net.sent ∨ j = i ∧ datagram ∈ datagrams := by
  rcases List.mem_append.mp h with hold | hnew
  · exact .inl hold
  · obtain ⟨taken, htaken, hpair⟩ := List.mem_map.mp hnew
    obtain ⟨rfl, rfl⟩ := Prod.mk.inj hpair
    exact .inr ⟨rfl, Array.mem_toList_iff.mp htaken⟩

def step (net : Network ι) : NetworkAction ι → Network ι
  | .poll i now failing =>
    let (polling, taken) := (net.node i).poll (Link.recording failing) now #[]
    (net.setNode i polling.node).record i taken polling.notices
  | .sendData i destination payload failing =>
    let (_, taken) := (net.node i).sendData (Link.recording failing) destination payload #[]
    net.record i taken #[]
  | .deliver origin datagram i port recipient now =>
    match net.source? origin datagram with
    | none => net
    | some source =>
      if (origin, datagram) ∈ net.sent then
        net.setNode i ((net.node i).receive ⟨⟨source, port⟩, recipient⟩ datagram.bytes now)
      else net

def after (actions : List (NetworkAction ι)) (net : Network ι) : Network ι :=
  actions.foldl step net

end Step

/-- Nodes just made and given their adapters, no two of them with an address in common. -/
structure IsFresh (net : Network ι) : Prop where
  created : ∀ i, ∃ config fresh listed, Node.create config = .ok fresh ∧
    net.node i = (fresh.updateAdapters listed).2
  sent : net.sent = []
  notices : ∀ i, net.notices i = []
  distinct : ∀ i j address, (net.node i).adapters.Owns address →
    (net.node j).adapters.Owns address → i = j

/-- Nothing that was sent or told is forgotten, and the nodes keep their adapters. -/
structure Grows (net next : Network ι) : Prop where
  adapters : ∀ i, (next.node i).adapters = (net.node i).adapters
  config : ∀ i, (next.node i).config = (net.node i).config
  sent : ∀ entry ∈ net.sent, entry ∈ next.sent
  notices : ∀ i, ∀ notice ∈ net.notices i, notice ∈ next.notices i

section Grows
variable {net next : Network ι}

theorem Grows.source? (h : net.Grows next) (i : ι) (datagram : Datagram) :
    next.source? i datagram = net.source? i datagram := by
  unfold Network.source?
  rw [h.adapters]

theorem grows_refl (net : Network ι) : net.Grows net :=
  ⟨fun _ => rfl, fun _ => rfl, fun _ h => h, fun _ _ h => h⟩

theorem Grows.trans {last : Network ι} (h : net.Grows next) (h' : next.Grows last) :
    net.Grows last where
  adapters i := (h'.adapters i).trans (h.adapters i)
  config i := (h'.config i).trans (h.config i)
  sent entry hentry := h'.sent entry (h.sent entry hentry)
  notices i notice hnotice := h'.notices i notice (h.notices i notice hnotice)

variable [DecidableEq ι]

theorem grows_setNode {i : ι} {node : Node} (hadapters : node.adapters = (net.node i).adapters)
    (hconfig : node.config = (net.node i).config) : net.Grows (net.setNode i node) where
  adapters j := by
    by_cases hj : j = i
    · simp [setNode, hj, hadapters]
    · simp [setNode, hj]
  config j := by
    by_cases hj : j = i
    · simp [setNode, hj, hconfig]
    · simp [setNode, hj]
  sent _ h := h
  notices _ _ h := h

theorem grows_record (i : ι) (datagrams : Array Datagram) (notices : Array Notice)
    (net : Network ι) : net.Grows (net.record i datagrams notices) where
  adapters _ := rfl
  config _ := rfl
  sent _ h := List.mem_append_left _ h
  notices j notice h := by
    by_cases hj : j = i
    · subst hj
      simp only [record, if_true]
      exact List.mem_append_left _ h
    · simpa [record, hj] using h

theorem grows_step (net : Network ι) (action : NetworkAction ι) : net.Grows (net.step action) := by
  cases action with
  | poll i now failing =>
    exact (grows_setNode Node.poll_adapters Node.poll_config).trans (grows_record _ _ _ _)
  | sendData i destination payload failing => exact grows_record _ _ _ _
  | deliver origin datagram i port recipient now =>
    simp only [step]
    split
    · exact grows_refl net
    · split
      · exact grows_setNode rfl rfl
      · exact grows_refl net

end Grows
end Network
end RouteDiscovery

import Mathlib.Data.Fin.VecNotation
import Mathlib.Data.List.FinRange
import RouteDiscovery.Proofs.Route.Replica
import RouteDiscovery.Proofs.Route.Selection

/-!
Discoveries from different neighbours commute. What a table says of a key comes from the discoveries
of one neighbour on one adapter, in their order; the order of the routes in the table also comes
from how the neighbours' discoveries are mixed, but neither the nodes and costs that are announced
nor the reachable nodes depend on that order.
-/
namespace RouteDiscovery

/-- What a reordering leaves in its order does not see the reordering. -/
theorem filter_ofFn_comp {α : Type} {n : Nat} (items : Fin n → α) (order : Equiv.Perm (Fin n))
    {p : α → Bool} (h : ∀ i j, i < j → p (items (order i)) = true → p (items (order j)) = true →
      order i < order j) :
    (List.ofFn (items ∘ order)).filter p = (List.ofFn items).filter p := by
  have hplaces : ((List.finRange n).map order).filter (p ∘ items) =
      (List.finRange n).filter (p ∘ items) := by
    have hperm := order.map_finRange_perm.filter (p ∘ items)
    have hsorted : (((List.finRange n).map order).filter (p ∘ items)).Pairwise (· < ·) := by
      rw [List.pairwise_filter, List.pairwise_map]
      exact (List.pairwise_lt_finRange n).imp fun hless hfirst hsecond => h _ _ hless hfirst hsecond
    apply hperm.eq_of_pairwise _ hsorted ((List.pairwise_lt_finRange n).filter _)
    intro i j _ _ hless hgreater
    exact absurd hless (not_lt_of_gt hgreater)
  rw [List.ofFn_eq_map, List.ofFn_eq_map, ← List.map_map, List.filter_map, hplaces, List.filter_map]

theorem NodeIdentity.rank_injective {first second : NodeIdentity} (h : first.rank = second.rank) :
    first = second := by
  obtain ⟨id, ⟨bits⟩⟩ := first
  obtain ⟨id', ⟨bits'⟩⟩ := second
  have hbits := bits.toNat_lt
  have hbits' := bits'.toNat_lt
  simp only [rank] at h
  have hid : id = id' := UInt16.toNat_inj.mp (by omega)
  have hsame : bits = bits' := UInt32.toNat_inj.mp (by omega)
  rw [hid, hsame]

namespace RouteEvent

theorem about_append (key : RouteKey) (first second : List RouteEvent) :
    about key (first ++ second) = about key first ++ about key second :=
  List.filter_append _ _

/-- Events are the same up to their order if they are so for each key. -/
theorem perm_of_about {first second : List RouteEvent}
    (h : ∀ key, about key first = about key second) : first.Perm second := by
  rw [List.perm_iff_count]
  intro event
  have hcount (events : List RouteEvent) :
      (about event.key events).count event = events.count event :=
    List.count_filter (by simp)
  rw [← hcount first, ← hcount second, h]

end RouteEvent

/-- The neighbour that reports a route, by the adapter and its address. -/
def RouteKey.source (key : RouteKey) : AdapterId × Address :=
  (key.adapter, key.reporter)

/-- The neighbour that sent what was received, if an adapter has the local address. -/
def Reception.source? (adapters : AdapterTable) (reception : Reception) :
    Option (AdapterId × Address) :=
  (adapters.owner? reception.recipient).map fun adapter =>
    (adapter.id, reception.sender.address)

/-- One route is told of. -/
structure Hearing where
  key : RouteKey
  path : List UInt16
  time : Time

namespace RouteTable
variable {adapters : AdapterTable} {table first second : RouteTable} {key : RouteKey}
  {now : Time} {hearing : Hearing} {outbound : AdapterId}

section Received
variable {received : Discovery × Reception}

/-- The routes that a received discovery tells of, one after the other. -/
def hearings (adapters : AdapterTable) (received : Discovery × Reception) : List Hearing :=
  match adapters.owner? received.2.recipient with
  | none => []
  | some adapter =>
    (told received.1 adapter.id received.2.sender.address).map fun pair =>
      ⟨pair.1, pair.2, received.2.time⟩

def hearOne (adapters : AdapterTable) (table : RouteTable) (hearing : Hearing) : RouteTable :=
  table.heard adapters hearing.time (hearing.key, hearing.path)

/-- What comes of a received discovery, whatever the table. -/
def outcome (adapters : AdapterTable) (received : Discovery × Reception) : Except RouteError Unit :=
  match adapters.owner? received.2.recipient with
  | none => .error (.unknownLocalAddress received.2.recipient)
  | some _ => .ok ()

theorem learn_eq (adapters : AdapterTable) (received : Discovery × Reception)
    (table : RouteTable) :
    table.learn adapters received.1 received.2 =
      (outcome adapters received, (hearings adapters received).foldl (hearOne adapters) table) := by
  apply Prod.ext
  · unfold outcome
    cases howner : adapters.owner? received.2.recipient with
    | none => simp only [learn, howner]
    | some adapter => exact learn_fst received.1 table howner
  · rw [learn_snd]
    unfold hearings
    cases adapters.owner? received.2.recipient with
    | none => rfl
    | some adapter =>
      rw [List.foldl_map]
      rfl

theorem source?_of_mem_hearings (h : hearing ∈ hearings adapters received) :
    received.2.source? adapters = some hearing.key.source := by
  unfold hearings at h
  cases howner : adapters.owner? received.2.recipient with
  | none => simp [howner] at h
  | some adapter =>
    simp only [howner, List.mem_map] at h
    obtain ⟨pair, hpair, rfl⟩ := h
    rcases List.mem_cons.mp hpair with rfl | hlisted
    · simp [Reception.source?, howner, RouteKey.source]
    · obtain ⟨entry, -, rfl⟩ := List.mem_map.mp hlisted
      simp [Reception.source?, howner, RouteKey.source]

/-- Learns from one discovery after the other, and gives what came of each. -/
def learnAll (adapters : AdapterTable) :
    List (Discovery × Reception) → RouteTable → List (Except RouteError Unit) × RouteTable
  | [], table => ([], table)
  | received :: rest, table =>
    let (result, next) := table.learn adapters received.1 received.2
    let (results, last) := learnAll adapters rest next
    (result :: results, last)

theorem learnAll_eq (adapters : AdapterTable) (received : List (Discovery × Reception))
    (table : RouteTable) :
    learnAll adapters received table =
      (received.map (outcome adapters),
        (received.flatMap (hearings adapters)).foldl (hearOne adapters) table) := by
  induction received generalizing table with
  | nil => rfl
  | cons first rest ih =>
    simp only [learnAll, learn_eq, ih, List.map_cons, List.flatMap_cons, List.foldl_append]

theorem Coherent.learnAll (h : table.Coherent) (received : List (Discovery × Reception)) :
    (RouteTable.learnAll adapters received table).2.Coherent := by
  induction received generalizing table with
  | nil => exact h
  | cons first rest ih => exact ih (h.learn first.1 first.2)

/-- Only the neighbour that reports a route tells of it. -/
theorem filter_hearings (received : List (Discovery × Reception)) (key : RouteKey) :
    (received.flatMap (hearings adapters)).filter (·.key = key) =
      ((received.filter fun one => one.2.source? adapters = some key.source).flatMap
        (hearings adapters)).filter (·.key = key) := by
  induction received with
  | nil => rfl
  | cons one rest ih =>
    by_cases hsource : one.2.source? adapters = some key.source
    · simp [hsource, ih]
    · have hnone : (hearings adapters one).filter (·.key = key) = [] := by
        rw [List.filter_eq_nil_iff]
        intro hearing hmem hkey
        rw [decide_eq_true_eq] at hkey
        exact hsource (hkey ▸ source?_of_mem_hearings hmem)
      simp [hsource, hnone, ih]

end Received

/-- The tables say the same of the key: the same route, and the same of it in the events. -/
structure Alike (key : RouteKey) (first second : RouteTable) : Prop where
  find?_eq : first.find? key = second.find? key
  about_eq : RouteEvent.about key first.events = RouteEvent.about key second.events

section Alike

theorem alike_refl (key : RouteKey) (table : RouteTable) : Alike key table table :=
  ⟨rfl, rfl⟩

theorem Alike.symm (h : Alike key first second) : Alike key second first :=
  ⟨h.find?_eq.symm, h.about_eq.symm⟩

theorem Alike.trans {third : RouteTable} (h : Alike key first second)
    (h' : Alike key second third) : Alike key first third :=
  ⟨h.find?_eq.trans h'.find?_eq, h.about_eq.trans h'.about_eq⟩

/-- A hearing is in the events if its route was not known. -/
theorem events_heard (adapters : AdapterTable) (now : Time) (table : RouteTable)
    (told : RouteKey × List UInt16) :
    (table.heard adapters now told).events = table.events ++
      match adapters.find? told.1.adapter, table.find? told.1 with
      | some adapter, none => [.discovered
          { key := told.1, path := told.2, mtu := adapter.mtu, lastDiscovery := now }]
      | _, _ => [] := by
  unfold heard hear
  cases adapters.find? told.1.adapter with
  | none => simp
  | some adapter =>
    cases table.find? told.1 with
    | none => exact events_insert _ table
    | some route => exact (List.append_nil _).symm

theorem Alike.hearOne (h : Alike hearing.key first second) :
    Alike hearing.key (first.hearOne adapters hearing) (second.hearOne adapters hearing) := by
  constructor
  · simp only [RouteTable.hearOne, find?_heard, h.find?_eq]
  · simp only [RouteTable.hearOne, events_heard, RouteEvent.about_append, h.about_eq, h.find?_eq]

/-- What is heard of another route changes nothing. -/
theorem alike_hearOne_other (hother : hearing.key ≠ key) (table : RouteTable) :
    Alike key (table.hearOne adapters hearing) table := by
  constructor
  · rw [hearOne, find?_heard]
    simp only [if_neg (Ne.symm hother)]
    cases adapters.find? key.adapter <;> rfl
  · rw [hearOne, events_heard, RouteEvent.about_append]
    cases adapters.find? hearing.key.adapter <;> cases table.find? hearing.key <;>
      simp [RouteEvent.about, RouteEvent.key, hother]

theorem Alike.foldl_hearOne (h : Alike key first second) (told : List Hearing) :
    Alike key (told.foldl (RouteTable.hearOne adapters) first)
      ((told.filter (·.key = key)).foldl (RouteTable.hearOne adapters) second) := by
  induction told generalizing first second with
  | nil => exact h
  | cons hearing rest ih =>
    rw [List.foldl_cons, List.filter_cons]
    by_cases hkey : hearing.key = key
    · subst hkey
      simp only [decide_true, if_true, List.foldl_cons]
      exact ih h.hearOne
    · simp only [hkey, decide_false, Bool.false_eq_true, if_false]
      exact ih ((alike_hearOne_other hkey first).trans h)

/-- What is learned of a route depends on the discoveries of the neighbour that reports it. -/
theorem alike_learnAll {one other : List (Discovery × Reception)}
    (h : one.filter (fun received => received.2.source? adapters = some key.source) =
      other.filter fun received => received.2.source? adapters = some key.source)
    (table : RouteTable) :
    Alike key (learnAll adapters one table).2 (learnAll adapters other table).2 := by
  have hsplit (received : List (Discovery × Reception)) :
      Alike key (learnAll adapters received table).2
        (((received.flatMap (hearings adapters)).filter (·.key = key)).foldl
          (RouteTable.hearOne adapters) table) := by
    rw [learnAll_eq]
    exact (alike_refl key table).foldl_hearOne _
  have hone := hsplit one
  rw [filter_hearings, h, ← filter_hearings] at hone
  exact hone.trans (hsplit other).symm

end Alike

section Unordered

/-- Tables with the same lookups hold the same routes. -/
theorem Coherent.perm_routes (h : first.Coherent) (h' : second.Coherent)
    (hfind : ∀ key, first.find? key = second.find? key) : first.routes.Perm second.routes := by
  rw [List.perm_ext_iff_of_nodup h.nodup_routes.of_map h'.nodup_routes.of_map]
  intro route
  have hfirst : first.find? route.key = some route ↔ route ∈ first.routes := by
    simp [h.find?_eq_some_iff]
  have hsecond : second.find? route.key = some route ↔ route ∈ second.routes := by
    simp [h'.find?_eq_some_iff]
  rw [← hfirst, ← hsecond, hfind]

theorem reachable_eq_of_perm (h : first.routes.Perm second.routes) :
    first.reachable = second.reachable := by
  have hnodes := (h.filter (·.online)).map (·.key.node)
  unfold reachable
  simp only
  congr 1
  have hsorted (nodes : List NodeIdentity) :
      (nodes.mergeSort fun a b => a.rank ≤ b.rank).Pairwise fun a b => decide (a.rank ≤ b.rank) :=
    List.pairwise_mergeSort (by simp; omega) (by simp; omega) nodes
  apply List.Perm.eq_of_pairwise _ (hsorted _) (hsorted _)
  · exact (List.mergeSort_perm _ _).trans (hnodes.trans (List.mergeSort_perm _ _).symm)
  · intro a b _ _ hle hge
    rw [decide_eq_true_eq] at hle hge
    exact NodeIdentity.rank_injective (Nat.le_antisymm hle hge)

/-- Each node that is announced, with the cost of the route to it. -/
def costs (outbound : AdapterId) (table : RouteTable) : List (NodeIdentity × UInt32) :=
  (table.announced outbound).map fun route => (route.key.node, route.cost)

theorem nodup_costs (outbound : AdapterId) (table : RouteTable) : (table.costs outbound).Nodup := by
  have hnodes := (table.selects_announced outbound).nodup
  apply List.Nodup.of_map Prod.fst
  simpa [costs, List.map_map, Function.comp_def] using hnodes

theorem Coherent.perm_costs (h : first.Coherent) (h' : second.Coherent)
    (hroutes : first.routes.Perm second.routes) (outbound : AdapterId) :
    (first.costs outbound).Perm (second.costs outbound) := by
  have hcandidates (route : Route) :
      route ∈ first.candidates outbound ↔ route ∈ second.candidates outbound := by
    rw [h.mem_candidates_iff, h'.mem_candidates_iff, hroutes.mem_iff]
  rw [List.perm_ext_iff_of_nodup (nodup_costs outbound first) (nodup_costs outbound second)]
  rintro ⟨node, cost⟩
  simp only [costs, List.mem_map, Prod.mk.injEq, exists_announced_iff, hcandidates]

end Unordered

/-- In whatever state the table is, discoveries that are received in another order, but those of
each neighbour on each adapter in the same, leave the same routes behind, have the same results and
bring the same events. On no adapter do the nodes and costs to be announced differ, nor do the nodes
that can be reached. -/
theorem learnAll_reordered (timeout : Nat) (actions : List Action) (adapters : AdapterTable)
    {n : Nat} (received : Fin n → Discovery × Reception) (order : Equiv.Perm (Fin n))
    (horder : ∀ i j source, i < j → (received (order i)).2.source? adapters = some source →
      (received (order j)).2.source? adapters = some source → order i < order j) :
    let table := (empty timeout).after actions
    let first := table.learnAll adapters (List.ofFn received)
    let second := table.learnAll adapters (List.ofFn (received ∘ order))
    (∀ key, second.2.find? key = first.2.find? key) ∧
      second.2.events.Perm first.2.events ∧
      (∀ i : Fin n, ∃ result, first.1[(order i).val]? = some result ∧
        second.1[i.val]? = some result) ∧
      (∀ outbound, (second.2.costs outbound).Perm (first.2.costs outbound)) ∧
      second.2.reachable = first.2.reachable := by
  intro table first second
  have hcoherent : table.Coherent := (coherent_empty timeout).after actions
  have hfirst : first.2.Coherent := hcoherent.learnAll _
  have hsecond : second.2.Coherent := hcoherent.learnAll _
  have halike (key : RouteKey) : Alike key second.2 first.2 := by
    apply alike_learnAll
    apply filter_ofFn_comp
    intro i j hless hi hj
    rw [decide_eq_true_eq] at hi hj
    exact horder i j key.source hless hi hj
  have hroutes := hsecond.perm_routes hfirst fun key => (halike key).find?_eq
  refine ⟨fun key => (halike key).find?_eq,
    RouteEvent.perm_of_about fun key => (halike key).about_eq, fun i => ?_,
    hsecond.perm_costs hfirst hroutes, reachable_eq_of_perm hroutes⟩
  refine ⟨outcome adapters (received (order i)), ?_, ?_⟩
  · simp [first, learnAll_eq]
  · simp [second, learnAll_eq]

/-- Two neighbours on different adapters tell of one node. The order in the table differs. -/
theorem learnAll_reordered_pair :
    let adapters : AdapterTable := { adapters := [
      { id := ⟨"e0"⟩, name := "e0", addresses := [⟨⟨1⟩, ⟨0xffffff00⟩⟩] },
      { id := ⟨"e1"⟩, name := "e1", addresses := [⟨⟨0x101⟩, ⟨0xffffff00⟩⟩] }] }
    let received : Fin 2 → Discovery × Reception := ![
      (⟨2, [⟨7, ⟨9⟩, [hopCost]⟩]⟩, ⟨⟨⟨2⟩, 7171⟩, ⟨1⟩, 5⟩),
      (⟨3, [⟨7, ⟨9⟩, [hopCost, hopCost]⟩]⟩, ⟨⟨⟨0x103⟩, 7171⟩, ⟨0x101⟩, 6⟩)]
    let order : Equiv.Perm (Fin 2) := Equiv.swap 0 1
    let table := (empty 90000).after []
    let first := table.learnAll adapters (List.ofFn received)
    let second := table.learnAll adapters (List.ofFn (received ∘ order))
    ((∀ i j source, i < j → (received (order i)).2.source? adapters = some source →
        (received (order j)).2.source? adapters = some source → order i < order j) ∧
      second.2.routes ≠ first.2.routes) ∧
      (∀ key, second.2.find? key = first.2.find? key) ∧
        second.2.events.Perm first.2.events ∧
        (∀ i : Fin 2, ∃ result, first.1[(order i).val]? = some result ∧
          second.1[i.val]? = some result) ∧
        (∀ outbound, (second.2.costs outbound).Perm (first.2.costs outbound)) ∧
        second.2.reachable = first.2.reachable := by
  intro adapters received order
  have horder : ∀ i j source, i < j → (received (order i)).2.source? adapters = some source →
      (received (order j)).2.source? adapters = some source → order i < order j := by
    intro i j source hless hi hj
    obtain ⟨rfl, rfl⟩ : i = 0 ∧ j = 1 := by omega
    have hdiffers : (received (order 0)).2.source? adapters ≠
      (received (order 1)).2.source? adapters := by decide +kernel
    exact absurd (hi.trans hj.symm) hdiffers
  have hreordered := learnAll_reordered 90000 [] adapters received order horder
  exact ⟨⟨horder, by decide +kernel⟩, hreordered⟩

end RouteTable
end RouteDiscovery

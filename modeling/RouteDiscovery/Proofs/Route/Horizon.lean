import RouteDiscovery.Proofs.Route.Selection

/-!
What is announced on an adapter is what the node itself would use without that adapter and without
its silent routes: for each node the best route, the nodes in the order in which their routes first
occur.
-/
namespace RouteDiscovery

namespace Route
variable {first second : Route}

/-- The sum of the hop costs, however great. -/
def pathSum (route : Route) : Nat :=
  total (route.path.map UInt16.toNat)

theorem toNat_cost (h : first.pathSum < 0x100000000) : first.cost.toNat = first.pathSum := by
  rw [cost, toNat_pathCost, ← pathSum, Nat.mod_eq_of_lt h]

theorem cost_lt_iff (hfirst : first.pathSum < 0x100000000)
    (hsecond : second.pathSum < 0x100000000) :
    first.cost < second.cost ↔ first.pathSum < second.pathSum := by
  rw [UInt32.lt_iff_toNat_lt, toNat_cost hfirst, toNat_cost hsecond]

theorem cost_le_iff (hfirst : first.pathSum < 0x100000000)
    (hsecond : second.pathSum < 0x100000000) :
    first.cost ≤ second.cost ↔ first.pathSum ≤ second.pathSum := by
  rw [UInt32.le_iff_toNat_le, toNat_cost hfirst, toNat_cost hsecond]

/-- The choice of a route where no path cost overflows. -/
theorem cheapest?_eq_some_iff_pathSum {routes : List Route} {best : Route}
    (h : ∀ route ∈ routes, route.pathSum < 0x100000000) : cheapest? routes = some best ↔
      ∃ front back, routes = front ++ best :: back ∧
        (∀ route ∈ front, best.pathSum < route.pathSum) ∧
          ∀ route ∈ back, best.pathSum ≤ route.pathSum := by
  rw [cheapest?_eq_some_iff]
  apply exists_congr
  intro front
  apply exists_congr
  intro back
  apply and_congr_right
  rintro rfl
  have hbest := h best (by simp)
  apply and_congr
  · apply forall₂_congr
    intro route hroute
    exact cost_lt_iff hbest (h route (by simp [hroute]))
  · apply forall₂_congr
    intro route hroute
    exact cost_le_iff hbest (h route (by simp [hroute]))

/-- Where no path cost overflows, the chosen route stands among the others as the exact sums have
it. -/
theorem exists_exact_split_of_cheapest? {routes : List Route} {best : Route}
    (h : cheapest? routes = some best) : ∃ front back, routes = front ++ best :: back ∧
      (∀ route ∈ front, best.cost < route.cost) ∧ (∀ route ∈ back, best.cost ≤ route.cost) ∧
      ((∀ route ∈ routes, route.pathSum < 0x100000000) →
        (∀ route ∈ front, best.pathSum < route.pathSum) ∧
          ∀ route ∈ back, best.pathSum ≤ route.pathSum) := by
  obtain ⟨front, back, rfl, hfront, hback⟩ := exists_split_of_cheapest? h
  refine ⟨front, back, rfl, hfront, hback, fun hsums => ⟨fun route hroute => ?_,
    fun route hroute => ?_⟩⟩
  · exact (cost_lt_iff (hsums best (by simp)) (hsums route (by simp [hroute]))).mp
      (hfront route hroute)
  · exact (cost_le_iff (hsums best (by simp)) (hsums route (by simp [hroute]))).mp
      (hback route hroute)

end Route

namespace RouteTable
variable {table : RouteTable} {outbound : AdapterId} {route : Route}

/-- The table without the routes of one adapter and without the silent ones. -/
def without (outbound : AdapterId) (table : RouteTable) : RouteTable :=
  { table with
    buckets := (table.buckets.filter (·.1 != outbound)).map fun bucket =>
      (bucket.1, bucket.2.filter (!·.silent)) }

section Without

theorem mem_routes_without : route ∈ (table.without outbound).routes ↔
    ∃ bucket ∈ table.buckets, bucket.1 ≠ outbound ∧ route ∈ bucket.2 ∧ route.silent = false := by
  simp [routes, without, and_assoc]

theorem candidates_eq_without (outbound : AdapterId) (table : RouteTable) :
    table.candidates outbound = (table.without outbound).routes.filter (·.online) := by
  simp only [candidates, without, routes, List.flatMap_map, List.filter_flatMap, List.filter_filter]

theorem best?_without (outbound : AdapterId) (node : NodeIdentity) (table : RouteTable) :
    (table.without outbound).best? node =
      Route.cheapest? ((table.candidates outbound).filter (·.key.node == node)) := by
  rw [candidates_eq_without, List.filter_filter, best?]
  congr 2
  funext route
  exact Bool.and_comm _ _

end Without

/-- On an adapter each node is announced that has a route to be announced there, and it once. The
nodes stand in the order of the first such routes. The route that is announced for a node is the one
that the table without the adapter and the silent routes uses for it, which is the first of the
cheapest. -/
theorem announced_eq_best (table : RouteTable) (outbound : AdapterId)
    (hsums : ∀ route ∈ table.routes, route.pathSum < 0x100000000) :
    let rest := table.without outbound
    (table.announced outbound).map (·.key.node) =
        ((rest.routes.filter (·.online)).map (·.key.node)).eraseDups ∧
      ((table.announced outbound).map (·.key.node)).Nodup ∧
      ∀ node,
        (table.announced outbound).find? (·.key.node == node) = rest.best? node ∧
          ∀ route, rest.best? node = some route ↔ ∃ front back,
            rest.routes.filter (fun other => other.online && other.key.node == node) =
                front ++ route :: back ∧
              (∀ other ∈ front, route.pathSum < other.pathSum) ∧
              ∀ other ∈ back, route.pathSum ≤ other.pathSum := by
  intro rest
  have hselects := table.selects_announced outbound
  refine ⟨?_, hselects.nodup, fun node => ⟨?_, fun route => ?_⟩⟩
  · rw [hselects.nodes_eq, candidates_eq_without]
  · rw [hselects.find?_eq, best?_without]
  · apply Route.cheapest?_eq_some_iff_pathSum
    intro other hother
    obtain ⟨bucket, hbucket, -, hmem, -⟩ :=
      mem_routes_without.mp (List.mem_of_mem_filter hother)
    exact hsums other (List.mem_flatMap.mpr ⟨bucket, hbucket, hmem⟩)

/-- Two reporters on one adapter know equally cheap ways to one node. A cheaper way to another node
stands on a later adapter, behind a silent one that would be cheaper still. -/
theorem announced_eq_best_tied :
    let route (node : UInt16) (adapter : String) (reporter : Address) (path : List UInt16)
        (silent : Bool) : Route :=
      { key := ⟨⟨node, ⟨9⟩⟩, ⟨adapter⟩, reporter⟩, path, mtu := 1500, silent, lastDiscovery := 5 }
    let table : RouteTable := { buckets := [
      (⟨"e0"⟩, [route 7 "e0" ⟨2⟩ [256, 256] false, route 8 "e0" ⟨2⟩ [256, 1] false,
        route 8 "e0" ⟨3⟩ [1, 256] false]),
      (⟨"e1"⟩, [route 7 "e1" ⟨4⟩ [1] true, route 7 "e1" ⟨5⟩ [256, 2] false]),
      (⟨"e2"⟩, [route 8 "e2" ⟨6⟩ [1] false])] }
    let rest := table.without ⟨"e2"⟩
    ((∀ route ∈ table.routes, route.pathSum < 0x100000000) ∧
        table.announced ⟨"e2"⟩ =
          [route 7 "e1" ⟨5⟩ [256, 2] false, route 8 "e0" ⟨2⟩ [256, 1] false]) ∧
      (table.announced ⟨"e2"⟩).find? (·.key.node == ⟨8, ⟨9⟩⟩) = rest.best? ⟨8, ⟨9⟩⟩ := by
  intro route table rest
  have hsums : ∀ route ∈ table.routes, route.pathSum < 0x100000000 := by decide +kernel
  obtain ⟨-, -, hbest⟩ := announced_eq_best table ⟨"e2"⟩ hsums
  exact ⟨⟨hsums, by decide +kernel⟩, (hbest ⟨8, ⟨9⟩⟩).1⟩

end RouteTable
end RouteDiscovery

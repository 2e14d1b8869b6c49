import Mathlib.Data.List.Induction
import RouteDiscovery.Proofs.Route.Coherence
import RouteDiscovery.Route.Choice

/-!
Which routes are chosen to be announced: one for each node with a route that may be announced, and
that the first of the cheapest. The nodes stand in the order in which they first occur.
-/
namespace RouteDiscovery

theorem eraseDups_append_singleton {α : Type} [DecidableEq α] (items : List α) (item : α) :
    (items ++ [item]).eraseDups =
      if item ∈ items then items.eraseDups else items.eraseDups ++ [item] := by
  by_cases h : item ∈ items <;>
    simp [List.eraseDups_append, List.removeAll, h, List.eraseDups_cons]

theorem nodup_eraseDups {α : Type} [DecidableEq α] (items : List α) : items.eraseDups.Nodup := by
  induction items using List.reverseRecOn with
  | nil => simp
  | append_singleton items item ih =>
    rw [eraseDups_append_singleton]
    split_ifs with h
    · exact ih
    · simp [List.nodup_append, ih, List.mem_eraseDups]
      intro other hother hsame
      exact h (hsame ▸ hother)

namespace Route
variable {routes : List Route} {best : Route}

theorem cheapest?_append_singleton (routes : List Route) (route : Route) :
    cheapest? (routes ++ [route]) =
      match cheapest? routes with
      | none => some route
      | some current => if current.cost ≤ route.cost then some current else some route := by
  rw [cheapest?, List.foldl_append]
  rfl

theorem cheapest?_eq_none_iff : cheapest? routes = none ↔ routes = [] := by
  constructor
  · intro h
    induction routes using List.reverseRecOn with
    | nil => rfl
    | append_singleton routes route _ =>
      rw [cheapest?_append_singleton] at h
      split at h
      · cases h
      · split at h <;> cases h
  · rintro rfl
    rfl

/-- The routes before the chosen one are dearer, and those behind it are not cheaper. -/
theorem exists_split_of_cheapest? (h : cheapest? routes = some best) :
    ∃ front back, routes = front ++ best :: back ∧
      (∀ route ∈ front, best.cost < route.cost) ∧ ∀ route ∈ back, best.cost ≤ route.cost := by
  induction routes using List.reverseRecOn generalizing best with
  | nil => cases h
  | append_singleton routes last ih =>
    rw [cheapest?_append_singleton] at h
    cases hcurrent : cheapest? routes with
    | none =>
      simp only [hcurrent, Option.some.injEq] at h
      exact ⟨[], [], by simp [cheapest?_eq_none_iff.mp hcurrent, h]⟩
    | some current =>
      obtain ⟨front, back, rfl, hfront, hback⟩ := ih hcurrent
      by_cases hcost : current.cost ≤ last.cost
      · simp only [hcurrent, if_pos hcost, Option.some.injEq] at h
        subst h
        refine ⟨front, back ++ [last], by simp, hfront, fun route hroute => ?_⟩
        rcases List.mem_append.mp hroute with hold | hlast
        · exact hback route hold
        · rw [List.mem_singleton.mp hlast]
          exact hcost
      · simp only [hcurrent, if_neg hcost, Option.some.injEq] at h
        subst h
        have hlast : last.cost < current.cost := UInt32.not_le.mp hcost
        refine ⟨front ++ current :: back, [], rfl, fun route hroute => ?_, by simp⟩
        rcases List.mem_append.mp hroute with hold | hrest
        · exact UInt32.lt_trans hlast (hfront route hold)
        · rcases List.mem_cons.mp hrest with rfl | hold
          · exact hlast
          · exact UInt32.lt_of_lt_of_le hlast (hback route hold)

/-- What is chosen is one of the routes and no dearer than any other. -/
theorem cheapest?_spec (h : cheapest? routes = some best) :
    best ∈ routes ∧ ∀ route ∈ routes, best.cost ≤ route.cost := by
  obtain ⟨front, back, rfl, hfront, hback⟩ := exists_split_of_cheapest? h
  refine ⟨by simp, fun route hroute => ?_⟩
  rcases List.mem_append.mp hroute with hold | hrest
  · exact UInt32.le_of_lt (hfront route hold)
  · rcases List.mem_cons.mp hrest with rfl | hold
    · exact UInt32.le_refl _
    · exact hback route hold

/-- The chosen route is told by its place among the others. -/
theorem cheapest?_eq_some_iff : cheapest? routes = some best ↔
    ∃ front back, routes = front ++ best :: back ∧
      (∀ route ∈ front, best.cost < route.cost) ∧ ∀ route ∈ back, best.cost ≤ route.cost := by
  refine ⟨exists_split_of_cheapest?, ?_⟩
  rintro ⟨front, back, rfl, hfront, hback⟩
  induction back using List.reverseRecOn with
  | nil =>
    rw [cheapest?_append_singleton]
    cases hcurrent : cheapest? front with
    | none => rfl
    | some current =>
      have hdearer : best.cost < current.cost := hfront current (cheapest?_spec hcurrent).1
      simp only [if_neg (UInt32.not_le.mpr hdearer)]
  | append_singleton back last ih =>
    have hkept := ih fun route hroute => hback route (List.mem_append_left _ hroute)
    have hlast : best.cost ≤ last.cost := hback last (by simp)
    rw [← List.cons_append, ← List.append_assoc, cheapest?_append_singleton, hkept]
    simp only [if_pos hlast]

end Route

namespace RouteTable
variable {table : RouteTable} {outbound : AdapterId} {route candidate : Route}

/-- The routes among which the announced ones are chosen. -/
def candidates (table : RouteTable) (outbound : AdapterId) : List Route :=
  ((table.buckets.filter (·.1 != outbound)).flatMap (·.2)).filter
    fun route => route.online && !route.silent

theorem mem_candidates : route ∈ table.candidates outbound ↔
    (∃ bucket ∈ table.buckets, bucket.1 ≠ outbound ∧ route ∈ bucket.2) ∧
      route.online = true ∧ route.silent = false := by
  simp [candidates, and_assoc]

/-- The selection has one route for each node of the candidates, in the order of the nodes, and
each is the first of the cheapest. -/
structure Selects (candidates selection : List Route) : Prop where
  nodes_eq : selection.map (·.key.node) = (candidates.map (·.key.node)).eraseDups
  cheapest : ∀ route ∈ selection,
    Route.cheapest? (candidates.filter (·.key.node == route.key.node)) = some route

section Select
variable {candidates selection : List Route}

theorem nodes_select (candidate : Route) (selection : List Route) :
    (select candidate selection).map (·.key.node) =
      if candidate.key.node ∈ selection.map (·.key.node) then selection.map (·.key.node)
      else selection.map (·.key.node) ++ [candidate.key.node] := by
  induction selection with
  | nil => simp [select]
  | cons first rest ih =>
    unfold select
    by_cases hsame : first.key.node = candidate.key.node
    · by_cases hcost : candidate.cost < first.cost <;> simp [hsame, hcost]
    · rw [if_neg hsame, List.map_cons, ih]
      by_cases hrest : candidate.key.node ∈ rest.map (·.key.node)
      · simp [hrest]
      · simp [hrest, Ne.symm hsame]

/-- A selected route stays unless the candidate leads to the same node and is cheaper. -/
theorem select_cases (hnodup : (selection.map (·.key.node)).Nodup)
    (h : route ∈ select candidate selection) :
    (route ∈ selection ∧ route.key.node ≠ candidate.key.node) ∨
      (route ∈ selection ∧ route.key.node = candidate.key.node ∧ route.cost ≤ candidate.cost) ∨
      (route = candidate ∧
        ∀ old ∈ selection, old.key.node = candidate.key.node → candidate.cost < old.cost) := by
  induction selection with
  | nil =>
    simp only [select, List.mem_singleton] at h
    simp [h]
  | cons first rest ih =>
    obtain ⟨hfirst, hnodup⟩ := List.nodup_cons.mp hnodup
    have hother : ∀ old ∈ rest, old.key.node ≠ first.key.node := by
      intro old hold hsame
      exact hfirst (List.mem_map.mpr ⟨old, hold, hsame⟩)
    unfold select at h
    by_cases hsame : first.key.node = candidate.key.node
    · rw [if_pos hsame, List.mem_cons] at h
      rcases h with hhead | hrest
      · by_cases hcost : candidate.cost < first.cost
        · rw [if_pos hcost] at hhead
          right; right
          refine ⟨hhead, fun old hold hnode => ?_⟩
          rcases List.mem_cons.mp hold with rfl | htail
          · exact hcost
          · exact absurd (hnode.trans hsame.symm) (hother old htail)
        · rw [if_neg hcost] at hhead
          right; left
          rw [hhead]
          exact ⟨List.mem_cons_self, hsame, UInt32.not_lt.mp hcost⟩
      · left
        rw [← hsame]
        exact ⟨List.mem_cons_of_mem _ hrest, hother route hrest⟩
    · rw [if_neg hsame, List.mem_cons] at h
      rcases h with hhead | hrest
      · left
        rw [hhead]
        exact ⟨List.mem_cons_self, hsame⟩
      · rcases ih hnodup hrest with ⟨hmem, hnode⟩ | ⟨hmem, hkept⟩ | ⟨hnew, hcheaper⟩
        · exact .inl ⟨List.mem_cons_of_mem _ hmem, hnode⟩
        · exact .inr (.inl ⟨List.mem_cons_of_mem _ hmem, hkept⟩)
        · right; right
          refine ⟨hnew, fun old hold hnode => ?_⟩
          rcases List.mem_cons.mp hold with rfl | htail
          · exact absurd hnode hsame
          · exact hcheaper old htail hnode

theorem Selects.nodup (h : Selects candidates selection) :
    (selection.map (·.key.node)).Nodup := by
  rw [h.nodes_eq]
  exact nodup_eraseDups _

theorem Selects.mem_candidates (h : Selects candidates selection) (hroute : route ∈ selection) :
    route ∈ candidates := by
  obtain ⟨hmem, -⟩ := Route.cheapest?_spec (h.cheapest route hroute)
  exact List.mem_of_mem_filter hmem

theorem Selects.exists_mem (h : Selects candidates selection)
    (hcandidate : candidate ∈ candidates) :
    ∃ route ∈ selection, route.key.node = candidate.key.node := by
  have hnode : candidate.key.node ∈ selection.map (·.key.node) := by
    rw [h.nodes_eq, List.mem_eraseDups]
    exact List.mem_map_of_mem hcandidate
  exact List.mem_map.mp hnode

/-- What is selected for a node is the first of the cheapest candidates for it, if there is any. -/
theorem Selects.find?_eq (h : Selects candidates selection) (node : NodeIdentity) :
    selection.find? (·.key.node == node) =
      Route.cheapest? (candidates.filter (·.key.node == node)) := by
  cases hfind : selection.find? (·.key.node == node) with
  | none =>
    have hnone : candidates.filter (·.key.node == node) = [] := by
      rw [List.filter_eq_nil_iff]
      intro candidate hcandidate hnode
      obtain ⟨route, hroute, hsame⟩ := h.exists_mem hcandidate
      exact List.find?_eq_none.mp hfind route hroute (by rwa [hsame])
    rw [hnone, Route.cheapest?_eq_none_iff.mpr rfl]
  | some route =>
    have hnode : route.key.node = node := by simpa using List.find?_some hfind
    rw [← hnode, h.cheapest route (List.mem_of_find?_eq_some hfind)]

theorem Selects.select (h : Selects candidates selection) (candidate : Route) :
    Selects (candidates ++ [candidate]) (RouteTable.select candidate selection) where
  nodes_eq := by
    simp only [nodes_select, List.map_append, List.map_cons, List.map_nil,
      eraseDups_append_singleton, h.nodes_eq, List.mem_eraseDups]
  cheapest := by
    intro route hroute
    rcases select_cases h.nodup hroute with ⟨hmem, hnode⟩ | ⟨hmem, hnode, hcost⟩ | ⟨rfl, hcheaper⟩
    · simp [List.filter_append, Ne.symm hnode, h.cheapest route hmem]
    · have hbest := h.cheapest route hmem
      simp [List.filter_append, ← hnode, Route.cheapest?_append_singleton, hbest, hcost]
    · have hfilter : (candidates ++ [route]).filter (·.key.node == route.key.node) =
          candidates.filter (·.key.node == route.key.node) ++ [route] := by
        simp [List.filter_append]
      rw [hfilter, Route.cheapest?_append_singleton]
      cases hbest : Route.cheapest? (candidates.filter (·.key.node == route.key.node)) with
      | none => rfl
      | some best =>
        -- The cheapest so far is the one selected for the node, which the candidate undercuts.
        obtain ⟨hmem, -⟩ := Route.cheapest?_spec hbest
        obtain ⟨hcandidate, hnode⟩ := List.mem_filter.mp hmem
        rw [beq_iff_eq] at hnode
        obtain ⟨old, hold, hsame⟩ := h.exists_mem hcandidate
        have hselected := h.cheapest old hold
        rw [hsame, hnode, hbest] at hselected
        obtain rfl := Option.some.inj hselected
        simp [UInt32.not_le.mpr (hcheaper best hold hnode)]

theorem selects_foldl (candidates : List Route) :
    Selects candidates
      (candidates.foldl (fun selection candidate => RouteTable.select candidate selection) []) := by
  induction candidates using List.reverseRecOn with
  | nil => exact ⟨by simp, by simp⟩
  | append_singleton candidates candidate ih =>
    rw [List.foldl_append]
    exact ih.select candidate

theorem selects_announced (table : RouteTable) (outbound : AdapterId) :
    Selects (table.candidates outbound) (table.announced outbound) :=
  selects_foldl _

theorem mem_candidates_of_announced (h : route ∈ table.announced outbound) :
    route ∈ table.candidates outbound :=
  (table.selects_announced outbound).mem_candidates h

/-- A node with a route that may be announced is announced. -/
theorem exists_announced (h : route ∈ table.candidates outbound) :
    ∃ chosen ∈ table.announced outbound, chosen.key.node = route.key.node :=
  (table.selects_announced outbound).exists_mem h

/-- What is announced of nodes and costs: every node that may be, with its least cost. -/
theorem exists_announced_iff {node : NodeIdentity} {cost : UInt32} :
    (∃ route ∈ table.announced outbound, route.key.node = node ∧ route.cost = cost) ↔
      (∃ route ∈ table.candidates outbound, route.key.node = node ∧ route.cost = cost) ∧
        ∀ route ∈ table.candidates outbound, route.key.node = node → cost ≤ route.cost := by
  have hselects := table.selects_announced outbound
  have hleast : ∀ route ∈ table.announced outbound, ∀ other ∈ table.candidates outbound,
      other.key.node = route.key.node → route.cost ≤ other.cost := by
    intro route hroute other hother hnode
    apply (Route.cheapest?_spec (hselects.cheapest route hroute)).2
    simp [hother, hnode]
  constructor
  · rintro ⟨route, hroute, rfl, rfl⟩
    exact ⟨⟨route, mem_candidates_of_announced hroute, rfl, rfl⟩, hleast route hroute⟩
  · rintro ⟨⟨candidate, hcandidate, rfl, rfl⟩, hcheapest⟩
    obtain ⟨route, hroute, hnode⟩ := hselects.exists_mem hcandidate
    refine ⟨route, hroute, hnode, UInt32.le_antisymm ?_ ?_⟩
    · exact hleast route hroute candidate hcandidate hnode.symm
    · exact hcheapest route (mem_candidates_of_announced hroute) hnode

theorem Coherent.mem_candidates_iff (h : table.Coherent) :
    route ∈ table.candidates outbound ↔ route ∈ table.routes ∧ route.key.adapter ≠ outbound ∧
      route.online = true ∧ route.silent = false := by
  rw [mem_candidates]
  constructor
  · rintro ⟨⟨bucket, hbucket, hdiffers, hroute⟩, hlive⟩
    refine ⟨List.mem_flatMap.mpr ⟨bucket, hbucket, hroute⟩, ?_, hlive⟩
    rwa [h.placed bucket hbucket route hroute]
  · rintro ⟨hroute, hdiffers, hlive⟩
    obtain ⟨bucket, hbucket, hmem⟩ := List.mem_flatMap.mp hroute
    refine ⟨⟨bucket, hbucket, ?_, hmem⟩, hlive⟩
    rwa [← h.placed bucket hbucket route hmem]

end Select
end RouteTable
end RouteDiscovery

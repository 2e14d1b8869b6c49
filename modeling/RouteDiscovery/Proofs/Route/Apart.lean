import RouteDiscovery.Proofs.Route.Coherence

/-!
The routes of a table that have nothing to do with one peer: those that it did not report and that
do not lead to it. Two tables that agree on them go on to agree whatever both hear, and what only
one of them hears from the peer does not matter.
-/
namespace RouteDiscovery

/-- The peer neither is the reporter nor has the address of the node. -/
def RouteKey.isApart (peer : Address) (key : RouteKey) : Bool :=
  key.reporter != peer && key.node.address != peer

namespace RouteTable
variable {peer : Address} {adapters : AdapterTable} {table first second : RouteTable}
  {key : RouteKey} {id : AdapterId} {path : List UInt16} {now : Time}

/-- The routes on an adapter that have nothing to do with the peer. -/
def apart (peer : Address) (id : AdapterId) (table : RouteTable) : List Route :=
  (table.onAdapter id).filter (·.key.isApart peer)

theorem find?_eq_apart (h : key.isApart peer = true) (table : RouteTable) :
    table.find? key = (table.apart peer key.adapter).find? (·.key == key) := by
  rw [find?, apart, List.find?_filter]
  congr 1
  funext route
  by_cases hkey : route.key = key
  · simp [hkey, h]
  · simp [hkey]

theorem apart_recast {f : AdapterId → Route → Route} {next : RouteTable}
    (hbuckets : next.buckets = table.recast f) (hkey : ∀ id route, (f id route).key = route.key)
    (id : AdapterId) : next.apart peer id = (table.apart peer id).map (f id) := by
  rw [apart, onAdapter_recast hbuckets, List.filter_map, apart]
  simp [Function.comp_def, hkey]

theorem apart_insert (route : Route) (table : RouteTable) (id : AdapterId) :
    (table.insert route).apart peer id =
      if id = route.key.adapter ∧ route.key.isApart peer = true then table.apart peer id ++ [route]
      else table.apart peer id := by
  rw [apart, onAdapter_insert]
  by_cases hid : id = route.key.adapter <;>
    by_cases hroute : route.key.isApart peer = true <;> simp [hid, hroute, apart]

/-- The tables hold the same routes apart from the peer, in the same order. -/
structure Agree (peer : Address) (first second : RouteTable) : Prop where
  timeout_eq : first.timeout = second.timeout
  apart_eq : ∀ id, first.apart peer id = second.apart peer id

section Agree

theorem agree_refl (peer : Address) (table : RouteTable) : Agree peer table table :=
  ⟨rfl, fun _ => rfl⟩

theorem Agree.symm (h : Agree peer first second) : Agree peer second first :=
  ⟨h.timeout_eq.symm, fun id => (h.apart_eq id).symm⟩

theorem Agree.trans {third : RouteTable} (h : Agree peer first second)
    (h' : Agree peer second third) : Agree peer first third :=
  ⟨h.timeout_eq.trans h'.timeout_eq, fun id => (h.apart_eq id).trans (h'.apart_eq id)⟩

/-- Only the buckets and the timeout matter. -/
theorem Agree.congr {next next' : RouteTable} (h : Agree peer first second)
    (hbuckets : next.buckets = first.buckets) (htimeout : next.timeout = first.timeout)
    (hbuckets' : next'.buckets = second.buckets) (htimeout' : next'.timeout = second.timeout) :
    Agree peer next next' where
  timeout_eq := by rw [htimeout, htimeout', h.timeout_eq]
  apart_eq id := by
    have hsame := h.apart_eq id
    simpa only [apart, onAdapter, hbuckets, hbuckets'] using hsame

theorem Agree.find?_eq (h : Agree peer first second) (hkey : key.isApart peer = true) :
    first.find? key = second.find? key := by
  rw [find?_eq_apart hkey, find?_eq_apart hkey, h.apart_eq]

/-- One change made to the routes of both tables is made to the same routes. -/
theorem Agree.recast {f : AdapterId → Route → Route} {next next' : RouteTable}
    (h : Agree peer first second) (hfirst : next.buckets = first.recast f)
    (hsecond : next'.buckets = second.recast f) (htimeout : next.timeout = next'.timeout)
    (hkey : ∀ id route, (f id route).key = route.key) : Agree peer next next' where
  timeout_eq := htimeout
  apart_eq id := by rw [apart_recast hfirst hkey, apart_recast hsecond hkey, h.apart_eq]

/-- A change of routes that have to do with the peer is not seen. -/
theorem agree_recast {f : AdapterId → Route → Route} {next : RouteTable}
    (hbuckets : next.buckets = table.recast f) (htimeout : next.timeout = table.timeout)
    (hkey : ∀ id route, (f id route).key = route.key)
    (hsame : ∀ id route, route.key.isApart peer = true → f id route = route) :
    Agree peer next table where
  timeout_eq := htimeout
  apart_eq id := by
    have hall : ∀ route ∈ table.apart peer id, f id route = route := by
      intro route hroute
      exact hsame id route (List.mem_filter.mp hroute).2
    rw [apart_recast hbuckets hkey, List.map_congr_left hall, List.map_id']

theorem Agree.modify (h : Agree peer first second) {change : Route → Route}
    (hchange : ∀ route, route.key = key → (change route).key = key) :
    Agree peer (first.modify key change) (second.modify key change) :=
  h.recast (buckets_modify _ _ _) (buckets_modify _ _ _) h.timeout_eq (key_modified hchange)

theorem agree_modify {change : Route → Route}
    (hchange : ∀ route, route.key = key → (change route).key = key)
    (hkey : ¬ key.isApart peer = true) (table : RouteTable) :
    Agree peer (table.modify key change) table := by
  refine agree_recast (buckets_modify _ _ _) rfl (key_modified hchange) fun id route hroute => ?_
  have hother : route.key ≠ key := fun hsame => hkey (hsame ▸ hroute)
  simp [hother]

theorem Agree.insert (h : Agree peer first second) (route : Route) :
    Agree peer (first.insert route) (second.insert route) where
  timeout_eq := by rw [timeout_insert, timeout_insert, h.timeout_eq]
  apart_eq id := by rw [apart_insert, apart_insert, h.apart_eq]

theorem agree_insert {route : Route} (hkey : ¬ route.key.isApart peer = true)
    (table : RouteTable) : Agree peer (table.insert route) table where
  timeout_eq := timeout_insert _ _
  apart_eq id := by rw [apart_insert, if_neg fun h => hkey h.2]

/-- Hearing of a route that has to do with the peer is not seen. -/
theorem agree_heard {told : RouteKey × List UInt16} (hkey : ¬ told.1.isApart peer = true)
    (table : RouteTable) : Agree peer (table.heard adapters now told) table := by
  unfold heard hear
  cases adapters.find? told.1.adapter with
  | none => exact agree_refl peer table
  | some adapter =>
    cases table.find? told.1 with
    | none => exact agree_insert hkey table
    | some route =>
      refine agree_modify ?_ hkey table
      exact fun _ hroute => hroute

theorem Agree.heard (h : Agree peer first second) (told : RouteKey × List UInt16) :
    Agree peer (first.heard adapters now told) (second.heard adapters now told) := by
  by_cases hkey : told.1.isApart peer = true
  · unfold RouteTable.heard hear
    rw [h.find?_eq hkey]
    cases adapters.find? told.1.adapter with
    | none => exact h
    | some adapter =>
      cases second.find? told.1 with
      | none => exact h.insert _
      | some route => exact h.modify fun _ hroute => hroute
  · exact ((agree_heard hkey first).trans h).trans (agree_heard hkey second).symm

theorem agree_foldl_heard {told : List (RouteKey × List UInt16)}
    (htold : ∀ pair ∈ told, ¬ pair.1.isApart peer = true) (table : RouteTable) :
    Agree peer (told.foldl (RouteTable.heard adapters now) table) table := by
  induction told generalizing table with
  | nil => exact agree_refl peer table
  | cons pair rest ih =>
    exact (ih (fun other hother => htold other (List.mem_cons_of_mem _ hother)) _).trans
      (agree_heard (htold pair List.mem_cons_self) table)

theorem Agree.foldl_heard (h : Agree peer first second) (told : List (RouteKey × List UInt16)) :
    Agree peer (told.foldl (RouteTable.heard adapters now) first)
      (told.foldl (RouteTable.heard adapters now) second) := by
  induction told generalizing first second with
  | nil => exact h
  | cons pair rest ih => exact ih (h.heard pair)

/-- Whatever the peer tells is about routes that it reports. -/
theorem agree_learn (message : Discovery) {reception : Reception}
    (hpeer : reception.sender.address = peer) (table : RouteTable) :
    Agree peer (table.learn adapters message reception).2 table := by
  rw [learn_snd]
  cases adapters.owner? reception.recipient with
  | none => exact agree_refl peer table
  | some adapter =>
    refine agree_foldl_heard (fun pair hpair => ?_) table
    have hreporter : pair.1.reporter = peer := by
      rcases List.mem_cons.mp hpair with rfl | hlisted
      · exact hpeer
      · obtain ⟨entry, -, rfl⟩ := List.mem_map.mp hlisted
        exact hpeer
    simp [RouteKey.isApart, hreporter]

theorem Agree.learn (h : Agree peer first second) (message : Discovery) (reception : Reception) :
    Agree peer (first.learn adapters message reception).2
      (second.learn adapters message reception).2 := by
  rw [learn_snd, learn_snd]
  cases adapters.owner? reception.recipient with
  | none => exact h
  | some adapter => exact h.foldl_heard _

/-- The data of the peer only refreshes routes to it. -/
theorem agree_recordData (message : DataMessage) {reception : Reception}
    (hpeer : reception.sender.address = peer) (table : RouteTable) :
    Agree peer (table.recordData adapters message reception).2 table := by
  refine agree_recast (buckets_recordData _ _ _ _) (timeout_recordData _ _ _ _)
    (fun _ _ => key_dataHeard _ _ _ _ _) fun id route hroute => ?_
  rcases dataHeard_eq adapters message reception id route with hsame | ⟨hnode, -⟩
  · exact hsame
  · simp [RouteKey.isApart, hnode, hpeer] at hroute

theorem Agree.recordData (h : Agree peer first second) (message : DataMessage)
    (reception : Reception) :
    Agree peer (first.recordData adapters message reception).2
      (second.recordData adapters message reception).2 := by
  refine h.recast (buckets_recordData _ _ _ _) (buckets_recordData _ _ _ _) ?_
    fun _ _ => key_dataHeard _ _ _ _ _
  rw [timeout_recordData, timeout_recordData, h.timeout_eq]

theorem Agree.sweep (h : Agree peer first second) (now : Time) :
    Agree peer (first.sweep now).2 (second.sweep now).2 := by
  refine h.recast (buckets_sweep now first) ?_ h.timeout_eq fun _ _ => rfl
  rw [buckets_sweep, h.timeout_eq]

theorem Agree.setPersistent (h : Agree peer first second) {persistent : Bool}
    {next next' : RouteTable}
    (hfirst : first.setPersistent adapters key path persistent now = .ok next)
    (hsecond : second.setPersistent adapters key path persistent now = .ok next') :
    Agree peer next next' := by
  obtain ⟨heard, route, hheard, hroute, htimeout, hbuckets, -⟩ := setPersistent_eq_ok hfirst
  obtain ⟨heard', route', hheard', hroute', htimeout', hbuckets', -⟩ := setPersistent_eq_ok hsecond
  have hagree : Agree peer heard heard' := by
    rw [hheard, hheard']
    exact h.heard (key, path)
  have hkey := (mem_of_find? hroute).1
  have hkey' := (mem_of_find? hroute').1
  have hmodified : Agree peer
      (heard.modify key fun _ => swept now first.timeout { route with persistent })
      (heard'.modify key fun _ => swept now second.timeout { route' with persistent }) := by
    by_cases hapart : key.isApart peer = true
    · have hsame : route = route' := by
        rw [hagree.find?_eq hapart, hroute'] at hroute
        exact (Option.some.inj hroute).symm
      rw [hsame, h.timeout_eq]
      exact hagree.modify fun _ _ => hkey'
    · refine ((agree_modify ?_ hapart heard).trans hagree).trans
        (agree_modify ?_ hapart heard').symm
      · exact fun _ _ => hkey
      · exact fun _ _ => hkey'
  exact hmodified.congr hbuckets htimeout hbuckets' htimeout'

theorem Agree.settle_setPersistent (h : Agree peer first second) (persistent : Bool) :
    Agree peer (first.settle (first.setPersistent adapters key path persistent now)).2
      (second.settle (second.setPersistent adapters key path persistent now)).2 := by
  cases hadapter : adapters.find? key.adapter with
  | none =>
    simp only [RouteTable.setPersistent, hear, hadapter]
    exact h
  | some adapter =>
    obtain ⟨next, hnext⟩ := exists_setPersistent path persistent now first hadapter
    obtain ⟨next', hnext'⟩ := exists_setPersistent path persistent now second hadapter
    rw [hnext, hnext']
    exact h.setPersistent hnext hnext'

end Agree
end RouteTable
end RouteDiscovery

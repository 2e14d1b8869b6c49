import RouteDiscovery.Proofs.Route.Coherence

/-!
What a discovery makes of a table, told at once and not route by route. On the adapter where it
arrived the routes that it tells of again are refreshed, and the others that it tells of stand
behind them, each where it is told of first and with the path that is told there. Nothing else
changes but the events. To learn the same again changes nothing.
-/
namespace RouteDiscovery

namespace RouteTable
variable {adapters : AdapterTable} {adapter : Adapter} {table : RouteTable} {mtu : Nat} {now : Time}
  {told : List (RouteKey × List UInt16)} {pair : RouteKey × List UInt16} {known : List Route}
  {key : RouteKey}

/-- A route as it is told of, before anything else is known of it. -/
def newcomer (mtu : Nat) (now : Time) (pair : RouteKey × List UInt16) : Route where
  key := pair.1
  path := pair.2
  mtu := mtu
  online := true
  persistent := false
  silent := false
  lastDiscovery := now
  lastData := none

/-- The routes that are told of and not among the known ones, as they are first told of. -/
def newcomers (mtu : Nat) (now : Time) (told : List (RouteKey × List UInt16))
    (known : List Route) : List Route :=
  ((firstPerKey Prod.fst told).filter fun pair => pair.1 ∉ known.map (·.key)).map
    (newcomer mtu now)

/-- A known route behind a message that may tell of it. -/
def refreshed (now : Time) (told : List (RouteKey × List UInt16)) (route : Route) : Route :=
  if route.key ∈ told.map Prod.fst then { route with lastDiscovery := now } else route

/-- The known routes in their order and the newcomers behind them. -/
def merged (mtu : Nat) (now : Time) (told : List (RouteKey × List UInt16))
    (known : List Route) : List Route :=
  known.map (refreshed now told) ++ newcomers mtu now told known

section Merge

@[simp] theorem key_refreshed (now : Time) (told : List (RouteKey × List UInt16))
    (route : Route) : (refreshed now told route).key = route.key := by
  unfold refreshed
  split <;> rfl

/-- What is told of one route after the other refreshes them all at one time. -/
theorem refreshed_cons (route : Route) :
    refreshed now (pair :: told) route = refreshed now told (refreshed now [pair] route) := by
  by_cases hfirst : route.key = pair.1
  · by_cases hrest : pair.1 ∈ told.map Prod.fst <;> simp_all [refreshed]
  · simp only [refreshed, List.map_cons, List.map_nil, List.mem_cons, hfirst, false_or,
      List.not_mem_nil, or_false, if_false]

theorem refreshed_refreshed (route : Route) :
    refreshed now told (refreshed now told route) = refreshed now told route := by
  by_cases htold : route.key ∈ told.map Prod.fst
  · simp only [refreshed, if_pos htold]
  · simp only [refreshed, if_neg htold]

theorem map_refreshed_newcomers (also : List (RouteKey × List UInt16)) :
    (newcomers mtu now told known).map (refreshed now also) = newcomers mtu now told known := by
  rw [newcomers, List.map_map]
  apply List.map_congr_left
  intro pair _
  simp only [Function.comp_apply, refreshed]
  split <;> rfl

theorem map_key_merged : (merged mtu now told known).map (·.key) =
    known.map (·.key) ++
      ((firstPerKey Prod.fst told).filter fun pair => pair.1 ∉ known.map (·.key)).map Prod.fst := by
  simp [merged, newcomers, Function.comp_def, newcomer]

/-- No route is lost, and every route that is told of is there. -/
theorem mem_keys_merged : key ∈ (merged mtu now told known).map (·.key) ↔
    key ∈ known.map (·.key) ∨ key ∈ told.map Prod.fst := by
  have htold : key ∈ told.map Prod.fst ↔ key ∈ (firstPerKey Prod.fst told).map Prod.fst :=
    mem_keys_firstPerKey.symm
  rw [map_key_merged, List.mem_append, htold]
  by_cases hknown : key ∈ known.map (·.key)
  · exact iff_of_true (.inl hknown) (.inl hknown)
  · rw [or_iff_right hknown, or_iff_right hknown]
    constructor
    · intro hkey
      obtain ⟨pair, hpair, rfl⟩ := List.mem_map.mp hkey
      exact List.mem_map_of_mem (List.mem_of_mem_filter hpair)
    · intro hkey
      obtain ⟨pair, hpair, rfl⟩ := List.mem_map.mp hkey
      exact List.mem_map_of_mem (List.mem_filter.mpr ⟨hpair, decide_eq_true hknown⟩)

theorem newcomers_singleton : newcomers mtu now [pair] known =
    if pair.1 ∈ known.map (·.key) then [] else [newcomer mtu now pair] := by
  unfold newcomers firstPerKey firstPerKey
  split_ifs with hknown
  · rw [List.filter_nil, List.filter_cons_of_neg (by simpa using hknown)]
    rfl
  · rw [List.filter_nil, List.filter_cons_of_pos (by simpa using hknown)]
    rfl

/-- One more that is told of: a known route is refreshed, and another is put behind them. -/
theorem merged_singleton : merged mtu now [pair] known =
    if pair.1 ∈ known.map (·.key) then
      known.map fun route =>
        if route.key = pair.1 then { route with lastDiscovery := now } else route
    else known ++ [newcomer mtu now pair] := by
  have hrefreshed (route : Route) : refreshed now [pair] route =
      if route.key = pair.1 then { route with lastDiscovery := now } else route := by
    simp only [refreshed, List.map_singleton, List.mem_singleton]
  rw [merged, newcomers_singleton, funext hrefreshed]
  split_ifs with hknown
  · exact List.append_nil _
  · congr 1
    refine (List.map_congr_left fun route hroute => ?_).trans (List.map_id' known)
    have hother : route.key ≠ pair.1 := by
      intro hsame
      exact hknown (List.mem_map.mpr ⟨route, hroute, hsame⟩)
    rw [if_neg hother]

/-- Behind the first that is told of, nothing else that is told of its key is new. -/
theorem newcomers_cons (pair : RouteKey × List UInt16) (told : List (RouteKey × List UInt16)) :
    newcomers mtu now (pair :: told) known =
      newcomers mtu now [pair] known ++ newcomers mtu now told (merged mtu now [pair] known) := by
  have hrest : newcomers mtu now told (merged mtu now [pair] known) =
      (((firstPerKey Prod.fst told).filter (·.1 ≠ pair.1)).filter fun other =>
        other.1 ∉ known.map (·.key)).map (newcomer mtu now) := by
    unfold newcomers
    rw [List.filter_filter]
    congr 1
    apply List.filter_congr
    intro other _
    simp only [mem_keys_merged, List.map_singleton, List.mem_singleton, not_or, Bool.decide_and]
  rw [hrest, newcomers_singleton, newcomers, firstPerKey]
  split_ifs with hknown
  · rw [List.filter_cons_of_neg (by simpa using hknown)]
    rfl
  · rw [List.filter_cons_of_pos (by simpa using hknown)]
    rfl

/-- To hear of routes one after the other is to hear of them all. -/
theorem merged_cons (pair : RouteKey × List UInt16) (told : List (RouteKey × List UInt16)) :
    merged mtu now (pair :: told) known = merged mtu now told (merged mtu now [pair] known) := by
  have hknown : known.map (refreshed now (pair :: told)) =
      (known.map (refreshed now [pair])).map (refreshed now told) := by
    rw [List.map_map]
    exact List.map_congr_left fun route _ => refreshed_cons route
  calc merged mtu now (pair :: told) known
      = (known.map (refreshed now [pair])).map (refreshed now told) ++
          (newcomers mtu now [pair] known ++
            newcomers mtu now told (merged mtu now [pair] known)) := by
        rw [merged, hknown, newcomers_cons]
    _ = (merged mtu now [pair] known).map (refreshed now told) ++
          newcomers mtu now told (merged mtu now [pair] known) := by
        rw [← List.append_assoc, merged, List.map_append, map_refreshed_newcomers]

/-- What was told of is not new any more. -/
theorem newcomers_merged : newcomers mtu now told (merged mtu now told known) = [] := by
  unfold newcomers
  rw [List.map_eq_nil_iff, List.filter_eq_nil_iff]
  intro pair hpair hnew
  have htold : pair.1 ∈ told.map Prod.fst :=
    mem_keys_firstPerKey.mp (List.mem_map_of_mem hpair)
  rw [decide_eq_true_eq, mem_keys_merged] at hnew
  exact hnew (.inr htold)

theorem merged_merged : merged mtu now told (merged mtu now told known) =
    merged mtu now told known := by
  have hknown : (known.map (refreshed now told)).map (refreshed now told) =
      known.map (refreshed now told) := by
    rw [List.map_map]
    exact List.map_congr_left fun route _ => refreshed_refreshed route
  rw [merged, newcomers_merged, List.append_nil, merged, List.map_append, hknown,
    map_refreshed_newcomers]

end Merge

/-- Gives an adapter other routes. One that had none comes behind the others. -/
def put (id : AdapterId) (routes : List Route) (table : RouteTable) : RouteTable :=
  if table.buckets.any (·.1 == id) then table.adjust id fun _ => routes
  else { table with buckets := table.buckets ++ [(id, routes)] }

section Put
variable {id : AdapterId}

theorem any_adjust (change : List Route → List Route) (table : RouteTable) :
    (table.adjust id change).buckets.any (·.1 == id) = table.buckets.any (·.1 == id) := by
  have hadapters (table : RouteTable) :
      table.buckets.any (·.1 == id) = (table.buckets.map (·.1)).any (· == id) := by
    rw [List.any_map]
    rfl
  rw [hadapters, hadapters, adapters_adjust]

theorem adjust_adjust (first second : List Route → List Route) (table : RouteTable) :
    (table.adjust id first).adjust id second =
      table.adjust id fun routes => second (first routes) := by
  unfold adjust
  simp only [List.map_map]
  congr 1
  apply List.map_congr_left
  intro bucket _
  by_cases hid : bucket.1 = id <;> simp [hid]

theorem Coherent.adjust_eq_put (h : table.Coherent)
    (hany : table.buckets.any (·.1 == id) = true) (change : List Route → List Route) :
    table.adjust id change = table.put id (change (table.onAdapter id)) := by
  rw [put, if_pos hany]
  unfold adjust
  congr 1
  apply List.map_congr_left
  intro bucket hbucket
  by_cases hid : bucket.1 = id
  · rw [if_pos hid, if_pos hid, ← hid, h.onAdapter_of_mem hbucket]
  · rw [if_neg hid, if_neg hid]

theorem onAdapter_put (id : AdapterId) (routes : List Route) (table : RouteTable) :
    (table.put id routes).onAdapter id = routes := by
  unfold put
  split_ifs with hany
  · rw [onAdapter_adjust, if_pos ⟨rfl, hany⟩]
  · simp [onAdapter, List.find?_append, find?_buckets_eq_none hany]

theorem put_put (id : AdapterId) (first second : List Route) (table : RouteTable) :
    (table.put id first).put id second = table.put id second := by
  by_cases hany : table.buckets.any (·.1 == id) = true
  · have hfirst : table.put id first = table.adjust id fun _ => first := if_pos hany
    have hsecond : table.put id second = table.adjust id fun _ => second := if_pos hany
    rw [hfirst, hsecond, put, any_adjust, if_pos hany, adjust_adjust]
  · have hothers : (table.buckets.map fun bucket =>
        if bucket.1 = id then (bucket.1, second) else bucket) = table.buckets := by
      refine (List.map_congr_left fun bucket hbucket => ?_).trans (List.map_id' table.buckets)
      rw [if_neg (ne_of_not_any hany bucket hbucket)]
    simp [put, hany, adjust, hothers]

/-- Events are recorded in their order. -/
def recordAll (events : List RouteEvent) (table : RouteTable) : RouteTable :=
  { table with events := table.events ++ events }

theorem recordAll_recordAll (first second : List RouteEvent) (table : RouteTable) :
    (table.recordAll first).recordAll second = table.recordAll (first ++ second) := by
  simp only [recordAll, List.append_assoc]

theorem put_recordAll (id : AdapterId) (routes : List Route) (events : List RouteEvent)
    (table : RouteTable) :
    (table.recordAll events).put id routes = (table.put id routes).recordAll events := by
  unfold put recordAll
  split_ifs <;> rfl

theorem Coherent.insert_eq_put (h : table.Coherent) (route : Route) :
    table.insert route =
      (table.put route.key.adapter (table.onAdapter route.key.adapter ++ [route])).recordAll
        [.discovered route] := by
  simp only [RouteTable.insert]
  split_ifs with hany
  · rw [h.adjust_eq_put hany]
    rfl
  · rw [put, if_neg hany, onAdapter_eq_nil hany]
    rfl

end Put

/-- The table behind everything that is told of an adapter at one time: its routes merged with what
is told, and the newcomers in the events. -/
def ingest (adapter : Adapter) (now : Time) (told : List (RouteKey × List UInt16))
    (table : RouteTable) : RouteTable :=
  (table.put adapter.id (merged adapter.mtu now told (table.onAdapter adapter.id))).recordAll
    ((newcomers adapter.mtu now told (table.onAdapter adapter.id)).map .discovered)

section Ingest

theorem isSome_find?_iff : (table.find? key).isSome ↔
    key ∈ (table.onAdapter key.adapter).map (·.key) := by
  simp [find?]

/-- One hearing, of a route on an adapter that there is. -/
theorem Coherent.heard_eq_ingest (h : table.Coherent)
    (hadapter : adapters.find? adapter.id = some adapter) (hid : pair.1.adapter = adapter.id) :
    table.heard adapters now pair = table.ingest adapter now [pair] := by
  rw [← hid] at hadapter
  unfold RouteTable.heard RouteTable.hear ingest
  rw [hadapter, ← hid, merged_singleton, newcomers_singleton]
  cases hfind : table.find? pair.1 with
  | none =>
    have hnew : pair.1 ∉ (table.onAdapter pair.1.adapter).map (·.key) := by
      rw [← isSome_find?_iff, hfind]
      exact Bool.false_ne_true
    rw [if_neg hnew, if_neg hnew]
    exact h.insert_eq_put _
  | some route =>
    have hknown : pair.1 ∈ (table.onAdapter pair.1.adapter).map (·.key) := by
      rw [← isSome_find?_iff, hfind]
      rfl
    have hany : table.buckets.any (·.1 == pair.1.adapter) = true := by
      by_contra hnone
      rw [onAdapter_eq_nil hnone] at hknown
      cases hknown
    rw [if_pos hknown, if_pos hknown]
    refine (h.adjust_eq_put hany _).trans ?_
    simp [recordAll]

theorem onAdapter_ingest (adapter : Adapter) (now : Time) (told : List (RouteKey × List UInt16))
    (table : RouteTable) : (table.ingest adapter now told).onAdapter adapter.id =
      merged adapter.mtu now told (table.onAdapter adapter.id) :=
  onAdapter_put _ _ _

theorem ingest_cons : (table.ingest adapter now [pair]).ingest adapter now told =
    table.ingest adapter now (pair :: told) := by
  have hmerged := onAdapter_ingest adapter now [pair] table
  rw [ingest, hmerged, ingest, put_recordAll, put_put, recordAll_recordAll, ← List.map_append,
    ← merged_cons, ← newcomers_cons, ingest]

theorem ingest_ingest : (table.ingest adapter now told).ingest adapter now told =
    table.ingest adapter now told := by
  have hmerged := onAdapter_ingest adapter now told table
  rw [ingest, hmerged, merged_merged, newcomers_merged, ingest, put_recordAll, put_put,
    recordAll_recordAll, List.map_nil, List.append_nil]

/-- A run of hearings, one after the other, by induction on what is told. -/
theorem Coherent.foldl_heard_eq_ingest (h : table.Coherent)
    (hadapter : adapters.find? adapter.id = some adapter)
    (hid : ∀ one ∈ pair :: told, one.1.adapter = adapter.id) :
    (pair :: told).foldl (RouteTable.heard adapters now) table =
      table.ingest adapter now (pair :: told) := by
  induction told generalizing table pair with
  | nil => exact h.heard_eq_ingest hadapter (hid pair List.mem_cons_self)
  | cons second rest ih =>
    have hfirst : table.heard adapters now pair = table.ingest adapter now [pair] :=
      h.heard_eq_ingest hadapter (hid pair List.mem_cons_self)
    have hnext : (table.heard adapters now pair).Coherent := h.heard pair
    rw [List.foldl_cons, ih hnext fun one hone => hid one (List.mem_cons_of_mem _ hone), hfirst,
      ingest_cons]

/-- An owner that is found by its id takes in everything that a discovery tells. -/
theorem Coherent.learn_eq_ingest (h : table.Coherent) {message : Discovery} {reception : Reception}
    (howner : adapters.owner? reception.recipient = some adapter)
    (hadapter : adapters.find? adapter.id = some adapter) :
    table.learn adapters message reception =
      (.ok (), table.ingest adapter reception.time
        (RouteTable.told message adapter.id reception.sender.address)) := by
  apply Prod.ext
  · exact learn_fst message table howner
  · rw [learn_snd, howner]
    refine h.foldl_heard_eq_ingest hadapter fun one hone => ?_
    rcases List.mem_cons.mp hone with rfl | hlisted
    · rfl
    · obtain ⟨entry, -, rfl⟩ := List.mem_map.mp hlisted
      rfl

end Ingest

/-- In whatever state the table is, a discovery that was sent to an address of no adapter changes
nothing. Any other is taken in by the first adapter that has the address: the routes that it tells
of are refreshed or stand behind those of the adapter, the events tell of the new ones, and nothing
else changes. To learn the same again changes nothing. -/
theorem learn_exact (timeout : Nat) (actions : List Action) (listed : List Adapter)
    (message : Discovery) (reception : Reception) :
    let table := (empty timeout).after actions
    let adapters := AdapterTable.ofList listed
    ((table.learn adapters message reception).1 = .ok () ↔
        ∃ adapter ∈ adapters.adapters, adapter.hasAddress reception.recipient) ∧
      (adapters.owner? reception.recipient = none →
        table.learn adapters message reception =
          (.error (.unknownLocalAddress reception.recipient), table)) ∧
      ∀ adapter, adapters.owner? reception.recipient = some adapter →
        let next := table.ingest adapter reception.time
          (RouteTable.told message adapter.id reception.sender.address)
        table.learn adapters message reception = (.ok (), next) ∧
          next.learn adapters message reception = (.ok (), next) := by
  intro table adapters
  have h : table.Coherent := (coherent_empty timeout).after actions
  have hnone (hnone : adapters.owner? reception.recipient = none) :
      table.learn adapters message reception =
        (.error (.unknownLocalAddress reception.recipient), table) := by
    unfold RouteTable.learn
    rw [hnone]
  refine ⟨?_, hnone, fun adapter howner => ?_⟩
  · rw [← AdapterTable.owns_iff]
    constructor
    · intro hok
      by_contra hlost
      rw [hnone (AdapterTable.not_owns_iff.mp hlost)] at hok
      cases hok
    · intro howns
      obtain ⟨adapter, howner⟩ := Option.isSome_iff_exists.mp howns
      exact learn_fst message table howner
  · have hadapter : adapters.find? adapter.id = some adapter :=
      AdapterTable.find?_of_mem (AdapterTable.nodup_update listed {})
        (List.mem_of_find?_eq_some howner)
    intro next
    have hlearn : table.learn adapters message reception = (.ok (), next) :=
      h.learn_eq_ingest howner hadapter
    have hnext : next.Coherent := by
      have hlearned : (table.learn adapters message reception).2.Coherent :=
        h.learn message reception
      rwa [hlearn] at hlearned
    refine ⟨hlearn, ?_⟩
    rw [hnext.learn_eq_ingest howner hadapter, ingest_ingest]

/-- The second discovery tells of one node twice, and of its sender again, and of a node that is
known by another path. -/
theorem learn_exact_repeated :
    let adapter : Adapter := { id := ⟨"e0"⟩, name := "e0", addresses := [⟨⟨1⟩, ⟨0xffffff00⟩⟩] }
    let adapters := AdapterTable.ofList [adapter]
    let sent (time : Time) : Reception := ⟨⟨⟨2⟩, 7171⟩, ⟨1⟩, time⟩
    let table := (empty 90000).after [.learn adapters ⟨2, [⟨7, ⟨9⟩, [hopCost]⟩]⟩ (sent 5)]
    let message : Discovery :=
      ⟨2, [⟨8, ⟨10⟩, [1]⟩, ⟨7, ⟨9⟩, [3]⟩, ⟨8, ⟨10⟩, [2]⟩, ⟨2, ⟨2⟩, [4]⟩]⟩
    let next := table.ingest adapter 6 (RouteTable.told message adapter.id ⟨2⟩)
    (adapters.owner? (sent 6).recipient = some adapter ∧
      (next.onAdapter adapter.id).map (fun route => (route.key.node.id, route.path)) =
        [(2, [hopCost]), (7, [hopCost, hopCost]), (8, [hopCost, 1])]) ∧
      table.learn adapters message (sent 6) = (.ok (), next) ∧
        next.learn adapters message (sent 6) = (.ok (), next) := by
  intro adapter adapters sent table message next
  have howner : adapters.owner? (sent 6).recipient = some adapter := by decide +kernel
  obtain ⟨-, -, hexact⟩ := learn_exact 90000
    [.learn adapters ⟨2, [⟨7, ⟨9⟩, [hopCost]⟩]⟩ (sent 5)] [adapter] message (sent 6)
  exact ⟨⟨howner, by decide +kernel⟩, hexact adapter howner⟩

end RouteTable
end RouteDiscovery

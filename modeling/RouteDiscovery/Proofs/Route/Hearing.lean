import RouteDiscovery.Route.Table

/-!
What hearing of routes does to a table. A lookup by key is told exactly; a property of all routes
is kept if the new routes have it and the refreshed ones keep it.
-/
namespace RouteDiscovery.RouteTable
variable {adapters : AdapterTable} {table next : RouteTable} {key other : RouteKey}
  {id : AdapterId} {path : List UInt16} {now : Time}

section Lookup

theorem find?_adjust_buckets (id : AdapterId) (change : List Route → List Route)
    (table : RouteTable) (other : AdapterId) :
    (table.adjust id change).buckets.find? (·.1 == other) =
      (table.buckets.find? (·.1 == other)).map fun bucket =>
        if bucket.1 = id then (bucket.1, change bucket.2) else bucket := by
  have hsame : ((fun bucket : AdapterId × List Route => bucket.1 == other) ∘ fun bucket =>
      if bucket.1 = id then (bucket.1, change bucket.2) else bucket) = (·.1 == other) := by
    funext bucket
    show ((if bucket.1 = id then (bucket.1, change bucket.2) else bucket).1 == other) = _
    split <;> rfl
  rw [adjust, List.find?_map, hsame]

/-- No adapter comes or goes. -/
theorem adapters_adjust (id : AdapterId) (change : List Route → List Route) (table : RouteTable) :
    (table.adjust id change).buckets.map (·.1) = table.buckets.map (·.1) := by
  rw [adjust, List.map_map]
  apply List.map_congr_left
  intro bucket _
  simp only [Function.comp_apply]
  split <;> rfl

/-- A change of one adapter's routes shows only there, and only if it has a bucket. -/
theorem onAdapter_adjust (id : AdapterId) (change : List Route → List Route) (table : RouteTable)
    (other : AdapterId) :
    (table.adjust id change).onAdapter other =
      if other = id ∧ table.buckets.any (·.1 == id) then change (table.onAdapter other)
      else table.onAdapter other := by
  unfold onAdapter
  rw [find?_adjust_buckets]
  cases hfind : table.buckets.find? (·.1 == other) with
  | none =>
    have habsent : ¬(other = id ∧ table.buckets.any (·.1 == id) = true) := by
      intro h
      obtain ⟨rfl, hany⟩ := h
      obtain ⟨bucket, hmem, hid⟩ := List.any_eq_true.mp hany
      exact List.find?_eq_none.mp hfind bucket hmem hid
    rw [if_neg habsent]
    rfl
  | some bucket =>
    have hid : bucket.1 = other := by simpa using List.find?_some hfind
    by_cases hother : other = id
    · have hany : table.buckets.any (·.1 == id) = true :=
        List.any_eq_true.mpr ⟨bucket, List.mem_of_find?_eq_some hfind, by simp [hid, hother]⟩
      simp [hid, hother, hany]
    · simp [hid, hother]

theorem ne_of_not_any (h : ¬ table.buckets.any (·.1 == id) = true) :
    ∀ bucket ∈ table.buckets, bucket.1 ≠ id := by
  intro bucket hbucket hid
  exact h (List.any_eq_true.mpr ⟨bucket, hbucket, beq_iff_eq.mpr hid⟩)

theorem find?_buckets_eq_none (h : ¬ table.buckets.any (·.1 == id) = true) :
    table.buckets.find? (·.1 == id) = none := by
  rw [List.find?_eq_none]
  intro bucket hbucket hid
  exact ne_of_not_any h bucket hbucket (beq_iff_eq.mp hid)

theorem onAdapter_eq_nil (h : ¬ table.buckets.any (·.1 == id) = true) :
    table.onAdapter id = [] := by
  rw [onAdapter, find?_buckets_eq_none h]

theorem onAdapter_modify (key : RouteKey) (change : Route → Route) (table : RouteTable)
    (id : AdapterId) :
    (table.modify key change).onAdapter id =
      if id = key.adapter then
        (table.onAdapter id).map fun route => if route.key = key then change route else route
      else table.onAdapter id := by
  rw [modify, onAdapter_adjust]
  by_cases hid : id = key.adapter
  · by_cases hany : table.buckets.any (·.1 == key.adapter) = true
    · simp only [hid, hany, and_self, if_true]
    · have hnil := onAdapter_eq_nil hany
      simp [hid, hany, hnil]
  · simp [hid]

theorem buckets_insert (route : Route) (table : RouteTable) :
    (table.insert route).buckets =
      if table.buckets.any (·.1 == route.key.adapter) then
        (table.adjust route.key.adapter (· ++ [route])).buckets
      else table.buckets ++ [(route.key.adapter, [route])] := by
  simp only [insert, record]
  split <;> rfl

theorem onAdapter_insert (route : Route) (table : RouteTable) (id : AdapterId) :
    (table.insert route).onAdapter id =
      if id = route.key.adapter then table.onAdapter id ++ [route] else table.onAdapter id := by
  by_cases hany : table.buckets.any (·.1 == route.key.adapter) = true
  · have hplaced := onAdapter_adjust route.key.adapter (· ++ [route]) table id
    simp only [hany, and_true] at hplaced
    rw [← hplaced]
    unfold onAdapter
    rw [buckets_insert, if_pos hany]
  · by_cases hid : id = route.key.adapter
    · rw [if_pos hid, hid, onAdapter_eq_nil hany]
      unfold onAdapter
      rw [buckets_insert, if_neg hany]
      simp [List.find?_append, find?_buckets_eq_none hany]
    · rw [if_neg hid]
      unfold onAdapter
      rw [buckets_insert, if_neg hany]
      simp [List.find?_append, Ne.symm hid]

/-- Changing a route shows in the lookup of its key only, if the key stays. -/
theorem find?_modify {change : Route → Route} (hkey : ∀ route, (change route).key = route.key)
    (table : RouteTable) (other : RouteKey) :
    (table.modify key change).find? other =
      if other = key then (table.find? key).map change else table.find? other := by
  have hsame : ((·.key == other) ∘ fun route => if route.key = key then change route else route) =
      (·.key == other) := by
    funext route
    show ((if route.key = key then change route else route).key == other) = _
    split
    · rw [hkey]
    · rfl
  unfold find?
  rw [onAdapter_modify]
  by_cases hadapter : other.adapter = key.adapter
  · rw [if_pos hadapter, List.find?_map, hsame]
    by_cases hother : other = key
    · subst hother
      rw [if_pos rfl]
      apply Option.map_congr
      intro route hroute
      have hfound : route.key = other := by simpa using List.find?_some hroute
      rw [if_pos hfound]
    · rw [if_neg hother]
      cases hfind : (table.onAdapter other.adapter).find? (·.key == other) with
      | none => rfl
      | some route =>
        have hfound : route.key = other := by simpa using List.find?_some hfind
        rw [Option.map_some, if_neg (by rw [hfound]; exact hother)]
  · have hother : other ≠ key := by
      intro h
      exact hadapter (by rw [h])
    rw [if_neg hadapter, if_neg hother]

theorem find?_insert (route : Route) (h : table.find? route.key = none) (other : RouteKey) :
    (table.insert route).find? other =
      if other = route.key then some route else table.find? other := by
  unfold find? at h ⊢
  rw [onAdapter_insert]
  by_cases hadapter : other.adapter = route.key.adapter
  · rw [if_pos hadapter, List.find?_append]
    by_cases hother : other = route.key
    · rw [hother, h]
      simp
    · have hdiffers : (route.key == other) = false := by simpa using Ne.symm hother
      simp [hother, hdiffers]
  · have hother : other ≠ route.key := by
      intro h
      exact hadapter (by rw [h])
    rw [if_neg hadapter, if_neg hother]

/-- What is known of a route after it was heard of. -/
def afterHearing (known : Option Route) (key : RouteKey) (path : List UInt16) (mtu : Nat)
    (now : Time) : Route :=
  match known with
  | none => { key, path, mtu, lastDiscovery := now }
  | some route => { route with lastDiscovery := now }

/-- A hearing that succeeds inserts a route that is not known, or refreshes the one that is. -/
theorem hear_cases (h : table.hear adapters key path now = .ok next) :
    ∃ adapter, adapters.find? key.adapter = some adapter ∧
      (table.find? key = none ∧
          next = table.insert { key, path, mtu := adapter.mtu, lastDiscovery := now } ∨
        (∃ route, table.find? key = some route) ∧
          next = table.modify key fun route => { route with lastDiscovery := now }) := by
  unfold hear at h
  cases hadapter : adapters.find? key.adapter with
  | none => simp [hadapter] at h
  | some adapter =>
    refine ⟨adapter, rfl, ?_⟩
    cases hknown : table.find? key with
    | none =>
      simp only [hadapter, hknown, Except.ok.injEq] at h
      exact .inl ⟨rfl, h.symm⟩
    | some route =>
      simp only [hadapter, hknown, Except.ok.injEq] at h
      exact .inr ⟨⟨route, rfl⟩, h.symm⟩

theorem hear_eq_ok (h : table.hear adapters key path now = .ok next) :
    ∃ adapter, adapters.find? key.adapter = some adapter ∧ ∀ other,
      next.find? other =
        if other = key then some (afterHearing (table.find? key) key path adapter.mtu now)
        else table.find? other := by
  obtain ⟨adapter, hadapter, ⟨hnew, rfl⟩ | ⟨⟨route, hknown⟩, rfl⟩⟩ := hear_cases h
  · refine ⟨adapter, hadapter, fun other => ?_⟩
    rw [hnew]
    exact find?_insert _ hnew other
  · refine ⟨adapter, hadapter, fun other => ?_⟩
    rw [find?_modify, hknown]
    · rfl
    · exact fun _ => rfl

theorem exists_hear (path : List UInt16) (now : Time) (table : RouteTable) {adapter : Adapter}
    (h : adapters.find? key.adapter = some adapter) :
    ∃ next, table.hear adapters key path now = .ok next := by
  unfold hear
  rw [h]
  cases table.find? key with
  | none => exact ⟨_, rfl⟩
  | some route => exact ⟨_, rfl⟩

/-- The table after a hearing; a failed one changes nothing. -/
def heard (adapters : AdapterTable) (now : Time) (table : RouteTable)
    (told : RouteKey × List UInt16) : RouteTable :=
  match table.hear adapters told.1 told.2 now with
  | .ok next => next
  | .error _ => table

theorem find?_heard (adapters : AdapterTable) (now : Time) (table : RouteTable)
    (told : RouteKey × List UInt16) (key : RouteKey) :
    (table.heard adapters now told).find? key =
      match adapters.find? key.adapter with
      | none => table.find? key
      | some adapter =>
        if key = told.1 then some (afterHearing (table.find? key) key told.2 adapter.mtu now)
        else table.find? key := by
  unfold heard
  cases hhear : table.hear adapters told.1 told.2 now with
  | ok next =>
    obtain ⟨adapter, hadapter, hnext⟩ := hear_eq_ok hhear
    simp only [hnext]
    by_cases hkey : key = told.1
    · rw [hkey, hadapter]
    · simp only [if_neg hkey]
      cases adapters.find? key.adapter <;> rfl
  | error error =>
    cases hadapter : adapters.find? key.adapter with
    | none => rfl
    | some adapter =>
      refine (if_neg fun hkey => ?_).symm
      subst hkey
      obtain ⟨next, hnext⟩ := exists_hear told.2 now table hadapter
      rw [hnext] at hhear
      cases hhear

theorem hearAll_snd (adapters : AdapterTable) (now : Time) (told : List (RouteKey × List UInt16))
    (table : RouteTable) :
    (hearAll adapters now told table).2 = told.foldl (heard adapters now) table := by
  refine (List.foldl_hom Prod.snd fun state pair => ?_).symm
  obtain ⟨result, table⟩ := state
  unfold heard
  cases hhear : table.hear adapters pair.1 pair.2 now with
  | ok next => simp only [hhear]
  | error error => simp only [hhear]

theorem afterHearing_again (known : Option Route) (key : RouteKey) (path again : List UInt16)
    (mtu : Nat) (now : Time) :
    afterHearing (some (afterHearing known key path mtu now)) key again mtu now =
      afterHearing known key path mtu now := by
  cases known <;> rfl

/-- Of several paths told for one key the first counts. -/
theorem find?_hearAll (adapters : AdapterTable) (now : Time)
    (told : List (RouteKey × List UInt16)) (table : RouteTable) (key : RouteKey) :
    (hearAll adapters now told table).2.find? key =
      match adapters.find? key.adapter with
      | none => table.find? key
      | some adapter =>
        match told.lookup key with
        | none => table.find? key
        | some path => some (afterHearing (table.find? key) key path adapter.mtu now) := by
  rw [hearAll_snd]
  induction told generalizing table with
  | nil => cases adapters.find? key.adapter <;> rfl
  | cons first rest ih =>
    obtain ⟨first, path⟩ := first
    rw [List.foldl_cons, ih, find?_heard]
    cases adapters.find? key.adapter with
    | none => rfl
    | some adapter =>
      by_cases hkey : key = first
      · simp only [hkey, List.lookup_cons, beq_self_eq_true, if_true]
        cases rest.lookup first with
        | none => rfl
        | some again => simp only [afterHearing_again]
      · simp only [List.lookup_cons, beq_false_of_ne hkey, if_neg hkey]

theorem mem_of_find? {route : Route} (h : table.find? key = some route) :
    route.key = key ∧ ∃ bucket ∈ table.buckets, bucket.1 = key.adapter ∧ route ∈ bucket.2 := by
  unfold find? onAdapter at h
  refine ⟨by simpa using List.find?_some h, ?_⟩
  have hmem := List.mem_of_find?_eq_some h
  cases hbucket : table.buckets.find? (·.1 == key.adapter) with
  | none => simp [hbucket] at hmem
  | some bucket =>
    simp only [hbucket] at hmem
    exact ⟨bucket, List.mem_of_find?_eq_some hbucket, by simpa using List.find?_some hbucket, hmem⟩

/-- The route is known and was last heard of at the given time. -/
def HeardAt (key : RouteKey) (now : Time) (table : RouteTable) : Prop :=
  ∃ route, table.find? key = some route ∧ route.lastDiscovery = now

theorem heardAt_hearAll {told : List (RouteKey × List UInt16)} {adapter : Adapter}
    (hadapter : adapters.find? key.adapter = some adapter) (htold : told.lookup key = some path) :
    (hearAll adapters now told table).2.HeardAt key now := by
  unfold HeardAt
  simp only [find?_hearAll, hadapter, htold]
  refine ⟨_, rfl, ?_⟩
  cases table.find? key <;> rfl

theorem HeardAt.hearAll (h : table.HeardAt key now) (told : List (RouteKey × List UInt16)) :
    (hearAll adapters now told table).2.HeardAt key now := by
  cases hadapter : adapters.find? key.adapter with
  | none =>
    obtain ⟨route, hroute, htime⟩ := h
    refine ⟨route, ?_, htime⟩
    rw [find?_hearAll, hadapter]
    exact hroute
  | some adapter =>
    cases htold : told.lookup key with
    | none =>
      obtain ⟨route, hroute, htime⟩ := h
      refine ⟨route, ?_, htime⟩
      rw [find?_hearAll, hadapter, htold]
      exact hroute
    | some path => exact heardAt_hearAll hadapter htold

/-- What was heard of just now is online behind the sweep. -/
theorem HeardAt.sweep (h : table.HeardAt key now) (htimeout : 0 < table.timeout) :
    ∃ bucket ∈ (table.sweep now).2.buckets, bucket.1 = key.adapter ∧
      ∃ route ∈ bucket.2, route.key = key ∧ route.online = true := by
  obtain ⟨route, hroute, htime⟩ := h
  obtain ⟨hkey, bucket, hbucket, hid, hmem⟩ := mem_of_find? hroute
  refine ⟨_, List.mem_map_of_mem hbucket, hid, _, List.mem_map_of_mem hmem, hkey, ?_⟩
  have hfresh : elapsed now route.lastDiscovery < table.timeout := by
    rw [htime, elapsed, Int.sub_self]
    exact htimeout
  simp [swept, Route.shouldBeOnline, Route.isFresh, hfresh]

/-- A discovery tells of its sender and of each node that it lists. -/
theorem exists_lookup_told {message : Discovery} {reporter : Address} {who : NodeIdentity}
    (h : who = ⟨message.sender, reporter⟩ ∨
      ∃ entry ∈ message.nodes, who = ⟨entry.id, entry.address⟩) (id : AdapterId) :
    ∃ path, (told message id reporter).lookup ⟨who, id, reporter⟩ = some path := by
  rw [← Option.isSome_iff_exists, List.lookup_isSome_iff]
  rcases h with hself | ⟨entry, hentry, hlisted⟩
  · exact ⟨_, List.mem_cons_self, by simp [hself]⟩
  · exact ⟨_, List.mem_cons_of_mem _ (List.mem_map_of_mem hentry), by simp [hlisted]⟩

/-- A discovery tells of its sender, or of a listed node that it is not. -/
theorem lookup_told {message : Discovery} {reporter : Address}
    (h : (told message id reporter).lookup key = some path) :
    key.adapter = id ∧ key.reporter = reporter ∧
      (key.node = ⟨message.sender, reporter⟩ ∧ path = [hopCost] ∨
        key.node ≠ ⟨message.sender, reporter⟩ ∧ ∃ entry ∈ message.nodes,
          key.node = ⟨entry.id, entry.address⟩ ∧ path = hopCost :: entry.path) := by
  unfold told at h
  by_cases hdirect : key = ⟨⟨message.sender, reporter⟩, id, reporter⟩
  · rw [hdirect, List.lookup_cons_self] at h
    rw [hdirect]
    exact ⟨rfl, rfl, .inl ⟨rfl, (Option.some.inj h).symm⟩⟩
  · rw [List.lookup_cons, beq_false_of_ne hdirect] at h
    obtain ⟨front, back, hsplit, -⟩ := List.lookup_eq_some_iff.mp h
    have hmem : (key, path) ∈ message.nodes.map fun entry =>
        ((⟨⟨entry.id, entry.address⟩, id, reporter⟩ : RouteKey), hopCost :: entry.path) := by
      rw [hsplit]
      exact List.mem_append_right _ List.mem_cons_self
    obtain ⟨entry, hentry, hpair⟩ := List.mem_map.mp hmem
    obtain ⟨rfl, rfl⟩ := Prod.mk.inj hpair
    refine ⟨rfl, rfl, .inr ⟨fun hnode => hdirect ?_, entry, hentry, rfl, rfl⟩⟩
    rw [show (⟨entry.id, entry.address⟩ : NodeIdentity) = _ from hnode]

theorem timeout_insert (route : Route) (table : RouteTable) :
    (table.insert route).timeout = table.timeout := by
  simp only [insert, record]
  split <;> rfl

theorem events_insert (route : Route) (table : RouteTable) :
    (table.insert route).events = table.events ++ [.discovered route] := by
  simp only [insert, record]
  split <;> rfl

theorem timeout_heard (adapters : AdapterTable) (now : Time) (table : RouteTable)
    (told : RouteKey × List UInt16) : (table.heard adapters now told).timeout = table.timeout := by
  unfold heard hear
  cases adapters.find? told.1.adapter with
  | none => rfl
  | some adapter =>
    cases table.find? told.1 with
    | none => exact timeout_insert _ _
    | some route => rfl

theorem timeout_hearAll (adapters : AdapterTable) (now : Time)
    (told : List (RouteKey × List UInt16)) (table : RouteTable) :
    (hearAll adapters now told table).2.timeout = table.timeout := by
  rw [hearAll_snd]
  induction told generalizing table with
  | nil => rfl
  | cons first rest ih => rw [List.foldl_cons, ih, timeout_heard]

theorem timeout_recordData (adapters : AdapterTable) (message : DataMessage)
    (reception : Reception) (table : RouteTable) :
    (table.recordData adapters message reception).2.timeout = table.timeout := by
  unfold recordData
  split <;> rfl

end Lookup

/-- All routes have a property, which may depend on the adapter that they are kept for. -/
def All (P : AdapterId → Route → Prop) (table : RouteTable) : Prop :=
  ∀ bucket ∈ table.buckets, ∀ route ∈ bucket.2, P bucket.1 route

section All
variable {P Q : AdapterId → Route → Prop} {told : List (RouteKey × List UInt16)}

theorem All.mono (h : table.All P) (himp : ∀ id route, P id route → Q id route) : table.All Q :=
  fun bucket hbucket route hroute => himp _ _ (h bucket hbucket route hroute)

theorem All.and (hP : table.All P) (hQ : table.All Q) :
    table.All fun id route => P id route ∧ Q id route :=
  fun bucket hbucket route hroute =>
    ⟨hP bucket hbucket route hroute, hQ bucket hbucket route hroute⟩

theorem All.of_mem (h : table.All P) {route : Route} (hroute : route ∈ table.routes) :
    ∃ id, P id route := by
  obtain ⟨bucket, hbucket, hmem⟩ := List.mem_flatMap.mp hroute
  exact ⟨bucket.1, h bucket hbucket route hmem⟩

theorem All.adjust (h : table.All P) {change : List Route → List Route}
    (hchange : ∀ routes, (∀ route ∈ routes, P id route) → ∀ route ∈ change routes, P id route) :
    (table.adjust id change).All P := by
  intro bucket hbucket
  obtain ⟨old, hold, rfl⟩ := List.mem_map.mp hbucket
  by_cases hid : old.1 = id
  · simp only [if_pos hid]
    intro route hroute
    rw [hid]
    refine hchange old.2 ?_ route hroute
    rw [← hid]
    exact h old hold
  · simp only [if_neg hid]
    exact h old hold

theorem All.modify (h : table.All P) {change : Route → Route}
    (hchange : ∀ route, route.key = key → P key.adapter route → P key.adapter (change route)) :
    (table.modify key change).All P := by
  apply h.adjust
  intro routes hroutes route hroute
  obtain ⟨old, hold, rfl⟩ := List.mem_map.mp hroute
  by_cases hkey : old.key = key
  · rw [if_pos hkey]
    exact hchange old hkey (hroutes old hold)
  · rw [if_neg hkey]
    exact hroutes old hold

theorem All.insert (h : table.All P) {route : Route} (hroute : P route.key.adapter route) :
    (table.insert route).All P := by
  unfold All
  rw [buckets_insert]
  split
  · apply h.adjust
    intro routes hroutes other hother
    rcases List.mem_append.mp hother with hold | hnew
    · exact hroutes other hold
    · rw [List.mem_singleton.mp hnew]
      exact hroute
  · intro bucket hbucket other hother
    rcases List.mem_append.mp hbucket with hold | hnew
    · exact h bucket hold other hother
    · rw [List.mem_singleton.mp hnew] at hother ⊢
      rw [List.mem_singleton.mp hother]
      exact hroute

theorem All.hear (h : table.All P) (hhear : table.hear adapters key path now = .ok next)
    (hrefresh : ∀ route, route.key = key → P key.adapter route →
      P key.adapter { route with lastDiscovery := now })
    (hnew : ∀ adapter, adapters.find? key.adapter = some adapter → table.find? key = none →
      P key.adapter { key, path, mtu := adapter.mtu, lastDiscovery := now }) : next.All P := by
  obtain ⟨adapter, hadapter, ⟨hfresh, rfl⟩ | ⟨-, rfl⟩⟩ := hear_cases hhear
  · exact h.insert (hnew adapter hadapter hfresh)
  · exact h.modify hrefresh

theorem All.heard {told : RouteKey × List UInt16} (h : table.All P)
    (hrefresh : ∀ route, route.key = told.1 → P route.key.adapter route →
      P route.key.adapter { route with lastDiscovery := now })
    (hnew : ∀ adapter, adapters.find? told.1.adapter = some adapter → table.find? told.1 = none →
      P told.1.adapter
        { key := told.1, path := told.2, mtu := adapter.mtu, lastDiscovery := now }) :
    (table.heard adapters now told).All P := by
  unfold RouteTable.heard
  cases hhear : table.hear adapters told.1 told.2 now with
  | error error => exact h
  | ok next =>
    refine h.hear hhear (fun route hkey hroute => ?_) hnew
    rw [← hkey] at hroute ⊢
    exact hrefresh route hkey hroute

theorem All.foldl_heard (h : table.All P)
    (hrefresh : ∀ route path, told.lookup route.key = some path → P route.key.adapter route →
      P route.key.adapter { route with lastDiscovery := now })
    (hnew : ∀ key path adapter, adapters.find? key.adapter = some adapter →
      table.find? key = none → told.lookup key = some path →
        P key.adapter { key, path, mtu := adapter.mtu, lastDiscovery := now }) :
    (told.foldl (RouteTable.heard adapters now) table).All P := by
  induction told generalizing table with
  | nil => exact h
  | cons first rest ih =>
    obtain ⟨first, path⟩ := first
    refine ih (h.heard (fun route hkey => hrefresh route path ?_) fun adapter hadapter hfresh =>
      hnew _ _ adapter hadapter hfresh List.lookup_cons_self) (fun route other htold => ?_)
      fun key path adapter hadapter hfresh htold => ?_
    · rw [hkey, List.lookup_cons_self]
    · by_cases hkey : route.key = first
      · exact hrefresh route path (by rw [hkey, List.lookup_cons_self])
      · apply hrefresh route other
        rw [List.lookup_cons, beq_false_of_ne hkey]
        exact htold
    · -- A key that is new behind the first hearing is not the key of that hearing.
      rw [find?_heard, hadapter] at hfresh
      by_cases hkey : key = first
      · simp [hkey] at hfresh
      · simp only [if_neg hkey] at hfresh
        apply hnew key path adapter hadapter hfresh
        rw [List.lookup_cons, beq_false_of_ne hkey]
        exact htold

/-- A new route takes the first path that is told for its key. -/
theorem All.hearAll (h : table.All P)
    (hrefresh : ∀ route path, told.lookup route.key = some path → P route.key.adapter route →
      P route.key.adapter { route with lastDiscovery := now })
    (hnew : ∀ key path mtu, told.lookup key = some path →
      P key.adapter { key, path, mtu, lastDiscovery := now }) :
    (hearAll adapters now told table).2.All P := by
  rw [hearAll_snd]
  exact h.foldl_heard hrefresh fun key path adapter _ _ => hnew key path adapter.mtu

theorem All.recordData (h : table.All P) {message : DataMessage} {reception : Reception}
    (hdata : ∀ id route, route.key.node = ⟨message.sender, reception.sender.address⟩ →
      P id route → P id { route with lastData := some reception.time }) :
    (table.recordData adapters message reception).2.All P := by
  unfold RouteTable.recordData
  split
  · exact h
  · apply h.adjust
    intro routes hroutes route hroute
    obtain ⟨old, hold, rfl⟩ := List.mem_map.mp hroute
    by_cases hnode : old.key.node = ⟨message.sender, reception.sender.address⟩
    · rw [if_pos hnode]
      exact hdata _ old hnode (hroutes old hold)
    · rw [if_neg hnode]
      exact hroutes old hold

theorem All.sweep (h : table.All P)
    (honline : ∀ id route online, P id route → P id { route with online }) (now : Time) :
    (table.sweep now).2.All P := by
  intro bucket hbucket route hroute
  obtain ⟨old, hold, rfl⟩ := List.mem_map.mp hbucket
  obtain ⟨was, hwas, rfl⟩ := List.mem_map.mp hroute
  exact honline _ _ _ (h old hold was hwas)

theorem all_sweep_online (now : Time) (table : RouteTable) :
    (table.sweep now).2.All fun _ route =>
      route.online = route.shouldBeOnline now table.timeout := by
  intro bucket hbucket route hroute
  obtain ⟨old, hold, rfl⟩ := List.mem_map.mp hbucket
  obtain ⟨was, hwas, rfl⟩ := List.mem_map.mp hroute
  rfl

end All
end RouteDiscovery.RouteTable

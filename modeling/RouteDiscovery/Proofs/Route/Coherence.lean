import RouteDiscovery.Proofs.Adapter.Lookup
import RouteDiscovery.Proofs.Route.Hearing

/-!
What holds of every table that only its own operations have changed: adapters tell its buckets
apart, keys tell its routes apart, and a lookup by key finds whatever is there. An operation that
fails leaves the table as it was.
-/
namespace RouteDiscovery

namespace RouteTable
variable {adapters : AdapterTable} {table next : RouteTable} {key : RouteKey} {id : AdapterId}
  {path : List UInt16} {now : Time} {route : Route} {f : AdapterId → Route → Route}

/-- The buckets with every route changed in its place. -/
def recast (f : AdapterId → Route → Route) (table : RouteTable) : List (AdapterId × List Route) :=
  table.buckets.map fun bucket => (bucket.1, bucket.2.map (f bucket.1))

section Recast

theorem onAdapter_recast (h : next.buckets = table.recast f) (id : AdapterId) :
    next.onAdapter id = (table.onAdapter id).map (f id) := by
  unfold onAdapter
  rw [h, recast, List.find?_map]
  simp only [Function.comp_def]
  cases hfind : table.buckets.find? (·.1 == id) with
  | none => rfl
  | some bucket =>
    have hid : bucket.1 = id := by simpa using List.find?_some hfind
    simp [hid]

theorem mem_routes_recast (h : next.buckets = table.recast f) :
    route ∈ next.routes ↔
      ∃ bucket ∈ table.buckets, ∃ old ∈ bucket.2, f bucket.1 old = route := by
  simp [routes, h, recast, List.mem_flatMap]

theorem buckets_adjust_map (id : AdapterId) (change : Route → Route) (table : RouteTable) :
    (table.adjust id (·.map change)).buckets =
      table.recast fun other route => if other = id then change route else route := by
  unfold adjust recast
  apply List.map_congr_left
  intro bucket _
  by_cases hid : bucket.1 = id <;> simp [hid]

theorem buckets_modify (key : RouteKey) (change : Route → Route) (table : RouteTable) :
    (table.modify key change).buckets = table.recast fun id route =>
      if id = key.adapter then if route.key = key then change route else route else route :=
  buckets_adjust_map key.adapter _ table

/-- A changed route keeps its key, and the others are not changed. -/
theorem key_modified {change : Route → Route}
    (hchange : ∀ route, route.key = key → (change route).key = key) (id : AdapterId)
    (route : Route) :
    (if id = key.adapter then if route.key = key then change route else route else route).key =
      route.key := by
  split_ifs with hid hkey
  · rw [hchange route hkey, hkey]
  · rfl
  · rfl

/-- A route behind a data message, which only a route to the sender of the message takes note of. -/
def dataHeard (adapters : AdapterTable) (message : DataMessage) (reception : Reception)
    (id : AdapterId) (route : Route) : Route :=
  match adapters.owner? reception.recipient with
  | none => route
  | some adapter =>
    if id = adapter.id then
      if route.key.node = ⟨message.sender, reception.sender.address⟩ then
        { route with lastData := some reception.time }
      else route
    else route

theorem dataHeard_eq (adapters : AdapterTable) (message : DataMessage) (reception : Reception)
    (id : AdapterId) (route : Route) :
    dataHeard adapters message reception id route = route ∨
      route.key.node = ⟨message.sender, reception.sender.address⟩ ∧
        dataHeard adapters message reception id route =
          { route with lastData := some reception.time } := by
  unfold dataHeard
  cases adapters.owner? reception.recipient with
  | none => exact .inl rfl
  | some adapter =>
    by_cases hid : id = adapter.id <;>
      by_cases hnode : route.key.node = ⟨message.sender, reception.sender.address⟩ <;>
      simp [hid, hnode]

@[simp] theorem key_dataHeard (adapters : AdapterTable) (message : DataMessage)
    (reception : Reception) (id : AdapterId) (route : Route) :
    (dataHeard adapters message reception id route).key = route.key := by
  rcases dataHeard_eq adapters message reception id route with hsame | ⟨-, hdata⟩
  · rw [hsame]
  · rw [hdata]

theorem buckets_recordData (adapters : AdapterTable) (message : DataMessage)
    (reception : Reception) (table : RouteTable) :
    (table.recordData adapters message reception).2.buckets =
      table.recast (dataHeard adapters message reception) := by
  unfold recordData dataHeard
  cases adapters.owner? reception.recipient with
  | none => simp [recast]
  | some adapter => exact buckets_adjust_map _ _ _

theorem buckets_sweep (now : Time) (table : RouteTable) :
    (table.sweep now).2.buckets = table.recast fun _ => swept now table.timeout := rfl

end Recast

/-- Adapters tell the buckets apart and keys the routes of a bucket; no bucket is empty, each route
stands in the bucket of its adapter, and the persistent ones are online. -/
structure Coherent (table : RouteTable) : Prop where
  nodup_adapters : (table.buckets.map (·.1)).Nodup
  nodup_keys : ∀ bucket ∈ table.buckets, (bucket.2.map (·.key)).Nodup
  filled : ∀ bucket ∈ table.buckets, bucket.2 ≠ []
  placed : table.All fun id route => route.key.adapter = id
  persistent_online : table.All fun _ route => route.persistent = true → route.online = true

section Coherent

theorem Coherent.onAdapter_of_mem (h : table.Coherent) {bucket : AdapterId × List Route}
    (hbucket : bucket ∈ table.buckets) : table.onAdapter bucket.1 = bucket.2 := by
  unfold onAdapter
  rw [(find?_key_eq_some_iff h.nodup_adapters).mpr ⟨hbucket, rfl⟩]

theorem Coherent.mem_onAdapter_iff (h : table.Coherent) {id : AdapterId} :
    route ∈ table.onAdapter id ↔ route ∈ table.routes ∧ route.key.adapter = id := by
  constructor
  · intro hroute
    unfold onAdapter at hroute
    split at hroute
    · cases hroute
    · next bucket hfind =>
      have hbucket := List.mem_of_find?_eq_some hfind
      have hid : bucket.1 = id := by simpa using List.find?_some hfind
      exact ⟨List.mem_flatMap.mpr ⟨bucket, hbucket, hroute⟩,
        (h.placed bucket hbucket route hroute).trans hid⟩
  · rintro ⟨hroute, rfl⟩
    obtain ⟨bucket, hbucket, hmem⟩ := List.mem_flatMap.mp hroute
    rwa [h.placed bucket hbucket route hmem, h.onAdapter_of_mem hbucket]

theorem Coherent.nodup_onAdapter (h : table.Coherent) (id : AdapterId) :
    ((table.onAdapter id).map (·.key)).Nodup := by
  unfold onAdapter
  cases hfind : table.buckets.find? (·.1 == id) with
  | none => simp
  | some bucket => exact h.nodup_keys bucket (List.mem_of_find?_eq_some hfind)

/-- No two routes of the whole table share a key. -/
theorem Coherent.nodup_routes (h : table.Coherent) : (table.routes.map (·.key)).Nodup := by
  rw [routes, List.map_flatMap, List.nodup_flatMap]
  refine ⟨h.nodup_keys, ?_⟩
  have hapart : table.buckets.Pairwise fun first second => first.1 ≠ second.1 :=
    List.pairwise_map.mp h.nodup_adapters
  refine hapart.imp_of_mem fun {first second} hfirst hsecond hdiffers => ?_
  intro key hkey hother
  obtain ⟨route, hroute, hrouteKey⟩ := List.mem_map.mp hkey
  obtain ⟨other, hmem, hotherKey⟩ := List.mem_map.mp hother
  apply hdiffers
  rw [← h.placed first hfirst route hroute, ← h.placed second hsecond other hmem, hrouteKey,
    hotherKey]

/-- A lookup finds the route with the key, wherever in the table it is. -/
theorem Coherent.find?_eq_some_iff (h : table.Coherent) :
    table.find? key = some route ↔ route ∈ table.routes ∧ route.key = key := by
  rw [find?, find?_key_eq_some_iff (h.nodup_onAdapter _), h.mem_onAdapter_iff]
  constructor
  · rintro ⟨⟨hroute, -⟩, hkey⟩
    exact ⟨hroute, hkey⟩
  · rintro ⟨hroute, rfl⟩
    exact ⟨⟨hroute, rfl⟩, rfl⟩

theorem Coherent.find?_eq_none_iff (h : table.Coherent) :
    table.find? key = none ↔ ∀ route ∈ table.routes, route.key ≠ key := by
  rw [Option.eq_none_iff_forall_ne_some]
  simp only [ne_eq, h.find?_eq_some_iff, not_and]

theorem coherent_empty (timeout : Nat) : (empty timeout).Coherent := by
  constructor <;> simp [empty, All]

theorem Coherent.congr (h : table.Coherent) (hbuckets : next.buckets = table.buckets) :
    next.Coherent := by
  obtain ⟨hadapters, hkeys, hfilled, hplaced, honline⟩ := h
  constructor <;> simpa only [All, hbuckets]

/-- Routes may change in their places as long as they keep their keys and the persistent ones stay
online. -/
theorem Coherent.recast (h : table.Coherent) (hbuckets : next.buckets = table.recast f)
    (hkey : ∀ id route, (f id route).key = route.key)
    (honline : ∀ id route, (route.persistent = true → route.online = true) →
      (f id route).persistent = true → (f id route).online = true) : next.Coherent := by
  have hkeys (id : AdapterId) (routes : List Route) :
      (routes.map (f id)).map (·.key) = routes.map (·.key) := by
    simp [hkey]
  constructor
  · rw [hbuckets, RouteTable.recast, List.map_map]
    exact h.nodup_adapters
  all_goals
    simp only [All, hbuckets, RouteTable.recast, List.forall_mem_map]
    intro bucket hbucket
  · rw [hkeys]
    exact h.nodup_keys bucket hbucket
  · simpa using h.filled bucket hbucket
  · intro route hroute
    rw [hkey]
    exact h.placed bucket hbucket route hroute
  · intro route hroute
    exact honline _ route (h.persistent_online bucket hbucket route hroute)

theorem Coherent.modify (h : table.Coherent) {change : Route → Route}
    (hkey : ∀ route, route.key = key → (change route).key = key)
    (honline : ∀ route, (route.persistent = true → route.online = true) →
      (change route).persistent = true → (change route).online = true) :
    (table.modify key change).Coherent := by
  refine h.recast (buckets_modify _ _ _) (key_modified hkey) fun id route hroute => ?_
  split_ifs
  · exact honline route hroute
  · exact hroute
  · exact hroute

/-- A route that is not known yet may be added. -/
theorem Coherent.insert (h : table.Coherent) (hnew : table.find? route.key = none)
    (honline : route.persistent = true → route.online = true) : (table.insert route).Coherent := by
  have hplaced : (table.insert route).All fun id route => route.key.adapter = id :=
    h.placed.insert rfl
  have hpersistent := h.persistent_online.insert honline
  by_cases hany : table.buckets.any (·.1 == route.key.adapter) = true
  · have hbuckets : (table.insert route).buckets =
        (table.adjust route.key.adapter (· ++ [route])).buckets := by
      rw [buckets_insert, if_pos hany]
    refine ⟨?_, ?_, ?_, hplaced, hpersistent⟩
    · rw [hbuckets, adapters_adjust]
      exact h.nodup_adapters
    all_goals
      simp only [hbuckets, adjust, List.forall_mem_map]
      intro bucket hbucket
      split_ifs with hid
    · have hfresh : ∀ other ∈ bucket.2, other.key ≠ route.key := by
        intro other hother
        exact h.find?_eq_none_iff.mp hnew other (List.mem_flatMap.mpr ⟨bucket, hbucket, hother⟩)
      rw [List.map_append, List.map_singleton, List.nodup_append]
      refine ⟨h.nodup_keys bucket hbucket, List.nodup_singleton _, ?_⟩
      simpa using hfresh
    · exact h.nodup_keys bucket hbucket
    · simp
    · exact h.filled bucket hbucket
  · have hbuckets : (table.insert route).buckets =
        table.buckets ++ [(route.key.adapter, [route])] := by
      rw [buckets_insert, if_neg hany]
    have habsent := ne_of_not_any hany
    refine ⟨?_, ?_, ?_, hplaced, hpersistent⟩
    · rw [hbuckets, List.map_append, List.map_singleton, List.nodup_append]
      refine ⟨h.nodup_adapters, List.nodup_singleton _, ?_⟩
      simpa using habsent
    · simpa [hbuckets, or_imp, forall_and] using h.nodup_keys
    · simpa [hbuckets, or_imp, forall_and] using h.filled

theorem Coherent.hear (h : table.Coherent) (hhear : table.hear adapters key path now = .ok next) :
    next.Coherent := by
  obtain ⟨adapter, -, ⟨hnew, rfl⟩ | ⟨-, rfl⟩⟩ := hear_cases hhear
  · exact h.insert hnew (by simp)
  · exact h.modify (fun _ hkey => hkey) fun _ honline => honline

theorem Coherent.heard (h : table.Coherent) (told : RouteKey × List UInt16) :
    (table.heard adapters now told).Coherent := by
  unfold RouteTable.heard
  cases hhear : table.hear adapters told.1 told.2 now with
  | ok next => exact h.hear hhear
  | error error => exact h

theorem Coherent.foldl_heard (h : table.Coherent) (told : List (RouteKey × List UInt16)) :
    (told.foldl (RouteTable.heard adapters now) table).Coherent := by
  induction told generalizing table with
  | nil => exact h
  | cons first rest ih => exact ih (h.heard first)

/-- Nothing fails where every route is told for an adapter that there is. -/
theorem hearAll_fst {told : List (RouteKey × List UInt16)}
    (htold : ∀ pair ∈ told, (adapters.find? pair.1.adapter).isSome) :
    (hearAll adapters now told table).1 = .ok () := by
  unfold hearAll
  induction told generalizing table with
  | nil => rfl
  | cons first rest ih =>
    obtain ⟨adapter, hadapter⟩ := Option.isSome_iff_exists.mp (htold first List.mem_cons_self)
    obtain ⟨next, hnext⟩ := exists_hear first.2 now table hadapter
    rw [List.foldl_cons]
    simp only [hnext]
    exact ih fun pair hpair => htold pair (List.mem_cons_of_mem _ hpair)

theorem learn_snd (adapters : AdapterTable) (message : Discovery) (reception : Reception)
    (table : RouteTable) :
    (table.learn adapters message reception).2 =
      match adapters.owner? reception.recipient with
      | none => table
      | some adapter => (told message adapter.id reception.sender.address).foldl
          (RouteTable.heard adapters reception.time) table := by
  unfold learn
  cases adapters.owner? reception.recipient with
  | none => rfl
  | some adapter => exact hearAll_snd _ _ _ _

theorem Coherent.learn (h : table.Coherent) (message : Discovery) (reception : Reception) :
    (table.learn adapters message reception).2.Coherent := by
  rw [learn_snd]
  split
  · exact h
  · exact h.foldl_heard _

theorem Coherent.recordData (h : table.Coherent) (message : DataMessage) (reception : Reception) :
    (table.recordData adapters message reception).2.Coherent := by
  refine h.recast (buckets_recordData _ _ _ _) (fun _ _ => key_dataHeard _ _ _ _ _)
    fun id route honline => ?_
  rcases dataHeard_eq adapters message reception id route with hsame | ⟨-, hdata⟩
  · rwa [hsame]
  · rwa [hdata]

theorem Coherent.sweep (h : table.Coherent) (now : Time) : (table.sweep now).2.Coherent :=
  h.recast (buckets_sweep now table) (fun _ _ => rfl)
    fun _ route _ hpersistent => by
      simp_all [swept, Route.shouldBeOnline]

theorem Coherent.setSilent (h : table.Coherent) (key : RouteKey) (silent : Bool) :
    (table.setSilent key silent).2.Coherent :=
  h.modify (fun _ hkey => hkey) fun _ honline => honline

theorem heard_of_hear (h : table.hear adapters key path now = .ok next) :
    table.heard adapters now (key, path) = next := by
  simp [RouteTable.heard, h]

/-- A marked route was heard of, and then it alone was changed in its place. A change of its
liveness is recorded. -/
theorem setPersistent_eq_ok {persistent : Bool}
    (h : table.setPersistent adapters key path persistent now = .ok next) :
    ∃ heard route, heard = table.heard adapters now (key, path) ∧ heard.find? key = some route ∧
      let changed := swept now table.timeout { route with persistent }
      next.timeout = heard.timeout ∧
      next.buckets = (heard.modify key fun _ => changed).buckets ∧
      next.events = heard.events ++
        if route.online = changed.online then [] else [.livenessChanged route.online changed] := by
  unfold setPersistent at h
  cases hhear : table.hear adapters key path now with
  | error error => simp [hhear, bind, Except.bind] at h
  | ok heard =>
    obtain ⟨adapter, -, hlookup⟩ := hear_eq_ok hhear
    obtain ⟨route, hroute⟩ : ∃ route, heard.find? key = some route :=
      ⟨_, by rw [hlookup, if_pos rfl]⟩
    simp only [hhear, bind, Except.bind, hroute, pure, Except.pure, Except.ok.injEq] at h
    refine ⟨heard, route, (heard_of_hear hhear).symm, hroute, ?_⟩
    intro changed
    have hnext : (if route.online = changed.online then heard.modify key fun _ => changed
        else (heard.modify key fun _ => changed).record
          (.livenessChanged route.online changed)) = next := h
    split_ifs at hnext ⊢ <;> subst hnext
    · exact ⟨rfl, rfl, (List.append_nil _).symm⟩
    · exact ⟨rfl, rfl, rfl⟩

theorem timeout_setPersistent {persistent : Bool}
    (h : table.setPersistent adapters key path persistent now = .ok next) :
    next.timeout = table.timeout := by
  obtain ⟨heard, route, rfl, -, htimeout, -⟩ := setPersistent_eq_ok h
  rw [htimeout, timeout_heard]

/-- A marking fails only for want of the adapter. -/
theorem exists_setPersistent (path : List UInt16) (persistent : Bool) (now : Time)
    (table : RouteTable) {adapter : Adapter}
    (hadapter : adapters.find? key.adapter = some adapter) :
    ∃ next, table.setPersistent adapters key path persistent now = .ok next := by
  obtain ⟨heard, hheard⟩ := exists_hear path now table hadapter
  unfold setPersistent
  simp only [hheard, bind, Except.bind]
  split
  · exact ⟨_, rfl⟩
  · exact ⟨_, rfl⟩

theorem Coherent.setPersistent (h : table.Coherent) {persistent : Bool}
    (hok : table.setPersistent adapters key path persistent now = .ok next) : next.Coherent := by
  obtain ⟨heard, route, rfl, hroute, -, hbuckets, -⟩ := setPersistent_eq_ok hok
  refine Coherent.congr (Coherent.modify (h.heard (key, path)) (fun _ _ => ?_) fun _ _ => ?_)
    hbuckets
  · exact (mem_of_find? hroute).1
  · intro hpersistent
    simp_all [swept, Route.shouldBeOnline]

end Coherent

/-- A discovery that an adapter received is learned, each of its routes. -/
theorem learn_fst (message : Discovery) {reception : Reception} (table : RouteTable)
    {adapter : Adapter} (howner : adapters.owner? reception.recipient = some adapter) :
    (table.learn adapters message reception).1 = .ok () := by
  have hfound : (adapters.find? adapter.id).isSome := AdapterTable.isSome_find?_of_owner? howner
  unfold learn
  rw [howner]
  apply hearAll_fst
  simp [told, hfound]

/-- Discoveries fail only for want of an adapter to have received them. -/
theorem learn_eq_error {message : Discovery} {reception : Reception} {error : RouteError}
    (h : (table.learn adapters message reception).1 = .error error) :
    adapters.owner? reception.recipient = none := by
  cases howner : adapters.owner? reception.recipient with
  | none => rfl
  | some adapter =>
    rw [learn_fst message table howner] at h
    cases h

/-- What can be asked of a table. The adapters may be others each time. -/
inductive Action where
  | learn (adapters : AdapterTable) (message : Discovery) (reception : Reception)
  | hear (adapters : AdapterTable) (key : RouteKey) (path : List UInt16) (now : Time)
  | setPersistent (adapters : AdapterTable) (key : RouteKey) (path : List UInt16)
      (persistent : Bool) (now : Time)
  | setSilent (key : RouteKey) (silent : Bool)
  | recordData (adapters : AdapterTable) (message : DataMessage) (reception : Reception)
  | sweep (now : Time)
  | takeEvents

/-- Takes over what an operation made of the table, if it made anything of it. -/
def settle (table : RouteTable) (result : Except RouteError RouteTable) :
    Except RouteError Unit × RouteTable :=
  match result with
  | .ok next => (.ok (), next)
  | .error error => (.error error, table)

def step (table : RouteTable) : Action → Except RouteError Unit × RouteTable
  | .learn adapters message reception => table.learn adapters message reception
  | .hear adapters key path now => table.settle (table.hear adapters key path now)
  | .setPersistent adapters key path persistent now =>
    table.settle (table.setPersistent adapters key path persistent now)
  | .setSilent key silent => (.ok (), (table.setSilent key silent).2)
  | .recordData adapters message reception =>
    (.ok (), (table.recordData adapters message reception).2)
  | .sweep now => (.ok (), (table.sweep now).2)
  | .takeEvents => (.ok (), table.takeEvents.2)

/-- The table behind some actions. -/
def after (actions : List Action) (table : RouteTable) : RouteTable :=
  actions.foldl (fun table action => (table.step action).2) table

theorem Coherent.settle (h : table.Coherent) {result : Except RouteError RouteTable}
    (hresult : ∀ next, result = .ok next → next.Coherent) : (table.settle result).2.Coherent := by
  cases result with
  | ok next => exact hresult next rfl
  | error error => exact h

theorem Coherent.step (h : table.Coherent) (action : Action) : (table.step action).2.Coherent := by
  cases action with
  | learn adapters message reception => exact h.learn message reception
  | hear adapters key path now => exact h.settle fun _ hhear => h.hear hhear
  | setPersistent adapters key path persistent now =>
    exact h.settle fun _ hok => h.setPersistent hok
  | setSilent key silent => exact h.setSilent key silent
  | recordData adapters message reception => exact h.recordData message reception
  | sweep now => exact h.sweep now
  | takeEvents => exact h.congr rfl

theorem Coherent.after (h : table.Coherent) (actions : List Action) :
    (table.after actions).Coherent := by
  induction actions generalizing table with
  | nil => exact h
  | cons first rest ih => exact ih (h.step first)

theorem step_eq_error {action : Action} {error : RouteError}
    (h : (table.step action).1 = .error error) : (table.step action).2 = table := by
  have hsettle (result : Except RouteError RouteTable)
      (hresult : (table.settle result).1 = .error error) : (table.settle result).2 = table := by
    cases result with
    | ok next => cases hresult
    | error error => rfl
  cases action with
  | learn adapters message reception =>
    have howner := learn_eq_error h
    simp only [step, learn_snd, howner]
  | hear adapters key path now => exact hsettle _ h
  | setPersistent adapters key path persistent now => exact hsettle _ h
  | setSilent key silent => cases h
  | recordData adapters message reception => cases h
  | sweep now => cases h
  | takeEvents => cases h

/-- In every table that its operations made from the empty one, each adapter heads at most one
bucket, no bucket is empty, every route stands in the bucket of its adapter, no two routes share a
key, the persistent routes are online, and a lookup finds a route wherever it stands. A failed
operation changes neither the table nor its pending events. -/
theorem representation_after (timeout : Nat) (actions : List Action) :
    let table := (empty timeout).after actions
    (table.buckets.map (·.1)).Nodup ∧
      (∀ bucket ∈ table.buckets,
        bucket.2 ≠ [] ∧ ∀ route ∈ bucket.2, route.key.adapter = bucket.1) ∧
      (table.routes.map (·.key)).Nodup ∧
      (∀ route ∈ table.routes, route.persistent = true → route.online = true) ∧
      (∀ key route, table.find? key = some route ↔ route ∈ table.routes ∧ route.key = key) ∧
      ∀ action error, (table.step action).1 = .error error → (table.step action).2 = table := by
  intro table
  have h : table.Coherent := (coherent_empty timeout).after actions
  refine ⟨h.nodup_adapters,
    fun bucket hbucket => ⟨h.filled bucket hbucket, h.placed bucket hbucket⟩, h.nodup_routes,
    fun route hroute => ?_, fun _ _ => h.find?_eq_some_iff, fun _ _ => step_eq_error⟩
  obtain ⟨id, honline⟩ := h.persistent_online.of_mem hroute
  exact honline

end RouteTable
end RouteDiscovery

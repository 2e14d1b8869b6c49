import RouteDiscovery.Proofs.Route.Coherence

/-!
What a table keeps for ever. Buckets and routes keep their places, new ones stand behind them, and a
route keeps its key, its path and its mtu. Each of its other fields is changed by some actions only.
-/
namespace RouteDiscovery

/-- The fields of a route that can change. -/
inductive RouteField where
  | online
  | persistent
  | silent
  | lastDiscovery
  | lastData

/-- Both routes have the same in the field. -/
def RouteField.Same (old new : Route) : RouteField → Prop
  | online => new.online = old.online
  | persistent => new.persistent = old.persistent
  | silent => new.silent = old.silent
  | lastDiscovery => new.lastDiscovery = old.lastDiscovery
  | lastData => new.lastData = old.lastData

/-- The new route is the old one with changes in some fields at most. -/
structure Route.Keeps (may : RouteField → Prop) (old new : Route) : Prop where
  key_eq : new.key = old.key
  path_eq : new.path = old.path
  mtu_eq : new.mtu = old.mtu
  same : ∀ field, ¬ may field → field.Same old new

namespace Route
variable {may more : RouteField → Prop} {old new last : Route}

theorem keeps_refl (may : RouteField → Prop) (route : Route) : Keeps may route route :=
  ⟨rfl, rfl, rfl, fun field _ => by cases field <;> rfl⟩

theorem Keeps.trans (h : Keeps may old new) (h' : Keeps may new last) : Keeps may old last where
  key_eq := h'.key_eq.trans h.key_eq
  path_eq := h'.path_eq.trans h.path_eq
  mtu_eq := h'.mtu_eq.trans h.mtu_eq
  same field hfield := by
    have hfirst := h.same field hfield
    have hsecond := h'.same field hfield
    cases field <;> exact hsecond.trans hfirst

theorem Keeps.mono (h : Keeps may old new) (himp : ∀ field, may field → more field) :
    Keeps more old new where
  key_eq := h.key_eq
  path_eq := h.path_eq
  mtu_eq := h.mtu_eq
  same field hfield := h.same field fun hmay => hfield (himp field hmay)

end Route

namespace RouteTable
variable {adapters : AdapterTable} {table next last : RouteTable} {key : RouteKey}
  {path : List UInt16} {now : Time} {f : AdapterId → Route → Route}
  {may more : RouteKey → RouteField → Prop}

/-- The action may change the field of the route with the key. -/
def Action.Affects (key : RouteKey) : RouteField → Action → Prop
  | .silent, .setSilent other _ => other = key
  | .persistent, .setPersistent _ other _ _ _ => other = key
  | .lastDiscovery, .learn adapters message reception =>
    ∃ adapter, adapters.owner? reception.recipient = some adapter ∧
      ∃ path, (key, path) ∈ told message adapter.id reception.sender.address
  | .lastDiscovery, .hear _ other _ _ => other = key
  | .lastDiscovery, .setPersistent _ other _ _ _ => other = key
  | .lastData, .recordData adapters message reception =>
    (∃ adapter, adapters.owner? reception.recipient = some adapter ∧ adapter.id = key.adapter) ∧
      key.node = ⟨message.sender, reception.sender.address⟩
  | .online, .sweep _ => True
  | .online, .setPersistent _ other _ _ _ => other = key
  | _, _ => False

/-- Every bucket and every route of the table is in its old place in the next one, and a route has
changed only in the fields that may change. -/
structure Extends (may : RouteKey → RouteField → Prop) (table next : RouteTable) : Prop where
  adapters_kept : table.buckets.map (·.1) <+: next.buckets.map (·.1)
  routes_kept : ∀ id (place : Nat) route, (table.onAdapter id)[place]? = some route →
    ∃ new, (next.onAdapter id)[place]? = some new ∧ Route.Keeps (may route.key) route new

section Extends

theorem extends_refl (may : RouteKey → RouteField → Prop) (table : RouteTable) :
    Extends may table table :=
  ⟨List.prefix_refl _, fun _ _ route hroute => ⟨route, hroute, Route.keeps_refl _ route⟩⟩

theorem Extends.trans (h : Extends may table next) (h' : Extends may next last) :
    Extends may table last where
  adapters_kept := h.adapters_kept.trans h'.adapters_kept
  routes_kept id place route hroute := by
    obtain ⟨new, hnew, hkeeps⟩ := h.routes_kept id place route hroute
    obtain ⟨final, hfinal, hkeeps'⟩ := h'.routes_kept id place new hnew
    rw [hkeeps.key_eq] at hkeeps'
    exact ⟨final, hfinal, hkeeps.trans hkeeps'⟩

theorem Extends.mono (h : Extends may table next)
    (himp : ∀ key field, may key field → more key field) : Extends more table next where
  adapters_kept := h.adapters_kept
  routes_kept id place route hroute := by
    obtain ⟨new, hnew, hkeeps⟩ := h.routes_kept id place route hroute
    exact ⟨new, hnew, hkeeps.mono (himp route.key)⟩

/-- Only the buckets matter. -/
theorem Extends.congr (h : Extends may table next) (hbuckets : last.buckets = next.buckets) :
    Extends may table last := by
  obtain ⟨hadapters, hkept⟩ := h
  constructor <;> simpa only [onAdapter, hbuckets]

theorem Extends.keys_kept (h : Extends may table next) (id : AdapterId) :
    (table.onAdapter id).map (·.key) <+: (next.onAdapter id).map (·.key) := by
  rw [List.prefix_iff_getElem?]
  intro place hplace
  rw [List.length_map] at hplace
  obtain ⟨new, hnew, hkeeps⟩ := h.routes_kept id place _ (List.getElem?_eq_getElem hplace)
  simp [hnew, hkeeps.key_eq]

/-- Routes that change in their places stay there. -/
theorem extends_recast (hbuckets : next.buckets = table.recast f)
    (hkeeps : ∀ id, ∀ route ∈ table.onAdapter id,
      Route.Keeps (may route.key) route (f id route)) : Extends may table next where
  adapters_kept := by
    have hsame : next.buckets.map (·.1) = table.buckets.map (·.1) := by
      simp [hbuckets, recast]
    simp only [hsame, List.prefix_refl]
  routes_kept id place route hroute := by
    rw [onAdapter_recast hbuckets, List.getElem?_map, hroute]
    exact ⟨f id route, rfl, hkeeps id route (List.mem_of_getElem? hroute)⟩

theorem extends_modify {change : Route → Route}
    (hkeeps : ∀ route ∈ table.onAdapter key.adapter, route.key = key →
      Route.Keeps (may key) route (change route)) :
    Extends may table (table.modify key change) := by
  apply extends_recast (buckets_modify key change table)
  intro id route hroute
  split_ifs with hid hkey
  · rw [hkey]
    exact hkeeps route (hid ▸ hroute) hkey
  · exact Route.keeps_refl _ route
  · exact Route.keeps_refl _ route

/-- A new route stands behind the others. -/
theorem extends_insert (route : Route) (table : RouteTable) :
    Extends may table (table.insert route) where
  adapters_kept := by
    rw [buckets_insert]
    split_ifs
    · simp only [adapters_adjust, List.prefix_refl]
    · rw [List.map_append]
      exact List.prefix_append _ _
  routes_kept id place old hold := by
    refine ⟨old, ?_, Route.keeps_refl _ old⟩
    rw [onAdapter_insert]
    split_ifs
    · obtain ⟨hplace, -⟩ := List.getElem?_eq_some_iff.mp hold
      rw [List.getElem?_append_left hplace]
      exact hold
    · exact hold

theorem extends_heard {told : RouteKey × List UInt16} (hmay : may told.1 .lastDiscovery) :
    Extends may table (table.heard adapters now told) := by
  unfold heard
  cases hhear : table.hear adapters told.1 told.2 now with
  | error error => exact extends_refl may table
  | ok next =>
    obtain ⟨adapter, -, ⟨-, rfl⟩ | ⟨-, rfl⟩⟩ := hear_cases hhear
    · exact extends_insert _ table
    · apply extends_modify
      intro route _ _
      refine ⟨rfl, rfl, rfl, fun field hfield => ?_⟩
      cases field with
      | lastDiscovery => exact absurd hmay hfield
      | _ => rfl

theorem extends_foldl_heard {told : List (RouteKey × List UInt16)}
    (hmay : ∀ pair ∈ told, may pair.1 .lastDiscovery) :
    Extends may table (told.foldl (heard adapters now) table) := by
  induction told generalizing table with
  | nil => exact extends_refl may table
  | cons first rest ih =>
    rw [List.forall_mem_cons] at hmay
    exact (extends_heard hmay.1).trans (ih hmay.2)

theorem extends_learn {message : Discovery} {reception : Reception}
    (hmay : ∀ adapter, adapters.owner? reception.recipient = some adapter →
      ∀ pair ∈ told message adapter.id reception.sender.address, may pair.1 .lastDiscovery) :
    Extends may table (table.learn adapters message reception).2 := by
  rw [learn_snd]
  cases howner : adapters.owner? reception.recipient with
  | none => exact extends_refl may table
  | some adapter => exact extends_foldl_heard (hmay adapter howner)

theorem Coherent.extends_setPersistent (h : table.Coherent) {persistent : Bool}
    (hok : table.setPersistent adapters key path persistent now = .ok next)
    (hheard : may key .lastDiscovery) (hmarked : may key .persistent) (honline : may key .online) :
    Extends may table next := by
  obtain ⟨heard, route, rfl, hroute, -, hbuckets, -⟩ := setPersistent_eq_ok hok
  have hcoherent : (table.heard adapters now (key, path)).Coherent := h.heard (key, path)
  refine (extends_heard hheard).trans (Extends.congr (extends_modify ?_) hbuckets)
  intro old hold hkey
  -- The marked route is the one that the change meets.
  have hfound := hcoherent.find?_eq_some_iff.mpr ⟨(hcoherent.mem_onAdapter_iff.mp hold).1, hkey⟩
  obtain rfl : route = old := Option.some.inj (hroute.symm.trans hfound)
  refine ⟨rfl, rfl, rfl, fun field hfield => ?_⟩
  cases field with
  | online => exact absurd honline hfield
  | persistent => exact absurd hmarked hfield
  | _ => rfl

theorem Coherent.extends_recordData (h : table.Coherent) {message : DataMessage}
    {reception : Reception}
    (hmay : ∀ adapter key, adapters.owner? reception.recipient = some adapter →
      adapter.id = key.adapter → key.node = ⟨message.sender, reception.sender.address⟩ →
        may key .lastData) :
    Extends may table (table.recordData adapters message reception).2 := by
  apply extends_recast (buckets_recordData adapters message reception table)
  intro id route hroute
  have hid := (h.mem_onAdapter_iff.mp hroute).2
  unfold dataHeard
  cases howner : adapters.owner? reception.recipient with
  | none => exact Route.keeps_refl _ route
  | some adapter =>
    simp only
    split_ifs with hadapter hnode
    · refine ⟨rfl, rfl, rfl, fun field hfield => ?_⟩
      cases field with
      | lastData =>
        exact absurd (hmay adapter route.key howner (hadapter.symm.trans hid.symm) hnode) hfield
      | _ => rfl
    · exact Route.keeps_refl _ route
    · exact Route.keeps_refl _ route

theorem extends_setSilent {silent : Bool} (hmay : may key .silent) :
    Extends may table (table.setSilent key silent).2 := by
  apply extends_modify
  intro route _ _
  refine ⟨rfl, rfl, rfl, fun field hfield => ?_⟩
  cases field with
  | silent => exact absurd hmay hfield
  | _ => rfl

theorem extends_sweep (hmay : ∀ key, may key .online) (now : Time) :
    Extends may table (table.sweep now).2 := by
  apply extends_recast (buckets_sweep now table)
  intro id route _
  refine ⟨rfl, rfl, rfl, fun field hfield => ?_⟩
  cases field with
  | online => exact absurd (hmay route.key) hfield
  | _ => rfl

theorem extends_settle {result : Except RouteError RouteTable}
    (h : ∀ next, result = .ok next → Extends may table next) :
    Extends may table (table.settle result).2 := by
  cases result with
  | ok next => exact h next rfl
  | error error => exact extends_refl may table

/-- One action changes what it affects. -/
theorem Coherent.extends_step (h : table.Coherent) (action : Action) :
    Extends (fun key field => action.Affects key field) table (table.step action).2 := by
  cases action with
  | learn adapters message reception =>
    apply extends_learn
    intro adapter howner pair hpair
    exact ⟨adapter, howner, pair.2, hpair⟩
  | hear adapters key path now =>
    apply extends_settle
    intro next hhear
    rw [← heard_of_hear hhear]
    exact extends_heard rfl
  | setPersistent adapters key path persistent now =>
    exact extends_settle fun next hok => h.extends_setPersistent hok rfl rfl rfl
  | setSilent key silent => exact extends_setSilent rfl
  | recordData adapters message reception =>
    apply h.extends_recordData
    intro adapter key howner hid hnode
    exact ⟨⟨adapter, howner, hid⟩, hnode⟩
  | sweep now => exact extends_sweep (fun _ => trivial) now
  | takeEvents => exact (extends_refl _ table).congr rfl

theorem Coherent.extends_after (h : table.Coherent) (actions : List Action) :
    Extends (fun key field => ∃ action ∈ actions, action.Affects key field) table
      (table.after actions) := by
  induction actions generalizing table with
  | nil => exact extends_refl _ table
  | cons first rest ih =>
    have hfirst : Extends (fun key field => ∃ action ∈ first :: rest, action.Affects key field)
        table (table.step first).2 :=
      (h.extends_step first).mono fun _ _ haffects => ⟨first, List.mem_cons_self, haffects⟩
    have hrest : Extends (fun key field => ∃ action ∈ first :: rest, action.Affects key field)
        (table.step first).2 ((table.step first).2.after rest) := by
      apply (ih (h.step first)).mono
      rintro key field ⟨action, haction, haffects⟩
      exact ⟨action, List.mem_cons_of_mem first haction, haffects⟩
    exact hfirst.trans hrest

end Extends

/-- Of any two tables of a run, the earlier one is found again in the later one: its adapters head
those of the later one, on each adapter its keys head the later ones, and each of its routes keeps
its key, path and mtu. A field of a route differs only if an action between them affects it. -/
theorem append_only (timeout : Nat) (actions more : List Action) :
    let table := (empty timeout).after actions
    let later := table.after more
    table.buckets.map (·.1) <+: later.buckets.map (·.1) ∧
      (∀ id, (table.onAdapter id).map (·.key) <+: (later.onAdapter id).map (·.key)) ∧
      ∀ route ∈ table.routes, ∃ new ∈ later.routes,
        new.key = route.key ∧ new.path = route.path ∧ new.mtu = route.mtu ∧
        ∀ field : RouteField, (∀ action ∈ more, ¬ action.Affects route.key field) →
          field.Same route new := by
  intro table later
  have hcoherent : table.Coherent := (coherent_empty timeout).after actions
  have hextends := hcoherent.extends_after more
  refine ⟨hextends.adapters_kept, hextends.keys_kept, ?_⟩
  intro route hroute
  have hplaced : route ∈ table.onAdapter route.key.adapter :=
    hcoherent.mem_onAdapter_iff.mpr ⟨hroute, rfl⟩
  obtain ⟨place, hplace⟩ := List.mem_iff_getElem?.mp hplaced
  obtain ⟨new, hnew, hkeeps⟩ := hextends.routes_kept _ place route hplace
  have hmem : new ∈ later.routes :=
    ((hcoherent.after more).mem_onAdapter_iff.mp (List.mem_of_getElem? hnew)).1
  refine ⟨new, hmem, hkeeps.key_eq, hkeeps.path_eq, hkeeps.mtu_eq, fun field hfield => ?_⟩
  apply hkeeps.same
  rintro ⟨action, haction, haffects⟩
  exact hfield action haction haffects

end RouteTable
end RouteDiscovery

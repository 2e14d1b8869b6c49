import RouteDiscovery.Proofs.Route.Replica

/-!
What a sweep does to a table. It sets every flag by the time and what was heard of the route, tells
of each flag that this changes, and touches nothing else. Sweeps that follow one another on a clock
that is not set back only ever find routes that have lapsed, each of them once.
-/
namespace RouteDiscovery

namespace Route
variable {now later : Time} {timeout : Nat} {route : Route}

theorem isFresh_iff : route.isFresh now timeout = true ↔
    elapsed now route.lastDiscovery < timeout ∨
      ∃ last, route.lastData = some last ∧ elapsed now last < timeout := by
  unfold isFresh
  cases route.lastData <;> simp

theorem shouldBeOnline_iff : route.shouldBeOnline now timeout = true ↔
    route.persistent = true ∨ elapsed now route.lastDiscovery < timeout ∨
      ∃ last, route.lastData = some last ∧ elapsed now last < timeout := by
  rw [shouldBeOnline, Bool.or_eq_true, isFresh_iff]

/-- What is to be offline stays so until something is heard of it. -/
theorem shouldBeOnline_of_le (hle : now ≤ later)
    (honline : route.shouldBeOnline later timeout = true) :
    route.shouldBeOnline now timeout = true := by
  have hearlier (since : Time) (h : elapsed later since < timeout) :
      elapsed now since < timeout :=
    Nat.lt_of_le_of_lt (Int.toNat_le_toNat (Int.sub_le_sub_right hle since)) h
  rw [shouldBeOnline_iff] at honline ⊢
  rcases honline with hpersistent | hdiscovery | ⟨last, hlast, hdata⟩
  · exact .inl hpersistent
  · exact .inr (.inl (hearlier _ hdiscovery))
  · exact .inr (.inr ⟨last, hlast, hearlier _ hdata⟩)

end Route

namespace RouteTable
variable {table : RouteTable} {now later : Time} {route : Route} {event : RouteEvent}

/-- The table apart from what a sweep may change. -/
def unflagged (table : RouteTable) : RouteTable :=
  { table with
    buckets := table.buckets.map fun bucket =>
      (bucket.1, bucket.2.map fun route => { route with online := false })
    events := [] }

/-- The changes of liveness from one table to the next, in the order of their routes. -/
def flips (table next : RouteTable) : List RouteEvent :=
  (table.routes.zip next.routes).filterMap fun (old, new) =>
    if old.online = new.online then none else some (.livenessChanged old.online new)

theorem exists_of_mem_flips {next : RouteTable} (h : event ∈ table.flips next) :
    ∃ wasOnline route, event = .livenessChanged wasOnline route := by
  obtain ⟨⟨old, new⟩, -, hevent⟩ := List.mem_filterMap.mp h
  rw [Option.ite_none_left_eq_some] at hevent
  exact ⟨old.online, new, (Option.some.inj hevent.2).symm⟩

/-- No action changes how long a route stays online. -/
theorem timeout_step (table : RouteTable) (action : Action) :
    (table.step action).2.timeout = table.timeout := by
  have hsettle {result : Except RouteError RouteTable}
      (hresult : ∀ next, result = .ok next → next.timeout = table.timeout) :
      (table.settle result).2.timeout = table.timeout := by
    cases result with
    | ok next => exact hresult next rfl
    | error error => rfl
  cases action with
  | learn adapters message reception =>
    show (table.learn adapters message reception).2.timeout = table.timeout
    unfold learn
    split
    · rfl
    · exact timeout_hearAll _ _ _ _
  | hear adapters key path now =>
    apply hsettle
    intro next hhear
    rw [← heard_of_hear hhear, timeout_heard]
  | setPersistent adapters key path persistent now =>
    exact hsettle fun _ hok => timeout_setPersistent hok
  | setSilent key silent => rfl
  | recordData adapters message reception => exact timeout_recordData _ _ _ _
  | sweep now => rfl
  | takeEvents => rfl

theorem timeout_after (table : RouteTable) (actions : List Action) :
    (table.after actions).timeout = table.timeout := by
  induction actions generalizing table with
  | nil => rfl
  | cons first rest ih => exact (ih (table.step first).2).trans (timeout_step table first)

section Sweep

theorem routes_sweep (now : Time) (table : RouteTable) :
    (table.sweep now).2.routes = table.routes.map (swept now table.timeout) := by
  simp only [routes, sweep, List.flatMap_map, List.map_flatMap]

theorem flips_sweep (now : Time) (table : RouteTable) :
    table.flips (table.sweep now).2 = Replica.changes (swept now table.timeout) table.routes := by
  rw [flips, routes_sweep, List.zip_map_right, List.zip_eq_zipWith, List.zipWith_self]
  simp only [List.filterMap_map, Function.comp_def, Replica.changes]
  rfl

/-- A sweep tells of each flag that it changes. -/
theorem events_sweep (now : Time) (table : RouteTable) :
    (table.sweep now).2.events = table.events ++ table.flips (table.sweep now).2 := by
  rw [flips_sweep]
  rfl

theorem sweep_fst (now : Time) (table : RouteTable) :
    (table.sweep now).1 = (table.flips (table.sweep now).2).length := by
  rw [flips_sweep]
  rfl

theorem unflagged_sweep (now : Time) (table : RouteTable) :
    (table.sweep now).2.unflagged = table.unflagged := by
  simp only [unflagged, sweep, List.map_map, Function.comp_def, swept]

/-- Every flag is as it should be at the time. -/
def Settled (now : Time) (table : RouteTable) : Prop :=
  ∀ route ∈ table.routes, route.online = route.shouldBeOnline now table.timeout

theorem settled_sweep (now : Time) (table : RouteTable) : (table.sweep now).2.Settled now := by
  intro route hroute
  obtain ⟨-, honline⟩ := (all_sweep_online now table).of_mem hroute
  exact honline

theorem Settled.swept_eq (h : table.Settled now) (hroute : route ∈ table.routes) :
    swept now table.timeout route = route := by
  rw [swept, ← h route hroute]

/-- Where every flag is right already, a sweep does nothing. -/
theorem Settled.sweep_eq (h : table.Settled now) : table.sweep now = (0, table) := by
  have hflips : Replica.changes (swept now table.timeout) table.routes = [] := by
    unfold Replica.changes
    rw [List.filterMap_eq_nil_iff]
    intro route hroute
    rw [h.swept_eq hroute, if_pos rfl]
  have hbuckets : (table.recast fun _ => swept now table.timeout) = table.buckets := by
    unfold recast
    conv_rhs => rw [← List.map_id table.buckets]
    apply List.map_congr_left
    intro bucket hbucket
    have hroutes : bucket.2.map (swept now table.timeout) = bucket.2 := by
      conv_rhs => rw [← List.map_id bucket.2]
      apply List.map_congr_left
      intro route hroute
      exact h.swept_eq (List.mem_flatMap.mpr ⟨bucket, hbucket, hroute⟩)
    rw [hroutes]
    rfl
  have hsweep : table.sweep now = ((Replica.changes (swept now table.timeout) table.routes).length,
      { table with
        buckets := table.recast fun _ => swept now table.timeout
        events := table.events ++ Replica.changes (swept now table.timeout) table.routes }) := rfl
  rw [hsweep, hflips, hbuckets, List.append_nil]
  rfl

/-- On a clock that is not set back, a route that is online after a sweep was so before it, and
unchanged. -/
theorem Settled.of_online (h : table.Settled now) (hle : now ≤ later)
    (hroute : route ∈ (table.sweep later).2.routes) (honline : route.online = true) :
    route ∈ table.routes := by
  rw [routes_sweep] at hroute
  obtain ⟨old, hold, rfl⟩ := List.mem_map.mp hroute
  have hwas : old.online = true := by
    rw [h old hold]
    exact Route.shouldBeOnline_of_le hle honline
  have hsame : swept later table.timeout old = old := by
    have hshould : old.shouldBeOnline later table.timeout = old.online := honline.trans hwas.symm
    rw [swept, hshould]
  rwa [hsame]

/-- The event tells that a route of the table that was online has lapsed. -/
def Lapse (table : RouteTable) (event : RouteEvent) : Prop :=
  ∃ route ∈ table.routes, route.online = true ∧
    event = .livenessChanged true { route with online := false }

/-- On a clock that is not set back, a sweep behind another one finds only lapses, of routes that
are offline from then on. -/
theorem Settled.lapse_of_mem_flips (h : table.Settled now) (hle : now ≤ later)
    (hevent : event ∈ table.flips (table.sweep later).2) :
    table.Lapse event ∧
      ∃ route ∈ (table.sweep later).2.routes, route.key = event.key ∧ route.online = false := by
  rw [flips_sweep, Replica.changes, List.mem_filterMap] at hevent
  obtain ⟨route, hroute, hflip⟩ := hevent
  rw [Option.ite_none_left_eq_some] at hflip
  obtain ⟨hdiffers, hflip⟩ := hflip
  obtain rfl := Option.some.inj hflip
  have honline : route.online = true := by
    by_contra hoffline
    apply hdiffers
    rw [Bool.not_eq_true] at hoffline
    rw [hoffline, eq_comm, ← Bool.not_eq_true]
    intro hshould
    rw [h route hroute, Route.shouldBeOnline_of_le hle hshould] at hoffline
    cases hoffline
  have hlapsed : (swept later table.timeout route).online = false := by
    rw [honline] at hdiffers
    exact Bool.eq_false_iff.mpr (Ne.symm hdiffers)
  have hswept : swept later table.timeout route = { route with online := false } := by
    rw [← hlapsed]
    rfl
  refine ⟨⟨route, hroute, honline, ?_⟩, _, ?_, rfl, hlapsed⟩
  · rw [honline, hswept]
  · rw [routes_sweep]
    exact List.mem_map_of_mem hroute

theorem Coherent.nodup_flips (h : table.Coherent) (now : Time) :
    ((table.flips (table.sweep now).2).map RouteEvent.key).Nodup := by
  have hkey (route : Route) : (swept now table.timeout route).key = route.key := rfl
  rw [flips_sweep]
  exact h.nodup_routes.sublist (Replica.keys_changes_sublist hkey table.routes)

/-- Sweeps behind one another on a clock that is not set back find lapses only, and none of a route
that has lapsed before. -/
theorem Settled.lapses (h : table.Settled now) (hcoherent : table.Coherent) {times : List Time}
    (htimes : (now :: times).Pairwise (· ≤ ·)) :
    ∃ lapses, (table.after (times.map .sweep)).events = table.events ++ lapses ∧
      (∀ event ∈ lapses, table.Lapse event) ∧ (lapses.map RouteEvent.key).Nodup := by
  induction times generalizing now table with
  | nil => exact ⟨[], (List.append_nil _).symm, by simp, List.nodup_nil⟩
  | cons later rest ih =>
    obtain ⟨hnow, hrest⟩ := List.pairwise_cons.mp htimes
    have hle : now ≤ later := hnow later List.mem_cons_self
    obtain ⟨lapses, hevents, hlapses, hnodup⟩ :=
      ih (settled_sweep later table) (hcoherent.sweep later) hrest
    refine ⟨table.flips (table.sweep later).2 ++ lapses, ?_, ?_, ?_⟩
    · rw [← List.append_assoc, ← events_sweep]
      exact hevents
    · intro event hevent
      rcases List.mem_append.mp hevent with hflip | hlapse
      · exact (h.lapse_of_mem_flips hle hflip).1
      · obtain ⟨route, hroute, honline, rfl⟩ := hlapses event hlapse
        exact ⟨route, h.of_online hle hroute honline, honline, rfl⟩
    · rw [List.map_append, List.nodup_append]
      refine ⟨hcoherent.nodup_flips later, hnodup, ?_⟩
      -- What lapses now is offline behind the sweep, and what lapses later is online there.
      rintro key hflip _ hlapse rfl
      obtain ⟨event, hevent, rfl⟩ := List.mem_map.mp hflip
      obtain ⟨other, hother, hkey⟩ := List.mem_map.mp hlapse
      obtain ⟨-, route, hroute, hroutekey, hoffline⟩ := h.lapse_of_mem_flips hle hevent
      obtain ⟨last, hlast, honline, rfl⟩ := hlapses other hother
      have hsame : route = last := List.inj_on_of_nodup_map
        (hcoherent.sweep later).nodup_routes hroute hlast (hroutekey.trans hkey.symm)
      rw [hsame, honline] at hoffline
      cases hoffline

end Sweep

/-- Behind a sweep a route is online just if it is persistent, or a discovery or a data message was
heard of it less than the timeout ago. Nothing but flags and events has changed, the new events are
the changes of the flags in the order of the routes, and the sweep has counted them. Another sweep
at the same time does nothing. Any later ones, on a clock that is not set back, only tell of routes
that were online and have gone offline, each of them once. -/
theorem sweep_settles (timeout : Nat) (actions : List Action) (now : Time) (times : List Time) :
    let table := (empty timeout).after actions
    let next := (table.sweep now).2
    (∀ route ∈ next.routes, route.online = true ↔
        route.persistent = true ∨ elapsed now route.lastDiscovery < timeout ∨
          ∃ last, route.lastData = some last ∧ elapsed now last < timeout) ∧
      next.unflagged = table.unflagged ∧
      next.events = table.events ++ table.flips next ∧
      (table.sweep now).1 = (table.flips next).length ∧
      next.sweep now = (0, next) ∧
      ((now :: times).Pairwise (· ≤ ·) →
        ∃ lapses, (next.after (times.map .sweep)).events = next.events ++ lapses ∧
          (∀ event ∈ lapses, ∃ route ∈ next.routes, route.online = true ∧
            event = .livenessChanged true { route with online := false }) ∧
          (lapses.map RouteEvent.key).Nodup) := by
  intro table next
  have htimeout : next.timeout = timeout := timeout_after (empty timeout) actions
  have hcoherent : table.Coherent := (coherent_empty timeout).after actions
  have hsettled : next.Settled now := settled_sweep now table
  refine ⟨fun route hroute => ?_, unflagged_sweep now table, events_sweep now table,
    sweep_fst now table, hsettled.sweep_eq, hsettled.lapses (hcoherent.sweep now)⟩
  rw [hsettled route hroute, Route.shouldBeOnline_iff, htimeout]

/-- Three nodes are heard of at 0, then the first one sends data at 40 and the second one is made
persistent. The third one lapses at 120, the first one at 200. -/
theorem sweep_settles_lapses :
    let adapters : AdapterTable :=
      .ofList [{ id := ⟨"e0"⟩, name := "e0", addresses := [⟨⟨0x0a000001⟩, ⟨0xffffff00⟩⟩] }]
    let heard (id : UInt16) (sender : Address) : Action :=
      .learn adapters ⟨id, []⟩ ⟨⟨sender, 54321⟩, ⟨0x0a000001⟩, 0⟩
    let table := (empty 100).after [heard 2 ⟨0x0a000002⟩, heard 3 ⟨0x0a000003⟩,
      heard 4 ⟨0x0a000004⟩, .recordData adapters ⟨2, []⟩ ⟨⟨⟨0x0a000002⟩, 54321⟩, ⟨0x0a000001⟩, 40⟩,
      .setPersistent adapters ⟨⟨3, ⟨0x0a000003⟩⟩, ⟨"e0"⟩, ⟨0x0a000003⟩⟩ [] true 50]
    let next := (table.sweep 99).2
    let last := next.after ([120, 150, 200].map .sweep)
    ([99, 120, 150, 200] : List Time).Pairwise (· ≤ ·) ∧ next.events.length = 3 ∧
      (∃ lapses, last.events = next.events ++ lapses ∧
        (∀ event ∈ lapses, ∃ route ∈ next.routes, route.online = true ∧
          event = .livenessChanged true { route with online := false }) ∧
        (lapses.map RouteEvent.key).Nodup) ∧
      (last.events.drop 3).map (·.key.node.id) = [4, 2] := by
  intro adapters heard table next last
  have htimes : ([99, 120, 150, 200] : List Time).Pairwise (· ≤ ·) := by decide
  obtain ⟨-, -, -, -, -, hlapses⟩ := sweep_settles 100 _ 99 [120, 150, 200]
  exact ⟨htimes, by decide +kernel, hlapses htimes, by decide +kernel⟩

end RouteTable
end RouteDiscovery

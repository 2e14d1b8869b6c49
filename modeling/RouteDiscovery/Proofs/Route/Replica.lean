import RouteDiscovery.Proofs.Route.Coherence

/-!
The events of a route table are enough to rebuild it. A replica that starts from nothing and takes
one event after the other knows the keys of every adapter in their order, and which of the routes
are online.
-/
namespace RouteDiscovery

namespace RouteEvent

def key : RouteEvent → RouteKey
  | .discovered route => route.key
  | .livenessChanged _ route => route.key

/-- The events about one route. -/
def about (key : RouteKey) (events : List RouteEvent) : List RouteEvent :=
  events.filter (·.key = key)

theorem about_cons (key : RouteKey) (event : RouteEvent) (events : List RouteEvent) :
    about key (event :: events) =
      if event.key = key then event :: about key events else about key events := by
  simp [about, List.filter_cons]

/-- The events are changes of liveness, each of what the one before it left, that lead from the one
flag to the other. -/
def Alternate : Bool → List RouteEvent → Bool → Prop
  | online, [], last => online = last
  | _, .discovered _ :: _, _ => False
  | online, .livenessChanged wasOnline _ :: rest, last =>
    wasOnline = online ∧ Alternate (!online) rest last

/-- A route that comes to be known is discovered once, online, and its liveness alternates from
there; of one that does not, nothing is told. -/
def Ordered (events : List RouteEvent) : Option Bool → Prop
  | none => events = []
  | some last =>
    ∃ first changes, events = .discovered first :: changes ∧ Alternate true changes last

end RouteEvent

/-- What can be known of a route table from its events. -/
structure Replica where
  keys : AdapterId → List RouteKey := fun _ => []
  online : RouteKey → Bool := fun _ => false

namespace Replica

def Knows (key : RouteKey) (replica : Replica) : Prop :=
  key ∈ replica.keys key.adapter

instance (key : RouteKey) (replica : Replica) : Decidable (replica.Knows key) :=
  inferInstanceAs (Decidable (key ∈ replica.keys key.adapter))

/-- Puts a route behind the others of its adapter. -/
def append (key : RouteKey) (replica : Replica) : Replica where
  keys id := if id = key.adapter then replica.keys id ++ [key] else replica.keys id
  online other := if other = key then true else replica.online other

def setOnline (key : RouteKey) (online : Bool) (replica : Replica) : Replica :=
  { replica with online := fun other => if other = key then online else replica.online other }

/-- A discovery is taken of a route that is not known, and a change of liveness of one that is known
and was as it says. -/
def take? (replica : Replica) : RouteEvent → Option Replica
  | .discovered route => if replica.Knows route.key then none else some (replica.append route.key)
  | .livenessChanged wasOnline route =>
    if replica.Knows route.key ∧ replica.online route.key = wasOnline then
      some (replica.setOnline route.key !wasOnline)
    else none

/-- Takes one event after the other, if all of them can be taken. -/
def replay (replica : Replica) (events : List RouteEvent) : Option Replica :=
  events.foldlM take? replica

variable {replica next last : Replica} {key : RouteKey} {event : RouteEvent}
  {events : List RouteEvent}

theorem replay_cons (event : RouteEvent) (events : List RouteEvent) (replica : Replica) :
    replica.replay (event :: events) = (replica.take? event).bind (·.replay events) := rfl

theorem replay_append (front back : List RouteEvent) (replica : Replica) :
    replica.replay (front ++ back) = (replica.replay front).bind (·.replay back) :=
  List.foldlM_append

@[simp] theorem online_append (key other : RouteKey) (replica : Replica) :
    (replica.append key).online other = if other = key then true else replica.online other := rfl

@[simp] theorem online_setOnline (key other : RouteKey) (online : Bool) (replica : Replica) :
    (replica.setOnline key online).online other =
      if other = key then online else replica.online other := rfl

@[simp] theorem knows_append (key other : RouteKey) (replica : Replica) :
    (replica.append key).Knows other ↔ replica.Knows other ∨ other = key := by
  unfold Knows append
  by_cases hother : other.adapter = key.adapter
  · simp [hother]
  · have hdiffers : other ≠ key := fun hsame => hother (hsame ▸ rfl)
    simp [hother, hdiffers]

@[simp] theorem knows_setOnline (key other : RouteKey) (online : Bool) (replica : Replica) :
    (replica.setOnline key online).Knows other ↔ replica.Knows other := Iff.rfl

theorem take?_discovered {route : Route} (h : replica.take? (.discovered route) = some next) :
    ¬ replica.Knows route.key ∧ next = replica.append route.key := by
  simp only [take?, Option.ite_none_left_eq_some, Option.some.injEq] at h
  exact ⟨h.1, h.2.symm⟩

theorem take?_livenessChanged {wasOnline : Bool} {route : Route}
    (h : replica.take? (.livenessChanged wasOnline route) = some next) :
    replica.Knows route.key ∧ replica.online route.key = wasOnline ∧
      next = replica.setOnline route.key !wasOnline := by
  simp only [take?, Option.ite_none_right_eq_some, Option.some.injEq] at h
  exact ⟨h.1.1, h.1.2, h.2.symm⟩

/-- An event changes what is known of its own route only. -/
theorem take?_other (h : replica.take? event = some next) (hkey : event.key ≠ key) :
    (next.Knows key ↔ replica.Knows key) ∧ next.online key = replica.online key := by
  have hother : key ≠ event.key := hkey.symm
  cases event with
  | discovered route =>
    obtain ⟨-, rfl⟩ := take?_discovered h
    simp_all [RouteEvent.key]
  | livenessChanged wasOnline route =>
    obtain ⟨-, -, rfl⟩ := take?_livenessChanged h
    simp_all [RouteEvent.key]

/-- Once a route is known, only its liveness changes. -/
theorem alternate_of_replay (h : replica.replay events = some last) (hknown : replica.Knows key) :
    last.Knows key ∧ RouteEvent.Alternate (replica.online key) (RouteEvent.about key events)
      (last.online key) := by
  induction events generalizing replica with
  | nil =>
    cases Option.some.inj h
    exact ⟨hknown, rfl⟩
  | cons event rest ih =>
    obtain ⟨next, htake, hrest⟩ := Option.bind_eq_some_iff.mp h
    by_cases hkey : event.key = key
    · rw [RouteEvent.about_cons, if_pos hkey]
      subst hkey
      cases event with
      | discovered route => exact absurd hknown (take?_discovered htake).1
      | livenessChanged wasOnline route =>
        obtain ⟨-, honline, rfl⟩ := take?_livenessChanged htake
        obtain ⟨hlast, hchanges⟩ := ih hrest hknown
        refine ⟨hlast, honline.symm, ?_⟩
        simpa [RouteEvent.key, honline] using hchanges
    · obtain ⟨hknows, honline⟩ := take?_other htake hkey
      rw [RouteEvent.about_cons, if_neg hkey, ← honline]
      exact ih hrest (hknows.mpr hknown)

/-- A route that is not known is discovered first, if anything is told of it. -/
theorem ordered_of_replay (h : replica.replay events = some last) (hunknown : ¬ replica.Knows key) :
    RouteEvent.Ordered (RouteEvent.about key events)
      (if last.Knows key then some (last.online key) else none) := by
  induction events generalizing replica with
  | nil =>
    cases Option.some.inj h
    rw [if_neg hunknown]
    rfl
  | cons event rest ih =>
    obtain ⟨next, htake, hrest⟩ := Option.bind_eq_some_iff.mp h
    by_cases hkey : event.key = key
    · rw [RouteEvent.about_cons, if_pos hkey]
      subst hkey
      cases event with
      | discovered route =>
        obtain ⟨-, rfl⟩ := take?_discovered htake
        have hknown : (replica.append route.key).Knows route.key := by simp
        obtain ⟨hlast, hchanges⟩ := alternate_of_replay hrest hknown
        rw [RouteEvent.key, if_pos hlast]
        refine ⟨route, _, rfl, ?_⟩
        simpa using hchanges
      | livenessChanged wasOnline route =>
        exact absurd (take?_livenessChanged htake).1 hunknown
    · obtain ⟨hknows, -⟩ := take?_other htake hkey
      rw [RouteEvent.about_cons, if_neg hkey]
      exact ih hrest (mt hknows.mp hunknown)

/-- The changes of liveness that come with a change of some routes. -/
def changes (change : Route → Route) (routes : List Route) : List RouteEvent :=
  routes.filterMap fun route =>
    if route.online = (change route).online then none
    else some (.livenessChanged route.online (change route))

theorem keys_changes_sublist {change : Route → Route}
    (hkey : ∀ route, (change route).key = route.key) (routes : List Route) :
    ((changes change routes).map RouteEvent.key).Sublist (routes.map (·.key)) := by
  induction routes with
  | nil => exact List.Sublist.refl _
  | cons route rest ih =>
    unfold changes at ih ⊢
    rw [List.filterMap_cons]
    split_ifs
    · exact ih.cons _
    · rw [List.map_cons, List.map_cons, RouteEvent.key, hkey]
      exact ih.cons_cons _

/-- The changes carry the flags of these routes over, and no others. -/
theorem replay_changes (change : Route → Route) {routes : List Route}
    (hkey : ∀ route ∈ routes, (change route).key = route.key)
    (hnodup : (routes.map (·.key)).Nodup) (hknown : ∀ route ∈ routes, replica.Knows route.key)
    (honline : ∀ route ∈ routes, replica.online route.key = route.online) :
    ∃ online, replica.replay (changes change routes) = some { replica with online } ∧
      (∀ route ∈ routes, online route.key = (change route).online) ∧
      ∀ key, key ∉ routes.map (·.key) → online key = replica.online key := by
  induction routes generalizing replica with
  | nil => exact ⟨replica.online, rfl, by simp, fun _ _ => rfl⟩
  | cons route rest ih =>
    obtain ⟨hfresh, hnodup⟩ := List.nodup_cons.mp hnodup
    simp only [List.forall_mem_cons] at hkey hknown honline
    by_cases hsame : route.online = (change route).online
    · obtain ⟨online, hreplay, hrest, hother⟩ := ih hkey.2 hnodup hknown.2 honline.2
      have hchanges : changes change (route :: rest) = changes change rest := by
        simp [changes, hsame]
      rw [hchanges]
      refine ⟨online, hreplay, ?_, ?_⟩
      · rw [List.forall_mem_cons]
        refine ⟨?_, hrest⟩
        rw [hother _ hfresh, honline.1, hsame]
      · intro key habsent
        exact hother key fun hmem => habsent (List.mem_cons_of_mem _ hmem)
    · have hflip : (change route).online = !route.online := by
        rw [Bool.eq_not]
        exact Ne.symm hsame
      have hchanges : changes change (route :: rest) =
          .livenessChanged route.online (change route) :: changes change rest := by
        simp [changes, hsame]
      have htake : replica.take? (.livenessChanged route.online (change route)) =
          some (replica.setOnline route.key !route.online) := by
        simp [take?, hkey.1, hknown.1, honline.1]
      have hrestKnown : ∀ other ∈ rest,
          (replica.setOnline route.key !route.online).Knows other.key := hknown.2
      have hrestOnline : ∀ other ∈ rest,
          (replica.setOnline route.key !route.online).online other.key = other.online := by
        intro other hmem
        have hdiffers : other.key ≠ route.key := fun heq =>
          hfresh (List.mem_map.mpr ⟨other, hmem, heq⟩)
        rw [online_setOnline, if_neg hdiffers, honline.2 other hmem]
      obtain ⟨online, hreplay, hrest, hother⟩ := ih hkey.2 hnodup hrestKnown hrestOnline
      rw [hchanges, replay_cons, htake]
      refine ⟨online, hreplay, ?_, ?_⟩
      · rw [List.forall_mem_cons]
        refine ⟨?_, hrest⟩
        rw [hother _ hfresh, online_setOnline, if_pos rfl, hflip]
      · intro key habsent
        simp only [List.map_cons, List.mem_cons, not_or] at habsent
        rw [hother key habsent.2, online_setOnline, if_neg habsent.1]

/-- The replica has the keys of every adapter in their order, and the flag of every route. -/
structure Shows (replica : Replica) (table : RouteTable) : Prop where
  keys_eq : ∀ id, replica.keys id = (table.onAdapter id).map (·.key)
  online_eq : ∀ route ∈ table.routes, replica.online route.key = route.online

end Replica

namespace RouteTable
variable {adapters : AdapterTable} {table next : RouteTable} {key : RouteKey}
  {path : List UInt16} {now : Time} {route : Route} {f : AdapterId → Route → Route}
  {replica : Replica}

theorem Coherent.knows_iff (h : table.Coherent) (hshows : replica.Shows table) :
    replica.Knows key ↔ ∃ route ∈ table.routes, route.key = key := by
  unfold Replica.Knows
  rw [hshows.keys_eq, List.mem_map]
  constructor
  · rintro ⟨route, hroute, hkey⟩
    exact ⟨route, (h.mem_onAdapter_iff.mp hroute).1, hkey⟩
  · rintro ⟨route, hroute, rfl⟩
    exact ⟨route, h.mem_onAdapter_iff.mpr ⟨hroute, rfl⟩, rfl⟩

/-- What the replica knows of a key is what the table says of it. -/
theorem Coherent.known_eq_find? (h : table.Coherent) (hshows : replica.Shows table)
    (key : RouteKey) :
    (if replica.Knows key then some (replica.online key) else none) =
      (table.find? key).map (·.online) := by
  cases hfind : table.find? key with
  | none =>
    have hunknown : ¬ replica.Knows key := by
      rw [h.knows_iff hshows]
      simpa using h.find?_eq_none_iff.mp hfind
    rw [if_neg hunknown, Option.map_none]
  | some route =>
    obtain ⟨hroute, rfl⟩ := h.find?_eq_some_iff.mp hfind
    rw [if_pos ((h.knows_iff hshows).mpr ⟨route, hroute, rfl⟩), hshows.online_eq route hroute,
      Option.map_some]

/-- The events of the later table go on from those of the earlier one, and bring a replica of the
one up to the other. -/
def Tells (table next : RouteTable) : Prop :=
  ∃ events, next.events = table.events ++ events ∧ ∀ replica : Replica, replica.Shows table →
    ∃ shown, replica.replay events = some shown ∧ shown.Shows next

section Tells

theorem tells_refl (table : RouteTable) : table.Tells table :=
  ⟨[], (List.append_nil _).symm, fun replica hshows => ⟨replica, rfl, hshows⟩⟩

theorem Tells.trans {last : RouteTable} (h : table.Tells next) (h' : next.Tells last) :
    table.Tells last := by
  obtain ⟨events, hevents, hshown⟩ := h
  obtain ⟨more, hmore, hlast⟩ := h'
  refine ⟨events ++ more, by rw [hmore, hevents, List.append_assoc], fun replica hshows => ?_⟩
  obtain ⟨shown, hreplay, hshows⟩ := hshown replica hshows
  obtain ⟨final, hfinal, hshows⟩ := hlast shown hshows
  refine ⟨final, ?_, hshows⟩
  rw [Replica.replay_append, hreplay]
  exact hfinal

/-- Where routes change in their places, the changes of liveness are all that need be told. -/
theorem Coherent.tells_recast (h : table.Coherent) (changing : List Route)
    (hbuckets : next.buckets = table.recast f) (hkey : ∀ id route, (f id route).key = route.key)
    (hnodup : (changing.map (·.key)).Nodup) (hmem : ∀ route ∈ changing, route ∈ table.routes)
    (hquiet : ∀ route ∈ table.routes, route ∉ changing →
      (f route.key.adapter route).online = route.online)
    (hevents : next.events = table.events ++
      Replica.changes (fun route => f route.key.adapter route) changing) : table.Tells next := by
  refine ⟨_, hevents, fun replica hshows => ?_⟩
  have hknown : ∀ route ∈ changing, replica.Knows route.key := fun route hroute =>
    (h.knows_iff hshows).mpr ⟨route, hmem route hroute, rfl⟩
  obtain ⟨online, hreplay, hchanged, hother⟩ := Replica.replay_changes
    (fun route => f route.key.adapter route) (fun route _ => hkey _ route) hnodup hknown
    fun route hroute => hshows.online_eq route (hmem route hroute)
  refine ⟨_, hreplay, fun id => ?_, fun route hroute => ?_⟩
  · rw [onAdapter_recast hbuckets, hshows.keys_eq, List.map_map]
    simp [Function.comp_def, hkey]
  · obtain ⟨bucket, hbucket, old, hold, rfl⟩ := (mem_routes_recast hbuckets).mp hroute
    have holdMem : old ∈ table.routes := List.mem_flatMap.mpr ⟨bucket, hbucket, hold⟩
    show online (f bucket.1 old).key = _
    rw [hkey, ← h.placed bucket hbucket old hold]
    by_cases hchanging : old ∈ changing
    · exact hchanged old hchanging
    · have habsent : old.key ∉ changing.map (·.key) := by
        intro hsame
        obtain ⟨other, hotherMem, hotherKey⟩ := List.mem_map.mp hsame
        have heq : other = old := List.inj_on_of_nodup_map h.nodup_routes
          (hmem other hotherMem) holdMem hotherKey
        exact hchanging (heq ▸ hotherMem)
      rw [hother _ habsent, hshows.online_eq old holdMem, hquiet old holdMem hchanging]

/-- A change that shows in no flag need not be told. -/
theorem Coherent.tells_quiet (h : table.Coherent) (hbuckets : next.buckets = table.recast f)
    (hkey : ∀ id route, (f id route).key = route.key)
    (honline : ∀ id route, (f id route).online = route.online)
    (hevents : next.events = table.events) : table.Tells next :=
  h.tells_recast [] hbuckets hkey List.nodup_nil (by simp)
    (fun _ _ _ => honline _ _) (by simp [hevents, Replica.changes])

theorem Coherent.tells_insert (h : table.Coherent) (hnew : table.find? route.key = none)
    (honline : route.online = true) : table.Tells (table.insert route) := by
  refine ⟨_, events_insert route table,
    fun replica hshows => ⟨replica.append route.key, ?_, fun id => ?_, ?_⟩⟩
  · have hunknown : ¬ replica.Knows route.key := by
      rw [h.knows_iff hshows]
      simpa using h.find?_eq_none_iff.mp hnew
    simp [Replica.replay, Replica.take?, hunknown]
  · rw [onAdapter_insert]
    by_cases hid : id = route.key.adapter <;> simp [Replica.append, hid, hshows.keys_eq]
  · intro other hother
    have hall : (table.insert route).All fun _ other => other ∈ table.routes ∨ other = route :=
      All.insert (fun bucket hbucket other hother =>
        .inl (List.mem_flatMap.mpr ⟨bucket, hbucket, hother⟩)) (.inr rfl)
    obtain ⟨-, hold | rfl⟩ := hall.of_mem hother
    · have hdiffers := h.find?_eq_none_iff.mp hnew other hold
      rw [Replica.online_append, if_neg hdiffers, hshows.online_eq other hold]
    · rw [Replica.online_append, if_pos rfl, honline]

theorem Coherent.tells_hear (h : table.Coherent)
    (hhear : table.hear adapters key path now = .ok next) : table.Tells next := by
  obtain ⟨adapter, -, ⟨hnew, rfl⟩ | ⟨-, rfl⟩⟩ := hear_cases hhear
  · exact h.tells_insert hnew rfl
  · refine h.tells_quiet (buckets_modify _ _ _) (key_modified fun _ hkey => hkey)
      (fun id route => ?_) rfl
    split_ifs <;> rfl

theorem Coherent.tells_heard (h : table.Coherent) (told : RouteKey × List UInt16) :
    table.Tells (table.heard adapters now told) := by
  unfold RouteTable.heard
  cases hhear : table.hear adapters told.1 told.2 now with
  | ok next => exact h.tells_hear hhear
  | error error => exact tells_refl table

theorem Coherent.tells_foldl_heard (h : table.Coherent) (told : List (RouteKey × List UInt16)) :
    table.Tells (told.foldl (RouteTable.heard adapters now) table) := by
  induction told generalizing table with
  | nil => exact tells_refl table
  | cons first rest ih => exact (h.tells_heard first).trans (ih (h.heard first))

theorem Coherent.tells_learn (h : table.Coherent) (message : Discovery) (reception : Reception) :
    table.Tells (table.learn adapters message reception).2 := by
  rw [learn_snd]
  split
  · exact tells_refl table
  · exact h.tells_foldl_heard _

theorem events_recordData (adapters : AdapterTable) (message : DataMessage)
    (reception : Reception) (table : RouteTable) :
    (table.recordData adapters message reception).2.events = table.events := by
  unfold recordData
  split <;> rfl

theorem Coherent.tells_recordData (h : table.Coherent) (message : DataMessage)
    (reception : Reception) : table.Tells (table.recordData adapters message reception).2 := by
  refine h.tells_quiet (buckets_recordData _ _ _ _) (fun _ _ => key_dataHeard _ _ _ _ _)
    (fun id route => ?_) (events_recordData _ _ _ _)
  rcases dataHeard_eq adapters message reception id route with hsame | ⟨-, hdata⟩
  · rw [hsame]
  · rw [hdata]

theorem Coherent.tells_sweep (h : table.Coherent) (now : Time) :
    table.Tells (table.sweep now).2 :=
  h.tells_recast table.routes (buckets_sweep now table) (fun _ _ => rfl) h.nodup_routes
    (fun _ hroute => hroute) (fun _ hroute habsent => absurd hroute habsent) rfl

theorem Coherent.tells_setPersistent (h : table.Coherent) {persistent : Bool}
    (hok : table.setPersistent adapters key path persistent now = .ok next) : table.Tells next := by
  obtain ⟨heard, route, rfl, hroute, -, hbuckets, hevents⟩ := setPersistent_eq_ok hok
  have hcoherent : (table.heard adapters now (key, path)).Coherent := h.heard _
  obtain ⟨hmem, rfl⟩ := hcoherent.find?_eq_some_iff.mp hroute
  rw [buckets_modify] at hbuckets
  refine (h.tells_heard _).trans (hcoherent.tells_recast [route] hbuckets
    (key_modified fun _ _ => rfl) (List.nodup_singleton _) (by simpa using hmem) ?_ ?_)
  · intro other hother habsent
    have hdiffers : other.key ≠ route.key := fun hsame => habsent <| by
      simpa using List.inj_on_of_nodup_map hcoherent.nodup_routes hother hmem hsame
    simp [hdiffers]
  · rw [hevents]
    simp only [Replica.changes, List.filterMap_cons, List.filterMap_nil, if_true]
    split_ifs <;> rfl

end Tells
end RouteTable
end RouteDiscovery

import Mathlib.Data.List.Nodup
import Mathlib.Data.List.Perm.Basic
import RouteDiscovery.Endpoint

/-!
The sending sockets through a run of updates. Opening and closing may do anything, and an update may
go through the sockets in any order: behind it the wanted sockets are open but for those that failed
to open, what was open as wanted was left alone, and all else is closed.
-/
namespace RouteDiscovery

/-- An attempt to open a socket, and what came of it. -/
structure Opening where
  adapter : AdapterId
  address : Address
  answer : Except LinkError Nat

namespace Opening

def socket? (opening : Opening) : Option SendSocket :=
  match opening.answer with
  | .ok port => some ⟨opening.adapter, opening.address, port⟩
  | .error _ => none

def fault? (opening : Opening) : Option LinkError :=
  match opening.answer with
  | .ok _ => none
  | .error fault => some fault

theorem socket?_eq_some_iff {opening : Opening} {socket : SendSocket} :
    opening.socket? = some socket ↔
      opening = ⟨socket.adapter, socket.address, .ok socket.port⟩ := by
  obtain ⟨adapter, address, fault | port⟩ := opening
  · simp [socket?]
  · obtain ⟨socketAdapter, socketAddress, socketPort⟩ := socket
    simp [socket?]

/-- There is an error to give exactly if one of the openings failed. -/
theorem isSome_findSome?_fault? {openings : List Opening} :
    (openings.findSome? fault?).isSome ↔
      ∃ id address fault, ⟨id, address, .error fault⟩ ∈ openings := by
  rw [List.findSome?_isSome_iff]
  constructor
  · rintro ⟨⟨id, address, fault | port⟩, hopening, hsome⟩
    · exact ⟨id, address, fault, hopening⟩
    · exact absurd hsome Bool.false_ne_true
  · rintro ⟨id, address, fault, hopening⟩
    exact ⟨_, hopening, rfl⟩

end Opening

/-- What was closed and what was to be opened, in order. -/
structure SocketRecord where
  closings : List SendSocket := []
  openings : List Opening := []

namespace SocketOps
variable {σ : Type}

/-- The same operations with a record of them. -/
def recorded (ops : SocketOps σ) : SocketOps (σ × SocketRecord) where
  openSocket id address state :=
    let (answer, next) := ops.openSocket id address state.1
    (answer, next,
      { state.2 with openings := state.2.openings ++ [⟨id, address, answer⟩] })
  closeSocket socket state :=
    (ops.closeSocket socket state.1,
      { state.2 with closings := state.2.closings ++ [socket] })

@[simp] theorem recorded_closeSocket (ops : SocketOps σ) (socket : SendSocket) (state : σ)
    (record : SocketRecord) :
    ops.recorded.closeSocket socket (state, record) =
      (ops.closeSocket socket state,
        { record with closings := record.closings ++ [socket] }) :=
  rfl

@[simp] theorem recorded_openSocket (ops : SocketOps σ) (id : AdapterId) (address : Address)
    (state : σ) (record : SocketRecord) :
    ops.recorded.openSocket id address (state, record) =
      ((ops.openSocket id address state).1, (ops.openSocket id address state).2,
        { record with
          openings := record.openings ++ [⟨id, address, (ops.openSocket id address state).1⟩] }) :=
  rfl

/-- What comes of opening sockets one after the other. -/
def openings (ops : SocketOps σ) : List (AdapterId × Address) → σ → List Opening
  | [], _ => []
  | (id, address) :: rest, state =>
    ⟨id, address, (ops.openSocket id address state).1⟩ ::
      ops.openings rest (ops.openSocket id address state).2

/-- Whatever fails, each opening is tried. -/
theorem map_openings (ops : SocketOps σ) (missing : List (AdapterId × Address)) (state : σ) :
    (ops.openings missing state).map (fun opening => (opening.adapter, opening.address)) =
      missing := by
  induction missing generalizing state with
  | nil => rfl
  | cons pair rest ih => rw [openings, List.map_cons, ih]

end SocketOps

/-- The socket that a usable adapter is to have. -/
def Adapter.target? (adapter : Adapter) : Option (AdapterId × Address) :=
  if adapter.isUsable then adapter.primary?.map (adapter.id, ·) else none

theorem Adapter.target?_eq_some_iff {adapter : Adapter} {id : AdapterId} {address : Address} :
    adapter.target? = some (id, address) ↔
      adapter.isUsable ∧ adapter.id = id ∧ adapter.primary? = some address := by
  unfold target?
  by_cases husable : adapter.isUsable = true
  · simp [husable, and_comm]
  · simp [husable]

namespace SendSocket
variable {σ : Type} (ops : SocketOps σ)

theorem closeAll_recorded (sockets : List SendSocket) (state : σ) (record : SocketRecord) :
    closeAll ops.recorded sockets (state, record) =
      (closeAll ops sockets state, { record with closings := record.closings ++ sockets }) := by
  unfold closeAll
  induction sockets generalizing state record with
  | nil => simp
  | cons socket rest ih =>
    rw [List.foldl_cons, List.foldl_cons, SocketOps.recorded_closeSocket, ih, List.append_assoc,
      List.singleton_append]

theorem openAll_recorded (missing : List (AdapterId × Address)) (state : σ)
    (record : SocketRecord) :
    openAll ops.recorded missing (state, record) =
      ((openAll ops missing state).1, (openAll ops missing state).2.1,
        (openAll ops missing state).2.2,
        { record with openings := record.openings ++ ops.openings missing state }) := by
  induction missing generalizing state record with
  | nil => simp [openAll, SocketOps.openings]
  | cons pair rest ih =>
    obtain ⟨id, address⟩ := pair
    rw [openAll, openAll, SocketOps.openings, SocketOps.recorded_openSocket]
    rcases ops.openSocket id address state with ⟨fault | port, next⟩
    · simp only [ih, List.append_assoc, List.singleton_append]
    · simp only [ih, List.append_assoc, List.singleton_append]

theorem openAll_sockets (missing : List (AdapterId × Address)) (state : σ) :
    (openAll ops missing state).1 = (ops.openings missing state).filterMap Opening.socket? := by
  induction missing generalizing state with
  | nil => rfl
  | cons pair rest ih =>
    obtain ⟨id, address⟩ := pair
    rw [openAll, SocketOps.openings]
    rcases ops.openSocket id address state with ⟨fault | port, next⟩
    · exact ih next
    · exact congrArg (_ :: ·) (ih next)

theorem openAll_error (missing : List (AdapterId × Address)) (state : σ) :
    (openAll ops missing state).2.1 = (ops.openings missing state).findSome? Opening.fault? := by
  induction missing generalizing state with
  | nil => rfl
  | cons pair rest ih =>
    obtain ⟨id, address⟩ := pair
    rw [openAll, SocketOps.openings]
    rcases ops.openSocket id address state with ⟨fault | port, next⟩
    · rfl
    · exact ih next

theorem adapters_openAll_sublist (missing : List (AdapterId × Address)) (state : σ) :
    ((openAll ops missing state).1.map (·.adapter)).Sublist (missing.map (·.1)) := by
  induction missing generalizing state with
  | nil => exact .slnil
  | cons pair rest ih =>
    obtain ⟨id, address⟩ := pair
    rw [openAll, List.map_cons]
    rcases ops.openSocket id address state with ⟨fault | port, next⟩
    · exact (ih next).cons id
    · exact (ih next).cons_cons id

section Wanted
variable {listed : List Adapter} {id : AdapterId} {address : Address}

theorem wanted_cons (adapter : Adapter) (rest : List Adapter) :
    wanted (adapter :: rest) =
      (adapter.target?.filter fun pair => pair.1 ∉ (wanted rest).map (·.1)).toList ++
        wanted rest := by
  have hlater : (wanted rest).any (·.1 == adapter.id) = true ↔
      adapter.id ∈ (wanted rest).map (·.1) := by
    simp only [List.any_eq_true, beq_iff_eq, List.mem_map]
  rw [wanted, Adapter.target?]
  cases adapter.primary? with
  | none => simp
  | some address =>
    by_cases husable : adapter.isUsable = true
    · by_cases hmem : adapter.id ∈ (wanted rest).map (·.1)
      · simp [husable, hlater.mpr hmem, Option.filter, hmem]
      · simp [husable, Bool.eq_false_iff.mpr (mt hlater.mp hmem), Option.filter, hmem]
    · simp [husable]

/-- Whatever is listed, no adapter is to have two sockets. -/
theorem nodup_wanted (listed : List Adapter) : ((wanted listed).map (·.1)).Nodup := by
  induction listed with
  | nil => exact List.nodup_nil
  | cons adapter rest ih =>
    rw [wanted_cons]
    cases hnew : adapter.target?.filter fun pair => pair.1 ∉ (wanted rest).map (·.1) with
    | none => exact ih
    | some pair =>
      rw [Option.filter_eq_some_iff, decide_eq_true_eq] at hnew
      exact List.nodup_cons.mpr ⟨hnew.2, ih⟩

/-- If no two adapters share an id, each usable one counts. -/
theorem wanted_eq_filterMap (hids : (listed.map (·.id)).Nodup) :
    wanted listed = listed.filterMap Adapter.target? := by
  induction listed with
  | nil => rfl
  | cons adapter rest ih =>
    rw [List.map_cons, List.nodup_cons] at hids
    rw [wanted_cons, ih hids.2]
    cases htarget : adapter.target? with
    | none => rw [List.filterMap_cons_none htarget]; rfl
    | some pair =>
      obtain ⟨id, address⟩ := pair
      obtain ⟨-, rfl, -⟩ := Adapter.target?_eq_some_iff.mp htarget
      have hnew : adapter.id ∉ (rest.filterMap Adapter.target?).map (·.1) := by
        intro hmem
        obtain ⟨⟨_, later⟩, hlater, rfl⟩ := List.mem_map.mp hmem
        obtain ⟨other, hother, hsome⟩ := List.mem_filterMap.mp hlater
        obtain ⟨-, hid, -⟩ := Adapter.target?_eq_some_iff.mp hsome
        exact hids.1 (List.mem_map.mpr ⟨other, hother, hid⟩)
      rw [List.filterMap_cons_some htarget, Option.filter_some, if_pos (by simpa using hnew)]
      rfl

theorem mem_wanted_iff (hids : (listed.map (·.id)).Nodup) :
    (id, address) ∈ wanted listed ↔
      ∃ adapter ∈ listed,
        adapter.isUsable ∧ adapter.id = id ∧ adapter.primary? = some address := by
  rw [wanted_eq_filterMap hids, List.mem_filterMap]
  simp only [Adapter.target?_eq_some_iff]

end Wanted

section Align
variable {wanted : List (AdapterId × Address)} {sockets : List SendSocket} {socket : SendSocket}
  {id : AdapterId} {address : Address}

theorem mem_kept :
    socket ∈ kept wanted sockets ↔
      socket ∈ sockets ∧ (socket.adapter, socket.address) ∈ wanted := by
  rw [kept, List.mem_filter, isWanted, List.contains_iff_mem]

theorem mem_stale :
    socket ∈ stale wanted sockets ↔
      socket ∈ sockets ∧ (socket.adapter, socket.address) ∉ wanted := by
  rw [stale, List.mem_filter, isWanted, Bool.not_eq_true', Bool.eq_false_iff, ne_eq,
    List.contains_iff_mem]

/-- A socket is missing unless the adapter has one at the very address. -/
theorem mem_missing (hwanted : (wanted.map (·.1)).Nodup) :
    (id, address) ∈ missing wanted sockets ↔
      (id, address) ∈ wanted ∧
        ∀ socket ∈ sockets, socket.adapter = id → socket.address ≠ address := by
  simp only [missing, List.mem_filter, Bool.not_eq_true', List.any_eq_false, beq_iff_eq, mem_kept]
  refine and_congr_right fun hpair => ⟨?_, ?_⟩
  · rintro hnone socket hsocket rfl rfl
    exact hnone socket ⟨hsocket, hpair⟩ rfl
  · rintro hnone socket ⟨hsocket, hkept⟩ rfl
    -- a kept socket of the adapter is at the one address that is wanted of it
    have hsame := List.inj_on_of_nodup_map hwanted hkept hpair rfl
    exact hnone socket hsocket rfl (Prod.mk.inj hsame).2

theorem nodup_missing (hwanted : (wanted.map (·.1)).Nodup) (sockets : List SendSocket) :
    ((missing wanted sockets).map (·.1)).Nodup :=
  hwanted.sublist (List.filter_sublist.map _)

/-- The sockets that were opened are those whose opening was answered with a port. -/
theorem mem_openAll_iff {missing : List (AdapterId × Address)} {state : σ} :
    socket ∈ (openAll ops missing state).1 ↔
      ⟨socket.adapter, socket.address, .ok socket.port⟩ ∈ ops.openings missing state := by
  rw [openAll_sockets, List.mem_filterMap]
  simp only [Opening.socket?_eq_some_iff, exists_eq_right]

/-- What is opened was missing. -/
theorem mem_missing_of_mem_openings {missing : List (AdapterId × Address)} {state : σ}
    {opening : Opening} (h : opening ∈ ops.openings missing state) :
    (opening.adapter, opening.address) ∈ missing := by
  rw [← ops.map_openings missing state]
  exact List.mem_map_of_mem h

/-- What comes of opening the missing sockets, once the stale ones are closed. -/
def attempts (ops : SocketOps σ) (wanted : List (AdapterId × Address)) (sockets : List SendSocket)
    (state : σ) : List Opening :=
  ops.openings (missing wanted sockets) (closeAll ops (stale wanted sockets) state)

variable (state : σ)

theorem align_recorded (wanted : List (AdapterId × Address)) (sockets : List SendSocket) :
    align ops.recorded wanted sockets (state, {}) =
      ((align ops wanted sockets state).1, (align ops wanted sockets state).2.1,
        (align ops wanted sockets state).2.2,
        { closings := stale wanted sockets, openings := attempts ops wanted sockets state }) := by
  simp only [align, closeAll_recorded, openAll_recorded, List.nil_append, attempts]

theorem align_error (wanted : List (AdapterId × Address)) (sockets : List SendSocket) :
    (align ops wanted sockets state).1 =
      (attempts ops wanted sockets state).findSome? Opening.fault? :=
  openAll_error ops _ _

theorem align_sockets (wanted : List (AdapterId × Address)) (sockets : List SendSocket) :
    (align ops wanted sockets state).2.1 = kept wanted sockets ++
      (openAll ops (missing wanted sockets) (closeAll ops (stale wanted sockets) state)).1 :=
  rfl

theorem mem_align_iff :
    socket ∈ (align ops wanted sockets state).2.1 ↔
      (socket.adapter, socket.address) ∈ wanted ∧
        (socket ∈ sockets ∨ ⟨socket.adapter, socket.address, .ok socket.port⟩ ∈
          attempts ops wanted sockets state) := by
  rw [align_sockets, List.mem_append, mem_kept, mem_openAll_iff]
  constructor
  · rintro (⟨hsocket, hwanted⟩ | hopened)
    · exact ⟨hwanted, .inl hsocket⟩
    · exact ⟨List.mem_of_mem_filter (mem_missing_of_mem_openings ops hopened), .inr hopened⟩
  · rintro ⟨hwanted, hsocket | hopened⟩
    · exact .inl ⟨hsocket, hwanted⟩
    · exact .inr hopened

/-- No adapter gets two sockets. -/
theorem nodup_align (hwanted : (wanted.map (·.1)).Nodup)
    (hsockets : (sockets.map (·.adapter)).Nodup) :
    ((align ops wanted sockets state).2.1.map (·.adapter)).Nodup := by
  have hkept : ((kept wanted sockets).map (·.adapter)).Nodup :=
    hsockets.sublist (List.filter_sublist.map _)
  have hopened : ((openAll ops (missing wanted sockets)
      (closeAll ops (stale wanted sockets) state)).1.map (·.adapter)).Sublist
        ((missing wanted sockets).map (·.1)) :=
    adapters_openAll_sublist ops _ _
  rw [align_sockets, List.map_append, List.nodup_append]
  refine ⟨hkept, hopened.nodup (nodup_missing hwanted sockets), ?_⟩
  -- nothing is missing of an adapter that keeps its socket
  rintro id hid _ hother rfl
  obtain ⟨socket, hsocket, rfl⟩ := List.mem_map.mp hid
  obtain ⟨pair, hpair, hsame⟩ := List.mem_map.mp (hopened.subset hother)
  have hnone := List.of_mem_filter hpair
  simp only [Bool.not_eq_true', List.any_eq_false, beq_iff_eq] at hnone
  exact hnone socket hsocket hsame.symm

/-- What an update closes is what was open and is so no longer. -/
theorem mem_stale_iff :
    socket ∈ stale wanted sockets ↔
      socket ∈ sockets ∧ socket ∉ (align ops wanted sockets state).2.1 := by
  rw [mem_stale, mem_align_iff]
  refine and_congr_right fun hsocket => ?_
  simp only [hsocket, true_or, and_true]

/-- Each adapter that has no socket at its address is tried. -/
theorem exists_attempt_iff (hwanted : (wanted.map (·.1)).Nodup) :
    (∃ answer, ⟨id, address, answer⟩ ∈ attempts ops wanted sockets state) ↔
      (id, address) ∈ wanted ∧
        ∀ socket ∈ sockets, socket.adapter = id → socket.address ≠ address := by
  rw [← mem_missing hwanted]
  constructor
  · rintro ⟨answer, hopening⟩
    exact mem_missing_of_mem_openings ops hopening
  · intro hmissing
    rw [← ops.map_openings (missing wanted sockets) (closeAll ops (stale wanted sockets) state)]
      at hmissing
    obtain ⟨⟨_, _, answer⟩, hopening, hpair⟩ := List.mem_map.mp hmissing
    obtain ⟨rfl, rfl⟩ := Prod.mk.inj hpair
    exact ⟨answer, hopening⟩

theorem nodup_attempts (hwanted : (wanted.map (·.1)).Nodup) :
    ((attempts ops wanted sockets state).map (·.adapter)).Nodup := by
  have hpairs : (attempts ops wanted sockets state).map
      (fun opening => (opening.adapter, opening.address)) = missing wanted sockets :=
    ops.map_openings _ _
  have hmissing := nodup_missing hwanted sockets
  rwa [← hpairs, List.map_map] at hmissing

/-- The subnets are those of the adapters that the sockets belong to, each once. -/
theorem exists_subnets_eq {listed : List Adapter} (hids : (listed.map (·.id)).Nodup)
    (hsockets : (sockets.map (·.adapter)).Nodup)
    (husable : ∀ socket ∈ sockets, ∃ adapter ∈ listed,
      adapter.isUsable ∧ adapter.id = socket.adapter) :
    ∃ active : List Adapter, active.Sublist listed ∧ (∀ adapter ∈ active, adapter.isUsable) ∧
      (active.map (·.id)).Perm (sockets.map (·.adapter)) ∧
        subnets sockets listed = active.flatMap (·.addresses) := by
  have hmem {adapter : Adapter} :
      adapter ∈ listed.filter (fun adapter => sockets.any (·.adapter == adapter.id)) ↔
        adapter ∈ listed ∧ ∃ socket ∈ sockets, socket.adapter = adapter.id := by
    simp only [List.mem_filter, List.any_eq_true, beq_iff_eq]
  refine ⟨listed.filter fun adapter => sockets.any (·.adapter == adapter.id),
    List.filter_sublist, fun adapter hactive => ?_, ?_, rfl⟩
  · obtain ⟨hadapter, socket, hsocket, hid⟩ := hmem.mp hactive
    obtain ⟨other, hother, hopen, hsame⟩ := husable socket hsocket
    rwa [← List.inj_on_of_nodup_map hids hother hadapter (hsame.trans hid)]
  · rw [List.perm_ext_iff_of_nodup (hids.sublist (List.filter_sublist.map _)) hsockets]
    intro id
    simp only [List.mem_map]
    constructor
    · rintro ⟨adapter, hactive, rfl⟩
      exact (hmem.mp hactive).2
    · rintro ⟨socket, hsocket, rfl⟩
      obtain ⟨adapter, hadapter, -, hid⟩ := husable socket hsocket
      exact ⟨adapter, hmem.mpr ⟨hadapter, socket, hsocket, hid.symm⟩, hid⟩

end Align
end SendSocket

/-- The open sockets with the subnets in which senders are looked up, over any means to open and
close. -/
structure SocketTable (σ : Type) where
  sockets : List SendSocket := []
  subnets : List Subnet := []
  state : σ

namespace UpdateOrder
variable {listed : List Adapter} {sockets : List SendSocket}

theorem nodup_wanted (order : UpdateOrder listed sockets) : (order.wanted.map (·.1)).Nodup :=
  (order.wanted_perm.map (·.1)).nodup_iff.mpr (SendSocket.nodup_wanted listed)

theorem nodup_stored (order : UpdateOrder listed sockets)
    (hsockets : (sockets.map (·.adapter)).Nodup) : (order.stored.map (·.adapter)).Nodup :=
  (order.stored_perm.map (·.adapter)).nodup_iff.mpr hsockets

end UpdateOrder

namespace SocketTable
variable {σ : Type} {ops : SocketOps σ} {table before : SocketTable σ} {listed : List Adapter}

/-- One update, which gives the first error if there is one. -/
def update (ops : SocketOps σ) (listed : List Adapter) (table : SocketTable σ)
    (order : UpdateOrder listed table.sockets) : Option LinkError × SocketTable σ :=
  let (error, sockets, state) := SendSocket.align ops order.wanted order.stored table.state
  (error, { sockets, subnets := SendSocket.subnets sockets listed, state })

end SocketTable

/-- An endpoint updates its table so. -/
theorem Endpoint.updateAdapters_eq (listed : List Adapter) (endpoint : Endpoint)
    (order : UpdateOrder listed endpoint.sockets) :
    let ops := Machine.socketOps endpoint.config.group endpoint.config.ttl
    let table : SocketTable Machine := ⟨endpoint.sockets, endpoint.subnets, endpoint.machine⟩
    let (error, after) := table.update ops listed order
    endpoint.updateAdapters listed order =
      (match error with
        | none => .ok ()
        | some error => .error error,
        { endpoint with
          sockets := after.sockets
          subnets := after.subnets
          machine := after.state }) :=
  rfl

namespace SocketTable
variable {σ : Type} {ops : SocketOps σ} {table before : SocketTable σ} {listed : List Adapter}

/-- The tables that a run of updates can leave. Between two updates the means to open and close may
change in any way. -/
inductive Reached (ops : SocketOps σ) : SocketTable σ → Prop
  | start (state : σ) : Reached ops { state }
  | change {table : SocketTable σ} (h : Reached ops table) (state : σ) :
      Reached ops { table with state }
  | update {table : SocketTable σ} (h : Reached ops table) (listed : List Adapter)
      (order : UpdateOrder listed table.sockets) :
      Reached ops (table.update ops listed order).2

theorem Reached.nodup (h : Reached ops table) : (table.sockets.map (·.adapter)).Nodup := by
  induction h with
  | start => exact List.nodup_nil
  | change h state ih => exact ih
  | @update table h listed order ih =>
    exact SendSocket.nodup_align ops table.state order.nodup_wanted (order.nodup_stored ih)

/-- The table with an empty record of what is done to sockets. -/
def recorded (table : SocketTable σ) : SocketTable (σ × SocketRecord) :=
  { table with state := (table.state, {}) }

/-- The record holds the stale sockets and the openings, and changes nothing. -/
theorem recorded_update (order : UpdateOrder listed table.sockets) :
    table.recorded.update ops.recorded listed order =
      ((table.update ops listed order).1,
        { (table.update ops listed order).2 with
          state := ((table.update ops listed order).2.state,
            { closings := SendSocket.stale order.wanted order.stored
              openings :=
                SendSocket.attempts ops order.wanted order.stored table.state }) }) := by
  simp only [update, recorded, SendSocket.align_recorded]

/-- In whatever order an update goes through the sockets, and whatever fails: open are then the
usable adapters that had a socket at their address, with the very same socket, and those that one
was opened for. Each socket that is open no more was closed once and no other was; each adapter
without a socket at its address was tried once, and the first failure is given. The subnets are
those of the open adapters, in the order of the list. -/
theorem update_reconciles (hbefore : Reached ops before)
    (hids : (listed.map (·.id)).Nodup) (order : UpdateOrder listed before.sockets) :
    let outcome := before.recorded.update ops.recorded listed order
    let error := outcome.1
    let after := outcome.2
    let record := after.state.2
    before.update ops listed order = (error, { after with state := after.state.1 }) ∧
      (∀ socket, socket ∈ after.sockets ↔
        ∃ adapter ∈ listed, adapter.isUsable ∧ adapter.id = socket.adapter ∧
          adapter.primary? = some socket.address ∧
            (socket ∈ before.sockets ∨
              ⟨socket.adapter, socket.address, .ok socket.port⟩ ∈ record.openings)) ∧
      (after.sockets.map (·.adapter)).Nodup ∧
      record.closings.Nodup ∧
      (∀ socket, socket ∈ record.closings ↔ socket ∈ before.sockets ∧ socket ∉ after.sockets) ∧
      (record.openings.map (·.adapter)).Nodup ∧
      (∀ id address, (∃ answer, ⟨id, address, answer⟩ ∈ record.openings) ↔
        (∃ adapter ∈ listed,
          adapter.isUsable ∧ adapter.id = id ∧ adapter.primary? = some address) ∧
          ∀ socket ∈ before.sockets, socket.adapter = id → socket.address ≠ address) ∧
      error = record.openings.findSome? Opening.fault? ∧
      (error.isSome ↔ ∃ id address fault, ⟨id, address, .error fault⟩ ∈ record.openings) ∧
      ∃ active : List Adapter, active.Sublist listed ∧ (∀ adapter ∈ active, adapter.isUsable) ∧
        (active.map (·.id)).Perm (after.sockets.map (·.adapter)) ∧
          after.subnets = active.flatMap (·.addresses) := by
  have hwanted := order.nodup_wanted
  have hstored := order.nodup_stored hbefore.nodup
  have htarget (id : AdapterId) (address : Address) :
      (id, address) ∈ order.wanted ↔
        ∃ adapter ∈ listed,
          adapter.isUsable ∧ adapter.id = id ∧ adapter.primary? = some address := by
    rw [order.wanted_perm.mem_iff, SendSocket.mem_wanted_iff hids]
  have hopen : ∀ socket, socket ∈ (before.update ops listed order).2.sockets ↔
      ∃ adapter ∈ listed, adapter.isUsable ∧ adapter.id = socket.adapter ∧
        adapter.primary? = some socket.address ∧
          (socket ∈ before.sockets ∨ ⟨socket.adapter, socket.address, .ok socket.port⟩ ∈
            SendSocket.attempts ops order.wanted order.stored before.state) := by
    intro socket
    rw [← order.stored_perm.mem_iff]
    simp only [← and_assoc, exists_and_right]
    simp only [and_assoc, ← htarget]
    exact SendSocket.mem_align_iff ops before.state
  have hnodup := (hbefore.update listed order).nodup
  intro outcome error after record
  have houtcome : outcome = _ := recorded_update order
  simp only [error, after, record, houtcome]
  refine ⟨trivial, hopen, hnodup, (hstored.of_map _).filter _, fun socket => ?_,
    SendSocket.nodup_attempts ops _ hwanted, fun id address => ?_,
    SendSocket.align_error ops _ _ _, ?_, ?_⟩
  · rw [← order.stored_perm.mem_iff]
    exact SendSocket.mem_stale_iff ops before.state
  · rw [SendSocket.exists_attempt_iff ops _ hwanted, htarget]
    simp only [order.stored_perm.mem_iff]
  · rw [← Opening.isSome_findSome?_fault?, ← SendSocket.align_error]
    rfl
  · refine SendSocket.exists_subnets_eq hids hnodup fun socket hsocket => ?_
    obtain ⟨adapter, hadapter, husable, hid, -⟩ := (hopen socket).mp hsocket
    exact ⟨adapter, hadapter, husable, hid⟩

/-- Four addresses are up, each on an interface of its own. -/
def fourAddresses : Machine :=
  { interface? := fun address => [⟨0x1⟩, ⟨0x101⟩, ⟨0x201⟩, ⟨0x401⟩].idxOf? address }

def threeAdapters : List Adapter :=
  [{ id := ⟨"e0"⟩, name := "e0", addresses := [⟨⟨0x1⟩, ⟨0xffffff00⟩⟩] },
    { id := ⟨"e1"⟩, name := "e1", addresses := [⟨⟨0x101⟩, ⟨0xffffff00⟩⟩] },
    { id := ⟨"e2"⟩, name := "e2", addresses := [⟨⟨0x201⟩, ⟨0xffffff00⟩⟩] }]

/-- Two adapters have swapped their addresses, and two are new of which one has an address that is
not up. -/
def fiveAdapters : List Adapter :=
  [{ id := ⟨"e0"⟩, name := "e0", addresses := [⟨⟨0x101⟩, ⟨0xffffff00⟩⟩] },
    { id := ⟨"e1"⟩, name := "e1", addresses := [⟨⟨0x1⟩, ⟨0xffffff00⟩⟩] },
    { id := ⟨"e2"⟩, name := "e2", addresses := [⟨⟨0x201⟩, ⟨0xffffff00⟩⟩] },
    { id := ⟨"e3"⟩, name := "e3", addresses := [⟨⟨0x301⟩, ⟨0xffffff00⟩⟩] },
    { id := ⟨"e4"⟩, name := "e4", addresses := [⟨⟨0x401⟩, ⟨0xffffff00⟩⟩] }]

/-- The swapped sockets are closed and opened anew, the third is left alone, and the failure of the
fourth is given and does not keep the others from being opened. -/
theorem update_reconciles_swapped :
    let ops := Machine.socketOps ⟨0xe0000001⟩ 1
    let first := UpdateOrder.asListed threeAdapters []
    let before := ((⟨[], [], fourAddresses⟩ : SocketTable Machine).update ops threeAdapters first).2
    let order : UpdateOrder fiveAdapters before.sockets :=
      ⟨before.sockets.reverse, (SendSocket.wanted fiveAdapters).reverse, List.reverse_perm _,
        List.reverse_perm _⟩
    let outcome := before.recorded.update ops.recorded fiveAdapters order
    let record := outcome.2.state.2
    ((fiveAdapters.map (·.id)).Nodup ∧
        before.sockets = [⟨⟨"e0"⟩, ⟨0x1⟩, 1⟩, ⟨⟨"e1"⟩, ⟨0x101⟩, 2⟩, ⟨⟨"e2"⟩, ⟨0x201⟩, 3⟩] ∧
        outcome.2.sockets = [⟨⟨"e2"⟩, ⟨0x201⟩, 3⟩, ⟨⟨"e4"⟩, ⟨0x401⟩, 4⟩, ⟨⟨"e1"⟩, ⟨0x1⟩, 5⟩,
          ⟨⟨"e0"⟩, ⟨0x101⟩, 6⟩] ∧
        outcome.1 = some (.joinFailed ⟨0xe0000001⟩ ⟨0x301⟩ "No such device (os error 19)") ∧
        record.closings = [⟨⟨"e1"⟩, ⟨0x101⟩, 2⟩, ⟨⟨"e0"⟩, ⟨0x1⟩, 1⟩]) ∧
      (∀ socket, socket ∈ outcome.2.sockets ↔
        ∃ adapter ∈ fiveAdapters, adapter.isUsable ∧ adapter.id = socket.adapter ∧
          adapter.primary? = some socket.address ∧
            (socket ∈ before.sockets ∨
              ⟨socket.adapter, socket.address, .ok socket.port⟩ ∈ record.openings)) ∧
      (∀ socket, socket ∈ record.closings ↔
        socket ∈ before.sockets ∧ socket ∉ outcome.2.sockets) ∧
      (outcome.1.isSome ↔ ∃ id address fault, ⟨id, address, .error fault⟩ ∈ record.openings) := by
  intro ops first before order
  have hids : (fiveAdapters.map (·.id)).Nodup := by decide
  have hbefore : Reached ops before := .update (.start fourAddresses) threeAdapters first
  obtain ⟨-, hopen, -, -, hclosed, -, -, -, herror, -⟩ := update_reconciles hbefore hids order
  refine ⟨⟨hids, ?_, ?_, ?_⟩, hopen, hclosed, herror⟩
  · decide +kernel
  · decide +kernel
  · decide +kernel

end SocketTable
end RouteDiscovery

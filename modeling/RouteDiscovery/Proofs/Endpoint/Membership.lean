import Mathlib.Data.List.Permutation
import RouteDiscovery.Proofs.Endpoint.Reconciliation

/-!
On which interfaces the receiving socket is a member of the group, through a run of updates. The
sockets of one interface share a membership: the first that is opened brings it, and the first that
is closed takes it away from the others.
-/
namespace RouteDiscovery

/-- An entry of the log is `p`, and all entries behind it are `q`. -/
def Since {α : Type} (q p : α → Prop) (log : List α) : Prop :=
  ∃ earlier entry later, log = earlier ++ entry :: later ∧ p entry ∧ ∀ other ∈ later, q other

theorem since_append_singleton {α : Type} {q p : α → Prop} {log : List α} {entry : α} :
    Since q p (log ++ [entry]) ↔ p entry ∨ (q entry ∧ Since q p log) := by
  constructor
  · rintro ⟨earlier, first, later, hlog, hp, hq⟩
    rcases List.eq_nil_or_concat' later with rfl | ⟨before, last, rfl⟩
    · obtain ⟨-, hlast⟩ := List.append_inj' hlog rfl
      obtain rfl := (List.cons.inj hlast).1
      exact .inl hp
    · rw [← List.cons_append, ← List.append_assoc] at hlog
      obtain ⟨rfl, hlast⟩ := List.append_inj' hlog rfl
      obtain rfl := (List.cons.inj hlast).1
      refine .inr ⟨hq entry (List.mem_append_right _ List.mem_cons_self), ?_⟩
      exact ⟨earlier, first, before, rfl, hp,
        fun other hother => hq other (List.mem_append_left _ hother)⟩
  · rintro (hp | ⟨hentry, earlier, first, later, rfl, hp, hq⟩)
    · exact ⟨log, entry, [], rfl, hp, fun other hother => absurd hother List.not_mem_nil⟩
    · refine ⟨earlier, first, later ++ [entry], List.append_assoc .., hp, fun other hother => ?_⟩
      rcases List.mem_append.mp hother with hlater | hlast
      · exact hq other hlater
      · rwa [List.mem_singleton.mp hlast]

/-- The sockets that were opened, in order. -/
def SocketRecord.opened (record : SocketRecord) : List SendSocket :=
  record.openings.filterMap Opening.socket?

namespace Machine

/-- One of the sockets is on the interface. -/
def Covers (machine : Machine) (sockets : List SendSocket) (interface : Nat) : Prop :=
  ∃ socket ∈ sockets, machine.interface? socket.address = some interface

/-- An update closed the socket of another adapter on the interface, and neither that update nor a
later one opened a socket there. -/
def LeavesBehind (machine : Machine) (records : List SocketRecord) (adapter : AdapterId)
    (interface : Nat) : Prop :=
  Since (fun later => ¬ machine.Covers later.opened interface)
    (fun record => ¬ machine.Covers record.opened interface ∧
      machine.Covers (record.closings.filter (·.adapter ≠ adapter)) interface) records

variable {group address : Address} {ttl interface : Nat} {machine : Machine}

/-- A socket cannot be opened on an address that no interface has. -/
theorem openSocket_of_none (hgroup : group.isMulticast = true) (id : AdapterId)
    (h : machine.interface? address = none) :
    (socketOps group ttl).openSocket id address machine =
      (.error (.joinFailed group address SocketFault.noSuchDevice.message), machine) := by
  simp [socketOps, join, hgroup, h]

/-- On all other addresses it can, and the interface is a member then. -/
theorem openSocket_of_some (hgroup : group.isMulticast = true) (httl : ttl ≤ 255) (id : AdapterId)
    (h : machine.interface? address = some interface) :
    ∃ joined, (∀ other, other ∈ joined ↔ other = interface ∨ other ∈ machine.joined) ∧
      (socketOps group ttl).openSocket id address machine =
        (.ok machine.freePort, { machine with joined, freePort := machine.freePort + 1 }) := by
  have hlow : ¬ 255 < ttl := Nat.not_lt.mpr httl
  by_cases hmember : interface ∈ machine.joined
  · refine ⟨machine.joined, fun other => ?_, ?_⟩
    · constructor
      · exact .inr
      · rintro (rfl | hother)
        · exact hmember
        · exact hother
    · simp [socketOps, join, bind, hgroup, h, hmember, hlow]
  · refine ⟨interface :: machine.joined, fun other => List.mem_cons, ?_⟩
    simp [socketOps, join, bind, hgroup, h, hmember, hlow]

theorem interface?_openSocket (hgroup : group.isMulticast = true) (httl : ttl ≤ 255)
    (id : AdapterId) (address : Address) (machine : Machine) :
    ((socketOps group ttl).openSocket id address machine).2.interface? = machine.interface? := by
  cases h : machine.interface? address with
  | none => rw [openSocket_of_none hgroup id h]
  | some interface =>
    obtain ⟨joined, -, hopen⟩ := openSocket_of_some hgroup httl id h
    rw [hopen]

theorem interface?_closeSocket (group : Address) (ttl : Nat) (socket : SendSocket)
    (machine : Machine) :
    ((socketOps group ttl).closeSocket socket machine).interface? = machine.interface? := by
  simp only [socketOps, leave]
  split <;> rfl

theorem mem_joined_closeSocket (socket : SendSocket) (machine : Machine) :
    interface ∈ ((socketOps group ttl).closeSocket socket machine).joined ↔
      interface ∈ machine.joined ∧ machine.interface? socket.address ≠ some interface := by
  simp only [socketOps, leave]
  cases machine.interface? socket.address with
  | none => simp
  | some other =>
    rw [List.mem_filter, bne_iff_ne, ne_comm, ne_eq, ne_eq, Option.some_inj]

theorem not_covers_nil (machine : Machine) (interface : Nat) : ¬ machine.Covers [] interface := by
  rintro ⟨socket, hsocket, -⟩
  exact List.not_mem_nil hsocket

theorem covers_cons {socket : SendSocket} {rest : List SendSocket} :
    machine.Covers (socket :: rest) interface ↔
      machine.interface? socket.address = some interface ∨ machine.Covers rest interface := by
  simp only [Covers, List.exists_mem_cons_iff]

theorem covers_congr {other : Machine} (h : other.interface? = machine.interface?)
    (sockets : List SendSocket) (interface : Nat) :
    other.Covers sockets interface ↔ machine.Covers sockets interface := by
  rw [Covers, Covers, h]

/-! ### One update -/

open SendSocket

theorem interface?_closeAll (group : Address) (ttl : Nat) (sockets : List SendSocket)
    (machine : Machine) :
    (closeAll (socketOps group ttl) sockets machine).interface? = machine.interface? := by
  induction sockets generalizing machine with
  | nil => rfl
  | cons socket rest ih => exact (ih _).trans (interface?_closeSocket group ttl socket machine)

theorem mem_joined_closeAll (group : Address) (ttl : Nat) (sockets : List SendSocket)
    (machine : Machine) :
    interface ∈ (closeAll (socketOps group ttl) sockets machine).joined ↔
      interface ∈ machine.joined ∧ ¬ machine.Covers sockets interface := by
  induction sockets generalizing machine with
  | nil => simp [closeAll, not_covers_nil]
  | cons socket rest ih =>
    refine (ih _).trans ?_
    rw [mem_joined_closeSocket, covers_congr (interface?_closeSocket group ttl socket machine),
      covers_cons, not_or, and_assoc]

theorem interface?_openAll (hgroup : group.isMulticast = true) (httl : ttl ≤ 255)
    (missing : List (AdapterId × Address)) (machine : Machine) :
    (openAll (socketOps group ttl) missing machine).2.2.interface? = machine.interface? := by
  induction missing generalizing machine with
  | nil => rfl
  | cons pair rest ih =>
    obtain ⟨id, address⟩ := pair
    have hopen := interface?_openSocket hgroup httl id address machine
    rw [openAll]
    rcases hanswer : (socketOps group ttl).openSocket id address machine with ⟨fault | port, next⟩
    · rw [hanswer] at hopen
      exact (ih next).trans hopen
    · rw [hanswer] at hopen
      exact (ih next).trans hopen

theorem mem_joined_openAll (hgroup : group.isMulticast = true) (httl : ttl ≤ 255)
    (missing : List (AdapterId × Address)) (machine : Machine) :
    interface ∈ (openAll (socketOps group ttl) missing machine).2.2.joined ↔
      machine.Covers (openAll (socketOps group ttl) missing machine).1 interface ∨
        interface ∈ machine.joined := by
  induction missing generalizing machine with
  | nil => simp [openAll, not_covers_nil]
  | cons pair rest ih =>
    obtain ⟨id, address⟩ := pair
    rw [openAll]
    cases h : machine.interface? address with
    | none =>
      rw [openSocket_of_none hgroup id h]
      exact ih machine
    | some first =>
      obtain ⟨joined, hjoined, hopen⟩ := openSocket_of_some hgroup httl id h
      rw [hopen]
      refine (ih _).trans ?_
      rw [covers_cons, h, Option.some_inj, hjoined, eq_comm, or_assoc, or_left_comm]
      rfl

/-- A socket that was opened is on an interface. -/
theorem exists_interface_of_mem_openAll (hgroup : group.isMulticast = true) (httl : ttl ≤ 255)
    {missing : List (AdapterId × Address)} {machine : Machine} {socket : SendSocket}
    (hsocket : socket ∈ (openAll (socketOps group ttl) missing machine).1) :
    ∃ interface, machine.interface? socket.address = some interface := by
  induction missing generalizing machine with
  | nil => exact absurd hsocket List.not_mem_nil
  | cons pair rest ih =>
    obtain ⟨id, address⟩ := pair
    rw [openAll] at hsocket
    cases h : machine.interface? address with
    | none =>
      rw [openSocket_of_none hgroup id h] at hsocket
      exact ih hsocket
    | some first =>
      obtain ⟨joined, -, hopen⟩ := openSocket_of_some hgroup httl id h
      rw [hopen] at hsocket
      rcases List.mem_cons.mp hsocket with rfl | hrest
      · exact ⟨first, h⟩
      · obtain ⟨interface, hinterface⟩ := ih hrest
        exact ⟨interface, hinterface⟩

end Machine

namespace SocketTable
variable {σ : Type} {ops : SocketOps σ}

/-- What an update does to sockets. -/
def record (ops : SocketOps σ) (listed : List Adapter) (table : SocketTable σ)
    (order : UpdateOrder listed table.sockets) : SocketRecord :=
  (table.recorded.update ops.recorded listed order).2.state.2

/-- A run of updates from no sockets, with the record of each. No list has two adapters with one
id. -/
inductive Run (ops : SocketOps σ) (start : σ) : SocketTable σ → List SocketRecord → Prop
  | start : Run ops start { state := start } []
  | update {table : SocketTable σ} {records : List SocketRecord} (h : Run ops start table records)
      (listed : List Adapter) (hids : (listed.map (·.id)).Nodup)
      (order : UpdateOrder listed table.sockets) :
      Run ops start (table.update ops listed order).2 (records ++ [table.record ops listed order])

section Update
variable {listed : List Adapter} {table : SocketTable σ}
  (order : UpdateOrder listed table.sockets)

theorem closings_record :
    (table.record ops listed order).closings = SendSocket.stale order.wanted order.stored := by
  rw [record, recorded_update]

theorem opened_record :
    (table.record ops listed order).opened =
      (SendSocket.openAll ops (SendSocket.missing order.wanted order.stored)
        (SendSocket.closeAll ops (SendSocket.stale order.wanted order.stored) table.state)).1 := by
  rw [record, recorded_update, SendSocket.openAll_sockets]
  rfl

/-- What is open behind an update was opened by it or was open before and is not closed by it. -/
theorem mem_update_iff {socket : SendSocket} :
    socket ∈ (table.update ops listed order).2.sockets ↔
      socket ∈ (table.record ops listed order).opened ∨
        (socket ∈ table.sockets ∧ socket ∉ (table.record ops listed order).closings) := by
  have hsockets : (table.update ops listed order).2.sockets =
      SendSocket.kept order.wanted order.stored ++ (table.record ops listed order).opened := by
    rw [opened_record]
    rfl
  rw [hsockets, List.mem_append, closings_record, SendSocket.mem_kept, SendSocket.mem_stale,
    order.stored_perm.mem_iff, or_comm]
  simp only [not_and, not_not]
  exact or_congr_right (and_congr_right fun hsocket => (imp_iff_right hsocket).symm)

theorem closings_subset {socket : SendSocket}
    (h : socket ∈ (table.record ops listed order).closings) : socket ∈ table.sockets := by
  rw [closings_record, SendSocket.mem_stale] at h
  exact order.stored_perm.mem_iff.mp h.1

end Update

theorem Run.reached {start : σ} {table : SocketTable σ} {records : List SocketRecord}
    (h : Run ops start table records) : Reached ops table := by
  induction h with
  | start => exact .start start
  | update h listed hids order ih => exact ih.update listed order

section Membership
variable {before : SocketTable σ} {group : Address} {ttl interface : Nat} {machine : Machine}
  {table : SocketTable Machine} {records : List SocketRecord} {listed : List Adapter}

theorem interface?_update (hgroup : group.isMulticast = true) (httl : ttl ≤ 255)
    (order : UpdateOrder listed table.sockets) :
    (table.update (Machine.socketOps group ttl) listed order).2.state.interface? =
      table.state.interface? :=
  (Machine.interface?_openAll hgroup httl _ _).trans (Machine.interface?_closeAll group ttl _ _)

/-- An update leaves the group on the interfaces of what it closes, and then joins it on those of
what it opens. -/
theorem mem_joined_update (hgroup : group.isMulticast = true) (httl : ttl ≤ 255)
    (order : UpdateOrder listed table.sockets) (interface : Nat) :
    interface ∈ (table.update (Machine.socketOps group ttl) listed order).2.state.joined ↔
      table.state.Covers (table.record (Machine.socketOps group ttl) listed order).opened
          interface ∨
        (interface ∈ table.state.joined ∧
          ¬ table.state.Covers (table.record (Machine.socketOps group ttl) listed order).closings
            interface) := by
  rw [opened_record, closings_record, ← Machine.mem_joined_closeAll group ttl,
    ← Machine.covers_congr (Machine.interface?_closeAll group ttl _ _)]
  exact Machine.mem_joined_openAll hgroup httl _ _

theorem Run.interface?_eq (hgroup : group.isMulticast = true) (httl : ttl ≤ 255)
    (h : Run (Machine.socketOps group ttl) machine table records) :
    table.state.interface? = machine.interface? := by
  induction h with
  | start => rfl
  | update h listed hids order ih => exact (interface?_update hgroup httl order).trans ih

/-- What an update closes around a socket that it leaves open belongs to other adapters. -/
theorem Reached.filter_closings (hbefore : Reached ops before)
    {order : UpdateOrder listed before.sockets} {socket : SendSocket}
    (hsocket : socket ∈ before.sockets)
    (hopen : socket ∉ (before.record ops listed order).closings) :
    (before.record ops listed order).closings.filter (·.adapter ≠ socket.adapter) =
      (before.record ops listed order).closings := by
  rw [List.filter_eq_self]
  intro closed hclosed
  rw [decide_eq_true_eq]
  intro hadapter
  have hsame := List.inj_on_of_nodup_map hbefore.nodup (closings_subset order hclosed) hsocket
    hadapter
  exact hopen (hsame ▸ hclosed)

theorem exists_interface_of_opened (hgroup : group.isMulticast = true) (httl : ttl ≤ 255)
    {table : SocketTable Machine} {order : UpdateOrder listed table.sockets} {socket : SendSocket}
    (h : socket ∈ (table.record (Machine.socketOps group ttl) listed order).opened) :
    ∃ interface, table.state.interface? socket.address = some interface := by
  rw [opened_record] at h
  rw [← Machine.interface?_closeAll group ttl (SendSocket.stale order.wanted order.stored)
    table.state]
  exact Machine.exists_interface_of_mem_openAll hgroup httl h

/-- The interface of an open socket is a member of the group unless the socket was left behind: the
socket of another adapter on the interface was closed, and from that update on none was opened
there. -/
theorem joined_iff_not_left_behind (hgroup : group.isMulticast = true) (httl : ttl ≤ 255)
    (h : Run (Machine.socketOps group ttl) machine table records) {socket : SendSocket}
    (hsocket : socket ∈ table.sockets) :
    ∃ interface, machine.interface? socket.address = some interface ∧
      (interface ∈ table.state.joined ↔
        ¬ machine.LeavesBehind records socket.adapter interface) := by
  induction h with
  | start => exact absurd hsocket List.not_mem_nil
  | @update table records h listed hids order ih =>
    have hsame := h.interface?_eq hgroup httl
    have hmember := mem_joined_update hgroup httl order
    simp only [Machine.covers_congr hsame] at hmember
    rcases (mem_update_iff order).mp hsocket with hopened | ⟨hbefore, hkept⟩
    · obtain ⟨interface, hinterface⟩ := exists_interface_of_opened hgroup httl hopened
      rw [hsame] at hinterface
      have hcovers : machine.Covers
          (table.record (Machine.socketOps group ttl) listed order).opened interface :=
        ⟨socket, hopened, hinterface⟩
      refine ⟨interface, hinterface, ?_⟩
      rw [hmember, Machine.LeavesBehind, since_append_singleton]
      tauto
    · -- what the update closes belongs to others, so it leaves the socket behind unless it opens
      -- one on the interface
      obtain ⟨interface, hinterface, hiff⟩ := ih hbefore
      refine ⟨interface, hinterface, ?_⟩
      rw [hmember, Machine.LeavesBehind, since_append_singleton, ← Machine.LeavesBehind,
        h.reached.filter_closings hbefore hkept, hiff]
      tauto

end Membership

/-- Every address is on the one interface that the machine has. -/
def oneInterface : Machine :=
  { interface? := fun _ => some 0 }

/-- One of the adapters of the interface. -/
def adjacent (id : String) (octet : UInt32) : Adapter :=
  { id := ⟨id⟩, name := "lo", addresses := [⟨⟨0x7f000000 + octet⟩, ⟨0xff000000⟩⟩] }

/-- The first adapter of three on an interface goes as the third comes, which joins the group anew
for the second. -/
theorem joined_iff_not_left_behind_relieved :
    let ops := Machine.socketOps ⟨0xefff4747⟩ 1
    let start : SocketTable Machine := { state := oneInterface }
    let first := UpdateOrder.asListed [adjacent "a" 1, adjacent "b" 2] start.sockets
    let before := (start.update ops [adjacent "a" 1, adjacent "b" 2] first).2
    let second := UpdateOrder.asListed [adjacent "b" 2, adjacent "c" 3] before.sockets
    let after := (before.update ops [adjacent "b" 2, adjacent "c" 3] second).2
    let records := [start.record ops [adjacent "a" 1, adjacent "b" 2] first,
      before.record ops [adjacent "b" 2, adjacent "c" 3] second]
    (Address.isMulticast ⟨0xefff4747⟩ = true ∧ 1 ≤ 255 ∧
        records.map (·.closings) = [[], [⟨⟨"a"⟩, ⟨0x7f000001⟩, 1⟩]] ∧
        after.sockets = [⟨⟨"b"⟩, ⟨0x7f000002⟩, 2⟩, ⟨⟨"c"⟩, ⟨0x7f000003⟩, 3⟩] ∧
        after.state.joined = [0]) ∧
      ∃ interface, oneInterface.interface? ⟨0x7f000002⟩ = some interface ∧
        (interface ∈ after.state.joined ↔
          ¬ oneInterface.LeavesBehind records ⟨"b"⟩ interface) := by
  intro ops start first before second after records
  have hrun : Run ops oneInterface after records :=
    .update (.update .start _ (by decide) first) _ (by decide) second
  refine ⟨⟨by decide, by decide, by decide +kernel, by decide +kernel, by decide +kernel⟩, ?_⟩
  have hopen : (⟨⟨"b"⟩, ⟨0x7f000002⟩, 2⟩ : SendSocket) ∈ after.sockets := by decide +kernel
  exact joined_iff_not_left_behind (by decide) (by decide) hrun hopen

/-- Two adapters have one address, and only one of them is wanted from then on. -/
theorem left_behind_in_any_order :
    let ops := Machine.socketOps ⟨0xefff4747⟩ 1
    ∀ wanted ∈ (SendSocket.wanted [adjacent "a" 1, adjacent "b" 1]).permutations',
      let before := SendSocket.align ops wanted [] oneInterface
      ∀ stored ∈ before.2.1.permutations',
        let after := SendSocket.align ops (SendSocket.wanted [adjacent "b" 1]) stored before.2.2
        after.2.1.map (·.adapter) = [⟨"b"⟩] ∧ after.2.2.joined = [] := by
  decide +kernel

/-- The second of the two adapters is open when the first one has gone, and the interface is no
member of the group any more, in whatever order the updates go through the sockets. -/
theorem not_always_joined :
    ¬ ∀ (group : Address) (ttl : Nat) (machine : Machine), group.isMulticast = true → ttl ≤ 255 →
      (∀ address, (machine.interface? address).isSome) → machine.joined = [] →
      ∀ first second : List Adapter, (first.map (·.id)).Nodup → (second.map (·.id)).Nodup →
        let ops := Machine.socketOps group ttl
        let start : SocketTable Machine := { state := machine }
        ∃ order : UpdateOrder first start.sockets,
          let before := (start.update ops first order).2
          ∃ order' : UpdateOrder second before.sockets,
            let after := (before.update ops second order').2
            ∀ socket ∈ after.sockets, ∃ interface ∈ after.state.joined,
              machine.interface? socket.address = some interface := by
  intro hall
  obtain ⟨order, order', hmember⟩ := hall ⟨0xefff4747⟩ 1 oneInterface (by decide) (by decide)
    (fun _ => rfl) rfl [adjacent "a" 1, adjacent "b" 1] [adjacent "b" 1] (by decide) (by decide)
  obtain ⟨stored, wanted, hstored, hwanted⟩ := order
  obtain rfl : stored = [] := List.perm_nil.mp hstored
  obtain ⟨stored', wanted', hstored', hwanted'⟩ := order'
  obtain rfl : wanted' = _ := List.perm_singleton.mp hwanted'
  obtain ⟨hopen, hjoined⟩ := left_behind_in_any_order wanted (List.mem_permutations'.mpr hwanted)
    stored' (List.mem_permutations'.mpr hstored')
  have hsome : (⟨"b"⟩ : AdapterId) ∈ [⟨"b"⟩] := List.mem_cons_self
  rw [← hopen] at hsome
  obtain ⟨socket, hsocket, -⟩ := List.mem_map.mp hsome
  obtain ⟨interface, hinterface, -⟩ := hmember socket hsocket
  have hnone : interface ∈ ([] : List Nat) := hjoined ▸ hinterface
  exact List.not_mem_nil hnone

end SocketTable
end RouteDiscovery

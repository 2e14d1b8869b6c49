import RouteDiscovery.Adapter
import RouteDiscovery.Proofs.Keyed

/-!
Looking up the adapters of a table, whose ids are distinct since it was made by an update.
-/
namespace RouteDiscovery

theorem Adapter.firstPerId_eq (listed : List Adapter) :
    firstPerId listed = firstPerKey (·.id) listed := by
  induction listed with
  | nil => rfl
  | cons adapter rest ih =>
    rw [firstPerId, firstPerKey, ih]
    congr 1
    apply List.filter_congr
    intro other _
    by_cases hid : other.id = adapter.id <;> simp [hid]

theorem Adapter.nodup_firstPerId (listed : List Adapter) :
    ((firstPerId listed).map (·.id)).Nodup := by
  rw [firstPerId_eq]
  exact nodup_keys_firstPerKey _ listed

theorem Adapter.hasAddress_of_primary? {adapter : Adapter} {address : Address}
    (h : adapter.primary? = some address) : adapter.hasAddress address = true := by
  unfold primary? at h
  cases haddresses : adapter.addresses with
  | nil => simp [haddresses] at h
  | cons first rest =>
    simp only [haddresses, List.head?_cons, Option.map_some, Option.some.injEq] at h
    simp [hasAddress, haddresses, h]

namespace AdapterTable
variable {table : AdapterTable} {adapter : Adapter} {address : Address}

/-- One of the adapters has the address. -/
def Owns (table : AdapterTable) (address : Address) : Prop :=
  (table.owner? address).isSome

/-- What a usable adapter sends comes from the address. -/
def SendsFrom (table : AdapterTable) (address : Address) : Prop :=
  ∃ adapter ∈ table.usable, adapter.primary? = some address

theorem owns_iff : table.Owns address ↔ ∃ adapter ∈ table.adapters, adapter.hasAddress address := by
  unfold Owns owner?
  rw [List.find?_isSome]

theorem not_owns_iff : ¬ table.Owns address ↔ table.owner? address = none := by
  unfold Owns
  cases table.owner? address <;> simp

theorem mem_of_find? {id : AdapterId} (h : table.find? id = some adapter) :
    adapter ∈ table.adapters :=
  List.mem_of_find?_eq_some h

theorem isSome_find?_of_owner? (h : table.owner? address = some adapter) :
    (table.find? adapter.id).isSome := by
  rw [find?, List.find?_isSome]
  exact ⟨adapter, List.mem_of_find?_eq_some h, beq_self_eq_true _⟩

theorem find?_of_mem (hids : (table.adapters.map (·.id)).Nodup) (h : adapter ∈ table.adapters) :
    table.find? adapter.id = some adapter :=
  (find?_key_eq_some_iff hids).mpr ⟨h, rfl⟩

theorem owns_of_primary? (h : adapter ∈ table.adapters)
    (hprimary : adapter.primary? = some address) : table.Owns address :=
  owns_iff.mpr ⟨adapter, h, Adapter.hasAddress_of_primary? hprimary⟩

theorem mem_of_mem_usable (h : adapter ∈ table.usable) : adapter ∈ table.adapters :=
  List.mem_of_mem_filter h

theorem SendsFrom.owns (h : table.SendsFrom address) : table.Owns address := by
  obtain ⟨adapter, hadapter, hprimary⟩ := h
  exact owns_of_primary? (mem_of_mem_usable hadapter) hprimary

theorem nodup_update (listed : List Adapter) (table : AdapterTable) :
    ((table.update listed).2.adapters.map (·.id)).Nodup :=
  Adapter.nodup_firstPerId listed

end AdapterTable
end RouteDiscovery

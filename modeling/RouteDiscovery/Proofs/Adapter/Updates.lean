import Mathlib.Data.Finset.Basic
import Mathlib.Data.List.Induction
import RouteDiscovery.Proofs.Adapter.Lookup

/-!
Updates of the adapter table. A table holds each listed id once, and what the updates report is
enough to know which ids are held.
-/
namespace RouteDiscovery

namespace Adapter

/-- What is left of a list without the entries whose id an earlier one has. -/
def withoutRepeats (listed : List Adapter) : List Adapter :=
  (listed.zipIdx.filter fun (adapter, i) => (listed.take i).all (·.id != adapter.id)).map (·.1)

theorem withoutRepeats_cons (first : Adapter) (rest : List Adapter) :
    withoutRepeats (first :: rest) =
      first :: (withoutRepeats rest).filter (·.id != first.id) := by
  have hlater (entry : Adapter × Nat) :
      ((first :: rest).take (entry.2 + 1)).all (·.id != entry.1.id) =
        (entry.1.id != first.id && (rest.take entry.2).all (·.id != entry.1.id)) := by
    rw [List.take_succ_cons, List.all_cons, bne_comm]
  rw [withoutRepeats, List.zipIdx_cons', List.filter_cons_of_pos rfl, List.map_cons,
    List.filter_map, List.map_map, withoutRepeats, List.filter_map, List.filter_filter]
  congr 2
  exact List.filter_congr fun entry _ => hlater entry

theorem firstPerId_eq_withoutRepeats (listed : List Adapter) :
    firstPerId listed = withoutRepeats listed := by
  induction listed with
  | nil => rfl
  | cons first rest ih => rw [firstPerId, ih, withoutRepeats_cons]

theorem mem_ids_firstPerId {listed : List Adapter} {id : AdapterId} :
    id ∈ (firstPerId listed).map (·.id) ↔ id ∈ listed.map (·.id) := by
  rw [firstPerId_eq]
  exact mem_keys_firstPerKey

end Adapter

namespace AdapterChanges

/-- The ids that are held after a change. -/
def applyTo (ids : Finset AdapterId) (changes : AdapterChanges) : Finset AdapterId :=
  ids \ changes.removed.toFinset ∪ changes.added.toFinset

theorem isEmpty_iff {changes : AdapterChanges} :
    changes.isEmpty = true ↔ changes.added = [] ∧ changes.removed = [] := by
  rw [isEmpty, Bool.and_eq_true, List.isEmpty_iff, List.isEmpty_iff]

end AdapterChanges

namespace AdapterTable

def ids (table : AdapterTable) : List AdapterId :=
  table.adapters.map (·.id)

theorem isNone_find?_eq (table : AdapterTable) (id : AdapterId) :
    (table.find? id).isNone = decide (id ∉ table.ids) := by
  rw [Bool.eq_iff_iff, decide_eq_true_eq]
  simp [find?, ids]

theorem mem_ids_update {listed : List Adapter} {table : AdapterTable} {id : AdapterId} :
    id ∈ (table.update listed).2.ids ↔ id ∈ listed.map (·.id) :=
  Adapter.mem_ids_firstPerId

theorem added_update (listed : List Adapter) (table : AdapterTable) :
    (table.update listed).1.added = (table.update listed).2.ids.filter (· ∉ table.ids) := by
  simp only [update, isNone_find?_eq]
  rfl

theorem removed_update (listed : List Adapter) (table : AdapterTable) :
    (table.update listed).1.removed = table.ids.filter (· ∉ (table.update listed).2.ids) := by
  simp only [update, isNone_find?_eq]
  rfl

/-- A report leads from the ids that were held to those that are. -/
theorem applyTo_update (listed : List Adapter) (table : AdapterTable) :
    (table.update listed).1.applyTo table.ids.toFinset =
      (table.update listed).2.ids.toFinset := by
  ext id
  simp only [AdapterChanges.applyTo, added_update, removed_update, Finset.mem_union,
    Finset.mem_sdiff, List.mem_toFinset, List.mem_filter, decide_eq_true_eq]
  tauto

/-- Nothing is reported exactly if the list has the ids that are held. -/
theorem isEmpty_update_iff {listed : List Adapter} {table : AdapterTable} :
    (table.update listed).1.isEmpty = true ↔ ∀ id, id ∈ listed.map (·.id) ↔ id ∈ table.ids := by
  rw [AdapterChanges.isEmpty_iff, added_update, removed_update, List.filter_eq_nil_iff,
    List.filter_eq_nil_iff]
  simp only [decide_eq_true_eq, not_not, mem_ids_update]
  exact ⟨fun h id => ⟨h.1 id, h.2 id⟩, fun h => ⟨fun id => (h id).mp, fun id => (h id).mpr⟩⟩

/-- A table that lists have been given to one after the other, with what was reported each time. -/
def afterUpdates (lists : List (List Adapter)) : List AdapterChanges × AdapterTable :=
  lists.foldl
    (fun (reports, table) listed =>
      let (changes, next) := table.update listed
      (reports ++ [changes], next))
    ([], {})

theorem afterUpdates_append_singleton (lists : List (List Adapter)) (listed : List Adapter) :
    afterUpdates (lists ++ [listed]) =
      ((afterUpdates lists).1 ++ [((afterUpdates lists).2.update listed).1],
        ((afterUpdates lists).2.update listed).2) := by
  rw [afterUpdates, List.foldl_append]
  rfl

theorem nodup_afterUpdates (lists : List (List Adapter)) : (afterUpdates lists).2.ids.Nodup := by
  induction lists using List.reverseRecOn with
  | nil => exact List.nodup_nil
  | append_singleton lists listed ih =>
    rw [afterUpdates_append_singleton]
    exact nodup_update listed (afterUpdates lists).2

theorem foldl_afterUpdates (lists : List (List Adapter)) :
    (afterUpdates lists).1.foldl AdapterChanges.applyTo ∅ =
      (afterUpdates lists).2.ids.toFinset := by
  induction lists using List.reverseRecOn with
  | nil => rfl
  | append_singleton lists listed ih =>
    rw [afterUpdates_append_singleton, List.foldl_append, ih]
    exact applyTo_update listed _

/-- Behind any run of updates the ids that are held are distinct, and all reports put together give
them. One more update takes the list as it is but for repeated ids, and reports in the order of the
tables which ids are new and which are gone: none at all just if the list has the ids that were
held. So the same list a second time, or one with other descriptions of the same ids, is taken
without a report. -/
theorem updates_replay (lists : List (List Adapter)) (listed : List Adapter) :
    let reports := (afterUpdates lists).1
    let table := (afterUpdates lists).2
    let changes := (table.update listed).1
    let next := (table.update listed).2
    afterUpdates (lists ++ [listed]) = (reports ++ [changes], next) ∧
      table.ids.Nodup ∧ reports.foldl AdapterChanges.applyTo ∅ = table.ids.toFinset ∧
      next.adapters = Adapter.withoutRepeats listed ∧
      changes.added = next.ids.filter (· ∉ table.ids) ∧
      changes.removed = table.ids.filter (· ∉ next.ids) ∧
      changes.added.Nodup ∧ changes.removed.Nodup ∧ changes.added.Disjoint changes.removed ∧
      (changes.isEmpty ↔ ∀ id, id ∈ listed.map (·.id) ↔ id ∈ table.ids) ∧
      ∀ again, (∀ id, id ∈ again.map (·.id) ↔ id ∈ listed.map (·.id)) →
        (next.update again).1.isEmpty ∧
          (next.update again).2.adapters = Adapter.withoutRepeats again := by
  intro reports table changes next
  have hnodup : table.ids.Nodup := nodup_afterUpdates lists
  have hnext : next.ids.Nodup := nodup_update listed table
  have hadded : changes.added = next.ids.filter (· ∉ table.ids) := added_update listed table
  have hremoved : changes.removed = table.ids.filter (· ∉ next.ids) := removed_update listed table
  refine ⟨afterUpdates_append_singleton lists listed, hnodup, foldl_afterUpdates lists,
    Adapter.firstPerId_eq_withoutRepeats listed, hadded, hremoved, ?_, ?_, ?_, isEmpty_update_iff,
    fun again hagain => ⟨?_, Adapter.firstPerId_eq_withoutRepeats again⟩⟩
  · rw [hadded]
    exact hnext.filter _
  · rw [hremoved]
    exact hnodup.filter _
  · rw [hadded, hremoved]
    intro id hnew hgone
    have habsent := List.of_mem_filter hnew
    rw [decide_eq_true_eq] at habsent
    exact habsent (List.mem_of_mem_filter hgone)
  · rw [isEmpty_update_iff]
    intro id
    rw [hagain, mem_ids_update]

end AdapterTable
end RouteDiscovery

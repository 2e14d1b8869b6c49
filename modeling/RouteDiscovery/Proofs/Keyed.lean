import Mathlib.Data.List.Nodup

/-!
Lists whose entries are told apart by a key.
-/
namespace RouteDiscovery
variable {α κ : Type} [DecidableEq κ] {key : α → κ} {entries : List α} {entry : α} {k : κ}

/-- What a search for a key finds is all that has the key. -/
theorem filter_key_eq_toList (hnodup : (entries.map key).Nodup) :
    entries.filter (fun other => key other == k) =
      (entries.find? fun other => key other == k).toList := by
  induction entries with
  | nil => rfl
  | cons first rest ih =>
    rw [List.map_cons, List.nodup_cons] at hnodup
    by_cases hfirst : key first = k
    · have hnone : ∀ other ∈ rest, key other ≠ k := by
        intro other hother hkey
        exact hnodup.1 (List.mem_map.mpr ⟨other, hother, hkey.trans hfirst.symm⟩)
      simpa [hfirst] using hnone
    · simpa [hfirst] using ih hnodup.2

theorem find?_key_eq_some_iff (hnodup : (entries.map key).Nodup) :
    entries.find? (fun other => key other == k) = some entry ↔ entry ∈ entries ∧ key entry = k := by
  rw [← Option.mem_toList, ← filter_key_eq_toList hnodup, List.mem_filter, beq_iff_eq]

/-- Leaving out entries hides them from a search and nothing else. -/
theorem find?_key_filter (hnodup : (entries.map key).Nodup) (p : α → Bool) :
    (entries.filter p).find? (fun other => key other == k) =
      (entries.find? fun other => key other == k).filter p := by
  have hkept : ((entries.filter p).map key).Nodup := hnodup.sublist (List.filter_sublist.map _)
  ext entry
  rw [find?_key_eq_some_iff hkept, Option.filter_eq_some_iff, find?_key_eq_some_iff hnodup,
    List.mem_filter, and_right_comm]

/-- The first entry of each key. -/
def firstPerKey (key : α → κ) : List α → List α
  | [] => []
  | entry :: rest => entry :: (firstPerKey key rest).filter (key · ≠ key entry)

theorem nodup_keys_firstPerKey (key : α → κ) (entries : List α) :
    ((firstPerKey key entries).map key).Nodup := by
  induction entries with
  | nil => exact List.nodup_nil
  | cons first rest ih =>
    rw [firstPerKey, List.map_cons, List.nodup_cons]
    constructor
    · intro hmem
      obtain ⟨other, hother, hkey⟩ := List.mem_map.mp hmem
      have hdiffers := List.of_mem_filter hother
      simp [hkey] at hdiffers
    · exact ih.sublist (List.filter_sublist.map _)

theorem mem_keys_firstPerKey :
    k ∈ (firstPerKey key entries).map key ↔ k ∈ entries.map key := by
  induction entries with
  | nil => rfl
  | cons first rest ih =>
    rw [firstPerKey, List.map_cons, List.map_cons, List.mem_cons, List.mem_cons, ← ih]
    by_cases hfirst : k = key first
    · simp [hfirst]
    · simp only [hfirst, false_or, List.mem_map, List.mem_filter, decide_eq_true_eq]
      constructor
      · rintro ⟨entry, ⟨hentry, -⟩, hkey⟩
        exact ⟨entry, hentry, hkey⟩
      · rintro ⟨entry, hentry, rfl⟩
        exact ⟨entry, ⟨hentry, hfirst⟩, rfl⟩

end RouteDiscovery

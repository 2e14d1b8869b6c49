/-!
Sums of counts.
-/
namespace RouteDiscovery

def total (counts : List Nat) : Nat :=
  counts.foldr (· + ·) 0

@[simp] theorem total_nil : total [] = 0 := rfl

@[simp] theorem total_cons (n : Nat) (rest : List Nat) : total (n :: rest) = n + total rest := rfl

@[simp] theorem total_append (first second : List Nat) :
    total (first ++ second) = total first + total second := by
  induction first with
  | nil => simp
  | cons n rest ih => simp [ih, Nat.add_assoc]

theorem le_total_of_mem {n : Nat} {counts : List Nat} (h : n ∈ counts) : n ≤ total counts := by
  induction counts with
  | nil => exact absurd h List.not_mem_nil
  | cons first rest ih =>
    rw [total_cons]
    rcases List.mem_cons.mp h with hfirst | hrest
    · omega
    · have hle := ih hrest
      omega

/-- Counts that are all at least `n` sum up to at least `n` for each. -/
theorem mul_length_le_total {n : Nat} {counts : List Nat} (h : ∀ count ∈ counts, n ≤ count) :
    n * counts.length ≤ total counts := by
  induction counts with
  | nil => exact Nat.le_refl 0
  | cons first rest ih =>
    have hfirst := h first List.mem_cons_self
    have hrest := ih fun count hcount => h count (List.mem_cons_of_mem _ hcount)
    rw [total_cons, List.length_cons, Nat.mul_succ]
    omega

/-- Counts that are all at most `n` sum up to at most `n` for each. -/
theorem total_le_mul_length {n : Nat} {counts : List Nat} (h : ∀ count ∈ counts, count ≤ n) :
    total counts ≤ n * counts.length := by
  induction counts with
  | nil => exact Nat.le_refl 0
  | cons first rest ih =>
    have hfirst := h first List.mem_cons_self
    have hrest := ih fun count hcount => h count (List.mem_cons_of_mem _ hcount)
    rw [total_cons, List.length_cons, Nat.mul_succ]
    omega

end RouteDiscovery

import RouteDiscovery.Wire.Reader

/-!
How far readers move the cursor. A reader `Takes n` when each success leaves the cursor at least
`n` bytes further on the same input, so a loop over such a reader ends if `n` is positive.
-/
namespace RouteDiscovery.Wire.Reader
variable {α β : Type} {j k : Nat}

def Takes (n : Nat) (read : Reader α) : Prop :=
  ∀ cursor a rest, read cursor = (.ok a, rest) →
    ∃ m, n ≤ m ∧ m ≤ cursor.unread.length ∧ rest = cursor.advance m

theorem bind_apply (read : Reader α) (next : α → Reader β) (cursor : Cursor) :
    (read >>= next) cursor =
      match read cursor with
      | (.ok a, rest) => next a rest
      | (.error fault, rest) => (.error fault, rest) := rfl

theorem pure_apply (a : α) (cursor : Cursor) : (pure a : Reader α) cursor = (.ok a, cursor) := rfl

theorem map_eq_bind (f : α → β) (read : Reader α) :
    f <$> read = read >>= fun a => pure (f a) := rfl

theorem advance_advance (cursor : Cursor) (m n : Nat) :
    (cursor.advance m).advance n = cursor.advance (m + n) := by
  simp [Cursor.advance, Nat.add_assoc]

theorem Takes.mono {read : Reader α} (h : Takes j read) (hkj : k ≤ j) : Takes k read := by
  intro cursor a rest hr
  obtain ⟨m, hm, hl, he⟩ := h cursor a rest hr
  exact ⟨m, Nat.le_trans hkj hm, hl, he⟩

theorem takes_pure (a : α) : Takes 0 (pure a : Reader α) := by
  intro cursor b rest h
  cases h
  exact ⟨0, Nat.le_refl _, Nat.zero_le _, by simp [Cursor.advance]⟩

theorem takes_fail (fault : Fault) : Takes k (fail fault : Reader α) := by
  intro cursor a rest h
  cases h

theorem Takes.bind {read : Reader α} {next : α → Reader β} (hr : Takes j read)
    (hn : ∀ a, Takes k (next a)) : Takes (j + k) (read >>= next) := by
  intro cursor b rest h
  rw [bind_apply] at h
  split at h
  · next a middle hmid =>
    obtain ⟨m, hm, hl, rfl⟩ := hr cursor a middle hmid
    obtain ⟨m', hm', hl', rfl⟩ := hn a _ b rest h
    refine ⟨m + m', Nat.add_le_add hm hm', ?_, advance_advance ..⟩
    simp only [Cursor.advance, List.length_drop] at hl'
    omega
  · cases h

theorem Takes.map {read : Reader α} (f : α → β) (h : Takes j read) : Takes j (f <$> read) := by
  rw [map_eq_bind]
  exact (h.bind fun a => takes_pure (f a)).mono (Nat.le_add_right j 0)

theorem Takes.ite {p : Prop} [Decidable p] {read other : Reader α} (h : Takes k read)
    (h' : Takes k other) : Takes k (if p then read else other) := by
  split
  · exact h
  · exact h'

theorem takes_position : Takes 0 position := by
  intro cursor a rest h
  cases h
  exact ⟨0, Nat.le_refl _, Nat.zero_le _, by simp [Cursor.advance]⟩

theorem takes_require (n : Nat) : Takes 0 (require n) := by
  intro cursor a rest h
  unfold require at h
  split at h <;> cases h
  exact ⟨0, Nat.le_refl _, Nat.zero_le _, by simp [Cursor.advance]⟩

theorem takes_bytes (n : Nat) : Takes n (bytes n) := by
  intro cursor a rest h
  unfold bytes at h
  split at h
  · next hn =>
    cases h
    exact ⟨n, Nat.le_refl _, hasLength_iff.mp hn, rfl⟩
  · cases h

theorem takes_number (width : Nat) : Takes width (number width) :=
  (takes_bytes width).map _

theorem takes_word16 : Takes 2 word16 :=
  (takes_number 2).map _

theorem takes_word32 : Takes 4 word32 :=
  (takes_number 4).map _

theorem takes_peek (read : Reader α) : Takes 0 (peek read) := by
  intro cursor a rest h
  rw [peek, Prod.mk.injEq] at h
  exact ⟨0, Nat.le_refl _, Nat.zero_le _, by simp [Cursor.advance, ← h.2]⟩

theorem Takes.atomically {read : Reader α} (h : Takes k read) : Takes k (atomically read) := by
  intro cursor a rest hr
  unfold Reader.atomically at hr
  split at hr
  · next hread =>
    cases hr
    exact h _ _ _ hread
  · cases hr

theorem takes_collect {read : Reader α} (h : Takes 0 read) (n : Nat) (found : Array α) :
    Takes 0 (collect read n found) := by
  induction n generalizing found with
  | zero =>
    intro cursor a rest hr
    cases hr
    exact ⟨0, Nat.le_refl _, Nat.zero_le _, by simp [Cursor.advance]⟩
  | succ n ih =>
    have hbind : collect read (n + 1) found = read >>= fun a => collect read n (found.push a) := rfl
    rw [hbind]
    exact h.bind fun a => ih (found.push a)

theorem Takes.many {read : Reader α} (h : Takes 0 read) (n : Nat) : Takes 0 (many read n) :=
  takes_collect h n #[]

end RouteDiscovery.Wire.Reader

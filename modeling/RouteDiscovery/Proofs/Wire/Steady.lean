import RouteDiscovery.Wire.Buffer
import RouteDiscovery.Wire.Progress

/-!
Readers that more input cannot change their minds about. What a steady reader makes of some bytes it
also makes of them with more bytes behind, except that more bytes may mend a truncation.
-/
namespace RouteDiscovery.Wire
variable {α β : Type}

/-- The same place in a longer input. -/
def Cursor.extend (cursor : Cursor) (more : Bytes) : Cursor :=
  ⟨cursor.position, cursor.unread ++ more⟩

theorem Cursor.extend_advance {cursor : Cursor} {n : Nat} (h : n ≤ cursor.unread.length)
    (more : Bytes) : (cursor.extend more).advance n = (cursor.advance n).extend more := by
  simp only [extend, advance, List.drop_append_of_le_length h]

namespace Reader

/-- The result says something about the bytes that were read, not about the want of more. -/
def IsFinal (result : Except Fault α) : Prop :=
  ∀ fault, result = .error fault → fault.isTruncation = false

/-- A final result is the same on every longer input, and the cursor ends at the same place. -/
def Steady (read : Reader α) : Prop :=
  ∀ cursor result after more, read cursor = (result, after) → IsFinal result →
    read (cursor.extend more) = (result, after.extend more)

variable {read : Reader α}

theorem isFinal_ok (a : α) : IsFinal (.ok a) := by
  intro fault h
  cases h

theorem IsFinal.of_error {fault : Fault} (h : IsFinal (.error fault : Except Fault α)) :
    IsFinal (.error fault : Except Fault β) := by
  intro other hother
  cases hother
  exact h fault rfl

theorem not_isFinal_truncated (offset needed available : Nat) :
    ¬ IsFinal (.error (.truncated offset needed available) : Except Fault α) := by
  intro h
  cases h _ rfl

theorem steady_pure (a : α) : Steady (pure a : Reader α) := by
  intro cursor result after more h _
  cases h
  rfl

theorem steady_fail (fault : Fault) : Steady (fail fault : Reader α) := by
  intro cursor result after more h _
  cases h
  rfl

theorem steady_position : Steady position := by
  intro cursor result after more h _
  cases h
  rfl

theorem hasLength_extend {n : Nat} {cursor : Cursor} (h : hasLength n cursor.unread = true)
    (more : Bytes) : hasLength n (cursor.extend more).unread = true := by
  rw [hasLength_iff] at h ⊢
  rw [Cursor.extend, List.length_append]
  omega

theorem steady_require (n : Nat) : Steady (require n) := by
  intro cursor result after more h hfinal
  unfold require at h ⊢
  split at h
  · next hn =>
    cases h
    rw [if_pos (hasLength_extend hn more)]
  · cases h
    exact absurd hfinal (not_isFinal_truncated _ _ _)

theorem steady_bytes (n : Nat) : Steady (bytes n) := by
  intro cursor result after more h hfinal
  unfold bytes at h ⊢
  split at h
  · next hn =>
    have hlength := hasLength_iff.mp hn
    have htake : (cursor.extend more).unread.take n = cursor.unread.take n :=
      List.take_append_of_le_length hlength
    cases h
    rw [if_pos (hasLength_extend hn more), htake, Cursor.extend_advance hlength]
  · cases h
    exact absurd hfinal (not_isFinal_truncated _ _ _)

/-- Steady readers one after the other: the second one starts at the same place of the longer input
if the first one succeeds, and is not asked if it fails. -/
theorem Steady.bind {next : α → Reader β} (hread : Steady read) (hnext : ∀ a, Steady (next a)) :
    Steady (read >>= next) := by
  intro cursor result after more h hfinal
  rw [bind_apply] at h ⊢
  rcases hfirst : read cursor with ⟨fault | a, middle⟩
  · rw [hfirst] at h
    cases h
    rw [hread cursor _ _ more hfirst hfinal.of_error]
  · rw [hfirst] at h
    rw [hread cursor _ _ more hfirst (isFinal_ok a)]
    exact hnext a middle _ _ more h hfinal

theorem Steady.map (f : α → β) (h : Steady read) : Steady (f <$> read) := by
  rw [map_eq_bind]
  exact h.bind fun a => steady_pure (f a)

theorem Steady.ite {p : Prop} [Decidable p] {other : Reader α} (h : Steady read)
    (h' : Steady other) : Steady (if p then read else other) := by
  split
  · exact h
  · exact h'

theorem steady_number (width : Nat) : Steady (number width) :=
  (steady_bytes width).map _

theorem steady_word16 : Steady word16 :=
  (steady_number 2).map _

theorem steady_word32 : Steady word32 :=
  (steady_number 4).map _

theorem Steady.peek (h : Steady read) : Steady (peek read) := by
  intro cursor result after more hpeek hfinal
  obtain ⟨hresult, rfl⟩ := Prod.mk.inj hpeek
  have hlonger := h cursor result (read cursor).2 more (Prod.ext hresult rfl) hfinal
  rw [Reader.peek, hlonger]

theorem Steady.atomically (h : Steady read) : Steady (atomically read) := by
  intro cursor result after more hatomic hfinal
  unfold Reader.atomically at hatomic ⊢
  rcases hread : read cursor with ⟨fault | a, middle⟩
  · rw [hread] at hatomic
    cases hatomic
    rw [h cursor _ _ more hread hfinal]
  · rw [hread] at hatomic
    cases hatomic
    rw [h cursor _ _ more hread hfinal]

theorem Steady.collect (h : Steady read) (n : Nat) (found : Array α) :
    Steady (collect read n found) := by
  induction n generalizing found with
  | zero => exact steady_pure found.toList
  | succ n ih =>
    have hstep : Reader.collect read (n + 1) found =
        read >>= fun a => Reader.collect read n (found.push a) := rfl
    rw [hstep]
    exact h.bind fun a => ih (found.push a)

theorem Steady.many (h : Steady read) (n : Nat) : Steady (many read n) :=
  h.collect n #[]

/-- A read from a buffer that holds more bytes ends with the same result at the same offset. -/
theorem Steady.read_ofBytes (h : Steady read) {bytes : Bytes} {result : Except Fault α}
    {position : Nat}
    (hread : (Buffer.ofBytes bytes).read read = (result, { Buffer.ofBytes bytes with position }))
    (hfinal : IsFinal result) (more : Bytes) :
    (Buffer.ofBytes (bytes ++ more)).read read =
      (result, { Buffer.ofBytes (bytes ++ more) with position }) := by
  have hunread (bytes : Bytes) : (Buffer.ofBytes bytes).unread = bytes := rfl
  unfold Buffer.read at hread ⊢
  rw [hunread] at hread ⊢
  rcases hcursor : read ⟨(Buffer.ofBytes bytes).position, bytes⟩ with ⟨same, after⟩
  rw [hcursor] at hread
  obtain ⟨rfl, hbuffer⟩ := Prod.mk.inj hread
  obtain rfl : after.position = position := (Buffer.mk.inj hbuffer).2.2
  rw [show read ⟨(Buffer.ofBytes (bytes ++ more)).position, bytes ++ more⟩ =
    (same, after.extend more) from h _ _ _ more hcursor hfinal]
  rfl

end Reader
end RouteDiscovery.Wire

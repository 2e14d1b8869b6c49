import RouteDiscovery.Total
import RouteDiscovery.Wire.Field
import RouteDiscovery.Wire.Progress

/-! Readers and the grammars that they read. A grammar relates values to the bytes that spell them;
a reader of it succeeds just in front of such bytes, whatever stands behind them. -/
namespace RouteDiscovery.Wire
variable {α β : Type}

abbrev Grammar (α : Type) := α → Bytes → Prop

/-- The items of a list spelled one behind the other. -/
def Grammar.inTurn (grammar : Grammar α) : Grammar (List α)
  | [], code => code = []
  | a :: rest, code => ∃ first others, grammar a first ∧ inTurn grammar rest others ∧
      code = first ++ others

theorem Grammar.inTurn_length {grammar : Grammar α} {items : List α} {code : Bytes} (size : α → Nat)
    (hsize : ∀ a code, grammar a code → code.length = size a) (h : grammar.inTurn items code) :
    code.length = total (items.map size) := by
  induction items generalizing code with
  | nil => simp [show code = [] from h]
  | cons a rest ih =>
    obtain ⟨first, others, hfirst, hothers, rfl⟩ := h
    rw [List.length_append, hsize a first hfirst, ih hothers, List.map_cons, total_cons]

theorem Grammar.exists_inTurn {grammar : Grammar α} {items : List α}
    (h : ∀ a ∈ items, ∃ code, grammar a code) : ∃ code, grammar.inTurn items code := by
  induction items with
  | nil => exact ⟨[], rfl⟩
  | cons a rest ih =>
    obtain ⟨first, hfirst⟩ := h a List.mem_cons_self
    obtain ⟨others, hothers⟩ := ih fun b hb => h b (List.mem_cons_of_mem _ hb)
    exact ⟨first ++ others, first, others, hfirst, hothers, rfl⟩

namespace Reader

/-- The reader succeeds just in front of a code of the grammar, gives the value that is spelled
there and moves past the code. -/
def Reads (grammar : Grammar α) (read : Reader α) : Prop :=
  ∀ cursor a after, read cursor = (.ok a, after) ↔
    ∃ code rest, grammar a code ∧ cursor.unread = code ++ rest ∧
      after = ⟨cursor.position + code.length, rest⟩

variable {grammar : Grammar α} {read : Reader α}

theorem Reads.congr {grammar' : Grammar α} (h : Reads grammar read)
    (hg : ∀ a code, grammar a code ↔ grammar' a code) : Reads grammar' read := by
  intro cursor a after
  simp only [h cursor a after, hg]

/-- What is read is not lost: a success splits the input where the cursor ends. -/
theorem Reads.split (h : Reads grammar read) {cursor after : Cursor} {a : α}
    (hr : read cursor = (.ok a, after)) :
    ∃ code, grammar a code ∧ cursor.unread = code ++ after.unread ∧
      after.position = cursor.position + code.length := by
  obtain ⟨code, rest, hc, hu, rfl⟩ := (h cursor a after).mp hr
  exact ⟨code, hc, hu, rfl⟩

theorem Reads.apply (h : Reads grammar read) {a : α} {code : Bytes} (hc : grammar a code)
    (rest : Bytes) (position : Nat) :
    read ⟨position, code ++ rest⟩ = (.ok a, ⟨position + code.length, rest⟩) :=
  (h _ _ _).mpr ⟨code, rest, hc, rfl, rfl⟩

theorem reads_pure (a : α) : Reads (fun b code => b = a ∧ code = []) (pure a : Reader α) := by
  intro cursor b after
  rw [pure_apply]
  constructor
  · intro h
    cases h
    exact ⟨[], cursor.unread, ⟨rfl, rfl⟩, rfl, rfl⟩
  · intro h
    obtain ⟨code, rest, ⟨rfl, rfl⟩, hu, rfl⟩ := h
    rw [List.nil_append] at hu
    rw [← hu]
    rfl

theorem reads_fail (fault : Fault) : Reads (fun _ _ => False) (fail fault : Reader α) := by
  intro cursor a after
  constructor
  · intro h
    cases h
  · intro h
    obtain ⟨_, _, h, _⟩ := h
    exact h.elim

/-- One reader after the other reads one code behind the other. -/
theorem Reads.bind {next : α → Reader β} {tail : α → Grammar β} (h : Reads grammar read)
    (hn : ∀ a, Reads (tail a) (next a)) :
    Reads (fun b code => ∃ a first second, grammar a first ∧ tail a b second ∧
      code = first ++ second) (read >>= next) := by
  intro cursor b after
  rw [bind_apply]
  constructor
  · intro hb
    split at hb
    · next a middle hr =>
      obtain ⟨first, rest, hfirst, hu, rfl⟩ := (h _ _ _).mp hr
      obtain ⟨second, rest', hsecond, hu', rfl⟩ := (hn a _ _ _).mp hb
      refine ⟨first ++ second, rest', ⟨a, first, second, hfirst, hsecond, rfl⟩, ?_, ?_⟩
      · rw [hu, List.append_assoc]
        exact congrArg (first ++ ·) hu'
      · rw [List.length_append, Nat.add_assoc]
    · cases hb
  · intro hcode
    obtain ⟨code, rest, ⟨a, first, second, hfirst, hsecond, rfl⟩, hu, rfl⟩ := hcode
    have hr : read cursor = (.ok a, ⟨cursor.position + first.length, second ++ rest⟩) :=
      (h _ _ _).mpr ⟨first, second ++ rest, hfirst, by rw [hu, List.append_assoc], rfl⟩
    rw [hr]
    simp only
    rw [(hn a).apply hsecond, List.length_append, Nat.add_assoc]

instance : LawfulMonad Reader := LawfulMonad.mk' Reader
  (fun read => by
    funext cursor
    rw [map_eq_bind, bind_apply]
    rcases read cursor with ⟨_ | _, _⟩ <;> rfl)
  (fun _ _ => rfl)
  (fun read first second => by
    funext cursor
    simp only [bind_apply]
    rcases read cursor with ⟨_ | _, _⟩ <;> rfl)

/-- A reader that measures how far it has come: what follows depends on the length of the code. -/
theorem Reads.measured {next : α → Nat → Reader β} {tail : α → Nat → Grammar β}
    (h : Reads grammar read) (hn : ∀ a n, Reads (tail a n) (next a n)) :
    Reads (fun b code => ∃ a first second, grammar a first ∧ tail a first.length b second ∧
      code = first ++ second)
      (position >>= fun start => read >>= fun a => position >>= fun stop =>
        next a (stop - start)) := by
  intro cursor b after
  let rest (a : α) : Reader β := fun middle => next a (middle.position - cursor.position) middle
  have hstart : (position >>= fun start => read >>= fun a => position >>= fun stop =>
      next a (stop - start)) cursor = (read >>= rest) cursor := rfl
  rw [hstart, bind_apply]
  constructor
  · intro hb
    split at hb
    · next a middle hr =>
      obtain ⟨first, unread, hfirst, hu, rfl⟩ := (h _ _ _).mp hr
      simp only [rest, Nat.add_sub_cancel_left] at hb
      obtain ⟨second, unread', hsecond, hu', rfl⟩ := (hn a _ _ _ _).mp hb
      refine ⟨first ++ second, unread', ⟨a, first, second, hfirst, hsecond, rfl⟩, ?_, ?_⟩
      · rw [hu, List.append_assoc]
        exact congrArg (first ++ ·) hu'
      · rw [List.length_append, Nat.add_assoc]
    · cases hb
  · intro hcode
    obtain ⟨code, unread, ⟨a, first, second, hfirst, hsecond, rfl⟩, hu, rfl⟩ := hcode
    have hr : read cursor = (.ok a, ⟨cursor.position + first.length, second ++ unread⟩) :=
      (h _ _ _).mpr ⟨first, second ++ unread, hfirst, by rw [hu, List.append_assoc], rfl⟩
    rw [hr]
    simp only [rest, Nat.add_sub_cancel_left]
    rw [(hn a _).apply hsecond, List.length_append, Nat.add_assoc]

theorem Reads.map (f : α → β) (h : Reads grammar read) :
    Reads (fun b code => ∃ a, grammar a code ∧ b = f a) (f <$> read) := by
  rw [map_eq_bind]
  refine (h.bind fun a => reads_pure (f a)).congr fun b code => ?_
  constructor
  · intro hsome
    obtain ⟨a, first, _, hfirst, ⟨rfl, rfl⟩, rfl⟩ := hsome
    exact ⟨a, by rwa [List.append_nil], rfl⟩
  · intro hsome
    obtain ⟨a, hcode, rfl⟩ := hsome
    exact ⟨a, code, [], hcode, ⟨rfl, rfl⟩, (List.append_nil code).symm⟩

theorem Reads.ite {p : Prop} [Decidable p] {grammar' : Grammar α} {other : Reader α}
    (h : Reads grammar read) (h' : Reads grammar' other) :
    Reads (fun a code => if p then grammar a code else grammar' a code)
      (if p then read else other) := by
  split
  · exact h
  · exact h'

theorem reads_bytes (n : Nat) : Reads (fun a code => a = code ∧ code.length = n) (bytes n) := by
  intro cursor a after
  unfold bytes
  constructor
  · intro h
    split at h
    · next hn =>
      cases h
      have hlen : (cursor.unread.take n).length = n :=
        List.length_take_of_le (hasLength_iff.mp hn)
      refine ⟨cursor.unread.take n, cursor.unread.drop n, ⟨rfl, hlen⟩,
        (List.take_append_drop n _).symm, ?_⟩
      rw [hlen]
      rfl
    · cases h
  · intro h
    obtain ⟨code, rest, ⟨rfl, rfl⟩, hu, rfl⟩ := h
    have hn : hasLength a.length cursor.unread = true := by
      rw [hasLength_iff, hu, List.length_append]
      omega
    rw [if_pos hn, Cursor.advance, hu, List.take_left, List.drop_left]

theorem reads_number (width : Nat) :
    Reads (fun n code => n < capacity width ∧ code = bigEndian width n) (number width) := by
  apply ((reads_bytes width).map ofBigEndian).congr
  intro n code
  constructor
  · intro h
    obtain ⟨a, ⟨rfl, rfl⟩, rfl⟩ := h
    exact ⟨ofBigEndian_lt a, (bigEndian_ofBigEndian a).symm⟩
  · intro h
    obtain ⟨hn, rfl⟩ := h
    refine ⟨bigEndian width n, ⟨rfl, length_bigEndian width n⟩, ?_⟩
    rw [ofBigEndian_bigEndian, Nat.mod_eq_of_lt hn]

theorem reads_word16 : Reads (fun word code => code = bigEndian 2 word.toNat) word16 := by
  apply ((reads_number 2).map Nat.toUInt16).congr
  intro word code
  constructor
  · intro h
    obtain ⟨n, ⟨hn, rfl⟩, rfl⟩ := h
    rw [show n.toUInt16.toNat = n from Nat.mod_eq_of_lt hn]
  · intro hsame
    subst hsame
    exact ⟨word.toNat, ⟨word.toNat_lt, rfl⟩, UInt16.ofNat_toNat.symm⟩

theorem reads_word32 : Reads (fun word code => code = bigEndian 4 word.toNat) word32 := by
  apply ((reads_number 4).map Nat.toUInt32).congr
  intro word code
  constructor
  · intro h
    obtain ⟨n, ⟨hn, rfl⟩, rfl⟩ := h
    rw [show n.toUInt32.toNat = n from Nat.mod_eq_of_lt hn]
  · intro hsame
    subst hsame
    exact ⟨word.toNat, ⟨word.toNat_lt, rfl⟩, UInt32.ofNat_toNat.symm⟩

theorem require_apply (n : Nat) (next : Unit → Reader α) (cursor : Cursor) :
    (require n >>= next) cursor =
      if n ≤ cursor.unread.length then next () cursor
      else (.error (.truncated cursor.position n cursor.unread.length), cursor) := by
  rw [bind_apply, require]
  by_cases hn : n ≤ cursor.unread.length
  · rw [if_pos (hasLength_iff.mpr hn), if_pos hn]
  · rw [if_neg (fun h => hn (hasLength_iff.mp h)), if_neg hn]

/-- Asking for bytes in advance changes nothing if every code has that many. -/
theorem Reads.require {n : Nat} {next : Unit → Reader α} (h : Reads grammar (next ()))
    (hn : ∀ a code, grammar a code → n ≤ code.length) :
    Reads grammar (Reader.require n >>= next) := by
  intro cursor a after
  rw [require_apply]
  constructor
  · intro hr
    split at hr
    · exact (h _ _ _).mp hr
    · cases hr
  · intro hcode
    obtain ⟨code, rest, hc, hu, rfl⟩ := hcode
    have hlen : n ≤ cursor.unread.length := by
      rw [hu, List.length_append]
      exact Nat.le_add_right_of_le (hn a code hc)
    rw [if_pos hlen]
    exact (h _ _ _).mpr ⟨code, rest, hc, hu, rfl⟩

theorem Reads.collect (h : Reads grammar read) (n : Nat) (found : Array α) :
    Reads (fun items code => ∃ more, items = found.toList ++ more ∧ more.length = n ∧
      grammar.inTurn more code) (collect read n found) := by
  induction n generalizing found with
  | zero =>
    apply (reads_pure found.toList).congr
    intro items code
    constructor
    · intro hsome
      obtain ⟨rfl, rfl⟩ := hsome
      exact ⟨[], (List.append_nil _).symm, rfl, rfl⟩
    · intro hsome
      obtain ⟨more, rfl, hlen, hcode⟩ := hsome
      obtain rfl := List.eq_nil_of_length_eq_zero hlen
      exact ⟨List.append_nil _, hcode⟩
  | succ n ih =>
    have hstep : Reader.collect read (n + 1) found =
        read >>= fun a => Reader.collect read n (found.push a) := rfl
    rw [hstep]
    refine (h.bind fun a => ih (found.push a)).congr fun items code => ?_
    constructor
    · intro hsome
      obtain ⟨a, first, second, hfirst, ⟨more, rfl, hlen, hmore⟩, rfl⟩ := hsome
      exact ⟨a :: more, by simp, by simp [hlen], first, second, hfirst, hmore, rfl⟩
    · intro hsome
      obtain ⟨more, rfl, hlen, hcode⟩ := hsome
      obtain ⟨a, others, rfl⟩ := List.exists_cons_of_length_eq_add_one hlen
      obtain ⟨first, second, hfirst, hothers, rfl⟩ := hcode
      exact ⟨a, first, second, hfirst, ⟨others, by simp, by simpa using hlen, hothers⟩, rfl⟩

theorem Reads.many (h : Reads grammar read) (n : Nat) :
    Reads (fun items code => items.length = n ∧ grammar.inTurn items code) (many read n) := by
  apply (h.collect n #[]).congr
  intro items code
  simp

end Reader

namespace Field

/-- The grammar of a format that is laid out as a list of fields. -/
def spells (fields : α → List Field) : Grammar α :=
  fun a code => concat (fields a) = .ok code

theorem concat_nil : concat [] = .ok [] := rfl

theorem concat_refused (fault : Fault) (rest : List Field) :
    concat (refused fault :: rest) = .error fault := rfl

theorem concat_bytes (content : Bytes) (rest : List Field) :
    concat (bytes content :: rest) = (concat rest).map (content ++ ·) := by
  unfold concat
  rw [List.findSome?_cons]
  simp only [refusal?]
  cases rest.findSome? refusal? <;> rfl

@[simp] theorem concat_bytes_eq_ok {content code : Bytes} {rest : List Field} :
    concat (bytes content :: rest) = .ok code ↔
      ∃ others, concat rest = .ok others ∧ code = content ++ others := by
  rw [concat_bytes]
  cases concat rest with
  | error fault => simp [Except.map]
  | ok others => simp [Except.map, eq_comm]

@[simp] theorem concat_number_eq_ok {width n : Nat} {what : String} {code : Bytes}
    {rest : List Field} :
    concat (number width what n :: rest) = .ok code ↔
      n < capacity width ∧
        ∃ others, concat rest = .ok others ∧ code = bigEndian width n ++ others := by
  unfold number
  split
  · next hn => simp [hn]
  · next hn => simp [hn, concat_refused]

theorem concat_append_eq_ok {first second : List Field} {code : Bytes} :
    concat (first ++ second) = .ok code ↔
      ∃ a b, concat first = .ok a ∧ concat second = .ok b ∧ code = a ++ b := by
  induction first generalizing code with
  | nil => simp [concat_nil, eq_comm]
  | cons field rest ih =>
    cases field with
    | refused fault => simp [concat_refused]
    | bytes content =>
      simp only [List.cons_append, concat_bytes_eq_ok, ih]
      constructor
      · intro h
        obtain ⟨_, ⟨a, b, ha, hb, rfl⟩, rfl⟩ := h
        exact ⟨content ++ a, b, ⟨a, ha, rfl⟩, hb, (List.append_assoc ..).symm⟩
      · intro h
        obtain ⟨_, b, ⟨a, ha, rfl⟩, hb, rfl⟩ := h
        exact ⟨a ++ b, ⟨a, b, ha, hb, rfl⟩, List.append_assoc ..⟩

theorem concat_flatMap_eq_ok {fields : α → List Field} {items : List α} {code : Bytes} :
    concat (items.flatMap fields) = .ok code ↔ (spells fields).inTurn items code := by
  induction items generalizing code with
  | nil => simp [concat_nil, Grammar.inTurn, eq_comm]
  | cons a rest ih => simp only [List.flatMap_cons, concat_append_eq_ok, ih, Grammar.inTurn, spells]

end Field
end RouteDiscovery.Wire

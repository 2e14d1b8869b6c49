import RouteDiscovery.Wire.Storage
import RouteDiscovery.Wire.Progress

/-!
Storages behave as the buffers that they stand for, whatever is done to them: no access goes out of
bounds, no bytes show that are not written, and what is written stays but for a new capacity.
-/
namespace RouteDiscovery.Wire

namespace Scalar
variable {type : Scalar} {value : Int}

/-- A negative value is stored as its two's complement. -/
theorem ofBigEndian_encode (h : type.Holds value) :
    (ofBigEndian (type.encode value) : Int) =
      if value < 0 then value + type.count else value := by
  obtain ⟨hleast, hgreatest⟩ := h
  have hpos : 0 < type.count := capacity_pos type.width
  have hlow : -(type.count : Int) ≤ value ∧ value < type.count := by
    unfold least at hleast hgreatest
    split at hleast <;> omega
  have hnonneg : 0 ≤ value % type.count := Int.emod_nonneg _ (by omega)
  have hlt : value % type.count < type.count := Int.emod_lt_of_pos _ (by omega)
  have hfits : (value % type.count).toNat < capacity type.width := by
    show (value % type.count).toNat < type.count
    omega
  rw [encode, ofBigEndian_bigEndian, Nat.mod_eq_of_lt hfits, Int.toNat_of_nonneg hnonneg]
  split
  · rw [← Int.add_emod_right, Int.emod_eq_of_lt (by omega) (by omega)]
  · exact Int.emod_eq_of_lt (by omega) (by omega)

/-- What is stored is what is read. -/
theorem decode_encode (h : type.Holds value) : type.decode (type.encode value) = value := by
  have hstored := ofBigEndian_encode h
  obtain ⟨hleast, hgreatest⟩ := h
  have hpos : 0 < type.count := capacity_pos type.width
  unfold least at hleast hgreatest
  unfold decode
  cases hsigned : type.signed with
  | true =>
    simp only [hsigned, if_true, true_and] at hleast hgreatest ⊢
    split at hstored <;> split <;> omega
  | false =>
    simp only [hsigned, Bool.false_eq_true, if_false, false_and] at hleast hgreatest ⊢
    rw [hstored, if_neg (Int.not_lt.mpr hleast)]

end Scalar

/-! What actions do to capacity, written bytes and cursor. -/

namespace BufferAction

/-- There is room for what is appended, and what is read has been written. -/
def Fits (buffer : Buffer) : BufferAction → Prop
  | append type _ => type.width ≤ buffer.capacity - buffer.size
  | appendBytes content => content.length ≤ buffer.capacity - buffer.size
  | read type | peek type => type.width ≤ buffer.size - buffer.position
  | readBytes n => n ≤ buffer.size - buffer.position
  | seek _ | rewind | resize _ => True

def reply (buffer : Buffer) : BufferAction → BufferReply
  | read type | peek type => .number (type.decode (buffer.unread.take type.width))
  | readBytes n => .bytes (buffer.unread.take n)
  | append .. | appendBytes _ | seek _ | rewind | resize _ => .done

def effect (buffer : Buffer) : BufferAction → Buffer
  | append type value => { buffer with written := buffer.written ++ type.encode value }
  | appendBytes content => { buffer with written := buffer.written ++ content }
  | read type => { buffer with position := buffer.position + type.width }
  | readBytes n => { buffer with position := buffer.position + n }
  | peek _ => buffer
  | seek offset => { buffer with position := min offset buffer.size }
  | rewind => { buffer with position := 0 }
  | resize capacity => .empty capacity

end BufferAction

namespace Buffer
variable {buffer : Buffer} {action : BufferAction}

def step (buffer : Buffer) : BufferAction → Except Fault BufferReply × Buffer
  | .append type value => (buffer.append (type.encode value)).map (·.map fun _ => .done) id
  | .appendBytes content => (buffer.append content).map (·.map fun _ => .done) id
  | .read type => (buffer.read (.scalar type)).map (·.map .number) id
  | .peek type => (buffer.read (.peek (.scalar type))).map (·.map .number) id
  | .readBytes n => (buffer.read (.bytes n)).map (·.map .bytes) id
  | .seek offset => (.ok .done, buffer.seek offset)
  | .rewind => (.ok .done, buffer.seek 0)
  | .resize capacity => (.ok .done, buffer.resize capacity)

/-- The replies to actions that are taken one after the other. -/
def run : List BufferAction → Buffer → List (Except Fault BufferReply) × Buffer
  | [], buffer => ([], buffer)
  | action :: rest, buffer =>
    let (reply, next) := buffer.step action
    let (replies, last) := run rest next
    (reply :: replies, last)

theorem append_of_lt {content : Bytes} (h : buffer.room < content.length) :
    buffer.append content = (.error (.bufferFull content.length buffer.room), buffer) :=
  if_neg (Nat.not_le.mpr h)

theorem length_unread (buffer : Buffer) : buffer.unread.length = buffer.left := by
  simp [unread, left, toList, size]

theorem read_bytes_of_le {n : Nat} (h : n ≤ buffer.left) :
    buffer.read (.bytes n) =
      (.ok (buffer.unread.take n), { buffer with position := buffer.position + n }) := by
  have hlong : hasLength n buffer.unread = true := by rwa [hasLength_iff, length_unread]
  simp [read, Reader.bytes, hlong, Cursor.advance]

theorem read_bytes_of_lt {n : Nat} (h : buffer.left < n) :
    buffer.read (.bytes n) = (.error (.truncated buffer.position n buffer.left), buffer) := by
  have hshort : hasLength n buffer.unread = false := by
    rw [← Bool.not_eq_true, hasLength_iff, length_unread]
    omega
  simp [read, Reader.bytes, hshort, length_unread]

theorem read_scalar (buffer : Buffer) (type : Scalar) :
    buffer.read (.scalar type) =
      (buffer.read (.bytes type.width)).map (·.map type.decode) id := by
  unfold read Reader.scalar
  rw [Reader.map_eq_bind, Reader.bind_apply]
  cases Reader.bytes type.width ⟨buffer.position, buffer.unread⟩ with
  | mk result cursor =>
    cases result with
    | ok content => rfl
    | error fault => rfl

theorem read_peek {α : Type} (buffer : Buffer) (reader : Reader α) :
    buffer.read (.peek reader) = ((buffer.read reader).1, buffer) := rfl

theorem step_of_fits (h : action.Fits buffer) :
    buffer.step action = (.ok (action.reply buffer), action.effect buffer) := by
  cases action with
  | append type value =>
    have hroom : (type.encode value).length ≤ buffer.room := by rwa [Scalar.length_encode]
    rw [step, append, if_pos hroom]
    rfl
  | appendBytes content =>
    rw [step, append, if_pos (show content.length ≤ buffer.room from h)]
    rfl
  | read type =>
    rw [step, read_scalar, read_bytes_of_le h]
    rfl
  | peek type =>
    rw [step, read_peek, read_scalar, read_bytes_of_le h]
    rfl
  | readBytes n =>
    rw [step, read_bytes_of_le h]
    rfl
  | seek offset => rfl
  | rewind => simp [step, seek, BufferAction.reply, BufferAction.effect]
  | resize capacity => rfl

theorem step_of_not_fits (h : ¬ action.Fits buffer) :
    ∃ fault, buffer.step action = (.error fault, buffer) := by
  cases action with
  | append type value =>
    have hroom : buffer.room < (type.encode value).length := by
      rw [Scalar.length_encode]
      exact Nat.lt_of_not_le h
    rw [step, append_of_lt hroom]
    exact ⟨_, rfl⟩
  | appendBytes content =>
    rw [step, append_of_lt (Nat.lt_of_not_le h)]
    exact ⟨_, rfl⟩
  | read type =>
    rw [step, read_scalar, read_bytes_of_lt (Nat.lt_of_not_le h)]
    exact ⟨_, rfl⟩
  | peek type =>
    rw [step, read_peek, read_scalar, read_bytes_of_lt (Nat.lt_of_not_le h)]
    exact ⟨_, rfl⟩
  | readBytes n =>
    rw [step, read_bytes_of_lt (Nat.lt_of_not_le h)]
    exact ⟨_, rfl⟩
  | seek offset => exact absurd trivial h
  | rewind => exact absurd trivial h
  | resize capacity => exact absurd trivial h

/-- Only a new capacity takes away from what is written. -/
theorem prefix_step (buffer : Buffer) (h : ∀ capacity, action ≠ .resize capacity) :
    (buffer.step action).2.capacity = buffer.capacity ∧
      buffer.toList <+: (buffer.step action).2.toList := by
  by_cases hfits : action.Fits buffer
  · rw [step_of_fits hfits]
    cases action with
    | append type value =>
      exact ⟨rfl, by simp [BufferAction.effect, toList]⟩
    | appendBytes content =>
      exact ⟨rfl, by simp [BufferAction.effect, toList]⟩
    | resize capacity => exact absurd rfl (h capacity)
    | read | peek | readBytes | seek | rewind => exact ⟨rfl, List.prefix_rfl⟩
  · obtain ⟨fault, hstep⟩ := step_of_not_fits hfits
    rw [hstep]
    exact ⟨rfl, List.prefix_rfl⟩

theorem prefix_run {actions : List BufferAction} (buffer : Buffer)
    (h : ∀ capacity, .resize capacity ∉ actions) :
    (buffer.run actions).2.capacity = buffer.capacity ∧
      buffer.toList <+: (buffer.run actions).2.toList := by
  induction actions generalizing buffer with
  | nil => exact ⟨rfl, List.prefix_rfl⟩
  | cons action rest ih =>
    have hfirst : ∀ capacity, action ≠ .resize capacity := by
      rintro capacity rfl
      exact h capacity List.mem_cons_self
    have hrest : ∀ capacity, .resize capacity ∉ rest := by
      intro capacity hmem
      exact h capacity (List.mem_cons_of_mem _ hmem)
    obtain ⟨hcapacity, hwritten⟩ := prefix_step buffer hfirst
    obtain ⟨hcapacities, hwrittens⟩ := ih (buffer.step action).2 hrest
    exact ⟨hcapacities.trans hcapacity, hwritten.trans hwrittens⟩

end Buffer

/-- How a buffer comes into being: empty, or full of bytes that are there already. -/
inductive BufferOrigin where
  | empty (capacity : Nat)
  | full (bytes : Bytes)

namespace BufferOrigin

def buffer : BufferOrigin → Buffer
  | empty capacity => .empty capacity
  | full bytes => .ofBytes bytes

def storage : BufferOrigin → Storage
  | empty capacity => .empty capacity
  | full bytes => .ofBytes bytes

theorem toBuffer_storage (origin : BufferOrigin) : origin.storage.toBuffer = origin.buffer := by
  cases origin with
  | empty capacity => simp [storage, buffer, Storage.empty, Storage.toBuffer, Buffer.empty]
  | full bytes => simp [storage, buffer, Storage.ofBytes, Storage.toBuffer, Buffer.ofBytes]

end BufferOrigin

namespace Storage
variable {storage : Storage} {action : BufferAction} {start stop : Nat} {data : Array UInt8}

/-- The offsets stand in order within the bytes. -/
structure InBounds (storage : Storage) : Prop where
  read_le : storage.readOffset ≤ storage.writeOffset
  written_le : storage.writeOffset ≤ storage.data.size

theorem slice?_of_le (hstart : start ≤ stop) (hstop : stop ≤ data.size) :
    slice? start stop data = some ((data.toList.take stop).drop start) := by
  rw [slice?, if_pos ⟨hstart, hstop⟩, Array.toList_extract, List.extract_eq_take_drop,
    List.drop_take]

theorem size_overwrite (i : Nat) (content : Bytes) (data : Array UInt8) :
    (overwrite i content data).size = data.size := by
  induction content generalizing i data with
  | nil => rfl
  | cons byte rest ih => rw [overwrite, ih, Array.size_setIfInBounds]

theorem take_overwrite {i : Nat} {content : Bytes} (h : i + content.length ≤ data.size) :
    (overwrite i content data).toList.take (i + content.length) =
      data.toList.take i ++ content := by
  induction content generalizing i data with
  | nil => simp [overwrite]
  | cons byte rest ih =>
    rw [List.length_cons] at h
    have hi : i < data.toList.length := by
      rw [Array.length_toList]
      omega
    have hset : (data.setIfInBounds i byte).toList.take (i + 1) =
        data.toList.take i ++ [byte] := by
      rw [Array.toList_setIfInBounds, List.take_add_one, List.take_set_of_le (Nat.le_refl i),
        List.getElem?_set_self hi]
      rfl
    have hrest : i + 1 + rest.length ≤ (data.setIfInBounds i byte).size := by
      rw [Array.size_setIfInBounds]
      omega
    rw [overwrite, List.length_cons, ← Nat.add_assoc, Nat.add_right_comm, ih hrest, hset,
      List.append_assoc, List.singleton_append]

theorem toList_toBuffer (storage : Storage) :
    storage.toBuffer.toList = storage.data.toList.take storage.writeOffset := by
  simp [toBuffer, Buffer.toList]

namespace InBounds
variable (h : storage.InBounds)
include h

theorem size_toBuffer : storage.toBuffer.size = storage.writeOffset := by
  rw [Buffer.size, ← Array.length_toList]
  change storage.toBuffer.toList.length = _
  rw [toList_toBuffer, List.length_take, Array.length_toList, Nat.min_eq_left h.written_le]

theorem room?_eq : storage.room? = some storage.toBuffer.room := by
  rw [room?, minus?, if_pos h.written_le, Buffer.room, h.size_toBuffer]
  rfl

theorem left?_eq : storage.left? = some storage.toBuffer.left := by
  rw [left?, minus?, if_pos h.read_le, Buffer.left, h.size_toBuffer]
  rfl

/-- The bytes behind those written are overwritten, and none before them. -/
theorem append?_of_le (content : Bytes) (hroom : content.length ≤ storage.toBuffer.room) :
    ∃ after, storage.append? content = some (.ok (), after) ∧ after.InBounds ∧
      after.toBuffer =
        { storage.toBuffer with written := storage.toBuffer.written ++ content } := by
  have hstop : storage.writeOffset + content.length ≤ storage.data.size := by
    have := h.written_le
    have hroom : content.length ≤ storage.data.size - storage.writeOffset := by
      rwa [Buffer.room, h.size_toBuffer] at hroom
    omega
  have hreserve : storage.reserve? content.length =
      some (.ok (storage.writeOffset + content.length)) := by
    rw [reserve?, h.room?_eq]
    simp [Nat.not_lt.mpr hroom]
  have hcopy : copy? storage.writeOffset (storage.writeOffset + content.length) content
      storage.data = some (overwrite storage.writeOffset content storage.data) := by
    rw [copy?, if_pos ⟨by omega, hstop, by omega⟩]
  refine ⟨⟨overwrite storage.writeOffset content storage.data,
    storage.writeOffset + content.length, storage.readOffset⟩, ?_, ⟨?_, ?_⟩, ?_⟩
  · rw [append?, hreserve]
    simp [hcopy]
  · exact Nat.le_add_right_of_le h.read_le
  · simpa only [size_overwrite] using hstop
  · have hwritten : (overwrite storage.writeOffset content storage.data).take
        (storage.writeOffset + content.length) =
        storage.data.take storage.writeOffset ++ content := by
      apply Array.toList_inj.mp
      simpa using take_overwrite hstop
    simp only [toBuffer, size_overwrite, hwritten]

theorem append?_of_lt {content : Bytes} (hroom : storage.toBuffer.room < content.length) :
    storage.append? content =
      some (.error (.bufferFull content.length storage.toBuffer.room), storage) := by
  rw [append?, reserve?, h.room?_eq]
  simp [hroom]

theorem seek (offset : Nat) : (storage.seek offset).InBounds :=
  ⟨Nat.min_le_right .., h.written_le⟩

theorem advance {n : Nat} (hleft : n ≤ storage.toBuffer.left) :
    InBounds { storage with readOffset := storage.readOffset + n } := by
  have hread := h.read_le
  rw [Buffer.left, h.size_toBuffer] at hleft
  change n ≤ storage.writeOffset - storage.readOffset at hleft
  refine ⟨?_, h.written_le⟩
  show storage.readOffset + n ≤ storage.writeOffset
  omega

theorem next?_of_le {n : Nat} (hleft : n ≤ storage.toBuffer.left) :
    storage.next? n = some (.ok (storage.toBuffer.unread.take n)) := by
  have hstop : storage.readOffset + n ≤ storage.writeOffset := (h.advance hleft).read_le
  have hslice : slice? storage.readOffset (storage.readOffset + n) storage.data = _ :=
    slice?_of_le (by omega) (Nat.le_trans hstop h.written_le)
  have hunread : (storage.data.toList.take (storage.readOffset + n)).drop storage.readOffset =
      storage.toBuffer.unread.take n := by
    rw [Buffer.unread, toList_toBuffer, List.take_drop, List.take_take]
    change _ = (storage.data.toList.take (min (storage.readOffset + n) _)).drop _
    rw [Nat.min_eq_left hstop]
    rfl
  rw [next?, h.left?_eq]
  simp [Nat.not_lt.mpr hleft, hslice, hunread]

theorem next?_of_lt {n : Nat} (hleft : storage.toBuffer.left < n) :
    storage.next? n =
      some (.error (.truncated storage.readOffset n storage.toBuffer.left)) := by
  rw [next?, h.left?_eq]
  simp [hleft]

end InBounds

/-- One action on a storage is the same action on the buffer that it stands for. -/
theorem step?_of_fits (h : storage.InBounds) (hfits : action.Fits storage.toBuffer) :
    ∃ after, storage.step? action = some (.ok (action.reply storage.toBuffer), after) ∧
      after.InBounds ∧ after.toBuffer = action.effect storage.toBuffer := by
  cases action with
  | append type value =>
    obtain ⟨after, hafter, hin, heq⟩ := h.append?_of_le (type.encode value)
      (by rwa [Scalar.length_encode])
    exact ⟨after, by simp [step?, hafter, Except.map, BufferAction.reply], hin, heq⟩
  | appendBytes content =>
    obtain ⟨after, hafter, hin, heq⟩ := h.append?_of_le content hfits
    exact ⟨after, by simp [step?, hafter, Except.map, BufferAction.reply], hin, heq⟩
  | read type =>
    have hnext := h.next?_of_le hfits
    exact ⟨_, by simp [step?, hnext, BufferAction.reply], h.advance hfits, rfl⟩
  | peek type =>
    have hnext := h.next?_of_le hfits
    exact ⟨storage, by simp [step?, hnext, Except.map, BufferAction.reply], h, rfl⟩
  | readBytes n =>
    have hnext := h.next?_of_le hfits
    exact ⟨_, by simp [step?, hnext, BufferAction.reply], h.advance hfits, rfl⟩
  | seek offset =>
    refine ⟨storage.seek offset, rfl, h.seek offset, ?_⟩
    simp only [BufferAction.effect, h.size_toBuffer]
    rfl
  | rewind => exact ⟨_, rfl, ⟨Nat.zero_le _, h.written_le⟩, rfl⟩
  | resize capacity =>
    refine ⟨storage.resize capacity, rfl, ⟨Nat.le_refl 0, Nat.zero_le _⟩, ?_⟩
    have hcapacity :
        min capacity storage.data.size + (capacity - storage.data.size) = capacity := by
      omega
    simp [toBuffer, resize, BufferAction.effect, Buffer.empty, hcapacity]

/-- What does not fit changes no byte of the storage. -/
theorem step?_of_not_fits (h : storage.InBounds) (hfits : ¬ action.Fits storage.toBuffer) :
    storage.step? action = some ((storage.toBuffer.step action).1, storage) := by
  cases action with
  | append type value =>
    have hroom : storage.toBuffer.room < (type.encode value).length := by
      rw [Scalar.length_encode]
      exact Nat.lt_of_not_le hfits
    rw [step?, h.append?_of_lt hroom, Buffer.step, Buffer.append_of_lt hroom]
    rfl
  | appendBytes content =>
    have hroom : storage.toBuffer.room < content.length := Nat.lt_of_not_le hfits
    rw [step?, h.append?_of_lt hroom, Buffer.step, Buffer.append_of_lt hroom]
    rfl
  | read type =>
    have hleft : storage.toBuffer.left < type.width := Nat.lt_of_not_le hfits
    rw [step?, h.next?_of_lt hleft, Buffer.step, Buffer.read_scalar, Buffer.read_bytes_of_lt hleft]
    rfl
  | peek type =>
    have hleft : storage.toBuffer.left < type.width := Nat.lt_of_not_le hfits
    rw [step?, h.next?_of_lt hleft, Buffer.step, Buffer.read_peek, Buffer.read_scalar,
      Buffer.read_bytes_of_lt hleft]
    rfl
  | readBytes n =>
    have hleft : storage.toBuffer.left < n := Nat.lt_of_not_le hfits
    rw [step?, h.next?_of_lt hleft, Buffer.step, Buffer.read_bytes_of_lt hleft]
    rfl
  | seek offset => exact absurd trivial hfits
  | rewind => exact absurd trivial hfits
  | resize capacity => exact absurd trivial hfits

theorem step?_eq (h : storage.InBounds) (action : BufferAction) :
    ∃ after, storage.step? action = some ((storage.toBuffer.step action).1, after) ∧
      after.InBounds ∧ after.toBuffer = (storage.toBuffer.step action).2 := by
  by_cases hfits : action.Fits storage.toBuffer
  · rw [Buffer.step_of_fits hfits]
    exact step?_of_fits h hfits
  · obtain ⟨fault, hstep⟩ := Buffer.step_of_not_fits hfits
    exact ⟨storage, step?_of_not_fits h hfits, h, by rw [hstep]⟩

theorem run?_eq (h : storage.InBounds) (actions : List BufferAction) :
    ∃ after, storage.run? actions = some ((storage.toBuffer.run actions).1, after) ∧
      after.InBounds ∧ after.toBuffer = (storage.toBuffer.run actions).2 := by
  induction actions generalizing storage with
  | nil => exact ⟨storage, rfl, h, rfl⟩
  | cons action rest ih =>
    obtain ⟨next, hstep, hnext, heq⟩ := step?_eq h action
    obtain ⟨last, hrun, hlast, heqs⟩ := ih hnext
    refine ⟨last, ?_, hlast, ?_⟩
    · simp [run?, hstep, hrun, heq, Buffer.run]
    · rw [heqs, heq, Buffer.run]

theorem inBounds_origin (origin : BufferOrigin) : origin.storage.InBounds := by
  cases origin with
  | empty capacity => exact ⟨Nat.le_refl 0, Nat.zero_le _⟩
  | full bytes => exact ⟨Nat.zero_le _, by simp [BufferOrigin.storage, ofBytes]⟩

/-- What a storage lets see of a buffer. -/
structure Shows (storage : Storage) (buffer : Buffer) : Prop where
  inBounds : storage.InBounds
  capacity_eq : storage.data.size = buffer.capacity
  size_eq : storage.writeOffset = buffer.size
  position_eq : storage.readOffset = buffer.position
  room?_eq : storage.room? = some (buffer.capacity - buffer.size)
  left?_eq : storage.left? = some (buffer.size - buffer.position)
  written?_eq : storage.written? = some buffer.toList
  writtenSince?_eq : ∀ start, storage.writtenSince? start = some (buffer.toList.drop start)
  unread?_eq : storage.unread? = some (buffer.toList.drop buffer.position)
  intoBytes_eq : storage.intoBytes = buffer.toList

/-- What comes of a storage, whatever is done to it next. -/
structure Obeys (storage : Storage) (buffer : Buffer) : Prop where
  succeeds : ∀ action, action.Fits buffer → ∃ after,
    storage.step? action = some (.ok (action.reply buffer), after) ∧
      after.Shows (action.effect buffer)
  fails : ∀ action, ¬ action.Fits buffer → ∃ fault,
    storage.step? action = some (.error fault, storage)
  appends : ∀ (type : Scalar) (value : Int), type.Holds value →
    type.width ≤ buffer.capacity - buffer.size → ∃ after content,
      storage.step? (.append type value) = some (.ok .done, after) ∧
        after.intoBytes = storage.intoBytes ++ content ∧ content.length = type.width ∧
        (ofBigEndian content : Int) = if value < 0 then value + type.count else value
  keeps : ∀ later : List BufferAction, (∀ capacity, .resize capacity ∉ later) →
    ∃ replies last, storage.run? later = some (replies, last) ∧
      last.data.size = storage.data.size ∧ storage.intoBytes <+: last.intoBytes
  /-- A value that was appended is read again from where it was put. -/
  returns : ∀ (type : Scalar) (value : Int) (later : List BufferAction), type.Holds value →
    type.width ≤ buffer.capacity - buffer.size → (∀ capacity, .resize capacity ∉ later) →
    ∃ replies last after, storage.run? (.append type value :: later) = some (replies, last) ∧
      (last.seek storage.writeOffset).step? (.read type) = some (.ok (.number value), after)

theorem InBounds.shows (h : storage.InBounds) : storage.Shows storage.toBuffer where
  inBounds := h
  capacity_eq := rfl
  size_eq := h.size_toBuffer.symm
  position_eq := rfl
  room?_eq := h.room?_eq
  left?_eq := h.left?_eq
  written?_eq := by
    rw [toList_toBuffer]
    exact slice?_of_le (Nat.zero_le _) h.written_le
  writtenSince?_eq := by
    intro start
    have hdrop : (storage.data.toList.take storage.writeOffset).drop
        (min start storage.writeOffset) =
        (storage.data.toList.take storage.writeOffset).drop start := by
      have hwritten := h.written_le
      rw [List.drop_eq_drop_iff, List.length_take, Array.length_toList]
      omega
    rw [toList_toBuffer, ← hdrop]
    exact slice?_of_le (Nat.min_le_right ..) h.written_le
  unread?_eq := by
    rw [toList_toBuffer]
    exact slice?_of_le h.read_le h.written_le
  intoBytes_eq := (toList_toBuffer storage).symm

namespace InBounds
variable {type : Scalar} {value : Int} {later : List BufferAction}

theorem length_intoBytes (h : storage.InBounds) :
    storage.intoBytes.length = storage.writeOffset := by
  rw [intoBytes, List.length_take, Array.length_toList, Nat.min_eq_left h.written_le]

theorem append (h : storage.InBounds) (value : Int) (hroom : type.width ≤ storage.toBuffer.room) :
    ∃ after, storage.step? (.append type value) = some (.ok .done, after) ∧ after.InBounds ∧
      after.intoBytes = storage.intoBytes ++ type.encode value := by
  have hfits : (BufferAction.append type value).Fits storage.toBuffer := hroom
  obtain ⟨after, hafter, hin, heq⟩ := step?_of_fits h hfits
  refine ⟨after, hafter, hin, ?_⟩
  rw [hin.shows.intoBytes_eq, heq, h.shows.intoBytes_eq]
  simp [BufferAction.effect, Buffer.toList]

theorem keeps (h : storage.InBounds) (hlater : ∀ capacity, .resize capacity ∉ later) :
    ∃ replies last, storage.run? later = some (replies, last) ∧ last.InBounds ∧
      last.data.size = storage.data.size ∧ storage.intoBytes <+: last.intoBytes := by
  obtain ⟨last, hrun, hin, heq⟩ := run?_eq h later
  obtain ⟨hcapacity, hwritten⟩ := Buffer.prefix_run storage.toBuffer hlater
  rw [← heq] at hcapacity hwritten
  rw [← h.shows.intoBytes_eq, ← hin.shows.intoBytes_eq] at hwritten
  exact ⟨_, last, hrun, hin, hcapacity, hwritten⟩

/-- What stands at an offset is read there. -/
theorem seek_read {before : Bytes} (h : storage.InBounds) (hvalue : type.Holds value)
    (hwritten : before ++ type.encode value <+: storage.intoBytes) :
    ∃ after, (storage.seek before.length).step? (.read type) =
      some (.ok (.number value), after) := by
  obtain ⟨rest, hrest⟩ := hwritten
  have hbefore : before.length ≤ storage.writeOffset := by
    rw [← h.length_intoBytes, ← hrest, List.append_assoc, List.length_append]
    omega
  have hunread : (storage.seek before.length).toBuffer.unread = type.encode value ++ rest := by
    rw [Buffer.unread, toList_toBuffer]
    change storage.intoBytes.drop (min before.length storage.writeOffset) = _
    rw [Nat.min_eq_left hbefore, ← hrest, List.append_assoc, List.drop_left]
  have hfits : (BufferAction.read type).Fits (storage.seek before.length).toBuffer := by
    show type.width ≤ Buffer.left _
    rw [← Buffer.length_unread, hunread, List.length_append, Scalar.length_encode]
    omega
  obtain ⟨after, hafter, -, -⟩ := step?_of_fits (h.seek before.length) hfits
  refine ⟨after, ?_⟩
  rw [hafter, BufferAction.reply, hunread, List.take_left' (type.length_encode value),
    Scalar.decode_encode hvalue]

theorem returns (h : storage.InBounds) (hvalue : type.Holds value)
    (hroom : type.width ≤ storage.toBuffer.room) (hlater : ∀ capacity, .resize capacity ∉ later) :
    ∃ replies last after, storage.run? (.append type value :: later) = some (replies, last) ∧
      (last.seek storage.writeOffset).step? (.read type) = some (.ok (.number value), after) := by
  obtain ⟨next, hstep, hnext, hnew⟩ := h.append value hroom
  obtain ⟨replies, last, hrun, hlast, -, hkept⟩ := hnext.keeps hlater
  rw [hnew] at hkept
  obtain ⟨after, hread⟩ := hlast.seek_read hvalue hkept
  rw [h.length_intoBytes] at hread
  exact ⟨.ok .done :: replies, last, after, by simp [run?, hstep, hrun], hread⟩

end InBounds

theorem InBounds.obeys (h : storage.InBounds) : storage.Obeys storage.toBuffer where
  succeeds := by
    intro action hfits
    obtain ⟨after, hafter, hin, heq⟩ := step?_of_fits h hfits
    exact ⟨after, hafter, heq ▸ hin.shows⟩
  fails := by
    intro action hfits
    obtain ⟨fault, hstep⟩ := Buffer.step_of_not_fits hfits
    exact ⟨fault, by rw [step?_of_not_fits h hfits, hstep]⟩
  appends := by
    intro type value hvalue hroom
    obtain ⟨after, hstep, -, hnew⟩ := h.append value hroom
    exact ⟨after, type.encode value, hstep, hnew, type.length_encode value,
      Scalar.ofBigEndian_encode hvalue⟩
  keeps := by
    intro later hlater
    obtain ⟨replies, last, hrun, -, hkept⟩ := h.keeps hlater
    exact ⟨replies, last, hrun, hkept⟩
  returns := by
    intro type value later hvalue hroom hlater
    exact h.returns hvalue hroom hlater

/-- Whatever is done to a buffer, its storage stays in bounds and answers as capacity, written bytes
and cursor say: what fits succeeds and shows in them, what does not changes nothing, and what is
written stays until the capacity is changed. -/
theorem refines_buffer (origin : BufferOrigin) (actions : List BufferAction) :
    ∃ storage, origin.storage.run? actions = some ((origin.buffer.run actions).1, storage) ∧
      storage.Shows (origin.buffer.run actions).2 ∧
      storage.Obeys (origin.buffer.run actions).2 := by
  obtain ⟨storage, hrun, hin, heq⟩ := run?_eq (inBounds_origin origin) actions
  rw [origin.toBuffer_storage] at hrun heq
  exact ⟨storage, hrun, heq ▸ hin.shows, heq ▸ hin.obeys⟩

/-- Bytes from before a new capacity lie in the storage still, and none of them shows. -/
example :
    let storage := (ofBytes [1, 2, 3]).resize 4
    storage.data = #[1, 2, 3, 0] ∧ storage.written? = some [] ∧
      (storage.append? [9]).bind (·.2.written?) = some [9] := by
  decide

end Storage
end RouteDiscovery.Wire

/-!
Numbers as big-endian bytes. Reading undoes writing for every number that fits the width, and
writing undoes reading.
-/
namespace RouteDiscovery.Wire

abbrev Bytes := List UInt8

/-- How many numbers fit `width` bytes. -/
def capacity (width : Nat) : Nat :=
  1 <<< (8 * width)

/-- The `width` low-order bytes of `n`, most significant first. -/
def bigEndian : Nat → Nat → Bytes
  | 0, _ => []
  | width + 1, n => UInt8.ofNat (n >>> (8 * width)) :: bigEndian width n

def ofBigEndian (bytes : Bytes) : Nat :=
  bytes.foldl (fun n byte => 256 * n + byte.toNat) 0

theorem capacity_zero : capacity 0 = 1 := rfl

theorem capacity_succ (width : Nat) : capacity (width + 1) = 256 * capacity width := by
  simp only [capacity, Nat.shiftLeft_eq, Nat.one_mul, Nat.mul_add, Nat.pow_add]
  omega

theorem capacity_pos (width : Nat) : 0 < capacity width := by
  rw [capacity, Nat.shiftLeft_eq, Nat.one_mul]
  exact Nat.two_pow_pos _

theorem shiftRight_eq_div_capacity (n width : Nat) : n >>> (8 * width) = n / capacity width := by
  simp [capacity, Nat.shiftLeft_eq, Nat.shiftRight_eq_div_pow]

@[simp] theorem length_bigEndian (width n : Nat) : (bigEndian width n).length = width := by
  induction width with
  | zero => rfl
  | succ width ih => simp [bigEndian, ih]

theorem foldl_bigEndian (width n m : Nat) :
    (bigEndian width n).foldl (fun n byte => 256 * n + byte.toNat) m =
      m * capacity width + n % capacity width := by
  induction width generalizing m with
  | zero => simp [bigEndian, capacity_zero, Nat.mod_one]
  | succ width ih =>
    have hbyte : (UInt8.ofNat (n >>> (8 * width))).toNat = n / capacity width % 256 := by
      simp [UInt8.toNat_ofNat', shiftRight_eq_div_capacity]
    rw [bigEndian, List.foldl_cons, ih, hbyte, capacity_succ, Nat.mul_comm 256 (capacity width),
      Nat.mod_mul, Nat.add_mul, Nat.mul_comm 256 m, Nat.mul_assoc m,
      Nat.mul_comm 256 (capacity width), Nat.mul_comm (capacity width) (_ % 256)]
    omega

theorem ofBigEndian_bigEndian (width n : Nat) :
    ofBigEndian (bigEndian width n) = n % capacity width := by
  simp [ofBigEndian, foldl_bigEndian]

theorem foldl_ofBigEndian (bytes : Bytes) (n : Nat) :
    bytes.foldl (fun n byte => 256 * n + byte.toNat) n =
      n * capacity bytes.length + ofBigEndian bytes := by
  induction bytes generalizing n with
  | nil => simp [ofBigEndian, capacity_zero]
  | cons byte rest ih =>
    rw [ofBigEndian, List.foldl_cons, List.foldl_cons, ih, ih (256 * 0 + byte.toNat),
      List.length_cons, capacity_succ]
    simp only [Nat.mul_zero, Nat.zero_add, Nat.add_mul, Nat.mul_assoc, Nat.mul_left_comm 256 n,
      Nat.add_assoc]

theorem ofBigEndian_cons (byte : UInt8) (rest : Bytes) :
    ofBigEndian (byte :: rest) = byte.toNat * capacity rest.length + ofBigEndian rest := by
  rw [ofBigEndian, List.foldl_cons, foldl_ofBigEndian]
  simp

theorem ofBigEndian_lt (bytes : Bytes) : ofBigEndian bytes < capacity bytes.length := by
  induction bytes with
  | nil => simp [ofBigEndian, capacity_zero]
  | cons byte rest ih =>
    have hbyte : byte.toNat < 256 := byte.toNat_lt
    rw [ofBigEndian_cons, List.length_cons, capacity_succ]
    calc byte.toNat * capacity rest.length + ofBigEndian rest
        < byte.toNat * capacity rest.length + capacity rest.length := by omega
      _ = (byte.toNat + 1) * capacity rest.length := by rw [Nat.add_mul, Nat.one_mul]
      _ ≤ 256 * capacity rest.length := Nat.mul_le_mul_right _ hbyte

/-- What lies above the width does not show in the bytes. -/
theorem bigEndian_mul_add (width m n : Nat) :
    bigEndian width (m * capacity width + n) = bigEndian width n := by
  induction width generalizing m n with
  | zero => rfl
  | succ width ih =>
    have hsplit : m * capacity (width + 1) + n = 256 * m * capacity width + n := by
      rw [capacity_succ, Nat.mul_left_comm, ← Nat.mul_assoc]
    rw [bigEndian, bigEndian, hsplit, ih]
    congr 1
    rw [shiftRight_eq_div_capacity, shiftRight_eq_div_capacity, Nat.add_comm,
      Nat.add_mul_div_right _ _ (capacity_pos width)]
    apply UInt8.toNat_inj.mp
    simp only [UInt8.toNat_ofNat']
    omega

theorem bigEndian_ofBigEndian (bytes : Bytes) :
    bigEndian bytes.length (ofBigEndian bytes) = bytes := by
  induction bytes with
  | nil => rfl
  | cons byte rest ih =>
    rw [ofBigEndian_cons, List.length_cons, bigEndian, bigEndian_mul_add, ih,
      shiftRight_eq_div_capacity, Nat.add_comm, Nat.add_mul_div_right _ _ (capacity_pos _),
      Nat.div_eq_of_lt (ofBigEndian_lt rest), Nat.zero_add, UInt8.ofNat_toNat]

end RouteDiscovery.Wire

/-!
The MD5 message digest: sixty-four rounds over each block of sixteen little-endian words.
-/
namespace RouteDiscovery.Digest.MD5

/-- The four words that the rounds transform. -/
structure State where
  a : UInt32
  b : UInt32
  c : UInt32
  d : UInt32
  deriving DecidableEq

def initial : State :=
  ⟨0x67452301, 0xefcdab89, 0x98badcfe, 0x10325476⟩

/-- The integer parts of `4294967296 * |sin (i + 1)|`. -/
def sines : Array UInt32 := #[
  0xd76aa478, 0xe8c7b756, 0x242070db, 0xc1bdceee, 0xf57c0faf, 0x4787c62a, 0xa8304613, 0xfd469501,
  0x698098d8, 0x8b44f7af, 0xffff5bb1, 0x895cd7be, 0x6b901122, 0xfd987193, 0xa679438e, 0x49b40821,
  0xf61e2562, 0xc040b340, 0x265e5a51, 0xe9b6c7aa, 0xd62f105d, 0x02441453, 0xd8a1e681, 0xe7d3fbc8,
  0x21e1cde6, 0xc33707d6, 0xf4d50d87, 0x455a14ed, 0xa9e3e905, 0xfcefa3f8, 0x676f02d9, 0x8d2a4c8a,
  0xfffa3942, 0x8771f681, 0x6d9d6122, 0xfde5380c, 0xa4beea44, 0x4bdecfa9, 0xf6bb4b60, 0xbebfbc70,
  0x289b7ec6, 0xeaa127fa, 0xd4ef3085, 0x04881d05, 0xd9d4d039, 0xe6db99e5, 0x1fa27cf8, 0xc4ac5665,
  0xf4292244, 0x432aff97, 0xab9423a7, 0xfc93a039, 0x655b59c3, 0x8f0ccc92, 0xffeff47d, 0x85845dd1,
  0x6fa87e4f, 0xfe2ce6e0, 0xa3014314, 0x4e0811a1, 0xf7537e82, 0xbd3af235, 0x2ad7d2bb, 0xeb86d391]

/-- How far each round rotates; each group of sixteen rounds repeats four amounts. -/
def shift (round : Nat) : UInt32 :=
  let amounts : Array UInt32 := #[7, 12, 17, 22, 5, 9, 14, 20, 4, 11, 16, 23, 6, 10, 15, 21]
  amounts.getD (4 * (round / 16) + round % 4) 0

def rotate (word amount : UInt32) : UInt32 :=
  word <<< amount ||| word >>> (32 - amount)

/-- The mixing function of a round and the word of the block that it takes. -/
def mix (round : Nat) (s : State) : UInt32 × Nat :=
  if round < 16 then ((s.b &&& s.c) ||| (~~~s.b &&& s.d), round)
  else if round < 32 then ((s.d &&& s.b) ||| (~~~s.d &&& s.c), (5 * round + 1) % 16)
  else if round < 48 then (s.b ^^^ s.c ^^^ s.d, (3 * round + 5) % 16)
  else (s.c ^^^ (s.b ||| ~~~s.d), 7 * round % 16)

def step (block : Array UInt32) (s : State) (round : Nat) : State :=
  let (mixed, index) := mix round s
  let sum := s.a + mixed + sines.getD round 0 + block.getD index 0
  ⟨s.d, s.b + rotate sum (shift round), s.b, s.c⟩

def compress (s : State) (block : Array UInt32) : State :=
  let t := (List.range 64).foldl (step block) s
  ⟨s.a + t.a, s.b + t.b, s.c + t.c, s.d + t.d⟩

/-- A set bit, zeros up to eight bytes short of a whole block, and the length in bits. -/
def padding (length : Nat) : List UInt8 :=
  let size := 8 * length
  (0x80 : UInt8) :: List.replicate ((119 - length % 64) % 64) 0 ++
    (List.range 8).map fun i => UInt8.ofNat (size >>> (8 * i))

/-- Little-endian words behind those already found; fewer than four last bytes are dropped. -/
def words (found : Array UInt32) : List UInt8 → Array UInt32
  | a :: b :: c :: d :: rest =>
    words (found.push
      (a.toUInt32 ||| b.toUInt32 <<< 8 ||| c.toUInt32 <<< 16 ||| d.toUInt32 <<< 24)) rest
  | _ => found

def hash (bytes : List UInt8) : State :=
  let all := words #[] (bytes ++ padding bytes.length)
  (List.range (all.size / 16)).foldl
    (fun s i => compress s (all.extract (16 * i) (16 * i + 16))) initial

end RouteDiscovery.Digest.MD5

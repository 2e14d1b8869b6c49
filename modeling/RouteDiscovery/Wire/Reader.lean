import RouteDiscovery.Wire.Scalar
import RouteDiscovery.Wire.Fault

/-!
Readers consume bytes in front of a cursor. What a reader consumed before it failed stays consumed,
unless it reads `atomically`.
-/
namespace RouteDiscovery.Wire

/-- Decides `n ≤ items.length` without walking past the first `n` items. -/
def hasLength {α : Type} : Nat → List α → Bool
  | 0, _ => true
  | _ + 1, [] => false
  | n + 1, _ :: rest => hasLength n rest

theorem hasLength_iff {α : Type} {n : Nat} {items : List α} :
    hasLength n items = true ↔ n ≤ items.length := by
  induction n generalizing items with
  | zero => simp [hasLength]
  | succ n ih =>
    cases items with
    | nil => simp [hasLength]
    | cons a rest => simp [hasLength, ih]

/-- A place in a byte sequence: how many bytes lie before it, and which lie ahead. -/
structure Cursor where
  position : Nat
  unread : Bytes
  deriving DecidableEq

def Cursor.advance (cursor : Cursor) (n : Nat) : Cursor :=
  ⟨cursor.position + n, cursor.unread.drop n⟩

def Reader (α : Type) : Type :=
  Cursor → Except Fault α × Cursor

namespace Reader
variable {α β : Type}

instance : Monad Reader where
  pure a := fun cursor => (.ok a, cursor)
  bind read next := fun cursor =>
    match read cursor with
    | (.ok a, rest) => next a rest
    | (.error fault, rest) => (.error fault, rest)

def fail (fault : Fault) : Reader α :=
  fun cursor => (.error fault, cursor)

def position : Reader Nat :=
  fun cursor => (.ok cursor.position, cursor)

/-- Fails unless `n` bytes lie ahead. -/
def require (n : Nat) : Reader Unit :=
  fun cursor =>
    if hasLength n cursor.unread then (.ok (), cursor)
    else (.error (.truncated cursor.position n cursor.unread.length), cursor)

def bytes (n : Nat) : Reader Bytes :=
  fun cursor =>
    if hasLength n cursor.unread then (.ok (cursor.unread.take n), cursor.advance n)
    else (.error (.truncated cursor.position n cursor.unread.length), cursor)

def scalar (type : Scalar) : Reader Int :=
  type.decode <$> bytes type.width

def number (width : Nat) : Reader Nat :=
  ofBigEndian <$> bytes width

def word16 : Reader UInt16 :=
  Nat.toUInt16 <$> number 2

def word32 : Reader UInt32 :=
  Nat.toUInt32 <$> number 4

/-- The same value, with the cursor left where it was. -/
def peek (read : Reader α) : Reader α :=
  fun cursor => ((read cursor).1, cursor)

/-- A failure leaves the cursor where it was. -/
def atomically (read : Reader α) : Reader α :=
  fun cursor =>
    match read cursor with
    | (.ok a, rest) => (.ok a, rest)
    | (.error fault, _) => (.error fault, cursor)

/-- Reads `n` more items behind those in `found`. -/
def collect (read : Reader α) : Nat → Array α → Reader (List α)
  | 0, found, cursor => (.ok found.toList, cursor)
  | n + 1, found, cursor =>
    match read cursor with
    | (.ok a, rest) => collect read n (found.push a) rest
    | (.error fault, rest) => (.error fault, rest)

def many (read : Reader α) (n : Nat) : Reader (List α) :=
  collect read n #[]

end Reader
end RouteDiscovery.Wire

/-!
Numerals: bounded decimal numbers are read, and words are shown in hexadecimal.
-/
namespace RouteDiscovery.Text

/-- The value of a decimal digit; only the ten ASCII digits count. -/
def digitValue? (c : Char) : Option Nat :=
  if '0' ≤ c ∧ c ≤ '9' then some (c.toNat - '0'.toNat) else none

/-- The number that the digits denote, most significant first. -/
def digitsValue? (digits : List Char) : Option Nat :=
  digits.foldlM (fun n c => (digitValue? c).map (10 * n + ·)) 0

/-- A decimal numeral of at least one digit, with an optional plus sign, no greater than `limit`. -/
def readNumber? (limit : Nat) (text : String) : Option Nat :=
  let digits := match text.toList with
    | '+' :: rest => rest
    | chars => chars
  if digits.isEmpty then none
  else (digitsValue? digits).filter (· ≤ limit)

def hexDigit (n : Nat) : Char :=
  if n < 10 then Char.ofNat ('0'.toNat + n) else Char.ofNat ('a'.toNat + (n - 10))

/-- The eight hexadecimal digits of a word. -/
def hexWord (word : UInt32) : String :=
  String.ofList ((List.range 8).map fun i => hexDigit (word.toNat >>> (4 * (7 - i)) % 16))

/-- Hexadecimal without leading zeros. -/
def hexNumber (n : Nat) : String :=
  String.ofList (Nat.toDigits 16 n)

end RouteDiscovery.Text

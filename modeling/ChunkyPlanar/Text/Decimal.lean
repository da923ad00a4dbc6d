/-! Decimal numerals of ASCII digits, with any number of leading zeros. -/

namespace ChunkyPlanar.Decimal

def value (digits : List Char) : Nat :=
  digits.foldl (fun value digit => 10 * value + (digit.toNat - '0'.toNat)) 0

def digits? (text : List Char) : Option Nat :=
  if text.isEmpty then
    none
  else if text.all Char.isDigit then
    some (value text)
  else
    none

/-- One plus sign may stand in front. -/
def unsigned? : List Char → Option Nat
  | '+' :: digits => digits? digits
  | text => digits? text

/-- One sign may stand in front. -/
def signed? : List Char → Option Int
  | '-' :: digits => (digits? digits).map fun value => -(value : Int)
  | text => (unsigned? text).map Int.ofNat

def upTo? (limit : Nat) (text : List Char) : Option Nat :=
  (unsigned? text).filter (· ≤ limit)

end ChunkyPlanar.Decimal

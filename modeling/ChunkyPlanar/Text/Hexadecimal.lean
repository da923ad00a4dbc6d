/-! Hexadecimal numerals in lower case: written with a set number of digits, read with
any number of them. -/

namespace ChunkyPlanar.Hexadecimal

/-- A value above fifteen stands for its lowest digit. -/
def digit (value : Nat) : Char :=
  let low := value % 16
  if low < 10 then Char.ofNat (48 + low) else Char.ofNat (87 + low)

def digits : Nat → Nat → List Char
  | 0, _ => []
  | count + 1, value => digits count (value / 16) ++ [digit value]

@[simp] theorem length_digits (count value : Nat) :
    (digits count value).length = count := by
  induction count generalizing value with
  | zero => rfl
  | succ count ih => simp [digits, ih]

def isDigit (c : Char) : Bool := c.isDigit || 'a' ≤ c && c ≤ 'f'

def digitValue (c : Char) : Nat := if c.isDigit then c.toNat - 48 else c.toNat - 87

def value (digits : List Char) : Nat :=
  digits.foldl (fun value digit => 16 * value + digitValue digit) 0

def number? (text : List Char) : Option Nat :=
  if text.isEmpty then
    none
  else if text.all isDigit then
    some (value text)
  else
    none

end ChunkyPlanar.Hexadecimal

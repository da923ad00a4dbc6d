import ChunkyPlanar.Toml.Value

/-! Scalars without quotes: booleans, integers of 64 bits, floats, dates and
times. Each reader takes the whole numeral. -/

namespace ChunkyPlanar.Toml

def digitValue? (base : Nat) (c : Char) : Option Nat :=
  let value :=
    if c.isDigit then c.toNat - '0'.toNat
    else if 'a' ≤ c ∧ c ≤ 'f' then c.toNat - 'a'.toNat + 10
    else if 'A' ≤ c ∧ c ≤ 'F' then c.toNat - 'A'.toNat + 10
    else base
  if value < base then some value else none

/-- Digits, with single underscores between them allowed. -/
def digits? (base : Nat) (numeral : List Char) : Option (List Nat) := do
  let groups := numeral.splitOn '_'
  guard (groups.all (!·.isEmpty))
  groups.flatten.mapM (digitValue? base)

def valueOf (base : Nat) (digits : List Nat) : Nat :=
  digits.foldl (fun value digit => base * value + digit) 0

def splitSign : List Char → Bool × List Char
  | '-' :: numeral => (true, numeral)
  | '+' :: numeral => (false, numeral)
  | numeral => (false, numeral)

/-- No leading zeros. -/
def decimalDigits? (numeral : List Char) : Option (List Nat) :=
  match numeral with
  | '0' :: _ :: _ => none
  | _ => digits? 10 numeral

def inRange (value : Int) : Option Int :=
  if Int64.minValue.toInt ≤ value ∧ value ≤ Int64.maxValue.toInt then
    some value
  else
    none

def integer? (numeral : List Char) : Option Int :=
  match numeral with
  | '0' :: 'x' :: digits => do inRange (valueOf 16 (← digits? 16 digits))
  | '0' :: 'o' :: digits => do inRange (valueOf 8 (← digits? 8 digits))
  | '0' :: 'b' :: digits => do inRange (valueOf 2 (← digits? 2 digits))
  | _ => do
      let (negative, numeral) := splitSign numeral
      let value : Int := valueOf 10 (← decimalDigits? numeral)
      inRange (if negative then -value else value)

/-- Whether `10 ^ exponent` times the digits' value rounds beyond every double. -/
def exceedsDoubles (digits : List Nat) (exponent : Int) : Bool :=
  let digits := digits.dropWhile (· = 0)
  let magnitude := (digits.length : Int) + exponent
  if digits.isEmpty ∨ magnitude < 300 then
    false
  else if 400 < magnitude then
    true
  else
    let bound := Nat.pow 2 1024 - Nat.pow 2 970
    bound * Nat.pow 10 (-exponent).toNat ≤
      valueOf 10 digits * Nat.pow 10 exponent.toNat

/-- A fraction, an exponent or both follow the integer part. -/
def isFloat (numeral : List Char) : Bool :=
  let (negative, unsigned) := splitSign numeral
  if unsigned = "inf".toList ∨ unsigned = "nan".toList then
    true
  else
    let mantissa := unsigned.takeWhile fun c => c ≠ 'e' ∧ c ≠ 'E'
    let power := unsigned.drop mantissa.length
    let whole := mantissa.takeWhile (· ≠ '.')
    let fraction := mantissa.drop whole.length
    let wholeDigits? := decimalDigits? whole
    let fractionDigits? := if fraction.isEmpty then some [] else digits? 10 fraction.tail
    let (small, exponent) := splitSign power.tail
    let exponentDigits? := if power.isEmpty then some [] else digits? 10 exponent
    match wholeDigits?, fractionDigits?, exponentDigits? with
    | some wholeDigits, some fractionDigits, some exponentDigits =>
        let exponent : Int := valueOf 10 exponentDigits
        let scale := (if small then -exponent else exponent) - fractionDigits.length
        !(fraction.isEmpty && power.isEmpty) &&
          (negative || !exceedsDoubles (wholeDigits ++ fractionDigits) scale)
    | _, _, _ => false

/-- Two digits with a value in the range, and what follows them. -/
def twoDigits? (least greatest : Nat) : List Char → Option (Nat × List Char)
  | tens :: ones :: rest => do
      let value := 10 * (← digitValue? 10 tens) + (← digitValue? 10 ones)
      guard (least ≤ value ∧ value ≤ greatest)
      return (value, rest)
  | _ => none

def mark? (mark : Char) : List Char → Option (List Char)
  | c :: rest => if c = mark then some rest else none
  | [] => none

def daysOf (year month : Nat) : Nat :=
  let leap := year % 4 = 0 ∧ (year % 100 ≠ 0 ∨ year % 400 = 0)
  if month = 2 then if leap then 29 else 28
  else if month = 4 ∨ month = 6 ∨ month = 9 ∨ month = 11 then 30
  else 31

def date? (numeral : List Char) : Option (List Char) := do
  let (century, rest) ← twoDigits? 0 99 numeral
  let (year, rest) ← twoDigits? 0 99 rest
  let (month, rest) ← twoDigits? 1 12 (← mark? '-' rest)
  let (_, rest) ← twoDigits? 1 (daysOf (100 * century + year) month) (← mark? '-' rest)
  return rest

def time? (numeral : List Char) : Option (List Char) := do
  let (_, rest) ← twoDigits? 0 23 numeral
  let (_, rest) ← twoDigits? 0 59 (← mark? ':' rest)
  let (_, rest) ← twoDigits? 0 60 (← mark? ':' rest)
  match rest with
  | '.' :: fraction =>
      guard (fraction.head?.any Char.isDigit)
      return fraction.dropWhile Char.isDigit
  | _ => return rest

def isOffset (numeral : List Char) : Bool :=
  match numeral with
  | [] | ['Z'] | ['z'] => true
  | sign :: rest =>
      (sign = '+' || sign = '-') && (do
        let (_, rest) ← twoDigits? 0 23 rest
        let (_, rest) ← twoDigits? 0 59 (← mark? ':' rest)
        return rest.isEmpty) = some true

def isDate (numeral : List Char) : Bool := date? numeral = some []

/-- A date, a time, or both with a `T` or a blank between them. -/
def isDateTime (numeral : List Char) : Bool :=
  isDate numeral || time? numeral = some [] ||
    match date? numeral with
    | some (delimiter :: rest) =>
        (delimiter = 'T' || delimiter = 't' || delimiter = ' ') &&
          (time? rest).any isOffset
    | _ => false

def scalar? (numeral : List Char) : Option Value :=
  if numeral = "true".toList then some (.boolean true)
  else if numeral = "false".toList then some (.boolean false)
  else if isDateTime numeral then some (.dateTime (String.ofList numeral))
  else if isFloat numeral then some (.float (String.ofList numeral))
  else (integer? numeral).map .integer

end ChunkyPlanar.Toml

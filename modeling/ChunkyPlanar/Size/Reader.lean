import ChunkyPlanar.Size
import ChunkyPlanar.Text.Blank
import ChunkyPlanar.Text.Decimal

/-! Sizes as text: a width and a height around the first `x`, each a decimal
numeral of 32 bits that may stand between blanks. -/

namespace ChunkyPlanar

inductive SizeError where
  | missingSeparator
  | invalidWidth
  | invalidHeight
  deriving DecidableEq, Repr

def SizeError.message (error : SizeError) (text : String) : String :=
  match error with
  | .missingSeparator => s!"Invalid size '{text}': expected WIDTHxHEIGHT"
  | .invalidWidth => s!"Invalid width in '{text}'"
  | .invalidHeight => s!"Invalid height in '{text}'"

namespace Size

def isSeparator (c : Char) : Bool := c = 'x' || c = 'X'

def extent? (text : List Char) : Option UInt32 :=
  (Decimal.upTo? (UInt32.size - 1) (Blank.trim text)).map Nat.toUInt32

def parse (text : String) : Except SizeError Size :=
  let left := text.toList.takeWhile (fun c => !isSeparator c)
  match text.toList.dropWhile (fun c => !isSeparator c) with
  | [] => .error .missingSeparator
  | _ :: right =>
      match extent? left, extent? right with
      | some width, some height => .ok ⟨width, height⟩
      | none, _ => .error .invalidWidth
      | some _, none => .error .invalidHeight

end Size

end ChunkyPlanar

import ChunkyPlanar.Pixmap.Formats
import ChunkyPlanar.Text.Decimal

/-! Portable pixmaps: a header of text with the size and the greatest value of a
channel, 255, and then the bytes of the pixels. -/

namespace ChunkyPlanar.Pixmap.Portable

def header (size : Size) : String := s!"P6\n{size.width} {size.height} 255\n"

def encode (pixmap : Pixmap) : Bytes :=
  (header pixmap.toSize).toUTF8.data ++ pixmap.pixels

def isSpace (byte : UInt8) : Bool :=
  byte = 0x20 || (0x9 ≤ byte && byte ≤ 0xD)

/-- Spaces, and comments up to the end of their line, stand between fields. -/
def skipSpaces : (inComment : Bool) → List UInt8 → List UInt8
  | _, [] => []
  | true, byte :: rest => skipSpaces (byte ≠ 0xA) rest
  | false, byte :: rest =>
      if byte = 0x23 then skipSpaces true rest
      else if isSpace byte then skipSpaces false rest
      else byte :: rest

def field? (limit : Nat) (bytes : List UInt8) : Option (Nat × List UInt8) := do
  let bytes := skipSpaces false bytes
  let numeral := bytes.takeWhile fun byte => 0x30 ≤ byte && byte ≤ 0x39
  let digits := numeral.map fun byte => Char.ofNat byte.toNat
  return (← Decimal.upTo? limit digits, bytes.drop numeral.length)

/-- Longer headers are not read. -/
def longestHeader : Nat := 4096

def decode? (bytes : Bytes) : Option Pixmap := do
  let front := (bytes.extract 0 longestHeader).toList
  match front with
  | 0x50 :: 0x36 :: rest => do
      let (width, rest) ← field? (UInt32.size - 1) rest
      let (height, rest) ← field? (UInt32.size - 1) rest
      let (greatest, rest) ← field? 255 rest
      guard (greatest = 255 ∧ rest.head?.any isSpace)
      let start := front.length - rest.length + 1
      ofBytes? ⟨width.toUInt32, height.toUInt32⟩ (bytes.extract start)
  | _ => none

/-- No other format is read or written. -/
def codec : ImageCodec where
  decode?
    | .pnm, content => decode? content
    | _, _ => none
  encode?
    | .pnm, pixmap => some (encode pixmap)
    | _, _ => none

end ChunkyPlanar.Pixmap.Portable

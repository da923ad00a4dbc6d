import ChunkyPlanar.Color
import ChunkyPlanar.Journal

/-! Hardware palettes: one word a slot. A palette file is the words alone, two
bytes each with the high byte first. -/

namespace ChunkyPlanar

structure HardwarePalette where
  words : Array UInt16
  deriving DecidableEq, Repr

inductive PaletteError where
  | tooManyColors (colors slots : Nat)
  | slotsOutOfRange (slots : Nat)
  | missingColor (index : UInt8) (colors : Nat)
  | wrongFileLength (length : Nat)
  deriving DecidableEq, Repr

def PaletteError.message : PaletteError → String
  | .tooManyColors colors slots =>
      s!"Palette too large: {colors} colors do not fit in {slots} slots"
  | .slotsOutOfRange slots =>
      s!"Invalid slot count {slots}: must be between 1 and 256"
  | .missingColor index colors =>
      s!"Palette index {index} is outside the source palette of {colors} colors"
  | .wrongFileLength length =>
      s!"Invalid palette file length: {length} bytes is not a whole number of " ++
        "16-bit words within 256 slots"

namespace HardwarePalette

def maxSize : Nat := 256

def defaultSize : Nat := 32

def black (slots : Nat) : HardwarePalette := ⟨Array.replicate slots 0⟩

def size (palette : HardwarePalette) : Nat := palette.words.size

def isEmpty (palette : HardwarePalette) : Bool := palette.words.isEmpty

def get? (palette : HardwarePalette) (slot : Nat) : Option UInt16 :=
  palette.words[slot]?

def colors (palette : HardwarePalette) : Array Color :=
  palette.words.map Color.ofWord

def wordBytes (word : UInt16) : Bytes := #[(word >>> 8).toUInt8, word.toUInt8]

def toBytes (palette : HardwarePalette) : Bytes :=
  palette.words.flatMap wordBytes

def ofBytes (bytes : Bytes) : Logged PaletteError HardwarePalette :=
  if bytes.isEmpty ∨ bytes.size % 2 ≠ 0 ∨ maxSize * 2 < bytes.size then
    .fail s!"Palette file has {bytes.size} bytes" (.wrongFileLength bytes.size)
  else
    .succeed {
      words := Array.ofFn (n := bytes.size / 2) fun slot =>
        bytes[2 * slot.val].toUInt16 <<< 8 ||| bytes[2 * slot.val + 1].toUInt16 }

end HardwarePalette

end ChunkyPlanar

import ChunkyPlanar.Bytes

/-! Colors of eight bits a channel, and the 12-bit hardware words `0x0BGR` that
keep the high nibble of each channel. A word's color repeats each nibble, so
storing it again gives the same word. -/

namespace ChunkyPlanar

structure Color where
  red : UInt8
  green : UInt8
  blue : UInt8
  deriving DecidableEq, Hashable, Repr

namespace Color

def black : Color := ⟨0, 0, 0⟩

def toWord (color : Color) : UInt16 :=
  (color.blue.toUInt16 >>> 4) <<< 8 ||| (color.green.toUInt16 >>> 4) <<< 4 |||
    color.red.toUInt16 >>> 4

/-- The top nibble of the word carries no color. -/
def ofWord (word : UInt16) : Color where
  red := (word &&& 0xF).toUInt8 * 17
  green := (word >>> 4 &&& 0xF).toUInt8 * 17
  blue := (word >>> 8 &&& 0xF).toUInt8 * 17

def toBytes (color : Color) : Bytes := #[color.red, color.green, color.blue]

/-- Reads whole colors; one or two bytes left over at the end are dropped. -/
def ofBytes (bytes : Bytes) : Array Color :=
  Array.ofFn (n := bytes.size / 3) fun position =>
    ⟨bytes[3 * position.val], bytes[3 * position.val + 1],
      bytes[3 * position.val + 2]⟩

end Color

end ChunkyPlanar

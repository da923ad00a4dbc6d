import ChunkyPlanar.Chunky
import ChunkyPlanar.Palette
import ChunkyPlanar.Palette.Compaction

/-! Reduction of a chunky picture's palette to hardware slots: the colors in use
take the first slots in ascending order of index, and the others stay black. -/

namespace ChunkyPlanar

namespace HardwarePalette

def ofUsed (palette : Array Color) (used : List UInt8) (slots : Nat) :
    HardwarePalette :=
  let words := used.map fun index => (palette.getD index.toNat .black).toWord
  ⟨(words ++ List.replicate (slots - words.length) 0).toArray⟩

end HardwarePalette

def ChunkyPicture.reduce (picture : ChunkyPicture) (slots : Nat) :
    Logged PaletteError (HardwarePalette × Compaction) :=
  let colors := picture.palette.size
  if slots = 0 ∨ HardwarePalette.maxSize < slots then
    .fail s!"Slot count {slots} is out of range" (.slotsOutOfRange slots)
  else if slots < colors then
    .fail s!"Source palette has {colors} colors, only {slots} slots available"
      (.tooManyColors colors slots)
  else
    let compaction := Compaction.ofRaster picture.raster
    match compaction.members.find? (fun index => colors ≤ index.toNat) with
    | some index =>
        .fail s!"Pixel index {index} has no entry in a palette of {colors} colors"
          (.missingColor index colors)
    | none =>
        .succeed
          (.ofUsed picture.palette compaction.members slots, compaction)

end ChunkyPlanar

import Mathlib
import ChunkyPlanar.Machine.Picture
import ChunkyPlanar.Palette.Reduction

/-! Remaps as the machine has them: a table with the rank of each index, and a list with the
index of each rank. They are made of one ordered set and have to mirror each other. -/

namespace ChunkyPlanar.Machine

structure Remap where
  ranks : Std.HashMap UInt8 UInt8
  members : List UInt8

def label (lookup : UInt8 → Option UInt8) (placed : UInt8 × Nat) :
    Except RasterError UInt8 :=
  match lookup placed.1 with
  | some label => .ok label
  | none => .error (.unknownIndex placed.1 placed.2)

/-- One index after another is looked up, and the first without a label is the error. -/
def rewrite (lookup : UInt8 → Option UInt8) (indices : List UInt8) :
    Except RasterError (List UInt8) :=
  indices.zipIdx.mapM (label lookup)

def relabel (lookup : UInt8 → Option UInt8) (raster : Raster) : Work RasterError Raster := do
  let labels ← .done (.silent (rewrite lookup raster.indices.toList))
  let built ← .step (ofIndices raster.toSize labels.toArray)
  .done (.silent built)

namespace Remap

def entries (members : List UInt8) : List (UInt8 × UInt8) :=
  members.zipIdx.map fun placed => (placed.1, placed.2.toUInt8)

def ofMembers (members : List UInt8) : Remap where
  ranks := .ofList (entries members)
  members := members

/-- Ranks go by ascending index. -/
def ofUsed (used : Std.TreeSet UInt8) : Remap := ofMembers used.toList

def size (remap : Remap) : Nat := remap.members.length

def rank? (remap : Remap) (index : UInt8) : Option UInt8 := remap.ranks[index]?

def member? (remap : Remap) (rank : UInt8) : Option UInt8 := remap.members[rank.toNat]?

def apply (remap : Remap) (raster : Raster) : Work RasterError Raster :=
  relabel remap.rank? raster

def undo (remap : Remap) (raster : Raster) : Work RasterError Raster :=
  relabel remap.member? raster

end Remap

/-- Cuts the words off at the given length, or pads them with black. -/
def resize (words : List UInt16) (length : Nat) : List UInt16 :=
  words.take length ++ List.replicate (length - words.length) 0

def reduce (picture : ChunkyPicture) (slots : Nat) :
    Work PaletteError (HardwarePalette × Remap) :=
  let colors := picture.palette.size
  if slots = 0 ∨ HardwarePalette.maxSize < slots then
    .done (.fail s!"Slot count {slots} is out of range" (.slotsOutOfRange slots))
  else if slots < colors then
    .done (.fail s!"Source palette has {colors} colors, only {slots} slots available"
      (.tooManyColors colors slots))
  else
    let used : Std.TreeSet UInt8 := .ofList picture.raster.indices.toList
    match used.toList.find? (fun index => colors ≤ index.toNat) with
    | some index =>
        .done (.fail s!"Pixel index {index} has no entry in a palette of {colors} colors"
          (.missingColor index colors))
    | none => do
        let remap := Remap.ofUsed used
        let shown ← .step (remap.members.mapM (read picture.palette ·.toNat))
        return (⟨(resize (shown.map Color.toWord) slots).toArray⟩, remap)

end ChunkyPlanar.Machine

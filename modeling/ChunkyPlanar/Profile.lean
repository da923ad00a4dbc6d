import ChunkyPlanar.Palette
import ChunkyPlanar.Plane.Shape

/-! Profiles: what the target asks of a planar picture. -/

namespace ChunkyPlanar

structure Profile where
  slots : Nat := HardwarePalette.defaultSize
  depth? : Option Nat := none
  width? : Option UInt32 := none
  height? : Option UInt32 := none
  name : String := "splash"
  deriving DecidableEq, Repr

namespace Profile

def splash : Profile where
  width? := some 320
  height? := some 256

/-- Without a depth of its own a profile takes enough planes for every slot. -/
def depth (profile : Profile) : Nat :=
  profile.depth?.getD (Plane.depthForSlots profile.slots)

/-- A size is asked for only by a width and a height together. -/
def requiredSize? (profile : Profile) : Option Size := do
  let width ← profile.width?
  let height ← profile.height?
  return ⟨width, height⟩

end Profile

end ChunkyPlanar

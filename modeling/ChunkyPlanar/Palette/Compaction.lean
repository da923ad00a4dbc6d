import ChunkyPlanar.Raster

/-! Compactions: a set of indices and their ranks `0, 1, …` in ascending order.
A member and its rank name each other. -/

namespace ChunkyPlanar

structure Compaction where
  members : List UInt8
  ascending : members.Pairwise (· < ·)
  deriving DecidableEq

namespace Compaction

def allIndices : List UInt8 := (List.range 256).map Nat.toUInt8

theorem allIndices_ascending : allIndices.Pairwise (· < ·) := by
  rw [allIndices, List.pairwise_map]
  apply List.Pairwise.imp_of_mem _ List.pairwise_lt_range
  intro first second firstMem secondMem less
  rw [List.mem_range] at firstMem secondMem
  rw [UInt8.lt_iff_toNat_lt]
  simpa [Nat.mod_eq_of_lt firstMem, Nat.mod_eq_of_lt secondMem] using less

def ofSet (used : UInt8 → Bool) : Compaction where
  members := allIndices.filter used
  ascending := allIndices_ascending.filter used

def empty : Compaction := ⟨[], .nil⟩

def ofRaster (raster : Raster) : Compaction :=
  ofSet (raster.indices.contains ·)

def size (compaction : Compaction) : Nat := compaction.members.length

def isEmpty (compaction : Compaction) : Bool := compaction.members.isEmpty

def rank? (compaction : Compaction) (index : UInt8) : Option UInt8 :=
  (compaction.members.idxOf? index).map Nat.toUInt8

def member? (compaction : Compaction) (rank : UInt8) : Option UInt8 :=
  compaction.members[rank.toNat]?

/-- Every member is its own rank. -/
def isInitialSegment (compaction : Compaction) : Bool :=
  compaction.members.zipIdx.all fun placed => placed.1.toNat = placed.2

def apply (compaction : Compaction) (raster : Raster) : Except RasterError Raster :=
  raster.relabel compaction.rank?

def undo (compaction : Compaction) (raster : Raster) : Except RasterError Raster :=
  raster.relabel compaction.member?

end Compaction

end ChunkyPlanar

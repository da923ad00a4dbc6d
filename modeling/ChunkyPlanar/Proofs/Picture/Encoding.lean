import Mathlib
import ChunkyPlanar.Picture
import ChunkyPlanar.Proofs.Palette.Reduction
import ChunkyPlanar.Proofs.Plane.Stack

/-! Encodings that succeed: what the picture and the profile agree on, and what the
planar picture holds. Compacting never fails, and it is by ranks even where the
indices are their own. -/

namespace ChunkyPlanar

def Profile.Accepts (profile : Profile) (size : Size) : Prop :=
  ∀ expected, profile.requiredSize? = some expected → size = expected

namespace PlanarPicture

theorem outcome_checkSize_eq_ok_iff {profile : Profile} {size : Size}
    {checked : Unit} :
    (checkSize size profile.requiredSize?).outcome = .ok checked ↔
      profile.Accepts size := by
  unfold Profile.Accepts
  cases profile.requiredSize? with
  | none => simp [checkSize]
  | some expected =>
      by_cases same : size = expected
      · simp [checkSize, same]
      · simp [checkSize, same]

/-- The shortcut for indices that are their own ranks changes nothing. -/
theorem compact_ofRaster (raster : Raster) :
    compact (.ofRaster raster) raster = (Compaction.ofRaster raster).apply raster := by
  unfold compact
  split
  · next initial => exact (Compaction.apply_self_iff.mpr initial).symm
  · rfl

/-- The ranks in use need as many planes as their number does. -/
theorem requiredDepth_ranks_le_iff {raster ranks : Raster}
    (applied : (Compaction.ofRaster raster).apply raster = .ok ranks) {depth : Nat} :
    ranks.requiredDepth ≤ depth ↔
      1 ≤ depth ∧ (Compaction.ofRaster raster).size ≤ 2 ^ depth := by
  rw [Raster.requiredDepth_le_iff]
  refine and_congr_right fun _ => ?_
  constructor
  · intro small
    cases count : (Compaction.ofRaster raster).size with
    | zero => exact Nat.zero_le _
    | succ last =>
        -- The ranks in use are all below their number, so the greatest is `last`.
        obtain ⟨rank, occurs, value⟩ :=
          (Compaction.exists_mem_ranks_iff applied last).mpr (by omega)
        have bound := small rank occurs
        rwa [value] at bound
  · intro enough rank occurs
    exact Nat.lt_of_lt_of_le ((Compaction.mem_ranks_iff applied).mp occurs) enough

/-- The checks that come before any work. -/
structure Admits (profile : Profile) (picture : ChunkyPicture) : Prop where
  accepts : profile.Accepts picture.raster.toSize
  fills : picture.raster.FillsPlanes
  positive : 1 ≤ profile.depth
  most : profile.depth ≤ maxDepth

/-- The picture fits the profile, and `ranks` holds the ranks of its indices. -/
structure Fits (picture : ChunkyPicture) (profile : Profile) (ranks : Raster) : Prop
    extends Admits profile picture where
  slots : ¬ (profile.slots = 0 ∨ HardwarePalette.maxSize < profile.slots)
  colors : ¬ profile.slots < picture.palette.size
  within : ∀ index ∈ picture.raster.indices, index.toNat < picture.palette.size
  applied : (Compaction.ofRaster picture.raster).apply picture.raster = .ok ranks
  enough : ranks.requiredDepth ≤ profile.depth

def ofRanks (picture : ChunkyPicture) (profile : Profile) (ranks : Raster) :
    PlanarPicture where
  toSize := picture.raster.toSize
  palette := .ofUsed picture.palette (Compaction.ofRaster picture.raster).members
    profile.slots
  planes := (List.range profile.depth).map ranks.plane

variable {picture : ChunkyPicture} {profile : Profile} {ranks : Raster}

section Fitting

variable (fits : Fits picture profile ranks)

include fits

theorem Fits.fills_ranks : ranks.FillsPlanes := by
  rw [Raster.toSize_of_relabel fits.applied]
  exact fits.fills

theorem Fits.length_members_le :
    (Compaction.ofRaster picture.raster).members.length ≤ profile.slots :=
  Nat.le_trans (Compaction.size_ofRaster_le_of_within fits.within) (not_lt.mp fits.colors)

theorem Fits.size_palette :
    (ofRanks picture profile ranks).palette.size = profile.slots :=
  HardwarePalette.size_ofUsed fits.length_members_le

theorem Fits.outcome_toRaster :
    (ofRanks picture profile ranks).toRaster.outcome = .ok ranks := by
  unfold toRaster ofRanks
  rw [← Raster.toSize_of_relabel fits.applied]
  exact Raster.outcome_ofPlanes_map_plane fits.fills_ranks fits.enough fits.most

/-- The slot that a rank names holds the color that its index names. -/
theorem Fits.get?_palette {index rank : UInt8}
    (member : index ∈ picture.raster.indices)
    (ranked : (Compaction.ofRaster picture.raster).rank? index = some rank) :
    (ofRanks picture profile ranks).palette.get? rank.toNat =
      picture.palette[index.toNat]?.map Color.toWord := by
  have named := (Compaction.rank?_eq_some_iff _).mp ranked
  have colored := Array.getElem?_eq_getElem (fits.within index member)
  rw [colored, Option.map_some]
  exact HardwarePalette.get?_ofUsed named colored

end Fitting

theorem outcome_ofChunky_eq_ok_iff {planar : PlanarPicture} :
    (ofChunky picture profile).outcome = .ok planar ↔
      ∃ ranks, Fits picture profile ranks ∧ planar = ofRanks picture profile ranks := by
  unfold ofChunky ofChunkyBy rankBy
  simp only [Logged.bind_eq, Logged.bind_assoc, Logged.pure_eq, Logged.bind_succeed,
    Logged.outcome_bind_eq_ok_iff, Logged.outcome_mapError,
    Logged.mapError_eq_ok_iff, Logged.outcome_silent, Logged.outcome_info,
    Logged.pure_eq, Logged.outcome_succeed, Except.ok.injEq,
    outcome_checkSize_eq_ok_iff, Plane.outcome_bytesPerRow_eq_ok_iff,
    Plane.outcome_checkDepth_eq_ok_iff, ChunkyPicture.outcome_reduce_eq_ok_iff,
    Raster.outcome_toPlanes_eq_ok_iff]
  constructor
  · intro encodes
    obtain ⟨_, _, _, accepts, _, ⟨fills, _⟩, _, ⟨positive, most⟩, reduced, reduction,
      ranks, compacted, planes, splitting, _, _, built⟩ := encodes
    obtain ⟨slots, colors, within, rfl⟩ := reduction
    obtain ⟨_, enough, _, rfl⟩ := splitting
    have admits : Admits profile picture := ⟨accepts, fills, positive, most⟩
    have applied := (compact_ofRaster picture.raster).symm.trans compacted
    exact ⟨ranks, ⟨admits, slots, colors, within, applied, enough⟩, built.symm⟩
  · intro fitting
    obtain ⟨ranks, fits, built⟩ := fitting
    have compacted := (compact_ofRaster picture.raster).trans fits.applied
    exact ⟨(), trivial, (), fits.accepts, _, ⟨fits.fills, rfl⟩, (),
      ⟨fits.positive, fits.most⟩, _, ⟨fits.slots, fits.colors, fits.within, rfl⟩,
      ranks, compacted, _, ⟨fits.fills_ranks, fits.enough, fits.most, rfl⟩,
      (), trivial, built.symm⟩

end PlanarPicture

end ChunkyPlanar

import Mathlib
import ChunkyPlanar.Proofs.Picture.Representation

/-! Larger profiles: with more slots and more planes an encoding stays as it was, and
only zeros are added at the end of its palette and of its blob. -/

namespace ChunkyPlanar

theorem Byte.pack_false : pack (fun _ => false) = 0 := by decide

theorem Bytes.join_replicate_zeros (count length : Nat) :
    join (List.replicate count (Array.replicate length 0)) =
      Array.replicate (count * length) 0 := by
  induction count with
  | zero => simp
  | succ count ih =>
      rw [List.replicate_succ, join_cons, ih, Array.replicate_append_replicate,
        Nat.succ_mul, Nat.add_comm]

/-- No index has a bit from the required depth up. -/
theorem Raster.bytes_plane_of_requiredDepth_le {raster : Raster}
    (fills : raster.FillsPlanes) {number : Nat}
    (high : raster.requiredDepth ≤ number) :
    (raster.plane number).bytes =
      Array.replicate (raster.width.toNat / 8 * raster.height.toNat) 0 := by
  apply Array.ext
  · rw [size_bytes_plane fills, Array.size_replicate]
  · intro byte inside _
    have clear : ∀ index ∈ raster.indices, index.toNat.testBit number = false :=
      fun index member =>
        Nat.testBit_lt_two_pow ((requiredDepth_le_iff.mp high).2 index member)
    simp [plane, clear, Byte.pack_false]

theorem HardwarePalette.words_ofUsed_of_le {palette : Array Color}
    {used : List UInt8} {slots more : Nat} (fits : used.length ≤ slots)
    (larger : slots ≤ more) :
    (ofUsed palette used more).words =
      (ofUsed palette used slots).words ++ Array.replicate (more - slots) 0 := by
  have zeros : slots - used.length + (more - slots) = more - used.length := by omega
  apply Array.toList_inj.mp
  simp [ofUsed, zeros]

namespace PlanarPicture

/-- The larger picture goes on where the smaller one ends, with black slots and with
planes that hold no bit. -/
structure Pads (large small : PlanarPicture) (profile : Profile)
    (slots depth : Nat) : Prop where
  size : large.toSize = small.toSize
  words : large.palette.words =
    small.palette.words ++ Array.replicate (slots - profile.slots) 0
  count : large.planes.length = depth
  kept : large.planes.take profile.depth = small.planes
  empty : ∀ plane ∈ large.planes.drop profile.depth, ∀ byte ∈ plane.bytes, byte = 0
  blob : large.toBlob = small.toBlob ++
    Array.replicate ((depth - profile.depth) * small.bytesPerPlane) 0

section Larger

variable {picture : ChunkyPicture} {profile : Profile} {ranks : Raster}
  {slots depth : Nat} (fits : Fits picture profile ranks)

theorem planes_ofRanks_of_le (deeper : profile.depth ≤ depth) :
    (ofRanks picture { profile with slots, depth? := some depth } ranks).planes =
      (ofRanks picture profile ranks).planes ++
        (List.range (depth - profile.depth)).map fun number =>
          ranks.plane (profile.depth + number) := by
  have split : depth = profile.depth + (depth - profile.depth) := by omega
  change (List.range depth).map ranks.plane = _
  rw [split, List.range_add, List.map_append, List.map_map, Nat.add_sub_cancel_left]
  rfl

include fits

theorem Fits.larger (more : profile.slots ≤ slots) (mostSlots : slots ≤ 256)
    (deeper : profile.depth ≤ depth) (mostDepth : depth ≤ maxDepth) :
    Fits picture { profile with slots, depth? := some depth } ranks where
  accepts := fits.accepts
  fills := fits.fills
  positive := Nat.le_trans fits.positive deeper
  most := mostDepth
  slots := by
    have inside := fits.slots
    unfold HardwarePalette.maxSize at inside ⊢
    dsimp only
    omega
  colors := by
    have few := fits.colors
    dsimp only
    omega
  within := fits.within
  applied := fits.applied
  enough := Nat.le_trans fits.enough deeper

theorem Fits.bytes_plane_of_depth_le {number : Nat} (high : profile.depth ≤ number) :
    (ranks.plane number).bytes =
      Array.replicate (ofRanks picture profile ranks).bytesPerPlane 0 := by
  rw [Raster.bytes_plane_of_requiredDepth_le fits.fills_ranks
    (Nat.le_trans fits.enough high), Raster.toSize_of_relabel fits.applied]
  rfl

theorem Fits.toBlob_of_le (deeper : profile.depth ≤ depth) :
    (ofRanks picture { profile with slots, depth? := some depth } ranks).toBlob =
      (ofRanks picture profile ranks).toBlob ++
        Array.replicate ((depth - profile.depth) *
          (ofRanks picture profile ranks).bytesPerPlane) 0 := by
  have added : (List.range (depth - profile.depth)).map
      (fun number => (ranks.plane (profile.depth + number)).bytes) =
      List.replicate (depth - profile.depth)
        (Array.replicate (ofRanks picture profile ranks).bytesPerPlane 0) := by
    simp [fits.bytes_plane_of_depth_le, List.map_const']
  unfold toBlob Blob.ofPlanes
  rw [planes_ofRanks_of_le deeper, List.map_append, Bytes.join_append, List.map_map,
    ← Bytes.join_replicate_zeros, ← added]
  rfl

theorem Fits.pads (more : profile.slots ≤ slots) (deeper : profile.depth ≤ depth) :
    (ofRanks picture { profile with slots, depth? := some depth } ranks).Pads
      (ofRanks picture profile ranks) profile slots depth where
  size := rfl
  words := HardwarePalette.words_ofUsed_of_le fits.length_members_le more
  count := by simp [ofRanks, Profile.depth]
  kept := by
    rw [planes_ofRanks_of_le deeper]
    exact List.take_left' fits.represents.depth
  empty := by
    intro plane member byte held
    rw [planes_ofRanks_of_le deeper, List.drop_left' fits.represents.depth] at member
    obtain ⟨number, _, rfl⟩ := List.mem_map.mp member
    rw [fits.bytes_plane_of_depth_le (Nat.le_add_right ..)] at held
    exact Array.eq_of_mem_replicate held
  blob := fits.toBlob_of_le deeper

end Larger

theorem pads_ofChunky (picture : ChunkyPicture) (profile : Profile)
    (small : PlanarPicture) (slots depth : Nat)
    (encodes : (ofChunky picture profile).outcome = .ok small)
    (more : profile.slots ≤ slots) (mostSlots : slots ≤ 256)
    (deeper : profile.depth ≤ depth) (mostDepth : depth ≤ 8) :
    ∃ large, (ofChunky picture { profile with slots, depth? := some depth }).outcome =
        .ok large ∧
      large.Pads small profile slots depth := by
  obtain ⟨ranks, fits, rfl⟩ := outcome_ofChunky_eq_ok_iff.mp encodes
  have larger := fits.larger more mostSlots deeper mostDepth
  exact ⟨_, outcome_ofChunky_eq_ok_iff.mpr ⟨ranks, larger, rfl⟩, fits.pads more deeper⟩

theorem pads_ofChunky_row :
    let picture : ChunkyPicture :=
      ⟨#[.black, ⟨255, 0, 0⟩, ⟨16, 32, 48⟩, ⟨0, 255, 0⟩],
        ⟨⟨8, 1⟩, #[3, 1, 3, 3, 1, 1, 1, 3], rfl⟩⟩
    let profile : Profile := { slots := 4, depth? := some 1 }
    let small : PlanarPicture := ⟨⟨8, 1⟩, ⟨#[0x00F, 0x0F0, 0, 0]⟩, [⟨0, #[0xB1]⟩]⟩
    (ofChunky picture profile).outcome = .ok small ∧
      profile.slots ≤ 6 ∧ profile.depth ≤ 3 ∧
      ∃ large, (ofChunky picture { profile with slots := 6, depth? := some 3 }).outcome =
          .ok large ∧
        large.Pads small profile 6 3 := by
  intro picture profile small
  have encodes : (ofChunky picture profile).outcome = .ok small := by
    decide +kernel +revert
  have more : profile.slots ≤ 6 := by decide
  have deeper : profile.depth ≤ 3 := by decide
  exact ⟨encodes, more, deeper, pads_ofChunky picture profile small 6 3 encodes more
    (by decide) deeper (by decide)⟩

end PlanarPicture

end ChunkyPlanar

import Mathlib
import ChunkyPlanar.Plane.Blob
import ChunkyPlanar.Proofs.Plane.Shape

/-! Blobs: cutting one gives back the planes whose bytes it joins, and the planes that
it is cut into join to it again. A blob is refused for the first of its faults. -/

namespace ChunkyPlanar.Blob

variable {blob : Blob} {size : Size} {depth : Nat}

theorem outcome_toPlanes_of_shape (unfilled : ¬ size.FillsPlanes) :
    (toPlanes blob size depth).outcome = .error (.unsupportedSize size) := by
  have refused := Plane.outcome_bytesPerRow_of_not_fillsPlanes unfilled
  unfold toPlanes Plane.bytesPerPlane
  simp only [Logged.bind_eq, Logged.outcome_bind, refused, Except.bind]

theorem outcome_toPlanes_of_depth (fills : size.FillsPlanes)
    (outside : ¬ (1 ≤ depth ∧ depth ≤ maxDepth)) :
    (toPlanes blob size depth).outcome = .error (.depthOutOfRange depth 1) := by
  have measured := Plane.outcome_bytesPerPlane_eq_ok_iff.mpr ⟨fills, rfl⟩
  have refused : (Plane.checkDepth depth none).outcome =
      .error (.depthOutOfRange depth 1) :=
    Plane.outcome_checkDepth_of_not_within outside
  unfold toPlanes
  simp only [Logged.bind_eq, Logged.outcome_bind, measured, refused, Except.bind]

theorem outcome_toPlanes_of_within (fills : size.FillsPlanes) (positive : 1 ≤ depth)
    (most : depth ≤ maxDepth) :
    (toPlanes blob size depth).outcome =
      let bytes := size.width.toNat / 8 * size.height.toNat
      if blob.size = depth * bytes then
        .ok ((blob.chunks bytes).mapIdx fun number bytes => ⟨number, bytes⟩)
      else
        .error (.wrongBlobLength (depth * bytes) blob.size) := by
  have measured := Plane.outcome_bytesPerPlane_eq_ok_iff.mpr ⟨fills, rfl⟩
  have deep : (Plane.checkDepth depth none).outcome = .ok () :=
    Plane.outcome_checkDepth_eq_ok_iff.mpr ⟨positive, most⟩
  unfold toPlanes
  simp only [Logged.bind_eq, Logged.outcome_bind, measured, deep, Except.bind,
    Nat.mul_comm depth]
  split
  · rfl
  · rfl

theorem size_ofPlanes {planes : List Plane} {bytes : Nat}
    (uniform : ∀ plane ∈ planes, plane.bytes.size = bytes) :
    (ofPlanes planes).size = planes.length * bytes := by
  have parts : ∀ part ∈ planes.map (·.bytes), part.size = bytes := by
    simpa using uniform
  rw [ofPlanes, Bytes.size_join_of_uniform parts, List.length_map, Nat.mul_comm]

theorem outcome_toPlanes_ofPlanes {planes : List Plane}
    (fills : size.FillsPlanes) (positive : 1 ≤ planes.length)
    (most : planes.length ≤ maxDepth)
    (numbered : ∀ number (inside : number < planes.length),
      planes[number].number = number)
    (uniform : ∀ plane ∈ planes,
      plane.bytes.size = size.width.toNat / 8 * size.height.toNat) :
    (toPlanes (ofPlanes planes) size planes.length).outcome = .ok planes := by
  have parts : ∀ part ∈ planes.map (·.bytes),
      part.size = size.width.toNat / 8 * size.height.toNat := by
    simpa using uniform
  have cut : (ofPlanes planes).chunks (size.width.toNat / 8 * size.height.toNat) =
      planes.map (·.bytes) := Bytes.chunks_join_of_uniform fills.bytes_pos parts
  rw [outcome_toPlanes_of_within fills positive most, if_pos (size_ofPlanes uniform), cut]
  apply congrArg Except.ok
  apply List.ext_getElem
  · simp
  · intro number inside inside'
    simp only [List.getElem_mapIdx, List.getElem_map]
    exact congrArg (fun own => (⟨own, planes[number].bytes⟩ : Plane))
      (numbered number inside').symm

theorem ofPlanes_mapIdx (parts : List Bytes) :
    ofPlanes (parts.mapIdx fun number bytes => ⟨number, bytes⟩) = Bytes.join parts := by
  apply congrArg Bytes.join
  apply List.ext_getElem
  · simp
  · intro number _ _
    simp

/-- The length of a blob never exceeds what a 64-bit word counts. -/
theorem length_lt (size : Size) (most : depth ≤ maxDepth) :
    depth * (size.width.toNat / 8 * size.height.toNat) < UInt64.size := by
  have width := size.width.toNat_lt
  have height := size.height.toNat_lt
  have row : size.width.toNat / 8 ≤ UInt32.size / 8 - 1 := by
    change size.width.toNat / 8 ≤ 4294967296 / 8 - 1
    omega
  calc
    depth * (size.width.toNat / 8 * size.height.toNat) ≤
        maxDepth * ((UInt32.size / 8 - 1) * (UInt32.size - 1)) :=
      Nat.mul_le_mul most (Nat.mul_le_mul row (Nat.le_pred_of_lt height))
    _ < UInt64.size := by decide

/-- What comes of cutting a blob: the first fault, in the order in which faults are
looked for, or planes that make up the whole blob. -/
def Verdict (blob : Blob) (size : Size) (depth : Nat)
    (outcome : Except PlaneError (List Plane)) : Prop :=
  let bytes := size.width.toNat / 8 * size.height.toNat
  if size.width = 0 ∨ size.height = 0 ∨ size.width.toNat % 8 ≠ 0 then
    outcome = .error (.unsupportedSize size)
  else if depth = 0 ∨ 8 < depth then
    outcome = .error (.depthOutOfRange depth 1)
  else
    depth * bytes < UInt64.size ∧
      if blob.size ≠ depth * bytes then
        outcome = .error (.wrongBlobLength (depth * bytes) blob.size)
      else
        ∃ planes, outcome = .ok planes ∧ planes.length = depth ∧
          (∀ number (inside : number < planes.length),
            planes[number].number = number ∧ planes[number].bytes.size = bytes) ∧
          ofPlanes planes = blob

theorem verdict_outcome_toPlanes (blob : Blob) (size : Size) (depth : Nat) :
    Verdict blob size depth (toPlanes blob size depth).outcome := by
  unfold Verdict
  refine ite_prop_iff_and.mpr ⟨fun unsuitable => ?_, fun suitable => ?_⟩
  · exact outcome_toPlanes_of_shape (size.not_fillsPlanes_iff.mpr unsuitable)
  have fills : size.FillsPlanes := .of_suitable suitable
  refine ite_prop_iff_and.mpr ⟨fun outside => ?_, fun inside => ?_⟩
  · apply outcome_toPlanes_of_depth fills
    unfold maxDepth
    omega
  have positive : 1 ≤ depth := by omega
  have most : depth ≤ maxDepth := by
    unfold maxDepth
    omega
  rw [outcome_toPlanes_of_within fills positive most]
  refine ⟨length_lt size most,
    ite_prop_iff_and.mpr ⟨fun other => if_neg other, fun same => ?_⟩⟩
  have measured := not_not.mp same
  have whole : size.width.toNat / 8 * size.height.toNat ∣ blob.size := by
    rw [measured]
    exact Nat.dvd_mul_left ..
  refine ⟨_, if_pos measured, ?_, ?_, ?_⟩
  · rw [List.length_mapIdx, Bytes.length_chunks, measured]
    exact Nat.mul_div_cancel depth fills.bytes_pos
  · intro number inside
    rw [List.getElem_mapIdx]
    exact ⟨rfl, Bytes.size_of_mem_chunks whole (List.getElem_mem _)⟩
  · rw [ofPlanes_mapIdx, Bytes.join_chunks whole]

end ChunkyPlanar.Blob

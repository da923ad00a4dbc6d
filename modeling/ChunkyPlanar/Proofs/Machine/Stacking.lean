import Mathlib
import ChunkyPlanar.Machine.Picture
import ChunkyPlanar.Proofs.Machine
import ChunkyPlanar.Proofs.Plane.Stack

/-! Stacking on the machine. Each bit that is put down goes into the index in its place and
leaves the others alone, and once all planes are down the indices are those of the stack. -/

namespace ChunkyPlanar

namespace Plane

/-- One more plane adds its bit above those of the planes before it. -/
theorem stackIndex_take_succ {planes : List Plane} {number : Nat}
    (present : number < planes.length) (position : Nat) :
    stackIndex (planes.take (number + 1)) position =
      stackIndex (planes.take number) position |||
        (planes[number].bitAt position).toNat <<< number := by
  apply Nat.eq_of_testBit_eq
  intro bit
  rw [Nat.testBit_or, testBit_stackIndex, testBit_stackIndex, Nat.testBit_shiftLeft,
    List.getElem?_take, List.getElem?_take]
  rcases Nat.lt_trichotomy bit number with below | rfl | above
  · simp [below, Nat.lt_succ_of_lt below, Nat.not_le_of_lt below]
  · rw [if_pos (Nat.lt_succ_self bit), if_neg (Nat.lt_irrefl bit),
      List.getElem?_eq_getElem present, Nat.sub_self, Option.elim_some]
    cases planes[bit].bitAt position with
    | false => simp
    | true => simp
  · have past : ¬ bit < number + 1 := by omega
    have one : 2 ^ 1 ≤ 2 ^ (bit - number) := Nat.pow_le_pow_right (by decide) (by omega)
    have high : (planes[number].bitAt position).toNat.testBit (bit - number) = false :=
      Nat.testBit_lt_two_pow (Nat.lt_of_lt_of_le (Bool.toNat_lt _) one)
    rw [if_neg past, if_neg (Nat.not_lt_of_lt above), high]
    simp

theorem bitAt_of_inside {plane : Plane} {byte column : Nat} (inBytes : byte < plane.bytes.size)
    (inByte : column < 8) :
    plane.bitAt (byte * 8 + column) = Byte.bit plane.bytes[byte] column := by
  have place : (byte * 8 + column) / 8 = byte := by omega
  have offset : (byte * 8 + column) % 8 = column := by omega
  rw [bitAt, place, offset, Array.getD_eq_getD_getElem?, Array.getElem?_eq_getElem inBytes,
    Option.getD_some]

end Plane

namespace Machine

theorem toNat_shiftLeft_bit : ∀ number < 8, ∀ bit : Bool,
    (bit.toUInt8 <<< number.toUInt8).toNat = bit.toNat <<< number := by
  decide

/-- The buffer on its way: `number` planes are down in all of it, and one more in the
indices before `filled`. -/
structure Stacked (planes : List Plane) (length number filled : Nat) (indices : Bytes) :
    Prop where
  size : indices.size = length
  entry : ∀ position (inside : position < indices.size),
    indices[position].toNat = Plane.stackIndex
      (planes.take (if position < filled then number + 1 else number)) position

theorem depositBit_eq {number place column : Nat} {indices : Bytes} (byte : UInt8)
    (within : number < 8) (inByte : column < 8) (fits : indices.size < UInt64.size)
    (inside : place * 8 + column < indices.size) :
    depositBit number place byte indices column =
      .ok (indices.set (place * 8 + column)
        (indices[place * 8 + column] |||
          (Byte.bit byte column).toUInt8 <<< number.toUInt8)) := by
  unfold depositBit
  rw [sub_eq (by omega), ok_bind, shiftRight_eq (by omega), ok_bind,
    shiftRight_and_one (by omega), shiftLeft_eq within, ok_bind, mul_eq (by omega), ok_bind,
    add_eq (by omega), ok_bind]
  exact merge_eq inside _

theorem Stacked.set {planes : List Plane} {length number filled : Nat} {indices : Bytes}
    (stacked : Stacked planes length number filled indices) (within : number < 8)
    (present : number < planes.length) (inside : filled < indices.size) :
    Stacked planes length number (filled + 1) (indices.set filled (indices[filled] |||
      (planes[number].bitAt filled).toUInt8 <<< number.toUInt8)) := by
  constructor
  · rw [Array.size_set, stacked.size]
  · intro position inside'
    rw [Array.size_set] at inside'
    have entry := stacked.entry position inside'
    rw [Array.getElem_set]
    by_cases here : filled = position
    · subst here
      rw [if_neg (Nat.lt_irrefl filled)] at entry
      rw [if_pos rfl, if_pos (Nat.lt_succ_self filled), Plane.stackIndex_take_succ present,
        UInt8.toNat_or, entry, toNat_shiftLeft_bit number within]
    · have same : position < filled + 1 ↔ position < filled := by omega
      simp only [same, if_neg here]
      exact entry

section Down

variable {planes : List Plane} {length : Nat} (most : planes.length ≤ maxDepth)
  (fits : length < UInt64.size) (uniform : ∀ plane ∈ planes, plane.bytes.size * 8 = length)
  {number : Nat} (present : number < planes.length)

include most fits uniform present

/-- A bit of the next plane that is put down moves the buffer on by one index. -/
theorem Stacked.exists_depositBit {place column : Nat} {indices : Bytes}
    (stacked : Stacked planes length number (place * 8 + column) indices)
    (inBytes : place < planes[number].bytes.size) (inByte : column < 8) :
    ∃ next, depositBit number place planes[number].bytes[place] indices column = .ok next ∧
      Stacked planes length number (place * 8 + (column + 1)) next := by
  have within : number < 8 := Nat.lt_of_lt_of_le present most
  have whole := uniform planes[number] (List.getElem_mem present)
  have inside : place * 8 + column < indices.size := by
    rw [stacked.size]
    omega
  have put := depositBit_eq planes[number].bytes[place] within inByte
    (by rwa [stacked.size]) inside
  rw [← Plane.bitAt_of_inside inBytes inByte] at put
  exact ⟨_, put, stacked.set within present inside⟩

theorem Stacked.exists_depositByte {place : Nat} {indices : Bytes}
    (stacked : Stacked planes length number (place * 8) indices)
    (inBytes : place < planes[number].bytes.size) :
    ∃ next, depositByte number indices (planes[number].bytes[place], place) = .ok next ∧
      Stacked planes length number ((place + 1) * 8) next := by
  rw [Nat.succ_mul]
  refine exists_foldlM (fun column => Stacked planes length number (place * 8 + column))
    (fun column inside indices stacked => ?_) stacked
  rw [List.getElem_range]
  exact stacked.exists_depositBit most fits uniform present inBytes (by simpa using inside)

theorem Stacked.exists_depositPlane {indices : Bytes}
    (stacked : Stacked planes length number 0 indices) :
    ∃ next, depositPlane indices (planes[number], number) = .ok next ∧
      Stacked planes length (number + 1) 0 next := by
  have whole := uniform planes[number] (List.getElem_mem present)
  obtain ⟨next, down, filled⟩ : ∃ next,
      depositPlane indices (planes[number], number) = .ok next ∧ Stacked planes length number
        (planes[number].bytes.toList.zipIdx.length * 8) next := by
    refine exists_foldlM (fun place => Stacked planes length number (place * 8))
      (fun place inside indices stacked => ?_) (by simpa using stacked)
    have inBytes : place < planes[number].bytes.size := by simpa using inside
    simpa using stacked.exists_depositByte most fits uniform present inBytes
  rw [List.length_zipIdx, Array.length_toList, whole] at filled
  refine ⟨next, down, filled.size, fun position inside => ?_⟩
  have before : position < length := filled.size ▸ inside
  rw [filled.entry position inside, if_pos before, if_neg (Nat.not_lt_zero _)]

end Down

theorem foldlM_depositPlane_eq {planes : List Plane} {length : Nat}
    (most : planes.length ≤ maxDepth) (fits : length < UInt64.size)
    (uniform : ∀ plane ∈ planes, plane.bytes.size * 8 = length) :
    planes.zipIdx.foldlM depositPlane (Array.replicate length 0) =
      .ok (Array.ofFn (n := length) fun position =>
        (Plane.stackIndex planes position).toUInt8) := by
  have start : Stacked planes length 0 0 (Array.replicate length 0) := by
    refine ⟨Array.size_replicate, fun position inside => ?_⟩
    simp [Plane.stackIndex]
  obtain ⟨indices, down, stacked⟩ : ∃ indices,
      planes.zipIdx.foldlM depositPlane (Array.replicate length 0) = .ok indices ∧
        Stacked planes length planes.zipIdx.length 0 indices := by
    refine exists_foldlM (fun number => Stacked planes length number 0)
      (fun number inside indices stacked => ?_) start
    have present : number < planes.length := by simpa using inside
    simpa using stacked.exists_depositPlane most fits uniform present
  rw [down]
  apply congrArg Except.ok
  apply Array.ext
  · rw [stacked.size, Array.size_ofFn]
  · intro position inside _
    have entry := stacked.entry position inside
    rw [List.length_zipIdx, if_neg (Nat.not_lt_zero _), List.take_length] at entry
    rw [Array.getElem_ofFn, ← entry]
    exact UInt8.ofNat_toNat.symm

theorem ofIndices_eq (size : Size) (indices : Bytes) :
    ofIndices size indices = .ok (Raster.ofIndices size indices) := by
  unfold ofIndices Raster.ofIndices
  split
  · rename_i trap multiplied
    rw [mul_eq size.pixelCount_lt] at multiplied
    cases multiplied
  · rename_i expected multiplied
    obtain rfl := eq_of_mul multiplied
    split
    · rename_i counted
      change indices.size = size.pixelCount at counted
      rw [dif_pos counted]
    · rename_i miscounted
      change ¬ indices.size = size.pixelCount at miscounted
      rw [dif_neg miscounted]

theorem bytesPerPlane_eq (size : Size) :
    bytesPerPlane size = .done (Plane.bytesPerPlane size) := by
  unfold bytesPerPlane Plane.bytesPerPlane
  refine Work.bind_done fun bytesPerRow measured => ?_
  obtain ⟨_, rfl⟩ := Plane.outcome_bytesPerRow_eq_ok_iff.mp measured
  rw [mul_eq size.bytes_lt]
  rfl

theorem ofPlanes_eq (planes : List Plane) (size : Size) :
    ofPlanes planes size = .done (Raster.ofPlanes planes size) := by
  unfold ofPlanes Raster.ofPlanes
  rw [bytesPerPlane_eq]
  refine Work.bind_done fun expected measured => ?_
  obtain ⟨fills, rfl⟩ := Plane.outcome_bytesPerPlane_eq_ok_iff.mp measured
  refine Work.bind_done fun _ deep => ?_
  have most : planes.length ≤ maxDepth := by
    have counted := (Plane.outcome_checkDepth_eq_ok_iff.mp deep).2
    unfold maxDepth at counted ⊢
    omega
  cases found : planes.zipIdx.find? fun placed =>
      placed.1.bytes.size ≠ size.width.toNat / 8 * size.height.toNat with
  | some placed =>
      rfl
  | none =>
      have uniform : ∀ plane ∈ planes, plane.bytes.size * 8 =
          size.width.toNat / 8 * size.height.toNat * 8 := fun plane member =>
        congrArg (· * 8) (Raster.find?_zipIdx_eq_none_iff.mp found plane member)
      have fits : size.width.toNat / 8 * size.height.toNat * 8 < UInt64.size := by
        rw [fills.bytes_mul_eight]
        exact size.pixelCount_lt
      simp only [mul_eq fits, foldlM_depositPlane_eq most fits uniform, ofIndices_eq,
        Work.bind_eq, Work.bind_step]

end Machine

end ChunkyPlanar

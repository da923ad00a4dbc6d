import Mathlib
import ChunkyPlanar.Palette.Compaction
import ChunkyPlanar.Proofs.Raster

/-! Members and ranks name each other, so relabeling by ranks and relabeling by
members undo each other. The ranks of the indices in use are all numbers below
their count. -/

namespace ChunkyPlanar.Compaction

theorem mem_allIndices (index : UInt8) : index ∈ allIndices := by
  unfold allIndices
  rw [List.mem_map]
  exact ⟨index.toNat, List.mem_range.mpr index.toNat_lt, by simp⟩

@[simp] theorem mem_ofSet {used : UInt8 → Bool} {index : UInt8} :
    index ∈ (ofSet used).members ↔ used index = true := by
  simp [ofSet, mem_allIndices]

@[simp] theorem mem_ofRaster {raster : Raster} {index : UInt8} :
    index ∈ (ofRaster raster).members ↔ index ∈ raster.indices := by
  simp [ofRaster]

section Ascending

variable (compaction : Compaction)

theorem nodup_members : compaction.members.Nodup :=
  compaction.ascending.imp fun less equal => by
    rw [equal] at less
    exact absurd less (UInt8.lt_irrefl _)

/-- A member is never below its rank. -/
theorem rank_le_member {rank : Nat} (inside : rank < compaction.members.length) :
    rank ≤ compaction.members[rank].toNat := by
  induction rank with
  | zero => exact Nat.zero_le _
  | succ rank ih =>
      have earlier : rank < compaction.members.length := Nat.lt_of_succ_lt inside
      have ascends := List.pairwise_iff_getElem.mp compaction.ascending rank
        (rank + 1) earlier inside (Nat.lt_succ_self rank)
      rw [UInt8.lt_iff_toNat_lt] at ascends
      exact Nat.succ_le_of_lt (Nat.lt_of_le_of_lt (ih earlier) ascends)

theorem size_le_of_members_lt {bound : Nat}
    (within : ∀ index ∈ compaction.members, index.toNat < bound) :
    compaction.size ≤ bound := by
  by_contra many
  have inside : bound < compaction.members.length := not_le.mp many
  have low := compaction.rank_le_member inside
  have high := within _ (List.getElem_mem inside)
  omega

theorem size_le : compaction.size ≤ 256 :=
  compaction.size_le_of_members_lt fun index _ => index.toNat_lt

/-- Members ascend, so the first one found is the least. -/
theorem isLeast_of_find? {compaction : Compaction} {sought : UInt8 → Bool}
    {index : UInt8} (found : compaction.members.find? sought = some index) :
    IsLeast {index | index ∈ compaction.members ∧ sought index = true} index := by
  obtain ⟨holds, before, after, split, passed⟩ :=
    List.find?_eq_some_iff_append.mp found
  refine ⟨⟨List.mem_of_find?_eq_some found, holds⟩, ?_⟩
  intro other admitted
  obtain ⟨member, otherHolds⟩ := admitted
  have ascending := compaction.ascending
  rw [split] at member ascending
  rcases List.mem_append.mp member with earlier | later
  · have refused := passed other earlier
    rw [otherHolds] at refused
    cases refused
  · rcases List.mem_cons.mp later with equal | later
    · rw [equal]
      exact UInt8.le_refl _
    · have ascends := (List.pairwise_append.mp ascending).2.1
      exact UInt8.le_of_lt (List.rel_of_pairwise_cons ascends later)

end Ascending

section Ranks

variable (compaction : Compaction)

theorem idxOf?_eq_some_iff {index : UInt8} {rank : Nat} :
    compaction.members.idxOf? index = some rank ↔
      compaction.members[rank]? = some index := by
  rw [List.idxOf?_eq_some_iff, List.getElem?_eq_some_iff]
  constructor
  · intro parts
    obtain ⟨inside, named, _⟩ := parts
    exact ⟨inside, named⟩
  · intro parts
    obtain ⟨inside, named⟩ := parts
    refine ⟨inside, named, fun earlier less equal => ?_⟩
    have same := compaction.nodup_members.getElem_inj_iff.mp (equal.trans named.symm)
    omega

theorem rank?_eq_some_iff {index rank : UInt8} :
    compaction.rank? index = some rank ↔ compaction.member? rank = some index := by
  unfold rank? member?
  rw [Option.map_eq_some_iff]
  constructor
  · intro parts
    obtain ⟨place, found, label⟩ := parts
    have named := compaction.idxOf?_eq_some_iff.mp found
    obtain ⟨inside, _⟩ := List.getElem?_eq_some_iff.mp named
    have byte : place < 256 := Nat.lt_of_lt_of_le inside compaction.size_le
    rwa [← label, Nat.toUInt8_eq, UInt8.toNat_ofNat', Nat.mod_eq_of_lt byte]
  · intro named
    exact ⟨rank.toNat, compaction.idxOf?_eq_some_iff.mpr named, by simp⟩

theorem isSome_rank?_iff {index : UInt8} :
    (compaction.rank? index).isSome ↔ index ∈ compaction.members := by
  simp [rank?]

theorem exists_member?_iff {rank : UInt8} :
    (∃ index, compaction.member? rank = some index) ↔
      rank.toNat < compaction.size := by
  unfold member? size
  rw [← Option.isSome_iff_exists]
  simp

theorem exists_member?_of_lt {compaction : Compaction} {number : Nat}
    (inside : number < compaction.size) :
    ∃ rank index, rank.toNat = number ∧ compaction.member? rank = some index := by
  have byte : number < 256 := Nat.lt_of_lt_of_le inside compaction.size_le
  have value : number.toUInt8.toNat = number := by
    simpa using byte
  have named : number.toUInt8.toNat < compaction.size := by
    rwa [value]
  obtain ⟨index, found⟩ := compaction.exists_member?_iff.mpr named
  exact ⟨number.toUInt8, index, value, found⟩

theorem isInitialSegment_iff :
    compaction.isInitialSegment = true ↔
      ∀ index ∈ compaction.members, compaction.rank? index = some index := by
  unfold isInitialSegment
  rw [List.all_eq_true]
  constructor
  · intro placed index member
    obtain ⟨rank, inside, named⟩ := List.getElem_of_mem member
    have same := of_decide_eq_true (placed (index, rank)
      (List.mem_zipIdx_iff_getElem?.mpr (List.getElem?_eq_some_iff.mpr ⟨inside, named⟩)))
    rw [rank?_eq_some_iff, member?, same]
    exact List.getElem?_eq_some_iff.mpr ⟨inside, named⟩
  · intro own entry placed
    obtain ⟨index, rank⟩ := entry
    have named := List.mem_zipIdx_iff_getElem?.mp placed
    have ranked := own index (List.mem_of_getElem? named)
    rw [rank?_eq_some_iff] at ranked
    obtain ⟨_, first⟩ := List.getElem?_eq_some_iff.mp ranked
    obtain ⟨_, second⟩ := List.getElem?_eq_some_iff.mp named
    exact decide_eq_true
      (compaction.nodup_members.getElem_inj_iff.mp (first.trans second.symm))

private theorem all_zipIdx_iff (members : List UInt8) (start : Nat) :
    (members.zipIdx start).all (fun placed => placed.1.toNat = placed.2) = true ↔
      members.map UInt8.toNat = List.range' start members.length := by
  induction members generalizing start with
  | nil => simp
  | cons member members ih => simp [List.zipIdx_cons, List.range'_succ, ← ih]

theorem isInitialSegment_iff_map_toNat :
    compaction.isInitialSegment = true ↔
      compaction.members.map UInt8.toNat = List.range compaction.size := by
  rw [List.range_eq_range']
  exact all_zipIdx_iff compaction.members 0

theorem map_toNat_members_eq_range_iff :
    compaction.members.map UInt8.toNat = List.range compaction.size ↔
      ∀ number, (∃ index ∈ compaction.members, index.toNat = number) ↔
        number < compaction.size := by
  constructor
  · intro equal number
    rw [← List.mem_range, ← equal, List.mem_map]
  · intro used
    -- Both lists ascend, so their members settle them.
    have ascending : (compaction.members.map UInt8.toNat).Pairwise (· < ·) :=
      List.pairwise_map.mpr (compaction.ascending.imp UInt8.lt_iff_toNat_lt.mp)
    refine ascending.eq_of_mem_iff List.pairwise_lt_range fun number => ?_
    rw [List.mem_map, List.mem_range, used]

theorem apply_eq_ok_iff_undo_eq_ok {raster ranks : Raster} :
    compaction.apply raster = .ok ranks ↔ compaction.undo ranks = .ok raster :=
  ⟨Raster.relabel_of_inverse fun _ _ => compaction.rank?_eq_some_iff.mp,
    Raster.relabel_of_inverse fun _ _ => compaction.rank?_eq_some_iff.mpr⟩

end Ranks

section InUse

variable {raster ranks : Raster}

theorem size_ofRaster (raster : Raster) :
    (ofRaster raster).size = raster.indices.toList.toFinset.card := by
  have same : (ofRaster raster).members.toFinset =
      raster.indices.toList.toFinset := by
    ext index
    simp
  rw [← same, List.toFinset_card_of_nodup (nodup_members _), size]

theorem size_ofRaster_le_of_within {bound : Nat}
    (within : ∀ index ∈ raster.indices, index.toNat < bound) :
    (ofRaster raster).size ≤ bound :=
  size_le_of_members_lt _ fun index member => within index (mem_ofRaster.mp member)

theorem exists_apply_ofRaster (raster : Raster) :
    ∃ ranks, (ofRaster raster).apply raster = .ok ranks := by
  apply Raster.exists_relabel_iff.mpr
  intro index member
  exact (isSome_rank?_iff _).mpr (mem_ofRaster.mpr member)

/-- Giving ranks changes nothing where the indices in use are their own ranks. -/
theorem apply_self_iff :
    (ofRaster raster).apply raster = .ok raster ↔
      (ofRaster raster).isInitialSegment = true := by
  rw [isInitialSegment_iff, apply, Raster.relabel_eq_ok_iff]
  simp [Array.map_inj_left]

theorem isInitialSegment_ofRaster_iff :
    (ofRaster raster).isInitialSegment = true ↔
      ∀ number, (∃ index ∈ raster.indices, index.toNat = number) ↔
        number < (ofRaster raster).size := by
  rw [isInitialSegment_iff_map_toNat, map_toNat_members_eq_range_iff]
  simp only [mem_ofRaster]

theorem mem_ranks_iff (applied : (ofRaster raster).apply raster = .ok ranks)
    {rank : UInt8} :
    rank ∈ ranks.indices ↔ rank.toNat < (ofRaster raster).size := by
  have labels := (Raster.relabel_eq_ok_iff.mp applied).2
  have used : rank ∈ ranks.indices ↔
      ∃ index ∈ raster.indices, (ofRaster raster).rank? index = some rank := by
    rw [← Array.mem_map, labels]
    simp
  rw [used, ← exists_member?_iff]
  constructor
  · intro parts
    obtain ⟨index, _, ranked⟩ := parts
    exact ⟨index, (rank?_eq_some_iff _).mp ranked⟩
  · intro parts
    obtain ⟨index, named⟩ := parts
    have member := mem_ofRaster.mp (List.mem_of_getElem? named)
    exact ⟨index, member, (rank?_eq_some_iff _).mpr named⟩

/-- The ranks in use are all numbers below their count. -/
theorem exists_mem_ranks_iff (applied : (ofRaster raster).apply raster = .ok ranks)
    (number : Nat) :
    (∃ rank ∈ ranks.indices, rank.toNat = number) ↔ number < (ofRaster raster).size := by
  constructor
  · rintro ⟨rank, member, rfl⟩
    exact (mem_ranks_iff applied).mp member
  · intro small
    obtain ⟨rank, index, value, named⟩ := exists_member?_of_lt small
    refine ⟨rank, (mem_ranks_iff applied).mpr ?_, value⟩
    rwa [value]

end InUse

end ChunkyPlanar.Compaction

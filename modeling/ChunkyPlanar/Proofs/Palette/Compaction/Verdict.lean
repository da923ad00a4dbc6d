import Mathlib
import ChunkyPlanar.Proofs.Machine.Remap

/-! Verdicts on relabelings. A remap numbers its set in ascending order, so in either
direction a raster gets labels that lead back to it, or the first of its indices that has
none is reported. -/

namespace ChunkyPlanar

namespace Raster

/-- What comes of looking the indices up: labels that lead back, if all of them are known,
and else the first that is not. -/
def RelabelVerdict (raster : Raster) (known : UInt8 → Bool)
    (back : Raster → Work RasterError Raster) (work : Work RasterError Raster) : Prop :=
  if ∀ index ∈ raster.indices, known index = true then
    ∃ labels, work = .done (.succeed labels) ∧ labels.toSize = raster.toSize ∧
      back labels = .done (.succeed raster)
  else
    ∃ position, ∃ inside : position < raster.indices.size,
      known raster.indices[position] = false ∧
      (∀ earlier (held : earlier < raster.indices.size), earlier < position →
        known raster.indices[earlier] = true) ∧
      work = .done (.silent (.error (.unknownIndex raster.indices[position] position)))

theorem verdict_relabel {raster : Raster} {known : UInt8 → Bool}
    {lookup inverse : UInt8 → Option UInt8}
    (knows : ∀ index, (lookup index).isSome = known index)
    (inverts : ∀ index label, lookup index = some label → inverse label = some index) :
    raster.RelabelVerdict known (Machine.relabel inverse) (Machine.relabel lookup raster) := by
  refine ite_prop_iff_and.mpr ⟨fun allKnown => ?_, fun unknown => ?_⟩
  · obtain ⟨labels, relabeled⟩ := exists_relabel_iff.mpr fun index member =>
      (knows index).trans (allKnown index member)
    exact ⟨labels, Machine.relabel_of_known relabeled, toSize_of_relabel relabeled,
      Machine.relabel_of_known (relabel_of_inverse inverts relabeled)⟩
  · have unlabeled : ∃ index ∈ raster.indices, (lookup index).isNone = true := by
      simpa [← knows] using unknown
    obtain ⟨position, inside, missing, first, _⟩ := exists_relabel_eq_error unlabeled
    refine ⟨position, inside, ?_, fun earlier _ before => ?_,
      Machine.relabel_of_unknown inside missing fun earlier _ => first earlier⟩
    · rw [← knows, missing, Option.isSome_none]
    · rw [← knows, first earlier before]

end Raster

namespace Compaction

section Order

variable {compaction : Compaction} {first second firstRank secondRank : UInt8}

theorem member_lt_member (firstNamed : compaction.member? firstRank = some first)
    (secondNamed : compaction.member? secondRank = some second)
    (less : firstRank < secondRank) : first < second := by
  obtain ⟨firstInside, rfl⟩ := List.getElem?_eq_some_iff.mp firstNamed
  obtain ⟨secondInside, rfl⟩ := List.getElem?_eq_some_iff.mp secondNamed
  exact List.pairwise_iff_getElem.mp compaction.ascending _ _ firstInside secondInside
    (UInt8.lt_iff_toNat_lt.mp less)

theorem rank_lt_rank (firstRanked : compaction.rank? first = some firstRank)
    (secondRanked : compaction.rank? second = some secondRank) (less : first < second) :
    firstRank < secondRank := by
  rw [rank?_eq_some_iff] at firstRanked secondRanked
  by_contra notLess
  rcases UInt8.lt_or_eq_of_le (UInt8.not_lt.mp notLess) with greater | equal
  · exact UInt8.lt_asymm less (member_lt_member secondRanked firstRanked greater)
  · rw [equal, firstRanked] at secondRanked
    cases secondRanked
    exact UInt8.lt_irrefl _ less

end Order

theorem isSome_member?_iff {compaction : Compaction} {rank : UInt8} :
    (compaction.member? rank).isSome ↔ rank.toNat < compaction.size := by
  rw [Option.isSome_iff_exists, exists_member?_iff]

end Compaction

namespace Machine.Remap

/-- The ranks number the set: they count its members in ascending order, without a gap,
and each rank names its member again. -/
structure Numbers (remap : Remap) (used : Std.TreeSet UInt8) : Prop where
  ranked : ∀ index, (remap.rank? index).isSome ↔ index ∈ used
  ascending : ∀ first second firstRank secondRank,
    remap.rank? first = some firstRank → remap.rank? second = some secondRank →
      first < second → firstRank < secondRank
  gapless : ∀ number, (∃ index rank, remap.rank? index = some rank ∧
    rank.toNat = number) ↔ number < remap.size
  named : ∀ rank, (remap.member? rank).isSome ↔ rank.toNat < remap.size
  inverse : ∀ index rank, remap.rank? index = some rank ↔ remap.member? rank = some index

variable (used : Std.TreeSet UInt8)

theorem rank?_ofUsed :
    (ofUsed used).rank? = (Compaction.ofSet used.contains).rank? := by
  rw [ofUsed_eq]
  exact funext (rank?_toRemap _)

theorem member?_ofUsed :
    (ofUsed used).member? = (Compaction.ofSet used.contains).member? := by
  rw [ofUsed_eq]
  rfl

theorem size_ofUsed : (ofUsed used).size = (Compaction.ofSet used.contains).size := by
  rw [ofUsed_eq]
  rfl

theorem numbers_ofUsed : (ofUsed used).Numbers used where
  ranked := by
    intro index
    rw [rank?_ofUsed, Compaction.isSome_rank?_iff, Compaction.mem_ofSet,
      Std.TreeSet.mem_iff_contains]
  ascending := by
    rw [rank?_ofUsed]
    exact fun _ _ _ _ => Compaction.rank_lt_rank
  gapless := by
    intro number
    rw [rank?_ofUsed, size_ofUsed]
    constructor
    · rintro ⟨index, rank, ranked, rfl⟩
      exact (Compaction.exists_member?_iff _).mp
        ⟨index, (Compaction.rank?_eq_some_iff _).mp ranked⟩
    · intro small
      obtain ⟨rank, index, value, named⟩ := Compaction.exists_member?_of_lt small
      exact ⟨index, rank, (Compaction.rank?_eq_some_iff _).mpr named, value⟩
  named := by
    rw [member?_ofUsed, size_ofUsed]
    exact fun _ => Compaction.isSome_member?_iff
  inverse := by
    rw [rank?_ofUsed, member?_ofUsed]
    exact fun _ _ => Compaction.rank?_eq_some_iff _

/-- The table and the list are made apart, and they mirror each other for every set. What
they make of a raster, compactions make of it too. -/
theorem verdict_ofUsed :
    (ofUsed used).Numbers used ∧ ∀ raster : Raster,
      raster.RelabelVerdict used.contains (ofUsed used).undo ((ofUsed used).apply raster) ∧
        raster.RelabelVerdict (fun rank => rank.toNat < (ofUsed used).size)
          (ofUsed used).apply ((ofUsed used).undo raster) ∧
        (ofUsed used).apply raster =
          .done (.silent ((Compaction.ofSet used.contains).apply raster)) ∧
        (ofUsed used).undo raster =
          .done (.silent ((Compaction.ofSet used.contains).undo raster)) := by
  have numbers := numbers_ofUsed used
  refine ⟨numbers, fun raster => ⟨?_, ?_, ?_, ?_⟩⟩
  · apply Raster.verdict_relabel
    · intro index
      rw [Bool.eq_iff_iff, numbers.ranked, Std.TreeSet.mem_iff_contains]
    · intro index rank
      exact (numbers.inverse index rank).mp
  · apply Raster.verdict_relabel
    · intro rank
      rw [Bool.eq_iff_iff, decide_eq_true_iff]
      exact numbers.named rank
    · intro rank index
      exact (numbers.inverse index rank).mpr
  · rw [ofUsed_eq, apply_toRemap]
  · rw [ofUsed_eq, undo_toRemap]

end Machine.Remap

/-- Of two unknown indices the first one is the error. -/
example :
    (Compaction.ofSet fun index => index = 1 ∨ index = 2).apply
        ⟨⟨2, 2⟩, #[1, 5, 2, 7], rfl⟩ = .error (.unknownIndex 5 1) := by
  decide +kernel

end ChunkyPlanar

import Mathlib
import ChunkyPlanar.Machine.Remap
import ChunkyPlanar.Proofs.Machine.Stacking
import ChunkyPlanar.Proofs.Palette.Compaction

/-! The table and the list of a remap mirror each other, so looking an index up in the one is
searching for it in the other. What a remap makes of a raster, and a reduction of a palette,
is then what compactions make of them. -/

namespace ChunkyPlanar

def Compaction.toRemap (compaction : Compaction) : Machine.Remap :=
  .ofMembers compaction.members

namespace Machine

section Rewriting

variable {lookup : UInt8 → Option UInt8}

theorem mapM_label_of_known {indices labels : List UInt8} (start : Nat)
    (labeled : indices.map lookup = labels.map some) :
    (indices.zipIdx start).mapM (label lookup) = .ok labels := by
  induction indices generalizing labels start with
  | nil =>
      rw [List.map_nil, eq_comm, List.map_eq_nil_iff] at labeled
      rw [labeled]
      rfl
  | cons index indices ih =>
      cases labels with
      | nil => cases labeled
      | cons own labels =>
          obtain ⟨first, rest⟩ := List.cons_eq_cons.mp labeled
          have labeledFirst : label lookup (index, start) = .ok own := by
            simp only [label, first]
          rw [List.zipIdx_cons, List.mapM_cons, labeledFirst, ih (start + 1) rest]
          rfl

theorem rewrite_of_unknown {before : List UInt8} {index : UInt8}
    (known : ∀ earlier ∈ before, (lookup earlier).isSome) (unknown : lookup index = none)
    (after : List UInt8) :
    rewrite lookup (before ++ index :: after) =
      .error (.unknownIndex index before.length) := by
  have labeled : before.map lookup =
      (before.map fun earlier => (lookup earlier).getD 0).map some := by
    rw [List.map_map]
    apply List.map_congr_left
    intro earlier member
    obtain ⟨own, found⟩ := Option.isSome_iff_exists.mp (known earlier member)
    simp [found]
  have refused : label lookup (index, before.length) =
      .error (.unknownIndex index before.length) := by
    simp only [label, unknown]
  unfold rewrite
  rw [List.zipIdx_append, List.mapM_append, mapM_label_of_known 0 labeled, Nat.zero_add,
    List.zipIdx_cons, List.mapM_cons, refused]
  rfl

theorem relabel_of_known {raster labels : Raster}
    (relabeled : raster.relabel lookup = .ok labels) :
    relabel lookup raster = .done (.succeed labels) := by
  obtain ⟨sized, labeled⟩ := Raster.relabel_eq_ok_iff.mp relabeled
  obtain ⟨size, indices, counted⟩ := labels
  obtain rfl : size = raster.toSize := sized
  have listed : raster.indices.toList.map lookup = indices.toList.map some := by
    rw [← Array.toList_map, labeled, Array.toList_map]
  have rewritten : Logged.silent (rewrite lookup raster.indices.toList) =
      .succeed indices.toList :=
    congrArg Logged.silent (mapM_label_of_known 0 listed)
  have built : Raster.ofIndices raster.toSize indices = .ok ⟨raster.toSize, indices, counted⟩ :=
    dif_pos counted
  unfold relabel
  rw [rewritten]
  simp only [Work.bind_eq, Work.bind_succeed, Work.bind_step, Array.toArray_toList,
    ofIndices_eq, built]
  rfl

theorem relabel_of_unknown {raster : Raster} {position : Nat}
    (inside : position < raster.indices.size)
    (missing : lookup raster.indices[position] = none)
    (first : ∀ earlier (held : earlier < raster.indices.size), earlier < position →
      (lookup raster.indices[earlier]).isSome = true) :
    relabel lookup raster =
      .done (.silent (.error (.unknownIndex raster.indices[position] position))) := by
  have present : position < raster.indices.toList.length := inside
  have split : raster.indices.toList = raster.indices.toList.take position ++
      raster.indices[position] :: raster.indices.toList.drop (position + 1) := by
    rw [← Array.getElem_toList present, ← List.drop_eq_getElem_cons,
      List.take_append_drop]
  have known : ∀ earlier ∈ raster.indices.toList.take position,
      (lookup earlier).isSome := by
    intro earlier member
    obtain ⟨place, below, rfl⟩ := List.getElem_of_mem member
    rw [List.length_take] at below
    have before : place < position := by omega
    rw [List.getElem_take, Array.getElem_toList]
    exact first place (before.trans inside) before
  have rewritten :=
    rewrite_of_unknown known missing (raster.indices.toList.drop (position + 1))
  rw [← split, List.length_take, Nat.min_eq_left present.le] at rewritten
  unfold relabel
  rw [rewritten]
  rfl

theorem relabel_eq (lookup : UInt8 → Option UInt8) (raster : Raster) :
    relabel lookup raster = .done (.silent (raster.relabel lookup)) := by
  by_cases known : ∀ index ∈ raster.indices, (lookup index).isSome
  · obtain ⟨labels, relabeled⟩ := Raster.exists_relabel_iff.mpr known
    rw [relabel_of_known relabeled, relabeled]
    rfl
  · have unlabeled : ∃ index ∈ raster.indices, (lookup index).isNone = true := by
      simpa using known
    obtain ⟨position, inside, missing, first, refused⟩ :=
      Raster.exists_relabel_eq_error unlabeled
    rw [relabel_of_unknown inside missing fun earlier _ => first earlier, refused]

end Rewriting

namespace Remap

theorem map_fst_entries (members : List UInt8) :
    (entries members).map Prod.fst = members := by
  simp [entries, Function.comp_def]

theorem mem_entries_of_getElem? {members : List UInt8} {index : UInt8} {rank : Nat}
    (named : members[rank]? = some index) : (index, rank.toUInt8) ∈ entries members :=
  List.mem_map.mpr ⟨(index, rank), List.mem_zipIdx_iff_getElem?.mpr named, rfl⟩

variable (compaction : Compaction)

theorem distinct_entries :
    (entries compaction.members).Pairwise fun first second =>
      (first.1 == second.1) = false := by
  have nodup := compaction.nodup_members
  rw [← map_fst_entries compaction.members, List.Nodup, List.pairwise_map] at nodup
  exact nodup.imp fun other => beq_false_of_ne other

theorem rank?_toRemap (index : UInt8) :
    compaction.toRemap.rank? index = compaction.rank? index := by
  change (Std.HashMap.ofList (entries compaction.members))[index]? = _
  unfold Compaction.rank?
  cases found : compaction.members.idxOf? index with
  | none =>
      have absent : ((entries compaction.members).map Prod.fst).contains index = false := by
        rw [map_fst_entries]
        simpa using List.idxOf?_eq_none_iff.mp found
      exact Std.HashMap.getElem?_ofList_of_contains_eq_false absent
  | some rank =>
      have named := compaction.idxOf?_eq_some_iff.mp found
      exact Std.HashMap.getElem?_ofList_of_mem BEq.rfl (distinct_entries compaction)
        (mem_entries_of_getElem? named)

theorem apply_toRemap (raster : Raster) :
    compaction.toRemap.apply raster = .done (.silent (compaction.apply raster)) := by
  have ranks : compaction.toRemap.rank? = compaction.rank? := funext (rank?_toRemap compaction)
  rw [apply, relabel_eq, ranks]
  rfl

theorem undo_toRemap (raster : Raster) :
    compaction.toRemap.undo raster = .done (.silent (compaction.undo raster)) :=
  relabel_eq _ raster

/-- The ordered set comes in the order of the ranks. -/
theorem toList_eq_members (used : Std.TreeSet UInt8) :
    used.toList = (Compaction.ofSet used.contains).members := by
  have ascending : used.toList.Pairwise (· < ·) :=
    Std.TreeSet.ordered_toList.imp Std.compare_eq_lt.mp
  refine ascending.eq_of_mem_iff (Compaction.ofSet used.contains).ascending fun index => ?_
  rw [Compaction.mem_ofSet, Std.TreeSet.mem_toList, Std.TreeSet.mem_iff_contains]

theorem ofUsed_eq (used : Std.TreeSet UInt8) :
    ofUsed used = (Compaction.ofSet used.contains).toRemap :=
  congrArg ofMembers (toList_eq_members used)

end Remap

theorem toList_ofList_indices (raster : Raster) :
    (Std.TreeSet.ofList raster.indices.toList).toList =
      (Compaction.ofRaster raster).members := by
  have used : (Std.TreeSet.ofList raster.indices.toList).contains =
      (raster.indices.contains ·) := by
    funext index
    rw [Std.TreeSet.contains_ofList, Array.contains_toList]
  rw [Remap.toList_eq_members, used]
  rfl

theorem resize_eq {words : List UInt16} {length : Nat} (fits : words.length ≤ length) :
    resize words length = words ++ List.replicate (length - words.length) 0 := by
  rw [resize, List.take_of_length_le fits]

theorem mapM_read_eq {palette : Array Color} {indices : List UInt8}
    (within : ∀ index ∈ indices, index.toNat < palette.size) :
    indices.mapM (read palette ·.toNat) =
      .ok (indices.map fun index => palette.getD index.toNat .black) := by
  refine mapM_eq fun index member => ?_
  have inside := within index member
  rw [read_eq inside]
  simp [Array.getD, inside]

theorem reduce_eq (picture : ChunkyPicture) (slots : Nat) :
    reduce picture slots =
      .done (Prod.map id Compaction.toRemap <$> picture.reduce slots) := by
  unfold reduce ChunkyPicture.reduce
  by_cases outside : slots = 0 ∨ HardwarePalette.maxSize < slots
  · rw [if_pos outside, if_pos outside]
    rfl
  rw [if_neg outside, if_neg outside]
  by_cases many : slots < picture.palette.size
  · rw [if_pos many, if_pos many]
    rfl
  rw [if_neg many, if_neg many]
  dsimp only [Remap.ofUsed]
  rw [toList_ofList_indices]
  cases found : (Compaction.ofRaster picture.raster).members.find? fun index =>
      picture.palette.size ≤ index.toNat with
  | some index => rfl
  | none =>
      have within : ∀ index ∈ (Compaction.ofRaster picture.raster).members,
          index.toNat < picture.palette.size := by
        simpa using List.find?_eq_none.mp found
      have few : (Compaction.ofRaster picture.raster).size ≤ slots :=
        (Compaction.size_le_of_members_lt _ within).trans (Nat.not_lt.mp many)
      have read := mapM_read_eq within
      have fits : ((Compaction.ofRaster picture.raster).members.map fun index =>
          (picture.palette.getD index.toNat .black).toWord).length ≤ slots := by
        rw [List.length_map]
        exact few
      dsimp only [Remap.ofMembers]
      rw [read]
      simp only [Work.bind_eq, Work.bind_step, List.map_map, Function.comp_def, resize_eq fits]
      rfl

end Machine

end ChunkyPlanar

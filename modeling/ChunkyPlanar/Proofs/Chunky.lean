import Mathlib
import ChunkyPlanar.Chunky
import ChunkyPlanar.Proofs.Raster

/-! Chunky pictures and pixels: the picture read from pixels shows them again. -/

namespace ChunkyPlanar

namespace Color

theorem size_toBytes (color : Color) : color.toBytes.size = 3 := rfl

theorem size_ofBytes (bytes : Bytes) : (ofBytes bytes).size = bytes.size / 3 := by
  simp [ofBytes]

theorem flatMap_toBytes_ofBytes {bytes : Bytes} (whole : bytes.size % 3 = 0) :
    (ofBytes bytes).flatMap toBytes = bytes := by
  have size : ((ofBytes bytes).flatMap toBytes).size = bytes.size := by
    rw [Bytes.size_arrayFlatMap_of_uniform size_toBytes, size_ofBytes]
    omega
  apply Array.ext size
  intro position inside inside'
  have offset : position % 3 < 3 := Nat.mod_lt _ (by decide)
  have place : 3 * (position / 3) + position % 3 = position := Nat.div_add_mod ..
  have color : position / 3 < (ofBytes bytes).size := by
    rw [size_ofBytes]
    omega
  have at? := Bytes.getElem?_arrayFlatMap_of_uniform size_toBytes (ofBytes bytes)
    (position / 3) offset
  rw [place, Array.getElem?_eq_getElem color, Option.bind_some] at at?
  obtain ⟨_, shown⟩ := Array.getElem?_eq_some_iff.mp
    (at?.trans (Array.getElem?_eq_getElem offset))
  rw [shown]
  simp only [ofBytes, Array.getElem_ofFn, toBytes]
  rcases (by omega : position % 3 = 0 ∨ position % 3 = 1 ∨ position % 3 = 2) with
    remainder | remainder | remainder
  all_goals
    simp only [remainder, List.getElem_toArray, List.getElem_cons_zero,
      List.getElem_cons_succ]
    congr 1
    omega

theorem ofBytes_flatMap_toBytes (colors : Array Color) :
    ofBytes (colors.flatMap toBytes) = colors := by
  have size : (colors.flatMap toBytes).size = 3 * colors.size :=
    Bytes.size_arrayFlatMap_of_uniform size_toBytes colors
  apply Array.ext
  · rw [size_ofBytes, size]
    omega
  · intro position _ inside
    have channel {offset : Nat} (small : offset < 3)
        (within : 3 * position + offset < (colors.flatMap toBytes).size) :
        (colors.flatMap toBytes)[3 * position + offset] =
          colors[position].toBytes[offset] := by
      have at? := Bytes.getElem?_arrayFlatMap_of_uniform size_toBytes colors position small
      rw [Array.getElem?_eq_getElem within, Array.getElem?_eq_getElem inside,
        Option.bind_some, Array.getElem?_eq_getElem small] at at?
      exact Option.some.inj at?
    have red := channel (by decide : 0 < 3) (by omega)
    have green := channel (by decide : 1 < 3) (by omega)
    have blue := channel (by decide : 2 < 3) (by omega)
    simp only [Nat.add_zero] at red
    simp only [ofBytes, Array.getElem_ofFn, red, green, blue]
    rfl

end Color

namespace ChunkyPicture

theorem outcome_toPixels_of_within {picture : ChunkyPicture}
    (within : ∀ index ∈ picture.raster.indices,
      index.toNat < picture.palette.size) :
    picture.toPixels.outcome = .ok (picture.raster.indices.flatMap fun index =>
      (picture.palette.getD index.toNat .black).toBytes) := by
  unfold toPixels
  rw [Logged.outcome_silent, Raster.checkWithin_eq_ok_iff.mpr within]

/-- What an indexing keeps while it reads: its indices name the colors read. -/
structure Indexing.Names (indexing : Indexing) (colors : List Color) : Prop where
  small : indexing.palette.size ≤ 256
  named : indexing.indices.toList.map (indexing.palette[·.toNat]?) = colors.map some

theorem Indexing.Names.inside {indexing : Indexing} {colors : List Color}
    (names : indexing.Names colors) {index : UInt8}
    (member : index ∈ indexing.indices.toList) :
    index.toNat < indexing.palette.size := by
  have named : indexing.palette[index.toNat]? ∈ colors.map some := by
    rw [← names.named]
    exact List.mem_map_of_mem member
  obtain ⟨color, -, found⟩ := List.mem_map.mp named
  exact (Array.getElem?_eq_some_iff.mp found.symm).1

private theorem getElem?_of_idxOf? {palette : Array Color} {color : Color}
    {index : Nat} (known : palette.idxOf? color = some index) :
    palette[index]? = some color := by
  rw [Array.idxOf?_eq_map_finIdxOf?_val, Option.map_eq_some_iff] at known
  obtain ⟨place, found, rfl⟩ := known
  rw [Array.getElem?_eq_getElem place.isLt]
  exact congrArg some (Array.finIdxOf?_eq_some_iff.mp found).1

/-! What reading one color does: a known color keeps its index, a new one takes the next
index while there is room. -/

namespace Indexing

variable {indexing next last : Indexing} {capacity : Nat} {color : Color}
  {seen colors : List Color}

theorem add_cases (added : indexing.add capacity color = .ok next) :
    (∃ index : Nat, indexing.palette[index]? = some color ∧
      next = { indexing with indices := indexing.indices.push index.toUInt8 }) ∨
    (color ∉ indexing.palette ∧ indexing.palette.size < capacity ∧
      next = ⟨indexing.palette.push color,
        indexing.indices.push indexing.palette.size.toUInt8⟩) := by
  unfold add at added
  cases known : indexing.palette.idxOf? color with
  | some index =>
      rw [known] at added
      cases added
      exact .inl ⟨index, getElem?_of_idxOf? known, rfl⟩
  | none =>
      rw [known] at added
      by_cases room : indexing.palette.size < capacity
      · simp only [if_pos room] at added
        cases added
        exact .inr ⟨Array.idxOf?_eq_none_iff.mp known, room, rfl⟩
      · simp only [if_neg room] at added
        cases added

theorem refused_of_add {ordinal : Nat}
    (refused : indexing.add capacity color = .error ordinal) :
    color ∉ indexing.palette ∧ capacity ≤ indexing.palette.size ∧
      ordinal = indexing.palette.size + 1 := by
  unfold add at refused
  cases known : indexing.palette.idxOf? color with
  | some index =>
      rw [known] at refused
      cases refused
  | none =>
      rw [known] at refused
      by_cases room : indexing.palette.size < capacity
      · simp only [if_pos room] at refused
        cases refused
      · simp only [if_neg room] at refused
        cases refused
        exact ⟨Array.idxOf?_eq_none_iff.mp known, not_lt.mp room, rfl⟩

/-- What each color keeps, any number of colors keep. -/
theorem run_induction {motive : Indexing → List Color → Prop}
    (step : ∀ indexing seen color next, motive indexing seen →
      indexing.add capacity color = .ok next → motive next (seen ++ [color]))
    (start : motive indexing seen)
    (read : colors.foldlM (Indexing.add capacity) indexing = .ok last) :
    motive last (seen ++ colors) := by
  induction colors generalizing indexing seen with
  | nil =>
      cases read
      rw [List.append_nil]
      exact start
  | cons color colors ih =>
      rw [List.foldlM_cons] at read
      cases added : indexing.add capacity color with
      | error ordinal =>
          rw [added] at read
          cases read
      | ok next =>
          rw [added] at read
          have later := ih (step indexing seen color next start added) read
          rwa [List.append_assoc] at later

/-- Reading stops at a color that is refused after all before it were read. -/
theorem refusal_induction {motive : Indexing → List Color → Prop} {ordinal : Nat}
    (step : ∀ indexing seen color next, motive indexing seen →
      indexing.add capacity color = .ok next → motive next (seen ++ [color]))
    (start : motive indexing seen)
    (refused : colors.foldlM (Indexing.add capacity) indexing = .error ordinal) :
    ∃ stopped read color rest, colors = read ++ color :: rest ∧
      motive stopped (seen ++ read) ∧ stopped.add capacity color = .error ordinal := by
  induction colors generalizing indexing seen with
  | nil => cases refused
  | cons color colors ih =>
      rw [List.foldlM_cons] at refused
      cases added : indexing.add capacity color with
      | error first =>
          rw [added] at refused
          cases refused
          exact ⟨indexing, [], color, colors, rfl, by rwa [List.append_nil], added⟩
      | ok next =>
          rw [added] at refused
          obtain ⟨stopped, read, last, rest, split, kept, stops⟩ :=
            ih (step indexing seen color next start added) refused
          rw [List.append_assoc] at kept
          exact ⟨stopped, color :: read, last, rest, congrArg (color :: ·) split, kept,
            stops⟩

theorem Names.add (names : indexing.Names seen) (most : capacity ≤ 256)
    (added : indexing.add capacity color = .ok next) :
    next.Names (seen ++ [color]) := by
  rcases add_cases added with ⟨index, found, rfl⟩ | ⟨_, room, rfl⟩
  · obtain ⟨inside, -⟩ := Array.getElem?_eq_some_iff.mp found
    have byte : index < 256 := Nat.lt_of_lt_of_le inside names.small
    refine ⟨names.small, ?_⟩
    simp [names.named, Nat.mod_eq_of_lt byte, found]
  · have byte : indexing.palette.size < 256 := Nat.lt_of_lt_of_le room most
    refine ⟨by rwa [Array.size_push], ?_⟩
    have kept : indexing.indices.toList.map
        ((indexing.palette.push color)[·.toNat]?) = seen.map some := by
      rw [← names.named]
      apply List.map_congr_left
      intro index member
      have inside := names.inside member
      rw [Array.getElem?_push_lt inside, Array.getElem?_eq_getElem inside]
    simp [kept, Nat.mod_eq_of_lt byte]

theorem Names.run (names : indexing.Names seen) (most : capacity ≤ 256)
    (read : colors.foldlM (Indexing.add capacity) indexing = .ok last) :
    last.Names (seen ++ colors) :=
  run_induction (fun _ _ _ _ names added => names.add most added) names read

end Indexing

theorem names_of_foldlM {pixels : Bytes} {limit : Nat} {indexing : Indexing}
    (read : (Color.ofBytes pixels).foldlM (Indexing.add (min limit 256)) ⟨#[], #[]⟩ =
      .ok indexing) :
    indexing.Names (Color.ofBytes pixels).toList := by
  have start : Indexing.Names ⟨#[], #[]⟩ [] := ⟨Nat.zero_le _, rfl⟩
  rw [← Array.foldlM_toList] at read
  exact start.run (Nat.min_le_right _ _) read

theorem toPixels_of_names {indexing : Indexing} {raster : Raster}
    {colors : Array Color} (names : indexing.Names colors.toList)
    (indices : raster.indices = indexing.indices) :
    (toPixels ⟨indexing.palette, raster⟩).outcome =
      .ok (colors.flatMap Color.toBytes) := by
  have shown : indexing.indices.map (fun index =>
      indexing.palette.getD index.toNat .black) = colors := by
    apply Array.toList_inj.mp
    have named := congrArg (List.map (·.getD .black)) names.named
    simpa [Function.comp_def, Array.getD_eq_getD_getElem?] using named
  rw [outcome_toPixels_of_within]
  · rw [indices, ← shown, Array.flatMap_map]
  · intro index member
    rw [indices] at member
    exact names.inside (Array.mem_toList_iff.mpr member)

theorem toPixels_ofPixels {pixels : Bytes} {size : Size} {limit : Nat}
    {picture : ChunkyPicture}
    (indexed : (ofPixels pixels size limit).outcome = .ok picture) :
    picture.raster.toSize = size ∧ picture.toPixels.outcome = .ok pixels := by
  unfold ofPixels at indexed
  by_cases whole : pixels.size = size.pixelCount * 3
  · rw [if_pos whole] at indexed
    cases read : (Color.ofBytes pixels).foldlM
        (Indexing.add (min limit 256)) ⟨#[], #[]⟩ with
    | error ordinal =>
        rw [read] at indexed
        cases indexed
    | ok indexing =>
        rw [read] at indexed
        have names := names_of_foldlM read
        cases built : Raster.ofIndices size indexing.indices with
        | error error =>
            simp only [built] at indexed
            cases indexed
        | ok raster =>
            simp only [built] at indexed
            cases indexed
            obtain ⟨sized, indices⟩ := Raster.ofIndices_eq_ok_iff.mp built
            refine ⟨sized, ?_⟩
            rw [toPixels_of_names names indices, Color.flatMap_toBytes_ofBytes]
            rw [whole]
            exact Nat.mul_mod_left _ 3
  · rw [if_neg whole] at indexed
    cases indexed

end ChunkyPicture

end ChunkyPlanar

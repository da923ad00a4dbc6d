import Mathlib
import ChunkyPlanar.Machine.Indexing
import ChunkyPlanar.Proofs.Chunky
import ChunkyPlanar.Proofs.Machine.Stacking

/-! The table and the palette of an indexing mirror each other at each of its pixels, so
looking a color up in the one is searching for it in the other. -/

namespace ChunkyPlanar.Machine

namespace Indexing

/-- Both have read the same pixels, and the table has for each color its place in the
palette. -/
structure Mirrors (indexing : Indexing) (other : ChunkyPicture.Indexing) : Prop where
  palette : indexing.palette = other.palette
  indices : indexing.indices = other.indices
  table : ∀ color : Color,
    indexing.table[color]? = (other.palette.idxOf? color).map Nat.toUInt8
  few : other.palette.size ≤ 256

/-- What the machine makes of an indexing: one that mirrors it, or the same error. -/
def Follows (limit : Nat) (work : Work ChunkyError Indexing) :
    Except Nat ChunkyPicture.Indexing → Prop
  | .ok other => ∃ indexing, work = .done (.succeed indexing) ∧ Mirrors indexing other
  | .error ordinal =>
      work = .done (.fail s!"Image holds more than {limit} distinct colors"
        (.tooManyColors limit ordinal))

theorem mirrors_empty : Mirrors empty ⟨#[], #[]⟩ where
  palette := rfl
  indices := rfl
  table := by simp [empty]
  few := Nat.zero_le _

theorem idxOf?_push (palette : Array Color) (color sought : Color) :
    (palette.push color).idxOf? sought =
      (palette.idxOf? sought).or (if color = sought then some palette.size else none) := by
  rw [← Array.idxOf?_toList, ← Array.idxOf?_toList, Array.toList_push]
  unfold List.idxOf?
  rw [List.findIdx?_append]
  congr 1
  by_cases same : color = sought
  · simp [same]
  · simp [same]

section Step

variable {indexing : Indexing} {other : ChunkyPicture.Indexing}
  (mirrors : Mirrors indexing other)

include mirrors

theorem Mirrors.push (index : UInt8) :
    Mirrors { indexing with indices := indexing.indices.push index }
      { other with indices := other.indices.push index } where
  palette := mirrors.palette
  indices := by rw [mirrors.indices]
  table := mirrors.table
  few := mirrors.few

theorem Mirrors.insert {color : Color} (new : other.palette.idxOf? color = none)
    (room : other.palette.size < 256) :
    Mirrors
      { table := indexing.table.insert color indexing.palette.size.toUInt8
        palette := indexing.palette.push color
        indices := indexing.indices.push indexing.palette.size.toUInt8 }
      { palette := other.palette.push color
        indices := other.indices.push other.palette.size.toUInt8 } where
  palette := by rw [mirrors.palette]
  indices := by rw [mirrors.indices, mirrors.palette]
  table := by
    intro sought
    rw [Std.HashMap.getElem?_insert, idxOf?_push, mirrors.table, mirrors.palette]
    by_cases same : color = sought
    · rw [← same, new]
      simp
    · simp [same]
  few := by
    rw [Array.size_push]
    exact room

/-- A pixel keeps the table and the palette in step, or its color is one too many. -/
theorem follows_readPixel (limit : Nat) (color : Color) :
    Follows limit (readPixel limit indexing color.toBytes)
      (other.add (min limit 256) color) := by
  have colored : readColor color.toBytes = .ok color := rfl
  unfold readPixel ChunkyPicture.Indexing.add
  simp only [colored, Work.bind_eq, Work.bind_step, mirrors.table]
  cases found : other.palette.idxOf? color with
  | some index => exact ⟨_, rfl, mirrors.push _⟩
  | none =>
      dsimp only [Option.map_none]
      by_cases full : min limit 256 ≤ other.palette.size
      · have fits : other.palette.size + 1 < UInt64.size :=
          Nat.lt_of_le_of_lt (Nat.succ_le_succ mirrors.few) (by decide)
        rw [mirrors.palette, if_pos full, if_neg (Nat.not_lt.mpr full), add_eq fits,
          Work.bind_step]
        rfl
      · have below := Nat.not_le.mp full
        have room := Nat.lt_of_lt_of_le below (Nat.min_le_right ..)
        rw [if_pos below, if_neg (mirrors.palette ▸ full)]
        exact ⟨_, rfl, mirrors.insert found room⟩

end Step

theorem follows_foldlM {indexing : Indexing} {other : ChunkyPicture.Indexing}
    (mirrors : Mirrors indexing other) (limit : Nat) (colors : List Color) :
    Follows limit ((colors.map Color.toBytes).foldlM (readPixel limit) indexing)
      (colors.foldlM (ChunkyPicture.Indexing.add (min limit 256)) other) := by
  induction colors generalizing indexing other with
  | nil => exact ⟨indexing, rfl, mirrors⟩
  | cons color colors ih =>
      have step := follows_readPixel mirrors limit color
      rw [List.map_cons, List.foldlM_cons, List.foldlM_cons, Work.bind_eq]
      cases added : other.add (min limit 256) color with
      | error ordinal =>
          rw [added] at step
          rw [step, Work.bind_fail]
          rfl
      | ok next =>
          rw [added] at step
          obtain ⟨after, went, kept⟩ := step
          rw [went, Work.bind_succeed]
          exact ih kept

end Indexing

theorem chunks_eq_map_toBytes {pixels : Bytes} (whole : pixels.size % 3 = 0) :
    pixels.chunks 3 = (Color.ofBytes pixels).toList.map Color.toBytes := by
  have uniform : ∀ part ∈ (Color.ofBytes pixels).toList.map Color.toBytes,
      part.size = 3 := by
    simp [Color.size_toBytes]
  have joined : Bytes.join ((Color.ofBytes pixels).toList.map Color.toBytes) = pixels := by
    rw [← Array.toList_inj, Bytes.toList_join, List.flatMap_map, ← Array.toList_flatMap,
      Color.flatMap_toBytes_ofBytes whole]
  conv_lhs => rw [← joined]
  exact Bytes.chunks_join_of_uniform (by decide) uniform

/-- Where the length of the pixels is a word, the table changes nothing. -/
theorem ofPixels_eq (pixels : Bytes) {size : Size} (limit : Nat)
    (fits : size.pixelCount * 3 < UInt64.size) :
    ofPixels pixels size limit = .done (ChunkyPicture.ofPixels pixels size limit) := by
  unfold ofPixels ChunkyPicture.ofPixels
  have counted : mul size.width.toNat size.height.toNat = .ok size.pixelCount :=
    mul_eq size.pixelCount_lt
  simp only [counted, mul_eq fits, Work.bind_eq, Work.bind_step]
  by_cases whole : pixels.size = size.pixelCount * 3
  · have divides : pixels.size % 3 = 0 := by omega
    rw [if_pos whole, if_pos whole, chunks_eq (by decide), Work.bind_step,
      chunks_eq_map_toBytes divides, ← Array.foldlM_toList]
    have follows := Indexing.follows_foldlM Indexing.mirrors_empty limit
      (Color.ofBytes pixels).toList
    cases read : (Color.ofBytes pixels).toList.foldlM
        (ChunkyPicture.Indexing.add (min limit 256)) ⟨#[], #[]⟩ with
    | error ordinal =>
        rw [read] at follows
        rw [follows, Work.bind_fail]
    | ok other =>
        rw [read] at follows
        obtain ⟨indexing, went, mirrors⟩ := follows
        rw [went, Work.bind_succeed, ofIndices_eq, Work.bind_step, mirrors.indices,
          mirrors.palette]
        dsimp only
        cases Raster.ofIndices size other.indices with
        | error error => rfl
        | ok raster => rfl
  · rw [if_neg whole, if_neg whole]

end ChunkyPlanar.Machine

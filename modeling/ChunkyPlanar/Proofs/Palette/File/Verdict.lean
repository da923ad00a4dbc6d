import Mathlib
import ChunkyPlanar.Proofs.Palette.File
import ChunkyPlanar.Proofs.Palette.Verdict

/-! Verdicts on palette files: the length alone decides which are read, and a file that is
read is what its palette is written as. What a reduction leaves can always be read. -/

namespace ChunkyPlanar.HardwarePalette

/-! From a file to a palette and back: each slot holds its two bytes. -/

theorem wordBytes_wordAt {file : Bytes} {slot : Nat} (inside : 2 * slot + 1 < file.size) :
    wordBytes (wordAt file slot) = #[file[2 * slot], file[2 * slot + 1]] := by
  have inside' : 2 * slot < file.size := by omega
  unfold wordAt
  rw [Array.getD, Array.getD, dif_pos inside', dif_pos inside, wordBytes_ofNat]
  rfl

theorem toBytes_of_words {file : Bytes} (even : file.size % 2 = 0) :
    toBytes ⟨Array.ofFn (n := file.size / 2) fun slot => wordAt file slot⟩ = file := by
  have size : (toBytes ⟨Array.ofFn (n := file.size / 2) fun slot =>
      wordAt file slot⟩).size = file.size := by
    rw [size_toBytes, HardwarePalette.size, Array.size_ofFn]
    omega
  apply Array.ext size
  intro position _ inside
  have slot : position / 2 < file.size / 2 := by omega
  have place : 2 * (position / 2) + position % 2 = position := Nat.div_add_mod ..
  have offset : position % 2 < 2 := Nat.mod_lt _ (by decide)
  have at? := getElem?_toBytes ⟨Array.ofFn (n := file.size / 2) fun slot =>
    wordAt file slot⟩ (position / 2) offset
  rw [place, get?, Array.getElem?_ofFn, dif_pos slot, Option.bind_some,
    wordBytes_wordAt (by omega)] at at?
  obtain ⟨_, held⟩ := Array.getElem?_eq_some_iff.mp
    (at?.trans (Array.getElem?_eq_getElem offset))
  rw [held]
  rcases Nat.mod_two_eq_zero_or_one position with first | second
  · simp only [first, List.getElem_toArray, List.getElem_cons_zero]
    congr 1
    omega
  · simp only [second, List.getElem_toArray, List.getElem_cons_succ,
      List.getElem_cons_zero]
    congr 1
    omega

theorem outcome_ofBytes_of_toBytes {palette : HardwarePalette} (positive : 1 ≤ palette.size)
    (few : palette.size ≤ 256) : (ofBytes palette.toBytes).outcome = .ok palette := by
  rw [ofBytes_toBytes positive few, Logged.outcome_succeed]

/-- What comes of reading a palette file: one of another length is refused, and any other
gives the palette that is written as these bytes. -/
def FileVerdict (file : Bytes) (outcome : Except PaletteError HardwarePalette) : Prop :=
  if file.size = 0 ∨ file.size % 2 = 1 ∨ 512 < file.size then
    outcome = .error (.wrongFileLength file.size)
  else
    ∃ palette, outcome = .ok palette ∧ palette.toBytes = file

theorem verdict_outcome_ofBytes (file : Bytes) :
    FileVerdict file (ofBytes file).outcome := by
  unfold FileVerdict
  refine ite_prop_iff_and.mpr ⟨outcome_ofBytes_of_length, fun whole => ?_⟩
  exact ⟨_, outcome_ofBytes_of_words whole, toBytes_of_words (by omega)⟩

/-! The file of a reduction: the palette has as many words as slots, and the high byte of
a word holds one channel. -/

theorem high_of_toBytes {palette : HardwarePalette}
    (small : ∀ word ∈ palette.words, word ≤ 0x0FFF) {position : Nat} {byte : UInt8}
    (even : position % 2 = 0) (held : palette.toBytes[position]? = some byte) :
    byte < 16 := by
  have place : 2 * (position / 2) + 0 = position := by omega
  rw [← place, palette.getElem?_toBytes (position / 2) (by decide),
    Option.bind_eq_some_iff] at held
  obtain ⟨word, stored, high⟩ := held
  have bound := UInt16.le_iff_toNat_le.mp (small word (Array.mem_of_getElem? stored))
  change word.toNat ≤ 4095 at bound
  obtain rfl : (word >>> 8).toUInt8 = byte := Option.some.inj high
  rw [UInt8.lt_iff_toNat_lt, UInt16.toNat_toUInt8, UInt16.toNat_shiftRight]
  change word.toNat >>> 8 % 256 < 16
  rw [Nat.shiftRight_eq_div_pow]
  omega

/-- A palette whose file has a word for each of the slots, and in each word the top
nibble clear. -/
structure Fills (palette : HardwarePalette) (slots : Nat) : Prop where
  positive : 1 ≤ palette.size
  most : palette.size ≤ 256
  length : palette.toBytes.size = 2 * slots
  high : ∀ position byte, position % 2 = 0 → palette.toBytes[position]? = some byte →
    byte < 16
  read : (ofBytes palette.toBytes).outcome = .ok palette

theorem fills_of_reduce {picture : ChunkyPicture} {slots : Nat}
    {palette : HardwarePalette} {compaction : Compaction}
    (reduces : (picture.reduce slots).outcome = .ok (palette, compaction)) :
    palette.Fills slots := by
  obtain ⟨inside, few, within, reduced⟩ :=
    ChunkyPicture.outcome_reduce_eq_ok_iff.mp reduces
  cases reduced
  have left := ChunkyPicture.reduces_ofUsed (not_lt.mp few) within
  have size := left.size
  unfold maxSize at inside
  have positive := size.symm ▸ (show 1 ≤ slots by omega)
  have most := size.symm ▸ (show slots ≤ 256 by omega)
  exact {
    positive
    most
    length := by rw [size_toBytes, size]
    high := fun _ _ even held => high_of_toBytes left.small even held
    read := outcome_ofBytes_of_toBytes positive most }

/-- Reading and writing undo each other on all files of the right length and all palettes
of 1 to 256 words, and each palette of a reduction is one of these. -/
theorem ofBytes_exact :
    (∀ file, FileVerdict file (ofBytes file).outcome) ∧
    (∀ palette : HardwarePalette, 1 ≤ palette.size → palette.size ≤ 256 →
      (ofBytes palette.toBytes).outcome = .ok palette) ∧
    ∀ (picture : ChunkyPicture) (slots : Nat) (palette : HardwarePalette)
      (compaction : Compaction),
      (picture.reduce slots).outcome = .ok (palette, compaction) →
        palette.Fills slots := by
  refine ⟨verdict_outcome_ofBytes, ?_, ?_⟩
  · intro palette positive few
    exact outcome_ofBytes_of_toBytes positive few
  · intro picture slots palette compaction reduces
    exact fills_of_reduce reduces

/-- One word has its top nibble set, which no reduction does. -/
theorem ofBytes_exact_pair :
    let palette : HardwarePalette := ⟨#[0xF00F, 0x00F0]⟩
    let picture : ChunkyPicture :=
      ⟨#[.black, ⟨255, 16, 32⟩], ⟨⟨2, 1⟩, #[1, 1], rfl⟩⟩
    let reduced : HardwarePalette := ⟨#[0x21F, 0]⟩
    let compaction : Compaction := ⟨[1], by decide⟩
    (1 ≤ palette.size ∧ palette.size ≤ 256) ∧
      palette.toBytes = #[0xF0, 0x0F, 0x00, 0xF0] ∧
      (ofBytes palette.toBytes).outcome = .ok palette ∧
      (picture.reduce 2).outcome = .ok (reduced, compaction) ∧
      reduced.toBytes = #[0x02, 0x1F, 0x00, 0x00] ∧
      reduced.Fills 2 := by
  intro palette picture reduced compaction
  have reduces : (picture.reduce 2).outcome = .ok (reduced, compaction) := by
    decide +kernel +revert
  exact ⟨by decide, by decide +kernel, ofBytes_exact.2.1 palette (by decide) (by decide),
    reduces, by decide +kernel,
    ofBytes_exact.2.2 picture 2 reduced compaction reduces⟩

end ChunkyPlanar.HardwarePalette

import Mathlib
import ChunkyPlanar.Palette

/-! Palette files: two bytes a word, so that reading one gives back the palette that it
was written from. -/

namespace ChunkyPlanar.HardwarePalette

/-- The word in a slot of a palette file. -/
def wordAt (file : Bytes) (slot : Nat) : UInt16 :=
  .ofNat ((file.getD (2 * slot) 0).toNat * 256 + (file.getD (2 * slot + 1) 0).toNat)

private theorem word_of_bytes (high low : UInt8) :
    high.toUInt16 <<< 8 ||| low.toUInt16 = .ofNat (high.toNat * 256 + low.toNat) := by
  have highSmall := high.toNat_lt
  have lowSmall := low.toNat_lt
  have joined : high.toNat <<< 8 ||| low.toNat = high.toNat * 256 + low.toNat := by
    rw [← Nat.shiftLeft_add_eq_or_of_lt (by omega), Nat.shiftLeft_eq]
  have shifted : high.toNat * 256 % 65536 = high.toNat <<< 8 := by
    rw [Nat.shiftLeft_eq]
    omega
  have whole : (high.toNat * 256 + low.toNat) % 65536 = high.toNat * 256 + low.toNat :=
    Nat.mod_eq_of_lt (by omega)
  apply UInt16.toNat_inj.mp
  simpa [Nat.shiftLeft_eq, shifted, whole] using joined

private theorem word_of_wordBytes (word : UInt16) :
    (word >>> 8).toUInt8.toUInt16 <<< 8 ||| word.toUInt8.toUInt16 = word := by
  have small := word.toNat_lt
  have high : word.toNat / 256 % 256 * 256 + word.toNat % 256 = word.toNat := by omega
  rw [word_of_bytes]
  apply UInt16.toNat_inj.mp
  simp [Nat.shiftRight_eq_div_pow, high]

theorem wordBytes_ofNat (high low : UInt8) :
    wordBytes (.ofNat (high.toNat * 256 + low.toNat)) = #[high, low] := by
  have highSmall := high.toNat_lt
  have lowSmall := low.toNat_lt
  have whole : (high.toNat * 256 + low.toNat) % 65536 = high.toNat * 256 + low.toNat :=
    Nat.mod_eq_of_lt (by omega)
  have first : (UInt16.ofNat (high.toNat * 256 + low.toNat) >>> 8).toUInt8 = high := by
    apply UInt8.toNat_inj.mp
    simp only [UInt16.toNat_toUInt8, UInt16.toNat_shiftRight, UInt16.toNat_ofNat', whole]
    change (high.toNat * 256 + low.toNat) >>> 8 % 256 = high.toNat
    rw [Nat.shiftRight_eq_div_pow]
    omega
  have second : (UInt16.ofNat (high.toNat * 256 + low.toNat)).toUInt8 = low := by
    apply UInt8.toNat_inj.mp
    rw [UInt16.toNat_toUInt8, UInt16.toNat_ofNat', whole]
    omega
  rw [wordBytes, first, second]

theorem size_wordBytes (word : UInt16) : (wordBytes word).size = 2 := rfl

theorem size_toBytes (palette : HardwarePalette) :
    palette.toBytes.size = 2 * palette.size :=
  Bytes.size_arrayFlatMap_of_uniform size_wordBytes palette.words

theorem getElem?_toBytes (palette : HardwarePalette) (slot : Nat) {offset : Nat}
    (inside : offset < 2) :
    palette.toBytes[2 * slot + offset]? =
      (palette.get? slot).bind fun word => (wordBytes word)[offset]? :=
  Bytes.getElem?_arrayFlatMap_of_uniform size_wordBytes palette.words slot inside

theorem ofBytes_toBytes {palette : HardwarePalette} (positive : 0 < palette.size)
    (few : palette.size ≤ maxSize) :
    ofBytes palette.toBytes = .succeed palette := by
  have size := palette.size_toBytes
  unfold ofBytes
  rw [if_neg (by
    rw [Array.isEmpty_iff_size_eq_zero]
    omega)]
  congr
  apply Array.ext
  · simp [size]
    rfl
  · intro slot inside inside'
    have high := palette.getElem?_toBytes slot (by decide : 0 < 2)
    have low := palette.getElem?_toBytes slot (by decide : 1 < 2)
    have word : palette.get? slot = some palette.words[slot] :=
      Array.getElem?_eq_getElem inside'
    rw [word] at high low
    obtain ⟨_, high⟩ := Array.getElem?_eq_some_iff.mp high
    obtain ⟨_, low⟩ := Array.getElem?_eq_some_iff.mp low
    simp only [Nat.add_zero] at high
    simp only [Array.getElem_ofFn, high, low]
    exact word_of_wordBytes palette.words[slot]

theorem outcome_ofBytes_of_length {file : Bytes}
    (faulty : file.size = 0 ∨ file.size % 2 = 1 ∨ 512 < file.size) :
    (ofBytes file).outcome = .error (.wrongFileLength file.size) := by
  unfold ofBytes maxSize
  rw [if_pos, Logged.outcome_fail]
  rw [Array.isEmpty_iff_size_eq_zero]
  omega

theorem outcome_ofBytes_of_words {file : Bytes}
    (whole : ¬ (file.size = 0 ∨ file.size % 2 = 1 ∨ 512 < file.size)) :
    (ofBytes file).outcome =
      .ok ⟨Array.ofFn (n := file.size / 2) fun slot => wordAt file slot⟩ := by
  unfold ofBytes maxSize
  rw [if_neg, Logged.outcome_succeed]
  · congr
    funext slot
    have inside : 2 * slot.val + 1 < file.size := by omega
    have inside' : 2 * slot.val < file.size := by omega
    simp [word_of_bytes, wordAt, Array.getD, inside, inside']
  · rw [Array.isEmpty_iff_size_eq_zero]
    omega

end ChunkyPlanar.HardwarePalette

import Mathlib
import ChunkyPlanar.Color

/-! Words in numbers: three digits to the base sixteen, of which storing a color keeps
one a channel. -/

namespace ChunkyPlanar

/-- What a word keeps of a channel: the high nibble, in both places. -/
def Byte.repeatHighNibble (byte : UInt8) : UInt8 := (byte >>> 4) * 17

theorem Byte.toNat_repeatHighNibble (byte : UInt8) :
    (repeatHighNibble byte).toNat = byte.toNat / 16 * 17 := by
  have small := byte.toNat_lt
  simp only [repeatHighNibble, UInt8.toNat_mul, UInt8.toNat_shiftRight]
  change byte.toNat >>> 4 * 17 % 256 = _
  rw [Nat.shiftRight_eq_div_pow]
  omega

namespace Color

theorem toNat_toWord (color : Color) :
    color.toWord.toNat =
      (color.blue.toNat / 16 * 16 + color.green.toNat / 16) * 16 +
        color.red.toNat / 16 := by
  have red := color.red.toNat_lt
  have green := color.green.toNat_lt
  have blue := color.blue.toNat_lt
  have joined : (color.blue.toNat / 16) <<< 8 ||| (color.green.toNat / 16) <<< 4 =
      (color.blue.toNat / 16 * 16 + color.green.toNat / 16) <<< 4 := by
    rw [← Nat.shiftLeft_add_eq_or_of_lt (by rw [Nat.shiftLeft_eq]; omega)]
    simp only [Nat.shiftLeft_eq]
    omega
  calc
    color.toWord.toNat =
        (color.blue.toNat / 16) <<< 8 ||| (color.green.toNat / 16) <<< 4 |||
          color.red.toNat / 16 := by
      simp [toWord, Nat.shiftRight_eq_div_pow, Nat.shiftLeft_eq]
      rw [Nat.mod_eq_of_lt (by omega), Nat.mod_eq_of_lt (by omega)]
    _ = (color.blue.toNat / 16 * 16 + color.green.toNat / 16) <<< 4 +
          color.red.toNat / 16 := by
      rw [joined, Nat.shiftLeft_add_eq_or_of_lt (by omega)]
    _ = _ := by rw [Nat.shiftLeft_eq]

private theorem toNat_digit (word : UInt16) :
    ((word &&& 0xF).toUInt8 * 17).toNat = word.toNat % 16 * 17 := by
  have masked : (word &&& 0xF).toNat = word.toNat % 16 := by
    rw [UInt16.toNat_and]
    exact Nat.and_two_pow_sub_one_eq_mod word.toNat 4
  rw [UInt8.toNat_mul, UInt16.toNat_toUInt8, masked]
  change word.toNat % 16 % 256 * 17 % 256 = _
  omega

theorem toNat_red_ofWord (word : UInt16) :
    (ofWord word).red.toNat = word.toNat % 16 * 17 := toNat_digit word

theorem toNat_green_ofWord (word : UInt16) :
    (ofWord word).green.toNat = word.toNat / 16 % 16 * 17 := by
  rw [ofWord, toNat_digit, UInt16.toNat_shiftRight, ← Nat.shiftRight_eq_div_pow _ 4]
  rfl

theorem toNat_blue_ofWord (word : UInt16) :
    (ofWord word).blue.toNat = word.toNat / 256 % 16 * 17 := by
  rw [ofWord, toNat_digit, UInt16.toNat_shiftRight, ← Nat.shiftRight_eq_div_pow _ 8]
  rfl

theorem ofWord_toWord (color : Color) :
    ofWord color.toWord =
      ⟨Byte.repeatHighNibble color.red, Byte.repeatHighNibble color.green,
        Byte.repeatHighNibble color.blue⟩ := by
  have red := color.red.toNat_lt
  have green := color.green.toNat_lt
  have blue := color.blue.toNat_lt
  have word := toNat_toWord color
  have sameRed := toNat_red_ofWord color.toWord
  have sameGreen := toNat_green_ofWord color.toWord
  have sameBlue := toNat_blue_ofWord color.toWord
  cases shown : ofWord color.toWord with
  | mk red' green' blue' =>
      rw [shown] at sameRed sameGreen sameBlue
      congr
      · apply UInt8.toNat_inj.mp
        rw [sameRed, Byte.toNat_repeatHighNibble]
        omega
      · apply UInt8.toNat_inj.mp
        rw [sameGreen, Byte.toNat_repeatHighNibble]
        omega
      · apply UInt8.toNat_inj.mp
        rw [sameBlue, Byte.toNat_repeatHighNibble]
        omega

theorem toBytes_ofWord_toWord (color : Color) :
    (ofWord color.toWord).toBytes = color.toBytes.map Byte.repeatHighNibble := by
  rw [ofWord_toWord]
  simp [toBytes]

end Color

end ChunkyPlanar

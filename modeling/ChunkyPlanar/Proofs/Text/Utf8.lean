import Mathlib
import ChunkyPlanar.Files

/-! What is shown of a text is the text: each of its characters is completed by its last
byte, and no start of a character breaks off. -/

namespace ChunkyPlanar

namespace Utf8

/-- A byte behind the first of a character. -/
def tail (low : Nat) : UInt8 := UInt8.ofNat (low + 128)

theorem toNat_tail {low : Nat} (small : low < 64) : (tail low).toNat = low + 128 := by
  rw [tail, UInt8.toNat_ofNat']
  omega

theorem least_le_tail {low : Nat} {least : UInt8} (small : low < 64)
    (above : least.toNat ≤ low + 128) : least ≤ tail low := by
  rwa [UInt8.le_iff_toNat_le, toNat_tail small]

theorem tail_le_greatest {low : Nat} {greatest : UInt8} (small : low < 64)
    (below : low + 128 ≤ greatest.toNat) : tail low ≤ greatest := by
  rwa [UInt8.le_iff_toNat_le, toNat_tail small]

section Tail

variable {opening : Opening} {low : Nat} (small : low < 64)
  (above : opening.least.toNat ≤ low + 128) (below : low + 128 ≤ opening.greatest.toNat)

include small above below

theorem characters_tail_of_one (last : opening.missing = 1) (rest : List UInt8) :
    characters (some opening) (tail low :: rest) =
      Char.ofNat (opening.value * 64 + low) :: characters none rest := by
  have within : opening.least ≤ tail low ∧ tail low ≤ opening.greatest :=
    ⟨least_le_tail small above, tail_le_greatest small below⟩
  have value : (tail low).toNat % 64 = low := by
    rw [toNat_tail small]
    omega
  simp only [characters, step, if_pos within, Opening.next, if_pos last, value,
    List.singleton_append]

theorem characters_tail_of_more (more : opening.missing ≠ 1) (rest : List UInt8) :
    characters (some opening) (tail low :: rest) =
      characters (some {
        missing := opening.missing - 1
        value := opening.value * 64 + low }) rest := by
  have within : opening.least ≤ tail low ∧ tail low ≤ opening.greatest :=
    ⟨least_le_tail small above, tail_le_greatest small below⟩
  have value : (tail low).toNat % 64 = low := by
    rw [toNat_tail small]
    omega
  simp only [characters, step, if_pos within, Opening.next, if_neg more, value,
    List.nil_append]

end Tail

theorem start_ascii : ∀ code < 128, start (UInt8.ofNat code) = ([Char.ofNat code], none) := by
  decide +kernel

theorem start_two : ∀ lead < 32, 2 ≤ lead →
    start (UInt8.ofNat (lead + 192)) = ([], some { missing := 1, value := lead }) := by
  decide +kernel

theorem start_three : ∀ lead < 16, start (UInt8.ofNat (lead + 224)) = ([], some {
    missing := 2
    least := if lead = 0 then 0xA0 else 0x80
    greatest := if lead = 13 then 0x9F else 0xBF
    value := lead }) := by
  decide +kernel

theorem start_four : ∀ lead < 5, start (UInt8.ofNat (lead + 240)) = ([], some {
    missing := 3
    least := if lead = 0 then 0x90 else 0x80
    greatest := if lead = 4 then 0x8F else 0xBF
    value := lead }) := by
  decide +kernel

theorem characters_opens {byte : UInt8} {opening : Opening}
    (opens : start byte = ([], some opening)) (rest : List UInt8) :
    characters none (byte :: rest) = characters (some opening) rest := by
  simp only [characters, step, opens, List.nil_append]

/-- The bytes of one character, with any others behind them. -/
theorem characters_utf8EncodeChar (c : Char) (rest : List UInt8) :
    characters none (String.utf8EncodeChar c ++ rest) = c :: characters none rest := by
  have valid : c.val.toNat < 0xD800 ∨ 0xDFFF < c.val.toNat ∧ c.val.toNat < 0x110000 :=
    c.valid
  have back : Char.ofNat c.val.toNat = c := Char.ofNat_toNat c
  unfold String.utf8EncodeChar
  generalize c.val.toNat = code at valid back
  dsimp only
  split
  · rename_i ascii
    simp only [List.singleton_append, characters, step,
      start_ascii code (Nat.lt_succ_of_le ascii), back]
  split
  · have opens := start_two (code / 64 % 32) (by omega) (by omega)
    have value : code / 64 % 32 * 64 + code % 64 = code := by omega
    change characters none (_ :: tail (code % 64) :: rest) = _
    rw [characters_opens opens, characters_tail_of_one, value, back]
    · omega
    · change 0x80 ≤ _
      omega
    · change _ ≤ 0xBF
      omega
    · rfl
  split
  · have opens := start_three (code / 4096 % 16) (by omega)
    have value : (code / 4096 % 16 * 64 + code / 64 % 64) * 64 + code % 64 = code := by omega
    change characters none (_ :: tail (code / 64 % 64) :: tail (code % 64) :: rest) = _
    rw [characters_opens opens, characters_tail_of_more, characters_tail_of_one, value, back]
    · omega
    · change 0x80 ≤ _
      omega
    · change _ ≤ 0xBF
      omega
    · rfl
    · omega
    · -- A first byte that is least leaves no code below it.
      dsimp only
      split
      · change 0xA0 ≤ _
        omega
      · change 0x80 ≤ _
        omega
    · -- No code is that of a surrogate.
      dsimp only
      split
      · change _ ≤ 0x9F
        omega
      · change _ ≤ 0xBF
        omega
    · simp
  · have opens := start_four (code / 262144 % 8) (by omega)
    have value : ((code / 262144 % 8 * 64 + code / 4096 % 64) * 64 + code / 64 % 64) * 64 +
        code % 64 = code := by omega
    change characters none (_ :: tail (code / 4096 % 64) :: tail (code / 64 % 64) ::
      tail (code % 64) :: rest) = _
    rw [characters_opens opens, characters_tail_of_more, characters_tail_of_more,
      characters_tail_of_one, value, back]
    · omega
    · change 0x80 ≤ _
      omega
    · change _ ≤ 0xBF
      omega
    · rfl
    · omega
    · change 0x80 ≤ _
      omega
    · change _ ≤ 0xBF
      omega
    · simp
    · omega
    · dsimp only
      split
      · change 0x90 ≤ _
        omega
      · change 0x80 ≤ _
        omega
    · dsimp only
      split
      · change _ ≤ 0x8F
        omega
      · change _ ≤ 0xBF
        omega
    · simp

theorem characters_flatMap_utf8EncodeChar (text : List Char) :
    characters none (text.flatMap String.utf8EncodeChar) = text := by
  induction text with
  | nil => rfl
  | cons c rest ih => rw [List.flatMap_cons, characters_utf8EncodeChar, ih]

/-- Bytes are taken for a text only if they are its encoding. -/
theorem fromUTF8?_eq_some_iff {content : Array UInt8} {document : String} :
    String.fromUTF8? ⟨content⟩ = some document ↔ content = document.toUTF8.data := by
  unfold String.fromUTF8?
  constructor
  · intro decoded
    split at decoded
    · cases decoded
      rfl
    · cases decoded
  · rintro rfl
    exact dif_pos document.isValidUTF8

end Utf8

theorem FilePath.text_ofText (text : String) : (ofText text).text = text := by
  have bytes : (ofText text).bytes = text.toList.flatMap String.utf8EncodeChar := by
    have encoded : text.toUTF8 = (text.toList.flatMap String.utf8EncodeChar).toByteArray := by
      rw [← List.utf8Encode, String.utf8Encode_toList]
      rfl
    rw [ofText, FileName.ofText, encoded, List.data_toByteArray]
  rw [FilePath.text, Utf8.shown, bytes, Utf8.characters_flatMap_utf8EncodeChar,
    String.ofList_toList]

end ChunkyPlanar

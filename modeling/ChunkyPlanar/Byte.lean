/-! Bits of a byte counted from the left: column 0 is the most significant bit.
Packing eight bits and reading columns undo each other. -/

namespace ChunkyPlanar.Byte

def bit (byte : UInt8) (column : Nat) : Bool :=
  byte.toNat.testBit (7 - column)

def pack (bits : Fin 8 → Bool) : UInt8 :=
  Fin.foldl 8 (fun byte column => byte <<< 1 ||| (bits column).toUInt8) 0

private theorem bit_pack_cases : ∀ b0 b1 b2 b3 b4 b5 b6 b7 : Bool,
    let byte := pack fun column =>
      [b0, b1, b2, b3, b4, b5, b6, b7].getD column.val false
    bit byte 0 = b0 ∧ bit byte 1 = b1 ∧ bit byte 2 = b2 ∧ bit byte 3 = b3 ∧
      bit byte 4 = b4 ∧ bit byte 5 = b5 ∧ bit byte 6 = b6 ∧ bit byte 7 = b7 := by
  decide

private theorem eq_getD (bits : Fin 8 → Bool) :
    bits = fun column =>
      [bits 0, bits 1, bits 2, bits 3, bits 4, bits 5, bits 6, bits 7].getD
        column.val false := by
  funext column
  match column with
  | 0 | 1 | 2 | 3 | 4 | 5 | 6 | 7 => rfl

theorem bit_pack (bits : Fin 8 → Bool) (column : Fin 8) :
    bit (pack bits) column = bits column := by
  have cases := bit_pack_cases (bits 0) (bits 1) (bits 2) (bits 3) (bits 4)
    (bits 5) (bits 6) (bits 7)
  rw [← eq_getD bits] at cases
  obtain ⟨h0, h1, h2, h3, h4, h5, h6, h7⟩ := cases
  match column with
  | 0 => exact h0
  | 1 => exact h1
  | 2 => exact h2
  | 3 => exact h3
  | 4 => exact h4
  | 5 => exact h5
  | 6 => exact h6
  | 7 => exact h7

private theorem pack_bit_ofNat : ∀ value < 256,
    pack (fun column => bit (UInt8.ofNat value) column) = UInt8.ofNat value := by
  decide +kernel

theorem pack_bit (byte : UInt8) : pack (fun column => bit byte column) = byte := by
  have h := pack_bit_ofNat byte.toNat byte.toNat_lt
  rwa [UInt8.ofNat_toNat] at h

end ChunkyPlanar.Byte

import Mathlib
import ChunkyPlanar.Text.Decimal

/-! Decimal numerals: the readers take exactly the digits whose places give the number,
and also the digits that are written for it. -/

namespace ChunkyPlanar.Decimal

/-- One ASCII digit or more, the last of which counts the ones. -/
structure Numeral (digits : List Char) (value : Nat) : Prop where
  filled : digits ≠ []
  isDigit : ∀ c ∈ digits, c.isDigit = true
  value_eq : value = Nat.ofDigits 10 (digits.reverse.map fun c => c.toNat - '0'.toNat)

variable {text : List Char} {number : Nat}

theorem value_eq_ofDigits (digits : List Char) :
    value digits = Nat.ofDigits 10 (digits.reverse.map fun c => c.toNat - '0'.toNat) := by
  rw [Nat.ofDigits_eq_foldr, List.foldr_map, List.foldr_reverse]
  simp only [value, Nat.add_comm, Nat.cast_id]

theorem digits?_eq_some_iff : digits? text = some number ↔ Numeral text number := by
  unfold digits?
  constructor
  · intro read
    split_ifs at read with empty digits
    cases read
    exact ⟨by simpa using empty, List.all_eq_true.mp digits, value_eq_ofDigits text⟩
  · rintro ⟨filled, isDigit, rfl⟩
    rw [if_neg (by simpa using filled), if_pos (List.all_eq_true.mpr isDigit),
      value_eq_ofDigits]

theorem numeral_toDigits (count : Nat) : Numeral (Nat.toDigits 10 count) count where
  filled := Nat.toDigits_ne_nil
  isDigit := fun _ => Nat.isDigit_of_mem_toDigits (by decide) (by decide)
  value_eq := Nat.ofDigitChars_ten_toDigits.symm.trans (value_eq_ofDigits _)

theorem digits?_toDigits (count : Nat) : digits? (Nat.toDigits 10 count) = some count :=
  digits?_eq_some_iff.mpr (numeral_toDigits count)

/-- A sign is no digit, so it is never read as one. -/
theorem unsigned?_eq_some_iff :
    unsigned? text = some number ↔
      ∃ digits, (text = digits ∨ text = '+' :: digits) ∧ Numeral digits number := by
  constructor
  · intro read
    unfold unsigned? at read
    split at read
    · next digits => exact ⟨digits, .inr rfl, digits?_eq_some_iff.mp read⟩
    · exact ⟨text, .inl rfl, digits?_eq_some_iff.mp read⟩
  · rintro ⟨digits, rfl | rfl, numeral⟩
    · unfold unsigned?
      split
      · next rest =>
          have sign := numeral.isDigit '+' List.mem_cons_self
          cases sign
      · exact digits?_eq_some_iff.mpr numeral
    · exact digits?_eq_some_iff.mpr numeral

theorem upTo?_eq_some_iff {limit : Nat} :
    upTo? limit text = some number ↔ unsigned? text = some number ∧ number ≤ limit := by
  simp [upTo?, Option.filter_eq_some_iff]

end ChunkyPlanar.Decimal

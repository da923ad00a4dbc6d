import Mathlib
import ChunkyPlanar.Text.Hexadecimal

/-! Hexadecimal numerals: reading one gives back the value that it was written for. -/

namespace ChunkyPlanar.Hexadecimal

private theorem digit_cases : ∀ low < 16,
    isDigit (digit low) = true ∧ digitValue (digit low) = low := by
  decide

theorem isDigit_digit (value : Nat) : isDigit (digit value) = true := by
  have low := (digit_cases (value % 16) (Nat.mod_lt _ (by decide))).1
  simpa [digit] using low

theorem digitValue_digit (value : Nat) : digitValue (digit value) = value % 16 := by
  have low := (digit_cases (value % 16) (Nat.mod_lt _ (by decide))).2
  simpa [digit] using low

theorem isDigit_of_mem_digits {count value : Nat} {c : Char}
    (member : c ∈ digits count value) : isDigit c = true := by
  induction count generalizing value with
  | zero => cases member
  | succ count ih =>
      rcases List.mem_append.mp member with earlier | last
      · exact ih earlier
      · rw [List.mem_singleton.mp last]
        exact isDigit_digit value

theorem value_digits (count value : Nat) :
    Hexadecimal.value (digits count value) = value % 16 ^ count := by
  induction count generalizing value with
  | zero => simp [digits, Hexadecimal.value, Nat.mod_one]
  | succ count ih =>
      have step : Hexadecimal.value (digits (count + 1) value) =
          16 * Hexadecimal.value (digits count (value / 16)) +
            digitValue (digit value) := by
        simp [digits, Hexadecimal.value]
      rw [step, ih, digitValue_digit, pow_succ', Nat.mod_mul, Nat.add_comm]

theorem number?_digits {count value : Nat} (positive : 0 < count)
    (small : value < 16 ^ count) : number? (digits count value) = some value := by
  have some_digit : (digits count value).isEmpty = false := by
    rw [List.isEmpty_eq_false_iff, ← List.length_pos_iff, length_digits]
    exact positive
  have all_digits : (digits count value).all isDigit = true :=
    List.all_eq_true.mpr fun _ => isDigit_of_mem_digits
  unfold number?
  rw [some_digit, if_neg (by decide), if_pos all_digits, value_digits,
    Nat.mod_eq_of_lt small]

theorem isDigit_of_number?_eq_some {text : List Char} {value : Nat}
    (read : number? text = some value) {c : Char} (member : c ∈ text) :
    isDigit c = true := by
  unfold number? at read
  split at read
  · cases read
  · split at read
    · next all_digits => exact List.all_eq_true.mp all_digits c member
    · cases read

end ChunkyPlanar.Hexadecimal

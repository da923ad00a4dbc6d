import Mathlib
import ChunkyPlanar.Text.Blank

/-! Trimming takes away all blanks at the two ends of a text, and nothing else. -/

namespace ChunkyPlanar.Blank

/-- The core of a text: what stands between the blanks at its ends. -/
structure Encloses (text core : List Char) : Prop where
  split : ∃ before after, text = before ++ core ++ after ∧
    (∀ c ∈ before, isBlank c = true) ∧ ∀ c ∈ after, isBlank c = true
  first : ∀ c ∈ core.head?, isBlank c = false
  last : ∀ c ∈ core.getLast?, isBlank c = false

variable {text core : List Char}

theorem isBlank_eq_false_of_isDigit {c : Char} (digit : c.isDigit = true) :
    isBlank c = false := by
  have range : 48 ≤ c.toNat ∧ c.toNat ≤ 57 := by
    simpa [Char.isDigit, UInt32.le_iff_toNat_le] using digit
  simp [isBlank, ranges]
  omega

theorem Encloses.refl_of_dark (dark : ∀ c ∈ text, isBlank c = false) : Encloses text text where
  split := ⟨[], [], by simp, by simp, by simp⟩
  first := fun c first => dark c (List.mem_of_mem_head? first)
  last := fun c last => dark c (List.mem_of_mem_getLast? last)

theorem dropWhile_append_of_blank {blanks rest : List Char}
    (blank : ∀ c ∈ blanks, isBlank c = true) (dark : ∀ c ∈ rest.head?, isBlank c = false) :
    (blanks ++ rest).dropWhile isBlank = rest := by
  rw [List.dropWhile_append_of_pos blank]
  cases rest with
  | nil => rfl
  | cons c rest => exact List.dropWhile_cons_of_neg (by simp [dark c rfl])

theorem isBlank_of_mem_head?_dropWhile {c : Char}
    (first : c ∈ (text.dropWhile isBlank).head?) : isBlank c = false := by
  have stopped := List.head?_dropWhile_not isBlank text
  rw [Option.mem_def.mp first] at stopped
  exact stopped

theorem encloses_trim (text : List Char) : Encloses text (trim text) := by
  let left := text.dropWhile isBlank
  have front : text.takeWhile isBlank ++ left = text := List.takeWhile_append_dropWhile
  have back : trim text ++ (left.reverse.takeWhile isBlank).reverse = left := by
    unfold trim trimLeft
    rw [← List.reverse_append, List.takeWhile_append_dropWhile, List.reverse_reverse]
  refine ⟨⟨text.takeWhile isBlank, (left.reverse.takeWhile isBlank).reverse, ?_, ?_, ?_⟩,
    ?_, ?_⟩
  · rw [List.append_assoc, back, front]
  · exact fun _ => List.mem_takeWhile_imp
  · intro c member
    exact List.mem_takeWhile_imp (List.mem_reverse.mp member)
  · intro c first
    have start : c ∈ left.head? := by
      rw [← back]
      exact List.mem_head?_append_of_mem_head? first
    exact isBlank_of_mem_head?_dropWhile start
  · intro c last
    unfold trim at last
    rw [List.getLast?_reverse] at last
    exact isBlank_of_mem_head?_dropWhile last

theorem trim_eq_of_encloses (encloses : Encloses text core) : trim text = core := by
  obtain ⟨⟨before, after, rfl, blankBefore, blankAfter⟩, first, last⟩ := encloses
  unfold trim trimLeft
  cases core with
  | nil =>
      have blank : ∀ c ∈ before ++ [] ++ after, isBlank c = true := by
        intro c member
        rw [List.append_nil] at member
        exact (List.mem_append.mp member).elim (blankBefore c) (blankAfter c)
      rw [List.dropWhile_eq_nil_iff.mpr blank]
      rfl
  | cons c rest =>
      have start : ∀ d ∈ (c :: rest ++ after).head?, isBlank d = false := first
      rw [List.append_assoc, dropWhile_append_of_blank blankBefore start,
        List.reverse_append, dropWhile_append_of_blank, List.reverse_reverse]
      · intro d member
        exact blankAfter d (List.mem_reverse.mp member)
      · rw [List.head?_reverse]
        exact last

theorem trim_eq_iff : trim text = core ↔ Encloses text core := by
  constructor
  · rintro rfl
    exact encloses_trim text
  · exact trim_eq_of_encloses

end ChunkyPlanar.Blank

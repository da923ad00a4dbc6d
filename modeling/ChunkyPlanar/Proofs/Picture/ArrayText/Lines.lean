import Mathlib
import ChunkyPlanar.Picture.ArrayText
import ChunkyPlanar.Picture.ArrayText.Reader
import ChunkyPlanar.Proofs.Text.Hexadecimal

/-! Lines of array text. Items fill their lines in order, and a data line reads back as
the values that its literals were written for. -/

namespace ChunkyPlanar.ArrayText

section InLines

variable {perLine : Nat}

theorem inLines_cons (item : α) (rest : List α) :
    inLines perLine (item :: rest) =
      (item :: rest.take (perLine - 1)) :: inLines perLine (rest.drop (perLine - 1)) := by
  rw [inLines]

theorem flatten_inLines (items : List α) : (inLines perLine items).flatten = items := by
  fun_induction inLines perLine items with
  | case1 => rfl
  | case2 item rest ih =>
      rw [List.flatten_cons, ih, List.cons_append, List.take_append_drop]

theorem inLines_map (f : α → β) (items : List α) :
    inLines perLine (items.map f) = (inLines perLine items).map (List.map f) := by
  fun_induction inLines perLine items with
  | case1 => simp [inLines]
  | case2 item rest ih =>
      rw [List.map_cons, inLines_cons, List.map_cons, ← ih, List.map_cons, List.map_take,
        List.map_drop]

theorem ne_nil_of_mem_inLines {items line : List α}
    (member : line ∈ inLines perLine items) : line ≠ [] := by
  fun_induction inLines perLine items with
  | case1 => cases member
  | case2 item rest ih =>
      rcases List.mem_cons.mp member with rfl | later
      · exact List.cons_ne_nil item _
      · exact ih later

/-- Another line starts only where the one before it is full. -/
theorem length_of_mem_dropLast_inLines (positive : 0 < perLine) {items line : List α}
    (member : line ∈ (inLines perLine items).dropLast) : line.length = perLine := by
  fun_induction inLines perLine items with
  | case1 => cases member
  | case2 item rest ih =>
      cases others : inLines perLine (rest.drop (perLine - 1)) with
      | nil =>
          rw [others] at member
          cases member
      | cons next later =>
          rw [others, List.dropLast_cons_cons] at member
          rcases List.mem_cons.mp member with rfl | further
          · have longer : rest.drop (perLine - 1) ≠ [] := by
              intro none
              rw [none, inLines] at others
              cases others
            have enough := List.length_pos_iff.mpr longer
            rw [List.length_drop] at enough
            rw [List.length_cons, List.length_take]
            omega
          · rw [others] at ih
            exact ih further

theorem length_le_of_mem_inLines (positive : 0 < perLine) {items line : List α}
    (member : line ∈ inLines perLine items) : line.length ≤ perLine := by
  fun_induction inLines perLine items with
  | case1 => cases member
  | case2 item rest ih =>
      rcases List.mem_cons.mp member with rfl | later
      · rw [List.length_cons, List.length_take]
        omega
      · exact ih later

end InLines

/-! Splitting where each part ends. -/

theorem splitOn_flatMap_append {separator : Char} {parts : List (List Char)}
    (clean : ∀ part ∈ parts, separator ∉ part) :
    (parts.flatMap (· ++ [separator])).splitOn separator = parts ++ [[]] := by
  induction parts with
  | nil => rfl
  | cons part parts ih =>
      have rest := ih fun other member => clean other (List.mem_cons_of_mem part member)
      rw [List.flatMap_cons, List.append_assoc, List.singleton_append,
        List.splitOn_append_cons_self_of_not_mem (clean part List.mem_cons_self), rest,
        List.cons_append]

theorem intercalate_append_comma (first : List Char) (rest : List (List Char)) :
    [',', ' '].intercalate (first :: rest) ++ [','] =
      (first :: rest.map (' ' :: ·)).flatMap (· ++ [',']) := by
  induction rest generalizing first with
  | nil => simp
  | cons next rest ih =>
      have tail := ih next
      simp only [List.flatMap_cons, List.map_cons] at tail ⊢
      rw [List.intercalate_cons_cons, List.append_assoc, tail]
      simp

theorem mapM_map_eq_some {f : α → Option β} {g : γ → α} {h : γ → β} {items : List γ}
    (agree : ∀ item ∈ items, f (g item) = some (h item)) :
    (items.map g).mapM f = some (items.map h) := by
  induction items with
  | nil => rfl
  | cons item items ih =>
      have rest := ih fun other member => agree other (List.mem_cons_of_mem item member)
      rw [List.map_cons, List.mapM_cons, agree item List.mem_cons_self, rest]
      rfl

/-! Literals. -/

theorem literal?_wordLiteral (word : UInt16) :
    literal? (wordLiteral word).toList = some word.toNat := by
  have small := word.toNat_lt
  rw [wordLiteral, String.toList_ofList]
  refine Hexadecimal.number?_digits ?_ ?_
  · split <;> decide
  · split
    · assumption
    · exact small

theorem literal?_byteLiteral (byte : UInt8) :
    literal? (byteLiteral byte).toList = some byte.toNat := by
  rw [byteLiteral, String.toList_ofList]
  exact Hexadecimal.number?_digits (by decide) byte.toNat_lt

/-- No literal holds a character that ends literals or lines. -/
theorem not_mem_of_literal? {text : List Char} {value : Nat} {c : Char}
    (read : literal? text = some value) (other : Hexadecimal.isDigit c = false)
    (mark : c ≠ 'x') : c ∉ text := by
  intro member
  unfold literal? at read
  split at read
  · next digits =>
      rcases List.mem_cons.mp member with rfl | member
      · cases other
      rcases List.mem_cons.mp member with rfl | member
      · exact mark rfl
      · rw [Hexadecimal.isDigit_of_number?_eq_some read member] at other
        cases other
  · cases read

theorem dropWhile_of_literal? {text : List Char} {value : Nat}
    (read : literal? text = some value) : text.dropWhile (· = ' ') = text := by
  unfold literal? at read
  split at read
  · rfl
  · cases read

/-! Data lines. -/

theorem toList_dataLine (first : String) (rest : List String) :
    (dataLine (first :: rest)).toList =
      ((' ' :: ' ' :: ' ' :: ' ' :: first.toList) ::
        rest.map (' ' :: ·.toList)).flatMap (· ++ [',']) := by
  have joined := intercalate_append_comma first.toList (rest.map String.toList)
  rw [List.flatMap_cons, List.map_map] at joined
  have parts : (dataLine (first :: rest)).toList = [' ', ' ', ' ', ' '] ++
      ([',', ' '].intercalate (first.toList :: rest.map String.toList) ++ [',']) := by
    simp [dataLine]
  rw [parts, joined]
  rfl

section DataLine

variable {literal : α → String} {value : α → Nat}
  (reads : ∀ item, literal? (literal item).toList = some (value item))

include reads

theorem literals?_dataLine {row : List α} (filled : row ≠ []) :
    literals? (dataLine (row.map literal)).toList = some (row.map value) := by
  obtain ⟨item, rest, rfl⟩ := List.exists_cons_of_ne_nil filled
  have clean (item : α) : ',' ∉ (literal item).toList :=
    not_mem_of_literal? (reads item) (by decide) (by decide)
  have bare (item : α) : (literal item).toList.dropWhile (· = ' ') =
      (literal item).toList := dropWhile_of_literal? (reads item)
  have pieces : ((dataLine ((item :: rest).map literal)).toList.splitOn ',').map
      (·.dropWhile (· = ' ')) =
      (item :: rest).map (fun item => (literal item).toList) ++ [[]] := by
    rw [List.map_cons, toList_dataLine, splitOn_flatMap_append]
    · simp [bare]
    · simp [clean]
  unfold literals?
  rw [pieces, List.reverse_append]
  simp only [List.reverse_singleton, List.singleton_append, List.reverse_reverse]
  exact mapM_map_eq_some fun item _ => reads item

theorem newline_not_mem_dataLine {row : List α} (filled : row ≠ []) :
    '\n' ∉ (dataLine (row.map literal)).toList := by
  obtain ⟨item, rest, rfl⟩ := List.exists_cons_of_ne_nil filled
  have clean (item : α) : '\n' ∉ (literal item).toList :=
    not_mem_of_literal? (reads item) (by decide) (by decide)
  rw [List.map_cons, toList_dataLine]
  simp [clean]

end DataLine

theorem isIndented_dataLine (literals : List String) :
    isIndented (dataLine literals).toList = true := by
  simp [isIndented, dataLine]

end ChunkyPlanar.ArrayText

import Mathlib
import ChunkyPlanar.Proofs.Picture.ArrayText.Lines
import ChunkyPlanar.Proofs.Text.Decimal

/-! Arrays of array text: a reader that knows no more than the punctuation finds an
array again, with its declaration, its count and its values line by line. -/

namespace ChunkyPlanar

namespace ArrayText

/-! Lines that open and close arrays. -/

theorem newline_not_mem_toDigits (count : Nat) : '\n' ∉ Nat.toDigits 10 count := by
  intro member
  have digit := Nat.isDigit_of_mem_toDigits (by decide) (by decide) member
  revert digit
  decide

def openingLine (declaration : List Char) (count : Nat) : Line :=
  declaration ++ '[' :: (Nat.toDigits 10 count ++ [']', ' ', '=', ' ', '\x7b'])

theorem opening?_openingLine (declaration : List Char) (count : Nat) :
    opening? (openingLine declaration count) = some (declaration, count) := by
  have digits : ∀ c ∈ (Nat.toDigits 10 count).reverse, c.isDigit = true := by
    intro c member
    exact Nat.isDigit_of_mem_toDigits (by decide) (by decide) (List.mem_reverse.mp member)
  have line : (openingLine declaration count).reverse =
      '\x7b' :: ' ' :: '=' :: ' ' :: ']' ::
        ((Nat.toDigits 10 count).reverse ++ '[' :: declaration.reverse) := by
    simp [openingLine]
  unfold opening?
  rw [line]
  simp only
  rw [List.dropWhile_append_of_pos digits, List.takeWhile_append_of_pos digits]
  simp [Decimal.digits?_toDigits]

theorem opening?_append_of_ne {front : Line} {last : Char} (other : last ≠ '\x7b') :
    opening? (front ++ [last]) = none := by
  simp [opening?, other]

theorem opening?_dataLine (literals : List String) :
    opening? (dataLine literals).toList = none := by
  have line : (dataLine literals).toList =
      ("    " ++ ", ".intercalate literals).toList ++ [','] := by
    simp [dataLine]
  rw [line]
  exact opening?_append_of_ne (by decide)

theorem passages_cons_of_unopened {line : Line} {rest : List Line}
    (unopened : opening? line = none) : passages (line :: rest) = passages rest := by
  rw [passages, unopened]

theorem passages_append_of_unopened {front rest : List Line}
    (unopened : ∀ line ∈ front, opening? line = none) :
    passages (front ++ rest) = passages rest := by
  induction front with
  | nil => rfl
  | cons line front ih =>
      rw [List.cons_append, passages_cons_of_unopened (unopened line List.mem_cons_self)]
      exact ih fun other member => unopened other (List.mem_cons_of_mem line member)

theorem passages_cons_of_opening {line : Line} {rest : List Line}
    {declaration : List Char} {declared : Nat}
    (opens : opening? line = some (declaration, declared)) :
    passages (line :: rest) =
      ⟨declaration, declared, rest.takeWhile (!isClosing ·)⟩ :: passages rest := by
  rw [passages, opens]

/-! One array. -/

/-- An array where it stands in the text. -/
def Passage.ofArray (elementType name : String) (perLine : Nat)
    (literals : List String) : Passage where
  declaration := (elementType ++ " " ++ name).toList
  declared := literals.length
  body := (inLines perLine literals).map fun row => (dataLine row).toList

section OneArray

variable {elementType name : String} {perLine : Nat}

theorem toList_arrayLines (literals : List String) :
    (arrayLines elementType name perLine literals).map String.toList =
      openingLine (elementType ++ " " ++ name).toList literals.length ::
        ((Passage.ofArray elementType name perLine literals).body ++
          [['\x7d', ';'], []]) := by
  simp [arrayLines, openingLine, Passage.ofArray, toString]

theorem unopened_of_mem_body {literals : List String} {line : Line}
    (member : line ∈ (Passage.ofArray elementType name perLine literals).body) :
    opening? line = none := by
  obtain ⟨row, _, rfl⟩ := List.mem_map.mp member
  exact opening?_dataLine row

theorem unclosed_of_mem_body {literals : List String} {line : Line}
    (member : line ∈ (Passage.ofArray elementType name perLine literals).body) :
    (!isClosing line) = true := by
  obtain ⟨row, _, rfl⟩ := List.mem_map.mp member
  simp [isClosing, dataLine]

theorem passages_arrayLines (literals : List String) (rest : List Line) :
    passages ((arrayLines elementType name perLine literals).map String.toList ++ rest) =
      Passage.ofArray elementType name perLine literals :: passages rest := by
  have unopened : ∀ line ∈ (Passage.ofArray elementType name perLine literals).body ++
      [['\x7d', ';'], []], opening? line = none := by
    intro line member
    rcases List.mem_append.mp member with data | close
    · exact unopened_of_mem_body data
    · rcases List.mem_pair.mp close with rfl | rfl
      · rfl
      · rfl
  have body : (((Passage.ofArray elementType name perLine literals).body ++
      [['\x7d', ';'], []]) ++ rest).takeWhile (!isClosing ·) =
      (Passage.ofArray elementType name perLine literals).body := by
    rw [List.append_assoc, List.takeWhile_append_of_pos fun _ => unclosed_of_mem_body,
      List.cons_append, List.takeWhile_cons_of_neg (by decide), List.append_nil]
  rw [toList_arrayLines, List.cons_append,
    passages_cons_of_opening (opening?_openingLine _ literals.length), body,
    passages_append_of_unopened unopened]
  rfl

theorem filter_isIndented_arrayLines (literals : List String)
    (unindented : ∀ line, isIndented (elementType.toList ++ line) = false) :
    ((arrayLines elementType name perLine literals).map String.toList).filter isIndented =
      (Passage.ofArray elementType name perLine literals).body := by
  have body : (Passage.ofArray elementType name perLine literals).body.filter isIndented =
      (Passage.ofArray elementType name perLine literals).body := by
    refine List.filter_eq_self.mpr fun line member => ?_
    obtain ⟨row, _, rfl⟩ := List.mem_map.mp member
    exact isIndented_dataLine row
  rw [toList_arrayLines, List.filter_cons_of_neg, List.filter_append, body]
  · exact List.append_nil _
  · simp [openingLine, unindented]

end OneArray

section Reading

variable {elementType name : String} {perLine : Nat} {literal : α → String}
  {value : α → Nat} (reads : ∀ item, literal? (literal item).toList = some (value item))

include reads

theorem newline_not_mem_arrayLines (items : List α) (typed : '\n' ∉ elementType.toList)
    (named : '\n' ∉ name.toList) :
    ∀ line ∈ (arrayLines elementType name perLine (items.map literal)).map String.toList,
      '\n' ∉ line := by
  rw [toList_arrayLines, Passage.ofArray, inLines_map]
  intro line member
  rcases List.mem_cons.mp member with rfl | member
  · simp [openingLine, typed, named, newline_not_mem_toDigits]
  rcases List.mem_append.mp member with data | close
  · simp only [List.map_map, List.mem_map, Function.comp_apply] at data
    obtain ⟨row, inside, rfl⟩ := data
    exact newline_not_mem_dataLine reads (ne_nil_of_mem_inLines inside)
  · rcases List.mem_pair.mp close with rfl | rfl
    · decide
    · decide

/-- The values of an array, in as many to a line as there are literals. -/
def Listing.ofArray (elementType name : String) (perLine : Nat)
    (values : List Nat) : Listing where
  declaration := (elementType ++ " " ++ name).toList
  declared := values.length
  rows := inLines perLine values

theorem ofPassage?_ofArray (items : List α) :
    Listing.ofPassage? (.ofArray elementType name perLine (items.map literal)) =
      some (.ofArray elementType name perLine (items.map value)) := by
  have rows : ((inLines perLine (items.map literal)).map fun row =>
      (dataLine row).toList).mapM literals? = some (inLines perLine (items.map value)) := by
    rw [inLines_map, inLines_map, List.map_map]
    refine mapM_map_eq_some fun row member => ?_
    exact literals?_dataLine reads (ne_nil_of_mem_inLines member)
  unfold Listing.ofPassage? Passage.ofArray Listing.ofArray
  rw [rows, Option.map_some, List.length_map, List.length_map]

end Reading

/-- A listing shows these values under the name made of a name and a suffix, and its
lines are full but for the last one, which is not empty. -/
structure Listing.Lists (listing : Listing) (elementType name suffix : String)
    (perLine : Nat) (values : List Nat) : Prop where
  declaration : listing.declaration =
    (elementType ++ " " ++ (if name = "" then "" else name ++ "_") ++ suffix).toList
  declared : listing.declared = listing.values.length
  values : listing.values = values
  full : ∀ row ∈ listing.rows.dropLast, row.length = perLine
  filled : ∀ row ∈ listing.rows, row ≠ [] ∧ row.length ≤ perLine

theorem qualifiedName_eq (name suffix : String) :
    qualifiedName name suffix = (if name = "" then "" else name ++ "_") ++ suffix := by
  unfold qualifiedName
  by_cases empty : name = ""
  · simp [empty]
  · simp [empty, toString, String.append_assoc]

theorem lists_ofArray (elementType name suffix : String) {perLine : Nat}
    (positive : 0 < perLine) (values : List Nat) :
    (Listing.ofArray elementType (qualifiedName name suffix) perLine values).Lists
      elementType name suffix perLine values where
  declaration := by
    rw [Listing.ofArray, qualifiedName_eq]
    simp only [String.append_assoc]
  declared := by
    simp only [Listing.ofArray, Listing.values, flatten_inLines]
  values := flatten_inLines values
  full := fun _ => length_of_mem_dropLast_inLines positive
  filled := fun _ member =>
    ⟨ne_nil_of_mem_inLines member, length_le_of_mem_inLines positive member⟩

end ArrayText

end ChunkyPlanar

import Mathlib
import ChunkyPlanar.Journal
import ChunkyPlanar.Proofs.Text.Blank
import ChunkyPlanar.Proofs.Text.Decimal
import ChunkyPlanar.Size.Reader

/-! The language of size texts. A text is split at its first separator, and each side
names one extent or is refused, the left one first. -/

namespace ChunkyPlanar.Size

/-- A decimal numeral of 32 bits between blanks; one plus sign may stand in front. -/
def Extent (text : List Char) (extent : UInt32) : Prop :=
  ∃ core digits, Blank.Encloses text core ∧ (core = digits ∨ core = '+' :: digits) ∧
    Decimal.Numeral digits extent.toNat

/-- What stands before and after the first separator. -/
structure Splits (text : String) (left right : List Char) : Prop where
  split : ∃ separator, (separator = 'x' ∨ separator = 'X') ∧
    text.toList = left ++ separator :: right
  lower : 'x' ∉ left
  upper : 'X' ∉ left

/-- What comes of a size text. -/
inductive Reads (text : String) : Except String Size → Prop
  | unsplit (lower : 'x' ∉ text.toList) (upper : 'X' ∉ text.toList) :
      Reads text (.error s!"Invalid size '{text}': expected WIDTHxHEIGHT")
  | width {left right : List Char} (splits : Splits text left right)
      (bad : ∀ width, ¬ Extent left width) :
      Reads text (.error s!"Invalid width in '{text}'")
  | height {left right : List Char} {width : UInt32} (splits : Splits text left right)
      (good : Extent left width) (bad : ∀ height, ¬ Extent right height) :
      Reads text (.error s!"Invalid height in '{text}'")
  | size {left right : List Char} {size : Size} (splits : Splits text left right)
      (width : Extent left size.width) (height : Extent right size.height) :
      Reads text (.ok size)

theorem extent?_eq_some_iff {text : List Char} {extent : UInt32} :
    extent? text = some extent ↔ Extent text extent := by
  unfold extent? Extent
  rw [Option.map_eq_some_iff]
  constructor
  · rintro ⟨number, read, rfl⟩
    obtain ⟨unsigned, most⟩ := Decimal.upTo?_eq_some_iff.mp read
    obtain ⟨digits, signed, numeral⟩ := Decimal.unsigned?_eq_some_iff.mp unsigned
    have small : number < UInt32.size := Nat.lt_of_le_pred (by decide) most
    have same : number.toUInt32.toNat = number := UInt32.toNat_ofNat_of_lt' small
    refine ⟨_, digits, Blank.encloses_trim text, signed, ?_⟩
    rwa [same]
  · rintro ⟨core, digits, encloses, signed, numeral⟩
    refine ⟨extent.toNat, Decimal.upTo?_eq_some_iff.mpr ⟨?_, ?_⟩, ?_⟩
    · rw [Blank.trim_eq_iff.mpr encloses]
      exact Decimal.unsigned?_eq_some_iff.mpr ⟨digits, signed, numeral⟩
    · exact Nat.le_pred_of_lt extent.toNat_lt
    · exact UInt32.ofNat_toNat

theorem extent?_eq_none_iff {text : List Char} :
    extent? text = none ↔ ∀ extent, ¬ Extent text extent := by
  simp only [← extent?_eq_some_iff, Option.eq_none_iff_forall_ne_some, ne_eq]

section Splitting

variable {text : String} {left right : List Char}

theorem isSeparator_iff {c : Char} : isSeparator c = true ↔ c = 'x' ∨ c = 'X' := by
  simp [isSeparator]

theorem not_isSeparator_of_mem {chars : List Char} (lower : 'x' ∉ chars)
    (upper : 'X' ∉ chars) : ∀ c ∈ chars, (!isSeparator c) = true := by
  intro c member
  have other : ¬ (c = 'x' ∨ c = 'X') := by
    rintro (rfl | rfl)
    · exact lower member
    · exact upper member
  simpa [← isSeparator_iff] using other

theorem parse_of_unsplit (lower : 'x' ∉ text.toList) (upper : 'X' ∉ text.toList) :
    parse text = .error .missingSeparator := by
  have unsplit : text.toList.dropWhile (fun c => !isSeparator c) = [] :=
    List.dropWhile_eq_nil_iff.mpr (not_isSeparator_of_mem lower upper)
  unfold parse
  simp only [unsplit]

theorem parse_of_splits (splits : Splits text left right) :
    parse text = (extent? left).elim (.error .invalidWidth) fun width =>
      (extent? right).elim (.error .invalidHeight) fun height => .ok ⟨width, height⟩ := by
  obtain ⟨⟨separator, mark, split⟩, lower, upper⟩ := splits
  have plain := not_isSeparator_of_mem lower upper
  have stop := isSeparator_iff.mpr mark
  have before : text.toList.takeWhile (fun c => !isSeparator c) = left := by
    rw [split, List.takeWhile_append_of_pos plain, List.takeWhile_cons_of_neg (by simp [stop]),
      List.append_nil]
  have after : text.toList.dropWhile (fun c => !isSeparator c) = separator :: right := by
    rw [split, List.dropWhile_append_of_pos plain,
      List.dropWhile_cons_of_neg (by simp [stop])]
  unfold parse
  simp only [before, after]
  cases extent? left with
  | none => rfl
  | some width =>
      cases extent? right with
      | none => rfl
      | some height => rfl

theorem exists_splits (marked : ¬ ('x' ∉ text.toList ∧ 'X' ∉ text.toList)) :
    ∃ left right, Splits text left right := by
  let left := text.toList.takeWhile (fun c => !isSeparator c)
  have plain : ∀ c ∈ left, ¬ (c = 'x' ∨ c = 'X') := by
    intro c member
    have passed := List.mem_takeWhile_imp member
    simpa [← isSeparator_iff] using passed
  have whole : left ++ text.toList.dropWhile (fun c => !isSeparator c) = text.toList :=
    List.takeWhile_append_dropWhile
  cases rest : text.toList.dropWhile (fun c => !isSeparator c) with
  | nil =>
      rw [rest, List.append_nil] at whole
      rw [← whole] at marked
      exact absurd ⟨fun x => plain _ x (.inl rfl), fun x => plain _ x (.inr rfl)⟩ marked
  | cons separator right =>
      have stopped := List.head?_dropWhile_not (fun c => !isSeparator c) text.toList
      rw [rest] at stopped whole
      refine ⟨left, right, ⟨separator, ?_, whole.symm⟩, fun x => plain _ x (.inl rfl),
        fun x => plain _ x (.inr rfl)⟩
      simpa [← isSeparator_iff] using stopped

theorem reads_parse (text : String) :
    Reads text ((parse text).mapError (·.message text)) := by
  by_cases unmarked : 'x' ∉ text.toList ∧ 'X' ∉ text.toList
  · rw [parse_of_unsplit unmarked.1 unmarked.2]
    exact .unsplit unmarked.1 unmarked.2
  obtain ⟨left, right, splits⟩ := exists_splits unmarked
  rw [parse_of_splits splits]
  cases first : extent? left with
  | none => exact .width splits (extent?_eq_none_iff.mp first)
  | some width =>
      have good := extent?_eq_some_iff.mp first
      cases second : extent? right with
      | none => exact .height splits good (extent?_eq_none_iff.mp second)
      | some height => exact .size splits good (extent?_eq_some_iff.mp second)

theorem mapError_parse_of_reads {outcome : Except String Size} (reads : Reads text outcome) :
    (parse text).mapError (·.message text) = outcome := by
  cases reads with
  | unsplit lower upper =>
      rw [parse_of_unsplit lower upper]
      rfl
  | width splits bad =>
      rw [parse_of_splits splits, extent?_eq_none_iff.mpr bad]
      rfl
  | height splits good bad =>
      rw [parse_of_splits splits, extent?_eq_some_iff.mpr good,
        extent?_eq_none_iff.mpr bad]
      rfl
  | size splits width height =>
      rw [parse_of_splits splits, extent?_eq_some_iff.mpr width,
        extent?_eq_some_iff.mpr height]
      rfl

end Splitting

/-! A size that is written in decimal reads back. -/

theorem extent_toDigits (extent : UInt32) : Extent (Nat.toDigits 10 extent.toNat) extent := by
  have numeral := Decimal.numeral_toDigits extent.toNat
  refine ⟨_, _, .refl_of_dark fun c member => ?_, .inl rfl, numeral⟩
  exact Blank.isBlank_eq_false_of_isDigit (numeral.isDigit c member)

theorem splits_text (size : Size) :
    Splits size.text (Nat.toDigits 10 size.width.toNat)
      (Nat.toDigits 10 size.height.toNat) := by
  have digits := (Decimal.numeral_toDigits size.width.toNat).isDigit
  refine ⟨⟨'x', .inl rfl, ?_⟩, fun x => ?_, fun x => ?_⟩
  · have width : (toString size.width).toList = Nat.toDigits 10 size.width.toNat :=
      String.toList_ofList
    have height : (toString size.height).toList = Nat.toDigits 10 size.height.toNat :=
      String.toList_ofList
    have mark : (toString "x").toList = ['x'] := rfl
    simp only [text, String.toList_append, width, height, mark, List.append_assoc,
      List.singleton_append]
  · cases digits 'x' x
  · cases digits 'X' x

theorem parse_eq_ok_iff {text : String} {size : Size} :
    parse text = .ok size ↔ ∃ left right, Splits text left right ∧
      Extent left size.width ∧ Extent right size.height := by
  constructor
  · intro read
    have reads := reads_parse text
    rw [read] at reads
    cases reads with
    | size splits width height => exact ⟨_, _, splits, width, height⟩
  · rintro ⟨left, right, splits, width, height⟩
    exact Logged.mapError_eq_ok_iff.mp
      (mapError_parse_of_reads (.size splits width height))

/-- The size texts are exactly those of the grammar, each of the others is refused for the
first thing that is wrong with it, and every size is among those that are read. -/
theorem parse_exact :
    (∀ text size, parse text = .ok size ↔ ∃ left right, Splits text left right ∧
      Extent left size.width ∧ Extent right size.height) ∧
    (∀ text outcome, (parse text).mapError (·.message text) = outcome ↔
      Reads text outcome) ∧
    ∀ size : Size, parse size.text = .ok size := by
  refine ⟨fun _ _ => parse_eq_ok_iff, fun text outcome => ⟨?_, mapError_parse_of_reads⟩,
    fun size => ?_⟩
  · rintro rfl
    exact reads_parse text
  · exact parse_eq_ok_iff.mpr ⟨_, _, splits_text size, extent_toDigits size.width,
      extent_toDigits size.height⟩

/-- Only the first separator splits. -/
example : parse " +08X8x8" = .error .invalidHeight := by decide +kernel

end ChunkyPlanar.Size

import Mathlib
import ChunkyPlanar.Proofs.Picture.ArrayText.Arrays

/-! Array text as a whole: the arrays found in it are the palette and the planes, and no
other line passes for data. Names may hold anything but line feeds. -/

namespace ChunkyPlanar

namespace ArrayText

def palettePassage (palette : HardwarePalette) (name : String) : Passage :=
  .ofArray "unsigned short" (qualifiedName name "palette") wordsPerLine
    (palette.words.toList.map wordLiteral)

def planePassage (name : String) (plane : Plane) : Passage :=
  .ofArray "unsigned char" (qualifiedName name s!"plane{plane.number}") bytesPerLine
    (plane.bytes.toList.map byteLiteral)

def paletteListing (palette : HardwarePalette) (name : String) : Listing :=
  .ofArray "unsigned short" (qualifiedName name "palette") wordsPerLine
    (palette.words.toList.map UInt16.toNat)

def planeListing (name : String) (plane : Plane) : Listing :=
  .ofArray "unsigned char" (qualifiedName name s!"plane{plane.number}") bytesPerLine
    (plane.bytes.toList.map UInt8.toNat)

section Planes

variable (name : String) (planes : List Plane)

theorem passages_planeLines :
    passages ((planes.flatMap fun plane => planeLines plane name).map String.toList ++
      [[]]) = planes.map (planePassage name) := by
  induction planes with
  | nil => rfl
  | cons plane planes ih =>
      rw [List.flatMap_cons, List.map_append, List.append_assoc, planeLines,
        passages_arrayLines, ih]
      rfl

theorem filter_isIndented_planeLines :
    ((planes.flatMap fun plane => planeLines plane name).map String.toList).filter
      isIndented = (planes.map (planePassage name)).flatMap (·.body) := by
  induction planes with
  | nil => rfl
  | cons plane planes ih =>
      rw [List.flatMap_cons, List.map_append, List.filter_append, planeLines,
        filter_isIndented_arrayLines, ih]
      · rfl
      · intro line
        simp [isIndented, List.isPrefixOf]

end Planes

section Text

variable (picture : PlanarPicture) (name : String)

theorem toList_lines :
    (lines picture name).map String.toList =
      (s!"// --- {title name} palette: {picture.palette.size} colors, 0x0BGR ---").toList ::
        ((arrayLines "unsigned short" (qualifiedName name "palette") wordsPerLine
          (picture.palette.words.toList.map wordLiteral)).map String.toList ++
        (s!"// --- {title name} bitplanes: {picture.depth} x " ++
          s!"{picture.bytesPerPlane} bytes ---").toList ::
        (picture.planes.flatMap fun plane => planeLines plane name).map String.toList) := by
  simp [lines, paletteLines, toString]

theorem newline_not_mem_qualifiedName {suffix : String}
    (single : '\n' ∉ name.toList) (clean : '\n' ∉ suffix.toList) :
    '\n' ∉ (qualifiedName name suffix).toList := by
  rw [qualifiedName_eq]
  split
  · simpa using clean
  · simp [single, clean]

theorem newline_not_mem_title (single : '\n' ∉ name.toList) :
    '\n' ∉ (title name).toList := by
  unfold title
  split
  · decide
  · exact single

theorem newline_not_mem_lines (single : '\n' ∉ name.toList) :
    ∀ line ∈ (lines picture name).map String.toList, '\n' ∉ line := by
  have titled := newline_not_mem_title name single
  rw [toList_lines]
  intro line member
  rcases List.mem_cons.mp member with rfl | member
  · simp [titled, newline_not_mem_toDigits, toString]
  rcases List.mem_append.mp member with palette | member
  · refine newline_not_mem_arrayLines literal?_wordLiteral _ (by decide) ?_ line palette
    exact newline_not_mem_qualifiedName name single (by decide)
  rcases List.mem_cons.mp member with rfl | member
  · simp [titled, newline_not_mem_toDigits, toString]
  · rw [List.map_flatMap] at member
    obtain ⟨plane, _, inside⟩ := List.mem_flatMap.mp member
    refine newline_not_mem_arrayLines literal?_byteLiteral _ (by decide) ?_ line inside
    refine newline_not_mem_qualifiedName name single ?_
    simp [newline_not_mem_toDigits, toString]

theorem readLines_toArrayText (single : '\n' ∉ name.toList) :
    readLines (picture.toArrayText name) = (lines picture name).map String.toList ++ [[]] := by
  have text : (picture.toArrayText name).toList =
      ((lines picture name).map String.toList).flatMap (· ++ ['\n']) := by
    simp [PlanarPicture.toArrayText, List.flatMap_map]
  rw [readLines, text, splitOn_flatMap_append (newline_not_mem_lines picture name single)]

theorem passages_readLines (single : '\n' ∉ name.toList) :
    passages (readLines (picture.toArrayText name)) =
      palettePassage picture.palette name :: picture.planes.map (planePassage name) := by
  rw [readLines_toArrayText picture name single, toList_lines, List.cons_append,
    passages_cons_of_unopened, List.append_assoc, passages_arrayLines, List.cons_append,
    passages_cons_of_unopened, passages_planeLines]
  · rfl
  · simp [opening?, toString]
  · simp [opening?, toString]

theorem filter_isIndented_readLines (single : '\n' ∉ name.toList) :
    (readLines (picture.toArrayText name)).filter isIndented =
      dataLines (picture.toArrayText name) := by
  rw [dataLines, passages_readLines picture name single,
    readLines_toArrayText picture name single, toList_lines, List.filter_append,
    List.filter_cons_of_neg, List.filter_append, filter_isIndented_arrayLines,
    List.filter_cons_of_neg, filter_isIndented_planeLines]
  · exact List.append_nil _
  · simp [isIndented, List.isPrefixOf, toString]
  · intro line
    simp [isIndented, List.isPrefixOf]
  · simp [isIndented, List.isPrefixOf, toString]

theorem listings?_eq_some (single : '\n' ∉ name.toList) :
    listings? (picture.toArrayText name) =
      some (paletteListing picture.palette name ::
        picture.planes.map (planeListing name)) := by
  have palette : Listing.ofPassage? (palettePassage picture.palette name) =
      some (paletteListing picture.palette name) :=
    ofPassage?_ofArray literal?_wordLiteral _
  have planes : (picture.planes.map (planePassage name)).mapM Listing.ofPassage? =
      some (picture.planes.map (planeListing name)) :=
    mapM_map_eq_some fun _ _ => ofPassage?_ofArray literal?_byteLiteral _
  rw [listings?, passages_readLines picture name single, List.mapM_cons, palette, planes]
  rfl

theorem values_planeListing (plane : Plane) :
    (planeListing name plane).values = plane.bytes.toList.map UInt8.toNat :=
  flatten_inLines _

theorem flatMap_values_planeListing :
    (picture.planes.map (planeListing name)).flatMap Listing.values =
      picture.toBlob.toList.map UInt8.toNat := by
  rw [PlanarPicture.toBlob, Blob.ofPlanes, Bytes.toList_join, List.map_flatMap,
    List.flatMap_map, List.flatMap_map]
  simp only [values_planeListing]

end Text

theorem listings?_toArrayText (picture : PlanarPicture) (name : String)
    (single : '\n' ∉ name.toList) :
    (readLines (picture.toArrayText name)).filter isIndented =
        dataLines (picture.toArrayText name) ∧
      ∃ palette planes,
        listings? (picture.toArrayText name) = some (palette :: planes) ∧
        palette.Lists "unsigned short" name "palette" 8
          (picture.palette.words.toList.map UInt16.toNat) ∧
        List.Forall₂ (fun plane (listing : Listing) =>
          listing.Lists "unsigned char" name ("plane" ++ toString plane.number) 16
            (plane.bytes.toList.map UInt8.toNat)) picture.planes planes ∧
        planes.flatMap Listing.values = picture.toBlob.toList.map UInt8.toNat := by
  refine ⟨filter_isIndented_readLines picture name single, _, _,
    listings?_eq_some picture name single, ?_, ?_, flatMap_values_planeListing picture name⟩
  · exact lists_ofArray "unsigned short" name "palette" (by decide) _
  · refine List.forall₂_map_right_iff.mpr (List.forall₂_same.mpr fun plane _ => ?_)
    exact lists_ofArray "unsigned char" name ("plane" ++ toString plane.number)
      (by decide) _

theorem listings?_toArrayText_wrapped :
    let name := "    a[1] = "
    let picture : PlanarPicture :=
      ⟨⟨8, 1⟩, ⟨#[0xFFF, 0x1234, 0, 0, 0, 0, 0, 0, 0xF]⟩,
        [⟨5, Array.replicate 17 0xA5⟩, ⟨5, #[]⟩]⟩
    '\n' ∉ name.toList ∧
      (readLines (picture.toArrayText name)).filter isIndented =
        dataLines (picture.toArrayText name) ∧
      ∃ palette planes,
        listings? (picture.toArrayText name) = some (palette :: planes) ∧
        palette.Lists "unsigned short" name "palette" 8
          [0xFFF, 0x1234, 0, 0, 0, 0, 0, 0, 0xF] ∧
        List.Forall₂ (fun plane (listing : Listing) =>
          listing.Lists "unsigned char" name ("plane" ++ toString plane.number) 16
            (plane.bytes.toList.map UInt8.toNat)) picture.planes planes ∧
        planes.flatMap Listing.values = List.replicate 17 0xA5 := by
  intro name picture
  have single : '\n' ∉ name.toList := by decide
  exact ⟨single, listings?_toArrayText picture name single⟩

end ArrayText

end ChunkyPlanar

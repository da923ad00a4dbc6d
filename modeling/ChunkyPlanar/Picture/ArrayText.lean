import ChunkyPlanar.Picture
import ChunkyPlanar.Text.Hexadecimal

/-! Array text: the palette and each plane as array literals for firmware
sources. The literals are data lines of four leading blanks; every other line
names or closes an array. -/

namespace ChunkyPlanar

namespace ArrayText

def wordsPerLine : Nat := 8

def bytesPerLine : Nat := 16

/-- Words take three digits, and a fourth only when they need it. -/
def wordLiteral (word : UInt16) : String :=
  let count := if word.toNat < 0x1000 then 3 else 4
  String.ofList ('0' :: 'x' :: Hexadecimal.digits count word.toNat)

def byteLiteral (byte : UInt8) : String :=
  String.ofList ('0' :: 'x' :: Hexadecimal.digits 2 byte.toNat)

/-- Full lines first; the last one may be shorter, and none is empty. -/
def inLines (perLine : Nat) : List α → List (List α)
  | [] => []
  | item :: rest =>
      (item :: rest.take (perLine - 1)) :: inLines perLine (rest.drop (perLine - 1))
  termination_by items => items.length
  decreasing_by simp only [List.length_cons, List.length_drop]; omega

def dataLine (literals : List String) : String :=
  "    " ++ ", ".intercalate literals ++ ","

def arrayLines (elementType name : String) (perLine : Nat)
    (literals : List String) : List String :=
  s!"{elementType} {name}[{literals.length}] = \x7b" ::
    (inLines perLine literals).map dataLine ++ ["\x7d;", ""]

/-- An empty name is no prefix. -/
def qualifiedName (name suffix : String) : String :=
  if name.isEmpty then suffix else s!"{name}_{suffix}"

def title (name : String) : String :=
  if name.isEmpty then "image" else name

def paletteLines (palette : HardwarePalette) (name : String) : List String :=
  s!"// --- {title name} palette: {palette.size} colors, 0x0BGR ---" ::
    arrayLines "unsigned short" (qualifiedName name "palette") wordsPerLine
      (palette.words.toList.map wordLiteral)

def planeLines (plane : Plane) (name : String) : List String :=
  arrayLines "unsigned char" (qualifiedName name s!"plane{plane.number}") bytesPerLine
    (plane.bytes.toList.map byteLiteral)

def lines (picture : PlanarPicture) (name : String) : List String :=
  paletteLines picture.palette name ++
    s!"// --- {title name} bitplanes: {picture.depth} x {picture.bytesPerPlane} bytes ---" ::
    picture.planes.flatMap fun plane => planeLines plane name

end ArrayText

def PlanarPicture.toArrayText (picture : PlanarPicture) (name : String) : String :=
  String.join ((ArrayText.lines picture name).map (· ++ "\n"))

end ChunkyPlanar

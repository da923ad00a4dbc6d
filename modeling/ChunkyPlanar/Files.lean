import ChunkyPlanar.Text.Utf8

/-! File paths as bytes, and the names that they end in. Paths need not be texts; they are
shown as the nearest one. -/

namespace ChunkyPlanar

abbrev FileName := List UInt8

structure FilePath where
  bytes : List UInt8
  deriving DecidableEq, Repr

def FileName.ofText (text : String) : FileName := text.toUTF8.data.toList

namespace FilePath

def ofText (text : String) : FilePath := ⟨FileName.ofText text⟩

def text (path : FilePath) : String := Utf8.shown path.bytes

def slash : UInt8 := 0x2F

def dot : UInt8 := 0x2E

/-- The segment that names the folder above. -/
def above : FileName := [dot, dot]

def segments (path : FilePath) : List FileName := path.bytes.splitOn slash

def isInPlace (segment : FileName) : Bool := segment = [] || segment = [dot]

/-- The segments without the slashes and dots at the end, which do not change what
a path names. -/
def namedSegments (path : FilePath) : List FileName :=
  (path.segments.reverse.dropWhile isInPlace).reverse

def fileName? (path : FilePath) : Option FileName := do
  let name ← path.namedSegments.getLast?
  guard (name ≠ above)
  return name

/-- What stands before the last dot of a name, and what stands after it. A name
with its only dot in front has no extension. -/
def splitName (name : FileName) : FileName × Option FileName :=
  let extension := name.reverse.takeWhile (· ≠ dot)
  match name.reverse.drop extension.length with
  | _ :: last :: stem => ((last :: stem).reverse, some extension.reverse)
  | _ => (name, none)

def extension? (path : FilePath) : Option FileName := do
  (splitName (← path.fileName?)).2

def dropEnd (path : FilePath) (count : Nat) : FilePath :=
  ⟨path.bytes.take (path.bytes.length - count)⟩

/-- Replaces the extension, or adds one. The new one needs a name before it once
the old one is gone: what is left of a name such as `..a` is the folder above. -/
def withExtension (path : FilePath) (extension : FileName) : FilePath :=
  let bare := path.dropEnd ((path.extension?.getD []).length)
  match bare.fileName? with
  | none => bare
  | some name =>
      let named := (splitName name).1 ++ [dot] ++ extension
      ⟨List.intercalate [slash] (bare.namedSegments.dropLast ++ [named])⟩

end FilePath

end ChunkyPlanar

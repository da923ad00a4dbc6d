import ChunkyPlanar.Bytes
import ChunkyPlanar.Files

/-! Trees of folders and files below one root folder, with one working folder.
Writing puts a whole file in place, or changes nothing. -/

namespace ChunkyPlanar

inductive FileError where
  | notFound
  | isFolder
  | notFolder
  | nameTooLong
  | nulCharacter
  | invalidText
  | other (text : String)
  deriving DecidableEq, Repr

def FileError.message : FileError → String
  | .notFound => "No such file or directory (os error 2)"
  | .isFolder => "Is a directory (os error 21)"
  | .notFolder => "Not a directory (os error 20)"
  | .nameTooLong => "File name too long (os error 36)"
  | .nulCharacter => "file name contained an unexpected NUL byte"
  | .invalidText => "stream did not contain valid UTF-8"
  | .other text => text

/-- The names from the root down; the empty one is the root. -/
abbrev Location := List FileName

/-- Paths start from the working folder, and those with a slash in front from the
root. -/
structure FileTree where
  folders : List Location := []
  files : List (Location × Bytes) := []
  working : Location := []
  deriving DecidableEq, Repr

namespace FileTree

def empty : FileTree := { }

def longestName : Nat := 255

def longestPath : Nat := 4095

def content? (tree : FileTree) (location : Location) : Option Bytes :=
  tree.files.lookup location

def isFolder (tree : FileTree) (location : Location) : Bool :=
  location.isEmpty || tree.folders.contains location

/-- Steps from a folder into the folder that a segment of a path names. The root is
the folder above itself. -/
def enter (tree : FileTree) (location : Location) (segment : FileName) :
    Except FileError Location :=
  if FilePath.isInPlace segment then
    .ok location
  else if segment = FilePath.above then
    .ok location.dropLast
  else if longestName < segment.length then
    .error .nameTooLong
  else if tree.isFolder (location ++ [segment]) then
    .ok (location ++ [segment])
  else if (tree.content? (location ++ [segment])).isSome then
    .error .notFolder
  else
    .error .notFound

def checkPath (path : FilePath) : Except FileError Unit :=
  if path.bytes.contains 0 then .error .nulCharacter
  else if path.bytes.isEmpty then .error .notFound
  else if longestPath < path.bytes.length then .error .nameTooLong
  else .ok ()

def start (tree : FileTree) (path : FilePath) : Location :=
  if path.bytes.head? = some FilePath.slash then [] else tree.working

def read (tree : FileTree) (path : FilePath) : Except FileError Bytes := do
  checkPath path
  let name := (path.segments.getLast?).getD []
  let folder ← path.segments.dropLast.foldlM tree.enter (tree.start path)
  if FilePath.isInPlace name ∨ name = FilePath.above then
    .error .isFolder
  else if longestName < name.length then
    .error .nameTooLong
  else if tree.isFolder (folder ++ [name]) then
    .error .isFolder
  else match tree.content? (folder ++ [name]) with
    | some content => .ok content
    | none => .error .notFound

def put (tree : FileTree) (location : Location) (content : Bytes) : FileTree :=
  if (tree.content? location).isSome then
    { tree with
      files := tree.files.map fun file =>
        if file.1 = location then (location, content) else file }
  else
    { tree with files := tree.files ++ [(location, content)] }

/-- Where writing to a path puts a file; a path with a slash at its end names no
place for one. -/
def place (tree : FileTree) (path : FilePath) : Except FileError Location := do
  checkPath path
  let atEnd := (path.segments.reverse.takeWhile (·.isEmpty)).length
  let segments := path.segments.take (path.segments.length - atEnd)
  let name := (segments.getLast?).getD []
  let folder ← segments.dropLast.foldlM tree.enter (tree.start path)
  if 0 < atEnd ∨ FilePath.isInPlace name ∨ name = FilePath.above then
    .error .isFolder
  else if longestName < name.length then
    .error .nameTooLong
  else if tree.isFolder (folder ++ [name]) then
    .error .isFolder
  else
    .ok (folder ++ [name])

def write (tree : FileTree) (path : FilePath) (content : Bytes) :
    Except FileError FileTree := do
  return tree.put (← tree.place path) content

/-- Adds a file together with the folders above it. -/
def install (tree : FileTree) (location : Location) (content : Bytes) : FileTree :=
  let above := (List.range location.length).tail.map location.take
  { tree.put location content with
    folders := tree.folders ++ above.filter (!tree.folders.contains ·) }

/-- The files below the working folder, each with its way down from there. -/
def workingFiles (tree : FileTree) : List (Location × Bytes) :=
  tree.files.filterMap fun file =>
    (tree.working.isPrefixOf? file.1).map (·, file.2)

end FileTree

end ChunkyPlanar

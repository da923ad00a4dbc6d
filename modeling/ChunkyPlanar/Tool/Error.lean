import ChunkyPlanar.Files.Tree
import ChunkyPlanar.Picture

/-! Why a command fails, with the causes from the outermost to the innermost. -/

namespace ChunkyPlanar

/-- What is said of a failure in the reading or the saving of an image, or in the reading
of settings. -/
structure Reason where
  message : String
  causes : List String := []
  deriving DecidableEq, Repr

inductive ToolError where
  | file (error : FileError)
  | image (reason : Reason)
  | settings (reason : Reason)
  | indexing (error : ChunkyError)
  | encoding (error : EncodingError)
  | planes (error : PlaneError)
  | palette (error : PaletteError)
  | unfilledPreview (size : Size)
  deriving DecidableEq, Repr

namespace ToolError

def message : ToolError → String
  | .file _ => "IO error"
  | .image _ => "Image processing error"
  | .settings _ => "Invalid config file"
  | .indexing _ => "Could not reduce image to a palette"
  | .encoding _ => "Encoding failed"
  | .planes _ => "Invalid bitplane data"
  | .palette _ => "Invalid palette"
  | .unfilledPreview size => s!"Decoded pixels do not fill a {size.text} image"

def causes : ToolError → List String
  | .file error => [error.message]
  | .image reason => reason.message :: reason.causes
  | .settings reason => reason.message :: reason.causes
  | .indexing error => error.message :: error.causes
  | .encoding error => error.message :: error.causes
  | .planes error => error.message :: error.causes
  | .palette error => [error.message]
  | .unfilledPreview _ => []

def report (error : ToolError) : List Entry :=
  ⟨.error, error.message⟩ ::
    error.causes.map fun cause => ⟨.error, s!"  caused by: {cause}"⟩

end ToolError

end ChunkyPlanar

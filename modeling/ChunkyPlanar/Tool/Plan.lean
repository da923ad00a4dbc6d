import ChunkyPlanar.Settings
import ChunkyPlanar.Tool.Deed
import ChunkyPlanar.Tool.Preview

/-! Plans: the deeds that a command comes to, given what its files hold. Nothing is
done before the whole plan is known. -/

namespace ChunkyPlanar

/-- What reading a path gives. -/
abbrev Contents := FilePath → Except FileError Bytes

/-- How settings are read from a document, and an image from what reading its file gives. -/
structure Readers where
  settings : String → Except Reason SettingsFile
  image : FilePath → Except FileError Bytes → Except Reason Pixmap

namespace CommandLine

namespace EncodeArguments

/-- Without a path for it the settings are the defaults. -/
def settingsFile (arguments : EncodeArguments) (readers : Readers)
    (contents : Contents) : Except ToolError SettingsFile :=
  match arguments.config? with
  | none => .ok { }
  | some path => do
      let content ← (contents path).mapError .file
      match String.fromUTF8? ⟨content⟩ with
      | none => .error (.file .invalidText)
      | some document => (readers.settings document).mapError .settings

def source (arguments : EncodeArguments) (readers : Readers)
    (contents : Contents) : Except ToolError Pixmap :=
  (readers.image arguments.input (contents arguments.input)).mapError .image

/-- Without a path for it a text is printed, and a blob goes beside the input. -/
def delivery (arguments : EncodeArguments) (artifact : Artifact) : Deed :=
  match arguments.output?, artifact with
  | some path, artifact => .write path artifact.toBytes
  | none, .text content => .print content
  | none, .blob content => .write (arguments.input.withExtension (.ofText "bpl")) content

def plan (arguments : EncodeArguments) (readers : Readers)
    (contents : Contents) : Logged ToolError (List Deed) := do
  let file ← Logged.silent (arguments.settingsFile readers contents)
  let settings := file.withOptions arguments.toEncodeOptions
  let source ← Logged.silent (arguments.source readers contents)
  Logged.info s!"Loaded {arguments.input.text} ({source.text})"
  let chunky ← (ChunkyPicture.ofPixels source.pixels source.toSize
    settings.profile.slots).mapError .indexing
  let picture ← (PlanarPicture.ofChunky chunky settings.profile).mapError .encoding
  let artifact := picture.toArtifact settings.mode settings.profile.name
  let paletteDeed? := settings.paletteOut?.map fun path =>
    Deed.write path picture.palette.toBytes
  return arguments.delivery artifact :: paletteDeed?.toList

end EncodeArguments

namespace PreviewArguments

def pixmap (arguments : PreviewArguments) (pixels : Bytes) :
    Except ToolError Pixmap :=
  match Pixmap.ofBytes? arguments.size pixels with
  | none => .error (.unfilledPreview arguments.size)
  | some pixmap => .ok pixmap

def plan (arguments : PreviewArguments) (contents : Contents) :
    Logged ToolError (List Deed) := do
  let blob ← Logged.silent ((contents arguments.blob).mapError .file)
  let paletteFile ← Logged.silent ((contents arguments.palette).mapError .file)
  let pixels ←
    Preview.pixels blob paletteFile arguments.size arguments.planes
  let pixmap ← Logged.silent (arguments.pixmap pixels)
  return [.save arguments.output pixmap]

end PreviewArguments

namespace Command

/-- The files that the plan of a command hangs on. -/
def inputs : Command → List FilePath
  | .encode arguments => arguments.config?.toList ++ [arguments.input]
  | .preview arguments => [arguments.blob, arguments.palette]

def plan (readers : Readers) (contents : Contents) :
    Command → Logged ToolError (List Deed)
  | .encode arguments => arguments.plan readers contents
  | .preview arguments => arguments.plan contents

end Command

end CommandLine

end ChunkyPlanar

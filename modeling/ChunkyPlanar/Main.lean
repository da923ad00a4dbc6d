import ChunkyPlanar.CommandLine.Reader
import ChunkyPlanar.Pixmap.Portable
import ChunkyPlanar.Settings.Reader
import ChunkyPlanar.Tool

/-! The tool on the files of the machine. The journal goes to the standard error
stream, and images are portable pixmaps. -/

namespace ChunkyPlanar.Host

def fileError : IO.Error → FileError
  | .noFileOrDirectory .. => .notFound
  | .alreadyExists _ code text | .permissionDenied _ code text
  | .resourceExhausted _ code text | .inappropriateType _ code text
  | .invalidArgument _ code text | .noSuchThing _ code text
  | .interrupted _ code text | .otherError code text | .resourceBusy code text
  | .resourceVanished code text | .unsupportedOperation code text
  | .hardwareFault code text | .unsatisfiedConstraints code text
  | .illegalOperation code text | .protocolError code text
  | .timeExpired code text => .other s!"{text} (os error {code})"
  | .unexpectedEof => .other "unexpected end of file"
  | .userError text => .other text

def attempt (action : IO α) : IO (Except FileError α) := do
  return (← action.toBaseIO).mapError fileError

def readFile (path : FilePath) : IO (Except FileError Bytes) :=
  attempt do return (← IO.FS.readBinFile path.text).data

def writeFile (path : FilePath) (content : Bytes) : IO (Except FileError Unit) :=
  attempt (IO.FS.writeBinFile path.text ⟨content⟩)

def readers : Readers where
  settings := SettingsFile.parse
  image := Pixmap.Portable.codec.read

def performer : Performer IO where
  print text := attempt (IO.print text)
  write := writeFile
  save := Pixmap.Portable.codec.save writeFile

def levelName : Level → String
  | .info => "INFO"
  | .error => "ERROR"

def run (arguments : List String) : IO Tool.Conclusion := do
  let files ← (Tool.inputs CommandLine.parse arguments).mapM fun path =>
    return (path, ← readFile path)
  let contents path := (files.lookup path).getD (.error .notFound)
  Tool.run CommandLine.parse readers contents performer arguments

/-- Wrong arguments are answered with the usage. -/
def report (conclusion : Tool.Conclusion) : IO Unit := do
  for entry in conclusion.journal do
    IO.eprintln s!"[{levelName entry.level}] {entry.text}"
  if conclusion.status = .misuse then
    IO.eprint CommandLine.usageText

end ChunkyPlanar.Host

def main (arguments : List String) : IO UInt32 := do
  let conclusion ← ChunkyPlanar.Host.run arguments
  ChunkyPlanar.Host.report conclusion
  return conclusion.status.code.toUInt32

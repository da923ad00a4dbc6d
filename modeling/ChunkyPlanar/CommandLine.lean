import ChunkyPlanar.Files
import ChunkyPlanar.Picture.Artifact
import ChunkyPlanar.Size.Reader

/-! The tool's command line: what it can ask for. -/

namespace ChunkyPlanar.CommandLine

/-- Why no command is run: the answer is a text of the tool about itself, or the
arguments are refused. -/
inductive Dismissal where
  | answer (text : String)
  | refusal
  deriving DecidableEq, Repr

structure EncodeOptions where
  output? : Option FilePath := none
  mode? : Option Mode := none
  paletteOut? : Option FilePath := none
  planes? : Option Nat := none
  slots? : Option Nat := none
  size? : Option Size := none
  name? : Option String := none
  config? : Option FilePath := none
  deriving DecidableEq, Repr

structure EncodeArguments extends EncodeOptions where
  input : FilePath
  deriving DecidableEq, Repr

structure PreviewArguments where
  blob : FilePath
  palette : FilePath
  size : Size
  planes : Nat
  output : FilePath
  deriving DecidableEq, Repr

inductive Command where
  | encode (arguments : EncodeArguments)
  | preview (arguments : PreviewArguments)
  deriving DecidableEq, Repr

structure Invocation where
  verbose : Bool
  command : Command
  deriving DecidableEq, Repr

end ChunkyPlanar.CommandLine

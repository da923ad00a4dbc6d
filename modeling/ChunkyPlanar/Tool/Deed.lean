import ChunkyPlanar.Pixmap
import ChunkyPlanar.Tool.Error

/-! Deeds: what a command does after it has read its files. The first deed that
fails ends a command, and the deeds before it stay done. -/

namespace ChunkyPlanar

inductive Deed where
  | print (text : String)
  | write (path : FilePath) (content : Bytes)
  | save (path : FilePath) (pixmap : Pixmap)
  deriving DecidableEq, Repr

/-- How deeds are done. -/
structure Performer (m : Type → Type) where
  print : String → m (Except FileError Unit)
  write : FilePath → Bytes → m (Except FileError Unit)
  save : FilePath → Pixmap → m (Except Reason Unit)

namespace Deed

/-- What the journal says of a deed that is done. -/
def report : Deed → List Entry
  | .print _ => []
  | .write path content =>
      [⟨.info, s!"Wrote {path.text} ({content.size} bytes)"⟩]
  | .save path _ => [⟨.info, s!"Wrote preview {path.text}"⟩]

variable {m : Type → Type} [Monad m]

def perform (performer : Performer m) : Deed → m (Except ToolError Unit)
  | .print text => do return (← performer.print text).mapError .file
  | .write path content => do return (← performer.write path content).mapError .file
  | .save path pixmap => do return (← performer.save path pixmap).mapError .image

def performAll (performer : Performer m) : List Deed → m (Logged ToolError Unit)
  | [] => return .succeed ()
  | deed :: rest => do
      match ← deed.perform performer with
      | .error error => return .silent (.error error)
      | .ok () =>
          let result ← performAll performer rest
          return { result with journal := deed.report ++ result.journal }

end Deed

end ChunkyPlanar

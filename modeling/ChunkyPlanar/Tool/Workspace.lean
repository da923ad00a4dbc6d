import ChunkyPlanar.Tool

/-! Workspaces: a tree of files and what was printed, on which the tool runs without
a machine around it. -/

namespace ChunkyPlanar

/-- A way to write files. -/
abbrev Writer := FilePath → Bytes → StateM FileTree (Except FileError Unit)

/-- A way to save images. -/
abbrev Saver := FilePath → Pixmap → StateM FileTree (Except Reason Unit)

def FileTree.writer : Writer := fun path content tree =>
  match tree.write path content with
  | .ok after => (.ok (), after)
  | .error error => (.error error, tree)

structure Workspace where
  tree : FileTree
  printed : String := ""
  deriving DecidableEq, Repr

namespace Workspace

def onTree (action : StateM FileTree α) : StateM Workspace α := fun workspace =>
  let (result, tree) := action workspace.tree
  (result, { workspace with tree })

/-- Printing always succeeds. -/
def performer (writer : Writer) (saver : Saver) : Performer (StateM Workspace) where
  print text := fun workspace =>
    (.ok (), { workspace with printed := workspace.printed ++ text })
  write path content := onTree (writer path content)
  save path pixmap := onTree (saver path pixmap)

def carryOut (readers : Readers) (saver : Saver) (command : CommandLine.Command) :
    StateM Workspace (Logged ToolError Unit) := fun workspace =>
  Tool.carryOut readers workspace.tree.read (performer FileTree.writer saver) command
    workspace

def run (parse : List ω → Except CommandLine.Dismissal CommandLine.Invocation)
    (readers : Readers) (saver : Saver) (line : List ω) :
    StateM Workspace Tool.Conclusion := fun workspace =>
  Tool.run parse readers workspace.tree.read (performer FileTree.writer saver) line
    workspace

end Workspace

end ChunkyPlanar

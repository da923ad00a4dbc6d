import Mathlib
import ChunkyPlanar.Proofs.Tool.Workspace

/-! Files written one after another, and what the journal says of them. A file is told of
once its write has succeeded, and the first that fails ends the telling. -/

namespace ChunkyPlanar

/-- Every write succeeds, each in the tree that those before it have left. -/
inductive Writer.Writes (writer : Writer) :
    FileTree → List (FilePath × Bytes) → FileTree → Prop
  | nil {tree : FileTree} : Writes writer tree [] tree
  | cons {path : FilePath} {content : Bytes} {before middle after : FileTree}
      {files : List (FilePath × Bytes)}
      (written : writer path content before = (.ok (), middle))
      (rest : Writes writer middle files after) :
      Writes writer before ((path, content) :: files) after

namespace Deed

/-- The deeds print, or they write these files. -/
inductive Deliver : List Deed → List (FilePath × Bytes) → Prop
  | nil : Deliver [] []
  | print {text : String} {deeds : List Deed} {files : List (FilePath × Bytes)}
      (rest : Deliver deeds files) : Deliver (.print text :: deeds) files
  | write {path : FilePath} {content : Bytes} {deeds : List Deed}
      {files : List (FilePath × Bytes)} (rest : Deliver deeds files) :
      Deliver (.write path content :: deeds) ((path, content) :: files)

def wrote (file : FilePath × Bytes) : String :=
  s!"Wrote {file.1.text} ({file.2.size} bytes)"

/-- How the writing of files ends, and what it tells. -/
inductive Written (writer : Writer) (before : FileTree)
    (files : List (FilePath × Bytes)) : Logged ToolError Unit → Prop
  | complete {after : FileTree} (writes : writer.Writes before files after) :
      Written writer before files ⟨(files.map wrote).map (⟨.info, ·⟩), .ok ()⟩
  | stopped {written rest : List (FilePath × Bytes)} {path : FilePath} {content : Bytes}
      {middle : FileTree} {error : FileError}
      (listed : files = written ++ (path, content) :: rest)
      (writes : writer.Writes before written middle)
      (refused : (writer path content middle).1 = .error error) :
      Written writer before files
        ⟨(written.map wrote).map (⟨.info, ·⟩), .error (.file error)⟩

theorem Written.cons {writer : Writer} {path : FilePath} {content : Bytes}
    {before middle : FileTree} {files : List (FilePath × Bytes)}
    {result : Logged ToolError Unit}
    (written : writer path content before = (.ok (), middle))
    (rest : Written writer middle files result) :
    Written writer before ((path, content) :: files)
      { result with journal := ⟨.info, wrote (path, content)⟩ :: result.journal } := by
  cases rest with
  | complete writes => exact .complete (.cons written writes)
  | stopped listed writes refused =>
      rw [listed]
      exact .stopped rfl (.cons written writes) refused

theorem Deliver.written {deeds : List Deed} {files : List (FilePath × Bytes)}
    (deliver : Deliver deeds files) (writer : Writer) (saver : Saver)
    (before : Workspace) :
    Written writer before.tree files
      (performAll (Workspace.performer writer saver) deeds before).1 := by
  induction deliver generalizing before with
  | nil => exact .complete .nil
  | @print text _ _ _ ih =>
      rw [Workspace.performAll_of_ok (Workspace.perform_print writer saver text)]
      exact ih { before with printed := before.printed ++ text }
  | @write path content _ _ _ ih =>
      cases ended : writer path content before.tree with
      | mk ending tree =>
          have performed := Workspace.perform_write writer saver ended
          cases ending with
          | error error =>
              rw [Workspace.performAll_of_error performed]
              have refused : (writer path content before.tree).1 = .error error := by
                rw [ended]
              exact .stopped rfl .nil refused
          | ok _ =>
              rw [Workspace.performAll_of_ok performed]
              exact (ih { before with tree }).cons ended

theorem Deliver.mem {deeds : List Deed} {files : List (FilePath × Bytes)}
    (deliver : Deliver deeds files) {deed : Deed} (member : deed ∈ deeds) :
    (∃ text, deed = .print text) ∨ ∃ path content, deed = .write path content := by
  induction deliver with
  | nil => cases member
  | @print text _ _ _ ih =>
      cases member with
      | head => exact .inl ⟨text, rfl⟩
      | tail _ member => exact ih member
  | @write path content _ _ _ ih =>
      cases member with
      | head => exact .inr ⟨path, content, rfl⟩
      | tail _ member => exact ih member

theorem exists_file_of_mapError {ending : Except FileError Unit} {error : ToolError}
    (failed : ending.mapError .file = .error error) : ∃ cause, error = .file cause := by
  cases ending with
  | error cause =>
      cases failed
      exact ⟨cause, rfl⟩
  | ok _ => cases failed

/-- Printing and writing fail for a file alone, however they are done. -/
theorem Deliver.exists_file_of_error {deeds : List Deed}
    {files : List (FilePath × Bytes)} (deliver : Deliver deeds files)
    {performer : Performer (StateM Workspace)} {before : Workspace} {error : ToolError}
    (failed : (performAll performer deeds before).1.outcome = .error error) :
    ∃ cause, error = .file cause := by
  obtain ⟨deed, member, middle, refused⟩ := Workspace.exists_deed_of_performAll failed
  rcases deliver.mem member with ⟨text, rfl⟩ | ⟨path, content, rfl⟩
  · exact exists_file_of_mapError refused
  · exact exists_file_of_mapError refused

end Deed

end ChunkyPlanar

import Mathlib
import ChunkyPlanar.Proofs.Files.Tree
import ChunkyPlanar.Tool.Workspace

/-! Carrying out a command in a workspace whose files are written in any reliable way:
deed after deed, up to the first that fails. -/

namespace ChunkyPlanar

/-- Writing stores the whole content in one file, or fails and changes nothing. -/
structure Writer.Reliable (writer : Writer) : Prop where
  stores : ∀ path content before after, writer path content before = (.ok (), after) →
    ∃ location, before.Stores path content after location
  keeps : ∀ path content before error after,
    writer path content before = (.error error, after) → after = before

theorem FileTree.reliable_writer : Writer.Reliable writer where
  stores := by
    intro path content before after written
    unfold writer at written
    cases result : before.write path content with
    | ok tree =>
        rw [result] at written
        cases written
        exact exists_stores_of_write result
    | error error =>
        rw [result] at written
        cases written
  keeps := by
    intro path content before error after refused
    unfold writer at refused
    cases result : before.write path content with
    | ok tree =>
        rw [result] at refused
        cases refused
    | error error =>
        rw [result] at refused
        cases refused
        rfl

namespace Workspace

section Performing

variable (writer : Writer) (saver : Saver) {path : FilePath} {content : Bytes}
  {pixmap : Pixmap} {before : Workspace} {tree : FileTree}

theorem perform_print (text : String) :
    (Deed.print text).perform (performer writer saver) before =
      (.ok (), { before with printed := before.printed ++ text }) := rfl

theorem perform_write {ending : Except FileError Unit}
    (written : writer path content before.tree = (ending, tree)) :
    (Deed.write path content).perform (performer writer saver) before =
      (ending.mapError .file, { before with tree }) := by
  simp only [Deed.perform, performer, bind, StateT.bind, onTree, written]
  rfl

theorem perform_save {ending : Except Reason Unit}
    (saved : saver path pixmap before.tree = (ending, tree)) :
    (Deed.save path pixmap).perform (performer writer saver) before =
      (ending.mapError .image, { before with tree }) := by
  simp only [Deed.perform, performer, bind, StateT.bind, onTree, saved]
  rfl

end Performing

section Carrying

variable {performer : Performer (StateM Workspace)} {before middle : Workspace}
  {deed : Deed} {rest : List Deed}

theorem performAll_of_error {error : ToolError}
    (failed : deed.perform performer before = (.error error, middle)) :
    Deed.performAll performer (deed :: rest) before =
      (.silent (.error error), middle) := by
  unfold Deed.performAll
  simp only [bind, StateT.bind, failed]
  rfl

theorem performAll_of_ok (done : deed.perform performer before = (.ok (), middle)) :
    Deed.performAll performer (deed :: rest) before =
      let (result, after) := Deed.performAll performer rest middle
      ({ result with journal := deed.report ++ result.journal }, after) := by
  rw [Deed.performAll]
  simp only [bind, StateT.bind, done]
  rfl

theorem exists_deed_of_performAll {deeds : List Deed} {error : ToolError}
    (failed : (Deed.performAll performer deeds before).1.outcome = .error error) :
    ∃ deed ∈ deeds, ∃ middle, (deed.perform performer middle).1 = .error error := by
  induction deeds generalizing before with
  | nil => cases failed
  | cons deed rest ih =>
      cases performed : deed.perform performer before with
      | mk ending middle =>
          cases ending with
          | error cause =>
              rw [performAll_of_error performed] at failed
              cases failed
              refine ⟨deed, List.mem_cons_self, before, ?_⟩
              rw [performed]
          | ok _ =>
              rw [performAll_of_ok performed] at failed
              obtain ⟨other, member, refused⟩ := ih failed
              exact ⟨other, List.mem_cons_of_mem _ member, refused⟩

variable {readers : Readers} {contents : Contents} {command : CommandLine.Command}

theorem carryOut_of_error {error : ToolError}
    (planned : (command.plan readers contents).outcome = .error error) :
    Tool.carryOut readers contents performer command before =
      (⟨(command.plan readers contents).journal, .error error⟩, before) := by
  unfold Tool.carryOut
  simp only [planned]
  rfl

theorem carryOut_of_ok {deeds : List Deed}
    (planned : (command.plan readers contents).outcome = .ok deeds) :
    Tool.carryOut readers contents performer command before =
      let (result, after) := Deed.performAll performer deeds before
      ({ result with
          journal := (command.plan readers contents).journal ++ result.journal },
        after) := by
  unfold Tool.carryOut
  simp only [planned]
  rfl

theorem run_of_parsed {ω : Type}
    {parse : List ω → Except CommandLine.Dismissal CommandLine.Invocation}
    {line : List ω} {invocation : CommandLine.Invocation}
    (parsed : parse line = .ok invocation) :
    (Tool.run parse readers contents performer line before).1 = .ofResult
      (Tool.carryOut readers contents performer invocation.command before).1 := by
  unfold Tool.run
  rw [parsed]
  rfl

end Carrying

end Workspace

end ChunkyPlanar

import Mathlib
import ChunkyPlanar.CommandLine.Reader
import ChunkyPlanar.Pixmap.Portable
import ChunkyPlanar.Proofs.Tool.Encoding.Stages
import ChunkyPlanar.Proofs.Tool.Errors
import ChunkyPlanar.Settings.Reader

/-! The journal and the exit status of the encoding command. The journal tells of each
stage after it and of each file once it is written. Errors come last, with their causes. -/

namespace ChunkyPlanar

namespace Tool

/-- The error lines of a journal: the error with what it holds, down to the last, behind
what has been said of it before. -/
inductive ErrorLines : Except ToolError Unit → List String → Prop
  | none : ErrorLines (.ok ()) []
  | some {error : ToolError} {reports causes : List String} (few : reports.length ≤ 1)
      (traced : Problem.Traced (.tool error) causes) :
      ErrorLines (.error error) (reports ++ error.message ::
        causes.map fun cause => s!"  caused by: {cause}")

/-- The status and the journal agree with how a command has ended. -/
structure Conclusion.Reports (conclusion : Conclusion) (ended : Except ToolError Unit)
    (texts : List String) : Prop where
  success : conclusion.status.code = 0 ↔ ended = .ok ()
  failure : conclusion.status.code = 1 ↔ ∃ error, ended = .error error
  journal : ∃ lines, ErrorLines ended lines ∧
    conclusion.journal = texts.map (⟨.info, ·⟩) ++ lines.map (⟨.error, ·⟩)

variable (texts : List String)

theorem reports_of_ok :
    (Conclusion.ofResult ⟨texts.map (⟨.info, ·⟩), .ok ()⟩).Reports (.ok ()) texts where
  success := by simp [Conclusion.ofResult, ExitStatus.code]
  failure := by simp [Conclusion.ofResult, ExitStatus.code]
  journal := ⟨[], .none, (List.append_nil _).symm⟩

theorem reports_of_error {reports : List String} (error : ToolError)
    (few : reports.length ≤ 1) :
    (Conclusion.ofResult ⟨texts.map (⟨.info, ·⟩) ++ reports.map (⟨.error, ·⟩),
      .error error⟩).Reports (.error error) texts where
  success := by simp [Conclusion.ofResult, ExitStatus.code]
  failure := by simp [Conclusion.ofResult, ExitStatus.code]
  journal := by
    refine ⟨_, .some few (Problem.traced_tool error), ?_⟩
    simp [Conclusion.ofResult, ToolError.report]

end Tool

namespace CommandLine.EncodeArguments

/-- How an encoding that starts from the one tree ends, and what it has told by then. -/
inductive Recounts (arguments : EncodeArguments) (readers : Readers)
    (contents : Contents) (writer : Writer) (before : FileTree) :
    Except ToolError Unit → List String → Prop
  | unprepared {error : ToolError} {texts : List String}
      (failed : arguments.Prepares readers contents (.error error) texts) :
      Recounts arguments readers contents writer before (.error error) texts
  | unwritten {settings : Settings} {picture : PlanarPicture} {texts : List String}
      {written rest : List (FilePath × Bytes)} {path : FilePath} {content : Bytes}
      {middle : FileTree} {error : FileError}
      (prepared : arguments.Prepares readers contents (.ok (settings, picture)) texts)
      (listed : arguments.files settings picture = written ++ (path, content) :: rest)
      (writes : writer.Writes before written middle)
      (refused : (writer path content middle).1 = .error error) :
      Recounts arguments readers contents writer before (.error (.file error))
        (texts ++ written.map Deed.wrote)
  | complete {settings : Settings} {picture : PlanarPicture} {texts : List String}
      {after : FileTree}
      (prepared : arguments.Prepares readers contents (.ok (settings, picture)) texts)
      (writes : writer.Writes before (arguments.files settings picture) after) :
      Recounts arguments readers contents writer before (.ok ())
        (texts ++ (arguments.files settings picture).map Deed.wrote)

theorem recounts_carryOut (arguments : EncodeArguments) (readers : Readers)
    (contents : Contents) (writer : Writer) (saver : Saver) (before : Workspace) :
    let result := (Tool.carryOut readers contents (Workspace.performer writer saver)
      (.encode arguments) before).1
    ∃ texts, arguments.Recounts readers contents writer before.tree result.outcome texts ∧
      (Tool.Conclusion.ofResult result).Reports result.outcome texts := by
  rcases arguments.carryOut_cases readers contents (Workspace.performer writer saver)
    before with
    ⟨error, texts, reports, few, prepares, ended⟩ | ⟨settings, picture, texts, prepares, ended⟩
  · rw [ended]
    exact ⟨_, .unprepared prepares, Tool.reports_of_error _ _ few⟩
  · have written := (arguments.deliver_deeds settings picture).written writer saver before
    rw [ended]
    generalize Deed.performAll (Workspace.performer writer saver)
      (arguments.deeds settings picture) before = ending at written ⊢
    obtain ⟨result, after⟩ := ending
    cases written with
    | complete writes =>
        refine ⟨_, .complete prepares writes, ?_⟩
        dsimp only
        rw [← List.map_append]
        exact Tool.reports_of_ok _
    | @stopped written _ _ _ _ error listed writes refused =>
        refine ⟨_, .unwritten prepares listed writes refused, ?_⟩
        have silence : ([] : List String).length ≤ 1 := Nat.zero_le _
        have reports := Tool.reports_of_error (texts ++ written.map Deed.wrote)
          (.file error) silence
        rw [List.map_nil, List.append_nil, List.map_append] at reports
        exact reports

/-- However an encoding ends, its journal tells what has been done, and nothing more. -/
theorem recounts_run {ω : Type} {parse : List ω → Except Dismissal Invocation}
    {line : List ω} {verbose : Bool} {arguments : EncodeArguments}
    (parsed : parse line = .ok ⟨verbose, .encode arguments⟩) (readers : Readers)
    (saver : Saver) (before : Workspace) :
    (∀ contents writer,
      let performer := Workspace.performer writer saver
      let ended := (Tool.carryOut readers contents performer (.encode arguments)
        before).1.outcome
      ∃ texts, arguments.Recounts readers contents writer before.tree ended texts ∧
        (Tool.run parse readers contents performer line before).1.Reports ended texts) ∧
    let ended := (Workspace.carryOut readers saver (.encode arguments) before).1.outcome
    ∃ texts, arguments.Recounts readers before.tree.read FileTree.writer before.tree ended
        texts ∧
      (Workspace.run parse readers saver line before).1.Reports ended texts := by
  have every (contents : Contents) (writer : Writer) :
      let performer := Workspace.performer writer saver
      let ended := (Tool.carryOut readers contents performer (.encode arguments)
        before).1.outcome
      ∃ texts, arguments.Recounts readers contents writer before.tree ended texts ∧
        (Tool.run parse readers contents performer line before).1.Reports ended texts := by
    dsimp only
    rw [Workspace.run_of_parsed parsed]
    exact arguments.recounts_carryOut readers contents writer saver before
  exact ⟨every, every before.tree.read FileTree.writer⟩

/-- The folder for the palette file is missing. -/
theorem recounts_run_row :
    let readers : Readers := ⟨SettingsFile.parse, Pixmap.Portable.codec.read⟩
    let saver : Saver := Pixmap.Portable.codec.save FileTree.writer
    let line := ["encode", "art/row.ppm", "--slots", "2", "--palette-out",
      "palettes/row.pal"]
    let arguments : EncodeArguments := {
      input := .ofText "art/row.ppm"
      slots? := some 2
      paletteOut? := some (.ofText "palettes/row.pal") }
    let pixmap : Pixmap := ⟨⟨8, 1⟩, #[0, 0, 0, 255, 0, 0, 0, 0, 0, 0, 0, 0,
      255, 0, 0, 255, 0, 0, 255, 0, 0, 0, 0, 0], rfl⟩
    let location (names : List String) : Location := names.map FileName.ofText
    let before : Workspace := {
      tree := {
        folders := [location ["art"]]
        files := [(location ["art", "row.ppm"], Pixmap.Portable.encode pixmap)] } }
    let conclusion := (Workspace.run parse readers saver line before).1
    parse line = .ok ⟨false, .encode arguments⟩ ∧
      conclusion = ⟨[
        ⟨.info, "Loaded art/row.ppm (8x1)"⟩,
        ⟨.info, "Starting encoding"⟩,
        ⟨.info, "Encoding completed successfully: 2 colors, 1 planes of 1 bytes"⟩,
        ⟨.info, "Wrote art/row.bpl (1 bytes)"⟩,
        ⟨.error, "IO error"⟩,
        ⟨.error, "  caused by: No such file or directory (os error 2)"⟩], .failure⟩ ∧
      ∃ texts, arguments.Recounts readers before.tree.read FileTree.writer before.tree
          (.error (.file .notFound)) texts ∧
        conclusion.Reports (.error (.file .notFound)) texts := by
  intro readers saver line arguments pixmap location before conclusion
  have parsed : parse line = .ok ⟨false, .encode arguments⟩ := by
    decide +kernel +revert
  have failed : (Workspace.carryOut readers saver (.encode arguments) before).1.outcome =
      .error (.file .notFound) := by
    decide +kernel +revert
  have told : conclusion = ⟨[
      ⟨.info, "Loaded art/row.ppm (8x1)"⟩,
      ⟨.info, "Starting encoding"⟩,
      ⟨.info, "Encoding completed successfully: 2 colors, 1 planes of 1 bytes"⟩,
      ⟨.info, "Wrote art/row.bpl (1 bytes)"⟩,
      ⟨.error, "IO error"⟩,
      ⟨.error, "  caused by: No such file or directory (os error 2)"⟩], .failure⟩ := by
    decide +kernel +revert
  have recounts := (recounts_run parsed readers saver before).2
  dsimp only at recounts
  rw [failed] at recounts
  exact ⟨parsed, told, recounts⟩

end CommandLine.EncodeArguments

end ChunkyPlanar

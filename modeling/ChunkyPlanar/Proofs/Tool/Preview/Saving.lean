import Mathlib
import ChunkyPlanar.Pixmap.Portable
import ChunkyPlanar.Proofs.Tool.Preview.Verdict
import ChunkyPlanar.Proofs.Tool.Workspace
import ChunkyPlanar.Settings.Reader

/-! How the previewing command ends: with the fault of its files and nothing written, or
as the saving of the pixmap that they show. -/

namespace ChunkyPlanar

namespace CommandLine.PreviewArguments

/-- A plan without its journal. -/
theorem outcome_plan (arguments : PreviewArguments) (readers : Readers)
    (contents : Contents) :
    ((Command.preview arguments).plan readers contents).outcome = (do
      let blob ← (contents arguments.blob).mapError .file
      let paletteFile ← (contents arguments.palette).mapError .file
      let pixmap ← arguments.shown blob paletteFile
      return [.save arguments.output pixmap]) := by
  change (arguments.plan contents).outcome = _
  unfold plan shown
  simp only [bind_assoc, Logged.bind_eq, Logged.outcome_bind, Logged.outcome_silent]
  rfl

end CommandLine.PreviewArguments

namespace Preview

open CommandLine

section Carried

variable {arguments : PreviewArguments} {readers : Readers} {contents : Contents}
  {writer : Writer} {saver : Saver} {before : Workspace} {blob : Blob}
  {paletteFile : Bytes} (blobRead : contents arguments.blob = .ok blob)
  (paletteRead : contents arguments.palette = .ok paletteFile)

include blobRead paletteRead

theorem outcome_plan_of_read :
    ((Command.preview arguments).plan readers contents).outcome =
      (arguments.shown blob paletteFile).map fun pixmap =>
        [.save arguments.output pixmap] := by
  rw [PreviewArguments.outcome_plan, blobRead, paletteRead]
  rfl

theorem carryOut_of_error {error : ToolError}
    (shown : arguments.shown blob paletteFile = .error error) :
    let ending := Tool.carryOut readers contents (Workspace.performer writer saver)
      (.preview arguments) before
    ending.1.outcome = .error error ∧ ending.2 = before := by
  have failed : ((Command.preview arguments).plan readers contents).outcome =
      .error error := by
    rw [outcome_plan_of_read blobRead paletteRead, shown]
    rfl
  rw [Workspace.carryOut_of_error failed]
  exact ⟨rfl, rfl⟩

theorem carryOut_of_shown {pixmap : Pixmap} {saving : Except Reason Unit}
    {tree : FileTree} (shown : arguments.shown blob paletteFile = .ok pixmap)
    (saved : saver arguments.output pixmap before.tree = (saving, tree)) :
    let ending := Tool.carryOut readers contents (Workspace.performer writer saver)
      (.preview arguments) before
    ending.1.outcome = saving.mapError .image ∧ ending.2 = { before with tree } := by
  have planned : ((Command.preview arguments).plan readers contents).outcome =
      .ok [.save arguments.output pixmap] := by
    rw [outcome_plan_of_read blobRead paletteRead, shown]
    rfl
  have performed := Workspace.perform_save writer saver saved
  rw [Workspace.carryOut_of_ok planned]
  cases saving with
  | error reason =>
      rw [Workspace.performAll_of_error performed]
      exact ⟨rfl, rfl⟩
  | ok _ =>
      rw [Workspace.performAll_of_ok performed]
      exact ⟨rfl, rfl⟩

end Carried

theorem carryOut_ne_unfilledPreview (arguments : PreviewArguments) (readers : Readers)
    (contents : Contents) (writer : Writer) (saver : Saver) (before : Workspace)
    (unfilled : Size) :
    (Tool.carryOut readers contents (Workspace.performer writer saver) (.preview arguments)
      before).1.outcome ≠ .error (.unfilledPreview unfilled) := by
  cases blobRead : contents arguments.blob with
  | error error =>
      have failed : ((Command.preview arguments).plan readers contents).outcome =
          .error (.file error) := by
        rw [PreviewArguments.outcome_plan, blobRead]
        rfl
      rw [Workspace.carryOut_of_error failed]
      simp
  | ok blob =>
      cases paletteRead : contents arguments.palette with
      | error error =>
          have failed : ((Command.preview arguments).plan readers contents).outcome =
              .error (.file error) := by
            rw [PreviewArguments.outcome_plan, blobRead, paletteRead]
            rfl
          rw [Workspace.carryOut_of_error failed]
          simp
      | ok paletteFile =>
          have verdict := arguments.verdict_shown blob paletteFile
          cases shown : arguments.shown blob paletteFile with
          | error error =>
              rw [shown] at verdict
              rw [(carryOut_of_error blobRead paletteRead shown).1]
              simpa using verdict.ne_unfilledPreview unfilled
          | ok pixmap =>
              rw [(carryOut_of_shown blobRead paletteRead shown rfl).1]
              cases (saver arguments.output pixmap before.tree).1 with
              | error reason => simp [Except.mapError]
              | ok _ => simp [Except.mapError]

/-- The bytes of the two files decide everything up to saving, and stacking the planes
and filling the pixmap are not among the stages that can fail. -/
theorem verdict_carryOut :
    (∀ (arguments : PreviewArguments) readers contents (writer : Writer) (saver : Saver)
        before blob paletteFile,
      contents arguments.blob = .ok blob →
      contents arguments.palette = .ok paletteFile →
      let ending := Tool.carryOut readers contents (Workspace.performer writer saver)
        (.preview arguments) before
      ∃ shown, Verdict blob paletteFile arguments.size arguments.planes shown ∧
        (∀ error, shown = .error error →
          ending.1.outcome = .error error ∧ ending.2 = before) ∧
        ∀ pixmap saving tree, shown = .ok pixmap →
          saver arguments.output pixmap before.tree = (saving, tree) →
          ending.1.outcome = saving.mapError .image ∧ ending.2 = { before with tree }) ∧
    (∀ (blob : Blob) size depth planes, (blob.toPlanes size depth).outcome = .ok planes →
      ∃ raster, (Raster.ofPlanes planes size).outcome = .ok raster) ∧
    ∀ arguments readers contents writer saver before unfilled,
      (Tool.carryOut readers contents (Workspace.performer writer saver)
        (.preview arguments) before).1.outcome ≠ .error (.unfilledPreview unfilled) := by
  refine ⟨?_, fun blob size depth planes cut =>
    (Blob.cuts_of_toPlanes cut).exists_outcome_ofPlanes, carryOut_ne_unfilledPreview⟩
  intro arguments readers contents writer saver before blob paletteFile blobRead paletteRead
  exact ⟨arguments.shown blob paletteFile, arguments.verdict_shown blob paletteFile,
    fun error shown => carryOut_of_error blobRead paletteRead shown,
    fun pixmap saving tree shown saved =>
      carryOut_of_shown blobRead paletteRead shown saved⟩

theorem verdict_carryOut_row :
    let readers : Readers := ⟨SettingsFile.parse, Pixmap.Portable.codec.read⟩
    let saver : Saver := Pixmap.Portable.codec.save FileTree.writer
    let arguments : PreviewArguments :=
      ⟨.ofText "row.bpl", .ofText "row.pal", ⟨8, 1⟩, 2, .ofText "row.ppm"⟩
    let blob : Blob := #[0x4E, 0x21]
    let paletteFile : Bytes := #[0x0F, 0x00, 0x00, 0xF0, 0x00, 0x0F]
    let seen : Pixmap := ⟨⟨8, 1⟩, #[0, 0, 255, 0, 255, 0, 255, 0, 0, 0, 0, 255,
      0, 255, 0, 0, 255, 0, 0, 255, 0, 255, 0, 0], rfl⟩
    let before : Workspace := {
      tree := {
        files := [([.ofText "row.bpl"], blob), ([.ofText "row.pal"], paletteFile)] } }
    let ending := Tool.carryOut readers before.tree.read
      (Workspace.performer FileTree.writer saver) (.preview arguments) before
    before.tree.read arguments.blob = .ok blob ∧
      before.tree.read arguments.palette = .ok paletteFile ∧
      ending.1.outcome = .ok () ∧
      ending.2.tree.read arguments.output = .ok (Pixmap.Portable.encode seen) ∧
      (∃ pixmap, Verdict blob paletteFile arguments.size arguments.planes (.ok pixmap) ∧
        saver arguments.output pixmap before.tree = (.ok (), ending.2.tree)) ∧
      (blob.toPlanes ⟨8, 1⟩ 2).outcome = .ok [⟨0, #[0x4E]⟩, ⟨1, #[0x21]⟩] ∧
      ∃ raster, (Raster.ofPlanes [⟨0, #[0x4E]⟩, ⟨1, #[0x21]⟩] ⟨8, 1⟩).outcome =
        .ok raster := by
  intro readers saver arguments blob paletteFile seen before ending
  have blobRead : before.tree.read arguments.blob = .ok blob := by
    decide +kernel +revert
  have paletteRead : before.tree.read arguments.palette = .ok paletteFile := by
    decide +kernel +revert
  have done : ending.1.outcome = .ok () := by
    decide +kernel +revert
  have written : ending.2.tree.read arguments.output = .ok (Pixmap.Portable.encode seen) := by
    decide +kernel +revert
  have cut : (blob.toPlanes ⟨8, 1⟩ 2).outcome = .ok [⟨0, #[0x4E]⟩, ⟨1, #[0x21]⟩] := by
    decide +kernel +revert
  refine ⟨blobRead, paletteRead, done, written, ?_, cut,
    verdict_carryOut.2.1 blob ⟨8, 1⟩ 2 _ cut⟩
  obtain ⟨shown, verdict, refuses, succeeds⟩ := verdict_carryOut.1 arguments readers
    before.tree.read FileTree.writer saver before blob paletteFile blobRead paletteRead
  cases shown with
  | error error =>
      have failed := (refuses error rfl).1
      cases done.symm.trans failed
  | ok pixmap =>
      cases saved : saver arguments.output pixmap before.tree with
      | mk saving tree =>
          obtain ⟨ended, left⟩ := succeeds pixmap saving tree rfl saved
          refine ⟨pixmap, verdict, ?_⟩
          cases saving with
          | error reason => cases done.symm.trans ended
          | ok _ => exact saved.trans (by rw [left])

end Preview

end ChunkyPlanar

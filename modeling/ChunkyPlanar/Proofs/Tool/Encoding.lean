import Mathlib
import ChunkyPlanar.Pixmap.Portable
import ChunkyPlanar.Proofs.Tool.Encoding.Stages
import ChunkyPlanar.Settings.Reader

/-! How the encoding command ends, and what it leaves behind. Before the first file is
written nothing has changed, and an error in the second one leaves the artifact whole. -/

namespace ChunkyPlanar.CommandLine.EncodeArguments

/-- The artifact is complete, in its file or at the end of what was printed, and so is
the palette file, if there is one. Where both paths name one place the palette is there.
No other file has changed. -/
structure Leaves (arguments : EncodeArguments) (settings : Settings)
    (picture : PlanarPicture) (palettePath? : Option FilePath)
    (before after : Workspace) : Prop where
  folders : after.tree.folders = before.tree.folders
  working : after.tree.working = before.tree.working
  artifact : ∀ path ∈ arguments.artifactPath? settings.mode,
    (∀ other ∈ palettePath?, before.tree.place other ≠ before.tree.place path) →
      after.tree.read path = .ok (settings.artifact picture).toBytes
  palette : ∀ path ∈ palettePath?, after.tree.read path = .ok picture.palette.toBytes
  others : ∀ location,
    (∀ path ∈ arguments.artifactPath? settings.mode,
      before.tree.place path ≠ .ok location) →
    (∀ path ∈ palettePath?, before.tree.place path ≠ .ok location) →
      after.tree.content? location = before.tree.content? location
  printed : after.printed =
    if arguments.artifactPath? settings.mode = none then
      before.printed ++ picture.toArrayText settings.profile.name
    else
      before.printed

/-- How an encoding that starts from the one workspace ends, and in which. -/
inductive Ends (arguments : EncodeArguments) (readers : Readers) (contents : Contents)
    (writer : Writer) (before : Workspace) : Except ToolError Unit → Workspace → Prop
  | unprepared {error : ToolError} {texts : List String}
      (failed : arguments.Prepares readers contents (.error error) texts) :
      Ends arguments readers contents writer before (.error error) before
  | withoutArtifact {settings : Settings} {picture : PlanarPicture}
      {texts : List String} {path : FilePath} {error : FileError}
      (prepared : arguments.Prepares readers contents (.ok (settings, picture)) texts)
      (asked : arguments.artifactPath? settings.mode = some path)
      (refused : (writer path (settings.artifact picture).toBytes before.tree).1 =
        .error error) :
      Ends arguments readers contents writer before (.error (.file error)) before
  | withoutPalette {settings : Settings} {picture : PlanarPicture}
      {texts : List String} {path : FilePath} {error : FileError} {after : Workspace}
      (prepared : arguments.Prepares readers contents (.ok (settings, picture)) texts)
      (left : arguments.Leaves settings picture none before after)
      (asked : settings.paletteOut? = some path)
      (refused : (writer path picture.palette.toBytes after.tree).1 = .error error) :
      Ends arguments readers contents writer before (.error (.file error)) after
  | complete {settings : Settings} {picture : PlanarPicture} {texts : List String}
      {after : Workspace}
      (prepared : arguments.Prepares readers contents (.ok (settings, picture)) texts)
      (left : arguments.Leaves settings picture settings.paletteOut? before after) :
      Ends arguments readers contents writer before (.ok ()) after

section Leaving

variable {arguments : EncodeArguments} {settings : Settings} {picture : PlanarPicture}
  {before middle after : Workspace} {location : Location} {path : FilePath}

theorem Leaves.of_print (unasked : arguments.artifactPath? settings.mode = none) :
    arguments.Leaves settings picture none before
      { before with
        printed := before.printed ++ picture.toArrayText settings.profile.name } where
  folders := rfl
  working := rfl
  artifact := by simp [unasked]
  palette := by simp
  others := fun _ _ _ => rfl
  printed := (if_pos unasked).symm

theorem Leaves.of_stores (asked : arguments.artifactPath? settings.mode = some path)
    (stores : before.tree.Stores path (settings.artifact picture).toBytes after.tree
      location)
    (printed : after.printed = before.printed) :
    arguments.Leaves settings picture none before after where
  folders := stores.folders
  working := stores.working
  artifact := by
    intro other named _
    rw [asked, Option.mem_some_iff] at named
    rw [← named]
    exact stores.read
  palette := by simp
  others := by
    intro place apart _
    refine stores.content?_of_ne fun same => apart path asked ?_
    rw [same]
    exact stores.placed
  printed := by simp [asked, printed]

theorem Leaves.place_eq_ok_iff {palettePath? : Option FilePath}
    (left : arguments.Leaves settings picture palettePath? before after) :
    after.tree.place path = .ok location ↔ before.tree.place path = .ok location :=
  FileTree.place_eq_ok_iff_of_folders left.folders left.working

theorem Leaves.add_palette (left : arguments.Leaves settings picture none before middle)
    (stores : middle.tree.Stores path picture.palette.toBytes after.tree location)
    (printed : after.printed = middle.printed) :
    arguments.Leaves settings picture (some path) before after where
  folders := stores.folders.trans left.folders
  working := stores.working.trans left.working
  artifact := by
    intro other named apart
    have held := left.artifact other named (by simp)
    obtain ⟨place, placed, _⟩ := FileTree.read_eq_ok_iff.mp held
    refine stores.read_of_ne held fun same => apart path rfl ?_
    rw [placed, stores.placed] at same
    cases same
    rw [left.place_eq_ok_iff.mp stores.placed, left.place_eq_ok_iff.mp placed]
  palette := by
    intro other named
    rw [Option.mem_some_iff] at named
    rw [← named]
    exact stores.read
  others := by
    intro place apart apartPalette
    have elsewhere : place ≠ location := by
      rintro rfl
      exact apartPalette path rfl (left.place_eq_ok_iff.mp stores.placed)
    rw [stores.content?_of_ne elsewhere]
    exact left.others place apart (by simp)
  printed := printed.trans left.printed

end Leaving

section Ending

variable {arguments : EncodeArguments} {readers : Readers} {contents : Contents}
  {writer : Writer} {settings : Settings} {picture : PlanarPicture} {texts : List String}
  {before middle : Workspace} (saver : Saver) (reliable : writer.Reliable)
  (prepared : arguments.Prepares readers contents (.ok (settings, picture)) texts)

include reliable prepared

theorem Leaves.ends (left : arguments.Leaves settings picture none before middle) :
    let ending := Deed.performAll (Workspace.performer writer saver)
      (settings.paletteOut?.map fun path =>
        Deed.write path picture.palette.toBytes).toList middle
    arguments.Ends readers contents writer before ending.1.outcome ending.2 := by
  cases asked : settings.paletteOut? with
  | none =>
      rw [← asked] at left
      exact .complete prepared left
  | some path =>
      cases written : writer path picture.palette.toBytes middle.tree with
      | mk ending tree =>
          have performed := Workspace.perform_write writer saver written
          cases ending with
          | error error =>
              have kept := reliable.keeps _ _ _ _ _ written
              rw [kept] at performed
              dsimp only [Option.map_some, Option.toList_some]
              rw [Workspace.performAll_of_error performed]
              refine .withoutPalette prepared left asked ?_
              rw [written]
          | ok _ =>
              obtain ⟨location, stores⟩ := reliable.stores _ _ _ _ written
              dsimp only [Option.map_some, Option.toList_some]
              rw [Workspace.performAll_of_ok performed]
              have both : arguments.Leaves settings picture (some path) before
                  { middle with tree } :=
                left.add_palette stores rfl
              rw [← asked] at both
              exact .complete prepared both

theorem ends_deeds :
    let ending := Deed.performAll (Workspace.performer writer saver)
      (arguments.deeds settings picture) before
    arguments.Ends readers contents writer before ending.1.outcome ending.2 := by
  unfold deeds
  cases asked : arguments.artifactPath? settings.mode with
  | none =>
      rw [delivery_eq_print asked, Workspace.performAll_of_ok (Workspace.perform_print _ _ _)]
      exact (Leaves.of_print asked).ends saver reliable prepared
  | some path =>
      rw [delivery_eq_write asked]
      cases written :
          writer path (settings.artifact picture).toBytes before.tree with
      | mk ending tree =>
          have performed := Workspace.perform_write writer saver written
          cases ending with
          | error error =>
              have kept := reliable.keeps _ _ _ _ _ written
              rw [kept] at performed
              rw [Workspace.performAll_of_error performed]
              refine .withoutArtifact prepared asked ?_
              rw [written]
          | ok _ =>
              obtain ⟨location, stores⟩ := reliable.stores _ _ _ _ written
              rw [Workspace.performAll_of_ok performed]
              have left : arguments.Leaves settings picture none before
                  { before with tree } :=
                .of_stores asked stores rfl
              exact left.ends saver reliable prepared

end Ending

/-- Whatever the files hold, however they are written. -/
theorem ends_of_reliable (arguments : EncodeArguments) (readers : Readers)
    (contents : Contents) {writer : Writer} (saver : Saver) (reliable : writer.Reliable)
    (before : Workspace) :
    let ending := Tool.carryOut readers contents (Workspace.performer writer saver)
      (.encode arguments) before
    arguments.Ends readers contents writer before ending.1.outcome ending.2 := by
  rcases arguments.carryOut_cases readers contents (Workspace.performer writer saver)
    before with ⟨error, texts, _, _, prepares, ended⟩ | ⟨_, _, _, prepares, ended⟩
  · rw [ended]
    exact .unprepared prepares
  · rw [ended]
    exact ends_deeds saver reliable prepares

/-- However an encoding ends, it touches no file but those of the artifact and of the
palette, and none of the two is left with a part of its content. -/
theorem ends_carryOut (arguments : EncodeArguments) (readers : Readers) (saver : Saver)
    (before : Workspace) :
    (∀ contents (writer : Writer), writer.Reliable →
      let ending := Tool.carryOut readers contents (Workspace.performer writer saver)
        (.encode arguments) before
      arguments.Ends readers contents writer before ending.1.outcome ending.2) ∧
    let ending := Workspace.carryOut readers saver (.encode arguments) before
    arguments.Ends readers before.tree.read FileTree.writer before ending.1.outcome
      ending.2 := by
  refine ⟨fun contents writer reliable =>
    arguments.ends_of_reliable readers contents saver reliable before, ?_⟩
  exact arguments.ends_of_reliable readers before.tree.read saver FileTree.reliable_writer
    before

/-- The settings file asks for a palette file whose folder is missing. -/
theorem ends_carryOut_row :
    let readers : Readers := ⟨SettingsFile.parse, Pixmap.Portable.codec.read⟩
    let saver : Saver := Pixmap.Portable.codec.save FileTree.writer
    let arguments : EncodeArguments := {
      input := .ofText "art/row.ppm"
      config? := some (.ofText "row.toml") }
    let document := "[codec]\nslots = 2\n[output]\npalette = \"palettes/row.pal\"\n"
    let pixmap : Pixmap := ⟨⟨8, 1⟩, #[0, 0, 0, 255, 0, 0, 0, 0, 0, 0, 0, 0,
      255, 0, 0, 255, 0, 0, 255, 0, 0, 0, 0, 0], rfl⟩
    let location (names : List String) : Location := names.map FileName.ofText
    let files := [
      (location ["art", "row.ppm"], Pixmap.Portable.encode pixmap),
      (location ["row.toml"], document.toUTF8.data)]
    let before : Workspace := { tree := { folders := [location ["art"]], files } }
    let after : Workspace := {
      tree := {
        folders := [location ["art"]]
        files := files ++ [(location ["art", "row.bpl"], #[0x4E])] } }
    FileTree.writer.Reliable ∧
      (Workspace.carryOut readers saver (.encode arguments) before).2 = after ∧
      arguments.Ends readers before.tree.read FileTree.writer before
        (.error (.file .notFound)) after := by
  intro readers saver arguments document pixmap location files before after
  have failed : (Workspace.carryOut readers saver (.encode arguments) before).1.outcome =
      .error (.file .notFound) := by
    decide +kernel +revert
  have left : (Workspace.carryOut readers saver (.encode arguments) before).2 = after := by
    decide +kernel +revert
  have ends := (ends_carryOut arguments readers saver before).1 before.tree.read
    FileTree.writer FileTree.reliable_writer
  dsimp only at ends
  change arguments.Ends readers before.tree.read FileTree.writer before
    (Workspace.carryOut readers saver (.encode arguments) before).1.outcome
    (Workspace.carryOut readers saver (.encode arguments) before).2 at ends
  rw [failed, left] at ends
  exact ⟨FileTree.reliable_writer, left, ends⟩

end ChunkyPlanar.CommandLine.EncodeArguments

import Mathlib
import ChunkyPlanar.Pixmap.Portable
import ChunkyPlanar.Proofs.Chunky.Reduction
import ChunkyPlanar.Proofs.Picture.Faults
import ChunkyPlanar.Proofs.Tool.Encoding.Stages
import ChunkyPlanar.Settings.Reader

/-! Faults of encodings that start from pixels. The colors fit, for they were read with the
slots of the same profile as the limit. What is left to refuse is the size, the depth and
the number of slots. -/

namespace ChunkyPlanar

namespace PlanarPicture

/-- What an encoding of pixels may be refused for, once they have been read for as many
slots as the profile has. -/
inductive FaultOfPixels (size : Size) (profile : Profile) : EncodingError → Prop
  | size {expected : Size} (asked : profile.requiredSize? = some expected)
      (other : size ≠ expected) :
      FaultOfPixels size profile (.planes (.wrongSize size expected))
  | shape (unfilled : ¬ size.FillsPlanes) :
      FaultOfPixels size profile (.planes (.unsupportedSize size))
  | depth {required : Nat} (outside : profile.depth < required ∨ 8 < profile.depth) :
      FaultOfPixels size profile (.planes (.depthOutOfRange profile.depth required))
  | slots (outside : profile.slots = 0 ∨ 256 < profile.slots) :
      FaultOfPixels size profile (.palette (.slotsOutOfRange profile.slots))

theorem Fault.ofPixels {pixels : Bytes} {size : Size} {profile : Profile}
    {picture : ChunkyPicture} {error : EncodingError}
    (indexed : (ChunkyPicture.ofPixels pixels size profile.slots).outcome = .ok picture)
    (fault : Fault picture profile error) : FaultOfPixels size profile error := by
  obtain ⟨sized, _⟩ := ChunkyPicture.toPixels_ofPixels indexed
  cases fault with
  | size asked other =>
      rw [sized] at other ⊢
      exact .size asked other
  | shape unfilled =>
      rw [sized] at unfilled ⊢
      exact .shape unfilled
  | depth outside => exact .depth (by omega)
  | slots outside => exact .slots outside
  | colors many =>
      have size_le := ChunkyPicture.size_palette_le_of_ofPixels indexed
      omega
  | missing used outside =>
      have inside := ChunkyPicture.within_of_ofPixels indexed _ used
      omega
  | shallow _ few enough =>
      have deeper := (Nat.pow_lt_pow_iff_right (by decide)).mp (few.trans_le enough)
      exact .depth (.inl deeper)

end PlanarPicture

namespace CommandLine.EncodeArguments

/-- What the encoding command may fail for, given what its files hold. -/
inductive Fails (arguments : EncodeArguments) (readers : Readers)
    (contents : Contents) : ToolError → Prop
  | file (error : FileError) : Fails arguments readers contents (.file error)
  | settings {reason : Reason}
      (refused : arguments.Configures readers contents (.error (.settings reason))) :
      Fails arguments readers contents (.settings reason)
  | image {reason : Reason}
      (failed : readers.image arguments.input (contents arguments.input) =
        .error reason) :
      Fails arguments readers contents (.image reason)
  | indexing {file : SettingsFile} {settings : Settings} {source : Pixmap}
      (configured : arguments.Configures readers contents (.ok file))
      (merges : file.Merges arguments.toEncodeOptions settings)
      (read : readers.image arguments.input (contents arguments.input) = .ok source)
      (many : min settings.profile.slots 256 <
        (Color.firstUses source.pixels).length) :
      Fails arguments readers contents (.indexing
        (.tooManyColors settings.profile.slots (min settings.profile.slots 256 + 1)))
  | encoding {file : SettingsFile} {settings : Settings} {source : Pixmap}
      {error : EncodingError}
      (configured : arguments.Configures readers contents (.ok file))
      (merges : file.Merges arguments.toEncodeOptions settings)
      (read : readers.image arguments.input (contents arguments.input) = .ok source)
      (fault : PlanarPicture.FaultOfPixels source.toSize settings.profile error) :
      Fails arguments readers contents (.encoding error)

variable {arguments : EncodeArguments} {readers : Readers} {contents : Contents}

theorem Configures.fails {error : ToolError}
    (failed : arguments.Configures readers contents (.error error)) :
    arguments.Fails readers contents error := by
  cases failed with
  | unreadable asked failed => exact .file _
  | garbled asked read garbled => exact .file _
  | refused asked read refused => exact .settings (.refused asked read refused)

/-- A pixmap has the bytes that its size asks for. -/
theorem fails_of_indexing {file : SettingsFile} {settings : Settings} {source : Pixmap}
    {error : ChunkyError} (configured : arguments.Configures readers contents (.ok file))
    (merges : file.Merges arguments.toEncodeOptions settings)
    (read : readers.image arguments.input (contents arguments.input) = .ok source)
    (failed : (ChunkyPicture.ofPixels source.pixels source.toSize
      settings.profile.slots).outcome = .error error) :
    arguments.Fails readers contents (.indexing error) := by
  have verdict := ChunkyPicture.verdict_outcome_ofPixels source.pixels source.toSize
    settings.profile.slots
  rw [failed] at verdict
  dsimp only [ChunkyPicture.Verdict] at verdict
  split_ifs at verdict with other many
  · exact absurd source.size_pixels other
  · cases verdict
    exact .indexing configured merges read many
  · obtain ⟨picture, equal, _⟩ := verdict
    cases equal

theorem Prepares.fails {error : ToolError} {texts : List String}
    (prepares : arguments.Prepares readers contents (.error error) texts) :
    arguments.Fails readers contents error := by
  cases prepares with
  | settings failed => exact failed.fails
  | source configured failed => exact .image failed
  | indexing configured merges read failed =>
      exact fails_of_indexing configured merges read failed
  | encoding configured merges read indexed failed =>
      have fault := PlanarPicture.fault_of_outcome failed
      exact .encoding configured merges read (fault.ofPixels indexed)

theorem fails_of_carryOut {performer : Performer (StateM Workspace)} {before : Workspace}
    {error : ToolError}
    (failed : (Tool.carryOut readers contents performer (.encode arguments)
      before).1.outcome = .error error) :
    arguments.Fails readers contents error := by
  rcases arguments.carryOut_cases readers contents performer before with
    ⟨cause, _, _, _, prepares, ended⟩ | ⟨_, _, _, _, ended⟩
  · rw [ended] at failed
    cases failed
    exact prepares.fails
  · rw [ended] at failed
    obtain ⟨cause, rfl⟩ := (arguments.deliver_deeds _ _).exists_file_of_error failed
    exact .file cause

end CommandLine.EncodeArguments

open CommandLine

/-- Pixels that have been read for the slots of a profile never fail for their colors:
the reduction keeps them in their places, and an encoding of them, also that of the
command, can only be refused for its size, its depth or its slots. -/
theorem PlanarPicture.ofChunky_ofPixels :
    (∀ (pixels : Bytes) (size : Size) (slots : Nat) (picture : ChunkyPicture),
      (ChunkyPicture.ofPixels pixels size slots).outcome = .ok picture →
      picture.palette.toList = Color.firstUses pixels ∧
      (1 ≤ slots → slots ≤ 256 → ∃ palette compaction,
        (picture.reduce slots).outcome = .ok (palette, compaction) ∧
          picture.KeepsPlaces slots palette compaction) ∧
      ∀ (profile : Profile) (error : EncodingError), profile.slots = slots →
        (ofChunky picture profile).outcome = .error error →
          FaultOfPixels size profile error) ∧
    ∀ (arguments : EncodeArguments) (readers : Readers) (contents : Contents)
      (performer : Performer (StateM Workspace)) (before : Workspace) (error : ToolError),
      (Tool.carryOut readers contents performer (.encode arguments) before).1.outcome =
        .error error →
      arguments.Fails readers contents error := by
  constructor
  · intro pixels size slots picture indexed
    refine ⟨ChunkyPicture.palette_of_ofPixels indexed,
      ChunkyPicture.exists_reduce_of_ofPixels indexed, ?_⟩
    rintro profile error rfl failed
    exact (fault_of_outcome failed).ofPixels indexed
  · intro _ _ _ _ _ _ failed
    exact EncodeArguments.fails_of_carryOut failed

/-- One plane is not enough for three colors. -/
theorem PlanarPicture.ofChunky_ofPixels_row :
    let pixels : Bytes := #[0, 0, 0, 255, 0, 0, 0, 0, 0, 0, 0, 255,
      255, 0, 0, 255, 0, 0, 255, 0, 0, 0, 0, 0]
    let picture : ChunkyPicture :=
      ⟨#[.black, ⟨255, 0, 0⟩, ⟨0, 0, 255⟩], ⟨⟨8, 1⟩, #[0, 1, 0, 2, 1, 1, 1, 0], rfl⟩⟩
    let profile : Profile := { slots := 4, depth? := some 1 }
    let error : EncodingError := .planes (.depthOutOfRange 1 2)
    let pixmap : Pixmap := ⟨⟨8, 1⟩, pixels, rfl⟩
    let readers : Readers := ⟨SettingsFile.parse, Pixmap.Portable.codec.read⟩
    let performer :=
      Workspace.performer FileTree.writer (Pixmap.Portable.codec.save FileTree.writer)
    let arguments : EncodeArguments := {
      input := .ofText "row.ppm"
      slots? := some 4
      planes? := some 1 }
    let before : Workspace := {
      tree := { files := [([.ofText "row.ppm"], Pixmap.Portable.encode pixmap)] } }
    (ChunkyPicture.ofPixels pixels ⟨8, 1⟩ 4).outcome = .ok picture ∧
      (ofChunky picture profile).outcome = .error error ∧
      (Tool.carryOut readers before.tree.read performer (.encode arguments)
        before).1.outcome = .error (.encoding error) ∧
      picture.palette.toList = Color.firstUses pixels ∧
      (∃ palette compaction, (picture.reduce 4).outcome = .ok (palette, compaction) ∧
        picture.KeepsPlaces 4 palette compaction) ∧
      FaultOfPixels ⟨8, 1⟩ profile error ∧
      arguments.Fails readers before.tree.read (.encoding error) := by
  intro pixels picture profile error pixmap readers performer arguments before
  have indexed : (ChunkyPicture.ofPixels pixels ⟨8, 1⟩ 4).outcome = .ok picture := by
    decide +kernel +revert
  have failed : (ofChunky picture profile).outcome = .error error := by
    decide +kernel +revert
  have ended : (Tool.carryOut readers before.tree.read performer (.encode arguments)
      before).1.outcome = .error (.encoding error) := by
    decide +kernel +revert
  obtain ⟨listed, reduces, faults⟩ := ofChunky_ofPixels.1 pixels ⟨8, 1⟩ 4 picture indexed
  exact ⟨indexed, failed, ended, listed, reduces (by decide) (by decide),
    faults profile error rfl failed,
    ofChunky_ofPixels.2 arguments readers before.tree.read performer before
      (.encoding error) ended⟩

end ChunkyPlanar

import Mathlib
import ChunkyPlanar.Proofs.Chunky.Reduction
import ChunkyPlanar.Proofs.Picture.Journal
import ChunkyPlanar.Proofs.Settings.Merging
import ChunkyPlanar.Proofs.Text.Utf8
import ChunkyPlanar.Proofs.Tool.Writing

/-! The stages of the encoding command up to its first file: what each of them comes to, and
what has been told by then. They are tried in order, and the first that fails gives the
error. -/

namespace ChunkyPlanar

def Settings.artifact (settings : Settings) (picture : PlanarPicture) : Artifact :=
  picture.toArtifact settings.mode settings.profile.name

namespace CommandLine.EncodeArguments

open Logged

/-- What the settings file comes to. -/
inductive Configures (arguments : EncodeArguments) (readers : Readers)
    (contents : Contents) : Except ToolError SettingsFile → Prop
  | absent (unasked : arguments.config? = none) :
      Configures arguments readers contents (.ok { })
  | unreadable {path : FilePath} {error : FileError}
      (asked : arguments.config? = some path) (failed : contents path = .error error) :
      Configures arguments readers contents (.error (.file error))
  | garbled {path : FilePath} {content : Bytes} (asked : arguments.config? = some path)
      (read : contents path = .ok content)
      (garbled : ∀ document : String, content ≠ document.toUTF8.data) :
      Configures arguments readers contents (.error (.file .invalidText))
  | refused {path : FilePath} {document : String} {reason : Reason}
      (asked : arguments.config? = some path)
      (read : contents path = .ok document.toUTF8.data)
      (refused : readers.settings document = .error reason) :
      Configures arguments readers contents (.error (.settings reason))
  | accepted {path : FilePath} {document : String} {file : SettingsFile}
      (asked : arguments.config? = some path)
      (read : contents path = .ok document.toUTF8.data)
      (accepted : readers.settings document = .ok file) :
      Configures arguments readers contents (.ok file)

def loaded (arguments : EncodeArguments) (source : Pixmap) : String :=
  s!"Loaded {arguments.input.text} ({source.text})"

/-- What an encoding tells until its picture is planar. -/
def milestones (arguments : EncodeArguments) (source : Pixmap) (profile : Profile) :
    List String :=
  [arguments.loaded source, "Starting encoding",
    PlanarPicture.completion (Color.firstUses source.pixels).length profile.depth
      (source.width.toNat / 8 * source.height.toNat)]

/-- What the stages before the first file come to, and what has been told by then. -/
inductive Prepares (arguments : EncodeArguments) (readers : Readers)
    (contents : Contents) :
    Except ToolError (Settings × PlanarPicture) → List String → Prop
  | settings {error : ToolError}
      (failed : arguments.Configures readers contents (.error error)) :
      Prepares arguments readers contents (.error error) []
  | source {file : SettingsFile} {reason : Reason}
      (configured : arguments.Configures readers contents (.ok file))
      (failed : readers.image arguments.input (contents arguments.input) =
        .error reason) :
      Prepares arguments readers contents (.error (.image reason)) []
  | indexing {file : SettingsFile} {settings : Settings} {source : Pixmap}
      {error : ChunkyError}
      (configured : arguments.Configures readers contents (.ok file))
      (merges : file.Merges arguments.toEncodeOptions settings)
      (read : readers.image arguments.input (contents arguments.input) = .ok source)
      (failed : (ChunkyPicture.ofPixels source.pixels source.toSize
        settings.profile.slots).outcome = .error error) :
      Prepares arguments readers contents (.error (.indexing error))
        [arguments.loaded source]
  | encoding {file : SettingsFile} {settings : Settings} {source : Pixmap}
      {chunky : ChunkyPicture} {error : EncodingError}
      (configured : arguments.Configures readers contents (.ok file))
      (merges : file.Merges arguments.toEncodeOptions settings)
      (read : readers.image arguments.input (contents arguments.input) = .ok source)
      (indexed : (ChunkyPicture.ofPixels source.pixels source.toSize
        settings.profile.slots).outcome = .ok chunky)
      (failed : (PlanarPicture.ofChunky chunky settings.profile).outcome =
        .error error) :
      Prepares arguments readers contents (.error (.encoding error))
        [arguments.loaded source, "Starting encoding"]
  | encoded {file : SettingsFile} {settings : Settings} {source : Pixmap}
      {chunky : ChunkyPicture} {picture : PlanarPicture}
      (configured : arguments.Configures readers contents (.ok file))
      (merges : file.Merges arguments.toEncodeOptions settings)
      (read : readers.image arguments.input (contents arguments.input) = .ok source)
      (indexed : (ChunkyPicture.ofPixels source.pixels source.toSize
        settings.profile.slots).outcome = .ok chunky)
      (encodes : (PlanarPicture.ofChunky chunky settings.profile).outcome =
        .ok picture) :
      Prepares arguments readers contents (.ok (settings, picture))
        (arguments.milestones source settings.profile)

/-- The file of the artifact; without one the artifact is printed. -/
def artifactPath? (arguments : EncodeArguments) : Mode → Option FilePath
  | .binary => some (arguments.output?.getD (arguments.input.withExtension (.ofText "bpl")))
  | .source => arguments.output?

def deeds (arguments : EncodeArguments) (settings : Settings)
    (picture : PlanarPicture) : List Deed :=
  arguments.delivery (settings.artifact picture) ::
    (settings.paletteOut?.map fun path =>
      Deed.write path picture.palette.toBytes).toList

/-- The artifact, unless it is printed, and the palette, if it is asked for. -/
def files (arguments : EncodeArguments) (settings : Settings) (picture : PlanarPicture) :
    List (FilePath × Bytes) :=
  ((arguments.artifactPath? settings.mode).map fun path =>
    (path, (settings.artifact picture).toBytes)).toList ++
  (settings.paletteOut?.map fun path => (path, picture.palette.toBytes)).toList

/-- What a plan comes to, and what it tells. -/
inductive Plans (arguments : EncodeArguments) (readers : Readers)
    (contents : Contents) : Logged ToolError (List Deed) → Prop
  | halted {error : ToolError} {texts reports : List String}
      (prepares : arguments.Prepares readers contents (.error error) texts)
      (few : reports.length ≤ 1) :
      Plans arguments readers contents
        ⟨texts.map (⟨.info, ·⟩) ++ reports.map (⟨.error, ·⟩), .error error⟩
  | ready {settings : Settings} {picture : PlanarPicture} {texts : List String}
      (prepares : arguments.Prepares readers contents (.ok (settings, picture)) texts) :
      Plans arguments readers contents
        ⟨texts.map (⟨.info, ·⟩), .ok (arguments.deeds settings picture)⟩

section Planning

variable {arguments : EncodeArguments} {readers : Readers} {contents : Contents}

theorem settingsFile_of_error {path : FilePath} {error : FileError}
    (asked : arguments.config? = some path) (failed : contents path = .error error) :
    arguments.settingsFile readers contents = .error (.file error) := by
  unfold settingsFile
  rw [asked]
  dsimp only [bind]
  rw [failed]
  rfl

theorem settingsFile_of_garbled {path : FilePath} {content : Bytes}
    (asked : arguments.config? = some path) (read : contents path = .ok content)
    (garbled : ∀ document : String, content ≠ document.toUTF8.data) :
    arguments.settingsFile readers contents = .error (.file .invalidText) := by
  have undecoded : String.fromUTF8? ⟨content⟩ = none := by
    rw [Option.eq_none_iff_forall_ne_some]
    intro document decoded
    exact garbled document (Utf8.fromUTF8?_eq_some_iff.mp decoded)
  unfold settingsFile
  rw [asked]
  dsimp only [bind]
  rw [read]
  dsimp only [Except.mapError, Except.bind]
  rw [undecoded]

theorem settingsFile_of_document {path : FilePath} {document : String}
    (asked : arguments.config? = some path)
    (read : contents path = .ok document.toUTF8.data) :
    arguments.settingsFile readers contents =
      (readers.settings document).mapError .settings := by
  unfold settingsFile
  rw [asked]
  dsimp only [bind]
  rw [read]
  dsimp only [Except.mapError, Except.bind]
  rw [Utf8.fromUTF8?_eq_some_iff.mpr rfl]

theorem Configures.settingsFile_eq {outcome : Except ToolError SettingsFile}
    (configures : arguments.Configures readers contents outcome) :
    arguments.settingsFile readers contents = outcome := by
  cases configures with
  | absent unasked =>
      unfold settingsFile
      rw [unasked]
  | unreadable asked failed => exact settingsFile_of_error asked failed
  | garbled asked read garbled => exact settingsFile_of_garbled asked read garbled
  | refused asked read refused =>
      rw [settingsFile_of_document asked read, refused]
      rfl
  | accepted asked read accepted =>
      rw [settingsFile_of_document asked read, accepted]
      rfl

theorem exists_configures (arguments : EncodeArguments) (readers : Readers)
    (contents : Contents) : ∃ outcome, arguments.Configures readers contents outcome := by
  cases asked : arguments.config? with
  | none => exact ⟨_, .absent asked⟩
  | some path =>
      cases read : contents path with
      | error error => exact ⟨_, .unreadable asked read⟩
      | ok content =>
          by_cases garbled : ∀ document : String, content ≠ document.toUTF8.data
          · exact ⟨_, .garbled asked read garbled⟩
          · obtain ⟨document, rfl⟩ : ∃ document : String,
                content = document.toUTF8.data := by
              simpa using garbled
            cases told : readers.settings document with
            | error reason => exact ⟨_, .refused asked read told⟩
            | ok file => exact ⟨_, .accepted asked read told⟩

/-- An unreadable file, bytes that are no text and a text that is no settings document are
the only faults of the settings, and without a path for them they are the defaults. -/
theorem configures_iff {outcome : Except ToolError SettingsFile} :
    arguments.Configures readers contents outcome ↔
      arguments.settingsFile readers contents = outcome := by
  constructor
  · exact Configures.settingsFile_eq
  · rintro rfl
    obtain ⟨outcome, configures⟩ := arguments.exists_configures readers contents
    rw [configures.settingsFile_eq]
    exact configures

section Encoding

variable {file : SettingsFile} {settings : Settings} {source : Pixmap}
  (configured : arguments.Configures readers contents (.ok file))
  (merges : file.Merges arguments.toEncodeOptions settings)
  (read : readers.image arguments.input (contents arguments.input) = .ok source)

include configured merges read

theorem plans_of_indexed {chunky : ChunkyPicture}
    (indexed : (ChunkyPicture.ofPixels source.pixels source.toSize
      settings.profile.slots).outcome = .ok chunky) :
    arguments.Plans readers contents
      ((info (arguments.loaded source)).bind fun _ =>
        ((PlanarPicture.ofChunky chunky settings.profile).mapError .encoding).bind
          fun picture => succeed (arguments.deeds settings picture)) := by
  obtain ⟨later, tells, starts⟩ :=
    PlanarPicture.exists_ofChunky_eq_info_bind chunky settings.profile
  have counted := ChunkyPicture.size_compaction_of_ofPixels indexed
  have listed := ChunkyPicture.palette_of_ofPixels indexed
  obtain ⟨sized, _⟩ := ChunkyPicture.toPixels_ofPixels indexed
  rw [counted, ← Array.length_toList, listed, sized] at tells
  rcases tells.cases_outcome with ⟨picture, rfl⟩ | ⟨report, error, rfl⟩
  · have encodes : (PlanarPicture.ofChunky chunky settings.profile).outcome =
        .ok picture := by
      rw [starts]
      rfl
    rw [starts]
    exact .ready (.encoded configured merges read indexed encodes)
  · have failed : (PlanarPicture.ofChunky chunky settings.profile).outcome =
        .error error := by
      rw [starts]
      rfl
    have few : [report].length ≤ 1 := le_refl _
    rw [starts]
    exact .halted (.encoding configured merges read indexed failed) few

theorem plans_of_read :
    arguments.Plans readers contents (arguments.plan readers contents) := by
  have planned : arguments.plan readers contents =
      (info (arguments.loaded source)).bind fun _ =>
        ((ChunkyPicture.ofPixels source.pixels source.toSize
          settings.profile.slots).mapError .indexing).bind fun chunky =>
        ((PlanarPicture.ofChunky chunky settings.profile).mapError .encoding).bind
          fun picture => succeed (arguments.deeds settings picture) := by
    unfold plan EncodeArguments.source
    rw [configured.settingsFile_eq, read, ← SettingsFile.merges_iff.mp merges]
    rfl
  rw [planned]
  rcases (ChunkyPicture.tells_ofPixels source.pixels source.toSize
    settings.profile.slots).cases_outcome with ⟨chunky, indexed⟩ | ⟨report, error, failed⟩
  · rw [indexed]
    exact plans_of_indexed configured merges read (congrArg outcome indexed)
  · have few : [report].length ≤ 1 := le_refl _
    rw [failed]
    exact .halted (.indexing configured merges read (congrArg outcome failed)) few

end Encoding

theorem plans_plan (arguments : EncodeArguments) (readers : Readers)
    (contents : Contents) :
    arguments.Plans readers contents (arguments.plan readers contents) := by
  have silence : ([] : List String).length ≤ 1 := Nat.zero_le _
  obtain ⟨outcome, configures⟩ := arguments.exists_configures readers contents
  have configured := configures.settingsFile_eq
  cases outcome with
  | error error =>
      have planned : arguments.plan readers contents = .silent (.error error) := by
        unfold plan
        rw [configured]
        rfl
      rw [planned]
      exact .halted (.settings configures) silence
  | ok file =>
      cases read : readers.image arguments.input (contents arguments.input) with
      | error reason =>
          have planned : arguments.plan readers contents =
              .silent (.error (.image reason)) := by
            unfold plan source
            rw [configured, read]
            rfl
          rw [planned]
          exact .halted (.source configures read) silence
      | ok source =>
          exact plans_of_read configures (SettingsFile.merges_iff.mpr rfl) read

end Planning

section Delivering

variable {arguments : EncodeArguments} {settings : Settings}

theorem delivery_eq_write {path : FilePath}
    (asked : arguments.artifactPath? settings.mode = some path) (picture : PlanarPicture) :
    arguments.delivery (settings.artifact picture) =
      .write path (settings.artifact picture).toBytes := by
  unfold artifactPath? at asked
  unfold delivery Settings.artifact PlanarPicture.toArtifact
  generalize arguments.input.withExtension (.ofText "bpl") = beside at asked ⊢
  generalize arguments.output? = output? at asked ⊢
  cases mode : settings.mode with
  | binary =>
      rw [mode] at asked
      cases asked
      cases output? with
      | none => rfl
      | some other => rfl
  | source =>
      rw [mode] at asked
      cases asked
      rfl

theorem delivery_eq_print (unasked : arguments.artifactPath? settings.mode = none)
    (picture : PlanarPicture) :
    arguments.delivery (settings.artifact picture) =
      .print (picture.toArrayText settings.profile.name) := by
  unfold delivery Settings.artifact PlanarPicture.toArtifact
  cases mode : settings.mode with
  | binary =>
      rw [mode, artifactPath?] at unasked
      simp at unasked
  | source =>
      rw [mode, artifactPath?] at unasked
      rw [unasked]

theorem deliver_deeds (arguments : EncodeArguments) (settings : Settings)
    (picture : PlanarPicture) :
    Deed.Deliver (arguments.deeds settings picture) (arguments.files settings picture) := by
  have palette : Deed.Deliver
      (settings.paletteOut?.map fun path => Deed.write path picture.palette.toBytes).toList
      (settings.paletteOut?.map fun path => (path, picture.palette.toBytes)).toList := by
    cases settings.paletteOut? with
    | none => exact .nil
    | some path => exact .write .nil
  unfold deeds files
  cases asked : arguments.artifactPath? settings.mode with
  | none =>
      rw [delivery_eq_print asked]
      exact .print palette
  | some path =>
      rw [delivery_eq_write asked]
      exact .write palette

end Delivering

/-- A command halts before its first file, or the deeds of its picture are done. -/
theorem carryOut_cases (arguments : EncodeArguments) (readers : Readers)
    (contents : Contents) (performer : Performer (StateM Workspace)) (before : Workspace) :
    (∃ error texts, ∃ reports : List String, reports.length ≤ 1 ∧
      arguments.Prepares readers contents (.error error) texts ∧
      Tool.carryOut readers contents performer (.encode arguments) before =
        (⟨texts.map (⟨.info, ·⟩) ++ reports.map (⟨.error, ·⟩), .error error⟩, before)) ∨
    ∃ settings picture texts,
      arguments.Prepares readers contents (.ok (settings, picture)) texts ∧
      Tool.carryOut readers contents performer (.encode arguments) before =
        let (result, after) :=
          Deed.performAll performer (arguments.deeds settings picture) before
        ({ result with journal := texts.map (⟨.info, ·⟩) ++ result.journal }, after) := by
  have plans := arguments.plans_plan readers contents
  generalize planned : arguments.plan readers contents = plan at plans
  have told : ((Command.encode arguments).plan readers contents).journal = plan.journal :=
    congrArg journal planned
  have came : ((Command.encode arguments).plan readers contents).outcome = plan.outcome :=
    congrArg outcome planned
  cases plans with
  | halted prepares few =>
      rw [Workspace.carryOut_of_error came, told]
      exact .inl ⟨_, _, _, few, prepares, rfl⟩
  | ready prepares =>
      rw [Workspace.carryOut_of_ok came, told]
      exact .inr ⟨_, _, _, prepares, rfl⟩

end CommandLine.EncodeArguments

end ChunkyPlanar

import Mathlib
import ChunkyPlanar.Settings

/-! Merging of settings: an option that is given wins over the settings file, and the file
wins over the defaults. -/

namespace ChunkyPlanar

namespace SettingsFile

/-- The chosen value is the one that is given, or the other one if none is. -/
inductive Chooses {α : Type} : Option α → α → α → Prop
  | given (value other : α) : Chooses (some value) other value
  | absent (value : α) : Chooses none value value

/-- Each setting is chosen on its own; the two sides of a size go together. -/
structure Merges (file : SettingsFile) (options : CommandLine.EncodeOptions)
    (settings : Settings) : Prop where
  slots : Chooses options.slots? file.profile.slots settings.profile.slots
  depth : Chooses (options.planes?.map some) file.profile.depth? settings.profile.depth?
  width : Chooses (options.size?.map fun size => some size.width) file.profile.width?
    settings.profile.width?
  height : Chooses (options.size?.map fun size => some size.height) file.profile.height?
    settings.profile.height?
  name : Chooses options.name? file.profile.name settings.profile.name
  mode : Chooses options.mode? (file.mode?.getD .binary) settings.mode
  paletteOut : Chooses (options.paletteOut?.map some) file.paletteOut? settings.paletteOut?

variable {α : Type} {option? : Option α} {other chosen : α}

theorem chooses_iff : Chooses option? other chosen ↔ option?.getD other = chosen := by
  constructor
  · intro chooses
    cases chooses with
    | given value other => rfl
    | absent value => rfl
  · rintro rfl
    cases option? with
    | none => exact .absent other
    | some value => exact .given value other

theorem orElse_eq_getD (option? other? : Option α) :
    (option? <|> other?) = (option?.map some).getD other? := by
  cases option? with
  | none => rfl
  | some value => rfl

theorem getD_orElse (option? other? : Option α) (last : α) :
    (option? <|> other?).getD last = option?.getD (other?.getD last) := by
  cases option? with
  | none => rfl
  | some value => rfl

theorem merges_iff {file : SettingsFile} {options : CommandLine.EncodeOptions}
    {settings : Settings} :
    file.Merges options settings ↔ file.withOptions options = settings := by
  unfold withOptions
  rw [getD_orElse]
  simp only [orElse_eq_getD, Option.map_map]
  constructor
  · intro merges
    obtain ⟨slots, depth, width, height, name, mode, paletteOut⟩ := merges
    obtain ⟨⟨_, _, _, _, _⟩, _, _⟩ := settings
    cases chooses_iff.mp slots
    cases chooses_iff.mp depth
    cases chooses_iff.mp width
    cases chooses_iff.mp height
    cases chooses_iff.mp name
    cases chooses_iff.mp mode
    cases chooses_iff.mp paletteOut
    rfl
  · rintro rfl
    exact ⟨chooses_iff.mpr rfl, chooses_iff.mpr rfl, chooses_iff.mpr rfl,
      chooses_iff.mpr rfl, chooses_iff.mpr rfl, chooses_iff.mpr rfl, chooses_iff.mpr rfl⟩

end SettingsFile

end ChunkyPlanar

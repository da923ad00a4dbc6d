import ChunkyPlanar.CommandLine

/-! Settings of one encoding: options of the command line win over the settings
file, and the file wins over the defaults. -/

namespace ChunkyPlanar

structure SettingsFile where
  profile : Profile := { }
  mode? : Option Mode := none
  paletteOut? : Option FilePath := none
  deriving DecidableEq, Repr

structure Settings where
  profile : Profile
  mode : Mode
  paletteOut? : Option FilePath
  deriving DecidableEq, Repr

namespace SettingsFile

def withOptions (file : SettingsFile) (options : CommandLine.EncodeOptions) :
    Settings where
  profile := {
    slots := options.slots?.getD file.profile.slots
    depth? := options.planes? <|> file.profile.depth?
    width? := options.size?.map (·.width) <|> file.profile.width?
    height? := options.size?.map (·.height) <|> file.profile.height?
    name := options.name?.getD file.profile.name }
  mode := (options.mode? <|> file.mode?).getD .binary
  paletteOut? := options.paletteOut? <|> file.paletteOut?

end SettingsFile

end ChunkyPlanar

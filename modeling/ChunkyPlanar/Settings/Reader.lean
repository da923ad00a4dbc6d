import ChunkyPlanar.Settings
import ChunkyPlanar.Toml.Reader
import ChunkyPlanar.Tool.Error

/-! Reading settings files, which are TOML documents of two tables. -/

namespace ChunkyPlanar

namespace Toml.Value

/-- The fields of a record: the entries of a table, the items of an array in the
order of the names, or none for a date. -/
def toRecord? (names : List String) : Value → Option (String → Option Value)
  | .table _ entries => some fun name => entries.lookup name
  | .array items => some fun name => (names.idxOf? name).bind (items[·]?)
  | .tables elements => some fun name =>
      (names.idxOf? name).bind fun position =>
        elements[position]?.map (.table .header)
  | .dateTime _ => some fun _ => none
  | _ => none

def toNatUpTo? (limit : Nat) : Value → Option Nat
  | .integer value =>
      if 0 ≤ value ∧ value ≤ limit then some value.toNat else none
  | _ => none

def toText? : Value → Option String
  | .string content => some content
  | _ => none

def isEmptyContainer : Value → Bool
  | .table _ entries => entries.isEmpty
  | .array items => items.isEmpty
  | .tables elements => elements.isEmpty
  | _ => false

def modeOfName? : String → Option Mode
  | "binary" => some .binary
  | "source" => some .source
  | _ => none

/-- A mode is given by its name, alone or as the one key of a table. -/
def toMode? : Value → Option Mode
  | .string name => modeOfName? name
  | .table _ [(name, content)] => do
      guard content.isEmptyContainer
      modeOfName? name
  | _ => none

/-- A field that is absent has no value, and one of the wrong kind is an error. -/
def read? (convert? : Value → Option β) : Option Value → Option (Option β)
  | none => some none
  | some value => (convert? value).map some

def toProfile? (value : Value) : Option Profile := do
  let field? ← value.toRecord? ["slots", "planes", "width", "height", "name"]
  let slots? ← read? (toNatUpTo? (UInt64.size - 1)) (field? "slots")
  let depth? ← read? (toNatUpTo? 255) (field? "planes")
  let width? ← read? (toNatUpTo? (UInt32.size - 1)) (field? "width")
  let height? ← read? (toNatUpTo? (UInt32.size - 1)) (field? "height")
  let name? ← read? toText? (field? "name")
  let base : Profile := { }
  return {
    slots := slots?.getD base.slots
    depth?
    width? := width?.map Nat.toUInt32
    height? := height?.map Nat.toUInt32
    name := name?.getD base.name }

def toOutput? (value : Value) : Option (Option Mode × Option FilePath) := do
  let field? ← value.toRecord? ["mode", "palette"]
  let mode? ← read? toMode? (field? "mode")
  let palette? ← read? toText? (field? "palette")
  return (mode?, palette?.map FilePath.ofText)

end Toml.Value

namespace SettingsFile

def parse? (document : String) : Option SettingsFile := do
  let entries ← Toml.read? document
  let profile? ← Toml.Value.read? Toml.Value.toProfile? (entries.lookup "codec")
  let output? ← Toml.Value.read? Toml.Value.toOutput? (entries.lookup "output")
  let (mode?, paletteOut?) := output?.getD (none, none)
  return { profile := profile?.getD { }, mode?, paletteOut? }

def parse (document : String) : Except Reason SettingsFile :=
  match parse? document with
  | some file => .ok file
  | none => .error { message := "the document holds no settings" }

end SettingsFile

end ChunkyPlanar

/-! Values of TOML documents, and how tables grow while a document is read. A
table is opened once, by its header, as a whole value or by dotted keys, and no
key is given twice. -/

namespace ChunkyPlanar.Toml

/-- What brought a table about: its own header, the header of a table below it,
a dotted key, or braces. -/
inductive Origin where
  | header
  | implied
  | dotted
  | braces
  deriving DecidableEq, Repr

inductive Value where
  | string (content : String)
  | integer (value : Int)
  | float (numeral : String)
  | boolean (value : Bool)
  | dateTime (numeral : String)
  | array (items : List Value)
  | table (origin : Origin) (entries : List (String × Value))
  | tables (elements : List (List (String × Value)))
  deriving Repr

abbrev Entries := List (String × Value)

namespace Entries

def replace (entries : Entries) (key : String) (value : Value) : Entries :=
  entries.map fun entry => if entry.1 = key then (key, value) else entry

/-- Dotted keys reach into tables that dotted keys or deeper headers brought
about, headers into any table but those in braces. -/
def admits (dotted : Bool) : Origin → Bool
  | .implied | .dotted => true
  | .header => !dotted
  | .braces => false

/-- Edits the table below `path`, telling whether dotted keys brought it about.
Missing tables on the way are added; of an array of tables the last is meant. -/
def editBelow (dotted : Bool) (edit : Bool → Entries → Option Entries) :
    List String → Bool → Entries → Option Entries
  | [], byDots, entries => edit byDots entries
  | key :: path, _, entries =>
      match entries.lookup key with
      | none => do
          let inner ← editBelow dotted edit path dotted []
          let origin := if dotted then Origin.dotted else .implied
          return entries ++ [(key, .table origin inner)]
      | some (.table origin inner) => do
          guard (admits dotted origin)
          let inner ← editBelow dotted edit path (origin = .dotted) inner
          return entries.replace key (.table origin inner)
      | some (.tables elements) => do
          let last ← elements.getLast?
          let last ← editBelow dotted edit path false last
          return entries.replace key (.tables (elements.dropLast ++ [last]))
      | some _ => none

/-- A dotted key does not add to a table that a header brought about, nor a
plain key to one that dotted keys brought about. -/
def addValue (path : List String) (key : String) (value : Value) :
    Entries → Option Entries :=
  editBelow true (fun byDots entries => do
    guard (byDots ≠ path.isEmpty)
    guard (entries.lookup key).isNone
    return entries ++ [(key, value)]) path false

def openTable (path : List String) (key : String) : Entries → Option Entries :=
  editBelow false (fun _ entries =>
    match entries.lookup key with
    | none => some (entries ++ [(key, .table .header [])])
    | some (.table .implied inner) =>
        some (entries.replace key (.table .header inner))
    | some _ => none) path false

def openElement (path : List String) (key : String) : Entries → Option Entries :=
  editBelow false (fun _ entries =>
    match entries.lookup key with
    | none => some (entries ++ [(key, .tables [[]])])
    | some (.tables elements) =>
        some (entries.replace key (.tables (elements ++ [[]])))
    | some _ => none) path false

/-- Adds a value below the table that the last header opened. -/
def addValueUnder (header path : List String) (key : String) (value : Value) :
    Entries → Option Entries :=
  editBelow false (fun _ entries => addValue path key value entries) header false

end Entries

end ChunkyPlanar.Toml

import ChunkyPlanar.CommandLine.Grammar

/-! Reading the whole command line: switches of the tool, a subcommand, and the
subcommand's options and operand. -/

namespace ChunkyPlanar.CommandLine

variable {δ β : Type}

/-! ### Values -/

def path (text : String) : Except Misuse FilePath :=
  if text.isEmpty then .error .invalidValue else .ok (.ofText text)

def mode : String → Except Misuse Mode
  | "binary" => .ok .binary
  | "source" => .ok .source
  | _ => .error .invalidValue

/-- A count of planes has eight bits; minus zero is zero. -/
def planes (text : String) : Except Misuse Nat :=
  match Decimal.signed? text.toList with
  | some count =>
      if 0 ≤ count ∧ count ≤ 255 then .ok count.toNat else .error .valueValidation
  | none => .error .valueValidation

def slots (text : String) : Except Misuse Nat :=
  match Decimal.upTo? (UInt64.size - 1) text.toList with
  | some count => .ok count
  | none => .error .valueValidation

def size (text : String) : Except Misuse Size :=
  (Size.parse text).mapError fun _ => .valueValidation

def name (text : String) : Except Misuse String := .ok text

/-- No value is given twice. -/
def once (read : String → Except Misuse β) (get? : δ → Option β)
    (set : δ → β → δ) : Setter δ := fun draft text =>
  if (get? draft).isSome then
    .error .argumentConflict
  else do
    return set draft (← read text)

/-! ### Subcommands -/

structure EncodeDraft extends EncodeOptions where
  input? : Option FilePath := none

def encodeOutput : Switch EncodeDraft :=
  .takes (once path (·.output?) fun draft value => { draft with output? := some value })

def encodeGrammar : Grammar EncodeDraft where
  long?
    | "output" => some encodeOutput
    | "mode" => some <| .takes <| once mode (·.mode?) fun draft value =>
        { draft with mode? := some value }
    | "palette-out" => some <| .takes <| once path (·.paletteOut?) fun draft value =>
        { draft with paletteOut? := some value }
    | "planes" => some <| .takes <| once planes (·.planes?) fun draft value =>
        { draft with planes? := some value }
    | "slots" => some <| .takes <| once slots (·.slots?) fun draft value =>
        { draft with slots? := some value }
    | "size" => some <| .takes <| once size (·.size?) fun draft value =>
        { draft with size? := some value }
    | "name" => some <| .takes <| once name (·.name?) fun draft value =>
        { draft with name? := some value }
    | "config" => some <| .takes <| once path (·.config?) fun draft value =>
        { draft with config? := some value }
    | "help" => some .help
    | _ => none
  short?
    | 'o' => some encodeOutput
    | 'h' => some .help
    | _ => none
  operand := once path (·.input?) fun draft value => { draft with input? := some value }

def readEncode (arguments : List String) : Except Stop Command := do
  let draft ← encodeGrammar.read true ⟨{ }, none, false⟩ arguments
  match draft.input? with
  | some input => return .encode { toEncodeOptions := draft.toEncodeOptions, input }
  | none => .error (.misuse .missingRequiredArgument)

structure PreviewDraft where
  blob? : Option FilePath := none
  palette? : Option FilePath := none
  size? : Option Size := none
  planes? : Option Nat := none
  output? : Option FilePath := none

def previewOutput : Switch PreviewDraft :=
  .takes (once path (·.output?) fun draft value => { draft with output? := some value })

def previewGrammar : Grammar PreviewDraft where
  long?
    | "palette" => some <| .takes <| once path (·.palette?) fun draft value =>
        { draft with palette? := some value }
    | "size" => some <| .takes <| once size (·.size?) fun draft value =>
        { draft with size? := some value }
    | "planes" => some <| .takes <| once planes (·.planes?) fun draft value =>
        { draft with planes? := some value }
    | "output" => some previewOutput
    | "help" => some .help
    | _ => none
  short?
    | 'o' => some previewOutput
    | 'h' => some .help
    | _ => none
  operand := once path (·.blob?) fun draft value => { draft with blob? := some value }

def defaultPlanes : Nat := 5

def defaultPreview : FilePath := .ofText "preview.png"

def readPreview (arguments : List String) : Except Stop Command := do
  let draft ← previewGrammar.read true ⟨{ }, none, false⟩ arguments
  match draft.blob?, draft.palette?, draft.size? with
  | some blob, some palette, some size =>
      return .preview {
        blob, palette, size
        planes := draft.planes?.getD defaultPlanes
        output := draft.output?.getD defaultPreview }
  | _, _, _ => .error (.misuse .missingRequiredArgument)

/-! ### The whole line -/

def subcommands : List String := ["encode", "preview", "help"]

/-- Help is about the tool or one subcommand. -/
def readHelp : List String → Stop
  | [] => .help
  | [topic] => if topic ∈ subcommands then .help else .misuse .invalidSubcommand
  | _ => .misuse .invalidSubcommand

def readLetters : (verbose : Bool) → List Char → Except Stop Bool
  | verbose, [] => .ok verbose
  | verbose, letter :: rest =>
      match letter with
      | 'v' =>
          if verbose then .error (.misuse .argumentConflict)
          else readLetters true rest
      | 'h' => .error .help
      | 'V' => .error .version
      | _ => .error (.misuse .unknownArgument)

def readLong (verbose : Bool) (name : String) (value? : Option String) :
    Except Stop Bool :=
  if name ∉ ["verbose", "help", "version"] then .error (.misuse .unknownArgument)
  else if value?.isSome then .error (.misuse .tooManyValues)
  else if name = "help" then .error .help
  else if name = "version" then .error .version
  else if verbose then .error (.misuse .argumentConflict)
  else .ok true

/-- A subcommand's name after `--` is an operand, and the tool takes none. -/
def readAfterSeparator (verbose : Bool) : List String → Stop
  | [] => .misuse (if verbose then .missingSubcommand else .noArguments)
  | text :: _ =>
      .misuse (if text ∈ subcommands then .unknownArgument else .invalidSubcommand)

def readFrom : (verbose : Bool) → List String → Except Stop Invocation
  | verbose, [] =>
      .error (.misuse (if verbose then .missingSubcommand else .noArguments))
  | verbose, text :: rest =>
      match text with
      | "encode" => (readEncode rest).map fun command => ⟨verbose, command⟩
      | "preview" => (readPreview rest).map fun command => ⟨verbose, command⟩
      | "help" => .error (readHelp rest)
      | _ =>
          match Argument.ofText text with
          | .separator => .error (readAfterSeparator verbose rest)
          | .long name value? => do readFrom (← readLong verbose name value?) rest
          | .short letter letters => do
              readFrom (← readLetters verbose (letter :: letters)) rest
          | .word => .error (.misuse .invalidSubcommand)

def read (arguments : List String) : Except Stop Invocation :=
  readFrom false arguments

def versionText : String := "png2planar 0.1.0\n"

def usageText : String :=
  "Convert images to planar bitplanes and an RGB12 palette\n\n" ++
  "Usage: png2planar [-v] encode <INPUT> [-o <OUTPUT>] [--mode binary|source]\n" ++
  "         [--palette-out <FILE>] [--planes <COUNT>] [--slots <COUNT>]\n" ++
  "         [--size <WIDTHxHEIGHT>] [--name <NAME>] [--config <FILE>]\n" ++
  "       png2planar [-v] preview <BLOB> --palette <FILE> --size <WIDTHxHEIGHT>\n" ++
  "         [--planes <COUNT>] [-o <OUTPUT>]\n"

def Stop.dismissal : Stop → Dismissal
  | .help => .answer usageText
  | .version => .answer versionText
  | .misuse _ => .refusal

def parse (arguments : List String) : Except Dismissal Invocation :=
  (read arguments).mapError Stop.dismissal

end ChunkyPlanar.CommandLine

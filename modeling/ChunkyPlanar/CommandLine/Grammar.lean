import ChunkyPlanar.CommandLine

/-! Options and one operand, in any order. A value follows its option, or an
equals sign after a long name, or the letter of a short name; `--` ends the
options. A value is checked when the next argument that is known comes, or at the
end, and an unknown argument is refused before that. -/

namespace ChunkyPlanar.CommandLine

inductive Misuse where
  | noArguments
  | missingSubcommand
  | invalidSubcommand
  | missingRequiredArgument
  | unknownArgument
  | argumentConflict
  | invalidValue
  | valueValidation
  | tooManyValues
  deriving DecidableEq, Repr

/-- Why the reading of a line ends early. -/
inductive Stop where
  | help
  | version
  | misuse (misuse : Misuse)
  deriving DecidableEq, Repr

variable {δ : Type}

/-- Puts a value into a draft of the arguments. -/
abbrev Setter (δ : Type) := δ → String → Except Misuse δ

inductive Switch (δ : Type) where
  | help
  | takes (setter : Setter δ)

structure Grammar (δ : Type) where
  long? : String → Option (Switch δ)
  short? : Char → Option (Switch δ)
  operand : Setter δ

structure Reading (δ : Type) where
  draft : δ
  pending? : Option (Setter δ × Option String) := none
  operandTaken : Bool := false

inductive Argument where
  | separator
  | long (name : String) (value? : Option String)
  | short (letter : Char) (rest : List Char)
  | word
  deriving DecidableEq, Repr

def Argument.ofText (text : String) : Argument :=
  match text.toList with
  | ['-', '-'] => .separator
  | '-' :: '-' :: option =>
      let name := option.takeWhile (· ≠ '=')
      let value? := match option.drop name.length with
        | [] => none
        | _ :: value => some (String.ofList value)
      .long (String.ofList name) value?
  | '-' :: letter :: rest => .short letter rest
  | _ => .word

/-- An equals sign in front of the rest of a short option is no part of its value. -/
def attached? : List Char → Option String
  | [] => none
  | '=' :: value => some (String.ofList value)
  | value => some (String.ofList value)

namespace Reading

def settle (reading : Reading δ) : Except Misuse (Reading δ) :=
  match reading.pending? with
  | none => .ok reading
  | some (_, none) => .error .invalidValue
  | some (setter, some value) => do
      return { reading with draft := ← setter reading.draft value, pending? := none }

def takeSwitch (reading : Reading δ) (switch : Switch δ) (value? : Option String) :
    Except Stop (Reading δ) := do
  let reading ← reading.settle.mapError .misuse
  match switch, value? with
  | .help, _ => .error .help
  | .takes setter, none => return { reading with pending? := some (setter, none) }
  | .takes setter, some value =>
      return { reading with
        draft := ← (setter reading.draft value).mapError .misuse }

def takeOperand (reading : Reading δ) (grammar : Grammar δ) (text : String) :
    Except Stop (Reading δ) := do
  if reading.operandTaken then
    .error (.misuse .unknownArgument)
  else
    let reading ← reading.settle.mapError .misuse
    return { reading with
      pending? := some (grammar.operand, some text), operandTaken := true }

def takeWord (reading : Reading δ) (grammar : Grammar δ) (text : String) :
    Except Stop (Reading δ) :=
  match reading.pending? with
  | some (setter, none) =>
      .ok { reading with pending? := some (setter, some text) }
  | _ => reading.takeOperand grammar text

end Reading

def Grammar.read (grammar : Grammar δ) :
    (optionsOpen : Bool) → Reading δ → List String → Except Stop δ
  | _, reading, [] => do
      return (← reading.settle.mapError .misuse).draft
  | false, reading, text :: rest => do
      grammar.read false (← reading.takeOperand grammar text) rest
  | true, reading, text :: rest =>
      match Argument.ofText text with
      | .separator => grammar.read false reading rest
      | .word => do grammar.read true (← reading.takeWord grammar text) rest
      | .long name value? =>
          match grammar.long? name with
          | none => .error (.misuse .unknownArgument)
          | some .help =>
              if value?.isSome then
                .error (.misuse .tooManyValues)
              else do
                grammar.read true (← reading.takeSwitch .help none) rest
          | some switch => do
              grammar.read true (← reading.takeSwitch switch value?) rest
      | .short letter value =>
          match grammar.short? letter with
          | none => .error (.misuse .unknownArgument)
          | some switch => do
              grammar.read true
                (← reading.takeSwitch switch (attached? value)) rest

end ChunkyPlanar.CommandLine

import ChunkyPlanar.Toml.Scalar

/-! Reading TOML documents, version 1.0. A reader takes what it reads off the
front of the text and gives it with the rest, or nothing where the text is not a
document. -/

namespace ChunkyPlanar.Toml

/-! ### Characters -/

def isSpace (c : Char) : Bool := c = ' ' || c = '\t'

/-- Control characters other than the tab stand nowhere. -/
def isPrintable (c : Char) : Bool :=
  c = '\t' || (0x20 ≤ c.toNat && c.toNat ≠ 0x7F)

def isBareKey (c : Char) : Bool := c.isAlphanum || c = '-' || c = '_'

def isScalar (c : Char) : Bool :=
  isBareKey c || c = '+' || c = '.' || c = ':'

def skipSpace (text : List Char) : List Char := text.dropWhile isSpace

/-- Skips spaces, line ends and comments. -/
def skipFiller : (inComment : Bool) → List Char → List Char
  | _, [] => []
  | inComment, c :: rest =>
      if c = '\n' then skipFiller false rest
      else if inComment then
        if isPrintable c then skipFiller true rest else c :: rest
      else if isSpace c then skipFiller false rest
      else if c = '#' then skipFiller true rest
      else c :: rest

/-- Nothing but a comment stands before the end of a line. -/
def lineEnd? (text : List Char) : Option (List Char) :=
  let text := skipSpace text
  let text := match text with
    | '#' :: comment => comment.dropWhile isPrintable
    | _ => text
  match text with
  | [] => some []
  | '\n' :: rest => some rest
  | _ => none

/-! ### Strings -/

def charOfCode? (code : Nat) : Option Char :=
  if code.isValidChar then some (Char.ofNat code) else none

def escape? : Char → Option Char
  | 'b' => some '\x08'
  | 't' => some '\t'
  | 'n' => some '\n'
  | 'f' => some '\x0c'
  | 'r' => some '\r'
  | '"' => some '"'
  | '\\' => some '\\'
  | _ => none

/-- The quotes that end a string of many lines, and up to two before them that
belong to it. -/
def closing? (quote : Char) (text : List Char) : Option (List Char × List Char) :=
  let run := (text.take 5).takeWhile (· = quote)
  if run.length < 3 then none else some (run.drop 3, text.drop run.length)

/-- Where the reading of a string with escapes stands. -/
inductive Escape where
  | plain
  | backslash
  | code (missing value : Nat)
  | lineEnding
  | trimming
  deriving DecidableEq

/-- Reads to the closing quotes. A backslash at the end of a line takes the
blanks and line ends after it away. -/
def escapedString? (manyLines : Bool) :
    Escape → List Char → Option (List Char × List Char)
  | _, [] => none
  | .backslash, c :: rest =>
      if c = 'u' then escapedString? manyLines (.code 4 0) rest
      else if c = 'U' then escapedString? manyLines (.code 8 0) rest
      else match escape? c with
        | some escaped => do
            let (content, rest) ← escapedString? manyLines .plain rest
            return (escaped :: content, rest)
        | none => do
            guard manyLines
            if c = '\n' then escapedString? manyLines .trimming rest
            else if isSpace c then escapedString? manyLines .lineEnding rest
            else none
  | .code missing value, c :: rest => do
      let value := 16 * value + (← digitValue? 16 c)
      if missing = 1 then
        let escaped ← charOfCode? value
        let (content, rest) ← escapedString? manyLines .plain rest
        return (escaped :: content, rest)
      else
        escapedString? manyLines (.code (missing - 1) value) rest
  | .lineEnding, c :: rest =>
      if c = '\n' then escapedString? manyLines .trimming rest
      else if isSpace c then escapedString? manyLines .lineEnding rest
      else none
  | state, c :: rest =>
      if state = .trimming ∧ (isSpace c ∨ c = '\n') then
        escapedString? manyLines .trimming rest
      else if c = '\\' then
        escapedString? manyLines .backslash rest
      else if c = '"' ∧ !manyLines then
        some ([], rest)
      else match if c = '"' then closing? '"' (c :: rest) else none with
        | some closing => some closing
        | none => do
            guard (isPrintable c ∨ (manyLines ∧ c = '\n'))
            let (content, rest) ← escapedString? manyLines .plain rest
            return (c :: content, rest)

def literalString? (manyLines : Bool) :
    List Char → Option (List Char × List Char)
  | [] => none
  | c :: rest =>
      if c = '\'' ∧ !manyLines then
        some ([], rest)
      else match if c = '\'' then closing? '\'' (c :: rest) else none with
        | some closing => some closing
        | none => do
            guard (isPrintable c ∨ (manyLines ∧ c = '\n'))
            let (content, rest) ← literalString? manyLines rest
            return (c :: content, rest)

/-- A line end right after the opening quotes is no content. -/
def afterOpening : List Char → List Char
  | '\n' :: rest => rest
  | text => text

def string? (text : List Char) : Option (String × List Char) := do
  let (content, rest) ← match text with
    | '"' :: '"' :: '"' :: rest => escapedString? true .plain (afterOpening rest)
    | '"' :: rest => escapedString? false .plain rest
    | '\'' :: '\'' :: '\'' :: rest => literalString? true (afterOpening rest)
    | '\'' :: rest => literalString? false rest
    | _ => none
  return (String.ofList content, rest)

/-! ### Keys -/

def key? (text : List Char) : Option (String × List Char) :=
  match text with
  | '"' :: rest => do
      let (content, rest) ← escapedString? false .plain rest
      return (String.ofList content, rest)
  | '\'' :: rest => do
      let (content, rest) ← literalString? false rest
      return (String.ofList content, rest)
  | _ => do
      let bare := text.takeWhile isBareKey
      guard !bare.isEmpty
      return (String.ofList bare, text.drop bare.length)

/-- Keys and values nest less deep than this. -/
def depthLimit : Nat := 80

/-- Keys joined by dots, the last of them apart. -/
def keyPath? : (most : Nat) → List Char → Option ((List String × String) × List Char)
  | 0, _ => none
  | most + 1, text => do
      let (key, rest) ← key? (skipSpace text)
      match skipSpace rest with
      | '.' :: rest => do
          let ((path, last), rest) ← keyPath? most rest
          return ((key :: path, last), rest)
      | rest => return (([], key), rest)

/-! ### Values -/

def scalarValue? (text : List Char) : Option (Value × List Char) := do
  let numeral := text.takeWhile isScalar
  let rest := text.drop numeral.length
  let withTime := match rest with
    | ' ' :: time => numeral ++ ' ' :: time.takeWhile isScalar
    | _ => numeral
  if isDate numeral ∧ isDateTime withTime then
    return (.dateTime (String.ofList withTime), text.drop withTime.length)
  else
    return (← scalar? numeral, rest)

/-- The items of an array up to its bracket; a comma may follow the last. -/
def items? (item? : List Char → Option (Value × List Char)) :
    (most : Nat) → List Char → Option (List Value × List Char)
  | 0, _ => none
  | most + 1, text =>
      match skipFiller false text with
      | ']' :: rest => some ([], rest)
      | text => do
          let (item, rest) ← item? text
          match skipFiller false rest with
          | ']' :: rest => return ([item], rest)
          | ',' :: rest => do
              let (items, rest) ← items? item? most rest
              return (item :: items, rest)
          | _ => none

def keyValue? (value? : List Char → Option (Value × List Char))
    (text : List Char) : Option ((List String × String × Value) × List Char) := do
  let ((path, key), rest) ← keyPath? (depthLimit - 1) text
  let rest ← mark? '=' rest
  let (value, rest) ← value? (skipSpace rest)
  return ((path, key, value), skipSpace rest)

/-- The entries in braces; every comma has an entry after it. -/
def braceEntries? (value? : List Char → Option (Value × List Char)) :
    (most : Nat) → Entries → List Char → Option (Entries × List Char)
  | 0, _, _ => none
  | most + 1, entries, text => do
      let ((path, key, value), rest) ← keyValue? value? text
      let entries ← entries.addValue path key value
      match rest with
      | '}' :: rest => return (entries, rest)
      | ',' :: rest => braceEntries? value? most entries rest
      | _ => none

def value? : (depth : Nat) → List Char → Option (Value × List Char)
  | 0, '[' :: _ => none
  | 0, '{' :: _ => none
  | depth + 1, '[' :: rest => do
      let (items, rest) ← items? (value? depth) (rest.length + 1) rest
      return (.array items, rest)
  | depth + 1, '{' :: rest =>
      match skipSpace rest with
      | '}' :: rest => some (.table .braces [], rest)
      | rest => do
          let (entries, rest) ←
            braceEntries? (value? depth) (rest.length + 1) [] rest
          return (.table .braces entries, rest)
  | _, '"' :: rest => (string? ('"' :: rest)).map fun read => (.string read.1, read.2)
  | _, '\'' :: rest => (string? ('\'' :: rest)).map fun read => (.string read.1, read.2)
  | _, text => scalarValue? text

/-! ### Documents -/

/-- Reads line after line; `header` names the table that the last header opened. -/
def lines? : (most : Nat) → (header : List String) → Entries → List Char →
    Option Entries
  | 0, _, _, _ => none
  | most + 1, header, entries, text =>
      match skipSpace text with
      | [] => some entries
      | '[' :: '[' :: rest => do
          let ((path, key), rest) ← keyPath? (depthLimit - 1) rest
          let rest ← lineEnd? (← mark? ']' (← mark? ']' rest))
          lines? most (path ++ [key]) (← entries.openElement path key) rest
      | '[' :: rest => do
          let ((path, key), rest) ← keyPath? (depthLimit - 1) rest
          let rest ← lineEnd? (← mark? ']' rest)
          lines? most (path ++ [key]) (← entries.openTable path key) rest
      | text =>
          match lineEnd? text with
          | some rest => lines? most header entries rest
          | none => do
              let ((path, key, value), rest) ← keyValue? (value? (depthLimit - 1)) text
              let rest ← lineEnd? rest
              lines? most header (← entries.addValueUnder header path key value) rest

/-- A carriage return belongs to the line end after it. -/
def joinLineEnds : List Char → List Char
  | '\r' :: '\n' :: rest => '\n' :: joinLineEnds rest
  | c :: rest => c :: joinLineEnds rest
  | [] => []

def skipByteOrderMark : List Char → List Char
  | '\uFEFF' :: text => text
  | text => text

def read? (document : String) : Option Entries :=
  let text := joinLineEnds (skipByteOrderMark document.toList)
  lines? (text.length + 1) [] [] text

end ChunkyPlanar.Toml

/-! UTF-8 as it is shown. Bytes that need not be a text are read character by character,
and one replacement character stands for each start of a character that breaks off. -/

namespace ChunkyPlanar.Utf8

def replacement : Char := '\uFFFD'

/-- A character of which some bytes are missing, with bounds for the next of them. The
bounds keep out what takes more bytes than it needs, surrogates, and what is too large. -/
structure Opening where
  missing : Nat
  least : UInt8 := 0x80
  greatest : UInt8 := 0xBF
  value : Nat
  deriving DecidableEq, Repr

/-- What a byte gives where a character starts, and the character that it opens. -/
def start (byte : UInt8) : List Char × Option Opening :=
  if byte < 0x80 then
    ([Char.ofNat byte.toNat], none)
  else if 0xC2 ≤ byte ∧ byte < 0xE0 then
    ([], some { missing := 1, value := byte.toNat % 32 })
  else if 0xE0 ≤ byte ∧ byte < 0xF0 then
    ([], some {
      missing := 2
      least := if byte = 0xE0 then 0xA0 else 0x80
      greatest := if byte = 0xED then 0x9F else 0xBF
      value := byte.toNat % 16 })
  else if 0xF0 ≤ byte ∧ byte < 0xF5 then
    ([], some {
      missing := 3
      least := if byte = 0xF0 then 0x90 else 0x80
      greatest := if byte = 0xF4 then 0x8F else 0xBF
      value := byte.toNat % 8 })
  else
    ([replacement], none)

def Opening.next (opening : Opening) (byte : UInt8) : List Char × Option Opening :=
  let value := opening.value * 64 + byte.toNat % 64
  if opening.missing = 1 then
    ([Char.ofNat value], none)
  else
    ([], some { missing := opening.missing - 1, value })

/-- A byte out of bounds breaks the open character off and starts another one. -/
def step (opening? : Option Opening) (byte : UInt8) : List Char × Option Opening :=
  match opening? with
  | none => start byte
  | some opening =>
      if opening.least ≤ byte ∧ byte ≤ opening.greatest then
        opening.next byte
      else
        let (characters, opened?) := start byte
        (replacement :: characters, opened?)

def characters (opening? : Option Opening) : List UInt8 → List Char
  | [] => if opening?.isSome then [replacement] else []
  | byte :: rest =>
      let (completed, opened?) := step opening? byte
      completed ++ characters opened? rest

def shown (bytes : List UInt8) : String := String.ofList (characters none bytes)

end ChunkyPlanar.Utf8

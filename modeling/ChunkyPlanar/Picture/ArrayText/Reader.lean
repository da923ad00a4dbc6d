import ChunkyPlanar.Text.Decimal
import ChunkyPlanar.Text.Hexadecimal

/-! A reader of array text that knows its punctuation only. An array goes from the line
that opens it to the line that closes it, and the lines between them list literals. -/

namespace ChunkyPlanar.ArrayText

abbrev Line := List Char

/-- Behind the last line feed stands one more line, be it empty. -/
def readLines (text : String) : List Line := text.toList.splitOn '\n'

def isIndented (line : Line) : Bool := [' ', ' ', ' ', ' '].isPrefixOf line

/-- The declaration of an array and its count, which stand before the opening brace. -/
def opening? (line : Line) : Option (List Char × Nat) :=
  match line.reverse with
  | '\x7b' :: ' ' :: '=' :: ' ' :: ']' :: front =>
      match front.dropWhile Char.isDigit with
      | '[' :: declaration =>
          (Decimal.digits? (front.takeWhile Char.isDigit).reverse).map fun count =>
            (declaration.reverse, count)
      | _ => none
  | _ => none

def isClosing (line : Line) : Bool := line = ['\x7d', ';']

/-- An array as it stands in the text. -/
structure Passage where
  declaration : List Char
  declared : Nat
  body : List Line
  deriving DecidableEq, Repr

def passages : List Line → List Passage
  | [] => []
  | line :: rest =>
      match opening? line with
      | some (declaration, declared) =>
          ⟨declaration, declared, rest.takeWhile (!isClosing ·)⟩ :: passages rest
      | none => passages rest

/-- All lines between an opening and its closing line. -/
def dataLines (text : String) : List Line :=
  (passages (readLines text)).flatMap (·.body)

def literal? : List Char → Option Nat
  | '0' :: 'x' :: digits => Hexadecimal.number? digits
  | _ => none

/-- Each literal has a comma behind it and may have blanks before it. -/
def literals? (line : Line) : Option (List Nat) :=
  match ((line.splitOn ',').map (·.dropWhile (· = ' '))).reverse with
  | [] :: literals => literals.reverse.mapM literal?
  | _ => none

/-- An array with the values of its literals, line by line. -/
structure Listing where
  declaration : List Char
  declared : Nat
  rows : List (List Nat)
  deriving DecidableEq, Repr

namespace Listing

def ofPassage? (passage : Passage) : Option Listing :=
  (passage.body.mapM literals?).map fun rows =>
    ⟨passage.declaration, passage.declared, rows⟩

def values (listing : Listing) : List Nat := listing.rows.flatten

end Listing

def listings? (text : String) : Option (List Listing) :=
  (passages (readLines text)).mapM Listing.ofPassage?

end ChunkyPlanar.ArrayText

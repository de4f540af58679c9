/-
This file defines sets of characters as regular expressions write them.
-/

import DocBlocks.Text.Blank
import DocBlocks.Text.CaseFold
import DocBlocks.Text.Letter

namespace DocBlocks.Regex

inductive CharClass where
  | nothing
  | range (first last : Char)
  | blank
  | digit
  | word
  /-- The characters with a property of which there is a table. -/
  | table (codes : Text.Ranges)
  | complement (inner : CharClass)
  | union (left right : CharClass)
  | intersection (left right : CharClass)
  | difference (left right : CharClass)
  | symmetricDifference (left right : CharClass)
  /-- The characters equal up to case to one of the inner class. -/
  | caseless (inner : CharClass)
  /-- The same, where only the letters of ASCII have case. -/
  | asciiCaseless (inner : CharClass)
deriving DecidableEq, Repr

namespace CharClass

/-- The other case of a letter of ASCII. -/
def otherCase (character : Char) : Char :=
  if character.isLower then character.toUpper else character.toLower

def contains : CharClass → Char → Bool
  | nothing, _ => false
  | range first last, character => first ≤ character && character ≤ last
  | blank, character => Text.isBlank character
  | digit, character => Text.isDigit character
  | word, character => Text.isWord character
  | table codes, character => Text.Ranges.contains codes character
  | complement inner, character => !inner.contains character
  | union left right, character => left.contains character || right.contains character
  | intersection left right, character => left.contains character && right.contains character
  | difference left right, character => left.contains character && !right.contains character
  | symmetricDifference left right, character =>
    left.contains character != right.contains character
  | caseless inner, character => (Text.caseOrbit character).any inner.contains
  | asciiCaseless inner, character =>
    inner.contains character || inner.contains (otherCase character)

def single (character : Char) : CharClass :=
  range character character

def unionOf (classes : List CharClass) : CharClass :=
  classes.foldr union nothing

def ofChars (characters : List Char) : CharClass :=
  unionOf (characters.map single)

def ofRanges (ranges : List (Char × Char)) : CharClass :=
  unionOf (ranges.map fun (first, last) => range first last)

/-- Adds the code points that are equal up to case to one of the table. -/
def foldCodes (codes : Text.Ranges) : Text.Ranges :=
  let touched := Text.orbits.filter (·.any codes.covers)
  codes.union (.ofList (touched.flatten.map fun code => (code, code)))

/-- The code points from one letter of ASCII to another. -/
def letterCodes (first last : Char) (codes : Text.Ranges) : List (Nat × Nat) :=
  (codes.intersection #[(first.toNat, last.toNat)]).toList

/-- Adds the other case of the letters of ASCII. -/
def foldAsciiCodes (codes : Text.Ranges) : Text.Ranges :=
  let capitals := (letterCodes 'a' 'z' codes).map fun (first, last) => (first - 32, last - 32)
  let small := (letterCodes 'A' 'Z' codes).map fun (first, last) => (first + 32, last + 32)
  codes.union (.ofList (capitals ++ small))

/-- The code points of the characters of a class. -/
def codes : CharClass → Text.Ranges
  | nothing => #[]
  | range first last => if first ≤ last then #[(first.toNat, last.toNat)] else #[]
  | blank => Text.blankRanges
  | digit => Text.digitRanges
  | word => Text.wordRanges
  | table codes => codes
  | complement inner => inner.codes.complement
  | union left right => left.codes.union right.codes
  | intersection left right => left.codes.intersection right.codes
  | difference left right => left.codes.difference right.codes
  | symmetricDifference left right =>
    (left.codes.union right.codes).difference (left.codes.intersection right.codes)
  | caseless inner => foldCodes inner.codes
  | asciiCaseless inner => foldAsciiCodes inner.codes

end CharClass

end DocBlocks.Regex

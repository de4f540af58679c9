/-
This file defines the modes a regular expression is read in and the ways in which its text can be
wrong.
-/

import DocBlocks.Regex.Basic

namespace DocBlocks.Regex

inductive ParseError where
  | unclosedGroup
  | unopenedGroup
  | unclosedClass
  | invalidRange
  | notALiteral
  | nothingToRepeat
  | unclosedCount
  | missingCount
  | countOutOfRange
  | countsOutOfOrder
  | unfinishedEscape
  | unknownEscape
  | invalidCodePoint
  | backreference
  | lookAround
  | invalidGroupName
  | duplicateGroupName
  | invalidFlags
  | unknownProperty
  | invalidUnicode
  | tooDeep
  | tooLarge
deriving DecidableEq, Repr

/-- The flags in force at a place of the expression. -/
structure Mode where
  caseless : Bool := false
  multiLine : Bool := false
  dotAll : Bool := false
  lazyFirst : Bool := false
  returns : Bool := false
  spaced : Bool := false
  unicode : Bool := true
deriving DecidableEq, Repr

namespace Mode

/-- Skips blanks and comments. A comment goes on to the end of its line. -/
def skipSpaced : (inComment : Bool) → List Char → List Char
  | _, [] => []
  | true, character :: rest => skipSpaced (character != '\n') rest
  | false, character :: rest =>
    if Text.isBlank character then skipSpaced false rest
    else if character = '#' then skipSpaced true rest
    else character :: rest

/-- Skips blanks and comments, where they do not count. -/
def skip (mode : Mode) (input : List Char) : List Char :=
  if mode.spaced then skipSpaced false input else input

/-- Takes characters of a kind, and what is skipped between them. -/
def takeWhile (mode : Mode) (isMember : Char → Bool) : (fuel : Nat) → List Char →
    List Char × List Char
  | 0, input => ([], input)
  | _, [] => ([], [])
  | fuel + 1, character :: rest =>
    if isMember character then
      let (taken, rest) := takeWhile mode isMember fuel (mode.skip rest)
      (character :: taken, rest)
    else ([], character :: rest)

def setFlag (mode : Mode) (flag : Char) (value : Bool) : Option Mode :=
  match flag with
  | 'i' => some { mode with caseless := value }
  | 'm' => some { mode with multiLine := value }
  | 's' => some { mode with dotAll := value }
  | 'U' => some { mode with lazyFirst := value }
  | 'R' => some { mode with returns := value }
  | 'x' => some { mode with spaced := value }
  | 'u' => some { mode with unicode := value }
  | _ => none

def fold (mode : Mode) (set : CharClass) : CharClass :=
  if !mode.caseless then set else if mode.unicode then .caseless set else .asciiCaseless set

/-- The characters that a character stands for, if it does not stand for itself alone. -/
def variants? (mode : Mode) (character : Char) : Option CharClass :=
  let hasVariants :=
    if mode.unicode then 1 < (Text.caseOrbit character).length else character.isAlpha
  if mode.caseless && hasVariants then some (mode.fold (.single character)) else none

/-- The characters outside of a class. Without Unicode they could split a character. -/
def complement (mode : Mode) (set : CharClass) : Except ParseError CharClass :=
  if mode.unicode then .ok (.complement set) else .error .invalidUnicode

/-- A class with its sign. -/
def signed (mode : Mode) (negative : Bool) (set : CharClass) : Except ParseError CharClass :=
  if negative then mode.complement set else .ok set

def lineStart (mode : Mode) : Assertion :=
  if !mode.multiLine then .textStart else if mode.returns then .returnLineStart else .lineStart

def lineEnd (mode : Mode) : Assertion :=
  if !mode.multiLine then .textEnd else if mode.returns then .returnLineEnd else .lineEnd

/-- The characters that a dot stands for. -/
def dot (mode : Mode) : Except ParseError CharClass :=
  mode.complement
    (if mode.dotAll then .nothing
    else if mode.returns then .ofChars ['\n', '\r']
    else .single '\n')

end Mode

end DocBlocks.Regex

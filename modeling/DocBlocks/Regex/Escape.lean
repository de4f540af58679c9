/-
This file reads what follows a backslash in a regular expression.
-/

import DocBlocks.Regex.Mode
import DocBlocks.Regex.Property

namespace DocBlocks.Regex

inductive Atom where
  | literal (character : Char)
  | set (set : CharClass)
  | assertion (assertion : Assertion)

namespace Escape

def hexValue? (character : Char) : Option Nat :=
  if '0' ≤ character && character ≤ '9' then some (character.toNat - '0'.toNat)
  else if 'a' ≤ character && character ≤ 'f' then some (character.toNat - 'a'.toNat + 10)
  else if 'A' ≤ character && character ≤ 'F' then some (character.toNat - 'A'.toNat + 10)
  else none

def isHex (character : Char) : Bool :=
  (hexValue? character).isSome

def hexNumber (digits : List Char) : Nat :=
  digits.foldl (fun value digit => value * 16 + (hexValue? digit).getD 0) 0

/-- Reads digits of a number. Without braces there are as many as `count`. -/
def hexDigits (mode : Mode) (count : Nat) (input : List Char) :
    Except ParseError (Nat × List Char) :=
  match input with
  | [] => .error .unfinishedEscape
  | '{' :: rest =>
    match mode.takeWhile isHex rest.length (mode.skip rest) with
    | (digits, '}' :: rest) =>
      if digits.isEmpty then .error .invalidCodePoint else .ok (hexNumber digits, mode.skip rest)
    | _ => .error .unfinishedEscape
  | input =>
    let (digits, rest) := mode.takeWhile isHex count input
    if digits.length < count then .error .invalidCodePoint else .ok (hexNumber digits, rest)

/-- Reads the code of a character after `\x`, `\u` or `\U`. Without Unicode two digits stand for a
byte, which could be a part of a character only. -/
def hexadecimal (mode : Mode) (count : Nat) (input : List Char) :
    Except ParseError (Atom × List Char) := do
  let digits := mode.skip input
  let (code, rest) ← hexDigits mode count digits
  if !code.isValidChar then .error .invalidCodePoint
  else if !mode.unicode && 0x7F < code && count == 2 && digits.head? != some '{' then
    .error .invalidUnicode
  else .ok (.literal (Char.ofNat code), rest)

/-- Reads the name of a character property after `\p` or `\P`. -/
def property (mode : Mode) (negative : Bool) (input : List Char) :
    Except ParseError (Atom × List Char) := do
  let (description, rest) ←
    match mode.skip input with
    | [] => .error .unfinishedEscape
    | '{' :: rest =>
      match mode.takeWhile (· != '}') rest.length (mode.skip rest) with
      | (description, _ :: rest) => .ok (description, rest)
      | (_, []) => .error .unfinishedEscape
    | letter :: rest => .ok ([letter], rest)
  if !mode.unicode then .error .invalidUnicode
  match Property.find? description with
  | none => .error .unknownProperty
  | some codes => .ok (.set (← mode.signed negative (mode.fold (.table codes))), rest)

def asciiDigit : CharClass :=
  .range '0' '9'

def asciiBlank : CharClass :=
  .ofChars ['\t', '\n', '\x0b', '\x0c', '\r', ' ']

def asciiWord : CharClass :=
  .ofRanges [('0', '9'), ('A', 'Z'), ('_', '_'), ('a', 'z')]

/-- The classes named by a letter, and their complements by the capital. -/
def shorthand? (mode : Mode) (letter : Char) : Option (Except ParseError CharClass) :=
  let signed (unicode ascii : CharClass) :=
    some (mode.signed letter.isUpper (if mode.unicode then unicode else ascii))
  match letter.toLower with
  | 'd' => signed .digit asciiDigit
  | 's' => signed .blank asciiBlank
  | 'w' => signed .word asciiWord
  | _ => none

def isBoundaryLetter (character : Char) : Bool :=
  character.isAlpha || character == '-'

/-- Reads `{start}` and its like after `\b`. Other braces are left for a repetition. -/
def boundary (mode : Mode) (input : List Char) : Except ParseError (Edge × List Char) :=
  match input with
  | '{' :: rest =>
    match mode.takeWhile isBoundaryLetter rest.length (mode.skip rest) with
    | ([], []) => .error .unclosedCount
    | ([], _) => .ok (.boundary, input)
    | (name, '}' :: after) =>
      match String.ofList name with
      | "start" => .ok (.start, after)
      | "end" => .ok (.stop, after)
      | "start-half" => .ok (.startHalf, after)
      | "end-half" => .ok (.stopHalf, after)
      | _ => .error .unknownEscape
    | _ => .error .unclosedCount
  | _ => .ok (.boundary, input)

/-- Punctuation, blanks and controls of ASCII stand for themselves after a backslash. -/
def isEscapable (character : Char) : Bool :=
  character.toNat < 0x80 && !character.isAlphanum && character != '<' && character != '>'

/-- Reads an escape after its backslash. -/
def parse (mode : Mode) (input : List Char) : Except ParseError (Atom × List Char) :=
  let word (edge : Edge) := Atom.assertion (.word edge (!mode.unicode))
  match input with
  | [] => .error .unfinishedEscape
  | letter :: rest =>
    if letter.isDigit then .error .backreference
    else if letter = 'x' then hexadecimal mode 2 rest
    else if letter = 'u' then hexadecimal mode 4 rest
    else if letter = 'U' then hexadecimal mode 8 rest
    else if letter = 'p' || letter = 'P' then property mode (letter == 'P') rest
    else
      match shorthand? mode letter with
      | some set => set.map fun set => (.set set, rest)
      | none =>
        if isEscapable letter then .ok (.literal letter, rest)
        else
          match letter with
          | 'a' => .ok (.literal '\x07', rest)
          | 'f' => .ok (.literal '\x0c', rest)
          | 't' => .ok (.literal '\t', rest)
          | 'n' => .ok (.literal '\n', rest)
          | 'r' => .ok (.literal '\r', rest)
          | 'v' => .ok (.literal '\x0b', rest)
          | 'A' => .ok (.assertion .textStart, rest)
          | 'z' => .ok (.assertion .textEnd, rest)
          | 'b' => (boundary mode rest).map fun (edge, rest) => (word edge, rest)
          | 'B' => .ok (word .interior, rest)
          | '<' => .ok (word .start, rest)
          | '>' => .ok (word .stop, rest)
          | _ => .error .unknownEscape

end Escape

end DocBlocks.Regex

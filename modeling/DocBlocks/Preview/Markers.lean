/-
This file removes comment markers from the raw text of a block.
-/

import DocBlocks.Family
import DocBlocks.Text.Basic
import DocBlocks.Text.Blank
import DocBlocks.Text.Search

namespace DocBlocks.Family

def doubleQuotes : Text := ['"', '"', '"']

def singleQuotes : Text := ['\'', '\'', '\'']

def isStringLetter (character : Char) : Bool :=
  ['r', 'R', 'u', 'U', 'b', 'B', 'f', 'F'].contains character

/-- The quotes that open a string, after white space and at most two letters, and what follows. -/
def openingQuotes? (line : Text) : Option (Text × Text) :=
  let body := line.trimStart
  let letters := body.takeWhile isStringLetter
  let quotes := body.dropWhile isStringLetter
  if letters.length ≤ 2 then
    match Text.after? doubleQuotes quotes with
    | some rest => some (doubleQuotes, rest)
    | none => (Text.after? singleQuotes quotes).map fun rest => (singleQuotes, rest)
  else none

/-- What stands before the first three quotes of either kind. -/
def beforeQuotes (line : Text) : Text :=
  let double := Text.before doubleQuotes line
  let single := Text.before singleQuotes line
  if double.length ≤ single.length then double else single

/-- Quotes of the kind that opened the string close it; without an opening any do. -/
def stripQuotes (raw : Text) : List Text :=
  match raw.lines with
  | [] => []
  | first :: others =>
    match openingQuotes? first with
    | some (quotes, rest) => Text.before quotes rest :: others.map (Text.before quotes)
    | none => beforeQuotes first :: others.map beforeQuotes

def isStar (character : Char) : Bool :=
  character == '*'

def dropStars (text : Text) : Text :=
  text.dropWhile isStar

def dropStarsAtEnd (text : Text) : Text :=
  (text.reverse.dropWhile isStar).reverse

/-- What is documentation on one line of a block comment: what follows the opening, up to the
closing, without the star in front. -/
def stripCommentLine (line : Text) : Text :=
  let trimmed := line.trimStart
  let opened := Text.after? ['/', '*', '*'] trimmed
  let body := opened.getD trimmed
  let body := match Text.cutAt? ['*', '/'] body with
    | some (inside, _) => dropStarsAtEnd inside
    | none => body
  let body := if opened.isSome then dropStars body else body
  match body.trimStart with
  | '*' :: rest => rest
  | _ => body

def stripSlashes (line : Text) : Text :=
  let trimmed := line.trimStart
  match Text.after? ['/', '/', '/'] trimmed with
  | some rest => rest
  | none => (Text.after? ['/', '/', '!'] trimmed).getD trimmed

/-- The lines of a block without comment markers. -/
def stripMarkers (family : Family) (raw : Text) : List Text :=
  match family with
  | tripleQuote => stripQuotes raw
  | blockComment => raw.lines.map stripCommentLine
  | linePrefix => raw.lines.map stripSlashes

end DocBlocks.Family
